import Mathlib.Algebra.Order.BigOperators.Group.List
import ZdtmSync.WireFormat

/-!
# The wire in the two byte orders

A WORDS_BIGENDIAN build swaps most of its numbers before it writes them, but the
body size and the checksum of the wire message are copied as they lie in memory.
The two builds send the same bytes only when these two numbers read the same in
both directions, that is, when they are multiples of 257.
-/

namespace ZdtmByteOrder

open LittleEndian CMemory ZdtmTypes ZdtmCommon ZdtmDesktopMsg ZdtmMsgs ZdtmWriters
open ZdtmPrepare ZdtmNet ZdtmDelivery ZdtmWireFormat

/-- Some build prepares the message with 0. -/
def Accepted (msg : ZdtmMsg) : Prop :=
  ∃ b heap msg' heap', zdtmPrepareMessage b msg heap = .ok ((0, msg'), heap')

/-- With the same heap the two builds build the same wire message. -/
def WiresAgree (msg : ZdtmMsg) : Prop :=
  ∀ heap, heap.Unlimited → ∃ wire,
    BuildsWire .littleEndian msg heap wire ∧ BuildsWire .bigEndian msg heap wire

theorem hostShort_agree_iff (x : UInt16) :
    hostShort .littleEndian x = hostShort .bigEndian x ↔ x.toNat % 257 = 0 := by
  have hlt : x.toNat < 65536 := x.toNat_lt
  have hhigh : x.toNat / 256 % 2 ^ 8 = x.toNat / 256 := Nat.mod_eq_of_lt (by omega)
  have hsplit : x.toNat = 256 * (x.toNat / 256) + x.toNat % 2 ^ 8 := (Nat.div_add_mod ..).symm
  simp only [hostShort, bytes_two, List.reverse_cons, List.reverse_nil, List.nil_append,
    List.singleton_append, List.cons.injEq, and_true, ← UInt8.toNat_inj, UInt8.toNat_ofNat',
    hhigh]
  constructor
  · rintro ⟨h, -⟩
    omega
  · intro h
    omega

section Builds

variable {b b' : Build} {t : DesktopType} {msg : ZdtmMsg} {written written' : Written}
  {heap : Heap} {garbage : Nat → UInt8}

/-- The writers of the two builds differ in no length. -/
theorem contentWrite_build {cont : SpecTypeContent} (hw : contentWrite b t cont = .ok written)
    (hw' : contentWrite b' t cont = .ok written') :
    written'.bytes.length = written.bytes.length ∧ written'.null = written.null := by
  by_cases hrdw : t = .rdw
  · subst hrdw
    rcases rdw_cases cont.rdw with hi | ⟨hv, hs⟩ | hv | hv
    · have hr := not_unreadable_of_ok hw hi
      rw [contentWrite, zdtmRdwWrite_item _ hi hr] at hw hw'
      cases hw
      cases hw'
      exact ⟨by rw [length_item_content _ hr, length_item_content _ hr], rfl⟩
    · rw [contentWrite, zdtmRdwWrite_other _ hv hs] at hw hw'
      cases hw
      cases hw'
      exact ⟨by rw [length_beforeItem, length_beforeItem], rfl⟩
    · rw [contentWrite, zdtmRdwWrite_two _ hv] at hw hw'
      cases hw
      cases hw'
      exact ⟨by simp, rfl⟩
    · rw [contentWrite, zdtmRdwWrite_unknown _ hv] at hw hw'
      cases hw
      cases hw'
      exact ⟨by simp, rfl⟩
  · by_cases hlog : t = .rms → cont.rms.logSize.toNat ≤ 38
    · obtain ⟨hnull, hlen⟩ := contentWrite_length hw hrdw hlog
      obtain ⟨hnull', hlen'⟩ := contentWrite_length hw' hrdw hlog
      exact ⟨by omega, by rw [hnull, hnull']⟩
    · obtain ⟨rfl, hgt⟩ := Classical.not_imp.mp hlog
      rw [contentWrite, zdtmRmsWrite_of_lt _ (not_le.mp hgt)] at hw hw'
      cases hw
      cases hw'
      exact ⟨rfl, rfl⟩

/-- What is accepted in one build over one heap is accepted in every build over
every heap with a block for it. -/
theorem prepares_build {heap' : Heap} {garbage' : Nat → UInt8}
    (hp : Prepares b msg heap t garbage written)
    (hw' : contentWrite b' t msg.body.cont = .ok written') (hsome : heap' 0 = some garbage') :
    Prepares b' msg heap' t garbage' written' := by
  obtain ⟨hlen, hnull⟩ := contentWrite_build hp.write hw'
  refine ⟨hp.type, hp.raw, hsome, hw', ?_, ?_⟩
  · rw [hlen]
    exact hp.fits
  · rw [hnull]
    exact hp.accepted

theorem preparedHeader_build (b b' : Build) (contSize : UInt16) :
    preparedHeader b contSize = preparedHeader b' contSize := by
  apply Subtype.ext
  simp only [preparedHeader, putShort_eq]

/-- The wire messages agree when the contents do and both unswapped numbers
read the same in both directions. -/
theorem wireLayout_agree_iff (garbage : Nat → UInt8) {bs bs' : List UInt8}
    (hlen : bs'.length = bs.length) :
    wireLayout .littleEndian (preparedMessage .littleEndian t msg garbage bs) =
        wireLayout .bigEndian (preparedMessage .bigEndian t msg garbage bs') ↔
      (sizedMessage .littleEndian t msg).bodySize.toNat % 257 = 0 ∧ bs = bs' ∧
        (preparedMessage .littleEndian t msg garbage bs).checkSum.toNat % 257 = 0 := by
  have hheader := preparedHeader_build .littleEndian .bigEndian
    (sizedMessage .littleEndian t msg).contSize
  rw [← hostShort_agree_iff, ← hostShort_agree_iff]
  constructor
  · intro h
    obtain ⟨hfront, hsum⟩ := List.append_inj' h (by simp)
    obtain ⟨hfront, hblock⟩ := List.append_inj hfront (by simp)
    obtain ⟨hfront, -⟩ := List.append_inj' hfront (by simp)
    obtain ⟨-, hbody⟩ := List.append_inj' hfront (by simp)
    obtain ⟨hbytes, -⟩ := List.append_inj hblock hlen.symm
    subst hbytes
    exact ⟨hbody, rfl, hsum⟩
  · rintro ⟨hbody, rfl, hsum⟩
    have hfields : ∀ b, wireLayout b (preparedMessage b t msg garbage bs) =
        (preparedHeader b (sizedMessage .littleEndian t msg).contSize).toList ++
          hostShort b (sizedMessage .littleEndian t msg).bodySize ++ msg.body.type.toList ++
          filledBlock (sizedMessage .littleEndian t msg).contSize.toNat garbage bs ++
          hostShort b (preparedMessage .littleEndian t msg garbage bs).checkSum := fun _ => rfl
    rw [hfields, hfields, hheader, hbody, hsum]

/-- The content bytes of the two builds, and every sum over them that the heap
can make, leave nothing to be swapped. -/
structure NothingToSwap (t : DesktopType) (msg : ZdtmMsg) (bs bs' : List UInt8) : Prop where
  complete : 3 ≤ (sizedMessage .littleEndian t msg).bodySize.toNat
  bodySize : (sizedMessage .littleEndian t msg).bodySize.toNat % 257 = 0
  content : bs = bs'
  checkSum : ∀ garbage,
    (preparedMessage .littleEndian t msg garbage bs).checkSum.toNat % 257 = 0

theorem wiresAgree_iff (hp : Prepares b msg heap t garbage written)
    (hl : contentWrite .littleEndian t msg.body.cont = .ok written)
    (hb : contentWrite .bigEndian t msg.body.cont = .ok written') :
    WiresAgree msg ↔ NothingToSwap t msg written.bytes written'.bytes := by
  have hlen := (contentWrite_build hl hb).1
  constructor
  · intro h
    have hall : ∀ garbage', 3 ≤ (sizedMessage .littleEndian t msg).bodySize.toNat ∧
        (sizedMessage .littleEndian t msg).bodySize.toNat % 257 = 0 ∧
        written.bytes = written'.bytes ∧
        (preparedMessage .littleEndian t msg garbage' written.bytes).checkSum.toNat % 257 = 0 := by
      intro garbage'
      have hu : Heap.Unlimited fun _ => some garbage' := fun _ => rfl
      obtain ⟨wire, hlittle, hbig⟩ := h _ hu
      have hpl : Prepares .littleEndian msg (fun _ => some garbage') t garbage' written :=
        prepares_build hp hl rfl
      have hpb : Prepares .bigEndian msg (fun _ => some garbage') t garbage' written' :=
        prepares_build hp hb rfl
      have hbody := bodySize_of_buildsWire hpl hu hlittle
      have hagree := (buildsWire_unique (buildsWire_prepared hpl hu hbody) hlittle).trans
        (buildsWire_unique hbig (buildsWire_prepared hpb hu hbody))
      exact ⟨hbody, (wireLayout_agree_iff garbage' hlen).mp hagree⟩
    obtain ⟨hbody, hsize, hcontent, -⟩ := hall garbage
    exact ⟨hbody, hsize, hcontent, fun garbage' => (hall garbage').2.2.2⟩
  · intro h heap' hu
    obtain ⟨garbage', hsome⟩ := hu.exists_block
    have hagree := (wireLayout_agree_iff garbage' hlen).mpr
      ⟨h.bodySize, h.content, h.checkSum garbage'⟩
    refine ⟨_, buildsWire_prepared (prepares_build hp hl hsome) hu h.complete, ?_⟩
    rw [hagree]
    exact buildsWire_prepared (prepares_build hp hb hsome) hu h.complete

/-- A body of fewer than 257 bytes has a size that is not symmetric. -/
theorem not_nothingToSwap_short {bs bs' : List UInt8} (hpos : 0 ≤ contentLength t msg.body.cont)
    (hlt : contentLength t msg.body.cont < 254) : ¬ NothingToSwap t msg bs bs' := by
  intro h
  have hbody := bodySize_toNat .littleEndian t msg
  rw [Int.emod_eq_of_lt (by omega) (by omega)] at hbody
  have hcomplete := h.complete
  have hsym := h.bodySize
  omega

/-- A path behind a symmetric length makes a body size that is not symmetric. -/
theorem not_nothingToSwap_rge (hp : Prepares b msg heap .rge garbage written)
    (hl : contentWrite .littleEndian .rge msg.body.cont = .ok written)
    (hb : contentWrite .bigEndian .rge msg.body.cont = .ok written') :
    ¬ NothingToSwap .rge msg written.bytes written'.bytes := by
  intro h
  have hread := contentWrite_ok_iff.mp ⟨_, hl⟩
  have hbody := bodySize_toNat .littleEndian .rge msg
  have hcont := contSize_toNat b .rge msg
  have hlen := (contentWrite_length hp.write (by decide) fun h => by cases h).2
  have hfits := hp.fits
  have hcomplete := h.complete
  have hsym := h.bodySize
  have hcontent := h.content
  simp only [contentLength, zdtmRgeLength] at hbody hcont hlen
  have hblock : (2 + msg.body.cont.rge.pathLen.toNat : Int) < 65536 := by omega
  rw [contentWrite, zdtmRgeWrite_of_le _ hread] at hl hb
  cases hl
  cases hb
  have hpath : msg.body.cont.rge.pathLen.toNat % 257 = 0 :=
    (hostShort_agree_iff _).mp (List.append_inj hcontent (by simp)).1
  by_cases hwrap : (3 + (2 + msg.body.cont.rge.pathLen.toNat) : Int) < 65536
  · rw [Int.emod_eq_of_lt (by omega) hwrap] at hbody
    omega
  · omega

/-- A heap that holds `x` in the first byte behind the written ones. -/
theorem filledBlock_probe {n : Nat} {bs : List UInt8} (h : bs.length < n) (x : UInt8) :
    filledBlock n (fun i => if i = bs.length then x else 0) bs =
      bs ++ x :: List.replicate (n - bs.length - 1) 0 := by
  unfold filledBlock
  congr 1
  apply List.ext_getElem
  · simp only [List.length_drop, List.length_map, List.length_range, List.length_cons,
      List.length_replicate]
    omega
  · intro i hi hi'
    cases i with
    | zero => simp
    | succ i => simp

/-- A byte that was never written spoils the symmetry of the checksum for some heap. -/
theorem unwritten_spoils {bs : List UInt8}
    (hlt : bs.length < (sizedMessage .littleEndian t msg).contSize.toNat) :
    ¬ ∀ garbage, (preparedMessage .littleEndian t msg garbage bs).checkSum.toNat % 257 = 0 := by
  intro h
  have hprobe : ∀ x : UInt8, (((msg.body.type.toList ++ bs).map UInt8.toNat).sum + x.toNat) %
      65536 % 257 = 0 := by
    intro x
    have hsum := h fun i => if i = bs.length then x else 0
    simp only [preparedMessage, filledBlock_probe hlt, toNat_addBytes_zero] at hsum
    simpa [Nat.add_assoc] using hsum
  have hzero := hprobe 0
  have htwo := hprobe 2
  have h0 : (0 : UInt8).toNat = 0 := rfl
  have h2 : (2 : UInt8).toNat = 2 := rfl
  rw [h0] at hzero
  rw [h2] at htwo
  omega

/-- Only a category of four bytes gets the same length in both builds. -/
theorem categoryLen_of_todoBytes {todo : TodoItem}
    (h : todoBytes .littleEndian todo = todoBytes .bigEndian todo) : todo.categoryLen = 4 := by
  simp only [todoBytes, List.append_assoc] at h
  have hlen : bytes 4 (4 : UInt32).toNat = bytes 4 todo.categoryLen.toNat := by
    have hprefix := (List.append_inj h (by simp)).1
    rw [todoCategoryLen, todoCategoryLen, hostLong_zdtmLiltobigl] at hprefix
    simpa only [hostLong, List.reverse_reverse] using hprefix
  apply UInt32.toNat_inj.mp
  exact (bytes_inj_of_lt (by decide) (UInt32.toNat_lt _) hlen).symm

/-- Either the block of an item is not written in full, or the body size is 87 or 102. -/
theorem not_nothingToSwap_item (hi : WritesItem msg.body.cont.rdw)
    (hp : Prepares b msg heap .rdw garbage written)
    (hl : contentWrite .littleEndian .rdw msg.body.cont = .ok written)
    (hb : contentWrite .bigEndian .rdw msg.body.cont = .ok written') :
    ¬ NothingToSwap .rdw msg written.bytes written'.bytes := by
  intro h
  have hr := not_unreadable_of_ok hl hi
  have hfits := hp.fits
  rw [contentWrite, zdtmRdwWrite_item _ hi hr] at hl hb
  cases hl
  cases hb
  have hlen := length_item_content .littleEndian hr
  have hsame : (sizedMessage b .rdw msg).contSize = (sizedMessage .littleEndian .rdw msg).contSize :=
    rfl
  rw [hsame] at hfits
  by_cases hlt : (beforeItem .littleEndian msg.body.cont.rdw ++
      todoBytes .littleEndian msg.body.cont.rdw.todo).length <
        (sizedMessage .littleEndian .rdw msg).contSize.toNat
  · exact unwritten_spoils hlt h.checkSum
  · have hfour : msg.body.cont.rdw.todo.categoryLen.toNat = 4 := by
      have hcontent := (List.append_inj h.content
        (by rw [length_beforeItem, length_beforeItem])).2
      rw [categoryLen_of_todoBytes hcontent]
      rfl
    have hbody := bodySize_toNat .littleEndian .rdw msg
    have hcont := contSize_toNat .littleEndian .rdw msg
    have hbefore : beforeItemLength msg.body.cont.rdw = 23 ∨
        beforeItemLength msg.body.cont.rdw = 38 := by
      unfold beforeItemLength
      split
      · exact Or.inl rfl
      · exact Or.inr rfl
    have hsym := h.bodySize
    have hsize : (sizedMessage .littleEndian .rdw msg).contSize.toNat =
        beforeItemLength msg.body.cont.rdw + 61 := by
      simp only at hfits hlt
      omega
    omega

theorem not_nothingToSwap_rdw (hp : Prepares b msg heap .rdw garbage written)
    (hl : contentWrite .littleEndian .rdw msg.body.cont = .ok written)
    (hb : contentWrite .bigEndian .rdw msg.body.cont = .ok written') :
    ¬ NothingToSwap .rdw msg written.bytes written'.bytes := by
  rcases rdw_cases msg.body.cont.rdw with hi | ⟨hv, hs⟩ | hv | hv
  · exact not_nothingToSwap_item hi hp hl hb
  · have haccept := hp.accepted
    rw [contentWrite, zdtmRdwWrite_other _ hv hs] at hl
    cases hl
    exact absurd ⟨rfl, rfl⟩ haccept
  · apply not_nothingToSwap_short
    · rw [contentLength, zdtmRdwLength_two hv]
      decide
    · rw [contentLength, zdtmRdwLength_two hv]
      decide
  · intro h
    have hbody := bodySize_toNat .littleEndian .rdw msg
    have hsym := h.bodySize
    rw [contentLength, zdtmRdwLength_unknown hv, retUnkVar] at hbody
    omega

theorem sum_toNat_le (bs : List UInt8) : (bs.map UInt8.toNat).sum ≤ bs.length * 255 := by
  have h := List.sum_le_card_nsmul (bs.map UInt8.toNat) 255 (by
    intro n hn
    obtain ⟨byte, -, rfl⟩ := List.mem_map.mp hn
    exact Nat.le_of_lt_succ byte.toNat_lt)
  simpa using h

/-- A passcode message with 257 body bytes whose sum is a multiple of 257. -/
structure SymmetricPasscode (msg : ZdtmMsg) : Prop where
  type : msg.body.type = DesktopType.rrl.bytes
  pwSize : msg.body.cont.rrl.pwSize = 253
  sum : (493 + ((msg.body.cont.rrl.pw.target.take 253).map UInt8.toNat).sum) % 257 = 0

/-- A passcode fills its block, so its sum depends on no heap. -/
theorem rrl_checkSum (ht : msg.body.type = DesktopType.rrl.bytes)
    (hread : msg.body.cont.rrl.pwSize.toNat ≤ msg.body.cont.rrl.pw.target.length)
    (garbage : Nat → UInt8) :
    (preparedMessage .littleEndian .rrl msg garbage (msg.body.cont.rrl.pwSize ::
      msg.body.cont.rrl.pw.target.take msg.body.cont.rrl.pwSize.toNat)).checkSum.toNat =
      (240 + (msg.body.cont.rrl.pwSize.toNat + ((msg.body.cont.rrl.pw.target.take
        msg.body.cont.rrl.pwSize.toNat).map UInt8.toNat).sum)) % 65536 := by
  have hcont := contSize_toNat .littleEndian .rrl msg
  have hlt : msg.body.cont.rrl.pwSize.toNat < 256 := UInt8.toNat_lt _
  have hlen : (msg.body.cont.rrl.pwSize ::
      msg.body.cont.rrl.pw.target.take msg.body.cont.rrl.pwSize.toNat).length =
      (sizedMessage .littleEndian .rrl msg).contSize.toNat := by
    simp only [contentLength, zdtmRrlLength] at hcont
    rw [List.length_cons, List.length_take]
    omega
  have htype : (msg.body.type.toList.map UInt8.toNat).sum = 240 := by
    rw [ht]
    rfl
  simp only [preparedMessage, ← hlen, filledBlock_exact, toNat_addBytes_zero, List.map_append,
    List.sum_append, htype, List.map_cons, List.sum_cons]

theorem nothingToSwap_rrl_iff (hp : Prepares b msg heap .rrl garbage written)
    (hl : contentWrite .littleEndian .rrl msg.body.cont = .ok written)
    (hb : contentWrite .bigEndian .rrl msg.body.cont = .ok written') :
    NothingToSwap .rrl msg written.bytes written'.bytes ↔ SymmetricPasscode msg := by
  have ht := desktopType_some hp.type
  have hread := contentWrite_ok_iff.mp ⟨_, hl⟩
  have hbody := bodySize_toNat .littleEndian .rrl msg
  have hlt : msg.body.cont.rrl.pwSize.toNat < 256 := UInt8.toNat_lt _
  simp only [contentLength, zdtmRrlLength] at hbody
  rw [Int.emod_eq_of_lt (by omega) (by omega)] at hbody
  rw [contentWrite, zdtmRrlWrite_of_le hread] at hl hb
  cases hl
  cases hb
  have hbound := sum_toNat_le (msg.body.cont.rrl.pw.target.take 253)
  rw [List.length_take] at hbound
  have hmod : (240 + (253 + ((msg.body.cont.rrl.pw.target.take 253).map UInt8.toNat).sum)) %
      65536 = 493 + ((msg.body.cont.rrl.pw.target.take 253).map UInt8.toNat).sum := by
    rw [Nat.mod_eq_of_lt (by omega)]
    omega
  constructor
  · rintro ⟨hcomplete, hsym, -, hcheck⟩
    have hsize : msg.body.cont.rrl.pwSize.toNat = 253 := by omega
    have hzero := hcheck fun _ => 0
    rw [rrl_checkSum ht hread, hsize, hmod] at hzero
    exact ⟨ht, UInt8.toNat_inj.mp hsize, hzero⟩
  · rintro ⟨-, hpw, hsym⟩
    have hsize : msg.body.cont.rrl.pwSize.toNat = 253 := by
      rw [hpw]
      rfl
    refine ⟨by omega, by omega, rfl, ?_⟩
    intro garbage
    rw [rrl_checkSum ht hread, hsize, hmod]
    exact hsym

end Builds

/-- The two builds send the same bytes for no accepted message but a symmetric
passcode. -/
theorem wires_agree_iff (msg : ZdtmMsg) (h : Accepted msg) :
    WiresAgree msg ↔ SymmetricPasscode msg := by
  obtain ⟨b, heap, msg', heap', hrun⟩ := h
  obtain ⟨t, garbage, written, hp, -, -⟩ := prepare_zero_iff.mp hrun
  have hread := contentWrite_ok_iff.mp ⟨_, hp.write⟩
  obtain ⟨little, hl⟩ := (contentWrite_ok_iff (b := .littleEndian)).mpr hread
  obtain ⟨big, hb⟩ := (contentWrite_ok_iff (b := .bigEndian)).mpr hread
  have hp' : Prepares .littleEndian msg heap t garbage little := prepares_build hp hl hp.block
  rw [wiresAgree_iff hp' hl hb]
  have hother : t ≠ .rrl → ¬ SymmetricPasscode msg := by
    intro hne hsym
    have hbytes := (desktopType_some hp.type).symm.trans hsym.type
    exact hne (DesktopType.bytes_injective hbytes)
  cases t with
  | rrl => exact nothingToSwap_rrl_iff hp' hl hb
  | rge => exact iff_of_false (not_nothingToSwap_rge hp' hl hb) (hother (by decide))
  | rdw => exact iff_of_false (not_nothingToSwap_rdw hp' hl hb) (hother (by decide))
  | _ =>
    exact iff_of_false (not_nothingToSwap_short (of_decide_eq_true rfl) (of_decide_eq_true rfl))
      (hother (by decide))

/-- A passcode of 253 bytes that add up to 21. -/
def symmetricMsg : ZdtmMsg where
  body := {
    type := DesktopType.rrl.bytes
    cont := { rrl := { pwSize := 253, pw := some (21 :: List.replicate 252 0) } } }

theorem symmetricMsg_accepted : Accepted symmetricMsg := by
  have htarget : symmetricMsg.body.cont.rrl.pw.target.length = 253 := by
    change (21 :: List.replicate 252 (0 : UInt8)).length = 253
    rw [List.length_cons, List.length_replicate]
  have hread : ContentReadable .rrl symmetricMsg.body.cont := htarget.ge
  obtain ⟨written, hw⟩ := (contentWrite_ok_iff (b := .littleEndian)).mpr hread
  have hlen := (contentWrite_length hw (by decide) fun h => by cases h).2
  have hcont := contSize_toNat .littleEndian .rrl symmetricMsg
  have hsize : contentLength .rrl symmetricMsg.body.cont = 254 := rfl
  have hp : Prepares .littleEndian symmetricMsg (Heap.filled 0) .rrl (fun _ => 0) written :=
    ⟨desktopType_bytes .rrl, rfl, rfl, hw, by omega, fun h => absurd h.1 (by decide)⟩
  exact ⟨_, _, _, _, prepare_ok hp⟩

theorem wires_agree_symmetric : WiresAgree symmetricMsg ↔ SymmetricPasscode symmetricMsg :=
  wires_agree_iff symmetricMsg symmetricMsg_accepted

/-- The body size of a RAY message, 3, goes out as `03 00` and as `00 03`. -/
theorem ray_wires_differ :
    Accepted rayMsg ∧
      BuildsWire .littleEndian rayMsg (Heap.filled 0) (dmsgHdr.toList.take 9 ++ [0, 0, 0, 0] ++
        [3, 0] ++ DesktopType.ray.bytes.toList ++ [0xec, 0]) ∧
      BuildsWire .bigEndian rayMsg (Heap.filled 0) (dmsgHdr.toList.take 9 ++ [0, 0, 0, 0] ++
        [0, 3] ++ DesktopType.ray.bytes.toList ++ [0, 0xec]) ∧ ¬ WiresAgree rayMsg := by
  have hp : ∀ b, Prepares b rayMsg (Heap.filled 0) .ray (fun _ => 0) { bytes := [] } := fun _ =>
    ⟨desktopType_bytes .ray, rfl, rfl, rfl, Nat.zero_le _, fun h => absurd h.1 (by decide)⟩
  have hu := Heap.filled_unlimited 0
  have hbuild : ∀ b, BuildsWire b rayMsg (Heap.filled 0) _ := fun b =>
    buildsWire_prepared (hp b) hu (Nat.le_refl 3)
  refine ⟨⟨_, _, _, _, prepare_ok (hp .littleEndian)⟩, hbuild .littleEndian, hbuild .bigEndian, ?_⟩
  intro h
  obtain ⟨wire, hlittle, hbig⟩ := h (Heap.filled 0) hu
  have heq := (buildsWire_unique (hbuild .littleEndian) hlittle).trans
    (buildsWire_unique hbig (hbuild .bigEndian))
  revert heq
  decide

end ZdtmByteOrder
