import ZdtmSync.FixedFields
import ZdtmSync.Parsing

/-!
# Decoding in both builds

The parsers swap every number of a content in the WORDS_BIGENDIAN build, but the
counts of ADR and ADW go through the helper for 32 bits and come out as 0. The
item parsers swap nothing: the bytes of a number are copied as they came, and
the host reads them in its own order.
-/

namespace ZdtmDecoding

open LittleEndian ByteCodec CMemory Records ZdtmTypes ZdtmCommon ZdtmZaurusMsg ZdtmMsgs
open ZdtmParsing ZdtmItems ZdtmFixedFields

/-- Both builds parse every message of the type that holds the content, with the
same result. -/
def DecodesAlike (z : ZaurusType) (s : List UInt8) : Prop :=
  ∀ (msg : ZdtmMsg) (heap : Heap), msg.body.type = z.bytes → msg.body.pRawContent.target = s →
    ∃ r, zdtmParseRawMsg .littleEndian msg heap = .ok r ∧
      zdtmParseRawMsg .bigEndian msg heap = .ok r

/-- The content announces no parameters, or no synchronization ids, in a count
that is read with the helper for 32 bits. -/
def AnnouncesNone : ZaurusType → List UInt8 → Prop
  | .adr, s => value ((s.drop 2).take 2) = 0
  | .adw, s => value ((s.drop 4).take 2) = 0
  | _, _ => True

theorem short_build : short .bigEndian = short .littleEndian := by
  funext buf
  have hget : ∀ v : Bytes 2, getShort .bigEndian v.toList = getShort .littleEndian v.toList := by
    intro v
    rw [getShort_eq _ v.toList_length, getShort_eq _ v.toList_length]
  simp only [short, hget]

theorem long_build : long .bigEndian = long .littleEndian := by
  funext buf
  have hget : ∀ v : Bytes 4, getLong .bigEndian v.toList = getLong .littleEndian v.toList := by
    intro v
    rw [getLong_eq _ v.toList_length, getLong_eq _ v.toList_length]
  simp only [long, hget]

theorem getShortByLong_big (bs : List UInt8) : getShortByLong .bigEndian bs = 0 :=
  zdtmLiltobigl_of_short _

theorem getShortByLong_little (bs : List UInt8) :
    getShortByLong .littleEndian bs = UInt16.ofNat (value bs) := rfl

theorem raw_bind_run {α : Type} {n : Nat} {buf : List UInt8} (h : n ≤ buf.length)
    (f : List.Vector UInt8 n → Scan α) (heap : Heap) :
    (Scan.raw n >>= f) buf heap =
      f ⟨buf.take n, List.length_take_of_le h⟩ (buf.drop n) heap := by
  apply Scan.bind_done
  exact dif_pos h

/-- Over a count of 0 the wrong helper does no harm. -/
theorem shortByLong_zero {buf : List UInt8} (h : 2 ≤ buf.length) (hzero : value (buf.take 2) = 0)
    (b : Build) (heap : Heap) : shortByLong b buf heap = .done 0 (buf.drop 2) heap := by
  unfold shortByLong
  apply (raw_bind_run h _ heap).trans
  cases b with
  | littleEndian =>
    rw [getShortByLong_little]
    change Outcome.done (UInt16.ofNat (value (buf.take 2))) _ _ = _
    rw [hzero]
    rfl
  | bigEndian =>
    rw [getShortByLong_big]
    rfl

theorem shortByLong_bind {α : Type} {buf : List UInt8} (h : 2 ≤ buf.length)
    (hzero : value (buf.take 2) = 0) (b : Build) (f : UInt16 → Scan α) (heap : Heap) :
    (shortByLong b >>= f) buf heap = f 0 (buf.drop 2) heap :=
  Scan.bind_done (shortByLong_zero h hzero b heap)

/-- The two builds run the same scan over a content without announced elements. -/
theorem contentScan_build {z : ZaurusType} {s : List UInt8}
    (hfields : HoldsItsFields .littleEndian z s) (hnone : AnnouncesNone z s)
    (cont : SpecTypeContent) (heap : Heap) :
    contentScan .bigEndian z cont s heap = contentScan .littleEndian z cont s heap := by
  cases z with
  | aay => rfl
  | amg => rfl
  | atg => rfl
  | aex => rfl
  | ang => rfl
  | aig => simp only [contentScan, zdtmParseRawAigMsg, short_build]
  | adi => simp only [contentScan, zdtmParseRawAdiMsg, adiDesc, short_build, long_build]
  | asy => simp only [contentScan, zdtmParseRawAsyMsg, asyList, short_build, long_build]
  | adr =>
    have hlen : 4 ≤ s.length := hfields.1
    have hrest : 2 ≤ (s.drop 2).length := by
      rw [List.length_drop]
      omega
    have hrun : ∀ b, zdtmParseRawAdrMsg b s heap = (do
        Scan.alloc ((0 : UInt16).toNat * sizeofAdrMsgParam) (-1)
        return { uk := ⟨s.take 2, List.length_take_of_le (by omega)⟩
                 numParams := 0, params := some [] } : Scan AdrMsgContent) ((s.drop 2).drop 2) heap := by
      intro b
      unfold zdtmParseRawAdrMsg
      apply (raw_bind_run (by omega) _ heap).trans
      exact shortByLong_bind hrest hnone b _ heap
    simp only [contentScan, Bind.bind, hrun]
  | adw =>
    have hlen : 10 ≤ s.length := hfields
    have hrest : 2 ≤ (s.drop 4).length := by
      rw [List.length_drop]
      omega
    have hrun : ∀ b, zdtmParseRawAdwMsg b s heap = (do
        let syncId ← long .littleEndian
        return { uk := ⟨s.take 4, List.length_take_of_le (by omega)⟩
                 numSyncIds := 0, syncId } : Scan AdwMsgContent) ((s.drop 4).drop 2) heap := by
      intro b
      unfold zdtmParseRawAdwMsg
      apply (raw_bind_run (by omega) _ heap).trans
      apply (shortByLong_bind hrest hnone b _ heap).trans
      cases b with
      | littleEndian => rfl
      | bigEndian => rw [long_build]
    simp only [contentScan, Bind.bind, hrun]

theorem parse_build {z : ZaurusType} {s : List UInt8}
    (hfields : HoldsItsFields .littleEndian z s) (hnone : AnnouncesNone z s) :
    DecodesAlike z s := by
  intro msg heap ht hraw
  have hz : zaurusType msg.body.type = some z := by rw [ht, zaurusType_bytes]
  have hbuild : zdtmParseRawMsg .bigEndian msg heap = zdtmParseRawMsg .littleEndian msg heap := by
    simp only [zdtmParseRawMsg, hz]
    have hscan : (contentScan .bigEndian z msg.body.cont).run msg.body.pRawContent heap =
        (contentScan .littleEndian z msg.body.cont).run msg.body.pRawContent heap := by
      simp only [Scan.run, hraw, contentScan_build hfields hnone]
    simp only [CMemory.bind_run, hscan]
  cases hrun : zdtmParseRawMsg .littleEndian msg heap with
  | error f =>
    have hbounds := (parse_inBounds_iff (b := .littleEndian) hz).mpr
      (by rw [hraw, contentLayout_accepts]; exact hfields)
    exact absurd hrun (hbounds heap f)
  | ok r => exact ⟨r, rfl, hbuild.trans hrun⟩

/-- The count of a content as each build decodes it. -/
theorem countByLong_value {b : Build} {s rest : List UInt8} {n : UInt16}
    (h : countByLong b s = some (n, rest)) :
    n.toNat = if b = .littleEndian then value (s.take 2) else 0 := by
  obtain ⟨m, s', hm, h⟩ := Decoder.bind_some h
  cases b with
  | littleEndian =>
    cases h
    exact Codec.u16_value hm
  | bigEndian =>
    cases h
    rfl

theorem adr_count {b : Build} {s rest : List UInt8} {adr : AdrMsgContent}
    (h : adrLayout b s = some (adr, rest)) :
    adr.numParams.toNat = if b = .littleEndian then value ((s.drop 2).take 2) else 0 := by
  obtain ⟨uk, s₁, huk, h⟩ := Decoder.bind_some h
  obtain ⟨numParams, s₂, hcount, h⟩ := Decoder.bind_some h
  obtain ⟨params, s₃, -, h⟩ := Decoder.bind_some h
  cases h
  rw [← Decoder.raw_some huk, List.drop_left' uk.toList_length]
  exact countByLong_value hcount

theorem adw_count {b : Build} {s rest : List UInt8} {adw : AdwMsgContent}
    (h : adwLayout b s = some (adw, rest)) :
    adw.numSyncIds.toNat = if b = .littleEndian then value ((s.drop 4).take 2) else 0 := by
  obtain ⟨uk, s₁, huk, h⟩ := Decoder.bind_some h
  obtain ⟨numSyncIds, s₂, hcount, h⟩ := Decoder.bind_some h
  obtain ⟨syncId, s₃, -, h⟩ := Decoder.bind_some h
  cases h
  rw [← Decoder.raw_some huk, List.drop_left' uk.toList_length]
  exact countByLong_value hcount

/-- The big-endian build reads no more of a content than the other one. -/
theorem holdsItsFields_big {z : ZaurusType} {s : List UInt8}
    (h : HoldsItsFields .littleEndian z s) : HoldsItsFields .bigEndian z s := by
  cases z with
  | adr => exact ⟨h.1, fun hb => nomatch hb⟩
  | _ => exact h

/-- What both builds decode of a received message they decode alike. -/
theorem alike_contents {z : ZaurusType} {s : List UInt8}
    (hfields : HoldsItsFields .littleEndian z s) (h : DecodesAlike z s) :
    ∃ cont rest rest', contentLayout .littleEndian z {} s = some (cont, rest) ∧
      contentLayout .bigEndian z {} s = some (cont, rest') := by
  have hsome : ∀ b, HoldsItsFields b z s → ∃ cont rest,
      contentLayout b z {} s = some (cont, rest) := by
    intro b hb
    obtain ⟨⟨cont, rest⟩, hlayout⟩ :=
      Option.isSome_iff_exists.mp ((contentLayout_accepts b z {} s).mpr hb)
    exact ⟨cont, rest, hlayout⟩
  have hparse : ∀ {b cont rest}, contentLayout b z {} s = some (cont, rest) →
      ∃ heap', zdtmParseRawMsg b (receivedMsg z s) (Heap.filled 0) =
        .ok ((0, withCont (receivedMsg z s) cont), heap') := by
    intro b cont rest hlayout
    have ht : zaurusType (receivedMsg z s).body.type = some z := zaurusType_bytes z
    rw [← receivedMsg_target z s] at hlayout
    obtain ⟨heap', hrun, -⟩ := parse_accepted ht hlayout (Heap.filled_unlimited 0)
    exact ⟨heap', hrun⟩
  obtain ⟨cont, rest, hlittle⟩ := hsome .littleEndian hfields
  obtain ⟨cont', rest', hbig⟩ := hsome .bigEndian (holdsItsFields_big hfields)
  obtain ⟨heap₁, hrun₁⟩ := hparse hlittle
  obtain ⟨heap₂, hrun₂⟩ := hparse hbig
  obtain ⟨r, hr₁, hr₂⟩ := h (receivedMsg z s) (Heap.filled 0) rfl (receivedMsg_target z s)
  rw [hrun₁] at hr₁
  rw [hrun₂, ← hr₁] at hr₂
  have hcont : cont' = cont :=
    congrArg (fun r : (Int × ZdtmMsg) × Heap => r.1.2.body.cont) (Except.ok.inj hr₂)
  rw [hcont] at hbig
  exact ⟨cont, rest, rest', hlittle, hbig⟩

/-- A content that holds its fields is decoded alike exactly when it announces
nothing in a count that is read with the wrong helper. -/
theorem decodesAlike_iff {z : ZaurusType} {s : List UInt8}
    (hfields : HoldsItsFields .littleEndian z s) : DecodesAlike z s ↔ AnnouncesNone z s := by
  constructor
  · intro h
    obtain ⟨cont, rest, rest', hlittle, hbig⟩ := alike_contents hfields h
    cases z with
    | adr =>
      obtain ⟨adr, s₁, hadr, h₁⟩ := Decoder.bind_some hlittle
      obtain ⟨adr', s₂, hadr', h₂⟩ := Decoder.bind_some hbig
      cases h₁
      cases h₂
      exact (adr_count hadr).symm.trans (adr_count hadr')
    | adw =>
      obtain ⟨adw, s₁, hadw, h₁⟩ := Decoder.bind_some hlittle
      obtain ⟨adw', s₂, hadw', h₂⟩ := Decoder.bind_some hbig
      cases h₁
      cases h₂
      exact (adw_count hadw).symm.trans (adw_count hadw')
    | _ => trivial
  · exact parse_build hfields

section Items

variable {I F : Type}

/-- Both builds parse the parameters over the same item with the same return
value, and when it is 0 the numbers of the item are the same. -/
def StoresAlike (parse : Build → List AdiMsgParam → List AdrMsgParam → I → Mem (Int × I))
    (numbers : I → List Nat) (paramFormat : List AdiMsgParam) (params : List AdrMsgParam) : Prop :=
  ∀ item heap, ∃ code little big heap',
    parse .littleEndian paramFormat params item heap = .ok ((code, little), heap') ∧
    parse .bigEndian paramFormat params item heap = .ok ((code, big), heap') ∧
    (code = 0 → numbers little = numbers big)

/-- What the parameters write into a member, later ones over earlier ones. -/
def written [DecidableEq F] (P : Parser I F) (paramFormat : List AdiMsgParam)
    (params : List AdrMsgParam) (f : F) : List UInt8 :=
  overlay (stringsFor (P.assignments paramFormat params) f) []

/-- The parameters leave the number alone, or they replace all of it by bytes
that read the same in both directions. -/
def Palindromic [DecidableEq F] (P : Parser I F) (paramFormat : List AdiMsgParam)
    (params : List AdrMsgParam) (f : F) : Prop :=
  written P paramFormat params f = [] ∨
    P.kind f = .array (written P paramFormat params f).length ∧
      (written P paramFormat params f).reverse = written P paramFormat params f

/-- The members of more than one byte that are numbers: the host of each build
has their bytes the other way round. -/
structure Numbers (P : Parser I F) (members : List F) (numbers : I → List Nat) : Prop where
  array : ∀ f ∈ members, ∃ n, P.kind f = .array n
  mirrored : ∀ f ∈ members, ∀ item, ((P.layout .bigEndian).get f item).bytes =
    ((P.layout .littleEndian).get f item).bytes.reverse
  determined : ∀ {i j}, numbers i = numbers j ↔ ∀ f ∈ members,
    ((P.layout .littleEndian).get f i).bytes = ((P.layout .littleEndian).get f j).bytes

theorem exists_value {k : Kind} {n : Nat} (hk : k = .array n) {old : List UInt8}
    (hold : old.length = n) : ∃ v : k.Value, v.bytes = old := by
  subst hk
  exact ⟨⟨old, hold⟩, rfl⟩

theorem length_value {k : Kind} {n : Nat} (hk : k = .array n) (v : k.Value) :
    v.bytes.length = n := by
  subst hk
  exact List.Vector.toList_length v

variable [DecidableEq F] {P : Parser I F} {members : List F} {numbers : I → List Nat}
  {paramFormat : List AdiMsgParam} {params : List AdrMsgParam}

theorem length_written_le (hread : Readable params) (hfit : ParamsFit P paramFormat params)
    {f : F} {n : Nat} (hf : P.kind f = .array n) :
    (written P paramFormat params f).length ≤ n := by
  apply length_overlay_le _ _ (Nat.zero_le n)
  exact length_of_mem_stringsFor (assignments_readable P paramFormat params hread)
    ((paramsFit_iff P paramFormat params).mp hfit) hf

/-- Parameters that fit are stored by both builds, each over its own bytes. -/
theorem parse_both (hlen : paramFormat.length = params.length) (hread : Readable params)
    (hfit : ParamsFit P paramFormat params) (heap : Heap) :
    ∃ code heap', (heap.Unlimited → code = 0) ∧ ∀ b item, ∃ item',
      P.parse b paramFormat params item heap = .ok ((code, item'), heap') ∧
        (code = 0 → ∀ f, (P.kind f).IsArray → ((P.layout b).get f item').bytes =
          written P paramFormat params f ++ ((P.layout b).get f item).bytes.drop
            (written P paramFormat params f).length) := by
  obtain ⟨code, heap', hu, hrun⟩ := assignAll_fits (I := I) (P.assignments paramFormat params)
    (assignments_readable P paramFormat params hread)
    ((paramsFit_iff P paramFormat params).mp hfit) heap
  refine ⟨code, heap', hu, ?_⟩
  intro b item
  obtain ⟨item', hitem, hbytes⟩ := hrun (P.layout b) item
  refine ⟨item', ?_, ?_⟩
  · rw [parse_of_length b hlen]
    exact hitem
  · intro hcode f harray
    rw [hbytes hcode f harray, overlay_eq]
    rfl

theorem isArray_of_eq {k : Kind} {n : Nat} (hk : k = .array n) : k.IsArray := by
  subst hk
  trivial

theorem palindromic_iff {f : F} {n : Nat} (hf : P.kind f = .array n) :
    Palindromic P paramFormat params f ↔ written P paramFormat params f = [] ∨
      (written P paramFormat params f).length = n ∧
        (written P paramFormat params f).reverse = written P paramFormat params f := by
  rw [Palindromic, hf, Kind.array.injEq, eq_comm (a := n)]

omit [DecidableEq F] in
/-- The same number, stored by the two builds: the bytes of one are those of the
other the other way round. -/
theorem number_alike_iff (hnumbers : Numbers P members numbers) {f : F} (hf : f ∈ members)
    {item i j : I} {w : List UInt8}
    (hi : ((P.layout .littleEndian).get f i).bytes =
      w ++ ((P.layout .littleEndian).get f item).bytes.drop w.length)
    (hj : ((P.layout .bigEndian).get f j).bytes =
      w ++ ((P.layout .bigEndian).get f item).bytes.drop w.length) :
    ((P.layout .littleEndian).get f i).bytes = ((P.layout .littleEndian).get f j).bytes ↔
      w ++ ((P.layout .littleEndian).get f item).bytes.reverse.drop w.length =
        (w ++ ((P.layout .littleEndian).get f item).bytes.drop w.length).reverse := by
  rw [hnumbers.mirrored f hf item, hnumbers.mirrored f hf j] at hj
  rw [← hi, ← hj, List.reverse_inj, eq_comm]

/-- The numbers of an item come out alike exactly when every parameter fits and
the bytes written to a number are none or a palindrome of its size. -/
theorem storesAlike_iff (hnumbers : Numbers P members numbers)
    (hlen : paramFormat.length = params.length) (hread : Readable params) (item₀ : I) :
    StoresAlike P.parse numbers paramFormat params ↔
      ParamsFit P paramFormat params ∧ ∀ f ∈ members, Palindromic P paramFormat params f := by
  constructor
  · intro h
    have hfit : ParamsFit P paramFormat params := by
      rw [paramsFit_iff, ← assignAll_returns_iff (assignments_readable P paramFormat params hread)
        (P.layout .littleEndian) item₀]
      intro heap
      obtain ⟨code, little, big, heap', hrun, -⟩ := h item₀ heap
      rw [parse_of_length .littleEndian hlen] at hrun
      exact ⟨code, little, heap', hrun⟩
    refine ⟨hfit, ?_⟩
    intro f hf
    obtain ⟨n, hkind⟩ := hnumbers.array f hf
    rw [palindromic_iff hkind, ← overlay_mirror_iff (length_written_le hread hfit hkind)]
    intro old hold
    -- over an item that holds the old bytes both builds run to the end
    obtain ⟨v, rfl⟩ := exists_value hkind hold
    obtain ⟨code, heap', hu, hrun⟩ := parse_both hlen hread hfit (Heap.filled 0)
    obtain rfl := hu (Heap.filled_unlimited 0)
    obtain ⟨i, hi, hbytes⟩ := hrun .littleEndian ((P.layout .littleEndian).set f v item₀)
    obtain ⟨j, hj, hbytes'⟩ := hrun .bigEndian ((P.layout .littleEndian).set f v item₀)
    obtain ⟨code, little, big, heap'', hlittle, hbig, hsame⟩ :=
      h ((P.layout .littleEndian).set f v item₀) (Heap.filled 0)
    rw [hi] at hlittle
    rw [hj] at hbig
    cases hlittle
    cases hbig
    have harray := isArray_of_eq hkind
    have halike := (number_alike_iff hnumbers hf (hbytes rfl f harray) (hbytes' rfl f harray)).mp
      (hnumbers.determined.mp (hsame rfl) f hf)
    rw [(P.layout .littleEndian).get_set] at halike
    exact halike
  · intro h item heap
    obtain ⟨hfit, hpal⟩ := h
    obtain ⟨code, heap', -, hrun⟩ := parse_both hlen hread hfit heap
    obtain ⟨i, hi, hbytes⟩ := hrun .littleEndian item
    obtain ⟨j, hj, hbytes'⟩ := hrun .bigEndian item
    refine ⟨code, i, j, heap', hi, hj, ?_⟩
    intro hcode
    apply hnumbers.determined.mpr
    intro f hf
    obtain ⟨n, hkind⟩ := hnumbers.array f hf
    have harray := isArray_of_eq hkind
    have hmirror := (overlay_mirror_iff (length_written_le hread hfit hkind)).mpr
      ((palindromic_iff hkind).mp (hpal f hf))
    exact (number_alike_iff hnumbers hf (hbytes hcode f harray) (hbytes' hcode f harray)).mpr
      (hmirror _ (length_value hkind _))

end Items

def todoNumbers (item : TodoItem) : List Nat := [item.syncId.toNat]

def calendarNumbers (item : CalendarItem) : List Nat :=
  [item.syncId.toNat, item.alarmTime.toNat, item.repeatPeriod.toNat, item.repeatPosition.toNat]

def addressNumbers (item : AddressItem) : List Nat := [item.syncId.toNat]

theorem hostLong_injective {x y : UInt32} :
    hostLong .littleEndian x = hostLong .littleEndian y ↔ x.toNat = y.toNat := by
  constructor
  · intro h
    rw [longBytes_injective .littleEndian (Subtype.ext h)]
  · intro h
    rw [UInt32.toNat_inj.mp h]

theorem hostShort_injective {x y : UInt16} :
    hostShort .littleEndian x = hostShort .littleEndian y ↔ x.toNat = y.toNat := by
  constructor
  · intro h
    rw [shortBytes_injective .littleEndian (Subtype.ext h)]
  · intro h
    rw [UInt16.toNat_inj.mp h]

theorem todo_numbers : Numbers todoParser [.syncId] todoNumbers where
  array f hf := by
    obtain rfl := List.mem_singleton.mp hf
    exact ⟨4, rfl⟩
  mirrored f hf item := by
    obtain rfl := List.mem_singleton.mp hf
    rfl
  determined {i j} := by
    rw [List.forall_mem_singleton]
    simp only [todoNumbers, List.cons.injEq, and_true]
    exact hostLong_injective.symm

theorem address_numbers : Numbers addressParser [.syncId] addressNumbers where
  array f hf := by
    obtain rfl := List.mem_singleton.mp hf
    exact ⟨4, rfl⟩
  mirrored f hf item := by
    obtain rfl := List.mem_singleton.mp hf
    rfl
  determined {i j} := by
    rw [List.forall_mem_singleton]
    simp only [addressNumbers, List.cons.injEq, and_true]
    exact hostLong_injective.symm

def calendarNumberMembers : List CalendarMember :=
  [.syncId, .alarmTime, .repeatPeriod, .repeatPosition]

theorem calendar_numbers : Numbers calendarParser calendarNumberMembers calendarNumbers where
  array := by
    simp only [calendarNumberMembers, List.forall_mem_cons, List.not_mem_nil, false_implies,
      implies_true, and_true]
    exact ⟨⟨4, rfl⟩, ⟨2, rfl⟩, ⟨2, rfl⟩, ⟨2, rfl⟩⟩
  mirrored := by
    simp only [calendarNumberMembers, List.forall_mem_cons, List.not_mem_nil, false_implies,
      implies_true, and_true]
    exact ⟨fun item => rfl, fun item => rfl, fun item => rfl, fun item => rfl⟩
  determined {i j} := by
    simp only [calendarNumberMembers, List.forall_mem_cons, List.not_mem_nil, false_implies,
      implies_true, and_true, calendarNumbers, List.cons.injEq]
    exact and_congr hostLong_injective.symm (and_congr hostShort_injective.symm
      (and_congr hostShort_injective.symm hostShort_injective.symm))

/-- The builds agree on a content exactly when it announces nothing through the
wrong helper, and on the numbers of an item exactly when every parameter fits
its field and what is written to a number reads the same in both directions. -/
theorem builds_agree_iff (z : ZaurusType) (s : List UInt8)
    (hfields : HoldsItsFields .littleEndian z s) (paramFormat : List AdiMsgParam)
    (params : List AdrMsgParam) (hlen : paramFormat.length = params.length)
    (hread : Readable params) :
    (DecodesAlike z s ↔ AnnouncesNone z s) ∧
      (StoresAlike zdtmParseTodoItemParams todoNumbers paramFormat params ↔
        ParamsFit todoParser paramFormat params ∧
          Palindromic todoParser paramFormat params .syncId) ∧
      (StoresAlike zdtmParseCalendarItemParams calendarNumbers paramFormat params ↔
        ParamsFit calendarParser paramFormat params ∧
          ∀ f ∈ calendarNumberMembers, Palindromic calendarParser paramFormat params f) ∧
      (StoresAlike zdtmParseAddressItemParams addressNumbers paramFormat params ↔
        ParamsFit addressParser paramFormat params ∧
          Palindromic addressParser paramFormat params .syncId) := by
  have htodo := storesAlike_iff todo_numbers hlen hread {}
  have hcalendar := storesAlike_iff calendar_numbers hlen hread {}
  have haddress := storesAlike_iff address_numbers hlen hread {}
  rw [List.forall_mem_singleton] at htodo haddress
  exact ⟨decodesAlike_iff hfields, htodo, hcalendar, haddress⟩

/-- An item with one parameter, the synchronization id 1. -/
def oneParam : List UInt8 := [0, 0, 1, 0, 4, 0, 0, 0, 1, 0, 0, 0]

def syncIdFormat : List AdiMsgParam :=
  [{ abrev := abrevOf 'S' 'Y' 'I' 'D', typeId := dataIdUlong }]

def syncIdParams : List AdrMsgParam := [{ paramLen := 4, paramData := some [1, 0, 0, 0] }]

theorem oneParam_holds : HoldsItsFields .littleEndian .adr oneParam := by
  refine ⟨by decide, fun _ => ⟨by decide, trivial⟩⟩

theorem syncIdParams_readable : Readable syncIdParams := by
  intro p hp
  rw [List.mem_singleton.mp hp]
  decide

theorem builds_agree_syncId :
    (DecodesAlike .adr oneParam ↔ AnnouncesNone .adr oneParam) ∧
    (StoresAlike zdtmParseTodoItemParams todoNumbers syncIdFormat syncIdParams ↔
      ParamsFit todoParser syncIdFormat syncIdParams ∧
        Palindromic todoParser syncIdFormat syncIdParams .syncId) :=
  have h := builds_agree_iff .adr oneParam oneParam_holds syncIdFormat syncIdParams rfl
    syncIdParams_readable
  ⟨h.1, h.2.1⟩

/-- The big-endian build finds no parameter in the content, and stores the
synchronization id 1 as 16777216. -/
theorem syncId_differs :
    ¬ DecodesAlike .adr oneParam ∧
      ¬ StoresAlike zdtmParseTodoItemParams todoNumbers syncIdFormat syncIdParams := by
  constructor
  · rw [decodesAlike_iff oneParam_holds]
    change ¬ value [1, 0] = 0
    decide
  · intro h
    obtain ⟨code, little, big, heap', hlittle, hbig, hsame⟩ := h {} (Heap.filled 0)
    have hlittle' : zdtmParseTodoItemParams .littleEndian syncIdFormat syncIdParams {}
        (Heap.filled 0) = .ok ((0, { syncId := 1 }), Heap.filled 0) := rfl
    have hbig' : zdtmParseTodoItemParams .bigEndian syncIdFormat syncIdParams {}
        (Heap.filled 0) = .ok ((0, { syncId := 16777216 }), Heap.filled 0) := rfl
    rw [hlittle'] at hlittle
    rw [hbig'] at hbig
    cases hlittle
    cases hbig
    exact absurd (hsame rfl) (by decide)

end ZdtmDecoding
