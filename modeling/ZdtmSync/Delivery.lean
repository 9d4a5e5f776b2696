import Mathlib.Tactic.IntervalCases
import ZdtmSync.Net

/-!
# What the send loops deliver

Both send loops hand the first byte of their buffer to every `send`. When the
kernel takes a buffer in pieces, the bytes on the wire are therefore the
beginning of the buffer over and over, and they are the buffer itself exactly
when every later piece happens to repeat its beginning.
-/

namespace ZdtmDelivery

open LittleEndian CMemory ZdtmTypes ZdtmCommon ZdtmMsgs ZdtmNet

/-- The same world with a kernel that accepts these counts and then everything. -/
def accepting (w : World) (counts : List Count) : World :=
  { w with sends := counts.map .accepts }

def sizes (counts : List Count) : List Nat := counts.map Subtype.val

/-- Every piece in which a buffer is taken repeats the beginning of the buffer. -/
def Repeats (buf : List UInt8) (counts : List Count) : Prop :=
  ∀ p ∈ Chunked.pieces (sizes counts) 0 buf.length, (buf.drop p.1).take p.2 = buf.take p.2

theorem sendPieces_accepts (buf : List UInt8) (counts : List Count) (off n : Nat) :
    (sendPieces buf (counts.map .accepts) n).1 =
      ((Chunked.pieces (sizes counts) off n).flatMap fun p => buf.take p.2, true) := by
  induction counts generalizing off n with
  | nil =>
    cases n with
    | zero => simp
    | succ n => simp [sendPieces, sizes, Chunked.pieces]
  | cons count counts ih =>
    cases n with
    | zero => simp
    | succ n =>
      have htail := ih (off + min count.1 (n + 1)) (n + 1 - min count.1 (n + 1))
      simp only [sizes] at htail
      simp [sendPieces, sizes, Chunked.pieces, htail]

/-- A send loop over an accepting kernel completes, with the beginning of the
buffer sent for every piece. -/
theorem sendLoop_accepting (sockfd : Sock) (buf : List UInt8) (w : World) (counts : List Count) :
    ∃ sends, sendLoop sockfd buf buf.length (accepting w counts) =
      .ok (true, { w with
        sends
        trace := w.trace ++ ((Chunked.pieces (sizes counts) 0 buf.length).flatMap
          fun p => buf.take p.2).map (.sent sockfd) }) := by
  have hpieces := sendPieces_accepts buf counts 0 buf.length
  refine ⟨(sendPieces buf (counts.map .accepts) buf.length).2, ?_⟩
  simp only [sendLoop, accepting, hpieces]

theorem sent_injective (sockfd : Sock) : Function.Injective (Io.sent sockfd) := by
  intro x y h
  cases h
  rfl

/-- What reached the trace is the buffer, each byte once and in order, exactly
when every piece repeats its beginning. -/
theorem sent_buffer_iff (sockfd : Sock) (buf : List UInt8) (trace : List Io)
    (counts : List Count) :
    trace ++ ((Chunked.pieces (sizes counts) 0 buf.length).flatMap
        fun p => buf.take p.2).map (.sent sockfd) = trace ++ buf.map (.sent sockfd) ↔
      Repeats buf counts := by
  have hiff := Chunked.flatMap_resend_iff buf (sizes counts) 0 buf.length (by omega)
  rw [List.drop_zero, List.take_length] at hiff
  rw [List.append_cancel_left_eq, (List.map_injective_iff.mpr (sent_injective sockfd)).eq_iff,
    hiff]
  rfl

theorem repeats_getElem? {buf : List UInt8} {counts : List Count} (h : Repeats buf counts)
    {p : Nat × Nat} (hp : p ∈ Chunked.pieces (sizes counts) 0 buf.length) {q : Nat}
    (hle : p.1 ≤ q) (hlt : q < p.1 + p.2) : buf[q]? = buf[q - p.1]? := by
  have hi : q - p.1 < p.2 := by omega
  have hq : p.1 + (q - p.1) = q := by omega
  have hget := congrArg (fun l => l[q - p.1]?) (h p hp)
  simpa only [List.getElem?_take_of_lt hi, List.getElem?_drop, hq] using hget

/-- The common message goes out, each of its bytes once and in order. -/
def DeliversCommon (m : CommonMsg) (sockfd : Sock) (w : World) (counts : List Count) : Prop :=
  ∃ w', zdtmSendCommMessageTo sockfd m.bytes (accepting w counts) = .ok (0, w') ∧
    w'.trace = w.trace ++ m.bytes.toList.map (.sent sockfd)

theorem deliversCommon_iff_repeats (m : CommonMsg) (sockfd : Sock) (w : World)
    (counts : List Count) :
    DeliversCommon m sockfd w counts ↔ Repeats m.bytes.toList counts := by
  obtain ⟨sends, hloop⟩ := sendLoop_accepting sockfd m.bytes.toList w counts
  rw [m.bytes.toList_length] at hloop
  have hrun : zdtmSendCommMessageTo sockfd m.bytes (accepting w counts) = .ok (0, _) :=
    bind_ok hloop
  have hsent := sent_buffer_iff sockfd m.bytes.toList w.trace counts
  rw [m.bytes.toList_length] at hsent
  rw [← hsent]
  constructor
  · intro hdelivers
    obtain ⟨w', hw, htrace⟩ := hdelivers
    rw [hrun] at hw
    cases hw
    exact htrace
  · intro htrace
    exact ⟨_, hrun, htrace⟩

/-- The sixth byte of a common message does not occur before it. -/
theorem common_sixth (m : CommonMsg) (o : Nat) (h : 1 ≤ o) (h' : o ≤ 5) :
    m.bytes.toList[5]? ≠ m.bytes.toList[5 - o]? := by
  interval_cases o <;> cases m <;> decide

theorem common_seventh (m : CommonMsg) : m.bytes.toList[6]? ≠ m.bytes.toList[0]? := by
  cases m <;> decide

/-- No second piece of a common message repeats its beginning. -/
theorem repeats_common_iff (m : CommonMsg) (counts : List Count) :
    Repeats m.bytes.toList counts ↔ ∀ count ∈ counts.head?, 7 ≤ count.1 := by
  have hlen : m.bytes.toList.length = 7 := m.bytes.toList_length
  cases counts with
  | nil => simp [Repeats, sizes, Chunked.pieces, hlen]
  | cons count counts =>
    have hpos : 0 < count.1 := count.2
    simp only [List.head?_cons, Option.mem_def, Option.some.injEq, forall_eq']
    constructor
    · intro h
      by_contra hlt
      -- the later pieces cover the rest of the buffer; one of them holds the byte at `q`
      have hmem : ∀ q, count.1 ≤ q → q < 7 → ∃ o, count.1 ≤ o ∧ o ≤ q ∧
          m.bytes.toList[q]? = m.bytes.toList[q - o]? := by
        intro q hq hq7
        have hcover : ∃ p ∈ Chunked.pieces (sizes counts) count.1 (7 - count.1),
            p.1 ≤ q ∧ q < p.1 + p.2 := Chunked.exists_piece hq (by omega)
        obtain ⟨p, hp, hle, hlt'⟩ := hcover
        have hmin : min count.1 7 = count.1 := by omega
        have hp' : p ∈ Chunked.pieces (sizes (count :: counts)) 0 m.bytes.toList.length := by
          rw [hlen]
          simp only [sizes, List.map_cons, Chunked.pieces, hmin, Nat.zero_add]
          exact List.mem_cons_of_mem _ hp
        exact ⟨p.1, Chunked.off_le_of_mem_pieces hp, hle, repeats_getElem? h hp' hle hlt'⟩
      by_cases hfive : count.1 ≤ 5
      · obtain ⟨o, ho, ho5, heq⟩ := hmem 5 hfive (by omega)
        exact common_sixth m o (by omega) ho5 heq
      · obtain ⟨o, ho, ho6, heq⟩ := hmem 6 (by omega) (by omega)
        have hsix : o = 6 := by omega
        subst hsix
        exact common_seventh m heq
    · intro hall
      have hmin : min count.1 7 = 7 := by omega
      simp [Repeats, sizes, Chunked.pieces, hlen, hmin]

/-- The wire message: header, body size, type, content, checksum. -/
def wireLayout (b : Build) (msg : ZdtmMsg) : List UInt8 :=
  msg.header.toList ++ hostShort b msg.bodySize ++ msg.body.type.toList ++
    msg.body.pRawContent.target ++ hostShort b msg.checkSum

/-- The content of a prepared message has the announced size. -/
structure Prepared (msg : ZdtmMsg) : Prop where
  content : msg.body.pRawContent.target.length = msg.contSize.toNat
  contSize : msg.contSize = msg.bodySize - 3

theorem prepared_of_zero {b : Build} {msg msg' : ZdtmMsg} {heap heap' : Heap}
    (h : zdtmPrepareMessage b msg heap = .ok ((0, msg'), heap')) : Prepared msg' := by
  obtain ⟨t, garbage, written, hp, rfl, -⟩ := prepare_zero_iff.mp h
  exact ⟨length_filledBlock garbage hp.fits, rfl⟩

theorem length_wireLayout (b : Build) {msg : ZdtmMsg} (h : Prepared msg) :
    (wireLayout b msg).length = 20 + msg.contSize.toNat := by
  simp only [wireLayout, List.length_append, List.Vector.toList_length, length_hostShort,
    h.content, msgHdrSize, msgTypeSize]
  omega

theorem contSize_of_bodySize {msg : ZdtmMsg} (h : Prepared msg) :
    msg.contSize.toNat = (65533 + msg.bodySize.toNat) % 65536 := by
  rw [h.contSize, UInt16.toNat_sub]
  rfl

/-- The wire message fills its block unless the body size is too small for a type. -/
theorem wireMessage_prepared (b : Build) {msg : ZdtmMsg} (h : Prepared msg) {block : List UInt8}
    (hblock : block.length = 17 + msg.bodySize.toNat) :
    wireMessage b msg block =
      if 3 ≤ msg.bodySize.toNat then .ok (wireLayout b msg) else .error .overrun := by
  have hload : load msg.body.pRawContent msg.contSize.toNat = .ok msg.body.pRawContent.target := by
    rw [load_of_le (by rw [h.content]), ← h.content, List.take_length]
  have hlen := length_wireLayout b h
  have hsub := contSize_of_bodySize h
  have hlt : msg.bodySize.toNat < 65536 := UInt16.toNat_lt _
  have hstore : wireMessage b msg block = store block (wireLayout b msg) := by
    simp only [wireMessage, hload]
    rfl
  rw [hstore]
  split
  · exact store_exact (by omega)
  · exact store_of_lt (by omega)

theorem length_wireLayout_of_le (b : Build) {msg : ZdtmMsg} (h : Prepared msg)
    (hbody : 3 ≤ msg.bodySize.toNat) : (wireLayout b msg).length = 17 + msg.bodySize.toNat := by
  have hlen := length_wireLayout b h
  have hsub := contSize_of_bodySize h
  have hlt : msg.bodySize.toNat < 65536 := UInt16.toNat_lt _
  omega

section Send

variable {b : Build} {msg msg' : ZdtmMsg} {sockfd : Sock} {w : World} {heap : Heap}

theorem send_nomem (h : zdtmPrepareMessage b msg w.heap = .ok ((0, msg'), heap))
    (hnone : heap 0 = none) :
    zdtmSendMessageTo b msg sockfd w =
      .ok ((retMallocFail, zdtmCleanMessage msg'), { w with heap := heap.next }) := by
  unfold zdtmSendMessageTo
  apply (bind_ok (mem_ok h)).trans
  simp only [ne_eq, not_true_eq_false, if_false]
  have hmalloc : mem (malloc (msgHdrSize + 2 + msg'.bodySize.toNat + 2)) { w with heap } =
      .ok (none, { w with heap := heap.next }) := mem_ok (malloc_none hnone _)
  exact bind_ok hmalloc

/-- With a block for the wire message, the send is the send loop over it. -/
theorem send_granted (h : zdtmPrepareMessage b msg w.heap = .ok ((0, msg'), heap))
    {garbage : Nat → UInt8} (hsome : heap 0 = some garbage) (hbody : 3 ≤ msg'.bodySize.toNat) :
    zdtmSendMessageTo b msg sockfd w = (do
      if ← sendLoop sockfd (wireLayout b msg') (wireLayout b msg').length
      then return (0, zdtmCleanMessage msg')
      else return (-2, zdtmCleanMessage msg')) { w with heap := heap.next } := by
  have hp := prepared_of_zero h
  unfold zdtmSendMessageTo
  apply (bind_ok (mem_ok h)).trans
  simp only [ne_eq, not_true_eq_false, if_false]
  have hsize : msgHdrSize + 2 + msg'.bodySize.toNat + 2 = (wireLayout b msg').length := by
    rw [length_wireLayout_of_le b hp hbody, msgHdrSize]
    omega
  have hmalloc : mem (malloc (wireLayout b msg').length) { w with heap } =
      .ok (some ((List.range (wireLayout b msg').length).map garbage),
        { w with heap := heap.next }) := mem_ok (malloc_some hsome _)
  have hwire : wireMessage b msg' ((List.range (wireLayout b msg').length).map garbage) =
      .ok (wireLayout b msg') := by
    rw [wireMessage_prepared b hp (by simp [length_wireLayout_of_le b hp hbody]), if_pos hbody]
  rw [hsize]
  apply (bind_ok hmalloc).trans
  simp only [hwire]
  exact bind_ok (mem_static_ok _ _)

theorem send_overrun (h : zdtmPrepareMessage b msg w.heap = .ok ((0, msg'), heap))
    {garbage : Nat → UInt8} (hsome : heap 0 = some garbage) (hbody : ¬ 3 ≤ msg'.bodySize.toNat) :
    zdtmSendMessageTo b msg sockfd w = .error .overrun := by
  have hp := prepared_of_zero h
  unfold zdtmSendMessageTo
  apply (bind_ok (mem_ok h)).trans
  simp only [ne_eq, not_true_eq_false, if_false]
  have hmalloc : mem (malloc (msgHdrSize + 2 + msg'.bodySize.toNat + 2)) { w with heap } =
      .ok (some ((List.range (msgHdrSize + 2 + msg'.bodySize.toNat + 2)).map garbage),
        { w with heap := heap.next }) := mem_ok (malloc_some hsome _)
  have hwire : wireMessage b msg'
      ((List.range (msgHdrSize + 2 + msg'.bodySize.toNat + 2)).map garbage) = .error .overrun := by
    rw [wireMessage_prepared b hp (by simp [msgHdrSize]; omega), if_neg hbody]
  apply (bind_ok hmalloc).trans
  simp only [hwire]
  exact bind_error (mem_static_error _ _)

end Send

/-- The run returns, and when it returns 0 the wire message went out, each of its
bytes once and in order. -/
def DeliversMessage (b : Build) (msg msg' : ZdtmMsg) (sockfd : Sock) (w : World)
    (counts : List Count) : Prop :=
  ∃ code sent w', zdtmSendMessageTo b msg sockfd (accepting w counts) = .ok ((code, sent), w') ∧
    (code = 0 → w'.trace = w.trace ++ (wireLayout b msg').map (.sent sockfd))

theorem deliversMessage_iff {b : Build} {msg msg' : ZdtmMsg} {w : World} {heap : Heap}
    (h : zdtmPrepareMessage b msg w.heap = .ok ((0, msg'), heap)) (sockfd : Sock)
    (counts : List Count) :
    DeliversMessage b msg msg' sockfd w counts ↔
      heap 0 = none ∨ 3 ≤ msg'.bodySize.toNat ∧ Repeats (wireLayout b msg') counts := by
  have hacc : zdtmPrepareMessage b msg (accepting w counts).heap = .ok ((0, msg'), heap) := h
  cases hh : heap 0 with
  | none =>
    refine iff_of_true ⟨_, _, _, send_nomem hacc hh, ?_⟩ (Or.inl rfl)
    intro hcode
    cases hcode
  | some garbage =>
    by_cases hbody : 3 ≤ msg'.bodySize.toNat
    · simp only [reduceCtorEq, false_or, hbody, true_and]
      obtain ⟨sends, hloop⟩ :=
        sendLoop_accepting sockfd (wireLayout b msg') { w with heap := heap.next } counts
      have hrun : zdtmSendMessageTo b msg sockfd (accepting w counts) =
          .ok ((0, zdtmCleanMessage msg'), _) :=
        (send_granted hacc hh hbody).trans (bind_ok hloop)
      rw [← sent_buffer_iff sockfd (wireLayout b msg') w.trace counts]
      constructor
      · intro hdelivers
        obtain ⟨code, sent, w', hw, htrace⟩ := hdelivers
        rw [hrun] at hw
        cases hw
        exact htrace rfl
      · intro htrace
        exact ⟨_, _, _, hrun, fun _ => htrace⟩
    · refine iff_of_false ?_ (by simp [hbody])
      intro hdelivers
      obtain ⟨code, sent, w', hw, -⟩ := hdelivers
      rw [send_overrun hacc hh hbody] at hw
      cases hw

/-- A general message is delivered exactly when there is no block for its wire
form, or it has one and every piece in which the kernel takes it repeats its
beginning; a common message exactly when it is taken at once. -/
theorem delivery_iff (b : Build) (msg msg' : ZdtmMsg) (sockfd : Sock) (w : World) (heap : Heap)
    (counts : List Count) (h : zdtmPrepareMessage b msg w.heap = .ok ((0, msg'), heap)) :
    (DeliversMessage b msg msg' sockfd w counts ↔
      heap 0 = none ∨ 3 ≤ msg'.bodySize.toNat ∧ Repeats (wireLayout b msg') counts) ∧
    ∀ m, DeliversCommon m sockfd w counts ↔ ∀ count ∈ counts.head?, 7 ≤ count.1 := by
  refine ⟨deliversMessage_iff h sockfd counts, ?_⟩
  intro m
  rw [deliversCommon_iff_repeats, repeats_common_iff]

/-- The first message of a session, over a heap full of zeros. -/
def rayMsg : ZdtmMsg where
  body := { type := DesktopType.ray.bytes }

def rayReady : ZdtmMsg := preparedMessage .littleEndian .ray rayMsg (fun _ => 0) []

def rayWorld : World where
  heap := Heap.filled 0
  inbox := []

theorem rayMsg_prepared :
    zdtmPrepareMessage .littleEndian rayMsg rayWorld.heap =
      .ok ((0, rayReady), rayWorld.heap.next) := by
  have hp : Prepares .littleEndian rayMsg rayWorld.heap .ray (fun _ => 0) { bytes := [] } :=
    ⟨desktopType_bytes .ray, rfl, rfl, rfl, Nat.zero_le _, fun h => absurd h.1 (by decide)⟩
  exact prepare_ok hp

theorem delivery_ray :
    (DeliversMessage .littleEndian rayMsg rayReady .connfd rayWorld [⟨10, by decide⟩] ↔
      rayWorld.heap.next 0 = none ∨ 3 ≤ rayReady.bodySize.toNat ∧
        Repeats (wireLayout .littleEndian rayReady) [⟨10, by decide⟩]) ∧
    ∀ m, DeliversCommon m .connfd rayWorld [⟨10, by decide⟩] ↔
      ∀ count ∈ [(⟨10, by decide⟩ : Count)].head?, 7 ≤ count.1 :=
  delivery_iff .littleEndian rayMsg rayReady .connfd rayWorld rayWorld.heap.next
    [⟨10, by decide⟩] rayMsg_prepared

/-- Taken in two pieces of ten bytes the RAY message is not what arrives, and
neither is an ack of which three bytes are taken first. -/
theorem short_write_resends :
    zdtmPrepareMessage .littleEndian rayMsg rayWorld.heap =
        .ok ((0, rayReady), rayWorld.heap.next) ∧
      ¬ DeliversMessage .littleEndian rayMsg rayReady .connfd rayWorld [⟨10, by decide⟩] ∧
      ¬ DeliversCommon .ack .connfd rayWorld [⟨3, by decide⟩] := by
  refine ⟨rayMsg_prepared, ?_, ?_⟩
  · rw [deliversMessage_iff rayMsg_prepared]
    rintro (h | ⟨-, h⟩)
    · cases h
    · revert h
      unfold Repeats
      decide
  · rw [deliversCommon_iff_repeats]
    unfold Repeats
    decide

end ZdtmDelivery
