import ZdtmSync.Net

/-!
# Framing a received message

The stages of `_zdtm_recv_message` up to the parsing: seven bytes, the rest of
the header with the body size, then as many bytes as that size announces and two
more. What each stage does depends on the stream alone, not on its cuts. The
type and the content are copied out of the body without a look at its size, so
a frame that announces fewer than three bytes is read past its end.
-/

namespace ZdtmFraming

open LittleEndian CMemory ZdtmTypes ZdtmCommon ZdtmMsgs ZdtmNet

/-- The loop obtains what is missing, or the stream ends first and a negative
code says how. -/
theorem recvLoop_cases (tot need : Nat) (w : World) :
    (∃ got inbox, got.length = need - tot ∧
      Chunked.available w.inbox = got ++ Chunked.available inbox ∧
      recvLoop tot need w =
        .ok (.ok got, { w with inbox, trace := w.trace ++ got.map .received })) ∨
    ∃ code w', code < 0 ∧ recvLoop tot need w = .ok (.error code, w') := by
  by_cases hlt : (Chunked.available w.inbox).length < need - tot
  · right
    obtain ⟨inbox, hrun⟩ := recvLoop_short hlt
    refine ⟨_, _, ?_, hrun⟩
    cases Chunked.ending w.inbox with
    | closed =>
      simp only [stopCode]
      split
      · decide
      · decide
    | error =>
      simp only [stopCode]
      decide
  · left
    have hlen : ((Chunked.available w.inbox).take (need - tot)).length = need - tot := by
      rw [List.length_take]
      omega
    obtain ⟨inbox, havail, hrun⟩ :=
      recvLoop_append hlen (List.take_append_drop (need - tot) _).symm
    refine ⟨_, inbox, hlen, ?_, hrun⟩
    rw [havail, List.take_append_drop]

/-- The seven bytes are none of the common messages. -/
def Uncommon (first : List UInt8) : Prop := ∀ m, isCommonMessage m first = false

/-- Only the first seven bytes matter. -/
theorem uncommon_append {first : List UInt8} (h : comMsgSize ≤ first.length)
    (tail : List UInt8) : Uncommon (first ++ tail) ↔ Uncommon first := by
  have htake : ∀ m, isCommonMessage m (first ++ tail) = isCommonMessage m first := by
    intro m
    simp only [isCommonMessage, List.take_append_of_le_length h]
  simp only [Uncommon, htake]

theorem exists_common {first : List UInt8} (hlen : first.length = comMsgSize)
    (h : ¬ Uncommon first) : ∃ m : CommonMsg, first = m.bytes.toList := by
  simp only [Uncommon, not_forall, Bool.not_eq_false, isCommonMessage, decide_eq_true_eq,
    ← hlen, List.take_length] at h
  exact h

def commonCode : CommonMsg → Int
  | .ack => 1
  | .rqst => 2
  | .abrt => 3

/-- What the copies out of a complete frame leave in the message. -/
def framedMsg (msg : ZdtmMsg) (header : Bytes msgHdrSize) (type : MsgType) (content : List UInt8)
    (bodySize checkSum : UInt16) : ZdtmMsg :=
  { msg with
    header, bodySize, checkSum
    contSize := UInt16.ofNat content.length
    body := { msg.body with
      type, pRawContent := if content = [] then none else some content } }

theorem toNat_length {bodySize : UInt16} {content : List UInt8}
    (hsize : bodySize.toNat = msgTypeSize + content.length) :
    (UInt16.ofNat content.length).toNat = content.length := by
  have hlt : bodySize.toNat < 65536 := UInt16.toNat_lt _
  apply UInt16.toNat_ofNat_of_lt'
  change _ < 65536
  omega

/-- From three bytes on the content size does not wrap. -/
theorem sub_msgTypeSize {bodySize : UInt16} {content : List UInt8}
    (hsize : bodySize.toNat = msgTypeSize + content.length) :
    bodySize - UInt16.ofNat msgTypeSize = UInt16.ofNat content.length := by
  have hlt : bodySize.toNat < 65536 := UInt16.toNat_lt _
  apply UInt16.toNat_inj.mp
  rw [toNat_length hsize, UInt16.toNat_sub, hsize]
  change (65536 - 3 + (3 + content.length)) % 65536 = content.length
  rw [hsize, msgTypeSize] at hlt
  omega

theorem copyBytes_append {n : Nat} (v : Bytes n) (tail : List UInt8) :
    copyBytes n (v.toList ++ tail) = .ok v := by
  have hlen : v.toList.length = n := v.toList_length
  have hle : n ≤ (v.toList ++ tail).length := by
    rw [List.length_append]
    omega
  rw [copyBytes, dif_pos hle]
  congr 1
  apply Subtype.ext
  change (v.toList ++ tail).take n = v.toList
  rw [List.take_left' hlen]

theorem copyBytes_short {n : Nat} {src : List UInt8} (h : src.length < n) :
    copyBytes n src = .error .overread := dif_neg (by omega)

theorem copyBytes_error {n : Nat} {src : List UInt8} {e : Fault} (h : copyBytes n src = .error e) :
    e = .overread ∧ src.length < n := by
  by_cases hle : n ≤ src.length
  · rw [copyBytes, dif_pos hle] at h
    cases h
  · have hlt : src.length < n := Nat.lt_of_not_le hle
    rw [copyBytes_short hlt] at h
    cases h
    exact ⟨rfl, hlt⟩

/-- Enough bytes begin with an array of them. -/
theorem exists_prefix {n : Nat} {src : List UInt8} (h : n ≤ src.length) :
    ∃ (v : Bytes n) (tail : List UInt8), src = v.toList ++ tail :=
  ⟨⟨src.take n, List.length_take_of_le h⟩, src.drop n, (List.take_append_drop n src).symm⟩

section Stages

variable {b : Build} {p : Option ZdtmMsg} {msg : ZdtmMsg} {w w' : World} {bodySize : UInt16}
  {header buff : List UInt8}

theorem recvFrame_stopped {code : Int}
    (h : recvLoop 0 comMsgSize w = .ok (.error code, w')) :
    recvFrame b p w = .ok (.returned code p, w') := by
  unfold recvFrame
  exact bind_ok h

/-- Seven bytes of a common message are a message of their own. -/
theorem recvFrame_common {m : CommonMsg}
    (h : recvLoop 0 comMsgSize w = .ok (.ok m.bytes.toList, w')) :
    recvFrame b p w = .ok (.returned (commonCode m) p, w') := by
  unfold recvFrame
  apply (bind_ok h).trans
  cases m with
  | ack => rfl
  | rqst => rfl
  | abrt => rfl

theorem Uncommon.tests {first : List UInt8} (h : Uncommon first) :
    zdtmIsAckMessage first = false ∧ zdtmIsRqstMessage first = false ∧
      zdtmIsAbrtMessage first = false :=
  ⟨h .ack, h .rqst, h .abrt⟩

section Uncommon

variable {first : List UInt8} {w₁ w₂ : World} (h : recvLoop 0 comMsgSize w = .ok (.ok first, w₁))
  (hu : Uncommon first)

include h hu

theorem recvFrame_header {second : List UInt8}
    (h' : recvLoop comMsgSize (msgHdrSize + 2) w₁ = .ok (.ok second, w₂)) :
    recvFrame b p w = recvBody b p (first ++ second) w₂ := by
  obtain ⟨ha, hr, hb⟩ := hu.tests
  unfold recvFrame
  apply (bind_ok h).trans
  simp only [ha, hr, hb, Bool.false_eq_true, if_false]
  exact bind_ok h'

theorem recvFrame_header_stopped {code : Int}
    (h' : recvLoop comMsgSize (msgHdrSize + 2) w₁ = .ok (.error code, w₂)) :
    recvFrame b p w = .ok (.returned code p, w₂) := by
  obtain ⟨ha, hr, hb⟩ := hu.tests
  unfold recvFrame
  apply (bind_ok h).trans
  simp only [ha, hr, hb, Bool.false_eq_true, if_false]
  exact bind_ok h'

end Uncommon

/-- The first two loops: a header with the body size, a common message, or a
stream that ends before. -/
theorem recvFrame_cases (b : Build) (p : Option ZdtmMsg) (w : World) :
    (∃ header inbox, header.length = msgHdrSize + 2 ∧ Uncommon header ∧
      Chunked.available w.inbox = header ++ Chunked.available inbox ∧
      recvFrame b p w =
        recvBody b p header { w with inbox, trace := w.trace ++ header.map .received }) ∨
    (∃ m w', ¬ Uncommon (Chunked.available w.inbox) ∧
      recvFrame b p w = .ok (.returned (commonCode m) p, w')) ∨
    ∃ code w', code < 0 ∧ recvFrame b p w = .ok (.returned code p, w') := by
  rcases recvLoop_cases 0 comMsgSize w with ⟨first, inbox, hlen, havail, hrun⟩ |
    ⟨code, w', hcode, hrun⟩
  · by_cases hu : Uncommon first
    · rcases recvLoop_cases comMsgSize (msgHdrSize + 2)
        { w with inbox, trace := w.trace ++ first.map .received } with
        ⟨second, inbox', hlen', havail', hrun'⟩ | ⟨code, w', hcode, hrun'⟩
      · left
        refine ⟨first ++ second, inbox', ?_, ?_, ?_, ?_⟩
        · rw [List.length_append, hlen, hlen']
          rfl
        · exact (uncommon_append (Nat.le_of_eq hlen.symm) second).mpr hu
        · rw [havail, List.append_assoc]
          exact congrArg _ havail'
        · rw [recvFrame_header hrun hu hrun', List.map_append, ← List.append_assoc]
      · right; right
        exact ⟨code, w', hcode, recvFrame_header_stopped hrun hu hrun'⟩
    · right; left
      obtain ⟨m, rfl⟩ := exists_common hlen hu
      refine ⟨m, _, ?_, recvFrame_common hrun⟩
      rw [havail, uncommon_append (Nat.le_of_eq hlen.symm)]
      exact hu
  · right; right
    exact ⟨code, w', hcode, recvFrame_stopped hrun⟩

/-- A stream with a complete header is read up to the body, however it is cut,
and ends as it did. -/
theorem recvFrame_enough {rest : List UInt8} (hlen : header.length = msgHdrSize + 2)
    (hu : Uncommon header) (h : Chunked.available w.inbox = header ++ rest) :
    ∃ inbox, Chunked.available inbox = rest ∧ Chunked.ending inbox = Chunked.ending w.inbox ∧
      recvFrame b p w =
        recvBody b p header { w with inbox, trace := w.trace ++ header.map .received } := by
  have hfirst : (header.take comMsgSize).length = comMsgSize - 0 := by
    rw [List.length_take, hlen]
    rfl
  have hsecond : (header.drop comMsgSize).length = msgHdrSize + 2 - comMsgSize := by
    rw [List.length_drop, hlen]
  have hsplit : header.take comMsgSize ++ header.drop comMsgSize = header :=
    List.take_append_drop _ _
  have hstream : Chunked.available w.inbox =
      header.take comMsgSize ++ (header.drop comMsgSize ++ rest) := by
    rw [← List.append_assoc, hsplit, h]
  have hu' : Uncommon (header.take comMsgSize) := by
    rw [← uncommon_append (Nat.le_of_eq hfirst.symm) (header.drop comMsgSize), hsplit]
    exact hu
  obtain ⟨inbox, havail, hending, hrun⟩ := recvLoop_enough hfirst hstream
  obtain ⟨inbox', havail', hending', hrun'⟩ := recvLoop_enough (w := { w with
    inbox, trace := w.trace ++ (header.take comMsgSize).map .received }) hsecond havail
  refine ⟨inbox', havail', hending'.trans hending, ?_⟩
  rw [recvFrame_header hrun hu' hrun', List.append_assoc, ← List.map_append, hsplit]

theorem recvFrame_read {rest : List UInt8} (hlen : header.length = msgHdrSize + 2)
    (hu : Uncommon header) (h : Chunked.available w.inbox = header ++ rest) :
    ∃ inbox, Chunked.available inbox = rest ∧ recvFrame b p w =
      recvBody b p header { w with inbox, trace := w.trace ++ header.map .received } := by
  obtain ⟨inbox, havail, -, hrun⟩ := recvFrame_enough hlen hu h
  exact ⟨inbox, havail, hrun⟩

theorem recvBody_nomem (hh : w.heap 0 = none) :
    recvBody b p header w = .ok (.returned (-4) p, { w with heap := w.heap.next }) := by
  unfold recvBody
  exact bind_ok (mem_ok (malloc_none hh _))

section Granted

variable {garbage : Nat → UInt8} (hh : w.heap 0 = some garbage)

include hh

theorem recvBody_filled
    (h : recvLoop 0 ((getShort b (header.drop msgHdrSize)).toNat + 2)
      { w with heap := w.heap.next } = .ok (.ok buff, w')) :
    recvBody b p header w =
      fillMessage b p header buff (getShort b (header.drop msgHdrSize)) w' := by
  unfold recvBody
  apply (bind_ok (mem_ok (malloc_some hh _))).trans
  exact bind_ok h

theorem recvBody_stopped {code : Int}
    (h : recvLoop 0 ((getShort b (header.drop msgHdrSize)).toNat + 2)
      { w with heap := w.heap.next } = .ok (.error code, w')) :
    recvBody b p header w = .ok (.returned code p, w') := by
  unfold recvBody
  apply (bind_ok (mem_ok (malloc_some hh _))).trans
  exact bind_ok h

end Granted

/-- A stream with a complete body and checksum is read to their end. -/
theorem recvBody_read {garbage : Nat → UInt8} {rest : List UInt8} (hh : w.heap 0 = some garbage)
    (hsize : getShort b (header.drop msgHdrSize) = bodySize)
    (hlen : buff.length = bodySize.toNat + 2) (h : Chunked.available w.inbox = buff ++ rest) :
    ∃ inbox, Chunked.available inbox = rest ∧ recvBody b p header w =
      fillMessage b p header buff bodySize
        { w with heap := w.heap.next, inbox, trace := w.trace ++ buff.map .received } := by
  subst hsize
  have hneed : buff.length = (getShort b (header.drop msgHdrSize)).toNat + 2 - 0 := hlen
  obtain ⟨inbox, havail, hrun⟩ :=
    recvLoop_append (w := { w with heap := w.heap.next }) hneed h
  exact ⟨inbox, havail, recvBody_filled hh hrun⟩

theorem fillMessage_null :
    fillMessage b none header buff bodySize w = .ok (.returned (-5) none, w) := rfl

theorem fillMessage_used (hr : msg.body.pRawContent ≠ none) :
    fillMessage b (some msg) header buff bodySize w = .ok (.returned (-6) (some msg), w) := by
  simp only [fillMessage, if_pos hr, ZdtmNet.pure_run]

/-- A body of fewer than three bytes is read past its end, given a heap that
grants the blocks. -/
theorem fillMessage_short (hr : msg.body.pRawContent = none) (hheader : msgHdrSize ≤ header.length)
    (hbuff : buff.length = bodySize.toNat + 2) (hlt : bodySize.toNat < 3)
    {garbage : Nat → UInt8} (hh : w.heap 0 = some garbage) :
    fillMessage b (some msg) header buff bodySize w = .error .overread := by
  obtain ⟨hdr, tail, rfl⟩ := exists_prefix hheader
  simp only [fillMessage, hr, ne_eq, not_true_eq_false, if_false, copyBytes_append]
  apply (bind_ok (mem_static_ok hdr w)).trans
  by_cases htype : buff.length < msgTypeSize
  · rw [copyBytes_short htype]
    exact bind_error (mem_static_error _ w)
  · have hsub : (bodySize - UInt16.ofNat msgTypeSize).toNat =
        (65533 + bodySize.toNat) % 65536 := by
      rw [UInt16.toNat_sub]
      rfl
    have hne : ¬ bodySize - UInt16.ofNat msgTypeSize = 0 := by
      intro hz
      rw [hz] at hsub
      change 0 = _ at hsub
      omega
    have hload : load (some (buff.drop msgTypeSize)) (bodySize - UInt16.ofNat msgTypeSize).toNat =
        .error .overread := by
      apply load_of_lt
      rw [Ptr.target_some, List.length_drop, hsub, msgTypeSize]
      omega
    obtain ⟨type, rest, rfl⟩ := exists_prefix (Nat.le_of_not_lt htype)
    simp only [copyBytes_append, if_neg hne, hload]
    apply (bind_ok (mem_static_ok type w)).trans
    apply (bind_ok (mem_ok (malloc_some hh _))).trans
    exact bind_error (mem_static_error _ _)

/-- A body of at least three bytes is taken apart, unless there is no block for
its content. -/
theorem fillMessage_framed (hr : msg.body.pRawContent = none) (hdr : Bytes msgHdrSize)
    (tail : List UInt8) (type : MsgType) (content sum : List UInt8)
    (hsize : bodySize.toNat = msgTypeSize + content.length) :
    fillMessage b (some msg) (hdr.toList ++ tail) (type.toList ++ (content ++ sum)) bodySize w =
      if content = [] then
        .ok (.received (framedMsg msg hdr type content bodySize (getShort b sum)), w)
      else .ok (match w.heap 0 with
        | some _ => .received (framedMsg msg hdr type content bodySize (getShort b sum))
        | none => .returned retMemContent (some (withRaw
            (framedMsg msg hdr type content bodySize msg.checkSum) none)),
        { w with heap := w.heap.next }) := by
  have htype : type.toList.length = msgTypeSize := type.toList_length
  have hlen := toNat_length hsize
  have hcont := sub_msgTypeSize hsize
  have hbody : (type.toList ++ (content ++ sum)).drop msgTypeSize = content ++ sum :=
    List.drop_left' htype
  have hsum : (type.toList ++ (content ++ sum)).drop bodySize.toNat = sum := by
    rw [hsize, ← List.drop_drop, hbody, List.drop_left]
  have hload : load (some (content ++ sum)) content.length = .ok content := by
    rw [load_of_le (by simp), Ptr.target_some, List.take_left]
  have hzero : UInt16.ofNat content.length = 0 ↔ content = [] := by
    rw [← UInt16.toNat_inj, hlen]
    exact List.length_eq_zero_iff
  simp only [fillMessage, hr, ne_eq, not_true_eq_false, if_false, copyBytes_append]
  apply (bind_ok (mem_static_ok hdr w)).trans
  apply (bind_ok (mem_static_ok type w)).trans
  simp only [hcont, hsum, hbody, hlen, hload, hzero]
  by_cases hnil : content = []
  · simp only [if_pos hnil]
    simp [framedMsg, hnil]
  · simp only [if_neg hnil]
    cases hh : w.heap 0 with
    | none =>
      apply (bind_ok (mem_ok (malloc_none hh _))).trans
      simp [framedMsg, withRaw]
    | some garbage =>
      apply (bind_ok (mem_ok (malloc_some hh _))).trans
      apply (bind_ok (mem_static_ok content _)).trans
      simp [framedMsg, withRaw, hnil]

/-- The message can be filled in: it is there and holds no raw content. -/
def Fillable (p : Option ZdtmMsg) : Prop := ∃ msg, p = some msg ∧ msg.body.pRawContent = none

/-- The stream begins with a header that is no common message, and a body size. -/
structure Announces (stream : List UInt8) (n : Nat) : Prop where
  header : msgHdrSize + 2 ≤ stream.length
  uncommon : Uncommon stream
  size : value ((stream.drop msgHdrSize).take 2) = n

theorem toNat_getShort (b : Build) {bs : List UInt8} (h : bs.length = 2) :
    (getShort b bs).toNat = value bs := by
  have hlt : value bs < 2 ^ 16 := by simpa [h] using value_lt bs
  rw [getShort_eq b h, UInt16.toNat_ofNat_of_lt' hlt]

theorem announces_iff {header rest : List UInt8} (hlen : header.length = msgHdrSize + 2)
    (b : Build) (n : Nat) :
    Announces (header ++ rest) n ↔
      Uncommon (header ++ rest) ∧ (getShort b (header.drop msgHdrSize)).toNat = n := by
  have hdrop : (header.drop msgHdrSize).length = 2 := by
    rw [List.length_drop]
    omega
  have htake : ((header ++ rest).drop msgHdrSize).take 2 = header.drop msgHdrSize := by
    rw [List.drop_append_of_le_length (by omega), List.take_left' hdrop]
  rw [toNat_getShort b hdrop, ← htake]
  constructor
  · rintro ⟨-, hu, hn⟩
    exact ⟨hu, hn⟩
  · rintro ⟨hu, hn⟩
    exact ⟨by rw [List.length_append]; omega, hu, hn⟩

/-- A short frame is reported by a negative code, and a message that goes on to
be parsed has the content size of its body size. -/
def Reports (short : Prop) : Framed → Prop
  | .returned code _ => short → code < 0
  | .received msg => ¬ short ∧ msg.contSize.toNat + msgTypeSize = msg.bodySize.toNat

/-- The framing returns, whatever the heap does, and reports short frames. -/
def FramesInBounds (b : Build) (p : Option ZdtmMsg) (inbox : List (Chunked.Event UInt8)) : Prop :=
  ∀ w : World, w.inbox = inbox → ∃ framed w', recvFrame b p w = .ok (framed, w') ∧
    Reports (∃ n < msgTypeSize, Announces (Chunked.available inbox) n) framed

/-- The stream holds a complete frame that announces fewer than three bytes, and
there is a message to fill in. -/
def TakesShortFrame (p : Option ZdtmMsg) (stream : List UInt8) : Prop :=
  Fillable p ∧ ∃ n < msgTypeSize, Announces stream n ∧ msgHdrSize + 2 + (n + 2) ≤ stream.length

theorem framedMsg_reports {hdr : Bytes msgHdrSize} {type : MsgType} {content : List UInt8}
    {checkSum : UInt16} (hsize : bodySize.toNat = msgTypeSize + content.length) :
    Reports (bodySize.toNat < msgTypeSize)
      (.received (framedMsg msg hdr type content bodySize checkSum)) := by
  have hlen := toNat_length hsize
  constructor
  · omega
  · change (UInt16.ofNat content.length).toNat + msgTypeSize = bodySize.toNat
    omega

/-- A complete frame is reported unless it is short and there is a message to fill in. -/
theorem fillMessage_reports (hheader : msgHdrSize ≤ header.length)
    (hbuff : buff.length = bodySize.toNat + 2) (hfill : bodySize.toNat < msgTypeSize → ¬ Fillable p)
    (w : World) :
    ∃ framed w', fillMessage b p header buff bodySize w = .ok (framed, w') ∧
      Reports (bodySize.toNat < msgTypeSize) framed := by
  cases p with
  | none => exact ⟨_, _, fillMessage_null, fun _ => by decide⟩
  | some msg =>
    by_cases hr : msg.body.pRawContent = none
    · have hle : msgTypeSize ≤ bodySize.toNat := by
        by_contra hlt
        exact hfill (by omega) ⟨msg, rfl, hr⟩
      obtain ⟨hdr, tail, rfl⟩ := exists_prefix hheader
      have htype : msgTypeSize ≤ buff.length := by omega
      obtain ⟨type, rest, rfl⟩ := exists_prefix htype
      have hlen : msgTypeSize + rest.length = bodySize.toNat + 2 := by
        rw [← hbuff, List.length_append, type.toList_length]
      obtain ⟨content, sum, rfl, hcont⟩ : ∃ content sum, rest = content ++ sum ∧
          bodySize.toNat = msgTypeSize + content.length := by
        refine ⟨rest.take (bodySize.toNat - msgTypeSize), rest.drop (bodySize.toNat - msgTypeSize),
          (List.take_append_drop ..).symm, ?_⟩
        rw [List.length_take]
        omega
      rw [fillMessage_framed hr hdr tail type content sum hcont]
      by_cases hnil : content = []
      · rw [if_pos hnil]
        exact ⟨_, _, rfl, framedMsg_reports hcont⟩
      · rw [if_neg hnil]
        cases hh : w.heap 0 with
        | none => exact ⟨_, _, rfl, fun _ => by decide⟩
        | some garbage => exact ⟨_, _, rfl, framedMsg_reports hcont⟩
    · exact ⟨_, _, fillMessage_used hr, fun _ => by decide⟩

theorem recvBody_reports (hheader : header.length = msgHdrSize + 2)
    (hfill : (getShort b (header.drop msgHdrSize)).toNat < msgTypeSize →
      (getShort b (header.drop msgHdrSize)).toNat + 2 ≤ (Chunked.available w.inbox).length →
      ¬ Fillable p) :
    ∃ framed w', recvBody b p header w = .ok (framed, w') ∧
      Reports ((getShort b (header.drop msgHdrSize)).toNat < msgTypeSize) framed := by
  cases hh : w.heap 0 with
  | none => exact ⟨_, _, recvBody_nomem hh, fun _ => by decide⟩
  | some garbage =>
    rcases recvLoop_cases 0 ((getShort b (header.drop msgHdrSize)).toNat + 2)
      { w with heap := w.heap.next } with ⟨buff, inbox, hlen, havail, hrun⟩ |
        ⟨code, w', hcode, hrun⟩
    · rw [recvBody_filled hh hrun]
      refine fillMessage_reports (by omega) hlen ?_ _
      intro hshort
      apply hfill hshort
      change Chunked.available w.inbox = _ at havail
      rw [havail, List.length_append]
      omega
    · exact ⟨_, _, recvBody_stopped hh hrun, fun _ => hcode⟩

theorem Reports.mono {short short' : Prop} {framed : Framed} (h : short → short')
    (hr : Reports short' framed) : Reports short framed := by
  cases framed with
  | returned code p => exact fun hs => hr (h hs)
  | received msg => exact ⟨fun hs => hr.1 (h hs), hr.2⟩

theorem recvFrame_reports (hfill : ¬ TakesShortFrame p (Chunked.available w.inbox)) :
    ∃ framed w', recvFrame b p w = .ok (framed, w') ∧
      Reports (∃ n < msgTypeSize, Announces (Chunked.available w.inbox) n) framed := by
  rcases recvFrame_cases b p w with ⟨header, inbox, hlen, hu, havail, hrun⟩ |
    ⟨m, w', hu, hrun⟩ | ⟨code, w', hcode, hrun⟩
  · have hann : ∀ n, Announces (Chunked.available w.inbox) n ↔
        (getShort b (header.drop msgHdrSize)).toNat = n := by
      intro n
      rw [havail, announces_iff hlen b, uncommon_append (by rw [hlen]; decide)]
      exact and_iff_right hu
    rw [hrun]
    obtain ⟨framed, w', hbody, hreports⟩ := recvBody_reports (p := p) (b := b)
      (w := { w with inbox, trace := w.trace ++ header.map .received }) hlen (by
      intro hshort hlong hp
      refine hfill ⟨hp, _, hshort, (hann _).mpr rfl, ?_⟩
      rw [havail, List.length_append, hlen]
      exact Nat.add_le_add_left hlong _)
    refine ⟨framed, w', hbody, hreports.mono ?_⟩
    intro hannounced
    obtain ⟨n, hn, h⟩ := hannounced
    rw [(hann n).mp h]
    exact hn
  · refine ⟨_, _, hrun, ?_⟩
    intro hannounced
    obtain ⟨n, -, h⟩ := hannounced
    exact absurd h.uncommon hu
  · exact ⟨_, _, hrun, fun _ => hcode⟩

/-- Over a heap that grants its blocks a complete short frame is read past its end. -/
theorem recvFrame_short (hfill : TakesShortFrame p (Chunked.available w.inbox))
    (hu : w.heap.Unlimited) : recvFrame b p w = .error .overread := by
  obtain ⟨⟨msg, rfl, hr⟩, n, hn, hann, hlong⟩ := hfill
  obtain ⟨header, rest, hlen, hstream⟩ : ∃ header rest, header.length = msgHdrSize + 2 ∧
      Chunked.available w.inbox = header ++ rest :=
    ⟨_, _, List.length_take_of_le (by omega), (List.take_append_drop (msgHdrSize + 2) _).symm⟩
  rw [hstream, announces_iff hlen b, uncommon_append (by rw [hlen]; decide)] at hann
  obtain ⟨huncommon, hsize⟩ := hann
  rw [hstream, List.length_append, hlen] at hlong
  obtain ⟨buff, tail, hbuff, rfl⟩ : ∃ buff tail, buff.length = n + 2 ∧ rest = buff ++ tail :=
    ⟨_, _, List.length_take_of_le (by omega), (List.take_append_drop (n + 2) _).symm⟩
  obtain ⟨inbox, havail, hframe⟩ := recvFrame_read (b := b) (p := some msg) hlen huncommon hstream
  obtain ⟨garbage, hgarbage⟩ := hu.exists_block
  obtain ⟨garbage', hgarbage'⟩ := hu.next.exists_block
  subst hsize
  obtain ⟨inbox', -, hbody⟩ := recvBody_read (b := b) (p := some msg)
    (w := { w with inbox, trace := w.trace ++ header.map .received }) hgarbage rfl hbuff havail
  rw [hframe, hbody]
  exact fillMessage_short hr (by omega) hbuff hn hgarbage'

/-- The framing stays inside the bytes it received, and reports a frame that
announces fewer than three, exactly when it is not given such a frame in full
together with a message to fill in. -/
theorem frames_in_bounds_iff (b : Build) (p : Option ZdtmMsg)
    (inbox : List (Chunked.Event UInt8)) :
    FramesInBounds b p inbox ↔ ¬ TakesShortFrame p (Chunked.available inbox) := by
  constructor
  · intro h hshort
    obtain ⟨framed, w', hrun, -⟩ := h { heap := Heap.filled 0, inbox } rfl
    rw [recvFrame_short hshort (Heap.filled_unlimited 0)] at hrun
    cases hrun
  · rintro h w rfl
    exact recvFrame_reports h

end Stages

/-- A frame that announces two bytes: no header is checked, so zeros will do. -/
def shortFrame : List UInt8 := List.replicate msgHdrSize 0 ++ [2, 0, 0x41, 0x45, 0, 0]

def shortWorld : World where
  heap := Heap.filled 0
  inbox := [.data shortFrame (by decide)]

/-- The content size of the frame wraps to 65535 and the copy of the content
leaves the four bytes that were received. -/
theorem shortFrame_overread :
    recvFrame .littleEndian (some {}) shortWorld = .error .overread ∧
      ¬ FramesInBounds .littleEndian (some {}) shortWorld.inbox := by
  have hrun : recvFrame .littleEndian (some {}) shortWorld = .error .overread := rfl
  refine ⟨hrun, ?_⟩
  intro h
  obtain ⟨framed, w', hok, -⟩ := h shortWorld rfl
  rw [hrun] at hok
  cases hok

end ZdtmFraming
