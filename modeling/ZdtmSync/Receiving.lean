import ZdtmSync.Framing
import ZdtmSync.Parsing

/-!
# Receiving a stream of messages

A peer sends common messages and general messages back to back. Each call of
`_zdtm_recv_message` on a zeroed message takes exactly the next of them from
the stream, however the stream is cut.
-/

namespace ZdtmReceiving

open LittleEndian CMemory ZdtmTypes ZdtmCommon ZdtmMsgs ZdtmNet ZdtmParsing ZdtmFraming

/-- Any frame that the receiver takes for a general message, whatever its body. -/
structure GeneralFrame where
  header : Bytes msgHdrSize
  body : List UInt8
  checkSum : UInt16
  uncommon : Uncommon header.toList
  fits : body.length < 65536

namespace GeneralFrame

def bytes (f : GeneralFrame) : List UInt8 :=
  f.header.toList ++ LittleEndian.bytes 2 f.body.length ++
    (f.body ++ LittleEndian.bytes 2 f.checkSum.toNat)

@[simp] theorem length_bytes (f : GeneralFrame) :
    f.bytes.length = msgHdrSize + 2 + (f.body.length + 2) := by
  simp [bytes, Nat.add_assoc]

end GeneralFrame

/-- A general message of the Zaurus: any header that is no common message, any
checksum, and a content that holds the fields of its type. -/
structure Frame (b : Build) where
  header : Bytes msgHdrSize
  type : ZaurusType
  content : List UInt8
  checkSum : UInt16
  uncommon : Uncommon header.toList
  fits : msgTypeSize + content.length < 65536
  holds : HoldsItsFields b type content

theorem framedMsg_target (msg : ZdtmMsg) (header : Bytes msgHdrSize) (type : MsgType)
    (content : List UInt8) (bodySize checkSum : UInt16) :
    (framedMsg msg header type content bodySize checkSum).body.pRawContent.target = content := by
  by_cases hnil : content = []
  · simp [framedMsg, hnil]
  · simp [framedMsg, hnil]

inductive Item (b : Build) where
  | common (m : CommonMsg)
  | general (f : Frame b)

variable {b : Build}

namespace Frame

def bodySize (f : Frame b) : UInt16 := UInt16.ofNat (msgTypeSize + f.content.length)

/-- The frame on the wire. -/
def bytes (f : Frame b) : List UInt8 :=
  f.header.toList ++ LittleEndian.bytes 2 (msgTypeSize + f.content.length) ++
    (f.type.bytes.toList ++ (f.content ++ LittleEndian.bytes 2 f.checkSum.toNat))

/-- The frame without regard to what its content holds. -/
def general (f : Frame b) : GeneralFrame where
  header := f.header
  body := f.type.bytes.toList ++ f.content
  checkSum := f.checkSum
  uncommon := f.uncommon
  fits := by
    rw [List.length_append, List.Vector.toList_length]
    exact f.fits

@[simp] theorem bytes_general (f : Frame b) : f.general.bytes = f.bytes := by
  simp [general, GeneralFrame.bytes, bytes]

/-- The fields that the content holds. -/
def cont (f : Frame b) : SpecTypeContent :=
  match contentLayout b f.type {} f.content with
  | some (cont, _) => cont
  | none => {}

/-- A zeroed message with the frame in it, before the content is parsed. -/
def framed (f : Frame b) : ZdtmMsg :=
  framedMsg {} f.header f.type.bytes f.content f.bodySize f.checkSum

/-- The message as it is received. -/
def msg (f : Frame b) : ZdtmMsg := withCont f.framed f.cont

theorem toNat_bodySize (f : Frame b) : f.bodySize.toNat = msgTypeSize + f.content.length :=
  UInt16.toNat_ofNat_of_lt' f.fits

theorem framed_target (f : Frame b) : f.framed.body.pRawContent.target = f.content :=
  framedMsg_target ..

theorem layout_cont (f : Frame b) : ∃ rest, contentLayout b f.type f.framed.body.cont
    f.framed.body.pRawContent.target = some (f.cont, rest) := by
  rw [framed_target]
  change ∃ rest, contentLayout b f.type {} f.content = some (f.cont, rest)
  have hsome := (contentLayout_accepts b f.type {} f.content).mpr f.holds
  obtain ⟨⟨cont, rest⟩, hlayout⟩ := Option.isSome_iff_exists.mp hsome
  refine ⟨rest, ?_⟩
  simp only [Frame.cont, hlayout]

end Frame

def Item.bytes : Item b → List UInt8
  | .common m => m.bytes.toList
  | .general f => f.bytes

/-- What receiving the item returns, and the message that was zeroed before. -/
def Item.result : Item b → Int × Option ZdtmMsg
  | .common m => (commonCode m, some {})
  | .general f => (0, some f.msg)

/-- Successive calls, each on a zeroed message. -/
def recvMany (b : Build) : Nat → Sys (List (Int × Option ZdtmMsg))
  | 0 => return []
  | n + 1 => do
    let r ← zdtmRecvMessage b (some {})
    let rs ← recvMany b n
    return r :: rs

section Recv

variable {w : World} {rest : List UInt8}

theorem recv_common (m : CommonMsg) (hheap : w.heap.Unlimited)
    (h : Chunked.available w.inbox = m.bytes.toList ++ rest) :
    ∃ w', zdtmRecvMessage b (some {}) w = .ok ((commonCode m, some {}), w') ∧
      Chunked.available w'.inbox = rest ∧ w'.heap.Unlimited := by
  have hlen : m.bytes.toList.length = comMsgSize - 0 := m.bytes.toList_length
  obtain ⟨inbox, havail, hrun⟩ := recvLoop_append hlen h
  refine ⟨{ w with inbox, trace := w.trace ++ m.bytes.toList.map .received }, ?_, havail, hheap⟩
  unfold zdtmRecvMessage
  exact bind_ok (recvFrame_common hrun)

/-- The framing takes any body of at least a type off the stream. -/
theorem recvFrame_any (header : Bytes msgHdrSize) (type : MsgType) (content : List UInt8)
    (checkSum : UInt16) (huncommon : Uncommon header.toList)
    (hfits : msgTypeSize + content.length < 65536) (hheap : w.heap.Unlimited)
    (h : Chunked.available w.inbox =
      header.toList ++ LittleEndian.bytes 2 (msgTypeSize + content.length) ++
        ((type.toList ++ (content ++ LittleEndian.bytes 2 checkSum.toNat)) ++ rest)) :
    ∃ w', recvFrame b (some {}) w = .ok (.received (framedMsg {} header type content
        (UInt16.ofNat (msgTypeSize + content.length)) checkSum), w') ∧
      Chunked.available w'.inbox = rest ∧ w'.heap.Unlimited := by
  have hsize : (UInt16.ofNat (msgTypeSize + content.length)).toNat = msgTypeSize + content.length :=
    UInt16.toNat_ofNat_of_lt' hfits
  have hheader : header.toList.length = msgHdrSize := header.toList_length
  have hlen : (header.toList ++ LittleEndian.bytes 2 (msgTypeSize + content.length)).length =
      msgHdrSize + 2 := by
    rw [List.length_append, hheader, length_bytes]
  have hstart : Uncommon (header.toList ++ LittleEndian.bytes 2 (msgTypeSize + content.length)) :=
    (uncommon_append (by rw [hheader]; decide) _).mpr huncommon
  have hannounced : getShort b ((header.toList ++
      LittleEndian.bytes 2 (msgTypeSize + content.length)).drop msgHdrSize) =
        UInt16.ofNat (msgTypeSize + content.length) := by
    rw [List.drop_left' hheader, getShort_eq b (length_bytes 2 _), value_bytes_of_lt hfits]
  have hbody : (type.toList ++ (content ++ LittleEndian.bytes 2 checkSum.toNat)).length =
      (UInt16.ofNat (msgTypeSize + content.length)).toNat + 2 := by
    simp only [List.length_append, List.Vector.toList_length, length_bytes, hsize]
    omega
  have hsum : getShort b (LittleEndian.bytes 2 checkSum.toNat) = checkSum := by
    rw [getShort_eq b (length_bytes 2 _), value_bytes_of_lt (UInt16.toNat_lt _)]
    simp
  obtain ⟨inbox, havail, hframe⟩ := recvFrame_read (b := b) (p := some {}) hlen hstart h
  obtain ⟨garbage, hgarbage⟩ := hheap.exists_block
  obtain ⟨inbox', havail', hbody'⟩ := recvBody_read (b := b) (p := some {})
    (w := { w with inbox, trace := w.trace ++ (header.toList ++ LittleEndian.bytes 2
      (msgTypeSize + content.length)).map .received }) hgarbage hannounced hbody havail
  rw [hframe, hbody', fillMessage_framed rfl header _ type content _ hsize, hsum]
  by_cases hnil : content = []
  · rw [if_pos hnil]
    exact ⟨_, rfl, havail', hheap.next⟩
  · obtain ⟨garbage', hgarbage'⟩ := hheap.next.exists_block
    rw [if_neg hnil]
    simp only [hgarbage']
    exact ⟨_, rfl, havail', hheap.next.next⟩

/-- The framing takes the frame, its body and its checksum off the stream. -/
theorem recvFrame_frame (f : Frame b) (hheap : w.heap.Unlimited)
    (h : Chunked.available w.inbox = f.bytes ++ rest) :
    ∃ w', recvFrame b (some {}) w = .ok (.received f.framed, w') ∧
      Chunked.available w'.inbox = rest ∧ w'.heap.Unlimited := by
  rw [Frame.bytes, List.append_assoc] at h
  exact recvFrame_any f.header f.type.bytes f.content f.checkSum f.uncommon f.fits hheap h

theorem recv_frame (f : Frame b) (hheap : w.heap.Unlimited)
    (h : Chunked.available w.inbox = f.bytes ++ rest) :
    ∃ w', zdtmRecvMessage b (some {}) w = .ok ((0, some f.msg), w') ∧
      Chunked.available w'.inbox = rest ∧ w'.heap.Unlimited := by
  obtain ⟨w', hframe, havail, hheap'⟩ := recvFrame_frame f hheap h
  obtain ⟨tail, hlayout⟩ := f.layout_cont
  have htype : zaurusType f.framed.body.type = some f.type := zaurusType_bytes f.type
  obtain ⟨heap, hparse, hheap''⟩ := parse_accepted htype hlayout hheap'
  refine ⟨{ w' with heap }, ?_, havail, hheap''⟩
  unfold zdtmRecvMessage
  apply (bind_ok hframe).trans
  exact bind_ok (mem_ok hparse)

end Recv

/-- One call takes one item. -/
theorem recv_item (item : Item b) {w : World} {rest : List UInt8} (hheap : w.heap.Unlimited)
    (h : Chunked.available w.inbox = item.bytes ++ rest) :
    ∃ w', zdtmRecvMessage b (some {}) w = .ok (item.result, w') ∧
      Chunked.available w'.inbox = rest ∧ w'.heap.Unlimited := by
  cases item with
  | common m => exact recv_common m hheap h
  | general f => exact recv_frame f hheap h

/-- The bytes that were received between two worlds, in which nothing was sent. -/
structure Takes (w w' : World) (got : List UInt8) : Prop where
  trace : w'.trace = w.trace ++ got.map .received
  sends : w'.sends = w.sends

theorem Takes.nothing (w : World) (heap : Heap) : Takes w { w with heap } [] :=
  ⟨(List.append_nil _).symm, rfl⟩

theorem Takes.trans {w w' w'' : World} {got got' : List UInt8} (h : Takes w w' got)
    (h' : Takes w' w'' got') : Takes w w'' (got ++ got') := by
  constructor
  · rw [h'.trace, h.trace, List.map_append, List.append_assoc]
  · rw [h'.sends, h.sends]

theorem recvLoop_takes (tot need : Nat) (w : World) :
    (∃ got w', recvLoop tot need w = .ok (.ok got, w') ∧ Takes w w' got ∧ w'.heap = w.heap ∧
      got.length = need - tot ∧ Chunked.available w.inbox = got ++ Chunked.available w'.inbox) ∨
    ∃ code got w', code < 0 ∧ recvLoop tot need w = .ok (.error code, w') ∧ Takes w w' got := by
  rcases recvLoop_cases tot need w with ⟨got, inbox, hlen, havail, hrun⟩ | ⟨code, w', hcode, hrun⟩
  · exact Or.inl ⟨got, _, hrun, ⟨rfl, rfl⟩, rfl, hlen, havail⟩
  · right
    have htakes : ∃ got, Takes w w' got := by
      simp only [recvLoop] at hrun
      split at hrun
      · cases hrun
      · cases hrun
        exact ⟨_, rfl, rfl⟩
    obtain ⟨got, htakes⟩ := htakes
    exact ⟨code, got, w', hcode, hrun, htakes⟩

/-- How the framing of a zeroed message ended and which bytes it took: a common
message, a general one, or a failure. -/
inductive FramedBy (stream got rest : List UInt8) : Framed → Prop
  | common (m : CommonMsg) (htook : got = m.bytes.toList) (hstream : stream = got ++ rest) :
      FramedBy stream got rest (.returned (commonCode m) (some {}))
  | general (header : Bytes msgHdrSize) (type : MsgType) (content : List UInt8) (checkSum : UInt16)
      (huncommon : Uncommon header.toList) (hfits : msgTypeSize + content.length < 65536)
      (htook : got = header.toList ++ LittleEndian.bytes 2 (msgTypeSize + content.length) ++
        (type.toList ++ (content ++ LittleEndian.bytes 2 checkSum.toNat)))
      (hstream : stream = got ++ rest) :
      FramedBy stream got rest (.received (framedMsg {} header type content
        (UInt16.ofNat (msgTypeSize + content.length)) checkSum))
  | failed (code : Int) (p : Option ZdtmMsg) (hcode : code < 0) :
      FramedBy stream got rest (.returned code p)

/-- The same for any message: it stays as it is, unless it can be filled in and a
general message came, or there was no block for the content of one. -/
inductive FramedFrom (p : Option ZdtmMsg) (stream got rest : List UInt8) : Framed → Prop
  | common (m : CommonMsg) (htook : got = m.bytes.toList) (hstream : stream = got ++ rest) :
      FramedFrom p stream got rest (.returned (commonCode m) p)
  | general (msg : ZdtmMsg) (hp : p = some msg) (hraw : msg.body.pRawContent = none)
      (header : Bytes msgHdrSize) (type : MsgType) (content : List UInt8) (checkSum : UInt16)
      (huncommon : Uncommon header.toList) (hfits : msgTypeSize + content.length < 65536)
      (htook : got = header.toList ++ LittleEndian.bytes 2 (msgTypeSize + content.length) ++
        (type.toList ++ (content ++ LittleEndian.bytes 2 checkSum.toNat)))
      (hstream : stream = got ++ rest) :
      FramedFrom p stream got rest (.received (framedMsg msg header type content
        (UInt16.ofNat (msgTypeSize + content.length)) checkSum))
  | failed (code : Int) (hcode : code < 0) : FramedFrom p stream got rest (.returned code p)
  | nomem (hfill : Fillable p) (p' : Option ZdtmMsg) :
      FramedFrom p stream got rest (.returned retMemContent p')

theorem FramedFrom.framedBy {stream got rest : List UInt8} {framed : Framed}
    (h : FramedFrom (some {}) stream got rest framed) : FramedBy stream got rest framed := by
  cases h with
  | common m htook hstream => exact .common m htook hstream
  | general msg hp hraw header type content checkSum huncommon hfits htook hstream =>
    cases hp
    exact .general header type content checkSum huncommon hfits htook hstream
  | failed code hcode => exact .failed code _ hcode
  | nomem hfill p' => exact .failed _ _ (by decide)

section Took

variable {w w' : World} {framed : Framed} {header buff : List UInt8} {bodySize : UInt16}
  {p : Option ZdtmMsg} {msg : ZdtmMsg}

/-- A body of fewer than three bytes is never taken for a message. -/
theorem fillMessage_short_fails (hraw : msg.body.pRawContent = none)
    (hheader : msgHdrSize ≤ header.length)
    (hbuff : buff.length = bodySize.toNat + 2) (hlt : bodySize.toNat < msgTypeSize)
    (h : fillMessage b (some msg) header buff bodySize w = .ok (framed, w')) :
    Takes w w' [] ∧ w'.inbox = w.inbox ∧ ∃ p', framed = .returned retMemContent p' := by
  cases hh : w.heap 0 with
  | some garbage =>
    rw [fillMessage_short hraw hheader hbuff hlt hh] at h
    cases h
  | none =>
    simp only [fillMessage, hraw, ne_eq, not_true_eq_false, if_false] at h
    obtain ⟨hdr, w₁, hhdr, hafter⟩ := bind_inv h
    obtain ⟨type, w₂, htype, hrest⟩ := bind_inv hafter
    obtain ⟨-, rfl⟩ := mem_static_inv hhdr
    obtain ⟨-, rfl⟩ := mem_static_inv htype
    have hne : ¬ bodySize - UInt16.ofNat msgTypeSize = 0 := by
      intro hz
      have hsub : (bodySize - UInt16.ofNat msgTypeSize).toNat =
          (65533 + bodySize.toNat) % 65536 := by
        rw [UInt16.toNat_sub]
        rfl
      rw [hz] at hsub
      change 0 = _ at hsub
      rw [msgTypeSize] at hlt
      omega
    simp only [if_neg hne, bind_ok (mem_ok (malloc_none hh _))] at hrest
    cases hrest
    exact ⟨Takes.nothing _ _, rfl, _, rfl⟩

/-- A body that is not too short is a type, a content and two bytes behind them. -/
theorem exists_body (hbuff : buff.length = bodySize.toNat + 2)
    (hlong : msgTypeSize ≤ bodySize.toNat) :
    ∃ (type : MsgType) (content sum : List UInt8), buff = type.toList ++ (content ++ sum) ∧
      bodySize.toNat = msgTypeSize + content.length ∧ sum.length = 2 := by
  have htype : msgTypeSize ≤ buff.length := by omega
  obtain ⟨type, rest, rfl⟩ := exists_prefix htype
  rw [List.length_append, type.toList_length] at hbuff
  refine ⟨type, rest.take (bodySize.toNat - msgTypeSize), rest.drop (bodySize.toNat - msgTypeSize),
    ?_, ?_, ?_⟩
  · rw [List.take_append_drop]
  · rw [List.length_take]
    omega
  · rw [List.length_drop]
    omega

/-- A complete body is taken apart or refused; either way no more is received. -/
theorem fillMessage_takes (hdr : Bytes msgHdrSize) (tail : List UInt8)
    (hbuff : buff.length = bodySize.toNat + 2)
    (h : fillMessage b p (hdr.toList ++ tail) buff bodySize w = .ok (framed, w')) :
    Takes w w' [] ∧ w'.inbox = w.inbox ∧ ((∃ code, code < 0 ∧ framed = .returned code p) ∨
      (Fillable p ∧ ∃ p', framed = .returned retMemContent p') ∨
      ∃ (msg : ZdtmMsg) (type : MsgType) (content sum : List UInt8), p = some msg ∧
        msg.body.pRawContent = none ∧ sum.length = 2 ∧
        buff = type.toList ++ (content ++ sum) ∧
        bodySize.toNat = msgTypeSize + content.length ∧
        framed = .received (framedMsg msg hdr type content bodySize (getShort b sum))) := by
  have hsame : Takes w w [] := ⟨(List.append_nil _).symm, rfl⟩
  cases p with
  | none =>
    rw [fillMessage_null] at h
    cases h
    exact ⟨hsame, rfl, Or.inl ⟨_, by decide, rfl⟩⟩
  | some msg =>
    by_cases hraw : msg.body.pRawContent = none
    · have hfill : Fillable (some msg) := ⟨msg, rfl, hraw⟩
      by_cases hlt : bodySize.toNat < msgTypeSize
      · have hheader : msgHdrSize ≤ (hdr.toList ++ tail).length := by
          rw [List.length_append, hdr.toList_length]
          omega
        obtain ⟨htakes, hinbox, hfails⟩ := fillMessage_short_fails hraw hheader hbuff hlt h
        exact ⟨htakes, hinbox, Or.inr (Or.inl ⟨hfill, hfails⟩)⟩
      · obtain ⟨type, content, sum, rfl, hcontent, hsum⟩ := exists_body hbuff (Nat.le_of_not_lt hlt)
        rw [fillMessage_framed hraw hdr tail type content sum hcontent] at h
        by_cases hnil : content = []
        · rw [if_pos hnil] at h
          cases h
          exact ⟨hsame, rfl,
            Or.inr (Or.inr ⟨msg, type, content, sum, rfl, hraw, hsum, rfl, hcontent, rfl⟩)⟩
        · rw [if_neg hnil] at h
          cases hh : w.heap 0 with
          | none =>
            simp only [hh] at h
            cases h
            exact ⟨Takes.nothing w _, rfl, Or.inr (Or.inl ⟨hfill, _, rfl⟩)⟩
          | some garbage =>
            simp only [hh] at h
            cases h
            exact ⟨Takes.nothing w _, rfl,
              Or.inr (Or.inr ⟨msg, type, content, sum, rfl, hraw, hsum, rfl, hcontent, rfl⟩)⟩
    · rw [fillMessage_used hraw] at h
      cases h
      exact ⟨hsame, rfl, Or.inl ⟨_, by decide, rfl⟩⟩

/-- A number read from two bytes is stored in these two bytes. -/
theorem bytes_getShort {bs : List UInt8} (h : bs.length = 2) :
    LittleEndian.bytes 2 (getShort b bs).toNat = bs := by
  rw [getShort_eq b h]
  exact bytes_ofNat_value_two h

theorem recvBody_takes (hdr : Bytes msgHdrSize) {size : List UInt8} (hsize : size.length = 2)
    (huncommon : Uncommon hdr.toList) {stream : List UInt8}
    (hstream : stream = hdr.toList ++ size ++ Chunked.available w.inbox)
    (h : recvBody b p (hdr.toList ++ size) w = .ok (framed, w')) :
    ∃ got, Takes w w' got ∧
      FramedFrom p stream (hdr.toList ++ size ++ got) (Chunked.available w'.inbox) framed := by
  have hdrop : (hdr.toList ++ size).drop msgHdrSize = size := List.drop_left' hdr.toList_length
  cases hh : w.heap 0 with
  | none =>
    rw [recvBody_nomem hh] at h
    cases h
    exact ⟨[], Takes.nothing w _, .failed _ (by decide)⟩
  | some garbage =>
    rcases recvLoop_takes 0 ((getShort b ((hdr.toList ++ size).drop msgHdrSize)).toNat + 2)
      { w with heap := w.heap.next } with ⟨buff, w₁, hrun, htakes, -, hlen, havail⟩ |
        ⟨code, got, w₁, hcode, hrun, htakes⟩
    · rw [recvBody_filled hh hrun] at h
      have hfirst : Takes w w₁ buff := (Takes.nothing w _).trans htakes
      obtain ⟨hnothing, hinbox, hframed⟩ := fillMessage_takes hdr size hlen h
      have hall : Takes w w' buff := by
        have htrans := hfirst.trans hnothing
        rwa [List.append_nil] at htrans
      refine ⟨buff, hall, ?_⟩
      rcases hframed with ⟨code, hcode, rfl⟩ | ⟨hfill, p', rfl⟩ |
        ⟨msg, type, content, sum, hp, hraw, hsum, rfl, hcont, rfl⟩
      · exact .failed code hcode
      · exact .nomem hfill p'
      · have hbody : getShort b ((hdr.toList ++ size).drop msgHdrSize) =
            UInt16.ofNat (msgTypeSize + content.length) := by
          rw [← hcont, UInt16.ofNat_toNat]
        have hfits : msgTypeSize + content.length < 65536 := by
          rw [← hcont]
          exact UInt16.toNat_lt _
        have hbytes : LittleEndian.bytes 2 (msgTypeSize + content.length) = size := by
          rw [← hcont, hdrop]
          exact bytes_getShort hsize
        have hbuff : type.toList ++ (content ++ sum) = type.toList ++ (content ++
            LittleEndian.bytes 2 (getShort b sum).toNat) := by
          rw [bytes_getShort hsum]
        rw [hbody]
        refine .general msg hp hraw hdr type content (getShort b sum) huncommon hfits ?_ ?_
        · rw [hbytes, hbuff]
        · rw [hstream, List.append_assoc _ (type.toList ++ (content ++ sum)), hinbox]
          exact congrArg _ havail
    · rw [recvBody_stopped hh hrun] at h
      cases h
      exact ⟨got, (Takes.nothing w _).trans htakes, .failed _ hcode⟩

theorem recvFrame_took (h : recvFrame b p w = .ok (framed, w')) :
    ∃ got, Takes w w' got ∧
      FramedFrom p (Chunked.available w.inbox) got (Chunked.available w'.inbox) framed := by
  rcases recvLoop_takes 0 comMsgSize w with ⟨first, w₁, hrun, htakes, -, hlen, havail⟩ |
    ⟨code, got, w₁, hcode, hrun, htakes⟩
  · by_cases hu : Uncommon first
    · rcases recvLoop_takes comMsgSize (msgHdrSize + 2) w₁ with
        ⟨second, w₂, hrun', htakes', -, hlen', havail'⟩ | ⟨code, got, w₂, hcode, hrun', htakes'⟩
      · rw [recvFrame_header hrun hu hrun'] at h
        have hheader : (first ++ second).length = msgHdrSize + 2 := by
          rw [List.length_append, hlen, hlen']
          rfl
        have hlong : msgHdrSize ≤ (first ++ second).length := by omega
        obtain ⟨hdr, size, hsplit⟩ := exists_prefix hlong
        have hsize : size.length = 2 := by
          rw [hsplit, List.length_append, hdr.toList_length] at hheader
          omega
        have huncommon : Uncommon hdr.toList := by
          rw [← uncommon_append (by rw [hdr.toList_length]; decide) size, ← hsplit,
            uncommon_append (Nat.le_of_eq hlen.symm)]
          exact hu
        have hstream : Chunked.available w.inbox =
            hdr.toList ++ size ++ Chunked.available w₂.inbox := by
          rw [havail, havail', ← List.append_assoc, hsplit]
        rw [hsplit] at h
        obtain ⟨got, hbody, hframed⟩ := recvBody_takes hdr hsize huncommon hstream h
        refine ⟨_, ?_, hframed⟩
        rw [← hsplit]
        exact (htakes.trans htakes').trans hbody
      · rw [recvFrame_header_stopped hrun hu hrun'] at h
        cases h
        exact ⟨_, htakes.trans htakes', .failed _ hcode⟩
    · obtain ⟨m, rfl⟩ := exists_common hlen hu
      rw [recvFrame_common hrun] at h
      cases h
      exact ⟨_, htakes, .common m rfl havail⟩
  · rw [recvFrame_stopped hrun] at h
    cases h
    exact ⟨got, htakes, .failed _ hcode⟩

theorem recvFrame_takes (h : recvFrame b (some {}) w = .ok (framed, w')) :
    ∃ got, Takes w w' got ∧
      FramedBy (Chunked.available w.inbox) got (Chunked.available w'.inbox) framed := by
  obtain ⟨got, htakes, hframed⟩ := recvFrame_took h
  exact ⟨got, htakes, hframed.framedBy⟩

end Took

/-- What a call on a zeroed message returns, and the bytes it took. -/
inductive Received (b : Build) (stream got rest : List UInt8) : Int → Option ZdtmMsg → Prop
  | common (m : CommonMsg) (htook : got = m.bytes.toList) (hstream : stream = got ++ rest) :
      Received b stream got rest (commonCode m) (some {})
  | general (f : Frame b) (htook : got = f.bytes) (hstream : stream = got ++ rest) :
      Received b stream got rest 0 (some f.msg)
  | failed (code : Int) (p : Option ZdtmMsg) (hcode : code < 0) : Received b stream got rest code p

/-- A message whose content is parsed without a failure holds the fields of its type. -/
theorem parse_zero {msg msg' : ZdtmMsg} {heap heap' : Heap}
    (h : zdtmParseRawMsg b msg heap = .ok ((0, msg'), heap')) :
    ∃ z cont rest, zaurusType msg.body.type = some z ∧ contentLayout b z msg.body.cont
      msg.body.pRawContent.target = some (cont, rest) ∧ msg' = withCont msg cont := by
  cases hz : zaurusType msg.body.type with
  | none =>
    simp only [zdtmParseRawMsg, hz] at h
    cases h
  | some z =>
    simp only [zdtmParseRawMsg, hz] at h
    have hrefines := contentScan_refines b z msg.body.cont
    cases hs : contentScan b z msg.body.cont msg.body.pRawContent.target heap with
    | done cont rest heap₁ =>
      have hrun : (contentScan b z msg.body.cont).run msg.body.pRawContent heap =
          .ok (.ok cont, heap₁) := by simp only [Scan.run, hs]
      rw [CMemory.bind_ok hrun] at h
      cases h
      exact ⟨z, cont, rest, rfl, (hrefines.done hs).1, rfl⟩
    | failed code heap₁ =>
      have hrun : (contentScan b z msg.body.cont).run msg.body.pRawContent heap =
          .ok (.error code, heap₁) := by simp only [Scan.run, hs]
      rw [CMemory.bind_ok hrun] at h
      simp only [if_neg (hrefines.failed hs).1] at h
      cases z <;> cases h
    | fault e =>
      have hrun : (contentScan b z msg.body.cont).run msg.body.pRawContent heap = .error e := by
        simp only [Scan.run, hs]
      rw [CMemory.bind_error hrun] at h
      cases h

/-- A framed message that is parsed without a failure was a frame. -/
theorem parse_framed {msg msg' : ZdtmMsg} {header : Bytes msgHdrSize} {type : MsgType}
    {content : List UInt8} {checkSum : UInt16} {heap heap' : Heap}
    (huncommon : Uncommon header.toList) (hfits : msgTypeSize + content.length < 65536)
    (h : zdtmParseRawMsg b (framedMsg msg header type content
      (UInt16.ofNat (msgTypeSize + content.length)) checkSum) heap = .ok ((0, msg'), heap')) :
    ∃ f : Frame b, f.header = header ∧ f.type.bytes = type ∧ f.content = content ∧
      f.checkSum = checkSum ∧ ∃ cont rest,
        contentLayout b f.type msg.body.cont f.content = some (cont, rest) ∧
        msg' = withCont (framedMsg msg f.header f.type.bytes f.content f.bodySize f.checkSum)
          cont := by
  obtain ⟨z, cont, rest, hz, hlayout, rfl⟩ := parse_zero h
  have htype : type = z.bytes := zaurusType_some hz
  subst htype
  rw [framedMsg_target] at hlayout
  have hlayout' : contentLayout b z msg.body.cont content = some (cont, rest) := hlayout
  have hholds : HoldsItsFields b z content := by
    rw [← contentLayout_accepts b z msg.body.cont, hlayout']
    rfl
  exact ⟨⟨header, z, content, checkSum, huncommon, hfits, hholds⟩, rfl, rfl, rfl, rfl, cont, rest,
    hlayout', rfl⟩

/-- However the stream is cut, a call takes a common message, a general message
that holds its fields, or fails with a negative code. -/
theorem recv_takes {w w' : World} {r : Int} {p : Option ZdtmMsg}
    (h : zdtmRecvMessage b (some {}) w = .ok ((r, p), w')) :
    ∃ got, Takes w w' got ∧
      Received b (Chunked.available w.inbox) got (Chunked.available w'.inbox) r p := by
  obtain ⟨framed, w₁, hframe, hrest⟩ := bind_inv h
  obtain ⟨got, htakes, hframed⟩ := recvFrame_takes hframe
  cases hframed with
  | common m htook hstream =>
    cases hrest
    exact ⟨got, htakes, .common m htook hstream⟩
  | failed code p hcode =>
    cases hrest
    exact ⟨got, htakes, .failed _ _ hcode⟩
  | general hdr type content checkSum huncommon hfits htook hstream =>
    obtain ⟨⟨code, msg⟩, w₂, hparse, hret⟩ := bind_inv hrest
    obtain ⟨heap, hrun, rfl⟩ := mem_inv hparse
    have hall : Takes w { w₁ with heap } got := by
      have htrans := htakes.trans (Takes.nothing w₁ heap)
      rwa [List.append_nil] at htrans
    cases hret
    refine ⟨got, hall, ?_⟩
    by_cases hcode : code = 0
    · subst hcode
      obtain ⟨f, rfl, rfl, rfl, rfl, cont, rest, hlayout, rfl⟩ :=
        parse_framed huncommon hfits hrun
      have hlayout' : contentLayout b f.type {} f.content = some (cont, rest) := hlayout
      have hmsg : f.msg = withCont (framedMsg {} f.header f.type.bytes f.content f.bodySize
          f.checkSum) cont := by
        simp only [Frame.msg, Frame.cont, hlayout']
        rfl
      change Received b _ got _ 0 _
      rw [← hmsg]
      exact .general f htook hstream
    · simp only [if_pos hcode]
      exact .failed _ _ (by decide)

/-- The body is no type, or its content ends before the fields of its type. -/
def Unreadable (b : Build) (f : GeneralFrame) : Prop :=
  f.body.length < msgTypeSize ∨
    ∃ (z : ZaurusType) (content : List UInt8), f.body = z.bytes.toList ++ content ∧
      ¬ HoldsItsFields b z content

/-- The stream begins with a complete message that cannot be read. -/
def StartsUnreadable (b : Build) (stream : List UInt8) : Prop :=
  ∃ (f : GeneralFrame) (rest : List UInt8), stream = f.bytes ++ rest ∧ Unreadable b f

/-- A header that announces a body, and that body with its checksum, are a frame. -/
theorem announced_frame {stream : List UInt8} {n : Nat} (h : Announces stream n)
    (hlong : msgHdrSize + 2 + (n + 2) ≤ stream.length) :
    ∃ (f : GeneralFrame) (rest : List UInt8), stream = f.bytes ++ rest ∧ f.body.length = n := by
  have hle : msgHdrSize ≤ stream.length := by omega
  obtain ⟨header, tail, rfl⟩ := exists_prefix hle
  have hheader : header.toList.length = msgHdrSize := header.toList_length
  rw [List.length_append, hheader] at hlong
  obtain ⟨size, tail, hsize, rfl⟩ : ∃ size tail', size.length = 2 ∧ tail = size ++ tail' :=
    ⟨tail.take 2, tail.drop 2, List.length_take_of_le (by omega), (List.take_append_drop 2 tail).symm⟩
  rw [List.length_append, hsize] at hlong
  obtain ⟨body, tail, hbody, rfl⟩ : ∃ body tail', body.length = n ∧ tail = body ++ tail' :=
    ⟨tail.take n, tail.drop n, List.length_take_of_le (by omega), (List.take_append_drop n tail).symm⟩
  rw [List.length_append, hbody] at hlong
  obtain ⟨sum, rest, hsum, rfl⟩ : ∃ sum rest, sum.length = 2 ∧ tail = sum ++ rest :=
    ⟨tail.take 2, tail.drop 2, List.length_take_of_le (by omega), (List.take_append_drop 2 tail).symm⟩
  have hvalue : value size = n := by
    rw [← h.size, List.drop_left' hheader, List.take_left' hsize]
  have hlt : n < 65536 := by
    rw [← hvalue]
    simpa [hsize] using value_lt size
  have huncommon : Uncommon header.toList :=
    (uncommon_append (by rw [hheader]; decide) _).mp h.uncommon
  refine ⟨⟨header, body, getShort .littleEndian sum, huncommon, by omega⟩, rest, ?_, hbody⟩
  have hbytes : LittleEndian.bytes 2 body.length = size := by
    rw [hbody, ← hvalue, ← hsize, bytes_value]
  simp only [GeneralFrame.bytes, hbytes, bytes_getShort hsum, List.append_assoc]

/-- The parser of a message faults only where the content does not hold its fields. -/
theorem parse_unreadable {msg : ZdtmMsg} {header : Bytes msgHdrSize} {type : MsgType}
    {content : List UInt8} {bodySize checkSum : UInt16} {heap : Heap} {e : Fault}
    (h : zdtmParseRawMsg b (framedMsg msg header type content bodySize checkSum) heap = .error e) :
    ∃ z : ZaurusType, type = z.bytes ∧ ¬ HoldsItsFields b z content := by
  cases hz : zaurusType type with
  | none =>
    have htype : zaurusType (framedMsg msg header type content bodySize checkSum).body.type =
        none := hz
    simp only [zdtmParseRawMsg, htype] at h
    cases h
  | some z =>
    refine ⟨z, zaurusType_some hz, ?_⟩
    intro hholds
    have htype : zaurusType (framedMsg msg header type content bodySize checkSum).body.type =
        some z := hz
    refine (parse_inBounds_iff (b := b) htype).mpr ?_ heap e h
    rw [framedMsg_target, contentLayout_accepts]
    exact hholds

/-- A call that faults found a message at the start of the stream that cannot be read. -/
theorem unreadable_of_fault {p : Option ZdtmMsg} {w : World} {e : Fault}
    (h : zdtmRecvMessage b p w = .error e) : StartsUnreadable b (Chunked.available w.inbox) := by
  by_cases hfill : TakesShortFrame p (Chunked.available w.inbox)
  · obtain ⟨-, n, hn, hannounces, hlong⟩ := hfill
    obtain ⟨f, rest, hstream, hbody⟩ := announced_frame hannounces hlong
    exact ⟨f, rest, hstream, Or.inl (by omega)⟩
  · obtain ⟨framed, w', hframe, -⟩ := recvFrame_reports (b := b) hfill
    obtain ⟨got, -, hframed⟩ := recvFrame_took hframe
    unfold zdtmRecvMessage at h
    rw [ZdtmNet.bind_ok hframe] at h
    cases hframed with
    | common m htook hstream => cases h
    | failed code hcode => cases h
    | nomem hfillable p' => cases h
    | general msg hp hraw header type content checkSum huncommon hfits htook hstream =>
      cases hparse : zdtmParseRawMsg b (framedMsg msg header type content
          (UInt16.ofNat (msgTypeSize + content.length)) checkSum) w'.heap with
      | ok r =>
        obtain ⟨r, heap⟩ := r
        have hrun := ZdtmNet.bind_ok (f := fun r : Int × ZdtmMsg =>
          (pure (if r.1 ≠ 0 then retParseRawFail else 0, some r.2) : Sys (Int × Option ZdtmMsg)))
          (mem_ok hparse)
        cases hrun.symm.trans h
      | error e' =>
        obtain ⟨z, rfl, hfields⟩ := parse_unreadable hparse
        have hfits' : (z.bytes.toList ++ content).length < 65536 := by
          rw [List.length_append, z.bytes.toList_length]
          exact hfits
        refine ⟨⟨header, z.bytes.toList ++ content, checkSum, huncommon, hfits'⟩,
          Chunked.available w'.inbox, ?_, Or.inr ⟨z, content, rfl, hfields⟩⟩
        rw [hstream, htook]
        simp [GeneralFrame.bytes]

theorem frame_announces (f : GeneralFrame) (rest : List UInt8) :
    Announces (f.bytes ++ rest) f.body.length where
  header := by
    rw [List.length_append, GeneralFrame.length_bytes]
    omega
  uncommon := by
    simp only [GeneralFrame.bytes, List.append_assoc]
    exact (uncommon_append (by simp [comMsgSize, msgHdrSize]) _).mpr f.uncommon
  size := by
    have hheader : f.header.toList.length = msgHdrSize := f.header.toList_length
    simp only [GeneralFrame.bytes, List.append_assoc]
    rw [List.drop_left' hheader, List.take_left' (length_bytes 2 _), value_bytes_of_lt f.fits]

/-- With enough memory such a message makes a call on a zeroed message fault. -/
theorem fault_of_unreadable {w : World} (h : StartsUnreadable b (Chunked.available w.inbox))
    (hheap : w.heap.Unlimited) : ∃ e, zdtmRecvMessage b (some {}) w = .error e := by
  obtain ⟨f, rest, hstream, hshort | ⟨z, content, hbody, hfields⟩⟩ := h
  · have hannounces := frame_announces f rest
    have hlong : msgHdrSize + 2 + (f.body.length + 2) ≤ (f.bytes ++ rest).length := by
      rw [List.length_append, GeneralFrame.length_bytes]
      omega
    have htakes : TakesShortFrame (some {}) (Chunked.available w.inbox) := by
      rw [hstream]
      exact ⟨⟨{}, rfl, rfl⟩, f.body.length, hshort, hannounces, hlong⟩
    exact ⟨_, ZdtmNet.bind_error (recvFrame_short htakes hheap)⟩
  · have hsize : f.body.length = msgTypeSize + content.length := by
      rw [hbody, List.length_append, z.bytes.toList_length]
    have hfits := f.fits
    rw [hsize] at hfits
    have hbytes : Chunked.available w.inbox =
        f.header.toList ++ bytes 2 (msgTypeSize + content.length) ++
          ((z.bytes.toList ++ (content ++ bytes 2 f.checkSum.toNat)) ++ rest) := by
      rw [hstream, GeneralFrame.bytes, hsize, hbody]
      simp
    obtain ⟨w', hframe, -, hheap'⟩ := recvFrame_any (b := b) f.header z.bytes content f.checkSum
      f.uncommon hfits hheap hbytes
    have hrejected : ∀ bodySize, ∃ e, zdtmParseRawMsg b
        (framedMsg {} f.header z.bytes content bodySize f.checkSum) w'.heap = .error e := by
      intro bodySize
      refine parse_rejected (zaurusType_bytes z) ?_ hheap'
      rw [framedMsg_target, ← Option.not_isSome_iff_eq_none, contentLayout_accepts]
      exact hfields
    obtain ⟨e, hparse⟩ := hrejected (UInt16.ofNat (msgTypeSize + content.length))
    refine ⟨e, ?_⟩
    unfold zdtmRecvMessage
    rw [ZdtmNet.bind_ok hframe]
    apply ZdtmNet.bind_error
    simp only [mem, hparse]

/-- However the items of a stream are cut, the first `n` calls return the first
`n` items in order and leave the others on the stream. -/
theorem receives_items (b : Build) (items : List (Item b)) (rest : List UInt8) (w : World)
    (n : Nat) (hn : n ≤ items.length) (hheap : w.heap.Unlimited)
    (h : Chunked.available w.inbox = items.flatMap Item.bytes ++ rest) :
    ∃ w', recvMany b n w = .ok ((items.take n).map Item.result, w') ∧
      Chunked.available w'.inbox = (items.drop n).flatMap Item.bytes ++ rest := by
  induction n generalizing items w with
  | zero => exact ⟨w, rfl, h⟩
  | succ n ih =>
    cases items with
    | nil => cases hn
    | cons item items =>
      rw [List.flatMap_cons, List.append_assoc] at h
      obtain ⟨w₁, hfirst, havail, hheap₁⟩ := recv_item item hheap h
      obtain ⟨w₂, hrest, havail₂⟩ := ih items w₁ (Nat.le_of_succ_le_succ hn) hheap₁ havail
      refine ⟨w₂, ?_, havail₂⟩
      rw [recvMany, bind_ok hfirst, bind_ok hrest]
      rfl

/-- The header of the Desktop will do: no header is looked at. -/
theorem dmsgHdr_uncommon : Uncommon dmsgHdr.toList := by
  intro m
  cases m with
  | ack => decide
  | rqst => decide
  | abrt => decide

def aexFrame : Frame .littleEndian where
  header := dmsgHdr
  type := .aex
  content := []
  checkSum := 0x00de
  uncommon := dmsgHdr_uncommon
  fits := by decide
  holds := trivial

/-- An AAY message behind an ack, of which three bytes arrive first. -/
def aayFrame : Frame .littleEndian where
  header := dmsgHdr
  type := .aay
  content := [1, 2, 3]
  checkSum := 0x00e1
  uncommon := dmsgHdr_uncommon
  fits := by decide
  holds := Nat.le_refl 3

def aayWorld : World where
  heap := Heap.filled 0
  inbox := [.data [0, 0, 0] (by decide),
    .data ([0, 0, 0x96, 0x06] ++ aayFrame.bytes) (List.cons_ne_nil _ _)]

theorem receives_items_aay :
    ∃ w', recvMany .littleEndian 2 aayWorld =
        .ok ([(1, some {}), (0, some aayFrame.msg)], w') ∧ Chunked.available w'.inbox = [] :=
  receives_items .littleEndian [.common .ack, .general aayFrame] [] aayWorld 2 (by decide)
    (Heap.filled_unlimited 0) (by simp [aayWorld, Item.bytes, CommonMsg.bytes])

end ZdtmReceiving
