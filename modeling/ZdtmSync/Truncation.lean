import ZdtmSync.Receiving

/-!
# A peer that closes too early

`_zdtm_recv_message` tells a connection that is closed between two messages from
one that is closed in the middle of a message by the number of bytes it has read.
The third loop counts from the start of the body: a peer that closes right
after the body size is taken for one that closed between two messages.
-/

namespace ZdtmTruncation

open LittleEndian CMemory ZdtmTypes ZdtmCommon ZdtmMsgs ZdtmNet ZdtmFraming ZdtmReceiving

/-- What the peer was about to send. -/
inductive Message where
  | common (m : CommonMsg)
  | general (f : GeneralFrame)

def Message.bytes : Message → List UInt8
  | .common m => m.bytes.toList
  | .general f => f.bytes

/-- The contract: a connection closed by the peer was closed cleanly or in the
middle of a message. -/
def closedCode (k : Nat) : Int := if k = 0 then -1 else -2

theorem recvLoop_closed {w : World} (tot need : Nat)
    (h : (Chunked.available w.inbox).length < need - tot)
    (hending : Chunked.ending w.inbox = .closed) :
    ∃ w', recvLoop tot need w =
      .ok (.error (closedCode (tot + (Chunked.available w.inbox).length)), w') := by
  obtain ⟨inbox, hrun⟩ := recvLoop_short h
  rw [hending] at hrun
  exact ⟨_, hrun⟩

section Stages

variable {b : Build} {p : Option ZdtmMsg} {w : World} {stream : List UInt8}

theorem recv_of_frame {code : Int} {w' : World} (h : recvFrame b p w = .ok (.returned code p, w')) :
    zdtmRecvMessage b p w = .ok ((code, p), w') := by
  unfold zdtmRecvMessage
  exact bind_ok h

/-- The first loop counts from the start of the message. -/
theorem closed_in_common (hshort : (Chunked.available w.inbox).length < comMsgSize)
    (hending : Chunked.ending w.inbox = .closed) :
    ∃ w', zdtmRecvMessage b p w =
      .ok ((closedCode (Chunked.available w.inbox).length, p), w') := by
  have hneed : (Chunked.available w.inbox).length < comMsgSize - 0 := hshort
  obtain ⟨w', hrun⟩ := recvLoop_closed 0 comMsgSize hneed hending
  rw [Nat.zero_add] at hrun
  exact ⟨w', recv_of_frame (recvFrame_stopped hrun)⟩

/-- The second loop goes on counting. -/
theorem closed_in_header (hlong : comMsgSize ≤ (Chunked.available w.inbox).length)
    (hshort : (Chunked.available w.inbox).length < msgHdrSize + 2)
    (huncommon : Uncommon (Chunked.available w.inbox))
    (hending : Chunked.ending w.inbox = .closed) :
    ∃ w', zdtmRecvMessage b p w =
      .ok ((closedCode (Chunked.available w.inbox).length, p), w') := by
  have hsplit := List.take_append_drop comMsgSize (Chunked.available w.inbox)
  have hfirst : ((Chunked.available w.inbox).take comMsgSize).length = comMsgSize - 0 :=
    List.length_take_of_le hlong
  have hu : Uncommon ((Chunked.available w.inbox).take comMsgSize) := by
    rw [← uncommon_append (Nat.le_of_eq hfirst.symm), hsplit]
    exact huncommon
  obtain ⟨inbox, havail, hend, hrun⟩ := recvLoop_enough hfirst hsplit.symm
  have hrest : (Chunked.available inbox).length =
      (Chunked.available w.inbox).length - comMsgSize := by
    rw [havail, List.length_drop]
  obtain ⟨w', hrun'⟩ := recvLoop_closed comMsgSize (msgHdrSize + 2)
    (w := { w with
      inbox
      trace := w.trace ++ ((Chunked.available w.inbox).take comMsgSize).map .received })
    (by simp only [hrest]; omega) (by simp only [hend, hending])
  have htot : comMsgSize + (Chunked.available inbox).length =
      (Chunked.available w.inbox).length := by omega
  simp only [htot] at hrun'
  exact ⟨w', recv_of_frame (recvFrame_header_stopped hrun hu hrun')⟩

/-- A stream that ends in the body or its checksum is reported by the number of
bytes behind the body size, once there is a buffer to read them into. -/
theorem closed_in_body (f : GeneralFrame) {k : Nat} (hlong : msgHdrSize + 2 ≤ k)
    (hshort : k < f.bytes.length) (havail : Chunked.available w.inbox = f.bytes.take k)
    (hending : Chunked.ending w.inbox = .closed) :
    ∃ w', zdtmRecvMessage b p w = .ok ((match w.heap 0 with
      | some _ => closedCode (k - (msgHdrSize + 2))
      | none => -4, p), w') := by
  have hheader : f.header.toList.length = msgHdrSize := f.header.toList_length
  have hsizes : (f.header.toList ++ LittleEndian.bytes 2 f.body.length).length =
      msgHdrSize + 2 := by
    rw [List.length_append, hheader, LittleEndian.length_bytes]
  have huncommon : Uncommon (f.header.toList ++ LittleEndian.bytes 2 f.body.length) :=
    (uncommon_append (by rw [hheader]; decide) _).mpr f.uncommon
  rw [GeneralFrame.length_bytes] at hshort
  have hstream : Chunked.available w.inbox =
      (f.header.toList ++ LittleEndian.bytes 2 f.body.length) ++
        (f.body ++
          LittleEndian.bytes 2 f.checkSum.toNat).take (k - (msgHdrSize + 2)) := by
    rw [havail, GeneralFrame.bytes, List.take_append, hsizes, List.take_of_length_le (by omega)]
  generalize hhead : f.header.toList ++ LittleEndian.bytes 2 f.body.length = head
    at hsizes huncommon hstream
  have hsize : (getShort b (head.drop msgHdrSize)).toNat = f.body.length := by
    rw [← hhead, List.drop_left' hheader, toNat_getShort b (LittleEndian.length_bytes 2 _),
      value_bytes_of_lt f.fits]
  obtain ⟨inbox, hrest, hend, hbody⟩ := recvFrame_enough (b := b) (p := p) hsizes huncommon hstream
  cases hh : w.heap 0 with
  | none =>
    exact ⟨_, recv_of_frame (hbody.trans (recvBody_nomem hh))⟩
  | some garbage =>
    have hleft : (Chunked.available inbox).length = k - (msgHdrSize + 2) := by
      rw [hrest, List.length_take, List.length_append, LittleEndian.length_bytes]
      omega
    obtain ⟨w', hrun⟩ := recvLoop_closed 0
      ((getShort b (head.drop msgHdrSize)).toNat + 2)
      (w := { w with
        heap := w.heap.next, inbox, trace := w.trace ++ head.map .received })
      (by simp only [hleft, hsize]; omega) (by simp only [hend, hending])
    simp only [hleft, Nat.zero_add] at hrun
    have hstopped := recvBody_stopped (b := b) (p := p)
      (w := { w with inbox, trace := w.trace ++ head.map .received }) hh hrun
    exact ⟨w', recv_of_frame (hbody.trans hstopped)⟩

end Stages

/-- A peer that closes inside a message is told from one that closes before it
exactly when it does not close right behind the body size and, where it closes
later, there was a buffer for the body. -/
theorem truncated_iff (b : Build) (p : Option ZdtmMsg) (m : Message) (k : Nat) (w : World)
    (hk : k < m.bytes.length) (havail : Chunked.available w.inbox = m.bytes.take k)
    (hending : Chunked.ending w.inbox = .closed) :
    (∃ p' w', zdtmRecvMessage b p w = .ok ((closedCode k, p'), w')) ↔
      k < msgHdrSize + 2 ∨ (msgHdrSize + 2 < k ∧ w.heap 0 ≠ none) := by
  have hlen : (Chunked.available w.inbox).length = k := by
    rw [havail, List.length_take]
    omega
  have hsizes : comMsgSize ≤ msgHdrSize + 2 := by decide
  by_cases hcommon : k < comMsgSize
  · have hshort : (Chunked.available w.inbox).length < comMsgSize := by omega
    obtain ⟨w', hrun⟩ := closed_in_common (b := b) (p := p) hshort hending
    rw [hlen] at hrun
    exact iff_of_true ⟨p, w', hrun⟩ (Or.inl (by omega))
  · cases m with
    | common m =>
      have hseven : m.bytes.toList.length = comMsgSize := m.bytes.toList_length
      simp only [Message.bytes] at hk
      omega
    | general f =>
      by_cases hheader : k < msgHdrSize + 2
      · have huncommon : Uncommon (Chunked.available w.inbox) := by
          rw [← uncommon_append (by omega) (f.bytes.drop k), havail]
          change Uncommon (f.bytes.take k ++ f.bytes.drop k)
          rw [List.take_append_drop, GeneralFrame.bytes, List.append_assoc,
            uncommon_append (by rw [f.header.toList_length]; decide)]
          exact f.uncommon
        obtain ⟨w', hrun⟩ := closed_in_header (b := b) (p := p) (by omega) (by omega)
          huncommon hending
        rw [hlen] at hrun
        exact iff_of_true ⟨p, w', hrun⟩ (Or.inl hheader)
      · obtain ⟨w', hrun⟩ := closed_in_body (b := b) (p := p) f (by omega) hk havail hending
        have hpos : k ≠ 0 := by omega
        simp only [hrun, closedCode, if_neg hpos]
        cases hh : w.heap 0 with
        | none => simp; omega
        | some garbage =>
          by_cases hsize : k = msgHdrSize + 2
          · simp [hsize]
          · have hbehind : k - (msgHdrSize + 2) ≠ 0 := by omega
            simp [hbehind]
            omega

def wholeFrame : GeneralFrame where
  header := dmsgHdr
  body := aexFrame.type.bytes.toList
  checkSum := 0x00de
  uncommon := dmsgHdr_uncommon
  fits := by decide

/-- The peer sends the header and the body size, in one chunk, and closes. -/
def closedWorld : World where
  heap := Heap.filled 0
  inbox := [.data (wholeFrame.bytes.take (msgHdrSize + 2)) (by decide)]

/-- Fifteen bytes of the frame have arrived and the connection is reported as
closed cleanly. -/
theorem header_alone_closed :
    Chunked.available closedWorld.inbox = wholeFrame.bytes.take 15 ∧
      ∃ w', zdtmRecvMessage .littleEndian (some {}) closedWorld = .ok ((-1, some {}), w') ∧
        closedCode 15 = -2 := ⟨rfl, _, rfl, rfl⟩

/-- The same frame, with a byte more of it in a chunk of its own. -/
def cutWorld : World where
  heap := Heap.filled 0
  inbox := [.data (wholeFrame.bytes.take (msgHdrSize + 2)) (by decide),
    .data [0x41] (by decide)]

theorem truncated_iff_cut :
    ∃ p' w', zdtmRecvMessage .littleEndian (some {}) cutWorld = .ok ((-2, p'), w') :=
  (truncated_iff .littleEndian (some {}) (.general wholeFrame) 16 cutWorld (by decide) (by decide)
    (by decide)).mpr (Or.inr ⟨by decide, nofun⟩)

end ZdtmTruncation
