import ZdtmSync.Receiving

/-!
# The checksum of a received frame

`_zdtm_recv_message` stores the checksum of a frame and never looks at it. What
it accepts with a wrong checksum is exactly what it would have accepted with the
right one; the sum itself would have shown every change of a single byte. A change of a
count or a length may also send it past the end of the frame.
-/

namespace ZdtmChecksums

open LittleEndian CMemory ZdtmTypes ZdtmCommon ZdtmMsgs ZdtmNet ZdtmParsing ZdtmFraming
open ZdtmReceiving

/-- One byte of the body was changed on the way. -/
inductive Altered : List UInt8 → List UInt8 → Prop
  | byte (front back : List UInt8) (sent got : UInt8) (hne : sent ≠ got) :
      Altered (front ++ sent :: back) (front ++ got :: back)

/-- A change by less than 256 does not come back to the same sum. -/
theorem Altered.addBytes_ne {body body' : List UInt8} (h : Altered body body') :
    addBytes 0 body ≠ addBytes 0 body' := by
  cases h with
  | byte front back sent got hne =>
    intro heq
    have hsum := congrArg UInt16.toNat heq
    simp only [toNat_addBytes_zero, List.map_append, List.map_cons, List.sum_append,
      List.sum_cons] at hsum
    have hsent : sent.toNat < 256 := sent.toNat_lt
    have hgot : got.toNat < 256 := got.toNat_lt
    apply hne
    apply UInt8.toNat_inj.mp
    omega

/-- The checksum is the one that a sender computes. -/
def Summed (f : GeneralFrame) : Prop := f.checkSum = addBytes 0 f.body

/-- A stream begins with one frame at most. -/
theorem bytes_append_inj {f g : GeneralFrame} {rest rest' : List UInt8}
    (h : f.bytes ++ rest = g.bytes ++ rest') : f = g := by
  obtain ⟨header, body, checkSum, huncommon, hfits⟩ := f
  obtain ⟨header', body', checkSum', huncommon', hfits'⟩ := g
  simp only [GeneralFrame.bytes, List.append_assoc] at h
  obtain ⟨hheader, hafter⟩ := List.append_inj h (by simp)
  obtain ⟨hsize, hbehind⟩ := List.append_inj hafter (by simp)
  have hlen : body.length = body'.length := bytes_inj_of_lt hfits hfits' hsize
  obtain ⟨hbody, hend⟩ := List.append_inj hbehind hlen
  obtain ⟨hsum, -⟩ := List.append_inj hend (by simp)
  have hcheck : checkSum.toNat = checkSum'.toNat :=
    bytes_inj_of_lt checkSum.toNat_lt checkSum'.toNat_lt hsum
  simp only [GeneralFrame.mk.injEq]
  exact ⟨Subtype.ext hheader, hbody, UInt16.toNat_inj.mp hcheck⟩

/-- The receiver's own checksum over a framed message is that of the frame's body. -/
theorem zdtmChecksum_framed {b : Build} (msg : ZdtmMsg) (f : Frame b) (cont : SpecTypeContent) :
    zdtmChecksum (withCont (framedMsg msg f.header f.type.bytes f.content f.bodySize f.checkSum)
      cont) = .ok (addBytes 0 f.general.body) := by
  have hlen := toNat_length f.toNat_bodySize
  have hload : load (framedMsg msg f.header f.type.bytes f.content f.bodySize
      f.checkSum).body.pRawContent f.content.length = .ok f.content := by
    rw [load_of_le (by rw [framedMsg_target]), framedMsg_target, List.take_length]
  change (do
    let content ← load (framedMsg msg f.header f.type.bytes f.content f.bodySize
      f.checkSum).body.pRawContent (UInt16.ofNat f.content.length).toNat
    return addBytes (addBytes 0 f.type.bytes.toList) content) = _
  rw [hlen, hload]
  simp only [Frame.general, addBytes_append]
  rfl

section Accepted

variable {b : Build} {p p' : Option ZdtmMsg} {w w' : World} {stream : List UInt8}

/-- A call that returns 0 took a frame that holds the fields of its type. -/
theorem recv_zero (h : zdtmRecvMessage b p w = .ok ((0, p'), w')) :
    ∃ (f : Frame b) (msg : ZdtmMsg) (cont : SpecTypeContent),
      Chunked.available w.inbox = f.bytes ++ Chunked.available w'.inbox ∧
      p' = some (withCont (framedMsg msg f.header f.type.bytes f.content f.bodySize f.checkSum)
        cont) := by
  obtain ⟨framed, w₁, hframe, hrest⟩ := bind_inv h
  obtain ⟨got, -, hframed⟩ := recvFrame_took hframe
  cases hframed with
  | common m htook hstream => cases m <;> cases hrest
  | failed code hcode =>
    cases hrest
    omega
  | nomem hfill p' => cases hrest
  | general msg hp hraw header type content checkSum huncommon hfits htook hstream =>
    obtain ⟨⟨code, msg'⟩, w₂, hparse, hret⟩ := bind_inv hrest
    obtain ⟨heap, hrun, rfl⟩ := mem_inv hparse
    by_cases hcode : code = 0
    · subst hcode
      obtain ⟨f, rfl, rfl, rfl, rfl, cont, rest, -, rfl⟩ := parse_framed huncommon hfits hrun
      cases hret
      exact ⟨f, msg, cont, by rw [hstream, htook]; rfl, rfl⟩
    · simp only [if_pos hcode] at hret
      cases hret

/-- Every call over the stream returns, and if it returns 0 it has stored the checksum
that its frame carries, and that is the checksum of the message. -/
def StoresSum (b : Build) (stream : List UInt8) : Prop :=
  ∀ p w, Chunked.available w.inbox = stream →
    ∃ r p' w', zdtmRecvMessage b p w = .ok ((r, p'), w') ∧
      (r = 0 → ∃ (f : Frame b) (msg : ZdtmMsg),
        stream = f.bytes ++ Chunked.available w'.inbox ∧
        p' = some msg ∧ msg.checkSum = f.checkSum ∧ zdtmChecksum msg = .ok f.checkSum)

/-- Every call over the stream returns, and does not return 0, if the stream begins with
a frame that had its checksum right and then one byte of its body changed. -/
def DropsAltered (b : Build) (stream : List UInt8) : Prop :=
  ∀ f g : GeneralFrame, Summed f → Altered f.body g.body → g.checkSum = f.checkSum →
    g.bytes <+: stream → ∀ p w, Chunked.available w.inbox = stream →
      ∃ r p' w', zdtmRecvMessage b p w = .ok ((r, p'), w') ∧ r ≠ 0

/-- The frame at the start of the stream, if there is one that holds the fields of
its type, carries the sum of its body. -/
def StartsSummed (b : Build) (stream : List UInt8) : Prop :=
  ∀ f : Frame b, f.bytes <+: stream → Summed f.general

/-- A call over a stream that can be read returns, whatever it is given. -/
theorem recv_returns (hread : ¬ StartsUnreadable b (Chunked.available w.inbox)) :
    ∃ r p' w', zdtmRecvMessage b p w = .ok ((r, p'), w') := by
  cases hrun : zdtmRecvMessage b p w with
  | ok r => exact ⟨r.1.1, r.1.2, r.2, rfl⟩
  | error e => exact absurd (unreadable_of_fault hrun) hread

theorem storesSum_of_startsSummed (hread : ¬ StartsUnreadable b stream)
    (h : StartsSummed b stream) : StoresSum b stream := by
  rintro p w rfl
  obtain ⟨r, p', w', hrun⟩ := recv_returns (p := p) hread
  refine ⟨r, p', w', hrun, ?_⟩
  rintro rfl
  obtain ⟨f, msg, cont, htook, hmsg⟩ := recv_zero hrun
  have hsum : f.checkSum = addBytes 0 f.general.body := h f ⟨_, htook.symm⟩
  refine ⟨f, _, htook, hmsg, rfl, ?_⟩
  rw [zdtmChecksum_framed, hsum]

/-- An altered frame no longer carries the sum of its body. -/
theorem dropsAltered_of_startsSummed (hread : ¬ StartsUnreadable b stream)
    (h : StartsSummed b stream) : DropsAltered b stream := by
  rintro f g hsummed haltered hcheck hfront p w rfl
  obtain ⟨r, p', w', hrun⟩ := recv_returns (p := p) hread
  refine ⟨r, p', w', hrun, ?_⟩
  rintro rfl
  obtain ⟨frame, msg, cont, htook, -⟩ := recv_zero hrun
  obtain ⟨rest, hrest⟩ := hfront
  have hboth : frame.general.bytes ++ Chunked.available w'.inbox = g.bytes ++ rest := by
    rw [Frame.bytes_general, hrest, htook]
  have hsame : frame.general = g := bytes_append_inj hboth
  have hsum : Summed g := by
    rw [← hsame]
    exact h frame ⟨_, htook.symm⟩
  apply haltered.addBytes_ne
  rw [← hsummed, ← hcheck, hsum]

/-- Some call meets the stream with a heap that grants its blocks. -/
theorem exists_world {f : GeneralFrame} (hfront : f.bytes <+: stream) :
    ∃ w : World, w.heap.Unlimited ∧ Chunked.available w.inbox = stream := by
  have hne : stream ≠ [] := by
    rintro rfl
    have hlen := congrArg List.length (List.prefix_nil.mp hfront)
    simp at hlen
  exact ⟨{ heap := Heap.filled 0, inbox := [.data stream hne] }, Heap.filled_unlimited 0, by simp⟩

/-- Over a message that cannot be read a call does not return. -/
theorem readable_of_storesSum (h : StoresSum b stream) : ¬ StartsUnreadable b stream := by
  intro hunreadable
  have hstarts := hunreadable
  obtain ⟨f, rest, hstream, -⟩ := hstarts
  obtain ⟨w, hheap, havail⟩ := exists_world (f := f) ⟨rest, hstream.symm⟩
  rw [← havail] at hunreadable
  obtain ⟨e, hfault⟩ := fault_of_unreadable hunreadable hheap
  obtain ⟨r, p', w', hrun, -⟩ := h (some {}) w havail
  rw [hrun] at hfault
  cases hfault

/-- A frame with a wrong sum is received like any other. -/
theorem startsSummed_of_storesSum (h : StoresSum b stream) : StartsSummed b stream := by
  intro f hfront
  have hgeneral : f.general.bytes <+: stream := by
    rw [Frame.bytes_general]
    exact hfront
  obtain ⟨w, hheap, havail⟩ := exists_world hgeneral
  obtain ⟨rest, hrest⟩ := hfront
  obtain ⟨w', hrecv, -, -⟩ := recv_frame f hheap (havail.trans hrest.symm)
  obtain ⟨r, p', w'', hrun, hzero⟩ := h (some {}) w havail
  rw [hrecv] at hrun
  cases hrun
  obtain ⟨g, msg, htook, hmsg, hcheck, hsum⟩ := hzero rfl
  cases hmsg
  have hcarried : g.checkSum = f.checkSum := hcheck.symm
  have hown : zdtmChecksum f.msg = .ok (addBytes 0 f.general.body) := zdtmChecksum_framed {} f f.cont
  rw [hown, hcarried] at hsum
  exact (Except.ok.inj hsum).symm

/-- Every call returns, what it accepts carries its checksum, and altered frames are
dropped, exactly on the streams that begin neither with a message that cannot be read nor
with a frame of a wrong sum. -/
theorem sums_checked_iff (b : Build) (stream : List UInt8) :
    (StoresSum b stream ∧ DropsAltered b stream) ↔
      ¬ StartsUnreadable b stream ∧ StartsSummed b stream := by
  constructor
  · rintro ⟨hstores, -⟩
    exact ⟨readable_of_storesSum hstores, startsSummed_of_storesSum hstores⟩
  · rintro ⟨hread, hsummed⟩
    exact ⟨storesSum_of_startsSummed hread hsummed, dropsAltered_of_startsSummed hread hsummed⟩

end Accepted

theorem altered_holds : HoldsItsFields .littleEndian .aay [1, 2, 4] := Nat.le_refl 3

/-- An AAY message after its last content byte changed. -/
def alteredFrame : Frame .littleEndian where
  header := dmsgHdr
  type := .aay
  content := [1, 2, 4]
  checkSum := aayFrame.checkSum
  uncommon := dmsgHdr_uncommon
  fits := by decide
  holds := altered_holds

def alteredWorld : World where
  heap := Heap.filled 0
  inbox := [.data alteredFrame.bytes (List.cons_ne_nil _ _)]

/-- The altered frame is delivered, with a checksum that is not its own. -/
theorem altered_delivered :
    Summed aayFrame.general ∧ Altered aayFrame.general.body alteredFrame.general.body ∧
      zdtmChecksum alteredFrame.msg = .ok 0x00e2 ∧ alteredFrame.msg.checkSum = 0x00e1 ∧
      (∃ w', zdtmRecvMessage .littleEndian (some {}) alteredWorld =
        .ok ((0, some alteredFrame.msg), w')) ∧
      ¬ StoresSum .littleEndian alteredFrame.bytes ∧
      ¬ DropsAltered .littleEndian alteredFrame.bytes := by
  have hsummed : Summed aayFrame.general := rfl
  have haltered : Altered aayFrame.general.body alteredFrame.general.body :=
    .byte [0x41, 0x41, 0x59, 1, 2] [] 3 4 (by decide)
  have hsum : zdtmChecksum alteredFrame.msg = .ok 0x00e2 := rfl
  have havail : Chunked.available alteredWorld.inbox = alteredFrame.bytes := rfl
  obtain ⟨w', hrun, -, -⟩ := recv_frame (w := alteredWorld) alteredFrame
    (Heap.filled_unlimited 0) (havail.trans (List.append_nil _).symm)
  refine ⟨hsummed, haltered, hsum, rfl, ⟨w', hrun⟩, ?_, ?_⟩
  · intro h
    obtain ⟨r, p', w'', hrun', hzero⟩ := h _ _ havail
    rw [hrun] at hrun'
    cases hrun'
    obtain ⟨f, msg, -, hmsg, hcheck, hown⟩ := hzero rfl
    cases hmsg
    rw [hsum, ← hcheck] at hown
    exact absurd (Except.ok.inj hown) (by decide)
  · intro h
    obtain ⟨r, p', w'', hrun', hne⟩ := h aayFrame.general alteredFrame.general hsummed haltered rfl
      ⟨[], by rw [List.append_nil, Frame.bytes_general]⟩ (some {}) alteredWorld havail
    rw [hrun] at hrun'
    cases hrun'
    exact hne rfl

end ZdtmChecksums
