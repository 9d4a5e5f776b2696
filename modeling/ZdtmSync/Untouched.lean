import ZdtmSync.Receiving

/-!
# What a call leaves alone

Callers of `_zdtm_recv_message` look at the message afterwards to see what there
is to free. A call writes to the message only once a general frame is complete
and there is no raw content to lose, and then it returns 0 or one of two failures.
-/

namespace ZdtmUntouched

open LittleEndian CMemory ZdtmTypes ZdtmCommon ZdtmMsgs ZdtmNet ZdtmParsing ZdtmFraming
open ZdtmReceiving

/-- What is returned for a common message. -/
def commonCodes : List Int := [1, 2, 3]

/-- What is returned when the message is not written to, for `p_msg` not null. -/
def untouchedCodes : List Int := commonCodes ++ [-1, -2, -3, -4, -6]

/-- What is returned after a write to the message. -/
def filledCodes : List Int := [0, retMemContent, retParseRawFail]

theorem filled_not_untouched {r : Int} (h : r ∈ filledCodes) : r ∉ untouchedCodes := by
  simp only [filledCodes, List.mem_cons, List.not_mem_nil, or_false] at h
  obtain rfl | rfl | rfl := h
  · decide
  · decide
  · decide

/-- A common code is returned before anything is allocated or written. -/
theorem common_untouched {r : Int} (h : r ∈ commonCodes) : r ∈ untouchedCodes ∧ 0 < r := by
  simp only [commonCodes, List.mem_cons, List.not_mem_nil, or_false] at h
  obtain rfl | rfl | rfl := h
  · decide
  · decide
  · decide

section Call

variable {b : Build} {p p' : Option ZdtmMsg} {w w' : World} {r : Int}

/-- A call keeps the message, after a common message or a failure, or it had a
message to fill in and returns one of the codes for that. -/
theorem recv_took (h : zdtmRecvMessage b p w = .ok ((r, p'), w')) :
    (p' = p ∧ (r < 0 ∨ ∃ m : CommonMsg, Takes w w' m.bytes.toList ∧
      Chunked.available w.inbox = m.bytes.toList ++ Chunked.available w'.inbox)) ∨
    (Fillable p ∧ r ∈ filledCodes) := by
  obtain ⟨framed, w₁, hframe, hrest⟩ := bind_inv h
  obtain ⟨got, htakes, hframed⟩ := recvFrame_took hframe
  cases hframed with
  | common m htook hstream =>
    cases hrest
    subst htook
    exact Or.inl ⟨rfl, Or.inr ⟨m, htakes, hstream⟩⟩
  | failed code hcode =>
    cases hrest
    exact Or.inl ⟨rfl, Or.inl hcode⟩
  | nomem hfill p' =>
    cases hrest
    exact Or.inr ⟨hfill, by simp [filledCodes]⟩
  | general msg hp hraw header type content checkSum huncommon hfits htook hstream =>
    obtain ⟨⟨code, msg'⟩, w₂, hparse, hret⟩ := bind_inv hrest
    cases hret
    right
    constructor
    · exact ⟨msg, hp, hraw⟩
    · by_cases hcode : code = 0
      · simp [filledCodes, hcode]
      · simp [filledCodes, hcode]

theorem recv_common_bytes (h : zdtmRecvMessage b p w = .ok ((r, p'), w')) (hr : r ∈ commonCodes) :
    ∃ got, got.length = comMsgSize ∧ Takes w w' got ∧
      Chunked.available w.inbox = got ++ Chunked.available w'.inbox := by
  have hcodes := common_untouched hr
  obtain ⟨-, hneg | ⟨m, htakes, hstream⟩⟩ | ⟨-, hfilled⟩ := recv_took h
  · omega
  · exact ⟨_, m.bytes.toList_length, htakes, hstream⟩
  · exact absurd hcodes.1 (filled_not_untouched hfilled)

/-- A message that holds raw content is never written to, and no frame makes the
call read past an end. -/
theorem recv_used {msg : ZdtmMsg} (hraw : msg.body.pRawContent ≠ none) (w : World) :
    ∃ r w', zdtmRecvMessage b (some msg) w = .ok ((r, some msg), w') := by
  have hfill : ¬ Fillable (some msg) := by
    intro hfillable
    obtain ⟨msg', hmsg, hnone⟩ := hfillable
    cases hmsg
    exact hraw hnone
  have hshort : ¬ TakesShortFrame (some msg) (Chunked.available w.inbox) :=
    fun h => hfill h.1
  obtain ⟨framed, w', hrun, -⟩ := recvFrame_reports (b := b) hshort
  obtain ⟨got, -, hframed⟩ := recvFrame_took hrun
  cases hframed with
  | common m htook hstream => exact ⟨_, w', bind_ok hrun⟩
  | failed code hcode => exact ⟨code, w', bind_ok hrun⟩
  | nomem hfillable p' => exact absurd hfillable hfill
  | general msg' hp hnone header type content checkSum huncommon hfits htook hstream =>
    exact absurd ⟨msg', hp, hnone⟩ hfill

/-- Whatever the stream, its cuts and the message before the call: the codes that
promise an untouched message keep the promise, a common message takes its seven
bytes and no more, and raw content is never overwritten. -/
theorem recv_untouched (b : Build) (p : Option ZdtmMsg) (w : World) :
    (∀ r p' w', zdtmRecvMessage b p w = .ok ((r, p'), w') →
      (r ∈ untouchedCodes → p' = p) ∧
      (r ∈ commonCodes → ∃ got, got.length = comMsgSize ∧ Takes w w' got ∧
        Chunked.available w.inbox = got ++ Chunked.available w'.inbox)) ∧
    ∀ msg, p = some msg → msg.body.pRawContent ≠ none →
      ∃ r w', zdtmRecvMessage b p w = .ok ((r, some msg), w') := by
  constructor
  · intro r p' w' h
    constructor
    · intro hr
      obtain ⟨hsame, -⟩ | ⟨-, hfilled⟩ := recv_took h
      · exact hsame
      · exact absurd hr (filled_not_untouched hfilled)
    · exact recv_common_bytes h
  · intro msg hmsg hraw
    subst hmsg
    exact recv_used hraw w

end Call

/-- A message that still holds two bytes of raw content meets a frame and a
message that holds none meets an ack: neither is written to. -/
theorem recv_untouched_used :
    (∃ r w', zdtmRecvMessage .littleEndian
        (some { body := { pRawContent := some [7, 7] } }) aayWorld =
          .ok ((r, some { body := { pRawContent := some [7, 7] } }), w')) ∧
      ∃ got, got.length = comMsgSize ∧ ∃ w', zdtmRecvMessage .littleEndian (some {}) aayWorld =
        .ok ((1, some {}), w') ∧ Takes aayWorld w' got := by
  constructor
  · exact (recv_untouched .littleEndian _ aayWorld).2 _ rfl (by decide)
  · obtain ⟨w', hrun, -, -⟩ := recv_common (b := .littleEndian) (w := aayWorld) .ack
      (Heap.filled_unlimited 0)
      (by simp [aayWorld, CommonMsg.bytes] : Chunked.available aayWorld.inbox =
        CommonMsg.ack.bytes.toList ++ aayFrame.bytes)
    obtain ⟨got, hlen, htakes, -⟩ :=
      ((recv_untouched .littleEndian (some {}) aayWorld).1 _ _ _ hrun).2 (by decide)
    exact ⟨got, hlen, w', hrun, htakes⟩

end ZdtmUntouched
