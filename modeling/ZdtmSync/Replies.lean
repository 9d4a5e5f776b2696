import ZdtmSync.Operations

/-!
# Messages and replies

What the device answered and what was sent to it, read off the calls of a run.
-/

namespace ZdtmReplies

open CMemory Programs ZdtmTypes ZdtmMsgs ZdtmNet ZdtmSession ZdtmProto ZdtmExchanges ZdtmOperations

/-- The calls recorded between two states. -/
def callsSince (s s' : State) : List Call := (s'.events.drop s.events.length).map Event.call

theorem traffic_callsSince {b : Build} {s s' : State} {cs : List Call} (h : Traffic b s cs s') :
    callsSince s s' = cs := by
  obtain ⟨evs, rfl, hevents, -⟩ := h.recorded
  simp [callsSince, hevents]

/-- The general message that a call received. -/
def receivedMsg : Call → Option ZdtmMsg
  | .recv r m => if r = 0 then some m else none
  | _ => none

def received (cs : List Call) : List ZdtmMsg := cs.filterMap receivedMsg

@[simp] theorem received_nil : received [] = [] := rfl

@[simp] theorem received_append (cs cs' : List Call) :
    received (cs ++ cs') = received cs ++ received cs' := List.filterMap_append

/-- The type of a general message that was sent, whole or not. -/
def attemptedType : Call → Option MsgType
  | .message msg _ => some msg.body.type
  | _ => none

def attempted (cs : List Call) : List MsgType := cs.filterMap attemptedType

/-- The type of a general message that was sent whole. -/
def sentType : Call → Option MsgType
  | .message msg r => if r = 0 then some msg.body.type else none
  | _ => none

def sent (cs : List Call) : List MsgType := cs.filterMap sentType

@[simp] theorem attempted_nil : attempted [] = [] := rfl

@[simp] theorem attempted_append (cs cs' : List Call) :
    attempted (cs ++ cs') = attempted cs ++ attempted cs' := List.filterMap_append

@[simp] theorem sent_nil : sent [] = [] := rfl

@[simp] theorem sent_append (cs cs' : List Call) : sent (cs ++ cs') = sent cs ++ sent cs' :=
  List.filterMap_append

/-- What is sent whole is sent. -/
theorem sent_sublist (cs : List Call) : (sent cs).Sublist (attempted cs) := by
  induction cs with
  | nil => exact .slnil
  | cons c cs ih =>
    cases c with
    | comm m r => exact ih
    | recv r m => exact ih
    | message msg r =>
      by_cases hr : r = 0
      · simpa [sent, attempted, sentType, attemptedType, hr] using ih
      · simpa [sent, attempted, sentType, attemptedType, hr] using ih.cons _

section Runs

variable {msg m : ZdtmMsg} {cs : List Call}

/-- At most the message itself is sent. -/
theorem sendRun_attempted {r : Except Fault Int} (h : SendRun msg r cs) :
    attempted cs = [] ∨ attempted cs = [msg.body.type] := by
  cases h with
  | noRequest r m hr => exact Or.inl rfl
  | unsent m r hr => exact Or.inr rfl
  | unacknowledged m m' r hr => exact Or.inr rfl
  | acknowledged m m' => exact Or.inr rfl
  | requestFault f => exact Or.inl rfl
  | sendFault f m => exact Or.inl rfl
  | ackFault f m => exact Or.inr rfl

theorem sendRun_sent (h : SendRun msg (.ok 0) cs) : sent cs = [msg.body.type] := by
  cases h with
  | acknowledged m m' => rfl

theorem recvRun_attempted {r : Except Fault (Int × ZdtmMsg)} (h : RecvRun r cs) :
    attempted cs = [] := by
  cases h <;> rfl

/-- A request and an acknowledgement are no general messages. -/
theorem sendRun_received (h : SendRun msg (.ok 0) cs) : received cs = [] := by
  cases h with
  | acknowledged m m' => rfl

theorem recvRun_received (h : RecvRun (.ok (0, m)) cs) : received cs = [m] := by
  cases h with
  | common r m hr => exact absurd hr (Int.lt_irrefl 0)
  | received m => rfl

theorem exchanged_received {reply : ZaurusType} (h : Exchanged msg reply (.ok (.ok m)) cs) :
    received cs = [m] ∧ m.body.type = reply.bytes := by
  cases h with
  | completed hsend hrecv htype =>
    simp [sendRun_received hsend, recvRun_received hrecv, htype]

theorem recvRun_sent {r : Except Fault (Int × ZdtmMsg)} (h : RecvRun r cs) : sent cs = [] := by
  cases h <;> rfl

theorem sendRecv_attempted {r : Except Fault (Int × ZdtmMsg)} {cs' : List Call}
    (hsend : SendRun msg (.ok 0) cs) (hrecv : RecvRun r cs') :
    attempted (cs ++ cs') = [] ∨ attempted (cs ++ cs') = [msg.body.type] := by
  simpa [recvRun_attempted hrecv] using sendRun_attempted hsend

theorem exchanged_attempted {reply : ZaurusType} {r : Except Fault (Except Int ZdtmMsg)}
    (h : Exchanged msg reply r cs) : attempted cs = [] ∨ attempted cs = [msg.body.type] := by
  cases h with
  | unsent hcode hsend hr => exact sendRun_attempted hsend
  | unreceived hcode hsend hrecv hr => exact sendRecv_attempted hsend hrecv
  | mistyped hcode hsend hrecv htype => exact sendRecv_attempted hsend hrecv
  | completed hsend hrecv htype => exact sendRecv_attempted hsend hrecv
  | sendFault hsend => exact sendRun_attempted hsend
  | recvFault hsend hrecv => exact sendRecv_attempted hsend hrecv

theorem exchanged_sent {reply : ZaurusType} (h : Exchanged msg reply (.ok (.ok m)) cs) :
    sent cs = [msg.body.type] := by
  cases h with
  | completed hsend hrecv htype => simp [sendRun_sent hsend, recvRun_sent hrecv]

end Runs

section Answered

variable {α : Type} {fail : Int → α} {done : α → Prop} {t : DesktopType} {reply : ZaurusType}
  {store : ZdtmMsg → Env → Env} {env env' : Env} {a : α} {cs : List Call}

/-- A result that is no success is a code of the operation, and nothing is stored. -/
theorem answered_undone (h : Answered fail done t reply store env (.ok a) env' cs)
    (hundone : ¬ done a) : env' = env ∧ ∃ code, a = fail code := by
  have hfailed : Failed fail (.ok a) → ∃ code, a = fail code := by
    rintro (⟨f, hf⟩ | ⟨code, -, hcode⟩)
    · cases hf
    · exact ⟨code, Except.ok.inj hcode⟩
  cases h with
  | unasked hr => exact ⟨rfl, hfailed hr⟩
  | stopped ht hex => exact ⟨rfl, _, rfl⟩
  | refused ht hex hr => exact ⟨rfl, hfailed hr⟩
  | stored ht hex ha => exact absurd ha hundone

end Answered

section Stored

variable {t : DesktopType} {reply : ZaurusType} {store : ZdtmMsg → Env → Env} {env env' : Env}
  {code : Int} {cs : List Call}

theorem failed_code (h : Failed id (.ok code)) : code < 0 := by
  rcases h with ⟨f, hf⟩ | ⟨code', hneg, hcode⟩
  · cases hf
  · cases hcode
    exact hneg

/-- An operation succeeds with one exchange, and stores its reply. -/
theorem answered_completed (h : AnsweredCode t reply store env (.ok code) env' cs)
    (hcode : code = 0) : ∃ msg m, msg.body.type = t.bytes ∧
      Exchanged msg reply (.ok (.ok m)) cs ∧ env' = store m env := by
  cases h with
  | unasked hr => exact absurd hcode (Int.ne_of_lt (failed_code hr))
  | stopped ht hex => exact absurd hcode (Int.ne_of_lt hex.code_neg)
  | refused ht hex hr => exact absurd hcode (Int.ne_of_lt (failed_code hr))
  | stored ht hex ha => exact ⟨_, _, ht, hex, rfl⟩

theorem answered_stored (h : AnsweredCode t reply store env (.ok 0) env' cs) :
    ∃ m, received cs = [m] ∧ m.body.type = reply.bytes ∧ env' = store m env := by
  obtain ⟨msg, m, ht, hex, henv⟩ := answered_completed h rfl
  obtain ⟨hreceived, htype⟩ := exchanged_received hex
  exact ⟨m, hreceived, htype, henv⟩

theorem answered_code (h : AnsweredCode t reply store env (.ok code) env' cs) : code ≤ 0 := by
  cases h with
  | unasked hr => exact Int.le_of_lt (failed_code hr)
  | stopped ht hex => exact Int.le_of_lt hex.code_neg
  | refused ht hex hr => exact Int.le_of_lt (failed_code hr)
  | stored ht hex ha => exact Int.le_of_eq ha

end Stored

end ZdtmReplies
