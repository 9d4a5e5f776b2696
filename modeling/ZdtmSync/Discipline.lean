import Mathlib.Data.List.Induction
import ZdtmSync.Operations

/-!
# The request and acknowledge discipline

The calls on `connfd` walk through the phases of a small automaton: a general
message is sent only behind a received request, and an acknowledgement only
behind a general message that was asked for and parsed. Every operation starts
and ends in the idle phase, so any sequence of operations walks through it.
-/

namespace ZdtmDiscipline

open CMemory Programs ZdtmTypes ZdtmMsgs ZdtmNet ZdtmReceiving ZdtmSession ZdtmProto ZdtmExchanges
  ZdtmOperations

inductive Phase where
  | idle | requested | sent | asked | received
  deriving DecidableEq, Repr

/-- The calls that belong to a phase, and the phase behind them. -/
inductive Step : Phase → Call → Phase → Prop
  | request (m : ZdtmMsg) : Step .idle (.recv 2 m) .requested
  | unrequested (r : Int) (m : ZdtmMsg) (hr : r ≠ 2) : Step .idle (.recv r m) .idle
  | send (msg : ZdtmMsg) : Step .requested (.message msg 0) .sent
  | unsent (msg : ZdtmMsg) (r : Int) (hr : r ≠ 0) : Step .requested (.message msg r) .idle
  | answer (r : Int) (m : ZdtmMsg) : Step .sent (.recv r m) .idle
  | ask : Step .idle (.comm .rqst 0) .asked
  | unasked (r : Int) (hr : r ≠ 0) : Step .idle (.comm .rqst r) .idle
  | receive (m : ZdtmMsg) : Step .asked (.recv 0 m) .received
  | unreceived (r : Int) (m : ZdtmMsg) (hr : r ≠ 0) : Step .asked (.recv r m) .idle
  | acknowledge (r : Int) : Step .received (.comm .ack r) .idle

inductive Walk : Phase → List Call → Phase → Prop
  | nil (p : Phase) : Walk p [] p
  | cons {p q p' : Phase} {c : Call} {cs : List Call} (hstep : Step p c q) (hwalk : Walk q cs p') :
      Walk p (c :: cs) p'

section Walks

variable {p q p' : Phase} {c : Call} {pre post cs cs' : List Call}

theorem Walk.append (h : Walk p cs q) (h' : Walk q cs' p') : Walk p (cs ++ cs') p' := by
  induction h with
  | nil p => exact h'
  | cons hstep hwalk ih => exact .cons hstep (ih h')

theorem Walk.split (h : Walk p (pre ++ post) p') : ∃ q, Walk p pre q ∧ Walk q post p' := by
  induction pre generalizing p with
  | nil => exact ⟨p, .nil p, h⟩
  | cons c pre ih =>
    cases h with
    | cons hstep hwalk =>
      obtain ⟨q, hpre, hpost⟩ := ih hwalk
      exact ⟨q, .cons hstep hpre, hpost⟩

/-- A walk that went somewhere made a last step. -/
theorem Walk.last (h : Walk p cs q) (hne : p ≠ q) :
    ∃ pre c p', cs = pre ++ [c] ∧ Walk p pre p' ∧ Step p' c q := by
  induction cs using List.reverseRecOn with
  | nil =>
    cases h
    exact absurd rfl hne
  | append_singleton pre c ih =>
    obtain ⟨p', hpre, hlast⟩ := h.split
    cases hlast with
    | cons hstep hnil =>
      cases hnil
      exact ⟨pre, c, p', rfl, hpre, hstep⟩

/-- A general message is sent right behind a received request. -/
theorem Walk.before_message {msg : ZdtmMsg} {r : Int}
    (h : Walk .idle (pre ++ .message msg r :: post) p) : ∃ pre' m, pre = pre' ++ [.recv 2 m] := by
  obtain ⟨q, hpre, hpost⟩ := h.split
  have hq : q = .requested := by
    cases hpost with
    | cons hstep hwalk =>
      cases hstep with
      | send => rfl
      | unsent => rfl
  subst hq
  obtain ⟨pre', c, p', rfl, -, hstep⟩ := hpre.last (by decide)
  cases hstep with
  | request m => exact ⟨pre', m, rfl⟩

/-- An acknowledgement is sent right behind a general message that was asked for. -/
theorem Walk.before_ack {r : Int} (h : Walk .idle (pre ++ .comm .ack r :: post) p) :
    ∃ pre' m, pre = pre' ++ [.comm .rqst 0, .recv 0 m] := by
  obtain ⟨q, hpre, hpost⟩ := h.split
  have hq : q = .received := by
    cases hpost with
    | cons hstep hwalk =>
      cases hstep with
      | acknowledge => rfl
  subst hq
  obtain ⟨pre₁, c₁, p₁, rfl, hpre₁, hstep₁⟩ := hpre.last (by decide)
  cases hstep₁ with
  | receive m =>
    obtain ⟨pre₂, c₂, p₂, rfl, -, hstep₂⟩ := hpre₁.last (by decide)
    cases hstep₂ with
    | ask => exact ⟨pre₂, m, by simp⟩

/-- Every general message that was asked for is acknowledged, and only once. -/
theorem Walk.behind_received {m : ZdtmMsg}
    (h : Walk .idle (pre ++ .comm .rqst 0 :: .recv 0 m :: post) p) (hp : p ≠ .received) :
    ∃ r post', post = .comm .ack r :: post' ∧ ∀ r' post'', post' ≠ .comm .ack r' :: post'' := by
  obtain ⟨q, -, hrqst⟩ := h.split
  cases hrqst with
  | cons hstep hrecv =>
    cases hstep with
    | unasked r hr => exact absurd rfl hr
    | ask =>
      cases hrecv with
      | cons hstep hpost =>
        cases hstep with
        | unreceived r m hr => exact absurd rfl hr
        | receive m =>
          cases hpost with
          | nil p => exact absurd rfl hp
          | cons hstep hrest =>
            cases hstep with
            | acknowledge r =>
              refine ⟨r, _, rfl, ?_⟩
              rintro r' post'' rfl
              cases hrest with
              | cons hstep hwalk => cases hstep

end Walks

/-- The next item behind each general message is its acknowledgement. -/
def Acknowledged (cs : List Call) : Prop :=
  ∀ pre msg r post, cs = pre ++ .message msg r :: post → ∃ m post', post = .recv 1 m :: post'

theorem acknowledged_append {cs cs' : List Call} (h : Acknowledged cs) (h' : Acknowledged cs') :
    Acknowledged (cs ++ cs') := by
  intro pre msg r post heq
  rcases split_append heq with ⟨as, rfl⟩ | ⟨as, rfl, rfl⟩
  · exact h' as msg r post rfl
  · obtain ⟨m, post', rfl⟩ := h pre msg r as rfl
    exact ⟨m, post' ++ cs', rfl⟩

/-- Nothing is sent. -/
theorem acknowledged_silent {cs : List Call} (h : ∀ msg r, .message msg r ∉ cs) :
    Acknowledged cs := by
  rintro pre msg r post rfl
  exact absurd (List.mem_append_right pre List.mem_cons_self) (h msg r)

section Disciplined

variable {α β : Type}

/-- The calls walk back to the idle phase, or a fault ends them elsewhere; a
result that counts as a success comes only with acknowledged messages. -/
def Disciplined (success : α → Prop) (r : Except Fault α) (cs : List Call) : Prop :=
  match r with
  | .ok a => Walk .idle cs .idle ∧ (success a → Acknowledged cs)
  | .error _ => ∃ p, p ≠ .received ∧ Walk .idle cs p

variable {success : α → Prop} {success' : β → Prop} {a : α} {r : Except Fault β}
  {cs cs' : List Call}

theorem Disciplined.append (h : Disciplined success (.ok a) cs)
    (h' : Disciplined success' r cs') (himp : ∀ c, r = .ok c → success' c → success a) :
    Disciplined success' r (cs ++ cs') := by
  obtain ⟨hwalk, hack⟩ := h
  cases r with
  | ok c =>
    obtain ⟨hwalk', hack'⟩ := h'
    refine ⟨hwalk.append hwalk', ?_⟩
    intro hc
    exact acknowledged_append (hack (himp c rfl hc)) (hack' hc)
  | error f =>
    obtain ⟨p, hp, hwalk'⟩ := h'
    exact ⟨p, hp, hwalk.append hwalk'⟩

theorem Disciplined.result (h : Disciplined success (.ok a) cs) {c : β}
    (himp : success' c → success a) : Disciplined success' (.ok c) cs :=
  ⟨h.1, fun hc => h.2 (himp hc)⟩

end Disciplined

theorem sendRun_disciplined {msg : ZdtmMsg} {r : Except Fault Int} {cs : List Call}
    (h : SendRun msg r cs) : Disciplined (· = 0) r cs := by
  cases h with
  | noRequest r m hr =>
    refine ⟨.cons (.unrequested r m hr) (.nil _), ?_⟩
    intro hzero
    cases hzero
  | unsent m r hr =>
    refine ⟨.cons (.request m) (.cons (.unsent msg r hr) (.nil _)), ?_⟩
    intro hzero
    cases hzero
  | unacknowledged m m' r hr =>
    refine ⟨.cons (.request m) (.cons (.send msg) (.cons (.answer r m') (.nil _))), ?_⟩
    intro hzero
    cases hzero
  | acknowledged m m' =>
    refine ⟨.cons (.request m) (.cons (.send msg) (.cons (.answer 1 m') (.nil _))), ?_⟩
    intro _ pre msg' r post heq
    cases pre with
    | nil => cases heq
    | cons c pre =>
      cases pre with
      | nil =>
        cases heq
        exact ⟨m', [], rfl⟩
      | cons c' pre =>
        cases pre with
        | nil => cases heq
        | cons c'' pre => cases pre <;> cases heq
  | requestFault f => exact ⟨.idle, by decide, .nil _⟩
  | sendFault f m => exact ⟨.requested, by decide, .cons (.request m) (.nil _)⟩
  | ackFault f m => exact ⟨.sent, by decide, .cons (.request m) (.cons (.send msg) (.nil _))⟩

theorem recvRun_silent {r : Except Fault (Int × ZdtmMsg)} {cs : List Call} (h : RecvRun r cs) :
    ∀ msg r, Call.message msg r ∉ cs := by
  intro msg r hmem
  cases h <;> simp at hmem

theorem recvRun_disciplined {r : Except Fault (Int × ZdtmMsg)} {cs : List Call}
    (h : RecvRun r cs) : Disciplined (fun _ => True) r cs := by
  have hsilent : Acknowledged cs := acknowledged_silent (recvRun_silent h)
  cases h with
  | unasked r hr => exact ⟨.cons (.unasked r hr) (.nil _), fun _ => hsilent⟩
  | failed r m hr =>
    exact ⟨.cons .ask (.cons (.unreceived r m (by omega)) (.nil _)), fun _ => hsilent⟩
  | common r m hr =>
    exact ⟨.cons .ask (.cons (.unreceived r m (by omega)) (.nil _)), fun _ => hsilent⟩
  | unacknowledged m r hr =>
    exact ⟨.cons .ask (.cons (.receive m) (.cons (.acknowledge r) (.nil _))), fun _ => hsilent⟩
  | received m =>
    exact ⟨.cons .ask (.cons (.receive m) (.cons (.acknowledge 0) (.nil _))), fun _ => hsilent⟩
  | fault f => exact ⟨.asked, by decide, .cons .ask (.nil _)⟩

section Runs

variable {msg m : ZdtmMsg} {r : Except Fault (Int × ZdtmMsg)} {cs cs' cs'' : List Call}

theorem sendRecv_disciplined (hsend : SendRun msg (.ok 0) cs) (hrecv : RecvRun r cs') :
    Disciplined (fun _ => True) r (cs ++ cs') := by
  apply (sendRun_disciplined hsend).append (recvRun_disciplined hrecv)
  intro _ _ _
  rfl

theorem sendRecvRecv_disciplined (hsend : SendRun msg (.ok 0) cs)
    (habort : RecvRun (.ok (3, m)) cs') (hrecv : RecvRun r cs'') :
    Disciplined (fun _ => True) r (cs ++ (cs' ++ cs'')) := by
  rw [← List.append_assoc]
  exact (sendRecv_disciplined hsend habort).append (recvRun_disciplined hrecv) fun _ _ _ => trivial

end Runs

theorem exchanged_disciplined {msg : ZdtmMsg} {reply : ZaurusType}
    {r : Except Fault (Except Int ZdtmMsg)} {cs : List Call} (h : Exchanged msg reply r cs) :
    Disciplined (fun e => ∃ m, e = .ok m) r cs := by
  cases h with
  | unsent hcode hsend hr =>
    apply (sendRun_disciplined hsend).result
    rintro ⟨m, hm⟩
    cases hm
  | unreceived hcode hsend hrecv hr => exact (sendRecv_disciplined hsend hrecv).result fun _ => trivial
  | mistyped hcode hsend hrecv htype =>
    exact (sendRecv_disciplined hsend hrecv).result fun _ => trivial
  | completed hsend hrecv htype => exact (sendRecv_disciplined hsend hrecv).result fun _ => trivial
  | sendFault hsend => exact sendRun_disciplined hsend
  | recvFault hsend hrecv => exact sendRecv_disciplined hsend hrecv

/-- An operation succeeds with a code that is not negative. -/
abbrev OperationDisciplined := Disciplined (fun code : Int => 0 ≤ code)

theorem failed_disciplined {r : Except Fault Int} {cs : List Call} (hr : Failed id r)
    (hwalk : Walk .idle cs .idle) : OperationDisciplined r cs := by
  rcases hr with ⟨f, rfl⟩ | ⟨code, hcode, rfl⟩
  · exact ⟨.idle, by decide, hwalk⟩
  · refine ⟨hwalk, ?_⟩
    intro hpos
    change (0 : Int) ≤ code at hpos
    omega

section Operations

variable {r : Except Fault Int} {cs : List Call}

theorem answered_disciplined {t : DesktopType} {reply : ZaurusType}
    (h : AnsweredCalls t reply r cs) : OperationDisciplined r cs := by
  obtain ⟨store, env, env', h⟩ := h
  cases h with
  | unasked hr => exact failed_disciplined hr (.nil _)
  | stopped ht hex =>
    exact failed_disciplined (Or.inr ⟨_, hex.code_neg, rfl⟩) (exchanged_disciplined hex).1
  | faulted ht hex => exact exchanged_disciplined hex
  | refused ht hex hr => exact failed_disciplined hr (exchanged_disciplined hex).1
  | stored ht hex ha => exact (exchanged_disciplined hex).result fun _ => ⟨_, rfl⟩

theorem authRun_disciplined (h : AuthRun r cs) : OperationDisciplined r cs := by
  cases h with
  | unasked hcode => exact failed_disciplined (Or.inr ⟨_, hcode, rfl⟩) (.nil _)
  | unsent hcode ht hsend hr =>
    exact failed_disciplined (Or.inr ⟨_, hcode, rfl⟩) (sendRun_disciplined hsend).1
  | failed hcode ht hsend hrecv hr => exact (sendRecv_disciplined hsend hrecv).result fun _ => trivial
  | accepted ht hsend hrecv htype => exact (sendRecv_disciplined hsend hrecv).result fun _ => trivial
  | aborted hcode ht hsend habort hrecv =>
    exact (sendRecvRecv_disciplined hsend habort hrecv).result fun _ => trivial
  | denied ht hsend habort hrecv htype =>
    exact (sendRecvRecv_disciplined hsend habort hrecv).result fun _ => trivial
  | sendFault ht hsend => exact sendRun_disciplined hsend
  | recvFault ht hsend hrecv => exact sendRecv_disciplined hsend hrecv
  | abortFault ht hsend habort hrecv => exact sendRecvRecv_disciplined hsend habort hrecv

theorem logRun_disciplined (h : LogRun r cs) : OperationDisciplined r cs := by
  have hrefuse : ∀ {msg : ZdtmMsg} {cs : List Call}, RefusedRun msg cs →
      Disciplined (fun _ => True) (.ok ()) cs := by
    intro msg cs hrefused
    cases hrefused with
    | intro hsend habort hrecv htype =>
      exact (sendRecvRecv_disciplined hsend habort hrecv).result fun _ => trivial
  cases h with
  | unsent hcode ht hsend hr =>
    exact failed_disciplined (Or.inr ⟨_, hcode, rfl⟩) (sendRun_disciplined hsend).1
  | unaborted hcode ht hsend hrecv =>
    exact (sendRecv_disciplined hsend hrecv).result fun _ => trivial
  | aborted hcode ht hsend habort hrecv =>
    exact (sendRecvRecv_disciplined hsend habort hrecv).result fun _ => trivial
  | stopped hcode ht ht' hrefused hex =>
    have hall := (hrefuse hrefused).append (exchanged_disciplined hex) fun _ _ _ => trivial
    exact failed_disciplined (Or.inr ⟨_, hcode, rfl⟩) hall.1
  | accepted ht ht' hrefused hex =>
    have hall := (hrefuse hrefused).append (exchanged_disciplined hex) fun _ _ _ => trivial
    exact hall.result fun _ => ⟨_, rfl⟩
  | sendFault ht hsend => exact sendRun_disciplined hsend
  | recvFault ht hsend hrecv => exact sendRecv_disciplined hsend hrecv
  | abortFault ht hsend habort hrecv => exact sendRecvRecv_disciplined hsend habort hrecv
  | exchangeFault ht ht' hrefused hex =>
    exact (hrefuse hrefused).append (exchanged_disciplined hex) fun _ _ _ => trivial

theorem operation_disciplined {op : Operation} (h : op.Calls r cs) :
    OperationDisciplined r cs := by
  cases op with
  | authenticatePasscode passcode => exact authRun_disciplined h
  | resetSyncLog => exact logRun_disciplined h
  | obtainDeviceInfo => exact answered_disciplined h
  | obtainSyncState => exact answered_disciplined h
  | resetSyncState => exact answered_disciplined h
  | obtainLastTimeSynced pTime => exact answered_disciplined h
  | setLastTimeSynced timeSynced => exact answered_disciplined h
  | obtainParamFormat => exact answered_disciplined h
  | obtainItem syncId item => exact answered_disciplined h
  | obtainSyncIdLists lists => exact answered_disciplined h
  | deleteItem syncId => exact answered_disciplined h
  | stateSyncDone => exact answered_disciplined h

end Operations

/-- The operations one after the other, whatever each of them returns. -/
def runAll (b : Build) : List Operation → Session (List Int)
  | [] => return []
  | op :: ops => do
    let r ← op.run b
    let rs ← runAll b ops
    return r :: rs

/-- The calls of all operations, with those of each if all of them return. -/
def AllDisciplined (r : Except Fault (List Int)) (cs : List Call) : Prop :=
  (∃ p, p ≠ .received ∧ Walk .idle cs p) ∧ ∀ rs, r = .ok rs → Walk .idle cs .idle ∧
    ∃ segments, cs = segments.flatten ∧
      List.Forall₂ (fun (code : Int) seg => 0 ≤ code → Acknowledged seg) rs segments

theorem runAll_logs (b : Build) (ops : List Operation) :
    Logs (talks b) (runAll b ops) AllDisciplined := by
  induction ops with
  | nil =>
    refine logs_pure ⟨⟨.idle, by decide, .nil _⟩, ?_⟩
    intro rs hrs
    cases hrs
    exact ⟨.nil _, [], rfl, .nil⟩
  | cons op ops ih =>
    apply logs_bind (operation_logs b op)
    · intro r cs hop
      obtain ⟨hwalk, hack⟩ := operation_disciplined hop
      apply logs_bind ih
      · intro rs cs' hrest
        obtain ⟨-, hrest⟩ := hrest
        obtain ⟨hwalk', segments, rfl, hsegments⟩ := hrest rs rfl
        apply logs_pure
        rw [List.append_nil]
        refine ⟨⟨.idle, by decide, hwalk.append hwalk'⟩, ?_⟩
        intro rs' hrs'
        cases hrs'
        exact ⟨hwalk.append hwalk', cs :: segments, rfl, .cons hack hsegments⟩
      · intro f cs' hrest
        obtain ⟨⟨p, hp, hwalk'⟩, -⟩ := hrest
        refine ⟨⟨p, hp, hwalk.append hwalk'⟩, ?_⟩
        intro rs hrs
        cases hrs
    · intro f cs hop
      refine ⟨operation_disciplined hop, ?_⟩
      intro rs hrs
      cases hrs

/-- Whatever the peer sends, messages and acknowledgements stand only where they
belong, and each message that was asked for is acknowledged once. -/
structure KeepsDiscipline (cs : List Call) : Prop where
  message : ∀ pre msg r post, cs = pre ++ .message msg r :: post →
    ∃ pre' m, pre = pre' ++ [.recv 2 m]
  ack : ∀ pre r post, cs = pre ++ .comm .ack r :: post →
    ∃ pre' m, pre = pre' ++ [.comm .rqst 0, .recv 0 m]
  received : ∀ pre m post, cs = pre ++ .comm .rqst 0 :: .recv 0 m :: post →
    ∃ r post', post = .comm .ack r :: post' ∧ ∀ r' post'', post' ≠ .comm .ack r' :: post''

theorem walk_keepsDiscipline {cs : List Call} {p : Phase} (h : Walk .idle cs p)
    (hp : p ≠ .received) : KeepsDiscipline cs where
  message := by
    rintro pre msg r post rfl
    exact h.before_message
  ack := by
    rintro pre r post rfl
    exact h.before_ack
  received := by
    rintro pre m post rfl
    exact h.behind_received hp

/-- Every sequence of operations keeps the discipline on the connection, and the
bytes that cross it are those of its calls; an operation that succeeds received
the acknowledgement of each message right behind it. -/
theorem operations_keep_discipline (b : Build) (ops : List Operation) (s : State)
    (hsends : s.world.sends = []) :
    ∃ evs, (runAll b ops s).2.events = s.events ++ evs ∧
      (runAll b ops s).2.world.trace = s.world.trace ++ evs.flatMap Event.io ∧
      (∀ ev ∈ evs, ev.Faithful b) ∧ KeepsDiscipline (evs.map Event.call) ∧
      ∀ codes, (runAll b ops s).1 = .ok codes →
        ∃ segments, evs.map Event.call = segments.flatten ∧
          List.Forall₂ (fun code seg => 0 ≤ code → Acknowledged seg) codes segments := by
  obtain ⟨cs, htalks, ⟨p, hp, hwalk⟩, hcodes⟩ := runAll_logs b ops s
  obtain ⟨evs, rfl, hevents, hwhole⟩ := htalks.traffic.recorded
  obtain ⟨-, htrace, hexact⟩ := hwhole hsends
  have hfaithful : ∀ ev ∈ evs, ev.Faithful b := fun ev hev => (hexact ev hev).faithful
  refine ⟨evs, hevents, htrace, hfaithful, walk_keepsDiscipline hwalk hp, ?_⟩
  intro codes hr
  exact (hcodes codes hr).2

/-- The device confirms the end of a synchronization, and then says nothing more. -/
def doneState : State where
  world := {
    heap := Heap.filled 0
    inbox := [.data (CommonMsg.rqst.bytes.toList ++ CommonMsg.ack.bytes.toList ++
      aexFrame.bytes) (by decide)] }
  env := { syncType := syncTypeTodo }
  host := quietHost

theorem operations_keep_discipline_done :
    (runAll .littleEndian [.stateSyncDone, .obtainDeviceInfo] doneState).1 = .ok [0, -1] ∧
    ∃ evs, (runAll .littleEndian [.stateSyncDone, .obtainDeviceInfo] doneState).2.events =
        doneState.events ++ evs ∧
      (runAll .littleEndian [.stateSyncDone, .obtainDeviceInfo] doneState).2.world.trace =
        doneState.world.trace ++ evs.flatMap Event.io ∧
      (∀ ev ∈ evs, ev.Faithful .littleEndian) ∧ KeepsDiscipline (evs.map Event.call) ∧
      ∀ codes, (runAll .littleEndian [.stateSyncDone, .obtainDeviceInfo] doneState).1 = .ok codes →
        ∃ segments, evs.map Event.call = segments.flatten ∧
          List.Forall₂ (fun code seg => 0 ≤ code → Acknowledged seg) codes segments :=
  ⟨by decide +kernel,
    operations_keep_discipline .littleEndian [.stateSyncDone, .obtainDeviceInfo] doneState rfl⟩

end ZdtmDiscipline
