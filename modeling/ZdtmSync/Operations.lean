import ZdtmSync.Exchanges

/-!
# Runs of the protocol operations

One lemma for each operation says everything that its runs can do: which calls
are made, what it returns, and what becomes of the environment. All operations
that make a single exchange end in one of the ways of `Answered`.
-/

namespace ZdtmOperations

open CMemory Programs ZdtmTypes ZdtmMsgs ZdtmNet ZdtmSession ZdtmProto ZdtmSync ZdtmExchanges

section Answered

variable {α : Type} (fail : Int → α) (done : α → Prop)

/-- The run faults, or returns a negative code. -/
def Failed (r : Except Fault α) : Prop := (∃ f, r = .error f) ∨ ∃ code < 0, r = .ok (fail code)

/-- The calls of an operation with one exchange. Only after a reply of the right
type the operation can succeed, and only then the environment changes. -/
inductive Answered (t : DesktopType) (reply : ZaurusType) (store : ZdtmMsg → Env → Env)
    (env : Env) : Except Fault α → Env → List Call → Prop
  | unasked {r : Except Fault α} (hr : Failed fail r) : Answered t reply store env r env []
  | stopped {msg : ZdtmMsg} {code : Int} {cs : List Call} (ht : msg.body.type = t.bytes)
      (hex : Exchanged msg reply (.ok (.error code)) cs) :
      Answered t reply store env (.ok (fail code)) env cs
  | faulted {msg : ZdtmMsg} {f : Fault} {cs : List Call} (ht : msg.body.type = t.bytes)
      (hex : Exchanged msg reply (.error f) cs) : Answered t reply store env (.error f) env cs
  | refused {msg m : ZdtmMsg} {r : Except Fault α} {cs : List Call}
      (ht : msg.body.type = t.bytes) (hex : Exchanged msg reply (.ok (.ok m)) cs)
      (hr : Failed fail r) : Answered t reply store env r env cs
  | stored {msg m : ZdtmMsg} {a : α} {cs : List Call} (ht : msg.body.type = t.bytes)
      (hex : Exchanged msg reply (.ok (.ok m)) cs) (ha : done a) :
      Answered t reply store env (.ok a) (store m env) cs

/-- What an operation does with the reply: it makes no calls. -/
def Finishes (store : Env → Env) (env : Env) (r : Except Fault α) (env' : Env)
    (cs : List Call) : Prop :=
  cs = [] ∧ ((Failed fail r ∧ env' = env) ∨ ∃ a, r = .ok a ∧ done a ∧ env' = store env)

variable {fail done} {b : Build} {t : DesktopType} {reply : ZaurusType}
  {store : ZdtmMsg → Env → Env}

theorem finishes_pure {a : α} (ha : done a) :
    Runs (talks b) State.env (pure a : Session α) (Finishes fail done fun env => env) :=
  runs_pure fun _ => ⟨rfl, Or.inr ⟨a, rfl, ha, rfl⟩⟩

theorem finishes_fail {code : Int} (hcode : code < 0) (store : Env → Env) :
    Runs (talks b) State.env (pure (fail code) : Session α) (Finishes fail done store) :=
  runs_pure fun _ => ⟨rfl, Or.inl ⟨Or.inr ⟨code, hcode, rfl⟩, rfl⟩⟩

theorem finishes_modify {a : α} (ha : done a) (store : Env → Env) :
    Runs (talks b) State.env (modifyEnv store >>= fun _ => (pure a : Session α))
      (Finishes fail done store) :=
  fun s => ⟨[], ⟨rfl, Traffic.env b s _⟩, rfl, Or.inr ⟨a, rfl, ha, rfl⟩⟩

/-- An exchange and what is done with the reply. -/
theorem runs_answered {msg : ZdtmMsg} {x : Session (Except Int ZdtmMsg)}
    {f : Except Int ZdtmMsg → Session α} (hx : Logs (exchanges b) x (Exchanged msg reply))
    (ht : msg.body.type = t.bytes) (herror : ∀ code, f (.error code) = pure (fail code))
    (hok : ∀ m, Runs (talks b) State.env (f (.ok m)) (Finishes fail done (store m))) :
    Runs (talks b) State.env (x >>= f) (Answered fail done t reply store) := by
  apply runs_bind (hx.runs fun s new s' h => ⟨h.toTalks, h.env⟩)
  · intro env e env' cs hex
    obtain ⟨rfl, hex⟩ := hex
    cases e with
    | error code =>
      rw [herror]
      apply runs_pure
      intro env hv
      subst hv
      rw [List.append_nil]
      exact .stopped ht hex
    | ok m =>
      apply (hok m).mono
      intro env r env' cs' hfin hv
      subst hv
      obtain ⟨rfl, hfin⟩ := hfin
      rw [List.append_nil]
      rcases hfin with ⟨hr, rfl⟩ | ⟨a, rfl, ha, rfl⟩
      · exact .refused ht hex hr
      · exact .stored ht hex ha
  · intro env f env' cs hex
    obtain ⟨rfl, hex⟩ := hex
    exact .faulted ht hex

theorem leads_getEnv {g : Env → Session α} {s : State} {Q : Except Fault α → State → Prop}
    (h : Leads (g s.env) s Q) : Leads (getEnv >>= g) s Q := h

theorem leads_getHost {g : Host → Session α} {s : State} {Q : Except Fault α → State → Prop}
    (h : Leads (g s.host) s Q) : Leads (getHost >>= g) s Q := h

theorem runs_getEnv {γ : Type} {L : Recorder State γ} {g : Env → Session α}
    {R : Env → Except Fault α → Env → List γ → Prop}
    (h : ∀ env, Runs L State.env (g env) R) : Runs L State.env (getEnv >>= g) R :=
  fun s => h s.env s

/-- The environment read is the one that the run starts in. -/
theorem runs_getEnv_eq {γ : Type} {L : Recorder State γ} {g : Env → Session α}
    {R : Env → Except Fault α → Env → List γ → Prop}
    (h : ∀ env, Runs L State.env (g env) fun v r v' new => v = env → R v r v' new) :
    Runs L State.env (getEnv >>= g) R := by
  intro s
  apply leads_getEnv
  apply (h s.env s).mono
  rintro r s' ⟨new, hext, hr⟩
  exact ⟨new, hext, hr rfl⟩

theorem runs_getHost {γ : Type} {L : Recorder State γ} {g : Host → Session α}
    {R : Env → Except Fault α → Env → List γ → Prop}
    (h : ∀ host, Runs L State.env (g host) R) : Runs L State.env (getHost >>= g) R :=
  fun s => h s.host s

end Answered

/-- The string is copied if it fits. -/
def storeDeviceInfo (m : ZdtmMsg) (env : Env) : Env :=
  let aig := m.body.cont.aig
  { env with
    model := (copyString env.model aig.modelStr aig.modelStrLen.toNat).toOption.getD env.model
    language := aig.language, curAuthState := aig.authState, retreivedDeviceInfo := 1 }

def storeParamFormat (m : ZdtmMsg) (env : Env) : Env :=
  { env with numParams := m.body.cont.adi.numParams, params := m.body.cont.adi.params }

/-- The environment is not changed. -/
def keepEnv (_ : ZdtmMsg) (env : Env) : Env := env

section Single

variable (b : Build)

/-- The ways of an operation that returns a code. -/
abbrev AnsweredCode := Answered (α := Int) id (· = 0)

/-- The ways of an operation that also hands out a result, and otherwise leaves
`out` in its place. -/
abbrev AnsweredWith {β : Type} (out : β) :=
  Answered (fun code => (code, out)) fun a : Int × β => a.1 = 0

variable {b} {t : DesktopType} {reply : ZaurusType} {store : ZdtmMsg → Env → Env}
  {sendFail recvFail typeFail : Int}

/-- An operation that stores the reply and returns 0. -/
theorem answered_stores {cont : SpecTypeContent} {f : Except Int ZdtmMsg → Session Int}
    (hneg : sendFail < 0 ∧ recvFail < 0 ∧ typeFail < 0)
    (herror : ∀ code, f (.error code) = pure code)
    (hok : ∀ m, f (.ok m) = modifyEnv (store m) >>= fun _ => pure 0) :
    Runs (talks b) State.env
      (exchange b (desktopMsg t cont) reply sendFail recvFail typeFail >>= f)
      (AnsweredCode t reply store) := by
  obtain ⟨hsendFail, hrecvFail, htypeFail⟩ := hneg
  apply runs_answered (logs_exchange b _ _ hsendFail hrecvFail htypeFail) rfl herror
  intro m
  rw [hok]
  apply finishes_modify
  rfl

/-- An operation that only looks at the type of the reply, or hands out a result. -/
theorem answered_keeps {α : Type} {fail : Int → α} {done : α → Prop} {cont : SpecTypeContent}
    {f : Except Int ZdtmMsg → Session α}
    (hneg : sendFail < 0 ∧ recvFail < 0 ∧ typeFail < 0)
    (herror : ∀ code, f (.error code) = pure (fail code))
    (hok : ∀ m, ∃ a, f (.ok m) = pure a ∧ done a) :
    Runs (talks b) State.env
      (exchange b (desktopMsg t cont) reply sendFail recvFail typeFail >>= f)
      (Answered fail done t reply keepEnv) := by
  obtain ⟨hsendFail, hrecvFail, htypeFail⟩ := hneg
  apply runs_answered (logs_exchange b _ _ hsendFail hrecvFail htypeFail) rfl herror
  intro m
  obtain ⟨a, hdone, ha⟩ := hok m
  rw [hdone]
  exact finishes_pure ha

variable (b)

theorem obtainDeviceInfo_runs :
    Runs (talks b) State.env (zdtmObtainDeviceInfo b)
      (AnsweredCode .rig .aig storeDeviceInfo) := by
  apply runs_answered (logs_exchange b _ _ (by decide) (by decide) (by decide)) rfl
  · intro code
    rfl
  · intro m s
    apply leads_getEnv
    cases hcopy : copyString s.env.model m.body.cont.aig.modelStr
        m.body.cont.aig.modelStrLen.toNat with
    | error f =>
      exact ⟨[], (talks b).refl s, rfl, Or.inl ⟨Or.inl ⟨f, rfl⟩, rfl⟩⟩
    | ok model =>
      have hstore : storeDeviceInfo m s.env = { s.env with
          model
          language := m.body.cont.aig.language
          curAuthState := m.body.cont.aig.authState
          retreivedDeviceInfo := 1 } := by
        simp [storeDeviceInfo, hcopy, Except.toOption]
      exact ⟨[], ⟨rfl, Traffic.env b s _⟩, rfl, Or.inr ⟨0, rfl, rfl, hstore.symm⟩⟩

theorem obtainSyncState_runs :
    Runs (talks b) State.env (zdtmObtainSyncState b)
      (AnsweredCode .rmg .amg fun m => storeSyncState m.body.cont.amg.fullsyncFlags) := by
  apply runs_getEnv
  intro env
  exact answered_stores (by decide) (fun _ => rfl) fun _ => rfl

theorem resetSyncState_runs :
    Runs (talks b) State.env (zdtmResetSyncState b)
      (AnsweredCode .rss .aex fun _ => resetFlags) := by
  apply runs_getEnv
  intro env
  exact answered_stores (by decide) (fun _ => rfl) fun _ => rfl

theorem obtainLastTimeSynced_runs (pTime : Int) :
    Runs (talks b) State.env (zdtmObtainLastTimeSynced b pTime)
      (AnsweredWith pTime .rtg .atg keepEnv) := by
  apply runs_answered (logs_exchange b _ _ (by decide) (by decide) (by decide)) rfl
  · intro code
    rfl
  · intro m
    apply runs_getHost
    intro host
    by_cases hfail : host.mktime (atgTime m.body.cont.atg) = -1
    · simp only [hfail, if_true]
      exact finishes_fail (show (-4 : Int) < 0 by decide) _
    · simp only [hfail, if_false]
      apply finishes_pure
      rfl

theorem setLastTimeSynced_runs (timeSynced : Int) :
    Runs (talks b) State.env (zdtmSetLastTimeSynced b timeSynced)
      (AnsweredCode .rts .aex keepEnv) := by
  apply runs_getHost
  intro host
  cases host.localtimeR timeSynced with
  | none =>
    apply runs_pure
    intro env
    exact .unasked (Or.inr ⟨-1, by decide, rfl⟩)
  | some tm =>
    apply runs_lift
    · intro f hf env
      exact .unasked (Or.inl ⟨f, rfl⟩)
    · intro date hdate
      exact answered_keeps (by decide) (fun _ => rfl) fun _ => ⟨_, rfl, rfl⟩

theorem obtainParamFormat_runs :
    Runs (talks b) State.env (zdtmObtainParamFormat b)
      (AnsweredCode .rdi .adi storeParamFormat) := by
  apply runs_getEnv
  intro env
  by_cases hparams : env.params = none
  · simp only [hparams, ne_eq, not_true_eq_false, if_false]
    exact answered_stores (by decide) (fun _ => rfl) fun _ => rfl
  · simp only [ne_eq, hparams, not_false_eq_true, if_true]
    apply runs_pure
    intro env
    exact .unasked (Or.inr ⟨-4, by decide, rfl⟩)

theorem obtainItem_runs (syncId : UInt32) (item : ItemParams) :
    Runs (talks b) State.env (zdtmObtainItem b syncId item)
      (AnsweredWith item .rdr .adr keepEnv) := by
  apply runs_getEnv
  intro env
  exact answered_keeps (by decide) (fun _ => rfl) fun _ => ⟨_, rfl, rfl⟩

theorem stateSyncDone_runs :
    Runs (talks b) State.env (zdtmStateSyncDone b) (AnsweredCode .rds .aex keepEnv) := by
  apply runs_getEnv
  intro env
  exact answered_keeps (by decide) (fun _ => rfl) fun _ => ⟨_, rfl, rfl⟩

theorem deleteItem_runs (syncId : UInt32) :
    Runs (talks b) State.env (zdtmDeleteItem b syncId) (AnsweredCode .rdd .aex keepEnv) := by
  apply runs_getEnv
  intro env
  exact answered_keeps (by decide) (fun _ => rfl) fun _ => ⟨_, rfl, rfl⟩

/-- A block is asked for; without one the operation returns a code. -/
theorem finishes_allocate {α : Type} {fail : Int → α} {done : α → Prop} {store : Env → Env}
    {n : Nat} {code : Int} {f : Ptr → Session α} (hcode : code < 0)
    (hnone : f none = pure (fail code))
    (hsome : ∀ block, Runs (talks b) State.env (f (some block)) (Finishes fail done store)) :
    Runs (talks b) State.env (allocate n >>= f) (Finishes fail done store) := by
  apply runs_bind ((logs_allocate b n).runs fun s new s' h => ⟨h.toTalks, h.env⟩)
  · intro env p env' cs hp
    obtain ⟨rfl, -, rfl⟩ := hp
    cases p with
    | none =>
      rw [hnone]
      apply (finishes_fail hcode store).mono
      intro env r env' cs hfin hv
      subst hv
      exact hfin
    | some block =>
      apply (hsome block).mono
      intro env r env' cs hfin hv
      subst hv
      exact hfin
  · intro env f env' cs hp
    obtain ⟨-, ⟨p, hp⟩, -⟩ := hp
    cases hp

theorem obtainSyncIdLists_runs (lists : SyncIdLists) :
    Runs (talks b) State.env (zdtmObtainSyncIdLists b lists)
      (AnsweredWith lists .rsy .asy keepEnv) := by
  apply runs_getEnv
  intro env
  apply runs_answered (logs_exchange b _ _ (by decide) (by decide) (by decide)) rfl
  · intro code
    rfl
  · intro m
    have hneg : (-4 : Int) < 0 := by decide
    apply finishes_allocate b hneg rfl
    intro newBlock
    apply finishes_allocate b hneg rfl
    intro modBlock
    apply finishes_allocate b hneg rfl
    intro delBlock
    apply runs_lift
    · intro f hf env
      exact ⟨rfl, Or.inl ⟨Or.inl ⟨f, rfl⟩, rfl⟩⟩
    · intro copied hcopied
      apply finishes_pure
      rfl

end Single

/-- The calls of `_zdtm_authenticate_passcode`. -/
inductive AuthRun : Except Fault Int → List Call → Prop
  | unasked {code : Int} (hcode : code < 0) : AuthRun (.ok code) []
  | unsent {msg : ZdtmMsg} {code r : Int} {cs : List Call} (hcode : code < 0)
      (ht : msg.body.type = DesktopType.rrl.bytes) (hsend : SendRun msg (.ok r) cs) (hr : r ≠ 0) :
      AuthRun (.ok code) cs
  | failed {msg m : ZdtmMsg} {code r : Int} {cs cs' : List Call} (hcode : code < 0)
      (ht : msg.body.type = DesktopType.rrl.bytes) (hsend : SendRun msg (.ok 0) cs)
      (hrecv : RecvRun (.ok (r, m)) cs')
      (hr : r ≠ 0 ∨ m.body.type ≠ ZaurusType.aex.bytes) : AuthRun (.ok code) (cs ++ cs')
  | accepted {msg m : ZdtmMsg} {cs cs' : List Call} (ht : msg.body.type = DesktopType.rrl.bytes)
      (hsend : SendRun msg (.ok 0) cs) (hrecv : RecvRun (.ok (0, m)) cs')
      (htype : m.body.type = ZaurusType.aex.bytes) : AuthRun (.ok 0) (cs ++ cs')
  | aborted {msg m m' : ZdtmMsg} {code r : Int} {cs cs' cs'' : List Call} (hcode : code < 0)
      (ht : msg.body.type = DesktopType.rrl.bytes) (hsend : SendRun msg (.ok 0) cs)
      (habort : RecvRun (.ok (3, m)) cs') (hrecv : RecvRun (.ok (r, m')) cs'') :
      AuthRun (.ok code) (cs ++ (cs' ++ cs''))
  | denied {msg m m' : ZdtmMsg} {cs cs' cs'' : List Call}
      (ht : msg.body.type = DesktopType.rrl.bytes) (hsend : SendRun msg (.ok 0) cs)
      (habort : RecvRun (.ok (3, m)) cs') (hrecv : RecvRun (.ok (0, m')) cs'')
      (htype : m'.body.type = ZaurusType.ang.bytes) : AuthRun (.ok 1) (cs ++ (cs' ++ cs''))
  | sendFault {msg : ZdtmMsg} {f : Fault} {cs : List Call}
      (ht : msg.body.type = DesktopType.rrl.bytes) (hsend : SendRun msg (.error f) cs) :
      AuthRun (.error f) cs
  | recvFault {msg : ZdtmMsg} {f : Fault} {cs cs' : List Call}
      (ht : msg.body.type = DesktopType.rrl.bytes) (hsend : SendRun msg (.ok 0) cs)
      (hrecv : RecvRun (.error f) cs') : AuthRun (.error f) (cs ++ cs')
  | abortFault {msg m : ZdtmMsg} {f : Fault} {cs cs' cs'' : List Call}
      (ht : msg.body.type = DesktopType.rrl.bytes) (hsend : SendRun msg (.ok 0) cs)
      (habort : RecvRun (.ok (3, m)) cs') (hrecv : RecvRun (.error f) cs'') :
      AuthRun (.error f) (cs ++ (cs' ++ cs''))

/-- The first half of `_zdtm_reset_sync_log`: the abort and the ANG message that
follow the empty log. -/
inductive RefusedRun (msg : ZdtmMsg) : List Call → Prop
  | intro {m m' : ZdtmMsg} {cs cs' cs'' : List Call} (hsend : SendRun msg (.ok 0) cs)
      (habort : RecvRun (.ok (3, m)) cs') (hrecv : RecvRun (.ok (0, m')) cs'')
      (htype : m'.body.type = ZaurusType.ang.bytes) : RefusedRun msg (cs ++ (cs' ++ cs''))

/-- The calls of `_zdtm_reset_sync_log`. -/
inductive LogRun : Except Fault Int → List Call → Prop
  | unsent {msg : ZdtmMsg} {code r : Int} {cs : List Call} (hcode : code < 0)
      (ht : msg.body.type = DesktopType.rms.bytes) (hsend : SendRun msg (.ok r) cs) (hr : r ≠ 0) :
      LogRun (.ok code) cs
  | unaborted {msg m : ZdtmMsg} {code r : Int} {cs cs' : List Call} (hcode : code < 0)
      (ht : msg.body.type = DesktopType.rms.bytes) (hsend : SendRun msg (.ok 0) cs)
      (hrecv : RecvRun (.ok (r, m)) cs') : LogRun (.ok code) (cs ++ cs')
  | aborted {msg m m' : ZdtmMsg} {code r : Int} {cs cs' cs'' : List Call} (hcode : code < 0)
      (ht : msg.body.type = DesktopType.rms.bytes) (hsend : SendRun msg (.ok 0) cs)
      (habort : RecvRun (.ok (3, m)) cs') (hrecv : RecvRun (.ok (r, m')) cs'') :
      LogRun (.ok code) (cs ++ (cs' ++ cs''))
  | stopped {msg msg' : ZdtmMsg} {code : Int} {cs ds : List Call} (hcode : code < 0)
      (ht : msg.body.type = DesktopType.rms.bytes) (ht' : msg'.body.type = DesktopType.rms.bytes)
      (hrefused : RefusedRun msg cs) (hex : Exchanged msg' .aex (.ok (.error code)) ds) :
      LogRun (.ok code) (cs ++ ds)
  | accepted {msg msg' m : ZdtmMsg} {cs ds : List Call}
      (ht : msg.body.type = DesktopType.rms.bytes) (ht' : msg'.body.type = DesktopType.rms.bytes)
      (hrefused : RefusedRun msg cs) (hex : Exchanged msg' .aex (.ok (.ok m)) ds) :
      LogRun (.ok 0) (cs ++ ds)
  | sendFault {msg : ZdtmMsg} {f : Fault} {cs : List Call}
      (ht : msg.body.type = DesktopType.rms.bytes) (hsend : SendRun msg (.error f) cs) :
      LogRun (.error f) cs
  | recvFault {msg : ZdtmMsg} {f : Fault} {cs cs' : List Call}
      (ht : msg.body.type = DesktopType.rms.bytes) (hsend : SendRun msg (.ok 0) cs)
      (hrecv : RecvRun (.error f) cs') : LogRun (.error f) (cs ++ cs')
  | abortFault {msg m : ZdtmMsg} {f : Fault} {cs cs' cs'' : List Call}
      (ht : msg.body.type = DesktopType.rms.bytes) (hsend : SendRun msg (.ok 0) cs)
      (habort : RecvRun (.ok (3, m)) cs') (hrecv : RecvRun (.error f) cs'') :
      LogRun (.error f) (cs ++ (cs' ++ cs''))
  | exchangeFault {msg msg' : ZdtmMsg} {f : Fault} {cs ds : List Call}
      (ht : msg.body.type = DesktopType.rms.bytes) (ht' : msg'.body.type = DesktopType.rms.bytes)
      (hrefused : RefusedRun msg cs) (hex : Exchanged msg' .aex (.error f) ds) :
      LogRun (.error f) (cs ++ ds)

section Aborts

variable (b : Build)

theorem authenticatePasscode_logs (passcode : CString) :
    Logs (exchanges b) (zdtmAuthenticatePasscode b passcode) AuthRun := by
  have ht : (desktopMsg .rrl (rrlContent passcode)).body.type = DesktopType.rrl.bytes := rfl
  refine logs_bind (logs_allocateInt b _) ?_ ?_
  · intro p cs hp
    obtain ⟨-, rfl⟩ := hp
    cases p with
    | none => exact logs_pure (.unasked (by decide))
    | some block =>
      refine logs_bind (logs_wrappedSend b _) ?_ ?_
      · intro r cs hsend
        apply logs_unless
        · intro hr
          apply logs_pure
          simpa using AuthRun.unsent (show (-2 : Int) < 0 by decide) ht hsend hr
        · intro hr
          subst hr
          refine logs_bind (logs_wrappedRecv b) ?_ ?_
          · intro a cs' hrecv
            obtain ⟨r, m⟩ := a
            apply logs_ite
            · intro habort
              subst habort
              refine logs_bind (logs_wrappedRecv b) ?_ ?_
              · intro a cs'' hrecv'
                obtain ⟨r, m'⟩ := a
                apply logs_unless
                · intro hr
                  apply logs_pure
                  simpa using AuthRun.aborted (show (-3 : Int) < 0 by decide) ht hsend hrecv hrecv'
                · intro hr
                  subst hr
                  apply logs_ite
                  · intro htype
                    apply logs_pure
                    simpa using AuthRun.denied ht hsend hrecv hrecv' htype
                  · intro htype
                    apply logs_pure
                    simpa using
                      AuthRun.aborted (show (-4 : Int) < 0 by decide) ht hsend hrecv hrecv'
              · intro f cs'' hrecv'
                simpa using AuthRun.abortFault ht hsend hrecv hrecv'
            · intro habort
              apply logs_unless
              · intro hr
                apply logs_pure
                simpa using AuthRun.failed (show (-5 : Int) < 0 by decide) ht hsend hrecv
                  (Or.inl hr)
              · intro hr
                subst hr
                apply logs_ite
                · intro htype
                  apply logs_pure
                  simpa using AuthRun.accepted ht hsend hrecv htype
                · intro htype
                  apply logs_pure
                  simpa using AuthRun.failed (show (-6 : Int) < 0 by decide) ht hsend hrecv
                    (Or.inr htype)
          · intro f cs' hrecv
            simpa using AuthRun.recvFault ht hsend hrecv
      · intro f cs hsend
        exact AuthRun.sendFault ht hsend
  · intro f cs hp
    obtain ⟨⟨p, hp⟩, -⟩ := hp
    cases hp

theorem resetSyncLog_logs : Logs (exchanges b) (zdtmResetSyncLog b) LogRun := by
  have ht : (desktopMsg .rms emptyLog).body.type = DesktopType.rms.bytes := rfl
  have ht' : (desktopMsg .rms resetLog).body.type = DesktopType.rms.bytes := rfl
  refine logs_bind (logs_wrappedSend b _) ?_ ?_
  · intro r cs hsend
    apply logs_unless
    · intro hr
      apply logs_pure
      simpa using LogRun.unsent (show (-1 : Int) < 0 by decide) ht hsend hr
    · intro hr
      subst hr
      refine logs_bind (logs_wrappedRecv b) ?_ ?_
      · intro a cs' habort
        obtain ⟨r, m⟩ := a
        apply logs_unless
        · intro hr
          apply logs_pure
          simpa using LogRun.unaborted (show (-2 : Int) < 0 by decide) ht hsend habort
        · intro hr
          subst hr
          refine logs_bind (logs_wrappedRecv b) ?_ ?_
          · intro a cs'' hrecv
            obtain ⟨r, m'⟩ := a
            apply logs_unless
            · intro hr
              apply logs_pure
              simpa using LogRun.aborted (show (-3 : Int) < 0 by decide) ht hsend habort hrecv
            · intro hr
              subst hr
              apply logs_unless
              · intro htype
                apply logs_pure
                simpa using LogRun.aborted (show (-4 : Int) < 0 by decide) ht hsend habort hrecv
              · intro htype
                have hrefused := RefusedRun.intro hsend habort hrecv htype
                refine logs_bind (logs_exchange b _ _ (by decide) (by decide) (by decide)) ?_ ?_
                · intro e ds hex
                  cases e with
                  | error code =>
                    apply logs_pure
                    simpa using LogRun.stopped hex.code_neg ht ht' hrefused hex
                  | ok m =>
                    apply logs_pure
                    simpa using LogRun.accepted ht ht' hrefused hex
                · intro f ds hex
                  simpa using LogRun.exchangeFault ht ht' hrefused hex
          · intro f cs'' hrecv
            exact LogRun.abortFault ht hsend habort hrecv
      · intro f cs' hrecv
        exact LogRun.recvFault ht hsend hrecv
  · intro f cs hsend
    exact LogRun.sendFault ht hsend

end Aborts

/-- The operations that talk to the device between the greeting and the end. -/
inductive Operation where
  | obtainDeviceInfo
  | obtainSyncState
  | resetSyncState
  | authenticatePasscode (passcode : CString)
  | obtainLastTimeSynced (pTime : Int)
  | setLastTimeSynced (timeSynced : Int)
  | resetSyncLog
  | obtainParamFormat
  | obtainItem (syncId : UInt32) (item : ItemParams)
  | obtainSyncIdLists (lists : SyncIdLists)
  | deleteItem (syncId : UInt32)
  | stateSyncDone

/-- The code that an operation returns. -/
def returned {β : Type} (x : Session (Int × β)) : Session Int := do return (← x).1

def Operation.run (b : Build) : Operation → Session Int
  | .obtainDeviceInfo => zdtmObtainDeviceInfo b
  | .obtainSyncState => zdtmObtainSyncState b
  | .resetSyncState => zdtmResetSyncState b
  | .authenticatePasscode passcode => zdtmAuthenticatePasscode b passcode
  | .obtainLastTimeSynced pTime => returned (zdtmObtainLastTimeSynced b pTime)
  | .setLastTimeSynced timeSynced => zdtmSetLastTimeSynced b timeSynced
  | .resetSyncLog => zdtmResetSyncLog b
  | .obtainParamFormat => zdtmObtainParamFormat b
  | .obtainItem syncId item => returned (zdtmObtainItem b syncId item)
  | .obtainSyncIdLists lists => returned (zdtmObtainSyncIdLists b lists)
  | .deleteItem syncId => zdtmDeleteItem b syncId
  | .stateSyncDone => zdtmStateSyncDone b

/-- The ways of an operation with one exchange, whatever becomes of the environment. -/
def AnsweredCalls (t : DesktopType) (reply : ZaurusType) (r : Except Fault Int)
    (cs : List Call) : Prop := ∃ store env env', AnsweredCode t reply store env r env' cs

def Operation.Calls : Operation → Except Fault Int → List Call → Prop
  | .obtainDeviceInfo => AnsweredCalls .rig .aig
  | .obtainSyncState => AnsweredCalls .rmg .amg
  | .resetSyncState => AnsweredCalls .rss .aex
  | .authenticatePasscode _ => AuthRun
  | .obtainLastTimeSynced _ => AnsweredCalls .rtg .atg
  | .setLastTimeSynced _ => AnsweredCalls .rts .aex
  | .resetSyncLog => LogRun
  | .obtainParamFormat => AnsweredCalls .rdi .adi
  | .obtainItem _ _ => AnsweredCalls .rdr .adr
  | .obtainSyncIdLists _ => AnsweredCalls .rsy .asy
  | .deleteItem _ => AnsweredCalls .rdd .aex
  | .stateSyncDone => AnsweredCalls .rds .aex

section All

variable {b : Build} {t : DesktopType} {reply : ZaurusType} {store : ZdtmMsg → Env → Env}

theorem answeredCode_logs {x : Session Int}
    (h : Runs (talks b) State.env x (AnsweredCode t reply store)) :
    Logs (talks b) x (AnsweredCalls t reply) :=
  h.logs fun env _ env' _ hrun => ⟨store, env, env', hrun⟩

theorem failed_returned {β : Type} {out : β} {r : Except Fault (Int × β)}
    (h : Failed (fun code => (code, out)) r) : Failed id (r.map Prod.fst) := by
  rcases h with ⟨f, rfl⟩ | ⟨code, hcode, rfl⟩
  · exact Or.inl ⟨f, rfl⟩
  · exact Or.inr ⟨code, hcode, rfl⟩

theorem answeredWith_returned {β : Type} {out : β} {env env' : Env}
    {r : Except Fault (Int × β)} {cs : List Call}
    (h : AnsweredWith out t reply store env r env' cs) :
    AnsweredCode t reply store env (r.map Prod.fst) env' cs := by
  cases h with
  | unasked hr => exact .unasked (failed_returned hr)
  | stopped ht hex => exact .stopped ht hex
  | faulted ht hex => exact .faulted ht hex
  | refused ht hex hr => exact .refused ht hex (failed_returned hr)
  | stored ht hex ha => exact .stored ht hex ha

theorem answeredWith_logs {β : Type} {out : β} {x : Session (Int × β)}
    (h : Runs (talks b) State.env x (AnsweredWith out t reply store)) :
    Logs (talks b) (returned x) (AnsweredCalls t reply) := by
  intro s
  apply leads_bind (h s)
  · intro a s' hp
    obtain ⟨cs, htalks, hrun⟩ := hp
    exact ⟨cs, htalks, store, s.env, s'.env, answeredWith_returned hrun⟩
  · intro f s' hp
    obtain ⟨cs, htalks, hrun⟩ := hp
    exact ⟨cs, htalks, store, s.env, s'.env, answeredWith_returned hrun⟩

theorem operation_logs (b : Build) (op : Operation) : Logs (talks b) (op.run b) op.Calls := by
  cases op with
  | obtainDeviceInfo => exact answeredCode_logs (obtainDeviceInfo_runs b)
  | obtainSyncState => exact answeredCode_logs (obtainSyncState_runs b)
  | resetSyncState => exact answeredCode_logs (resetSyncState_runs b)
  | authenticatePasscode passcode =>
    exact (authenticatePasscode_logs b passcode).weaken fun s cs s' h => h.toTalks
  | obtainLastTimeSynced pTime => exact answeredWith_logs (obtainLastTimeSynced_runs b pTime)
  | setLastTimeSynced timeSynced => exact answeredCode_logs (setLastTimeSynced_runs b timeSynced)
  | resetSyncLog => exact (resetSyncLog_logs b).weaken fun s cs s' h => h.toTalks
  | obtainParamFormat => exact answeredCode_logs (obtainParamFormat_runs b)
  | obtainItem syncId item => exact answeredWith_logs (obtainItem_runs b syncId item)
  | obtainSyncIdLists lists => exact answeredWith_logs (obtainSyncIdLists_runs b lists)
  | deleteItem syncId => exact answeredCode_logs (deleteItem_runs b syncId)
  | stateSyncDone => exact answeredCode_logs (stateSyncDone_runs b)

end All

end ZdtmOperations
