import ZdtmSync.Replies

/-!
# The stages of a synchronization

What the stages of `zdtm_initiate_sync` send: each sends the messages of its part
of a script, all of them if it returns 0, and leaves the settings of the
environment alone.
-/

namespace ZdtmStages

open CMemory Programs ZdtmTypes ZdtmMsgs ZdtmNet ZdtmItems ZdtmSession ZdtmProto ZdtmConnections
  ZdtmSync ZdtmExchanges ZdtmOperations ZdtmReplies

/-- The messages sent are the first ones of the script, and behind a success all
of them were sent whole. -/
def Follows (script : List DesktopType) (r : Except Fault Int) (cs : List Call) : Prop :=
  attempted cs <+: script.map DesktopType.bytes ∧
    (r = .ok 0 → sent cs = script.map DesktopType.bytes)

section Follows

variable {script rest : List DesktopType} {r r' : Except Fault Int} {cs cs' : List Call}

theorem follows_attempted (h : Follows script (.ok 0) cs) :
    attempted cs = script.map DesktopType.bytes := by
  obtain ⟨hpre, hsent⟩ := h
  have hle := (sent_sublist cs).length_le
  rw [hsent rfl] at hle
  exact hpre.eq_of_length (Nat.le_antisymm hpre.length_le hle)

/-- A run that stops in the first part stops in the whole script. -/
theorem Follows.stop (h : Follows script r cs) (hr : r' ≠ .ok 0) :
    Follows (script ++ rest) r' cs := by
  refine ⟨?_, fun hzero => absurd hzero hr⟩
  rw [List.map_append]
  exact h.1.trans (List.prefix_append _ _)

theorem Follows.append (h : Follows script (.ok 0) cs) (h' : Follows rest r cs') :
    Follows (script ++ rest) r (cs ++ cs') := by
  refine ⟨?_, ?_⟩
  · rw [attempted_append, List.map_append, follows_attempted h]
    exact (List.prefix_append_right_inj _).mpr h'.1
  · intro hzero
    rw [sent_append, List.map_append, h.2 rfl, h'.2 hzero]

theorem follows_nil : Follows [] r [] := ⟨List.nil_prefix, fun _ => rfl⟩

/-- One message at most, and that one behind a success. -/
theorem follows_single {t : DesktopType} (h : attempted cs = [] ∨ attempted cs = [t.bytes])
    (hsent : r = .ok 0 → sent cs = [t.bytes]) : Follows [t] r cs := by
  refine ⟨?_, hsent⟩
  rcases h with h | h
  · rw [h]
    exact List.nil_prefix
  · rw [h]
    exact List.prefix_rfl

end Follows

section Operations

variable {r : Except Fault Int} {cs : List Call}

theorem answered_follows {t : DesktopType} {reply : ZaurusType} {store : ZdtmMsg → Env → Env}
    {env env' : Env} (h : AnsweredCode t reply store env r env' cs) : Follows [t] r cs := by
  apply follows_single
  · cases h with
    | unasked hr => exact Or.inl rfl
    | stopped ht hex => simpa [ht] using exchanged_attempted hex
    | faulted ht hex => simpa [ht] using exchanged_attempted hex
    | refused ht hex hr => simpa [ht] using exchanged_attempted hex
    | stored ht hex ha => simpa [ht] using exchanged_attempted hex
  · rintro rfl
    obtain ⟨msg, m, ht, hex, -⟩ := answered_completed h rfl
    rw [exchanged_sent hex, ht]

theorem authRun_follows (h : AuthRun r cs) : Follows [.rrl] r cs := by
  apply follows_single
  · cases h with
    | unasked hcode => exact Or.inl rfl
    | unsent hcode ht hsend hr => simpa [ht] using sendRun_attempted hsend
    | failed hcode ht hsend hrecv hr => simpa [ht] using sendRecv_attempted hsend hrecv
    | accepted ht hsend hrecv htype => simpa [ht] using sendRecv_attempted hsend hrecv
    | aborted hcode ht hsend habort hrecv =>
      simpa [ht, recvRun_attempted hrecv, recvRun_attempted habort] using sendRun_attempted hsend
    | denied ht hsend habort hrecv htype =>
      simpa [ht, recvRun_attempted hrecv, recvRun_attempted habort] using sendRun_attempted hsend
    | sendFault ht hsend => simpa [ht] using sendRun_attempted hsend
    | recvFault ht hsend hrecv => simpa [ht] using sendRecv_attempted hsend hrecv
    | abortFault ht hsend habort hrecv =>
      simpa [ht, recvRun_attempted hrecv, recvRun_attempted habort] using sendRun_attempted hsend
  · rintro rfl
    cases h with
    | unasked hcode => exact absurd hcode (Int.lt_irrefl 0)
    | unsent hcode ht hsend hr => exact absurd hcode (Int.lt_irrefl 0)
    | failed hcode ht hsend hrecv hr => exact absurd hcode (Int.lt_irrefl 0)
    | accepted ht hsend hrecv htype => simp [ht, sendRun_sent hsend, recvRun_sent hrecv]
    | aborted hcode ht hsend habort hrecv => exact absurd hcode (Int.lt_irrefl 0)

/-- The first log is sent, and refused. -/
theorem refusedRun_follows {msg : ZdtmMsg} (ht : msg.body.type = DesktopType.rms.bytes)
    (h : RefusedRun msg cs) : Follows [.rms] (.ok 0) cs := by
  cases h with
  | intro hsend habort hrecv htype =>
    apply follows_single
    · simpa [ht, recvRun_attempted hrecv, recvRun_attempted habort] using sendRun_attempted hsend
    · intro _
      simp [ht, sendRun_sent hsend, recvRun_sent hrecv, recvRun_sent habort]

theorem exchanged_follows {msg : ZdtmMsg} {t : DesktopType} {reply : ZaurusType}
    {e : Except Fault (Except Int ZdtmMsg)} (ht : msg.body.type = t.bytes)
    (h : Exchanged msg reply e cs) (hr : r = .ok 0 → ∃ m, e = .ok (.ok m)) : Follows [t] r cs := by
  apply follows_single
  · simpa [ht] using exchanged_attempted h
  · intro hzero
    obtain ⟨m, rfl⟩ := hr hzero
    rw [exchanged_sent h, ht]

theorem logRun_follows (h : LogRun r cs) : Follows [.rms, .rms] r cs := by
  have hstop : ∀ {cs : List Call} {r : Except Fault Int}, r ≠ .ok 0 →
      (attempted cs = [] ∨ attempted cs = [DesktopType.rms.bytes]) →
      Follows ([.rms] ++ [.rms]) r cs := by
    intro cs r hr hone
    exact Follows.stop (follows_single hone fun hzero => absurd hzero hr) hr
  have hneg : ∀ {code : Int}, code < 0 → Except.ok code ≠ (.ok 0 : Except Fault Int) := by
    rintro code hcode heq
    cases heq
    exact absurd hcode (Int.lt_irrefl 0)
  cases h with
  | unsent hcode ht hsend hr =>
    exact hstop (hneg hcode) (by simpa [ht] using sendRun_attempted hsend)
  | unaborted hcode ht hsend hrecv =>
    exact hstop (hneg hcode) (by simpa [ht] using sendRecv_attempted hsend hrecv)
  | aborted hcode ht hsend habort hrecv =>
    refine hstop (hneg hcode) ?_
    simpa [ht, recvRun_attempted hrecv, recvRun_attempted habort] using sendRun_attempted hsend
  | sendFault ht hsend => exact hstop (by simp) (by simpa [ht] using sendRun_attempted hsend)
  | recvFault ht hsend hrecv =>
    exact hstop (by simp) (by simpa [ht] using sendRecv_attempted hsend hrecv)
  | abortFault ht hsend habort hrecv =>
    refine hstop (by simp) ?_
    simpa [ht, recvRun_attempted hrecv, recvRun_attempted habort] using sendRun_attempted hsend
  | stopped hcode ht ht' hrefused hex =>
    exact (refusedRun_follows ht hrefused).append
      (exchanged_follows ht' hex fun hzero => absurd hzero (hneg hcode))
  | accepted ht ht' hrefused hex =>
    exact (refusedRun_follows ht hrefused).append (exchanged_follows ht' hex fun _ => ⟨_, rfl⟩)
  | exchangeFault ht ht' hrefused hex =>
    refine (refusedRun_follows ht hrefused).append (exchanged_follows ht' hex ?_)
    intro hzero
    cases hzero

end Operations

/-- What no operation changes: the descriptors, and what the caller set up. -/
structure Settings where
  listenfd : Socket
  connfd : Socket
  reqfd : Socket
  logfp : Option Nat
  syncType : UInt8
  passcode : Option CString

def settings (env : Env) : Settings where
  listenfd := env.listenfd
  connfd := env.connfd
  reqfd := env.reqfd
  logfp := env.logfp
  syncType := env.syncType
  passcode := env.passcode

/-- The calls of a program that keeps the settings. -/
structure Converses (b : Build) (s : State) (cs : List Call) (s' : State) : Prop where
  talks : Talks b s cs s'
  settings : settings s'.env = settings s.env

def converses (b : Build) : Recorder State Call where
  Extends := Converses b
  refl s := ⟨(talks b).refl s, rfl⟩
  trans h h' := ⟨(talks b).trans h.talks h'.talks, h'.settings.trans h.settings⟩

section Converses

variable {b : Build}

theorem exchanges_converses {α : Type} {x : Session α} {R : Except Fault α → List Call → Prop}
    (h : Logs (exchanges b) x R) :
    Runs (converses b) State.env x fun env r env' cs => env' = env ∧ R r cs :=
  h.runs fun s cs s' hex => ⟨⟨hex.toTalks, by rw [hex.env]⟩, hex.env⟩

/-- An exchange keeps the settings if what it stores does. -/
theorem answered_converses {α : Type} {fail : Int → α} {done : α → Prop} {t : DesktopType}
    {reply : ZaurusType} {store : ZdtmMsg → Env → Env} {x : Session α}
    (h : Runs (talks b) State.env x (Answered fail done t reply store))
    (hstore : ∀ m env, settings (store m env) = settings env) :
    Runs (converses b) State.env x (Answered fail done t reply store) := by
  apply h.strengthen
  intro s r cs s' htalks hanswered
  refine ⟨htalks, ?_⟩
  generalize s'.env = env' at hanswered
  cases hanswered with
  | unasked hr => rfl
  | stopped ht hex => rfl
  | faulted ht hex => rfl
  | refused ht hex hr => rfl
  | stored ht hex ha => exact hstore _ _

theorem resetFlags_settings (env : Env) : settings (resetFlags env) = settings env := by
  simp only [resetFlags]
  split
  · rfl
  · split <;> rfl

end Converses

/-- A stage that sends one message, and stores the reply if it succeeds. -/
def Stage (t : DesktopType) (reply : ZaurusType) (store : ZdtmMsg → Env → Env) (env : Env)
    (r : Except Fault Int) (env' : Env) (cs : List Call) : Prop :=
  Follows [t] r cs ∧ (r = .ok 0 →
    ∃ m, received cs = [m] ∧ m.body.type = reply.bytes ∧ env' = store m env)

section Stages

variable {b : Build} {t : DesktopType} {reply : ZaurusType} {store : ZdtmMsg → Env → Env}

theorem answered_stage {env env' : Env} {r : Except Fault Int} {cs : List Call}
    (h : AnsweredCode t reply store env r env' cs) : Stage t reply store env r env' cs := by
  refine ⟨answered_follows h, ?_⟩
  rintro rfl
  exact answered_stored h

/-- A stage that stopped. -/
theorem Stage.stop {env env' : Env} {r r' : Except Fault Int} {cs : List Call}
    (h : Stage t reply store env r env' cs) (hr : r' ≠ .ok 0) :
    Stage t reply store env r' env' cs :=
  ⟨⟨h.1.1, fun hzero => absurd hzero hr⟩, fun hzero => absurd hzero hr⟩

theorem runs_stage {x : Session Int} {code : Int} (hcode : code ≠ 0)
    (h : Runs (converses b) State.env x (Stage t reply store)) :
    Runs (converses b) State.env (x >>= fun r => if r ≠ 0 then pure code else pure 0)
      (Stage t reply store) := by
  apply runs_guard h
  · intro env r env' cs hr hstage
    exact hstage.stop (by simpa using hcode)
  · intro env f env' cs hstage
    exact hstage
  · intro env env' cs hstage
    apply runs_pure
    rintro env rfl
    rw [List.append_nil]
    exact hstage

end Stages

section Single

variable (b : Build)

theorem obtainDeviceInfo_stage :
    Runs (converses b) State.env (zdtmObtainDeviceInfo b) (Stage .rig .aig storeDeviceInfo) :=
  (answered_converses (obtainDeviceInfo_runs b) fun _ _ => rfl).mono fun _ _ _ _ => answered_stage

theorem obtainSyncState_stage :
    Runs (converses b) State.env (zdtmObtainSyncState b)
      (Stage .rmg .amg fun m => storeSyncState m.body.cont.amg.fullsyncFlags) :=
  (answered_converses (obtainSyncState_runs b) fun _ _ => rfl).mono fun _ _ _ _ => answered_stage

theorem obtainDevice_runs :
    Runs (converses b) State.env (obtainDevice b) (Stage .rig .aig storeDeviceInfo) := by
  apply runs_bind (answered_converses (obtainDeviceInfo_runs b) fun _ _ => rfl)
  · intro env r env' cs h
    have hle := answered_code h
    by_cases hneg : r < 0
    · rw [if_pos hneg]
      apply runs_pure
      rintro env' rfl
      rw [List.append_nil]
      exact (answered_stage h).stop (by decide)
    · have hzero : r = 0 := by omega
      subst hzero
      rw [if_neg hneg]
      apply runs_pure
      rintro env' rfl
      rw [List.append_nil]
      exact answered_stage h
  · intro env f env' cs h
    exact answered_stage h

theorem obtainState_runs :
    Runs (converses b) State.env (obtainState b)
      (Stage .rmg .amg fun m => storeSyncState m.body.cont.amg.fullsyncFlags) :=
  runs_stage (by decide) (obtainSyncState_stage b)

theorem obtainTime_runs :
    Runs (converses b) State.env (obtainTime b) (Stage .rtg .atg keepEnv) := by
  apply runs_bind (answered_converses (obtainLastTimeSynced_runs b 0) fun _ _ => rfl)
  · intro env a env' cs h
    obtain ⟨r, time⟩ := a
    have hstage := answered_stage (answeredWith_returned h)
    by_cases hzero : r = 0
    · subst hzero
      apply runs_pure
      rintro env' rfl
      rw [List.append_nil]
      exact hstage
    · simp only [ne_eq, hzero, not_false_eq_true, if_true]
      split
      · apply runs_pure
        rintro env' rfl
        rw [List.append_nil]
        exact hstage.stop (by decide)
      · apply runs_pure
        rintro env' rfl
        rw [List.append_nil]
        exact hstage.stop (by decide)
  · intro env f env' cs h
    exact answered_stage (answeredWith_returned h)

theorem storeTime_runs :
    Runs (converses b) State.env (storeTime b) (Stage .rts .aex keepEnv) := by
  apply runs_getHost
  intro host
  have hstage : Runs (converses b) State.env (zdtmSetLastTimeSynced b host.time)
      (Stage .rts .aex keepEnv) :=
    (answered_converses (setLastTimeSynced_runs b _) fun _ _ => rfl).mono fun _ _ _ _ =>
      answered_stage
  exact runs_stage (by decide) hstage

theorem obtainFormat_runs :
    Runs (converses b) State.env (obtainFormat b) (Stage .rdi .adi storeParamFormat) := by
  have hstage : Runs (converses b) State.env (zdtmObtainParamFormat b)
      (Stage .rdi .adi storeParamFormat) :=
    (answered_converses (obtainParamFormat_runs b) fun _ _ => rfl).mono fun _ _ _ _ =>
      answered_stage
  apply runs_guard hstage
  · intro env r env' cs hr h
    exact h.stop (by decide)
  · intro env f env' cs h
    exact h
  · intro env env' cs h
    apply runs_getEnv
    intro env₁
    apply runs_lift
    · rintro f - env rfl
      rw [List.append_nil]
      exact h.stop (by simp)
    · intro buff _
      apply runs_pure
      rintro env rfl
      rw [List.append_nil]
      exact h

end Single

/-- The greeting sends RAY, and succeeds with an AAY message. -/
def Greeted (r : Except Fault Int) (cs : List Call) : Prop :=
  Follows [.ray] r cs ∧
    (r = .ok 0 → ∃ m, received cs = [m] ∧ m.body.type = ZaurusType.aay.bytes)

theorem greeted_stop {r : Except Fault Int} {cs : List Call} (hr : r ≠ .ok 0)
    (h : attempted cs = [DesktopType.ray.bytes]) : Greeted r cs :=
  ⟨follows_single (Or.inr h) fun hzero => absurd hzero hr, fun hzero => absurd hzero hr⟩

theorem greet_logs (b : Build) : Logs (exchanges b) (greet b) Greeted := by
  refine logs_bind (logs_sendMessage b _) ?_ ?_
  · intro r cs hsend
    cases hsend
    refine logs_unless (fun _ => logs_pure (greeted_stop (by decide) rfl)) ?_
    intro hr
    subst hr
    refine logs_bind (logs_recvMessage b) ?_ ?_
    · intro a cs hack
      obtain ⟨r, m⟩ := a
      cases hack
      apply logs_unless
      · intro hr
        exact logs_ite (fun _ => logs_pure (greeted_stop (by decide) rfl))
          fun _ => logs_pure (greeted_stop (by decide) rfl)
      · intro hr
        subst hr
        refine logs_bind (logs_wrappedRecv b) ?_ ?_
        · intro a cs hrecv
          obtain ⟨r, m'⟩ := a
          have hray : attempted ([.message (desktopMsg .ray {}) 0] ++ ([.recv 1 m] ++
              (cs ++ []))) = [DesktopType.ray.bytes] := by
            rw [attempted_append, attempted_append, attempted_append, recvRun_attempted hrecv]
            rfl
          refine logs_unless (fun _ => logs_pure (greeted_stop (by decide) hray)) ?_
          intro hr
          subst hr
          refine logs_unless (fun _ => logs_pure (greeted_stop (by decide) hray)) ?_
          intro htype
          apply logs_pure
          refine ⟨follows_single (Or.inr hray) ?_, ?_⟩
          · intro _
            rw [sent_append, sent_append, sent_append, recvRun_sent hrecv]
            rfl
          · intro _
            refine ⟨m', ?_, htype⟩
            rw [received_append, received_append, received_append, recvRun_received hrecv]
            rfl
        · intro f cs hrecv
          apply greeted_stop (by simp)
          rw [attempted_append, attempted_append, recvRun_attempted hrecv]
          rfl
    · intro f cs hack
      cases hack
      exact greeted_stop (by simp) rfl
  · intro f cs hsend
    cases hsend
    exact ⟨follows_single (Or.inl rfl) nofun, nofun⟩

section Slow

variable (b : Build)

/-- With the state obtained before, the flag is only looked at. -/
theorem requiresSlowSync_runs :
    Runs (converses b) State.env (zdtmRequiresSlowSync b) fun env r env' cs =>
      env.retrievedSyncState ≠ 0 → r = .ok (slowSyncFlag env) ∧ env' = env ∧ cs = [] := by
  apply runs_getEnv_eq
  intro env
  by_cases hretrieved : env.retrievedSyncState = 0
  · simp only [hretrieved, if_true]
    apply runs_guard (obtainSyncState_stage b)
    · rintro v r v' cs - - rfl hne
      exact absurd hretrieved hne
    · rintro v f v' cs - rfl hne
      exact absurd hretrieved hne
    · intro v v' cs _
      apply runs_getEnv
      intro env'
      apply runs_pure
      rintro v₁ - rfl hne
      exact absurd hretrieved hne
  · simp only [hretrieved, if_false]
    intro s
    exact ⟨[], (converses b).refl s, fun _ _ => ⟨rfl, rfl, rfl⟩⟩

/-- A stage that takes place if the flag of the current type is set. -/
theorem ifSlow_runs {op : Session Int} {code : Int} {script : List DesktopType}
    {Q : Env → Env → Prop} (hcode : code ≠ 0) (hrefl : ∀ env, Q env env)
    (hop : Runs (converses b) State.env op fun env r env' cs =>
      Follows script r cs ∧ (r = .ok 0 → Q env env')) :
    Runs (converses b) State.env
      (do
        let slow ← zdtmRequiresSlowSync b
        if slow = 1 then
          let r ← op
          if r ≠ 0 then return code
        return 0)
      fun env r env' cs => env.retrievedSyncState ≠ 0 →
        Follows (if slowSyncFlag env = 1 then script else []) r cs ∧ (r = .ok 0 → Q env env') := by
  apply runs_bind (requiresSlowSync_runs b)
  · intro env slow env' cs hslow
    by_cases hone : slow = 1
    · simp only [hone, if_true]
      apply runs_guard hop
      · rintro v r v' cs' hr h rfl hne
        obtain ⟨hflag, rfl, rfl⟩ := hslow hne
        cases hflag
        rw [if_pos hone, List.nil_append]
        exact ⟨⟨h.1.1, by simp [hcode]⟩, by simp [hcode]⟩
      · rintro v f v' cs' h rfl hne
        obtain ⟨hflag, rfl, rfl⟩ := hslow hne
        cases hflag
        rw [if_pos hone]
        exact h
      · intro v v' cs' h
        apply runs_pure
        rintro v₁ rfl rfl hne
        obtain ⟨hflag, rfl, rfl⟩ := hslow hne
        cases hflag
        rw [if_pos hone, List.append_nil]
        exact h
    · simp only [hone, if_false]
      apply runs_pure
      rintro v rfl hne
      obtain ⟨hflag, rfl, rfl⟩ := hslow hne
      cases hflag
      rw [if_neg hone]
      exact ⟨follows_nil, fun _ => hrefl _⟩
  · intro env f env' cs hslow hne
    obtain ⟨hflag, -⟩ := hslow hne
    cases hflag

theorem resetLogIfSlow_runs :
    Runs (converses b) State.env (resetLogIfSlow b) fun env r env' cs =>
      env.retrievedSyncState ≠ 0 →
        Follows (if slowSyncFlag env = 1 then [.rms, .rms] else []) r cs ∧
          (r = .ok 0 → env' = env) := by
  apply ifSlow_runs b (Q := fun env env' => env' = env) (by decide) fun _ => rfl
  apply (exchanges_converses (resetSyncLog_logs b)).mono
  rintro env r env' cs ⟨henv, hlog⟩
  exact ⟨logRun_follows hlog, fun _ => henv⟩

theorem resetStateIfSlow_runs :
    Runs (converses b) State.env (resetStateIfSlow b) fun env r _ cs =>
      env.retrievedSyncState ≠ 0 →
        Follows (if slowSyncFlag env = 1 then [.rss] else []) r cs ∧ (r = .ok 0 → True) := by
  apply ifSlow_runs b (Q := fun _ _ => True) (by decide) fun _ => trivial
  have hruns := answered_converses (resetSyncState_runs b) fun _ => resetFlags_settings
  apply hruns.mono
  intro env r env' cs h
  exact ⟨answered_follows h, fun _ => trivial⟩

end Slow

end ZdtmStages
