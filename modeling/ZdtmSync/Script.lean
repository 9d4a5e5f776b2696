import ZdtmSync.Descriptors
import ZdtmSync.SlowSync

/-!
# The script of a synchronization

Whatever the device answers, `zdtm_initiate_sync` sends its messages in the order
of one script. Two of its parts depend on the device: the passcode is sent if the
first AIG message says that the device is locked, and log and state are reset if
the AMG message lacks the bit of the type that is synchronized.
-/

namespace ZdtmScript

open CMemory Programs ZdtmTypes ZdtmMsgs ZdtmNet ZdtmItems ZdtmSession ZdtmProto ZdtmConnections
  ZdtmReceiving ZdtmSync ZdtmExchanges ZdtmOperations ZdtmReplies ZdtmSlowSync ZdtmStages
  ZdtmDescriptors

/-- What a caller sets between initializing and initiating. -/
inductive Setter where
  | setZaurusIp (ipAddr : List UInt8)
  | setSyncType (type : Nat)
  | setPasscode (passcode : CString)

def Setter.run : Setter → Session Int
  | .setZaurusIp ipAddr => zdtmSetZaurusIp ipAddr
  | .setSyncType type => zdtmSetSyncType type
  | .setPasscode passcode => zdtmSetPasscode passcode

def setAll : List Setter → Session Unit
  | [] => return ()
  | setter :: setters => do
    let _ ← setter.run
    setAll setters

/-- A successful initialization, and then the setters. -/
def prepare (setters : List Setter) : Session Bool := do
  let r ← zdtmInitialize
  if r ≠ 0 then return false
  setAll setters
  return true

/-- Nothing is known of the device yet. -/
structure Fresh (env : Env) : Prop where
  deviceInfo : env.retreivedDeviceInfo = 0
  flags : ∀ k : Kind, k.flag env = 0

/-- The setters keep to their own fields. -/
def Sets (env env' : Env) : Prop :=
  ∃ zaurusIp syncType passcode, env' = { env with zaurusIp, syncType, passcode }

theorem sets_modify {g : Env → Env} (hg : ∀ env, Sets env (g env)) (code : Int) :
    Runs handles State.env (modifyEnv g >>= fun _ => (pure code : Session Int))
      fun env _ env' evs => evs = [] ∧ Sets env env' :=
  fun s => ⟨[], ⟨(List.append_nil _).symm, .nil _, rfl⟩, rfl, hg s.env⟩

theorem setter_runs (setter : Setter) :
    Runs handles State.env setter.run fun env _ env' evs => evs = [] ∧ Sets env env' := by
  cases setter with
  | setZaurusIp ipAddr =>
    apply runs_lift
    · intro f _ env
      exact ⟨rfl, _, _, _, rfl⟩
    · intro zaurusIp _
      exact sets_modify (fun env => ⟨_, _, _, rfl⟩) 0
  | setSyncType type => exact sets_modify (fun env => ⟨_, _, _, rfl⟩) 0
  | setPasscode passcode =>
    apply runs_bind (sys_runs _)
    · rintro env p env' evs ⟨rfl, rfl⟩
      cases p with
      | none =>
        apply (sets_modify (fun env => ⟨_, _, _, rfl⟩) (-1)).mono
        rintro env r env' evs h rfl
        exact h
      | some block =>
        apply (sets_modify (fun env => ⟨_, _, _, rfl⟩) 0).mono
        rintro env r env' evs h rfl
        exact h
    · rintro env f env' evs ⟨rfl, rfl⟩
      exact ⟨rfl, _, _, _, rfl⟩

theorem setAll_runs (setters : List Setter) :
    Runs handles State.env (setAll setters) fun env _ env' evs => evs = [] ∧ Sets env env' := by
  induction setters with
  | nil => exact runs_pure fun env => ⟨rfl, _, _, _, rfl⟩
  | cons setter setters ih =>
    apply runs_bind (setter_runs setter)
    · rintro env r env' evs ⟨rfl, zaurusIp, syncType, passcode, rfl⟩
      apply ih.mono
      rintro env₁ r env₁' evs ⟨rfl, zaurusIp', syncType', passcode', rfl⟩ rfl
      exact ⟨rfl, _, _, _, rfl⟩
    · intro env f env' evs h
      exact h

/-- A prepared environment is fresh, and holds the log and the listening socket. -/
theorem prepare_runs (setters : List Setter) :
    Runs handles State.env (prepare setters) fun _ r env' evs => r = .ok true →
      Fresh env' ∧ ∃ log listen, env'.logfp = some log ∧ env'.listenfd = some listen ∧
        evs = [.opened log, .opened listen] := by
  apply runs_bind initialize_runs
  · intro env r env' evs hinit
    by_cases hr : r = 0
    · subst hr
      obtain ⟨log, listen, rfl, rfl⟩ := hinit rfl
      apply runs_bind (setAll_runs setters)
      · rintro env₁ a env₁' evs' ⟨rfl, zaurusIp, syncType, passcode, rfl⟩
        apply runs_pure
        rintro env₂ rfl rfl -
        refine ⟨⟨rfl, ?_⟩, log, listen, rfl, rfl, rfl⟩
        intro k
        cases k <;> rfl
      · exact fun _ _ _ _ _ _ => nofun
    · simp only [ne_eq, hr, not_false_eq_true, if_true]
      apply runs_pure
      rintro env rfl heq
      cases heq
  · exact fun _ _ _ _ _ => nofun

/-- The messages behind RTG. -/
def closing (slow : Bool) : List DesktopType :=
  (if slow then [.rms, .rms] else []) ++ ([.rts] ++ ((if slow then [.rss] else []) ++ [.rdi]))

def script (locked slow : Bool) : List DesktopType :=
  [.ray] ++ ([.rig] ++ ((if locked then [.rrl] else []) ++
    ([.rig] ++ ([.rmg] ++ ([.rtg] ++ closing slow)))))

/-- The first message of a type that was received. -/
def firstReply (z : ZaurusType) (cs : List Call) : Option ZdtmMsg :=
  (received cs).find? fun m => m.body.type = z.bytes

/-- The device wants a passcode. -/
def Locked (m : ZdtmMsg) : Prop :=
  m.body.cont.aig.authState = 0x0b ∨ m.body.cont.aig.authState = 0x07

instance (m : ZdtmMsg) : Decidable (Locked m) := instDecidableOr

def locks (cs : List Call) : Bool := (firstReply .aig cs).any fun m => Locked m

def needsSlow (k : Kind) (cs : List Call) : Bool :=
  (firstReply .amg cs).any fun m => m.body.cont.amg.fullsyncFlags &&& k.mask = 0

section FirstReply

variable {z z' : ZaurusType} {m : ZdtmMsg} {cs : List Call}

theorem firstReply_first (h : received cs = [m]) (htype : m.body.type = z.bytes)
    (cs' : List Call) : firstReply z (cs ++ cs') = some m := by
  simp [firstReply, h, htype]

theorem firstReply_skip (h : received cs = [m]) (htype : m.body.type = z'.bytes)
    (hne : z'.bytes ≠ z.bytes) (cs' : List Call) : firstReply z (cs ++ cs') = firstReply z cs' := by
  simp [firstReply, h, htype, hne]

end FirstReply

section SetUp

variable {b : Build}

/-- The flag of the current type is set. -/
def slow (env : Env) : Bool := slowSyncFlag env = 1

/-- A stage and the sequence behind it send the messages of both. -/
theorem runs_then {x rest : Session Int} {code : Int → Int} {P P' : Env → Prop}
    {Q : Env → Env → Prop} {script script' : Env → List DesktopType}
    (hcode : ∀ r, r ≠ 0 → code r ≠ 0)
    (hx : Runs (converses b) State.env x fun env r env' cs => P env →
      Follows (script env) r cs ∧ (r = .ok 0 → Q env env'))
    (hrest : Runs (converses b) State.env rest fun env r _ cs => P' env →
      Follows (script' env) r cs)
    (hstep : ∀ env env', P env → Q env env' → P' env' ∧ script' env' = script' env) :
    Runs (converses b) State.env (x >>= fun r => if r ≠ 0 then pure (code r) else rest)
      fun env r _ cs => P env → Follows (script env ++ script' env) r cs := by
  apply runs_guard hx
  · intro env r env' cs hr h hp
    exact (h hp).1.stop (by simpa using hcode r hr)
  · intro env f env' cs h hp
    exact (h hp).1.stop nofun
  · intro env env' cs h
    apply hrest.mono
    rintro env₁ r env₂ cs' h' rfl hp
    obtain ⟨hfollows, hq⟩ := h hp
    obtain ⟨hp', hscript⟩ := hstep env env₁ hp (hq rfl)
    rw [← hscript]
    exact hfollows.append (h' hp')

theorem storeTime_step : Runs (converses b) State.env (storeTime b) fun env r env' cs =>
    env.retrievedSyncState ≠ 0 → Follows [.rts] r cs ∧ (r = .ok 0 → env' = env) := by
  apply (storeTime_runs b).mono
  rintro env r env' cs ⟨hfollows, hstored⟩ -
  refine ⟨hfollows, ?_⟩
  intro hr
  obtain ⟨m, -, -, henv⟩ := hstored hr
  exact henv

theorem obtainTime_step : Runs (converses b) State.env (obtainTime b) fun env r env' cs =>
    env.retrievedSyncState ≠ 0 → Follows [.rtg] r cs ∧ (r = .ok 0 → env' = env) := by
  apply (obtainTime_runs b).mono
  rintro env r env' cs ⟨hfollows, hstored⟩ -
  refine ⟨hfollows, ?_⟩
  intro hr
  obtain ⟨m, -, -, henv⟩ := hstored hr
  exact henv

/-- With the state obtained, the rest of the script depends on the flag alone. -/
theorem behindState_runs : Runs (converses b) State.env
    (do
      let r ← obtainTime b
      if r ≠ 0 then return r
      let r ← resetLogIfSlow b
      if r ≠ 0 then return r
      let r ← storeTime b
      if r ≠ 0 then return r
      let r ← resetStateIfSlow b
      if r ≠ 0 then return r
      obtainFormat b)
    fun env r _ cs => env.retrievedSyncState ≠ 0 → Follows ([.rtg] ++ closing (slow env)) r cs := by
  have hkeep : ∀ {script : Env → List DesktopType} (env env' : Env),
      env.retrievedSyncState ≠ 0 → env' = env →
        env'.retrievedSyncState ≠ 0 ∧ script env' = script env := by
    rintro script env env' hne rfl
    exact ⟨hne, rfl⟩
  have hformat : Runs (converses b) State.env (obtainFormat b) fun env r _ cs =>
      True → Follows [.rdi] r cs := (obtainFormat_runs b).mono fun _ _ _ _ h _ => h.1
  have hall := runs_then (fun _ hr => hr) obtainTime_step
    (runs_then (fun _ hr => hr) (resetLogIfSlow_runs b)
      (runs_then (fun _ hr => hr) storeTime_step
        (runs_then (fun _ hr => hr) (resetStateIfSlow_runs b) hformat
          fun _ _ _ _ => ⟨trivial, rfl⟩) hkeep) hkeep) hkeep
  apply hall.mono
  intro env r env' cs h hne
  simpa [closing, slow] using h hne

/-- The AMG message decides whether the rest of the script is that of a slow sync. -/
theorem setUp_runs {k : Kind} : Runs (converses b) State.env (setUp b) fun env r _ cs =>
    env.syncType = k.syncType → (∀ k' : Kind, k'.flag env = 0) →
      Follows ([.rig] ++ ([.rmg] ++ ([.rtg] ++ closing (needsSlow k cs)))) r cs := by
  apply runs_guard (obtainDevice_runs b)
  · intro env r env' cs hr h _ _
    exact h.1.stop (by simpa using hr)
  · intro env f env' cs h _ _
    exact h.1.stop nofun
  · rintro env env' cs ⟨hrig, haig⟩
    obtain ⟨m, hm, htype, rfl⟩ := haig rfl
    apply runs_guard (obtainState_runs b)
    · rintro env₁ r env₁' cs' hr h rfl hk hflags
      exact hrig.append (h.1.stop (by simpa using hr))
    · rintro env₁ f env₁' cs' h rfl hk hflags
      exact hrig.append (h.1.stop nofun)
    · rintro env₁ env₁' cs' ⟨hrmg, hamg⟩
      obtain ⟨m', hm', htype', rfl⟩ := hamg rfl
      apply behindState_runs.mono
      rintro env₂ r env₂' cs'' hrest rfl rfl hk hflags
      have hskip : firstReply .amg (cs ++ (cs' ++ cs'')) = some m' := by
        rw [firstReply_skip hm htype (by decide), firstReply_first hm' htype']
      have hslow : slow (storeSyncState m'.body.cont.amg.fullsyncFlags
          (storeDeviceInfo m env)) = needsSlow k (cs ++ (cs' ++ cs'')) := by
        have hk' : (storeSyncState m'.body.cont.amg.fullsyncFlags
            (storeDeviceInfo m env)).syncType = k.syncType := hk
        have hzero : k.flag (storeDeviceInfo m env) = 0 := by
          rw [← hflags k]
          cases k <;> rfl
        simp [slow, needsSlow, hskip, slowSyncFlag_kind hk', hzero]
      rw [← hslow]
      exact hrig.append (hrmg.append (hrest (show (1 : Int) ≠ 0 by decide)))

end SetUp

/-- The way of the authorization: the device information is asked for, and the
passcode is sent if the device is locked. -/
inductive Authorized (passcode : Option CString) : Except Fault Int → List Call → Prop
  | unknown {r : Except Fault Int} {cs : List Call} (hr : r ≠ .ok 0)
      (hfollows : Follows [.rig] r cs) : Authorized passcode r cs
  | unlocked {m : ZdtmMsg} {cs : List Call} (hfollows : Follows [.rig] (.ok 0) cs)
      (hm : received cs = [m]) (htype : m.body.type = ZaurusType.aig.bytes)
      (hlocked : ¬ Locked m) : Authorized passcode (.ok 0) cs
  | unanswered {m : ZdtmMsg} {cs : List Call} {code : Int} (hcode : code ≠ 0)
      (hfollows : Follows [.rig] (.ok 0) cs) (hm : received cs = [m])
      (htype : m.body.type = ZaurusType.aig.bytes) (hlocked : Locked m)
      (hnone : passcode = none) : Authorized passcode (.ok code) cs
  | asked {m : ZdtmMsg} {cs cs' : List Call} {r r' : Except Fault Int}
      (hfollows : Follows [.rig] (.ok 0) cs) (hm : received cs = [m])
      (htype : m.body.type = ZaurusType.aig.bytes) (hlocked : Locked m)
      (hsome : passcode ≠ none) (hauth : AuthRun r' cs') (hr : r = .ok 0 → r' = .ok 0) :
      Authorized passcode r (cs ++ cs')

/-- The way of `zdtm_check_cur_auth_state` if nothing is known of the device. -/
inductive Checked (env : Env) : Except Fault Int → Env → List Call → Prop
  | failed {env' : Env} {cs : List Call} (hfollows : Follows [.rig] (.ok (-1)) cs) :
      Checked env (.ok (-1)) env' cs
  | faulted {env' : Env} {f : Fault} {cs : List Call} (hfollows : Follows [.rig] (.error f) cs) :
      Checked env (.error f) env' cs
  | unlocked {m : ZdtmMsg} {cs : List Call} (hfollows : Follows [.rig] (.ok 0) cs)
      (hm : received cs = [m]) (htype : m.body.type = ZaurusType.aig.bytes)
      (hlocked : ¬ Locked m) : Checked env (.ok 0) (storeDeviceInfo m env) cs
  | locked {m : ZdtmMsg} {cs : List Call} (hfollows : Follows [.rig] (.ok 0) cs)
      (hm : received cs = [m]) (htype : m.body.type = ZaurusType.aig.bytes)
      (hlocked : Locked m) : Checked env (.ok 1) (storeDeviceInfo m env) cs

section Authorize

variable {b : Build}

theorem checkCurAuthState_runs :
    Runs (converses b) State.env (zdtmCheckCurAuthState b) fun env r env' cs =>
      env.retreivedDeviceInfo = 0 → Checked env r env' cs := by
  apply runs_getEnv_eq
  intro env
  by_cases hknown : env.retreivedDeviceInfo = 0
  · simp only [hknown, if_true]
    apply runs_guard (obtainDeviceInfo_stage b)
    · rintro v r v' cs hr h rfl -
      exact .failed (h.stop (by decide)).1
    · rintro v f v' cs h rfl -
      exact .faulted h.1
    · rintro v v' cs ⟨hfollows, hstored⟩
      obtain ⟨m, hm, htype, rfl⟩ := hstored rfl
      apply runs_getEnv_eq
      intro env'
      split
      · next hlocked =>
        apply runs_pure
        rintro v₁ rfl rfl rfl -
        rw [List.append_nil]
        exact .locked hfollows hm htype hlocked
      · next hlocked =>
        apply runs_pure
        rintro v₁ rfl rfl rfl -
        rw [List.append_nil]
        exact .unlocked hfollows hm htype hlocked
  · simp only [hknown, if_false]
    have hpure : Runs (converses b) State.env (pure 0 : Session Int) fun _ _ _ _ => True :=
      runs_pure fun _ => trivial
    apply runs_guard hpure
    · rintro v r v' cs - - rfl hzero
      exact absurd hzero hknown
    · rintro v f v' cs - rfl hzero
      exact absurd hzero hknown
    · intro v v' cs _
      apply runs_getEnv
      intro env'
      split
      · apply runs_pure
        rintro v₁ - rfl hzero
        exact absurd hzero hknown
      · apply runs_pure
        rintro v₁ - rfl hzero
        exact absurd hzero hknown

/-- Only an accepted passcode is a success. -/
theorem permission_logs (b : Build) (passcode : CString) : Logs (exchanges b)
    (do
      let retval ← zdtmAuthenticatePasscode b passcode
      if retval = 1 then return 1
      if retval ≠ 0 then return -7
      return 0 : Session Int)
    fun r cs => ∃ r', AuthRun r' cs ∧ (r = .ok 0 → r' = .ok 0) := by
  refine logs_bind (authenticatePasscode_logs b passcode) ?_ ?_
  · intro retval cs hauth
    have hreturn : ∀ code : Int, (code = 0 → retval = 0) → Logs (exchanges b)
        (pure code : Session Int) fun r new =>
          ∃ r', AuthRun r' (cs ++ new) ∧ (r = .ok 0 → r' = .ok 0) := by
      intro code hcode
      apply logs_pure
      refine ⟨.ok retval, by rwa [List.append_nil], ?_⟩
      intro hzero
      rw [hcode (Except.ok.inj hzero)]
    refine logs_ite (fun _ => hreturn 1 nofun) fun _ => ?_
    exact logs_unless (fun _ => hreturn (-7) nofun) fun hzero => hreturn 0 fun _ => hzero
  · intro f cs hauth
    exact ⟨.error f, hauth, nofun⟩

/-- The passcode is sent if there is one, and its acceptance is the success. -/
theorem authorize_runs : Runs (converses b) State.env (authorize b) fun env r env' cs =>
    env.retreivedDeviceInfo = 0 → Authorized env.passcode r cs ∧
      (r = .ok 0 → ∃ m, env' = storeDeviceInfo m env) := by
  apply runs_bind checkCurAuthState_runs
  · intro env r env' cs hcheck
    by_cases hneg : r < 0
    · rw [if_pos hneg]
      apply runs_pure
      rintro env₁ rfl hzero
      rw [List.append_nil]
      cases hcheck hzero with
      | failed hfollows => exact ⟨.unknown nofun ⟨hfollows.1, nofun⟩, nofun⟩
      | unlocked hfollows hm htype hlocked => exact absurd hneg (by decide)
      | locked hfollows hm htype hlocked => exact absurd hneg (by decide)
    · rw [if_neg hneg]
      by_cases hone : r = 1
      · rw [if_pos hone]
        subst hone
        apply runs_getEnv_eq
        intro env₁
        cases hpasscode : env₁.passcode with
        | none =>
          apply runs_pure
          rintro env₂ rfl rfl hzero
          rw [List.append_nil]
          cases hcheck hzero with
          | locked hfollows hm htype hlocked =>
            exact ⟨.unanswered (by decide) hfollows hm htype hlocked hpasscode, nofun⟩
        | some passcode =>
          have hasked : ∀ {r r' : Except Fault Int} {cs' : List Call}, AuthRun r' cs' →
              (r = .ok 0 → r' = .ok 0) → env₁ = env' → env.retreivedDeviceInfo = 0 →
              Authorized env.passcode r (cs ++ cs') ∧
                (r = .ok 0 → ∃ m, env₁ = storeDeviceInfo m env) := by
            rintro r r' cs' hauth hr rfl hzero
            cases hcheck hzero with
            | @locked m _ hfollows hm htype hlocked =>
              have hsome : env.passcode ≠ none := by
                rw [show env.passcode = some passcode from hpasscode]
                nofun
              exact ⟨.asked hfollows hm htype hlocked hsome hauth hr, fun _ => ⟨m, rfl⟩⟩
          apply (exchanges_converses (permission_logs b passcode)).mono
          rintro v r v' cs' ⟨rfl, r', hauth, hr⟩ rfl heq hzero
          exact hasked hauth hr heq hzero
      · rw [if_neg hone]
        apply runs_pure
        rintro env₁ rfl hzero
        rw [List.append_nil]
        cases hcheck hzero with
        | failed hfollows => exact absurd (by decide) hneg
        | unlocked hfollows hm htype hlocked =>
          exact ⟨.unlocked hfollows hm htype hlocked, fun _ => ⟨_, rfl⟩⟩
        | locked hfollows hm htype hlocked => exact absurd rfl hone
  · intro env f env' cs hcheck hzero
    cases hcheck hzero with
    | faulted hfollows => exact ⟨.unknown nofun hfollows, nofun⟩

end Authorize

/-- Behind a passcode that was sent, what is received first is an AEX message. -/
def Confirmed (cs : List Call) : Prop :=
  ∀ pre msg r post, cs = pre ++ .message msg r :: post →
    msg.body.type = DesktopType.rrl.bytes →
      ∃ m, (received post).head? = some m ∧ m.body.type = ZaurusType.aex.bytes

/-- The same, if a message is sent behind the passcode at all. -/
def Permitted (cs : List Call) : Prop :=
  ∀ pre msg r post, cs = pre ++ .message msg r :: post →
    msg.body.type = DesktopType.rrl.bytes → attempted post ≠ [] →
      ∃ m, (received post).head? = some m ∧ m.body.type = ZaurusType.aex.bytes

section Permitted

variable {cs cs' : List Call}

theorem Confirmed.permitted (h : Confirmed cs) : Permitted cs :=
  fun pre msg r post heq ht _ => h pre msg r post heq ht

theorem permitted_append (h : Confirmed cs) (h' : Permitted cs') : Permitted (cs ++ cs') := by
  intro pre msg r post heq ht hsent
  rcases split_append heq with ⟨as, rfl⟩ | ⟨as, rfl, rfl⟩
  · exact h' as msg r post rfl ht hsent
  · obtain ⟨m, hhead, htype⟩ := h pre msg r as rfl ht
    exact ⟨m, by simp [hhead], htype⟩

theorem confirmed_append (h : Confirmed cs) (h' : Confirmed cs') : Confirmed (cs ++ cs') := by
  intro pre msg r post heq ht
  rcases split_append heq with ⟨as, rfl⟩ | ⟨as, rfl, rfl⟩
  · exact h' as msg r post rfl ht
  · obtain ⟨m, hhead, htype⟩ := h pre msg r as rfl ht
    exact ⟨m, by simp [hhead], htype⟩

/-- Nothing is said where no passcode is sent. -/
theorem confirmed_of_not_mem (h : DesktopType.rrl.bytes ∉ attempted cs) : Confirmed cs := by
  rintro pre msg r post rfl ht
  refine absurd ?_ h
  rw [attempted_append, ← ht]
  exact List.mem_append_right _ List.mem_cons_self

theorem follows_confirmed {script : List DesktopType} {r : Except Fault Int}
    (h : Follows script r cs) (hscript : DesktopType.rrl.bytes ∉ script.map DesktopType.bytes) :
    Confirmed cs := by
  apply confirmed_of_not_mem
  intro hmem
  exact hscript (h.1.subset hmem)

theorem authRun_permitted {r : Except Fault Int} (h : AuthRun r cs) : Permitted cs := by
  rintro pre msg r' post rfl ht hsent
  have hlen := (authRun_follows h).1.length_le
  have hpost := List.length_pos_iff.mpr hsent
  rw [attempted_append, List.length_append, attempted, attempted, List.filterMap_cons] at hlen
  simp only [attemptedType, List.length_cons] at hlen
  change _ + ((attempted post).length + 1) ≤ 1 at hlen
  omega

theorem authRun_confirmed (h : AuthRun (.ok 0) cs) : Confirmed cs := by
  cases h with
  | unasked hcode => exact absurd hcode (Int.lt_irrefl 0)
  | unsent hcode ht hsend hr => exact absurd hcode (Int.lt_irrefl 0)
  | failed hcode ht hsend hrecv hr => exact absurd hcode (Int.lt_irrefl 0)
  | aborted hcode ht hsend habort hrecv => exact absurd hcode (Int.lt_irrefl 0)
  | @accepted msg m _ _ ht hsend hrecv htype =>
    cases hsend with
    | acknowledged m₁ m₂ =>
      cases hrecv with
      | common r m hr => exact absurd hr (Int.lt_irrefl 0)
      | received m =>
        intro pre msg' r post heq ht'
        cases pre with
        | nil => cases heq
        | cons c pre =>
          cases pre with
          | nil =>
            cases heq
            exact ⟨m, rfl, htype⟩
          | cons c' pre =>
            have hmem : Call.message msg' r ∈
                [.recv 1 m₂, .comm .rqst 0, .recv 0 m, .comm .ack 0] := by
              have htail := congrArg (List.drop 2) heq
              change [.recv 1 m₂, .comm .rqst 0, .recv 0 m, .comm .ack 0] = pre ++ _ at htail
              rw [htail]
              exact List.mem_append_right _ List.mem_cons_self
            simp at hmem

end Permitted

/-- The messages sent are the first ones of the script, and all of them behind a
success; a locked device without a passcode gets none behind RIG, and only a device
that accepted the passcode gets any behind it. -/
structure FollowsScript (k : Kind) (passcode : Option CString) (r : Except Fault Int)
    (cs : List Call) : Prop where
  follows : Follows (script (locks cs && passcode.isSome) (needsSlow k cs)) r cs
  locked : locks cs = true → passcode = none →
    attempted cs <+: [DesktopType.ray, .rig].map DesktopType.bytes
  authenticated : Permitted cs

section Whole

variable {k : Kind} {passcode : Option CString} {r : Except Fault Int} {cs cs' cs'' : List Call}

/-- A run that stops before the passcode could be sent. -/
theorem followsScript_early {r' : Except Fault Int} (h : Follows ([.ray] ++ [.rig]) r' cs)
    (hr : r ≠ .ok 0) : FollowsScript k passcode r cs where
  follows := by
    have hstop : Follows (([.ray] ++ [.rig]) ++ ((if locks cs && passcode.isSome then [.rrl]
        else []) ++ ([.rig] ++ ([.rmg] ++ ([.rtg] ++ closing (needsSlow k cs)))))) r cs := h.stop hr
    simpa [script] using hstop
  locked _ _ := h.1
  authenticated := (follows_confirmed h (by decide)).permitted

/-- What is known of the messages up to the answer to the first RIG message. -/
structure Asked (m' : ZdtmMsg) (cs cs' : List Call) : Prop where
  ray : Follows [.ray] (.ok 0) cs
  rig : Follows [.rig] (.ok 0) cs'
  aig : ∀ cs'', firstReply .aig (cs ++ (cs' ++ cs'')) = some m'
  amg : ∀ cs'', firstReply .amg (cs ++ (cs' ++ cs'')) = firstReply .amg cs''

theorem asked_of_received {m m' : ZdtmMsg} (hray : Follows [.ray] (.ok 0) cs)
    (hrig : Follows [.rig] (.ok 0) cs') (hm : received cs = [m])
    (htype : m.body.type = ZaurusType.aay.bytes) (hm' : received cs' = [m'])
    (htype' : m'.body.type = ZaurusType.aig.bytes) : Asked m' cs cs' where
  ray := hray
  rig := hrig
  aig cs'' := by rw [firstReply_skip hm htype (by decide), firstReply_first hm' htype']
  amg cs'' := by
    rw [firstReply_skip hm htype (by decide), firstReply_skip hm' htype' (by decide)]

theorem Asked.confirmed {m' : ZdtmMsg} (h : Asked m' cs cs') : Confirmed (cs ++ cs') :=
  confirmed_append (follows_confirmed h.ray (by decide)) (follows_confirmed h.rig (by decide))

/-- The device is not locked, and the rest of the script follows. -/
theorem followsScript_unlocked {m' : ZdtmMsg} (h : Asked m' cs cs') (hlocked : ¬ Locked m')
    (hrest : Follows ([.rig] ++ ([.rmg] ++ ([.rtg] ++ closing (needsSlow k cs'')))) r cs'') :
    FollowsScript k passcode r (cs ++ (cs' ++ cs'')) := by
  have hlocks : locks (cs ++ (cs' ++ cs'')) = false := by simp [locks, h.aig, hlocked]
  have hslow : needsSlow k (cs ++ (cs' ++ cs'')) = needsSlow k cs'' := by
    simp [needsSlow, h.amg]
  refine ⟨?_, ?_, ?_⟩
  · rw [hlocks, hslow]
    exact h.ray.append (h.rig.append hrest)
  · intro hlocks'
    rw [hlocks] at hlocks'
    cases hlocks'
  · rw [← List.append_assoc]
    refine permitted_append h.confirmed (follows_confirmed hrest ?_).permitted
    cases needsSlow k cs'' <;> decide

/-- The device is locked and got the passcode, and nothing more. -/
theorem followsScript_asked {m' : ZdtmMsg} {r' : Except Fault Int} (h : Asked m' cs cs')
    (hlocked : Locked m') (hsome : passcode ≠ none) (hauth : AuthRun r' cs'') (hr : r ≠ .ok 0) :
    FollowsScript k passcode r (cs ++ (cs' ++ cs'')) := by
  have hlocks : locks (cs ++ (cs' ++ cs'')) = true := by simp [locks, h.aig, hlocked]
  have hpass : passcode.isSome = true := Option.isSome_iff_ne_none.mpr hsome
  refine ⟨?_, ?_, ?_⟩
  · rw [hlocks, hpass]
    exact h.ray.append (h.rig.append ((authRun_follows hauth).stop hr))
  · intro _ hnone
    exact absurd hnone hsome
  · rw [← List.append_assoc]
    exact permitted_append h.confirmed (authRun_permitted hauth)

/-- The device is locked and accepted the passcode, and the rest of the script follows. -/
theorem followsScript_accepted {m' : ZdtmMsg} {ds : List Call} (h : Asked m' cs cs')
    (hlocked : Locked m') (hsome : passcode ≠ none) (hauth : AuthRun (.ok 0) cs'')
    (hnone : firstReply .amg (cs'' ++ ds) = firstReply .amg ds)
    (hrest : Follows ([.rig] ++ ([.rmg] ++ ([.rtg] ++ closing (needsSlow k ds)))) r ds) :
    FollowsScript k passcode r (cs ++ (cs' ++ (cs'' ++ ds))) := by
  have hlocks : locks (cs ++ (cs' ++ (cs'' ++ ds))) = true := by simp [locks, h.aig, hlocked]
  have hpass : passcode.isSome = true := Option.isSome_iff_ne_none.mpr hsome
  have hslow : needsSlow k (cs ++ (cs' ++ (cs'' ++ ds))) = needsSlow k ds := by
    rw [needsSlow, h.amg, hnone, needsSlow]
  refine ⟨?_, ?_, ?_⟩
  · rw [hlocks, hpass, hslow]
    exact h.ray.append (h.rig.append ((authRun_follows hauth).append hrest))
  · intro _ hnone'
    exact absurd hnone' hsome
  · have hconfirmed := confirmed_append h.confirmed (authRun_confirmed hauth)
    rw [← List.append_assoc, ← List.append_assoc]
    refine permitted_append hconfirmed (follows_confirmed hrest ?_).permitted
    cases needsSlow k ds <;> decide

end Whole

theorem authRun_received {cs : List Call} (h : AuthRun (.ok 0) cs) :
    ∃ m, received cs = [m] ∧ m.body.type = ZaurusType.aex.bytes := by
  cases h with
  | unasked hcode => exact absurd hcode (Int.lt_irrefl 0)
  | unsent hcode ht hsend hr => exact absurd hcode (Int.lt_irrefl 0)
  | failed hcode ht hsend hrecv hr => exact absurd hcode (Int.lt_irrefl 0)
  | aborted hcode ht hsend habort hrecv => exact absurd hcode (Int.lt_irrefl 0)
  | accepted ht hsend hrecv htype =>
    exact ⟨_, by simp [sendRun_received hsend, recvRun_received hrecv], htype⟩

/-- What is said over the connection from the Zaurus. -/
theorem conversation_runs {b : Build} {k : Kind} : Runs (converses b) State.env
    (do
      let r ← greet b
      if r ≠ 0 then return r
      let r ← authorize b
      if r ≠ 0 then return r
      setUp b)
    fun env r _ cs => Fresh env → env.syncType = k.syncType →
      FollowsScript k env.passcode r cs := by
  apply runs_guard (exchanges_converses (greet_logs b))
  · rintro env r env' cs hr ⟨-, h⟩ - -
    exact followsScript_early (h.1.stop (show Except.ok r ≠ .ok 0 by simpa using hr))
      (by simpa using hr)
  · rintro env f env' cs ⟨-, h⟩ - -
    have hray : Follows ([.ray] ++ [.rig]) (.error f) cs := h.1.stop nofun
    exact followsScript_early hray nofun
  · rintro env env' cs ⟨rfl, hray, haay⟩
    obtain ⟨m, hm, htype⟩ := haay rfl
    apply runs_guard authorize_runs
    · rintro env₁ r env₁' cs' hr hauth rfl hfresh hk
      have hne : Except.ok r ≠ (.ok 0 : Except Fault Int) := by simpa using hr
      cases (hauth hfresh.deviceInfo).1 with
      | unknown hne' hfollows => exact followsScript_early (hray.append hfollows) hne
      | unlocked hfollows hm' htype' hlocked => exact absurd rfl hne
      | unanswered hcode hfollows hm' htype' hlocked hnone =>
        exact followsScript_early (hray.append hfollows) hne
      | asked hfollows hm' htype' hlocked hsome hrrl hr' =>
        exact followsScript_asked (asked_of_received hray hfollows hm htype hm' htype') hlocked
          hsome hrrl hne
    · rintro env₁ f env₁' cs' hauth rfl hfresh hk
      cases (hauth hfresh.deviceInfo).1 with
      | unknown hne hfollows => exact followsScript_early (hray.append hfollows) hne
      | asked hfollows hm' htype' hlocked hsome hrrl hr' =>
        exact followsScript_asked (asked_of_received hray hfollows hm htype hm' htype') hlocked
          hsome hrrl nofun
    · intro env₁ env₁' cs' hauth
      apply (setUp_runs (k := k)).mono
      rintro env₂ r env₂' cs'' hsetup rfl rfl hfresh hk
      obtain ⟨hway, hstored⟩ := hauth hfresh.deviceInfo
      obtain ⟨m', rfl⟩ := hstored rfl
      have hflags : ∀ k' : Kind, k'.flag (storeDeviceInfo m' env₁) = 0 := by
        intro k'
        rw [← hfresh.flags k']
        cases k' <;> rfl
      have hrest := hsetup hk hflags
      cases hway with
      | unknown hne hfollows => exact absurd rfl hne
      | unlocked hfollows hm' htype' hlocked =>
        exact followsScript_unlocked (asked_of_received hray hfollows hm htype hm' htype') hlocked
          hrest
      | unanswered hcode hfollows hm' htype' hlocked hnone => exact absurd rfl hcode
      | asked hfollows hm' htype' hlocked hsome hrrl hr' =>
        have hzero := hr' rfl
        subst hzero
        obtain ⟨m'', hm'', htype''⟩ := authRun_received hrrl
        rw [List.append_assoc]
        exact followsScript_accepted (asked_of_received hray hfollows hm htype hm' htype') hlocked
          hsome hrrl (firstReply_skip hm'' htype'' (by decide) cs'') hrest

/-- Nothing was said yet. -/
theorem followsScript_silent {k : Kind} {passcode : Option CString} {r : Except Fault Int}
    {s s' : State} (hr : r ≠ .ok 0) (hevents : s'.events = s.events) :
    FollowsScript k passcode r (callsSince s s') := by
  have hnone : callsSince s s' = [] := by simp [callsSince, hevents]
  rw [hnone]
  have hfollows : Follows ([.ray] ++ [.rig]) r [] :=
    ⟨List.nil_prefix, fun hzero => absurd hzero hr⟩
  exact followsScript_early hfollows hr

/-- From an environment that was just set up, a synchronization follows the script
whatever the device answers and however the connection fails. -/
theorem initiateSync_follows_script (b : Build) (setters : List Setter) {s₀ s : State}
    (hprepare : prepare setters s₀ = (.ok true, s)) {k : Kind} (hk : s.env.syncType = k.syncType) :
    FollowsScript k s.env.passcode (zdtmInitiateSync b s).1
      (callsSince s (zdtmInitiateSync b s).2) := by
  obtain ⟨evs, -, hprepared⟩ := (prepare_runs setters).run hprepare
  obtain ⟨hfresh, -⟩ := hprepared rfl
  have htype : s.env.syncType ≠ 0x00 := by
    rw [hk]
    cases k <;> decide
  change Leads (zdtmInitiateSync b) s fun r s' =>
    FollowsScript k s.env.passcode r (callsSince s s')
  apply leads_getEnv
  simp only [htype, if_false]
  by_cases hip : s.env.zaurusIp = zeros ipStrSize
  · simp only [hip, if_true]
    exact leads_pure (followsScript_silent (by decide) rfl)
  · simp only [hip, if_false]
    apply leads_bind (connect_runs b s.env.zaurusIp s)
    · rintro r s₁ ⟨evs, hhandles, reqfd, connfd, henv, -⟩
      by_cases hr : r = 0
      · subst hr
        apply (conversation_runs (k := k) s₁).mono
        rintro r s₂ ⟨cs, hconverses, hscript⟩
        have hcalls : callsSince s s₂ = cs := by
          rw [← traffic_callsSince hconverses.talks.traffic, callsSince, callsSince,
            hhandles.events]
        have hfresh₁ : Fresh s₁.env := by
          rw [henv]
          exact ⟨hfresh.deviceInfo, hfresh.flags⟩
        rw [henv] at hscript hfresh₁
        rw [hcalls]
        exact hscript hfresh₁ hk
      · simp only [ne_eq, hr, not_false_eq_true, if_true]
        exact leads_pure (followsScript_silent (by decide) hhandles.events)
    · rintro f s₁ ⟨evs, hhandles, -⟩
      apply followsScript_silent _ hhandles.events
      intro hzero
      cases hzero

/-- A general message of the device. -/
def deviceMsg (z : ZaurusType) (content : List UInt8) : List UInt8 :=
  dmsgHdr.toList ++ LittleEndian.bytes 2 (msgTypeSize + content.length) ++
    (z.bytes.toList ++ (content ++ [0, 0]))

/-- The device asks for a message, acknowledges it and replies. -/
def deviceReply (z : ZaurusType) (content : List UInt8) : List UInt8 :=
  CommonMsg.rqst.bytes.toList ++ (CommonMsg.ack.bytes.toList ++ deviceMsg z content)

/-- A parameter `CTGR` with a description of two characters. -/
def adiContent : List UInt8 :=
  [0, 0, 0, 0, 1, 0, 0] ++ [0x43, 0x54, 0x47, 0x52, 1] ++ [2, 0, 0x41, 0x42]

/-- A device that is not locked and needs no slow sync. -/
def openDevice : List UInt8 :=
  CommonMsg.ack.bytes.toList ++ deviceMsg .aay [0, 0, 0] ++
    deviceReply .aig (List.replicate 16 0) ++ deviceReply .aig (List.replicate 16 0) ++
    deviceReply .amg ([0, 0, 0x07] ++ List.replicate 46 0) ++
    deviceReply .atg (List.replicate 14 0x30) ++ deviceReply .aex [] ++
    deviceReply .adi adiContent

/-- All services of the host are at hand, and the device says `stream`. -/
def deviceState (stream : List UInt8) (h : stream ≠ []) : State where
  world := { heap := Heap.filled 0, inbox := [.data stream h] }
  env := {}
  host := { quietHost with mktime := fun _ => 0, localtimeR := fun _ => some ⟨0, 0, 0, 1, 0, 100, 0⟩ }

def todoSetters : List Setter :=
  [.setZaurusIp ([0x31] ++ List.replicate 15 0), .setSyncType 0]

def preparedState : State := (prepare todoSetters (deviceState openDevice (by decide))).2

theorem initiateSync_follows_script_open :
    (zdtmInitiateSync .littleEndian preparedState).1 = .ok 0 ∧
      FollowsScript .todo preparedState.env.passcode
        (zdtmInitiateSync .littleEndian preparedState).1
        (callsSince preparedState (zdtmInitiateSync .littleEndian preparedState).2) := by
  have hprepare : (prepare todoSetters (deviceState openDevice (by decide))).1 = .ok true := by
    decide +kernel
  have hk : preparedState.env.syncType = Kind.todo.syncType := by decide +kernel
  exact ⟨by decide +kernel,
    initiateSync_follows_script .littleEndian todoSetters (Prod.ext hprepare rfl) hk⟩

end ZdtmScript
