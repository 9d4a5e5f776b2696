import ZdtmSync.Dialogues

/-!
# A synchronization that is served

What a device has ready for `zdtm_initiate_sync`, and how the whole function runs
over it: the lines that are exchanged, in their order, the code that is returned,
and what the environment knows of the device behind it.
-/

namespace ZdtmSynchronized

open CMemory Programs ZdtmTypes ZdtmDesktopMsg ZdtmMsgs ZdtmNet ZdtmParsing ZdtmFraming
  ZdtmDelivery ZdtmReceiving ZdtmSession ZdtmProto ZdtmConnections ZdtmSync ZdtmExchanges ZdtmOperations
  ZdtmReplies ZdtmSlowSync ZdtmScript ZdtmServed ZdtmStrings ZdtmSending ZdtmPasscodes ZdtmAnchor
  ZdtmDialogues
open ZdtmWireFormat (wireFormat)

variable {b : Build}

section Operations

variable {host : Host} {env : Env}

theorem storeDeviceInfo_eq {env : Env} {m : ZdtmMsg} {model : Bytes 256}
    (h : copyString env.model m.body.cont.aig.modelStr m.body.cont.aig.modelStrLen.toNat =
      .ok model) :
    storeDeviceInfo m env = { env with
      model
      language := m.body.cont.aig.language
      curAuthState := m.body.cont.aig.authState
      retreivedDeviceInfo := 1 } := by
  simp [storeDeviceInfo, h, Except.toOption]

theorem ray_proper : ZdtmWireFormat.Sendable .ray (desktopMsg .ray {}) :=
  desktop_sendable (by decide) (by decide) (by decide) trivial

theorem rig_proper : ZdtmWireFormat.Sendable .rig (desktopMsg .rig {}) :=
  desktop_sendable (by decide) (by decide) (by decide) trivial

theorem deviceInfo_dialogue (r : Reply b .aig)
    (hshort : r.frame.cont.aig.modelStrLen.toNat < 256) :
    Dialogue b host (zdtmObtainDeviceInfo b) env (exchanged .rig {} r.frame) 0
      (storeDeviceInfo r.frame.msg env) := by
  apply dialogue_last (exchange_dialogue rig_proper r (-1) (-2) (-3))
  apply dialogue_getEnv
  obtain ⟨model, hcopy⟩ := copyString_fits env.model (frame_model r.type) hshort
  apply dialogue_lift hcopy
  apply dialogue_last (dialogue_modify _)
  rw [storeDeviceInfo_eq hcopy]
  exact dialogue_pure 0

theorem rmg_proper (syncType : UInt8) :
    ZdtmWireFormat.Sendable .rmg (desktopMsg .rmg (rmgContent syncType)) :=
  desktop_sendable (by decide) (by decide) (by decide) trivial

theorem syncState_dialogue (r : Reply b .amg) :
    Dialogue b host (zdtmObtainSyncState b) env
      (exchanged .rmg (rmgContent env.syncType) r.frame) 0
      (storeSyncState r.frame.msg.body.cont.amg.fullsyncFlags env) := by
  apply dialogue_getEnv
  apply dialogue_last (exchange_dialogue (rmg_proper env.syncType) r (-1) (-2) (-3))
  apply dialogue_last (dialogue_modify _)
  exact dialogue_pure 0

theorem rss_proper (syncType : UInt8) :
    ZdtmWireFormat.Sendable .rss (desktopMsg .rss (rssContent syncType)) :=
  desktop_sendable (by decide) (by decide) (by decide) trivial

theorem resetState_dialogue (r : Reply b .aex) :
    Dialogue b host (zdtmResetSyncState b) env
      (exchanged .rss (rssContent env.syncType) r.frame) 0 (resetFlags env) := by
  apply dialogue_getEnv
  apply dialogue_last (exchange_dialogue (rss_proper env.syncType) r (-1) (-2) (-3))
  apply dialogue_last (dialogue_modify _)
  exact dialogue_pure 0

theorem rtg_proper : ZdtmWireFormat.Sendable .rtg (desktopMsg .rtg {}) :=
  desktop_sendable (by decide) (by decide) (by decide) trivial

theorem lastTime_dialogue (r : Reply b .atg) (pTime : Int)
    (htime : host.mktime (atgTime r.frame.cont.atg) ≠ -1) :
    Dialogue b host (zdtmObtainLastTimeSynced b pTime) env (exchanged .rtg {} r.frame)
      (0, host.mktime (atgTime r.frame.cont.atg)) env := by
  apply dialogue_last (exchange_dialogue rtg_proper r (-1) (-2) (-3))
  apply dialogue_getHost
  have hmsg : r.frame.msg.body.cont.atg = r.frame.cont.atg := rfl
  simp only [hmsg, htime, if_false]
  exact dialogue_pure _

/-- The date that a broken-down time is stored as. -/
def dateOf {tm : Tm} (h : Localtime tm) : Bytes rtsDateLen := ⟨formatTime tm, length_formatTime h⟩

theorem storeTime_dialogue (r : Reply b .aex) {tm : Tm} {timeSynced : Int}
    (hlocal : host.localtimeR timeSynced = some tm) (h : Localtime tm) :
    Dialogue b host (zdtmSetLastTimeSynced b timeSynced) env
      (exchanged .rts (rtsContent (dateOf h)) r.frame) 0 env := by
  apply dialogue_getHost
  simp only [hlocal]
  apply dialogue_lift (copyBytes_exact (length_formatTime h))
  apply dialogue_last (exchange_dialogue (rts_sendable (dateOf h)) r (-3) (-4) (-5))
  exact dialogue_pure 0

theorem rms_proper (bytes : List UInt8) (h : bytes.length ≤ rmsLogSize) :
    ZdtmWireFormat.Sendable .rms (desktopMsg .rms (rmsContent bytes h)) where
  type := rfl
  other := by decide
  raw := rfl
  log _ := by
    change (UInt16.ofNat bytes.length).toNat ≤ 38
    rwa [UInt16.toNat_ofNat_of_lt' (Nat.lt_of_le_of_lt h (by decide))]
  path hrge := by cases hrge
  readable := trivial

/-- The log is refused, and then reset. -/
def resetLogLines (refused : Reply b .ang) (reset : Reply b .aex) : List (Line b) :=
  asked b .rms emptyLog ++ (aborted b ++ (told refused.frame ++ exchanged .rms resetLog reset.frame))

theorem resetLog_dialogue (refused : Reply b .ang) (reset : Reply b .aex) :
    Dialogue b host (zdtmResetSyncLog b) env (resetLogLines refused reset) 0 env := by
  apply dialogue_bind (wrappedSend_dialogue (rms_proper [] (Nat.zero_le _)))
  apply dialogue_bind wrappedRecv_aborted
  apply dialogue_bind (wrappedRecv_dialogue refused.frame)
  simp only [ne_eq, not_true_eq_false, if_false, refused.msg_type]
  apply dialogue_last (exchange_dialogue (rms_proper _ _) reset (-5) (-6) (-7))
  exact dialogue_pure 0

theorem rdi_proper (syncType : UInt8) :
    ZdtmWireFormat.Sendable .rdi (desktopMsg .rdi (rdiContent syncType)) :=
  desktop_sendable (by decide) (by decide) (by decide) trivial

theorem paramFormat_dialogue (r : Reply b .adi) (hnone : env.params = none) :
    Dialogue b host (zdtmObtainParamFormat b) env
      (exchanged .rdi (rdiContent env.syncType) r.frame) 0 (storeParamFormat r.frame.msg env) := by
  apply dialogue_getEnv
  simp only [hnone, ne_eq, not_true_eq_false, if_false]
  apply dialogue_last (exchange_dialogue (rdi_proper env.syncType) r (-1) (-2) (-3))
  apply dialogue_last (dialogue_modify _)
  exact dialogue_pure 0

/-- Descriptions of at most 255 characters are copied. -/
theorem copyParams_fits {params : List AdiMsgParam} (hdesc : ∀ p ∈ params, Described p)
    (hshort : ∀ p ∈ params, p.descLen.toNat < 256) (buff : Bytes 256) :
    ∃ buff', copyParams params.length params buff = .ok buff' := by
  induction params generalizing buff with
  | nil => exact ⟨buff, rfl⟩
  | cons param params ih =>
    have hstep : copyParams (param :: params).length (param :: params) buff =
        copyParam buff param >>= copyParams params.length params := rfl
    obtain ⟨v, hcopy⟩ := copyParam_fits buff (hdesc param List.mem_cons_self)
      (hshort param List.mem_cons_self)
    rw [hstep, hcopy]
    exact ih (fun p hp => hdesc p (List.mem_cons_of_mem _ hp))
      (fun p hp => hshort p (List.mem_cons_of_mem _ hp)) v

end Operations

/-- What is said on `connfd`. -/
def converse (b : Build) : Session Int := do
  let r ← greet b
  if r ≠ 0 then return r
  let r ← authorize b
  if r ≠ 0 then return r
  setUp b

/-- What the device says to a passcode. -/
inductive Verdict (b : Build) where
  | accepts (reply : Reply b .aex)
  | denies (reply : Reply b .ang)

def Verdict.code : Verdict b → Int
  | .accepts _ => 0
  | .denies _ => 1

def Verdict.lines : Verdict b → List (Line b)
  | .accepts reply => told reply.frame
  | .denies reply => aborted b ++ told reply.frame

/-- The general messages that a device has ready for a synchronization. Those of the
passcode and of the resets are only asked for if they are needed. -/
structure Device (b : Build) where
  greeting : Reply b .aay
  info : Reply b .aig
  verdict : Verdict b
  infoAgain : Reply b .aig
  syncState : Reply b .amg
  lastTime : Reply b .atg
  logRefused : Reply b .ang
  logReset : Reply b .aex
  timeStored : Reply b .aex
  stateReset : Reply b .aex
  format : Reply b .adi

namespace Device

/-- The strings fit into their arrays, and the host knows the time. -/
structure Fits (d : Device b) (host : Host) : Prop where
  info : d.info.frame.cont.aig.modelStrLen.toNat < 256
  infoAgain : d.infoAgain.frame.cont.aig.modelStrLen.toNat < 256
  format : ∀ p ∈ d.format.frame.cont.adi.params.getD [], p.descLen.toNat < 256
  lastTime : host.mktime (atgTime d.lastTime.frame.cont.atg) ≠ -1

/-- The kind of items is new to the device. -/
def Resets (d : Device b) (k : Kind) : Prop :=
  d.syncState.frame.msg.body.cont.amg.fullsyncFlags &&& k.mask = 0

instance (d : Device b) (k : Kind) : Decidable (d.Resets k) := instDecidableEqUInt8 _ _

variable (d : Device b)

/-- The code of the authorization: 0 if the device is open or opened by the passcode. -/
def code (passcode : Option CString) : Int :=
  if Locked d.info.frame.msg then
    match passcode with
    | none => -8
    | some _ => d.verdict.code
  else 0

def passcodeLines (passcode : Option CString) : List (Line b) :=
  if Locked d.info.frame.msg then
    match passcode with
    | none => []
    | some passcode => asked b .rrl (rrlContent passcode) ++ d.verdict.lines
  else []

def greetLines : List (Line b) :=
  [.sends .ray {}, .hears (.common .ack)] ++ told d.greeting.frame

def authorizeLines (passcode : Option CString) : List (Line b) :=
  exchanged .rig {} d.info.frame ++ d.passcodeLines passcode

section Authorize

variable {d} {host : Host} {env : Env}

theorem greet_dialogue : Dialogue b host (greet b) env d.greetLines 0 env := by
  apply dialogue_bind (send_dialogue ray_proper)
  apply dialogue_bind (hears_dialogue .ack)
  apply dialogue_last (wrappedRecv_dialogue d.greeting.frame)
  simp only [ne_eq, not_true_eq_false, if_false, d.greeting.msg_type]
  exact dialogue_pure 0

theorem authenticate_dialogue {passcode : CString} (h : 0 ≤ pwSize passcode) :
    Dialogue b host (zdtmAuthenticatePasscode b passcode) env
      (asked b .rrl (rrlContent passcode) ++ d.verdict.lines) d.verdict.code env := by
  have hpos : ¬ pwSize passcode < 0 := Int.not_lt.mpr h
  unfold zdtmAuthenticatePasscode
  rw [allocateInt, if_neg hpos]
  apply dialogue_allocate
  intro block
  apply dialogue_bind (wrappedSend_dialogue (rrl_sendable passcode h))
  cases d.verdict with
  | accepts reply =>
    apply dialogue_last (wrappedRecv_dialogue reply.frame)
    simp only [ne_eq, not_true_eq_false, if_false, reply.msg_type]
    exact dialogue_pure 0
  | denies reply =>
    apply dialogue_bind wrappedRecv_aborted
    apply dialogue_last (wrappedRecv_dialogue reply.frame)
    simp only [ne_eq, not_true_eq_false, if_false, if_true, reply.msg_type]
    exact dialogue_pure 1

theorem checkAuth_dialogue (hshort : d.info.frame.cont.aig.modelStrLen.toNat < 256)
    (hunknown : env.retreivedDeviceInfo = 0) :
    Dialogue b host (zdtmCheckCurAuthState b) env (exchanged .rig {} d.info.frame)
      (if Locked d.info.frame.msg then 1 else 0) (storeDeviceInfo d.info.frame.msg env) := by
  apply dialogue_getEnv
  simp only [hunknown, if_true]
  apply dialogue_last (deviceInfo_dialogue d.info hshort)
  apply dialogue_getEnv
  by_cases hlocked : Locked d.info.frame.msg
  · have hstate : (storeDeviceInfo d.info.frame.msg env).curAuthState = 0x0b ∨
        (storeDeviceInfo d.info.frame.msg env).curAuthState = 0x07 := hlocked
    simp only [hlocked, hstate, if_true]
    exact dialogue_pure 1
  · have hstate : ¬ ((storeDeviceInfo d.info.frame.msg env).curAuthState = 0x0b ∨
        (storeDeviceInfo d.info.frame.msg env).curAuthState = 0x07) := hlocked
    simp only [hlocked, hstate, if_false]
    exact dialogue_pure 0

theorem authorize_dialogue (hshort : d.info.frame.cont.aig.modelStrLen.toNat < 256)
    (hunknown : env.retreivedDeviceInfo = 0)
    (hsize : ∀ passcode, env.passcode = some passcode → 0 ≤ pwSize passcode) :
    Dialogue b host (authorize b) env (d.authorizeLines env.passcode) (d.code env.passcode)
      (storeDeviceInfo d.info.frame.msg env) := by
  apply dialogue_bind (checkAuth_dialogue hshort hunknown)
  by_cases hlocked : Locked d.info.frame.msg
  · simp only [passcodeLines, code, hlocked, if_true]
    apply dialogue_getEnv
    have hsame : (storeDeviceInfo d.info.frame.msg env).passcode = env.passcode := rfl
    rw [hsame]
    cases hpasscode : env.passcode with
    | none => exact dialogue_pure (-8)
    | some passcode =>
      apply dialogue_last (authenticate_dialogue (hsize passcode hpasscode))
      cases d.verdict with
      | accepts reply => exact dialogue_pure 0
      | denies reply => exact dialogue_pure 1
  · simp only [passcodeLines, code, hlocked, if_false]
    exact dialogue_pure 0

end Authorize

def setUpLines (k : Kind) (date : Bytes rtsDateLen) : List (Line b) :=
  exchanged .rig {} d.infoAgain.frame ++
    (exchanged .rmg (rmgContent k.syncType) d.syncState.frame ++
      (exchanged .rtg {} d.lastTime.frame ++
        ((if d.Resets k then resetLogLines d.logRefused d.logReset else []) ++
          (exchanged .rts (rtsContent date) d.timeStored.frame ++
            ((if d.Resets k then exchanged .rss (rssContent k.syncType) d.stateReset.frame
              else []) ++
              exchanged .rdi (rdiContent k.syncType) d.format.frame)))))

/-- The environment with the state of the device. -/
def stated (env : Env) : Env :=
  storeSyncState d.syncState.frame.msg.body.cont.amg.fullsyncFlags
    (storeDeviceInfo d.infoAgain.frame.msg env)

def learned (k : Kind) (env : Env) : Env :=
  storeParamFormat d.format.frame.msg
    (if d.Resets k then resetFlags (d.stated env) else d.stated env)

section SetUp

variable {d} {host : Host} {env : Env} {k : Kind}

/-- A flag is set for a kind that is new to the device, and was not before. -/
theorem stated_flag (hk : env.syncType = k.syncType) (hflag : k.flag env = 0) :
    slowSyncFlag (d.stated env) = if d.Resets k then 1 else 0 := by
  have hsame : k.flag (storeDeviceInfo d.infoAgain.frame.msg env) = k.flag env := by
    cases k <;> rfl
  have htype : (d.stated env).syncType = k.syncType := hk
  rw [slowSyncFlag_kind htype, stated, storeSyncState_flag, hsame, hflag]
  rfl

/-- With the state obtained, nothing is asked for the flag. -/
theorem requiresSlow_dialogue (hk : env.syncType = k.syncType) (hflag : k.flag env = 0) :
    Dialogue b host (zdtmRequiresSlowSync b) (d.stated env) [] (if d.Resets k then 1 else 0)
      (d.stated env) := by
  apply dialogue_getEnv
  have hknown : ¬ (d.stated env).retrievedSyncState = 0 := show ¬ (1 : Int) = 0 by decide
  simp only [hknown, if_false]
  rw [← stated_flag hk hflag]
  apply dialogue_first (dialogue_pure 0)
  apply dialogue_getEnv
  exact dialogue_pure _

theorem resetLogIfSlow_dialogue (hk : env.syncType = k.syncType) (hflag : k.flag env = 0) :
    Dialogue b host (resetLogIfSlow b) (d.stated env)
      (if d.Resets k then resetLogLines d.logRefused d.logReset else []) 0 (d.stated env) := by
  apply dialogue_first (requiresSlow_dialogue hk hflag)
  by_cases hslow : d.Resets k
  · simp only [hslow, if_true]
    apply dialogue_last (resetLog_dialogue d.logRefused d.logReset)
    exact dialogue_pure 0
  · simp only [hslow, if_false]
    exact dialogue_pure 0

theorem resetStateIfSlow_dialogue (hk : env.syncType = k.syncType) (hflag : k.flag env = 0) :
    Dialogue b host (resetStateIfSlow b) (d.stated env)
      (if d.Resets k then exchanged .rss (rssContent k.syncType) d.stateReset.frame else []) 0
      (if d.Resets k then resetFlags (d.stated env) else d.stated env) := by
  apply dialogue_first (requiresSlow_dialogue hk hflag)
  by_cases hslow : d.Resets k
  · simp only [hslow, if_true]
    have hreset : Dialogue b host (zdtmResetSyncState b) (d.stated env) _ 0 _ :=
      resetState_dialogue d.stateReset
    have htype : (d.stated env).syncType = k.syncType := hk
    rw [htype] at hreset
    apply dialogue_last hreset
    exact dialogue_pure 0
  · simp only [hslow, if_false]
    exact dialogue_pure 0

theorem format_dialogue (hk : env.syncType = k.syncType) (hnone : env.params = none)
    (hshort : ∀ p ∈ d.format.frame.cont.adi.params.getD [], p.descLen.toNat < 256) :
    Dialogue b host (obtainFormat b) env (exchanged .rdi (rdiContent k.syncType) d.format.frame) 0
      (storeParamFormat d.format.frame.msg env) := by
  have hformat : Dialogue b host (zdtmObtainParamFormat b) env _ 0 _ :=
    paramFormat_dialogue d.format hnone
  rw [hk] at hformat
  apply dialogue_last hformat
  apply dialogue_getEnv
  obtain ⟨hcount, hdesc⟩ := frame_params d.format.type
  obtain ⟨buff, hcopy⟩ := copyParams_fits hdesc hshort (zeros 256)
  rw [hcount] at hcopy
  apply dialogue_lift (a := buff) hcopy
  exact dialogue_pure 0

@[simp] theorem resetFlags_syncType (env : Env) : (resetFlags env).syncType = env.syncType := by
  unfold resetFlags
  split
  · rfl
  · split <;> rfl

@[simp] theorem resetFlags_params (env : Env) : (resetFlags env).params = env.params := by
  unfold resetFlags
  split
  · rfl
  · split <;> rfl

theorem setUp_dialogue {tm : Tm} (hfits : d.Fits host) (hk : env.syncType = k.syncType)
    (hflag : k.flag env = 0) (hnone : env.params = none)
    (hlocal : host.localtimeR host.time = some tm) (h : Localtime tm) :
    Dialogue b host (setUp b) env (d.setUpLines k (dateOf h)) 0 (d.learned k env) := by
  have hdevice : Dialogue b host (obtainDevice b) env (exchanged .rig {} d.infoAgain.frame) 0
      (storeDeviceInfo d.infoAgain.frame.msg env) :=
    dialogue_last (deviceInfo_dialogue d.infoAgain hfits.infoAgain) (dialogue_pure 0)
  have hstate : Dialogue b host (obtainState b) (storeDeviceInfo d.infoAgain.frame.msg env)
      (exchanged .rmg (rmgContent k.syncType) d.syncState.frame) 0 (d.stated env) := by
    have hobtain : Dialogue b host (zdtmObtainSyncState b)
        (storeDeviceInfo d.infoAgain.frame.msg env) _ 0 _ := syncState_dialogue d.syncState
    have htype : (storeDeviceInfo d.infoAgain.frame.msg env).syncType = k.syncType := hk
    rw [htype] at hobtain
    exact dialogue_last hobtain (dialogue_pure 0)
  have htime : Dialogue b host (obtainTime b) (d.stated env) (exchanged .rtg {} d.lastTime.frame) 0
      (d.stated env) :=
    dialogue_last (lastTime_dialogue d.lastTime 0 hfits.lastTime) (dialogue_pure 0)
  have hstore : Dialogue b host (storeTime b) (d.stated env)
      (exchanged .rts (rtsContent (dateOf h)) d.timeStored.frame) 0 (d.stated env) := by
    apply dialogue_getHost
    exact dialogue_last (storeTime_dialogue d.timeStored hlocal h) (dialogue_pure 0)
  have hreset : (if d.Resets k then resetFlags (d.stated env) else d.stated env).syncType =
        k.syncType ∧
      (if d.Resets k then resetFlags (d.stated env) else d.stated env).params = none := by
    have hboth : (d.stated env).syncType = k.syncType ∧ (d.stated env).params = none := ⟨hk, hnone⟩
    split
    · simpa using hboth
    · exact hboth
  apply dialogue_bind hdevice
  apply dialogue_bind hstate
  apply dialogue_bind htime
  apply dialogue_bind (resetLogIfSlow_dialogue hk hflag)
  apply dialogue_bind hstore
  apply dialogue_bind (resetStateIfSlow_dialogue hk hflag)
  exact format_dialogue hreset.1 hreset.2 hfits.format

end SetUp

/-- The conversation on `connfd`. -/
def lines (k : Kind) (passcode : Option CString) (date : Bytes rtsDateLen) : List (Line b) :=
  d.greetLines ++ (d.authorizeLines passcode ++
    if d.code passcode = 0 then d.setUpLines k date else [])

/-- What the environment knows of the device behind the conversation. -/
def known (k : Kind) (env : Env) : Env :=
  if d.code env.passcode = 0 then d.learned k (storeDeviceInfo d.info.frame.msg env)
  else storeDeviceInfo d.info.frame.msg env

section Conversation

variable {d} {host : Host} {env : Env} {k : Kind}

theorem passcodeLines_proper {passcode : Option CString}
    (hsize : ∀ p, passcode = some p → 0 ≤ pwSize p) : Proper (d.passcodeLines passcode) := by
  apply proper_ite
  · intro hlocked
    cases passcode with
    | none => exact proper_nil
    | some p =>
      apply (asked_proper (rrl_sendable p (hsize p rfl))).append
      cases d.verdict with
      | accepts reply => exact told_proper reply.frame
      | denies reply => exact aborted_proper.append (told_proper reply.frame)
  · intro hopen
    exact proper_nil

theorem resetLogLines_proper (refused : Reply b .ang) (reset : Reply b .aex) :
    Proper (resetLogLines refused reset) := by
  apply (asked_proper (rms_proper [] (Nat.zero_le _))).append
  apply aborted_proper.append
  exact (told_proper refused.frame).append (exchanged_proper (rms_proper _ _) reset.frame)

theorem setUpLines_proper (k : Kind) (date : Bytes rtsDateLen) : Proper (d.setUpLines k date) := by
  apply (exchanged_proper rig_proper d.infoAgain.frame).append
  apply (exchanged_proper (rmg_proper k.syncType) d.syncState.frame).append
  apply (exchanged_proper rtg_proper d.lastTime.frame).append
  apply Proper.append
  · exact proper_ite (fun _ => resetLogLines_proper d.logRefused d.logReset) fun _ => proper_nil
  apply (exchanged_proper (rts_sendable date) d.timeStored.frame).append
  apply Proper.append
  · exact proper_ite (fun _ => exchanged_proper (rss_proper k.syncType) d.stateReset.frame)
      fun _ => proper_nil
  · exact exchanged_proper (rdi_proper k.syncType) d.format.frame

theorem lines_proper {passcode : Option CString} (hsize : ∀ p, passcode = some p → 0 ≤ pwSize p)
    (date : Bytes rtsDateLen) : Proper (d.lines k passcode date) := by
  have hgreet : Proper d.greetLines := by
    apply Proper.append
    · simp [Proper, Line.Proper, ray_proper]
    · exact told_proper d.greeting.frame
  apply hgreet.append
  apply Proper.append
  · exact (exchanged_proper rig_proper d.info.frame).append (passcodeLines_proper hsize)
  · exact proper_ite (fun _ => setUpLines_proper k date) fun _ => proper_nil

/-- A device that does not accept the passcode ends the conversation. -/
theorem converse_dialogue {tm : Tm} (hfresh : Fresh env) (hnone : env.params = none)
    (hk : env.syncType = k.syncType) (hsize : ∀ p, env.passcode = some p → 0 ≤ pwSize p)
    (hfits : d.Fits host) (hlocal : host.localtimeR host.time = some tm) (h : Localtime tm) :
    Dialogue b host (converse b) env (d.lines k env.passcode (dateOf h)) (d.code env.passcode)
      (d.known k env) := by
  apply dialogue_bind greet_dialogue
  simp only [ne_eq, not_true_eq_false, if_false]
  apply dialogue_bind (authorize_dialogue hfits.info hfresh.deviceInfo hsize)
  by_cases hcode : d.code env.passcode = 0
  · have hflag : k.flag (storeDeviceInfo d.info.frame.msg env) = 0 := by
      rw [← hfresh.flags k]
      cases k <;> rfl
    simp only [known, hcode, not_true_eq_false, if_true, if_false]
    have htype : (storeDeviceInfo d.info.frame.msg env).syncType = k.syncType := hk
    exact setUp_dialogue hfits htype hflag hnone hlocal h
  · simp only [known, hcode, not_false_eq_true, if_true, if_false]
    exact dialogue_pure _

end Conversation

end Device

section Connect

variable {s : State} {rest : List UInt8}

theorem openDescriptor_ok (h : s.host.answers = []) :
    openDescriptor s = (.ok (some (s.host.pick s.host.descriptors).1),
      { s with host := opened (s.host.pick s.host.descriptors).1 s.host }) := by
  have hanswer : answer s = (.ok true, s) := by simp only [answer, h]
  unfold openDescriptor
  rw [Programs.bind_ok hanswer]
  rfl

theorem answer_ok {s : State} (h : s.host.answers = []) : answer s = (.ok true, s) := by
  simp only [answer, h]

/-- A connection to the Zaurus is opened. -/
def requested (s : State) : State :=
  let req := (s.host.pick s.host.descriptors).1
  { s with host := opened req s.host, env := { s.env with reqfd := some req } }

/-- A connection from the Zaurus is opened. -/
def accepted (s : State) : State :=
  let conn := (s.host.pick s.host.descriptors).1
  { s with host := opened conn s.host, env := { s.env with connfd := some conn } }

theorem connToZaurus_ok {ip : Bytes ipStrSize} (h : s.host.answers = [])
    (hip : s.host.inetPton ip = true) : zdtmConnToZaurus ip s = (.ok 0, requested s) := by
  have hmodify : ∀ socket, modifyEnv (fun env => { env with reqfd := socket })
      { s with host := opened (s.host.pick s.host.descriptors).1 s.host } = (.ok (), { s with
        host := opened (s.host.pick s.host.descriptors).1 s.host
        env := { s.env with reqfd := socket } }) := fun socket => rfl
  have hhost : getHost (requested s) = (.ok (requested s).host, requested s) := rfl
  have hip' : (requested s).host.inetPton ip = true := hip
  unfold zdtmConnToZaurus
  rw [Programs.bind_ok (openDescriptor_ok h), Programs.bind_ok (hmodify _), if_neg (Option.some_ne_none _)]
  change (getHost >>= _) (requested s) = _
  rw [Programs.bind_ok hhost, hip', Bool.not_true, if_neg Bool.false_ne_true]
  have hanswers : (requested s).host.answers = [] := h
  rw [Programs.bind_ok (answer_ok hanswers)]
  rfl

theorem handleZaurusConn_ok (h : s.host.answers = []) :
    zdtmHandleZaurusConn s = (.ok 0, accepted s) := by
  have hmodify : ∀ socket, modifyEnv (fun env => { env with connfd := socket })
      { s with host := opened (s.host.pick s.host.descriptors).1 s.host } = (.ok (), { s with
        host := opened (s.host.pick s.host.descriptors).1 s.host
        env := { s.env with connfd := socket } }) := fun socket => rfl
  unfold zdtmHandleZaurusConn
  rw [Programs.bind_ok (openDescriptor_ok h), Programs.bind_ok (hmodify _), if_neg (Option.some_ne_none _)]
  rfl

/-- What the Zaurus is asked with on the connection to it, in the little-endian build. -/
def knock : List Io := (wireFormat DesktopType.ray.bytes []).map (.sent .reqfd)

/-- The RAY message on the connection to the Zaurus. -/
theorem knock_ok (hs : Served s rest) : ∃ sent w',
    zdtmSendMessageTo b (desktopMsg .ray {}) .reqfd s.world = .ok ((0, sent), w') ∧
      Served { s with world := w' } rest ∧ (b = .littleEndian → s.world.sends = [] →
        w'.sends = [] ∧ w'.trace = s.world.trace ++ knock) := by
  have hwrite : contentWrite b .ray {} = .ok { bytes := [] } := rfl
  have hsend := sendable_served ray_proper hwrite
  obtain ⟨sent, w', hrun, hheap, hsends, hinbox⟩ := hsend.send .reqfd hs.heap hs.sends
  have hstream : Chunked.available w'.inbox = rest := by
    rw [hinbox]
    exact hs.stream
  refine ⟨sent, w', hrun, ⟨hheap, hsends, hstream⟩, ?_⟩
  intro hb hwhole
  subst hb
  obtain ⟨hwhole', io, htrace, -, hsent⟩ := sendMessage_whole hwhole hrun
  obtain ⟨ready, heap, heap', hprepare, rfl⟩ := hsent rfl
  rw [ZdtmWireFormat.prepared_wire ray_proper hprepare rfl] at htrace
  exact ⟨hwhole', htrace⟩

/-- Both connections are opened, and the Zaurus was asked to open the second one. -/
structure Connected (b : Build) (s : State) (rest : List UInt8) (s' : State) : Prop where
  env : s'.env = (accepted (requested s)).env
  host : s'.host = (accepted (requested s)).host
  served : Served s' rest
  events : s'.events = s.events
  trace : b = .littleEndian → s.world.sends = [] →
    s'.world.sends = [] ∧ s'.world.trace = s.world.trace ++ knock

theorem connect_ok {ip : Bytes ipStrSize} (h : s.host.answers = [])
    (hip : s.host.inetPton ip = true) (hs : Served s rest) :
    ∃ s', zdtmConnect b ip s = (.ok 0, s') ∧ Connected b s rest s' := by
  have hs' : Served (requested s) rest := ⟨hs.heap, hs.sends, hs.stream⟩
  obtain ⟨sent, w', hsend, hserved, htrace⟩ := knock_ok (b := b) hs'
  let s₁ : State := { requested s with world := w' }
  have hsys : sys (zdtmSendMessageTo b (desktopMsg .ray {}) .reqfd) (requested s) =
      (.ok (0, sent), s₁) := by simp only [sys, hsend, s₁]
  have hs₁ : s₁.host.answers = [] := h
  have hrun : zdtmConnect b ip s = (.ok 0, accepted s₁) := by
    unfold zdtmConnect
    rw [Programs.bind_ok (connToZaurus_ok h hip), if_neg (not_not_intro rfl), Programs.bind_ok hsys]
    change (if (0 : Int) ≠ 0 then _ else _ : Session Int) s₁ = _
    rw [if_neg (not_not_intro rfl), Programs.bind_ok (handleZaurusConn_ok hs₁)]
    rfl
  exact ⟨_, hrun, rfl, rfl, ⟨hserved.heap, hserved.sends, hserved.stream⟩, rfl, htrace⟩

end Connect

section Whole

variable {s s₁ s' : State} {rest : List UInt8} {lines : List (Line b)}

/-- What was said behind the connection, and sent over both sockets. -/
theorem Connected.crossed (hconnected : Connected b s rest s₁) (hproper : Proper lines)
    (htraffic : Traffic b s₁ (lines.map Line.call) s') :
    callsSince s s' = lines.map Line.call ∧ (b = .littleEndian → s.world.sends = [] → ∃ io,
      s'.world.trace = s.world.trace ++ (knock ++ io) ∧ bytesSent io = said lines) := by
  constructor
  · have hcalls : callsSince s s' = callsSince s₁ s' := by
      rw [callsSince, callsSince, hconnected.events]
    exact hcalls.trans (traffic_callsSince htraffic)
  · intro hb hwhole
    subst hb
    obtain ⟨hwhole₁, htrace₁⟩ := hconnected.trace rfl hwhole
    obtain ⟨-, io, htrace, hsaid⟩ := traffic_said hproper htraffic hwhole₁
    refine ⟨io, ?_, hsaid⟩
    rw [htrace, htrace₁, List.append_assoc]

/-- The Zaurus is found, and the clock of the host is set. -/
structure Reachable (s : State) (tm : Tm) : Prop where
  ip : s.env.zaurusIp ≠ zeros ipStrSize
  found : s.host.inetPton s.env.zaurusIp = true
  answers : s.host.answers = []
  time : s.host.localtimeR s.host.time = some tm

theorem initiateSync_connected {d : Device b} {k : Kind} {tm : Tm} (hfresh : Fresh s.env)
    (hnone : s.env.params = none) (hk : s.env.syncType = k.syncType)
    (hsize : ∀ p, s.env.passcode = some p → 0 ≤ pwSize p) (hreach : Reachable s tm)
    (h : Localtime tm) (hfits : d.Fits s.host)
    (hs : Served s (heard (d.lines k s.env.passcode (dateOf h)) ++ rest)) :
    ∃ s₁ s', zdtmInitiateSync b s = (.ok (d.code s.env.passcode), s') ∧
      Connected b s (heard (d.lines k s.env.passcode (dateOf h)) ++ rest) s₁ ∧
      s'.env = d.known k (accepted (requested s)).env ∧ s'.host = s₁.host ∧ Served s' rest ∧
      Traffic b s₁ ((d.lines k s.env.passcode (dateOf h)).map Line.call) s' := by
  have htype : s.env.syncType ≠ 0x00 := by
    rw [hk]
    cases k <;> decide
  obtain ⟨s₁, hconnect, hconnected⟩ := connect_ok (b := b) hreach.answers hreach.found hs
  have hfits₁ : d.Fits s₁.host := by
    rw [hconnected.host]
    exact ⟨hfits.info, hfits.infoAgain, hfits.format, hfits.lastTime⟩
  have hlocal₁ : s₁.host.localtimeR s₁.host.time = some tm := by
    rw [hconnected.host]
    exact hreach.time
  have hfresh₁ : Fresh (accepted (requested s)).env := ⟨hfresh.deviceInfo, hfresh.flags⟩
  have htype₁ : (accepted (requested s)).env.syncType = k.syncType := hk
  have hdialogue := Device.converse_dialogue hfresh₁ hnone htype₁ hsize hfits₁ hlocal₁ h
  have hrun : zdtmInitiateSync b s = converse b s₁ := by
    change (if s.env.syncType = 0x00 then _ else _ : Session Int) s = _
    rw [if_neg htype, if_neg hreach.ip, Programs.bind_ok hconnect, if_neg (not_not_intro rfl)]
    rfl
  have hlead := hdialogue.run s₁ rest hconnected.env rfl hconnected.served
  cases hconverse : converse b s₁ with
  | mk r s' =>
    obtain ⟨rfl, hrest⟩ := hlead.of_eq hconverse
    exact ⟨s₁, s', hrun.trans hconverse, hconnected, hrest⟩

/-- From a fresh environment, a device that is found and fits gets the whole
conversation: the code, the calls, what is left of its stream, what the environment
knows of it, and, for a kernel that takes whole messages, the bytes. -/
theorem initiateSync_served (d : Device b) (k : Kind) {s : State} {rest : List UInt8} {tm : Tm}
    (hfresh : Fresh s.env) (hnone : s.env.params = none) (hk : s.env.syncType = k.syncType)
    (hsize : ∀ p, s.env.passcode = some p → 0 ≤ pwSize p) (hreach : Reachable s tm)
    (h : Localtime tm) (hfits : d.Fits s.host)
    (hs : Served s (heard (d.lines k s.env.passcode (dateOf h)) ++ rest)) :
    ∃ s', zdtmInitiateSync b s = (.ok (d.code s.env.passcode), s') ∧
      callsSince s s' = (d.lines k s.env.passcode (dateOf h)).map Line.call ∧
      s'.env = d.known k (accepted (requested s)).env ∧
      Chunked.available s'.world.inbox = rest ∧
      (b = .littleEndian → s.world.sends = [] → ∃ io,
        s'.world.trace = s.world.trace ++ (knock ++ io) ∧
        bytesSent io = said (d.lines k s.env.passcode (dateOf h))) := by
  obtain ⟨s₁, s', hrun, hconnected, henv, -, hserved, htraffic⟩ :=
    initiateSync_connected hfresh hnone hk hsize hreach h hfits hs
  obtain ⟨hcalls, hbytes⟩ := hconnected.crossed (d.lines_proper hsize (dateOf h)) htraffic
  exact ⟨s', hrun, hcalls, henv, hserved.stream, hbytes⟩

end Whole

section Locked

variable {z : ZaurusType}

theorem nothing_fits : msgTypeSize + ([] : List UInt8).length < 65536 := by decide

/-- An AEX message. -/
def doneReply : Reply .littleEndian .aex := replyWith [] nothing_fits trivial

/-- A model of one character, and the authorization state that asks for a passcode. -/
def lockedInfo : List UInt8 := [1, 0, 0x5a] ++ List.replicate 7 0 ++ [0x0b] ++ List.replicate 6 0

theorem lockedInfo_fits : msgTypeSize + lockedInfo.length < 65536 := by decide

theorem lockedInfo_holds : HoldsItsFields .littleEndian .aig lockedInfo :=
  show 16 + LittleEndian.value (lockedInfo.take 2) ≤ lockedInfo.length by decide

theorem adiContent_fits : msgTypeSize + adiContent.length < 65536 := by decide

theorem adiContent_holds : HoldsItsFields .littleEndian .adi adiContent :=
  ⟨by decide, by decide, trivial⟩

def greetingContent : List UInt8 := [0, 0, 0]

theorem greeting_fits : msgTypeSize + greetingContent.length < 65536 := by decide

theorem greeting_holds : HoldsItsFields .littleEndian .aay greetingContent := Nat.le_refl 3

/-- The state of a device for which all kinds are new. -/
def newState : List UInt8 := List.replicate 49 0

theorem newState_fits : msgTypeSize + newState.length < 65536 := by decide

theorem newState_holds : HoldsItsFields .littleEndian .amg newState := Nat.le_refl 49

def zeroTime : List UInt8 := List.replicate 14 0x30

theorem zeroTime_fits : msgTypeSize + zeroTime.length < 65536 := by decide

theorem zeroTime_holds : HoldsItsFields .littleEndian .atg zeroTime := Nat.le_refl 14

def refusal : List UInt8 := [0]

theorem refusal_fits : msgTypeSize + refusal.length < 65536 := by decide

theorem refusal_holds : HoldsItsFields .littleEndian .ang refusal := Nat.le_refl 1

/-- A device that accepts the passcode, and was never synchronized. -/
def lockedDevice : Device .littleEndian where
  greeting := replyWith greetingContent greeting_fits greeting_holds
  info := replyWith lockedInfo lockedInfo_fits lockedInfo_holds
  verdict := .accepts doneReply
  infoAgain := replyWith lockedInfo lockedInfo_fits lockedInfo_holds
  syncState := replyWith newState newState_fits newState_holds
  lastTime := replyWith zeroTime zeroTime_fits zeroTime_holds
  logRefused := replyWith refusal refusal_fits refusal_holds
  logReset := doneReply
  timeStored := doneReply
  stateReset := doneReply
  format := replyWith adiContent adiContent_fits adiContent_holds

def secret : CString := ⟨[0x31, 0x32], by decide⟩

theorem secret_size : 0 ≤ pwSize secret := by decide

/-- The first of January 2000. -/
def newYear : Tm := ⟨0, 0, 0, 1, 0, 100, 0⟩

theorem newYear_localtime : Localtime newYear := by
  constructor <;> decide

def lockedLines : List (Line .littleEndian) :=
  lockedDevice.lines .todo (some secret) (dateOf newYear_localtime)

theorem lockedLines_ne : heard lockedLines ≠ [] := by
  simp [lockedLines, Device.lines, Device.greetLines, heard, Line.heard, Item.bytes,
    CommonMsg.bytes]

def lockedState : State :=
  { deviceState (heard lockedLines) lockedLines_ne with
    env := {
      syncType := syncTypeTodo
      zaurusIp := ⟨[0x31, 0x30] ++ List.replicate 14 0, rfl⟩
      passcode := some secret } }

theorem lockedDevice_fits : lockedDevice.Fits lockedState.host where
  info := by decide +kernel
  infoAgain := by decide +kernel
  format := by decide +kernel
  lastTime := show (0 : Int) ≠ -1 by decide

/-- The longest script: the passcode is asked for, and log and state are reset. -/
theorem initiateSync_served_locked : ∃ s',
    zdtmInitiateSync .littleEndian lockedState = (.ok 0, s') ∧
      sent (callsSince lockedState s') = (script true true).map DesktopType.bytes ∧
      s'.env.todoSlowSyncRequired = 1 ∧
      Chunked.available s'.world.inbox = [] := by
  have hserved : Served lockedState (heard lockedLines ++ []) := by
    rw [List.append_nil]
    exact ⟨Heap.filled_unlimited 0, List.not_mem_nil, by simp [lockedState, deviceState]⟩
  obtain ⟨s', hrun, hcalls, henv, hrest, -⟩ := initiateSync_served lockedDevice .todo
    (s := lockedState) ⟨rfl, fun k => by cases k <;> rfl⟩ rfl rfl
    (fun p hp => by cases hp; exact secret_size) ⟨by decide, rfl, rfl, rfl⟩ newYear_localtime
    lockedDevice_fits hserved
  have hcode : lockedDevice.code (some secret) = 0 := by decide +kernel
  have hcode' : lockedDevice.code lockedState.env.passcode = 0 := hcode
  rw [hcode'] at hrun
  refine ⟨s', hrun, ?_, ?_, hrest⟩
  · rw [hcalls]
    decide +kernel
  · rw [henv]
    decide +kernel

end Locked

end ZdtmSynchronized
