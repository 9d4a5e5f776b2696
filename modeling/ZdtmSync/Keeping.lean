import ZdtmSync.Knowledge

/-!
# What every call keeps

From the primitives to the operations of the protocol, the functions of the library,
and the calls of an application in any order: what is known before a run is known
behind it, or somebody is to blame for its fault.
-/

namespace ZdtmKeeping

open ByteCodec CMemory Programs Triples Records ZdtmTypes ZdtmZaurusMsg ZdtmNet ZdtmFraming
  ZdtmReceiving ZdtmItems ZdtmFixedFields ZdtmSession ZdtmProto ZdtmConnections ZdtmSync
  ZdtmOperations ZdtmAtomic ZdtmScript ZdtmStrings ZdtmSending ZdtmPasscodes ZdtmAnchor ZdtmSyncIds
  ZdtmSynchronized ZdtmFetches ZdtmRecitals ZdtmApi ZdtmKnowledge

variable {b : Build}

variable {K : Knowledge b} {J : Env → Prop}

/-- What leaves the environment alone leaves it as it was read. -/
theorem reads_env {α : Type} {x : Session α} {env : Env} {after : α → State → Prop}
    (h : Triple (Knows K fun e => J e ∧ e = env) x after (Blamed K fun e => J e ∧ e = env)) :
    Triple (fun s => Knows K J s ∧ s.env = env) x after (Blamed K J) := by
  apply (h.pre fun s hs => ⟨hs.1.home, hs.1.world, hs.1.env, hs.2⟩).blames
  intro e s hblamed
  exact ⟨⟨hblamed.knows.home, hblamed.knows.world, hblamed.knows.env.1⟩, hblamed.cause⟩

/-- What is asked of the device only if it is not known yet. -/
theorem unlessKnown_keeps {x : Session Int} {f : Int → Session Int} (known : Env → Int)
    (hx : Keeps (Knows K J) x (Blamed K J)) (hf : ∀ r, Keeps (Knows K J) (f r) (Blamed K J)) :
    Keeps (Knows K J) (do
      let env ← getEnv
      let r ← if known env = 0 then x else pure 0
      f r) (Blamed K J) := by
  apply keeps_view State.env
  intro env
  apply triple_ite
  · exact fun _ => keeps_bind hx hf
  · exact fun _ => keeps_bind (keeps_pure _) hf

theorem noOutput_keeps {x : Session Int} (h : Keeps (Knows K J) x (Blamed K J)) :
    Keeps (Knows K J) (noOutput x) (Blamed K J) := keeps_bind h fun _ => keeps_pure _

theorem stateSyncDone_keeps (hdone : K.allows .rds) :
    Keeps (Knows K J) (zdtmStateSyncDone b) (Blamed K J) := by
  apply keeps_view State.env
  intro env
  apply exchange_keeps (rds_proper env.syncType) hdone
  intro r
  cases r with
  | error code => exact keeps_pure _
  | ok m => exact keeps_pure _

theorem closeLog_keeps : Keeps (Knows K J) zdtmCloseLog (Blamed K J) := by
  apply keeps_view State.env
  intro env
  apply triple_ite (fun _ => keeps_pure _)
  intro _
  apply keeps_bind (closeDescriptor_keeps _)
  intro closed
  exact triple_ite (fun _ => keeps_pure _) fun _ => keeps_pure _

theorem finalize_keeps : Keeps (Knows K J) zdtmFinalize (Blamed K J) := by
  apply keeps_guard (closes_keeps Env.listenfd)
  exact keeps_guard closeLog_keeps (keeps_pure _)

/-- The parameter format and the connection are the same. -/
structure SameFormat (env env' : Env) : Prop where
  num : env'.numParams = env.numParams
  params : env'.params = env.params
  conn : env'.connfd = env.connfd

/-- A property of the parameter format and of the connection. As long as there is no
format, the one of a message that is received may be stored. -/
class OfFormat (K : Knowledge b) (J : Env → Prop) : Prop where
  same : ∀ env env' : Env, SameFormat env env' → J env → J env'
  stored : ∀ env f, K.genuine f → f.type = .adi → env.params = none → J env →
    J { env with numParams := f.cont.adi.numParams, params := f.cont.adi.params }

/-- Nothing is known of the parameter format. -/
def AnyFormat (_ : Env) : Prop := True

instance anyFormat (K : Knowledge b) : OfFormat K AnyFormat where
  same _ _ _ _ := trivial
  stored _ _ _ _ _ _ := trivial

section Host

variable [OfFormat K J]

/-- A variable other than those of the parameter format and the connection. -/
theorem store_keeps {α : Type} {g : Env → Env} {f : Unit → Session α}
    (hg : ∀ env, SameFormat env (g env)) (hf : Keeps (Knows K J) (f ()) (Blamed K J)) :
    Keeps (Knows K J) (modifyEnv g >>= f) (Blamed K J) := by
  apply keeps_bind (modifyEnv_keeps _) fun _ => hf
  intro env henv
  exact OfFormat.same K env _ (hg env) henv

theorem openLog_keeps (hgiven : K.given .initializeEnv) :
    Keeps (Knows K J) zdtmOpenLog (Blamed K J) := by
  apply triple_view State.host
  intro host
  cases hhome : host.home with
  | none => exact (keeps_pure _).pre fun s hs => hs.1
  | some home =>
    apply triple_ite
    · intro hlong
      constructor
      intro s hs
      obtain ⟨hknows, rfl⟩ := hs
      exact ⟨hknows, Or.inl ⟨_, hgiven, .home ⟨home, hknows.home.symm.trans hhome, hlong⟩⟩⟩
    intro _
    have hopens : Keeps (Knows K J) (do
        let logfp ← openDescriptor
        modifyEnv fun env => { env with logfp }
        if logfp = none then return -3
        return 0 : Session Int) (Blamed K J) := by
      apply keeps_bind openDescriptor_keeps
      intro logfp
      apply store_keeps
      · exact fun _ => ⟨rfl, rfl, rfl⟩
      exact triple_ite (fun _ => keeps_pure _) fun _ => keeps_pure _
    apply triple_ite
    · exact fun _ => (keeps_pure _).pre fun s hs => hs.1
    · exact fun _ => hopens.pre fun s hs => hs.1

theorem listen_keeps : Keeps (Knows K J) zdtmListenForZaurus (Blamed K J) := by
  apply keeps_bind openDescriptor_keeps
  intro listenfd
  apply store_keeps
  · exact fun _ => ⟨rfl, rfl, rfl⟩
  apply triple_ite (fun _ => keeps_pure _)
  intro _
  apply keeps_bind answer_keeps
  intro success
  apply triple_ite (fun _ => keeps_pure _)
  intro _
  apply keeps_bind answer_keeps
  intro success
  apply triple_ite (fun _ => keeps_pure _)
  intro _
  apply keeps_bind answer_keeps
  intro success
  exact triple_ite (fun _ => keeps_pure _) fun _ => keeps_pure _

theorem initialize_keeps (hgiven : K.given .initializeEnv)
    (h : ∀ env, J env → J (initialEnv env)) :
    Keeps (Knows K J) zdtmInitialize (Blamed K J) := by
  apply keeps_guard (openLog_keeps hgiven)
  apply keeps_bind (modifyEnv_keeps h)
  intro _
  exact keeps_guard listen_keeps (keeps_pure _)

theorem setter_keeps (setter : Setter) (hgiven : K.given (.set setter)) :
    Keeps (Knows K J) setter.run (Blamed K J) := by
  cases setter with
  | setZaurusIp ipAddr =>
    apply triple_lift
    · intro zaurusIp _
      exact store_keeps (fun _ => ⟨rfl, rfl, rfl⟩) (keeps_pure _)
    · intro e he s hs
      obtain ⟨rfl, hshort⟩ := copyBytes_error he
      exact ⟨hs, Or.inl ⟨_, hgiven, .address hshort⟩⟩
  | setSyncType type => exact store_keeps (fun _ => ⟨rfl, rfl, rfl⟩) (keeps_pure _)
  | setPasscode passcode =>
    apply keeps_bind (allocate_keeps _)
    intro block
    cases block with
    | none => exact store_keeps (fun _ => ⟨rfl, rfl, rfl⟩) (keeps_pure _)
    | some block => exact store_keeps (fun _ => ⟨rfl, rfl, rfl⟩) (keeps_pure _)

theorem connect_keeps (hconn : ∀ env connfd, J env → J { env with connfd })
    (ipAddr : Bytes ipStrSize) : Keeps (Knows K J) (zdtmConnect b ipAddr) (Blamed K J) := by
  apply keeps_guard
  · apply keeps_bind openDescriptor_keeps
    intro reqfd
    apply store_keeps
    · exact fun _ => ⟨rfl, rfl, rfl⟩
    apply triple_ite (fun _ => keeps_pure _)
    intro _
    apply keeps_view State.host
    intro host
    apply triple_ite (fun _ => keeps_pure _)
    intro _
    apply keeps_bind answer_keeps
    intro success
    exact triple_ite (fun _ => keeps_pure _) fun _ => keeps_pure _
  apply keeps_bind (request_keeps ray_proper)
  intro r
  apply triple_ite (fun _ => keeps_pure _)
  intro _
  apply keeps_guard
  · apply keeps_bind openDescriptor_keeps
    intro connfd
    apply keeps_bind (modifyEnv_keeps fun env => hconn env connfd)
    intro _
    exact triple_ite (fun _ => keeps_pure _) fun _ => keeps_pure _
  exact keeps_pure _

end Host

section Operations

variable [Speaks K]

theorem authenticate_keeps (passcode : CString) :
    Keeps (Knows K J) (zdtmAuthenticatePasscode b passcode) (Blamed K J) := by
  rcases Int.lt_or_le (pwSize passcode) 0 with hneg | hsize
  · have hrun : zdtmAuthenticatePasscode b passcode = pure (-1) := by
      unfold zdtmAuthenticatePasscode
      rw [allocateInt, if_pos hneg]
      rfl
    rw [hrun]
    exact keeps_pure _
  · unfold zdtmAuthenticatePasscode
    rw [allocateInt, if_neg (Int.not_lt.mpr hsize)]
    apply keeps_bind (allocate_keeps _)
    intro block
    cases block with
    | none => exact keeps_pure _
    | some block =>
      apply keeps_guard (wrappedSend_keeps (rrl_sendable passcode hsize) (Speaks.allows _ (by decide)))
      apply keeps_bind wrappedRecv_keeps
      intro r
      apply triple_ite
      · intro _
        apply keeps_bind wrappedRecv_keeps
        intro r
        apply triple_ite (fun _ => keeps_pure _)
        intro _
        apply triple_ite
        · exact fun _ => keeps_pure _
        · exact fun _ => keeps_pure _
      · intro _
        apply triple_ite (fun _ => keeps_pure _)
        intro _
        apply triple_ite
        · exact fun _ => keeps_pure _
        · exact fun _ => keeps_pure _

theorem lastTime_keeps (pTime : Int) :
    Keeps (Knows K J) (zdtmObtainLastTimeSynced b pTime) (Blamed K J) := by
  apply exchange_keeps rtg_proper (Speaks.allows _ (by decide))
  intro r
  cases r with
  | error code => exact keeps_pure _
  | ok m =>
    apply keeps_view State.host
    intro host
    exact triple_ite (fun _ => keeps_pure _) fun _ => keeps_pure _

theorem le_length_decimal (width : Nat) (n : Int) : width ≤ (decimal width n).length := by
  simp only [decimal, List.length_append, List.length_leftpad]
  omega

/-- At least fourteen characters, also for a date that no clock shows. -/
theorem formatTime_long (tm : Tm) : rtsDateLen ≤ (formatTime tm).length := by
  have hyear := le_length_decimal 4 (tm.tmYear + 1900)
  have hmon := le_length_decimal 2 (tm.tmMon + 1)
  have hmday := le_length_decimal 2 tm.tmMday
  have hhour := le_length_decimal 2 tm.tmHour
  have hmin := le_length_decimal 2 tm.tmMin
  have hsec := le_length_decimal 2 tm.tmSec
  change 14 ≤ _
  simp only [formatTime, List.length_append]
  omega

theorem storeTime_keeps (timeSynced : Int) :
    Keeps (Knows K J) (zdtmSetLastTimeSynced b timeSynced) (Blamed K J) := by
  apply keeps_view State.host
  intro host
  cases host.localtimeR timeSynced with
  | none => exact keeps_pure _
  | some tm =>
    apply triple_lift
    · intro date hdate
      apply exchange_keeps (rts_sendable date) (Speaks.allows _ (by decide))
      intro r
      cases r with
      | error code => exact keeps_pure _
      | ok m => exact keeps_pure _
    · intro e he
      rw [copyBytes, dif_pos (formatTime_long tm)] at he
      cases he

theorem resetLog_keeps : Keeps (Knows K J) (zdtmResetSyncLog b) (Blamed K J) := by
  apply keeps_guard (wrappedSend_keeps (rms_proper [] (Nat.zero_le _)) (Speaks.allows _ (by decide)))
  apply keeps_bind wrappedRecv_keeps
  intro r
  apply triple_ite (fun _ => keeps_pure _)
  intro _
  apply keeps_bind wrappedRecv_keeps
  intro r
  apply triple_ite (fun _ => keeps_pure _)
  intro _
  apply triple_ite (fun _ => keeps_pure _)
  intro _
  apply exchange_keeps (rms_proper _ _) (Speaks.allows _ (by decide))
  intro r
  cases r with
  | error code => exact keeps_pure _
  | ok m => exact keeps_pure _

/-- An item that is obtained is the one of the last message. -/
theorem item_triple (syncId : UInt32) (item : ItemParams) :
    Triple (Knows K J) (zdtmObtainItem b syncId item)
      (fun r s => Knows K J s ∧ (r.1 = 0 → ∃ f, K.genuine f ∧ Latest s f.msg ∧
        ∃ htype : f.type = .adr, itemParams r.2 = paramsIn ⟨f, htype⟩)) (Blamed K J) := by
  apply triple_view State.env
  intro env
  apply triple_bind ((exchange_triple (rdr_proper env.syncType syncId)
    (Speaks.allows _ (by decide)) _ _ _ _).pre fun s hs => hs.1)
  intro r
  cases r with
  | error code =>
    apply triple_pure
    intro s hs
    obtain ⟨hknows, hcode⟩ := hs
    refine ⟨hknows, ?_⟩
    rintro rfl
    simp [Replied] at hcode
  | ok m =>
    apply triple_pure
    intro s hs
    obtain ⟨hknows, f, hf, htype, rfl, hlatest⟩ := hs
    exact ⟨hknows, fun _ => ⟨f, hf, hlatest, htype, rfl⟩⟩

theorem syncIdLists_keeps (lists : SyncIdLists) :
    Keeps (Knows K J) (zdtmObtainSyncIdLists b lists) (Blamed K J) := by
  apply keeps_view State.env
  intro env
  apply triple_bind (exchange_triple (rsy_sendable env.syncType)
    (Speaks.allows _ (by decide)) _ _ _ _)
  intro r
  cases r with
  | error code => exact (keeps_pure _).pre fun s hs => hs.1
  | ok m =>
    constructor
    intro s hs
    obtain ⟨hknows, f, -, htype, rfl, -⟩ := hs
    have hcopies : Keeps (Knows K J) (do
        let newBlock ← allocate (4 * f.msg.body.cont.asy.numNewSyncIds.toNat)
        if newBlock = none then return (-4, lists)
        let modBlock ← allocate (4 * f.msg.body.cont.asy.numModSyncIds.toNat)
        if modBlock = none then return (-4, lists)
        let delBlock ← allocate (4 * f.msg.body.cont.asy.numDelSyncIds.toNat)
        if delBlock = none then return (-4, lists)
        let lists ← Program.lift (copyLists f.msg.body.cont.asy)
        return (0, lists) : Session (Int × SyncIdLists)) (Blamed K J) := by
      apply keeps_bind (allocate_keeps _)
      intro newBlock
      apply triple_ite (fun _ => keeps_pure _)
      intro _
      apply keeps_bind (allocate_keeps _)
      intro modBlock
      apply triple_ite (fun _ => keeps_pure _)
      intro _
      apply keeps_bind (allocate_keeps _)
      intro delBlock
      apply triple_ite (fun _ => keeps_pure _)
      intro _
      apply triple_lift
      · exact fun _ _ => keeps_pure _
      · intro e he
        cases (copyLists_frame htype).symm.trans he
    exact hcopies.run s hknows

theorem rdd_proper (syncType : UInt8) (syncId : UInt32) :
    ZdtmWireFormat.Sendable .rdd (desktopMsg .rdd (rddContent syncType syncId)) :=
  desktop_sendable (by decide) (by decide) (by decide) trivial

theorem deleteItem_keeps (syncId : UInt32) :
    Keeps (Knows K J) (zdtmDeleteItem b syncId) (Blamed K J) := by
  apply keeps_view State.env
  intro env
  apply exchange_keeps (rdd_proper env.syncType syncId) (Speaks.allows _ (by decide))
  intro r
  cases r with
  | error code => exact keeps_pure _
  | ok m => exact keeps_pure _

theorem greet_keeps : Keeps (Knows K J) (greet b) (Blamed K J) := by
  apply keeps_guard (send_keeps ray_proper (Speaks.allows _ (by decide)))
  apply keeps_bind recv_keeps
  intro r
  apply triple_ite
  · exact fun _ => triple_ite (fun _ => keeps_pure _) fun _ => keeps_pure _
  intro _
  apply keeps_bind wrappedRecv_keeps
  intro r
  apply triple_ite (fun _ => keeps_pure _)
  intro _
  exact triple_ite (fun _ => keeps_pure _) fun _ => keeps_pure _

theorem terminateSync_keeps : Keeps (Knows K J) (zdtmTerminateSync b) (Blamed K J) := by
  apply keeps_guard (wrappedSend_keeps rqt_proper (Speaks.allows _ (by decide)))
  apply keeps_bind wrappedRecv_keeps
  intro r
  apply triple_ite (fun _ => keeps_pure _)
  intro _
  apply keeps_bind recv_keeps
  intro r
  apply triple_ite (fun _ => keeps_pure _)
  intro _
  apply keeps_guard (send_keeps ray_proper (Speaks.allows _ (by decide)))
  apply keeps_guard
  · exact keeps_guard (closes_keeps Env.reqfd) (keeps_pure _)
  · exact keeps_pure _

end Operations

section Items

variable [Speaks K]

variable {I F : Type} {P : Parser I F}

theorem refills_parse (fmt : List AdiMsgParam) (params : List AdrMsgParam) (item : I) :
    Refills (P.parse b fmt params item) :=
  refills_ite (refills_pure _) (refills_assignAll (P.layout b) _ item)

/-- The parser of an item faults only over a parameter that is too long. -/
theorem parse_overlong {fmt : List AdiMsgParam} {params : List AdrMsgParam} {item : I}
    {heap : Heap} {e : Fault} (hread : Readable params)
    (h : P.parse b fmt params item heap = .error e) :
    e = .overrun ∧ ¬ ParamsFit P fmt params := by
  unfold Parser.parse at h
  split at h
  · cases h
  · obtain ⟨he, a, ha, hlong⟩ :=
      assignAll_faults (assignments_readable P fmt params hread) (P.layout b) item h
    refine ⟨he, ?_⟩
    rw [paramsFit_iff]
    exact fun hfit => hlong (hfit a ha)

theorem parsedItem_keeps {syncType : UInt8}
    (hkind : ∀ env params, env.syncType = syncType → ItemFits env params →
      ParamsFit P (paramFormat env) params) (syncId : UInt32) (item : I) :
    Keeps (Knows K J) (obtainParsedItem b syncType (P.parse b) syncId item) (Blamed K J) := by
  apply triple_view State.env
  intro env
  by_cases htype : env.syncType = syncType
  · rw [if_neg (not_not_intro htype)]
    -- the environment stays as it is up to the parser
    apply triple_bind (reads_env (item_triple syncId {}))
    intro r
    apply triple_ite
    · intro _
      apply triple_pure
      exact fun s hs => ⟨hs.1.home, hs.1.world, hs.1.env.1⟩
    intro hr
    refine triple_bind (?_ : Triple _ _ (fun _ => Knows K J) _) ?_
    · apply triple_sys
      · intro s r w' hs hrun
        obtain ⟨⟨hhome, hworld, hJ, -⟩, -⟩ := hs
        obtain ⟨heap, hparse, rfl⟩ := mem_inv hrun
        exact ⟨hhome, K.allocated hworld fun hu => refills_parse _ _ _ _ _ heap hu hparse, hJ⟩
      · intro s e hs hrun
        obtain ⟨⟨hhome, hworld, hJ, henv⟩, hgenuine⟩ := hs
        obtain ⟨f, hf, hlatest, hadr, hparams⟩ := hgenuine (Decidable.not_not.mp hr)
        rw [hparams] at hrun
        obtain ⟨rfl, hlong⟩ := parse_overlong (paramsIn_readable ⟨f, hadr⟩) (mem_error hrun)
        subst henv
        exact ⟨⟨hhome, hworld, hJ⟩, f, hf, hlatest,
          .item hadr fun hfit => hlong (hkind _ _ htype hfit)⟩
    · intro r
      exact triple_ite (fun _ => keeps_pure _) fun _ => keeps_pure _
  · rw [if_pos htype]
    exact (keeps_pure _).pre fun s hs => hs.1

theorem todoItem_keeps (syncId : UInt32) (item : TodoItem) :
    Keeps (Knows K J) (zdtmObtainTodoItem b syncId item) (Blamed K J) :=
  parsedItem_keeps (P := todoParser) (fun _ _ htype hfit => hfit.1 htype) syncId item

theorem calendarItem_keeps (syncId : UInt32) (item : CalendarItem) :
    Keeps (Knows K J) (zdtmObtainCalendarItem b syncId item) (Blamed K J) :=
  parsedItem_keeps (P := calendarParser) (fun _ _ htype hfit => hfit.2.1 htype) syncId item

theorem addressItem_keeps (syncId : UInt32) (item : AddressItem) :
    Keeps (Knows K J) (zdtmObtainAddressItem b syncId item) (Blamed K J) :=
  parsedItem_keeps (P := addressParser) (fun _ _ htype hfit => hfit.2.2 htype) syncId item

end Items

section Stores

variable [Speaks K] [OfFormat K J]

theorem deviceInfo_keeps : Keeps (Knows K J) (zdtmObtainDeviceInfo b) (Blamed K J) := by
  apply triple_bind (exchange_triple rig_proper (Speaks.allows _ (by decide)) _ _ _ _)
  intro r
  cases r with
  | error code => exact (keeps_pure code).pre fun s hs => hs.1
  | ok m =>
    constructor
    intro s hs
    obtain ⟨hknows, hreply⟩ := hs
    obtain ⟨f, hf, htype, rfl, hlatest⟩ := hreply
    apply leads_getEnv
    by_cases hlong : 256 ≤ f.cont.aig.modelStrLen.toNat
    · have hcopy := copyString_overruns s.env.model (frame_model htype) hlong
      refine (triple_lift ?_ ?_ : Triple (fun s' => s' = s) _ _ _).run s rfl
      · intro model hmodel
        cases hcopy.symm.trans hmodel
      · intro e he s' hs'
        cases hcopy.symm.trans he
        subst hs'
        exact ⟨hknows, f, hf, hlatest, .model htype hlong⟩
    · obtain ⟨model, hcopy⟩ :=
        copyString_fits s.env.model (frame_model htype) (Nat.lt_of_not_le hlong)
      refine (triple_lift ?_ ?_ : Keeps (Knows K J) _ _).run s hknows
      · intro model' hmodel
        exact store_keeps (fun _ => ⟨rfl, rfl, rfl⟩) (keeps_pure _)
      · intro e he
        cases hcopy.symm.trans he

theorem syncState_keeps : Keeps (Knows K J) (zdtmObtainSyncState b) (Blamed K J) := by
  apply keeps_view State.env
  intro env
  apply exchange_keeps (rmg_proper env.syncType) (Speaks.allows _ (by decide))
  intro r
  cases r with
  | error code => exact keeps_pure _
  | ok m => exact store_keeps (fun _ => ⟨rfl, rfl, rfl⟩) (keeps_pure _)

theorem resetFlags_format (env : Env) : SameFormat env (resetFlags env) := by
  unfold resetFlags
  split
  · exact ⟨rfl, rfl, rfl⟩
  · split
    · exact ⟨rfl, rfl, rfl⟩
    · exact ⟨rfl, rfl, rfl⟩

theorem resetState_keeps : Keeps (Knows K J) (zdtmResetSyncState b) (Blamed K J) := by
  apply keeps_view State.env
  intro env
  apply exchange_keeps (rss_proper env.syncType) (Speaks.allows _ (by decide))
  intro r
  cases r with
  | error code => exact keeps_pure _
  | ok m =>
    exact store_keeps resetFlags_format (keeps_pure _)

/-- A format that is obtained is the one of the last message. -/
theorem paramFormat_triple : Triple (Knows K J) (zdtmObtainParamFormat b)
    (fun r s => Knows K J s ∧ (r = 0 → ∃ f, K.genuine f ∧ f.type = .adi ∧ Latest s f.msg ∧
      s.env.numParams = f.cont.adi.numParams ∧ s.env.params = f.cont.adi.params)) (Blamed K J) := by
  apply triple_view State.env
  intro env
  apply triple_ite
  · intro _
    apply triple_pure
    exact fun s hs => ⟨hs.1, nofun⟩
  intro hsome
  have hnone : env.params = none := Decidable.not_not.mp hsome
  -- the exchange leaves the environment as it was read
  apply triple_bind (reads_env (exchange_triple (rdi_proper env.syncType)
    (Speaks.allows _ (by decide)) _ _ _ _))
  intro r
  cases r with
  | error code =>
    apply triple_pure
    intro s hs
    obtain ⟨hknows, hcode⟩ := hs
    refine ⟨⟨hknows.home, hknows.world, hknows.env.1⟩, ?_⟩
    rintro rfl
    simp [Replied] at hcode
  | ok m =>
    constructor
    intro s hs
    obtain ⟨hknows, f, hf, htype, rfl, hlatest⟩ := hs
    obtain ⟨hJ, rfl⟩ := hknows.env
    have hstored := OfFormat.stored s.env f hf htype hnone hJ
    exact ⟨⟨hknows.home, hknows.world, hstored⟩, fun _ => ⟨f, hf, htype, hlatest, rfl, rfl⟩⟩

theorem call_keeps (hdone : K.allows .rds) (op : Operation) :
    Keeps (Knows K J) (call b op) (Blamed K J) := by
  cases op with
  | obtainDeviceInfo => exact noOutput_keeps deviceInfo_keeps
  | obtainSyncState => exact noOutput_keeps syncState_keeps
  | resetSyncState => exact noOutput_keeps resetState_keeps
  | authenticatePasscode passcode => exact noOutput_keeps (authenticate_keeps passcode)
  | obtainLastTimeSynced pTime => exact lastTime_keeps pTime
  | setLastTimeSynced timeSynced => exact noOutput_keeps (storeTime_keeps timeSynced)
  | resetSyncLog => exact noOutput_keeps resetLog_keeps
  | obtainParamFormat => exact noOutput_keeps (paramFormat_triple.post fun _ _ h => h.1)
  | obtainItem syncId item => exact (item_triple syncId item).post fun _ _ h => h.1
  | obtainSyncIdLists lists => exact syncIdLists_keeps lists
  | deleteItem syncId => exact noOutput_keeps (deleteItem_keeps syncId)
  | stateSyncDone => exact noOutput_keeps (stateSyncDone_keeps hdone)

end Stores

section Library

variable [Speaks K] [OfFormat K J]

theorem checkCurAuthState_keeps : Keeps (Knows K J) (zdtmCheckCurAuthState b) (Blamed K J) := by
  apply unlessKnown_keeps Env.retreivedDeviceInfo deviceInfo_keeps
  intro r
  apply triple_ite (fun _ => keeps_pure _)
  intro _
  apply keeps_view State.env
  intro env
  exact triple_ite (fun _ => keeps_pure _) fun _ => keeps_pure _

theorem requiresSlowSync_keeps : Keeps (Knows K J) (zdtmRequiresSlowSync b) (Blamed K J) := by
  apply unlessKnown_keeps Env.retrievedSyncState syncState_keeps
  intro r
  apply triple_ite (fun _ => keeps_pure _)
  intro _
  apply keeps_view State.env
  intro env
  exact keeps_pure _

theorem authorize_keeps : Keeps (Knows K J) (authorize b) (Blamed K J) := by
  apply keeps_bind checkCurAuthState_keeps
  intro r
  apply triple_ite (fun _ => keeps_pure _)
  intro _
  apply triple_ite
  · intro _
    apply keeps_view State.env
    intro env
    cases env.passcode with
    | none => exact keeps_pure _
    | some passcode =>
      apply keeps_bind (authenticate_keeps passcode)
      intro retval
      apply triple_ite (fun _ => keeps_pure _)
      intro _
      exact triple_ite (fun _ => keeps_pure _) fun _ => keeps_pure _
  · exact fun _ => keeps_pure _

/-- A step that is taken for a slow sync only. -/
theorem ifSlow_keeps {op : Session Int} {code : Int} (hop : Keeps (Knows K J) op (Blamed K J)) :
    Keeps (Knows K J) (do
      let slow ← zdtmRequiresSlowSync b
      if slow = 1 then
        let r ← op
        if r ≠ 0 then return code
      return 0 : Session Int) (Blamed K J) := by
  apply keeps_bind requiresSlowSync_keeps
  intro slow
  apply triple_ite
  · exact fun _ => keeps_guard hop (keeps_pure _)
  · exact fun _ => keeps_pure _

/-- The descriptions are copied if all of them fit. -/
theorem copyParams_overlong {params : List AdiMsgParam} {buff : Bytes 256} {e : Fault}
    (hdesc : ∀ p ∈ params, Described p)
    (h : copyParams params.length params buff = .error e) :
    e = .overrun ∧ ∃ p ∈ params, 256 ≤ p.descLen.toNat := by
  induction params generalizing buff with
  | nil => cases h
  | cons param params ih =>
    have hstep : copyParams (param :: params).length (param :: params) buff =
        copyParam buff param >>= copyParams params.length params := rfl
    have hhead := hdesc param List.mem_cons_self
    rw [hstep] at h
    by_cases hlong : 256 ≤ param.descLen.toNat
    · rw [copyParam_overruns buff hhead hlong] at h
      cases h
      exact ⟨rfl, param, List.mem_cons_self, hlong⟩
    · obtain ⟨v, hcopy⟩ := copyParam_fits buff hhead (Nat.lt_of_not_le hlong)
      rw [hcopy] at h
      obtain ⟨he, p, hp, hle⟩ := ih (fun p hp => hdesc p (List.mem_cons_of_mem _ hp)) h
      exact ⟨he, p, List.mem_cons_of_mem _ hp, hle⟩

/-- A format that is read is a list, if only an empty one. -/
theorem adiLayout_some {stream rest : List UInt8} {adi : AdiMsgContent}
    (h : adiLayout stream = some (adi, rest)) : adi.params ≠ none := by
  obtain ⟨numCards, s₁, -, h⟩ := Decoder.bind_some h
  obtain ⟨numParams, s₂, -, h⟩ := Decoder.bind_some h
  obtain ⟨ukData0, s₃, -, h⟩ := Decoder.bind_some h
  obtain ⟨abrevs, s₄, -, h⟩ := Decoder.bind_some h
  obtain ⟨typeIds, s₅, -, h⟩ := Decoder.bind_some h
  obtain ⟨descs, s₆, -, h⟩ := Decoder.bind_some h
  cases h
  exact Option.some_ne_none _

theorem adi_params {f : Frame b} (h : f.type = .adi) : f.cont.adi.params ≠ none := by
  obtain ⟨rest, hlayout⟩ := f.layout_cont
  rw [h] at hlayout
  generalize f.cont = cont at hlayout ⊢
  obtain ⟨adi, mid, hadi, hcont⟩ := Decoder.bind_some hlayout
  cases hcont
  exact adiLayout_some hadi

/-- They are copied right behind the message that announced them. -/
theorem obtainFormat_triple : Triple (Knows K J) (obtainFormat b)
    (fun r s => Knows K J s ∧ (r = 0 → s.env.params ≠ none)) (Blamed K J) := by
  apply triple_bind paramFormat_triple
  intro r
  apply triple_ite
  · exact fun _ => triple_pure fun s hs => ⟨hs.1, nofun⟩
  intro hr
  apply triple_view State.env
  intro env
  apply triple_lift
  · intro buff hbuff
    apply triple_pure
    intro s hs
    obtain ⟨⟨hknows, hgenuine⟩, -⟩ := hs
    obtain ⟨f, -, htype, -, -, hparams⟩ := hgenuine (Decidable.not_not.mp hr)
    exact ⟨hknows, fun _ => by rw [hparams]; exact adi_params htype⟩
  · intro e he s hs
    obtain ⟨⟨hknows, hgenuine⟩, rfl⟩ := hs
    obtain ⟨f, hf, htype, hlatest, hnum, hparams⟩ := hgenuine (Decidable.not_not.mp hr)
    obtain ⟨hcount, hdesc⟩ := frame_params htype
    rw [hnum, hparams, ← hcount] at he
    obtain ⟨rfl, p, hp, hlong⟩ := copyParams_overlong hdesc he
    exact ⟨hknows, f, hf, hlatest, .description htype hp hlong⟩

/-- The stages before the last one can only fail, or go on. -/
theorem setUp_triple {after : Int → State → Prop}
    (hcode : ∀ r s, r ≠ 0 → Knows K J s → after r s)
    (hformat : Triple (Knows K J) (obtainFormat b) after (Blamed K J)) :
    Triple (Knows K J) (setUp b) after (Blamed K J) := by
  refine triple_guard ?_ hcode ?_
  · apply keeps_bind deviceInfo_keeps
    intro r
    exact triple_ite (fun _ => keeps_pure _) fun _ => keeps_pure _
  apply triple_guard (keeps_guard syncState_keeps (keeps_pure _)) hcode
  refine triple_guard ?_ hcode ?_
  · apply keeps_bind (lastTime_keeps 0)
    intro r
    apply triple_ite
    · exact fun _ => triple_ite (fun _ => keeps_pure _) fun _ => keeps_pure _
    · exact fun _ => keeps_pure _
  apply triple_guard (ifSlow_keeps resetLog_keeps) hcode
  refine triple_guard ?_ hcode ?_
  · apply keeps_view State.host
    intro host
    exact keeps_guard (storeTime_keeps _) (keeps_pure _)
  exact triple_guard (ifSlow_keeps resetState_keeps) hcode hformat

theorem initiateSync_triple {after : Int → State → Prop}
    (hconn : ∀ env connfd, J env → J { env with connfd })
    (hcode : ∀ r s, r ≠ 0 → Knows K J s → after r s)
    (hformat : Triple (Knows K J) (obtainFormat b) after (Blamed K J)) :
    Triple (Knows K J) (zdtmInitiateSync b) after (Blamed K J) := by
  apply triple_view State.env
  intro env
  apply triple_ite
  · exact fun _ => triple_pure fun s hs => hcode _ s (by decide) hs.1
  intro _
  apply triple_ite
  · exact fun _ => triple_pure fun s hs => hcode _ s (by decide) hs.1
  intro _
  apply (triple_guard (connect_keeps hconn _) (fun r s _ => hcode _ s (by decide)) ?_).pre
  · exact fun s hs => hs.1
  apply triple_guard greet_keeps hcode
  apply triple_guard authorize_keeps hcode
  exact setUp_triple hcode hformat

/-- A synchronization that is initiated has obtained a format. -/
theorem initiateSync_obtains (hconn : ∀ env connfd, J env → J { env with connfd }) :
    Triple (Knows K J) (zdtmInitiateSync b)
      (fun r s => Knows K J s ∧ (r = 0 → s.env.params ≠ none)) (Blamed K J) :=
  initiateSync_triple hconn (fun _ _ hr hs => ⟨hs, fun hzero => absurd hzero hr⟩)
    obtainFormat_triple

/-- The two calls that may change the format and the connection by themselves do not
change what is known of them. -/
structure Stable (J : Env → Prop) (call : ApiCall) : Prop where
  initial : call = .initializeEnv → ∀ env, J env → J (initialEnv env)
  conn : call = .initiateSync → ∀ env connfd, J env → J { env with connfd }

theorem anyFormat_stable (call : ApiCall) : Stable AnyFormat call :=
  ⟨fun _ _ _ => trivial, fun _ _ _ _ => trivial⟩

theorem apiCall_keeps (hdone : K.allows .rds) {call : ApiCall} (hgiven : K.given call)
    (h : Stable J call) :
    Keeps (Knows K J) (call.run b) (Blamed K J) := by
  cases call with
  | initializeEnv => exact keeps_bind (initialize_keeps hgiven (h.initial rfl)) fun _ => keeps_pure _
  | set setter => exact keeps_bind (setter_keeps setter hgiven) fun _ => keeps_pure _
  | initiateSync =>
    exact keeps_bind ((initiateSync_obtains (h.conn rfl)).post fun _ _ h => h.1) fun _ =>
      keeps_pure _
  | checkCurAuthState => exact keeps_bind checkCurAuthState_keeps fun _ => keeps_pure _
  | requiresSlowSync => exact keeps_bind requiresSlowSync_keeps fun _ => keeps_pure _
  | operation op => exact keeps_bind (call_keeps hdone op) fun _ => keeps_pure _
  | obtainTodoItem syncId item =>
    exact keeps_bind (todoItem_keeps syncId item) fun _ => keeps_pure _
  | obtainCalendarItem syncId item =>
    exact keeps_bind (calendarItem_keeps syncId item) fun _ => keeps_pure _
  | obtainAddressItem syncId item =>
    exact keeps_bind (addressItem_keeps syncId item) fun _ => keeps_pure _
  | terminateSync => exact keeps_bind terminateSync_keeps fun _ => keeps_pure _
  | finalize => exact keeps_bind finalize_keeps fun _ => keeps_pure _

theorem runCalls_keeps (hdone : K.allows .rds) {calls : List ApiCall}
    (hgiven : ∀ call ∈ calls, K.given call) (h : ∀ call ∈ calls, Stable J call) :
    Keeps (Knows K J) (runCalls b calls) (Blamed K J) := by
  induction calls with
  | nil => exact keeps_pure _
  | cons call calls ih =>
    obtain ⟨hfirst, hrest⟩ := List.forall_mem_cons.mp hgiven
    obtain ⟨hstable, hstables⟩ := List.forall_mem_cons.mp h
    apply keeps_bind (apiCall_keeps hdone hfirst hstable)
    intro r
    exact keeps_bind (ih hrest hstables) fun _ => keeps_pure _

/-- What is known before a run is known behind it, and where it fails. -/
theorem runCalls_knows (hdone : K.allows .rds) {calls : List ApiCall}
    {s s' : State} {r : Except Fault (List Outcome)} (hgiven : ∀ call ∈ calls, K.given call)
    (h : ∀ call ∈ calls, Stable J call) (hs : Knows K J s)
    (hrun : runCalls b calls s = (r, s')) : Knows K J s' := by
  have hsettled := ((runCalls_keeps hdone hgiven h).run s hs).of_eq hrun
  cases r with
  | ok outcomes => exact hsettled
  | error e => exact hsettled.knows

/-- A run that stops where the pointers dangle is one of the calls before. -/
theorem runLive_knows (hdone : K.allows .rds) {calls : List ApiCall} {dangling : Bool}
    {s s' : State} {r : Except Fault (List Outcome)} (hgiven : ∀ call ∈ calls, K.given call)
    (h : ∀ call ∈ calls, Stable J call) (hs : Knows K J s)
    (hrun : runLive b dangling calls s = (r, s')) : Knows K J s' := by
  rcases runLive_cases hrun with hcalls | ⟨-, early, call, late, outcomes, rfl, -, hearly, -⟩
  · exact runCalls_knows hdone hgiven h hs hcalls
  · apply runCalls_knows hdone (List.forall_mem_append.mp hgiven).1 _ hs hearly
    exact (List.forall_mem_append.mp h).1

end Library

end ZdtmKeeping
