import ZdtmSync.Script

/-!
# The descriptors of a whole session

A session that succeeds from its initialization to its finalization opens the log
file and three sockets. The log, the listening socket and the connection to the
Zaurus are closed; the connection from the Zaurus is not: `zdtm_terminate_sync`
closes the connection to the Zaurus in its place.
-/

namespace ZdtmLeaks

open CMemory Programs ZdtmTypes ZdtmMsgs ZdtmNet ZdtmItems ZdtmSession ZdtmProto ZdtmConnections
  ZdtmSync ZdtmExchanges ZdtmOperations ZdtmReplies ZdtmStages ZdtmDescriptors ZdtmScript

/-- The calls of a caller between initiating and terminating. -/
inductive ItemCall where
  | operation (op : Operation)
  | checkCurAuthState
  | requiresSlowSync
  | obtainTodoItem (syncId : UInt32) (item : TodoItem)
  | obtainCalendarItem (syncId : UInt32) (item : CalendarItem)
  | obtainAddressItem (syncId : UInt32) (item : AddressItem)

def ItemCall.run (b : Build) : ItemCall → Session Int
  | .operation op => op.run b
  | .checkCurAuthState => zdtmCheckCurAuthState b
  | .requiresSlowSync => zdtmRequiresSlowSync b
  | .obtainTodoItem syncId item => returned (zdtmObtainTodoItem b syncId item)
  | .obtainCalendarItem syncId item => returned (zdtmObtainCalendarItem b syncId item)
  | .obtainAddressItem syncId item => returned (zdtmObtainAddressItem b syncId item)

/-- The calls one after the other, whatever each of them returns. -/
def callAll (b : Build) : List ItemCall → Session Unit
  | [] => return ()
  | call :: calls => do
    let _ ← call.run b
    callAll b calls

/-- A whole session, and whether everything that has to succeed did. -/
def synchronize (b : Build) (setters : List Setter) (calls : List ItemCall) : Session Bool := do
  let prepared ← prepare setters
  if !prepared then return false
  let r ← zdtmInitiateSync b
  if r ≠ 0 then return false
  callAll b calls
  let r ← zdtmTerminateSync b
  if r ≠ 0 then return false
  let r ← zdtmFinalize
  if r ≠ 0 then return false
  return true

/-- What a program does to the descriptors, whatever it says on `connfd`. -/
structure Moves (s : State) (evs : List DescriptorEvent) (s' : State) : Prop where
  history : s'.host.history = s.host.history ++ evs
  happens : Happens s.host.descriptors evs s'.host.descriptors

def moves : Recorder State DescriptorEvent where
  Extends := Moves
  refl s := ⟨(List.append_nil _).symm, .nil _⟩
  trans h h' := ⟨by rw [h'.history, h.history, List.append_assoc], h.happens.append h'.happens⟩

/-- The fields of the environment that hold a descriptor. -/
structure Sockets where
  listenfd : Socket
  connfd : Socket
  reqfd : Socket
  logfp : Option Nat

def sockets (env : Env) : Sockets where
  listenfd := env.listenfd
  connfd := env.connfd
  reqfd := env.reqfd
  logfp := env.logfp

/-- No descriptor is opened, closed or stored. -/
def Silent {α : Type} (env : Env) (_ : Except Fault α) (env' : Env)
    (evs : List DescriptorEvent) : Prop := evs = [] ∧ sockets env' = sockets env

section Moves

variable {α β : Type} {b : Build} {x : Session α}

theorem handles_moves {R : Env → Except Fault α → Env → List DescriptorEvent → Prop}
    (h : Runs handles State.env x R) : Runs moves State.env x R :=
  h.strengthen fun _ _ _ _ hhandles _ => ⟨hhandles.history, hhandles.happens⟩

theorem sockets_of_settings {env env' : Env} (h : settings env' = settings env) :
    sockets env' = sockets env := by
  have hlisten := congrArg Settings.listenfd h
  have hconn := congrArg Settings.connfd h
  have hreq := congrArg Settings.reqfd h
  have hlog := congrArg Settings.logfp h
  simp only [settings] at hlisten hconn hreq hlog
  simp only [sockets, hlisten, hconn, hreq, hlog]

theorem converses_silent {R : Env → Except Fault α → Env → List Call → Prop}
    (h : Runs (converses b) State.env x R) : Runs moves State.env x Silent := by
  intro s
  apply (h s).mono
  rintro r s' ⟨cs, hconverses, -⟩
  have hhost := hconverses.talks.host
  refine ⟨[], ⟨?_, ?_⟩, rfl, sockets_of_settings hconverses.settings⟩
  · rw [hhost, List.append_nil]
  · rw [hhost]
    exact .nil _

theorem silent_pure (a : α) : Runs moves State.env (pure a : Session α) Silent :=
  runs_pure fun _ => ⟨rfl, rfl⟩

theorem silent_bind {f : α → Session β} (hx : Runs moves State.env x Silent)
    (hf : ∀ a, Runs moves State.env (f a) Silent) : Runs moves State.env (x >>= f) Silent := by
  apply runs_bind hx
  · rintro env a env' evs ⟨rfl, hsame⟩
    apply (hf a).mono
    rintro env₁ r env₂ evs' ⟨rfl, hsame'⟩ rfl
    exact ⟨rfl, hsame'.trans hsame⟩
  · rintro env f env' evs h
    exact h

theorem silent_returned {y : Session (Int × β)} (h : Runs moves State.env y Silent) :
    Runs moves State.env (returned y) Silent := silent_bind h fun _ => silent_pure _

theorem sys_silent (y : Sys α) : Runs moves State.env (sys y) Silent := by
  apply (handles_moves (sys_runs y)).mono
  rintro env r env' evs ⟨rfl, rfl⟩
  exact ⟨rfl, rfl⟩

theorem answered_silent {fail : Int → α} {done : α → Prop} {t : DesktopType} {reply : ZaurusType}
    {store : ZdtmMsg → Env → Env} (h : Runs (talks b) State.env x (Answered fail done t reply store))
    (hstore : ∀ m env, settings (store m env) = settings env) :
    Runs moves State.env x Silent := converses_silent (answered_converses h hstore)

end Moves

section Items

variable (b : Build)

theorem operation_silent (op : Operation) : Runs moves State.env (op.run b) Silent := by
  have hkeep : ∀ (m : ZdtmMsg) (env : Env), settings (keepEnv m env) = settings env :=
    fun _ _ => rfl
  cases op with
  | obtainDeviceInfo => exact answered_silent (obtainDeviceInfo_runs b) fun _ _ => rfl
  | obtainSyncState => exact answered_silent (obtainSyncState_runs b) fun _ _ => rfl
  | resetSyncState =>
    exact answered_silent (resetSyncState_runs b) fun _ => resetFlags_settings
  | authenticatePasscode passcode =>
    exact converses_silent (exchanges_converses (authenticatePasscode_logs b passcode))
  | obtainLastTimeSynced pTime =>
    exact silent_returned (answered_silent (obtainLastTimeSynced_runs b pTime) hkeep)
  | setLastTimeSynced timeSynced =>
    exact answered_silent (setLastTimeSynced_runs b timeSynced) hkeep
  | resetSyncLog => exact converses_silent (exchanges_converses (resetSyncLog_logs b))
  | obtainParamFormat => exact answered_silent (obtainParamFormat_runs b) fun _ _ => rfl
  | obtainItem syncId item =>
    exact silent_returned (answered_silent (obtainItem_runs b syncId item) hkeep)
  | obtainSyncIdLists lists =>
    exact silent_returned (answered_silent (obtainSyncIdLists_runs b lists) hkeep)
  | deleteItem syncId => exact answered_silent (deleteItem_runs b syncId) hkeep
  | stateSyncDone => exact answered_silent (stateSyncDone_runs b) hkeep

theorem obtainParsedItem_silent {I : Type} (syncType : UInt8)
    (parse : List AdiMsgParam → List AdrMsgParam → I → Mem (Int × I)) (syncId : UInt32) (item : I) :
    Runs moves State.env (obtainParsedItem b syncType parse syncId item) Silent := by
  apply runs_getEnv
  intro env
  split
  · exact silent_pure _
  · apply silent_bind (answered_silent (obtainItem_runs b syncId {}) fun _ _ => rfl)
    rintro ⟨r, got⟩
    dsimp only
    split
    · exact silent_pure _
    · apply silent_bind (sys_silent _)
      rintro ⟨r, item⟩
      dsimp only
      split
      · exact silent_pure _
      · exact silent_pure _

theorem itemCall_silent (call : ItemCall) : Runs moves State.env (call.run b) Silent := by
  cases call with
  | operation op => exact operation_silent b op
  | checkCurAuthState => exact converses_silent checkCurAuthState_runs
  | requiresSlowSync => exact converses_silent (requiresSlowSync_runs b)
  | obtainTodoItem syncId item => exact silent_returned (obtainParsedItem_silent b _ _ syncId item)
  | obtainCalendarItem syncId item =>
    exact silent_returned (obtainParsedItem_silent b _ _ syncId item)
  | obtainAddressItem syncId item =>
    exact silent_returned (obtainParsedItem_silent b _ _ syncId item)

theorem callAll_silent (calls : List ItemCall) : Runs moves State.env (callAll b calls) Silent := by
  induction calls with
  | nil => exact silent_pure ()
  | cons call calls ih => exact silent_bind (itemCall_silent b call) fun _ => ih

end Items

section Session

variable (b : Build)

/-- Behind a success both connections are open, and nothing else was opened. -/
theorem initiateSync_moves : Runs moves State.env (zdtmInitiateSync b) fun env r env' evs =>
    r = .ok 0 → ∃ req conn,
      sockets env' = { sockets env with reqfd := some req, connfd := some conn } ∧
        evs = [.opened req, .opened conn] := by
  apply runs_getEnv
  intro env
  split
  · exact runs_pure fun _ => nofun
  · split
    · exact runs_pure fun _ => nofun
    · apply runs_guard (handles_moves (connect_runs b env.zaurusIp))
      · exact fun _ _ _ _ _ _ => nofun
      · exact fun _ _ _ _ _ => nofun
      · rintro env₁ env₁' evs ⟨reqfd, connfd, rfl, hopened⟩
        obtain ⟨req, conn, rfl, rfl, rfl⟩ := hopened rfl
        have hsilent : Runs moves State.env _ Silent :=
          converses_silent (conversation_runs (b := b) (k := .todo))
        apply hsilent.mono
        rintro env₂ r env₂' evs' ⟨rfl, hsame⟩ rfl -
        exact ⟨req, conn, hsame, rfl⟩

/-- Behind a success the connection to the Zaurus is closed, and nothing else. -/
def Disconnects (env : Env) (r : Except Fault Int) (env' : Env) (evs : List DescriptorEvent) :
    Prop :=
  r = .ok 0 → sockets env' = sockets env ∧ ∃ req, env.reqfd = some req ∧ evs = [.closed req]

theorem disconnects_bind {α : Type} {x : Session α} {f : α → Session Int}
    (hx : Runs moves State.env x Silent) (hf : ∀ a, Runs moves State.env (f a) Disconnects) :
    Runs moves State.env (x >>= f) Disconnects := by
  apply runs_bind hx
  · rintro env a env' evs ⟨rfl, hsame⟩
    apply (hf a).mono
    rintro env₁ r env₂ evs' hclosed rfl hr
    obtain ⟨hsame', req, hreq, rfl⟩ := hclosed hr
    have hfd : env₁.reqfd = env.reqfd := congrArg Sockets.reqfd hsame
    exact ⟨hsame'.trans hsame, req, hfd.symm.trans hreq, rfl⟩
  · exact fun _ _ _ _ _ => nofun

theorem disconnects_stop {code : Int} (hcode : code ≠ 0) :
    Runs moves State.env (pure code : Session Int) Disconnects :=
  runs_pure fun _ hzero => absurd (Except.ok.inj hzero) hcode

theorem disconnect_moves : Runs moves State.env zdtmDisconnect Disconnects := by
  apply runs_guard (handles_moves closeConnToZaurus_runs)
  · exact fun _ _ _ _ _ _ => nofun
  · exact fun _ _ _ _ _ => nofun
  · rintro env env' evs ⟨rfl, hclosed⟩
    obtain ⟨req, hreq, rfl⟩ := hclosed rfl
    apply runs_pure
    rintro env₁ rfl -
    exact ⟨rfl, req, hreq, rfl⟩

theorem terminateSync_moves : Runs moves State.env (zdtmTerminateSync b) Disconnects := by
  apply disconnects_bind (converses_silent (exchanges_converses (logs_wrappedSend b _)))
  intro r
  split
  · exact disconnects_stop (by decide)
  · apply disconnects_bind (converses_silent (exchanges_converses (logs_wrappedRecv b)))
    rintro ⟨r, m⟩
    dsimp only
    split
    · exact disconnects_stop (by decide)
    · apply disconnects_bind (converses_silent (exchanges_converses (logs_recvMessage b)))
      rintro ⟨r, m⟩
      dsimp only
      split
      · exact disconnects_stop (by decide)
      · apply disconnects_bind (converses_silent (exchanges_converses (logs_sendMessage b _)))
        intro r
        split
        · exact disconnects_stop (by decide)
        · apply runs_guard disconnect_moves
          · exact fun _ _ _ _ _ _ => nofun
          · exact fun _ _ _ _ _ => nofun
          · intro env env' evs hclosed
            apply runs_pure
            rintro env₁ rfl -
            rw [List.append_nil]
            exact hclosed rfl

/-- The end of a session closes three descriptors of the environment. -/
def Ends (env : Env) (r : Except Fault Bool) (_ : Env) (evs : List DescriptorEvent) : Prop :=
  r = .ok true → ∃ req listen log, sockets env =
    { sockets env with reqfd := some req, listenfd := some listen, logfp := some log } ∧
      evs = [.closed req, .closed listen, .closed log]

theorem end_moves (calls : List ItemCall) : Runs moves State.env
    (do
      callAll b calls
      let r ← zdtmTerminateSync b
      if r ≠ 0 then return false
      let r ← zdtmFinalize
      if r ≠ 0 then return false
      return true) Ends := by
  apply runs_bind (callAll_silent b calls)
  · intro env a env₁ evs hsilent
    obtain ⟨rfl, hsame⟩ := hsilent
    apply runs_guard (terminateSync_moves b)
    · exact fun _ _ _ _ _ _ _ => nofun
    · exact fun _ _ _ _ _ _ => nofun
    · intro env₁' env₂ evs₁ hclosed
      obtain ⟨hsame', req, hreq, rfl⟩ := hclosed rfl
      apply runs_guard (handles_moves finalize_runs)
      · exact fun _ _ _ _ _ _ _ _ => nofun
      · exact fun _ _ _ _ _ _ _ => nofun
      · intro env₂' env₃ evs₂ hfinalized
        obtain ⟨rfl, hfinalized⟩ := hfinalized
        obtain ⟨listen, log, hlisten, hlog, rfl⟩ := hfinalized rfl
        apply runs_pure
        rintro env₃ rfl rfl rfl -
        refine ⟨req, listen, log, ?_, rfl⟩
        have hall := hsame'.trans hsame
        have hreq' : env.reqfd = some req := (congrArg Sockets.reqfd hsame).symm.trans hreq
        have hlisten' : env.listenfd = some listen :=
          (congrArg Sockets.listenfd hall).symm.trans hlisten
        have hlog' : env.logfp = some log := (congrArg Sockets.logfp hall).symm.trans hlog
        simp only [sockets, hreq', hlisten', hlog']
  · exact fun _ _ _ _ _ => nofun

/-- What a session that succeeds does to the descriptors. -/
theorem synchronize_moves (setters : List Setter) (calls : List ItemCall) :
    Runs moves State.env (synchronize b setters calls) fun _ r _ evs => r = .ok true →
      ∃ log listen req conn, evs = [.opened log, .opened listen, .opened req, .opened conn,
        .closed req, .closed listen, .closed log] := by
  apply runs_bind (handles_moves (prepare_runs setters))
  · rintro env prepared env₁ evs hprepared
    cases prepared with
    | false => exact runs_pure fun _ _ => nofun
    | true =>
      obtain ⟨-, log, listen, hlog, hlisten, rfl⟩ := hprepared rfl
      apply runs_guard (initiateSync_moves b)
      · exact fun _ _ _ _ _ _ _ => nofun
      · exact fun _ _ _ _ _ _ => nofun
      · intro env₁' env₂ evs₁ hinitiated
        obtain ⟨req, conn, hsockets, rfl⟩ := hinitiated rfl
        apply (end_moves b calls).mono
        rintro env₂' r env₃ evs₂ hends rfl rfl hr
        obtain ⟨req', listen', log', hclosed, rfl⟩ := hends hr
        have hreq := congrArg Sockets.reqfd (hsockets.symm.trans hclosed)
        have hlisten' := congrArg Sockets.listenfd (hsockets.symm.trans hclosed)
        have hlog' := congrArg Sockets.logfp (hsockets.symm.trans hclosed)
        simp only [sockets, hlisten, hlog, Option.some.injEq] at hreq hlisten' hlog'
        rw [← hreq, ← hlisten', ← hlog']
        exact ⟨log, listen, req, conn, rfl⟩
  · exact fun _ _ _ _ _ => nofun

end Session

/-- Every descriptor that was opened in between was closed as often, and none of them
is open any more. -/
def ClosedAll (s s' : State) : Prop :=
  ∀ fd, .opened fd ∈ s'.host.history.drop s.host.history.length →
    (s'.host.history.drop s.host.history.length).count (.closed fd) =
      (s'.host.history.drop s.host.history.length).count (.opened fd) ∧
        fd ∉ s'.host.descriptors

/-- The connection from the Zaurus was new when it was opened, and is not closed. -/
theorem happens_leaves_conn {d d' : List Nat} {log listen req conn : Nat}
    (h : Happens d [.opened log, .opened listen, .opened req, .opened conn, .closed req,
      .closed listen, .closed log] d') : conn ∈ d' := by
  rcases h with _ | ⟨hlog, h⟩
  rcases h with _ | ⟨hlisten, h⟩
  rcases h with _ | ⟨hreq, h⟩
  rcases h with _ | ⟨hconn, h⟩
  rcases h with _ | _ | ⟨hreq', h⟩
  rcases h with _ | _ | ⟨hlisten', h⟩
  rcases h with _ | _ | ⟨hlog', h⟩
  cases h
  simp only [List.mem_cons, not_or] at hconn
  obtain ⟨hne, hne', hne'', -⟩ := hconn
  rw [List.mem_erase_of_ne hne'', List.mem_erase_of_ne hne', List.mem_erase_of_ne hne]
  exact List.mem_cons_self

/-- No session that succeeds closes all that it opened: the accepted connection from
the Zaurus stays open. -/
theorem synchronize_leaks (b : Build) (setters : List Setter) (calls : List ItemCall) (s : State)
    (hrun : (synchronize b setters calls s).1 = .ok true) :
    ¬ ClosedAll s (synchronize b setters calls s).2 := by
  obtain ⟨evs, hmoves, hevs⟩ := synchronize_moves b setters calls s
  obtain ⟨log, listen, req, conn, rfl⟩ := hevs hrun
  intro hclosed
  obtain ⟨-, hgone⟩ := hclosed conn (by simp [hmoves.history])
  exact hgone (happens_leaves_conn hmoves.happens)

/-- The device confirms the deletion of an item and the end of the synchronization. -/
def partingDevice : List UInt8 :=
  openDevice ++ deviceReply .aex [] ++ deviceReply .aex [] ++ CommonMsg.rqst.bytes.toList

def sessionState : State := deviceState partingDevice (by decide +kernel)

theorem synchronize_leaks_delete :
    ¬ ClosedAll sessionState
      (synchronize .littleEndian todoSetters [.operation (.deleteItem 7)] sessionState).2 := by
  exact synchronize_leaks .littleEndian todoSetters [.operation (.deleteItem 7)] sessionState
    (by decide +kernel)

/-- The accepted connection is the fourth descriptor, and still open at the end. -/
theorem synchronize_leaves_connfd_open :
    (synchronize .littleEndian todoSetters [.operation (.deleteItem 7)] sessionState).1 = .ok true ∧
      ¬ ClosedAll sessionState
        (synchronize .littleEndian todoSetters [.operation (.deleteItem 7)] sessionState).2 := by
  refine ⟨by decide +kernel, ?_⟩
  have hopened : .opened 3 ∈ (synchronize .littleEndian todoSetters [.operation (.deleteItem 7)]
      sessionState).2.host.history.drop sessionState.host.history.length := by decide +kernel
  have hopen : 3 ∈ (synchronize .littleEndian todoSetters [.operation (.deleteItem 7)]
      sessionState).2.host.descriptors := by decide +kernel
  intro hclosed
  exact (hclosed 3 hopened).2 hopen

end ZdtmLeaks
