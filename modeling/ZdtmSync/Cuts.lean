import ZdtmSync.Api
import ZdtmSync.Judgments
import ZdtmSync.Served

/-!
# The cuts of the peer's stream

TCP hands over what the peer sent in pieces of any size. Two states that differ
only in where the same arrivals are cut are coupled through everything the library
does: the same codes, the same data for the caller, the same environment, the same
bytes on every socket.
-/

namespace ZdtmCuts

open CMemory Programs Couplings ZdtmTypes ZdtmMsgs ZdtmNet ZdtmItems ZdtmSession ZdtmProto
  ZdtmConnections ZdtmSync ZdtmOperations ZdtmAtomic ZdtmScript ZdtmLeaks ZdtmServed ZdtmApi

/-- The same world, with the arrivals cut in another way. -/
structure Recut (w w' : World) : Prop where
  heap : w.heap = w'.heap
  arrivals : Chunked.arrivals w.inbox = Chunked.arrivals w'.inbox
  sends : w.sends = w'.sends
  trace : w.trace = w'.trace

/-- The same state, with the arrivals cut in another way. -/
structure RecutState (s s' : State) : Prop where
  world : Recut s.world s'.world
  env : s.env = s'.env
  host : s.host = s'.host
  events : s.events = s'.events

section Receiving

variable {b : Build} {R : World → World → Prop}
  (hmem : ∀ {α : Type} (x : Mem α), Matched R (mem x) (mem x))
  (hloop : ∀ tot need, Matched R (recvLoop tot need) (recvLoop tot need))

include hmem

theorem fillMessage_matched (p : Option ZdtmMsg) (header buff : List UInt8) (bodySize : UInt16) :
    Matched R (fillMessage b p header buff bodySize) (fillMessage b p header buff bodySize) := by
  cases p with
  | none => exact matched_pure _
  | some msg =>
    apply matched_ite (matched_pure _)
    apply matched_bind (hmem _)
    intro header
    apply matched_bind (hmem _)
    intro type
    apply matched_ite (matched_pure _)
    apply matched_bind (hmem _)
    intro block
    cases block with
    | none => exact matched_pure _
    | some block => exact matched_bind (hmem _) fun _ => matched_pure _

include hloop

theorem recvBody_matched (p : Option ZdtmMsg) (header : List UInt8) :
    Matched R (recvBody b p header) (recvBody b p header) := by
  apply matched_bind (hmem _)
  intro block
  cases block with
  | none => exact matched_pure _
  | some block =>
    apply matched_bind (hloop _ _)
    intro got
    cases got with
    | error code => exact matched_pure _
    | ok buff => exact fillMessage_matched hmem p header buff _

theorem recvFrame_matched (p : Option ZdtmMsg) : Matched R (recvFrame b p) (recvFrame b p) := by
  apply matched_bind (hloop _ _)
  intro got
  cases got with
  | error code => exact matched_pure _
  | ok first =>
    apply matched_ite (matched_pure _)
    apply matched_ite (matched_pure _)
    apply matched_ite (matched_pure _)
    apply matched_bind (hloop _ _)
    intro got
    cases got with
    | error code => exact matched_pure _
    | ok second => exact recvBody_matched hmem hloop p _

/-- What the heap and the loop that reads keep is kept when a message is received. -/
theorem recvMessage_matched (p : Option ZdtmMsg) :
    Matched R (zdtmRecvMessage b p) (zdtmRecvMessage b p) := by
  apply matched_bind (recvFrame_matched hmem hloop p)
  intro framed
  cases framed with
  | returned code p => exact matched_pure _
  | received msg => exact matched_bind (hmem _) fun _ => matched_pure _

end Receiving

section Sys

variable {α : Type} {b : Build}

theorem mem_recut (x : Mem α) : Matched Recut (mem x) (mem x) := by
  intro w w' hw
  cases hrun : x w.heap with
  | error f =>
    have hrun' : x w'.heap = .error f := by rw [← hw.heap, hrun]
    exact Or.inl ⟨f, by simp only [mem, hrun], by simp only [mem, hrun']⟩
  | ok r =>
    have hrun' : x w'.heap = .ok r := by rw [← hw.heap, hrun]
    exact Or.inr ⟨r.1, _, _, mem_ok hrun, mem_ok hrun', rfl, hw.arrivals, hw.sends, hw.trace⟩

/-- A loop that reads takes the same bytes and stops for the same reason. -/
theorem recvLoop_recut (tot need : Nat) : Matched Recut (recvLoop tot need) (recvLoop tot need) := by
  intro w w' hw
  obtain ⟨hgot, hrest⟩ := Chunked.readExact_arrivals (need - tot) w.inbox
  obtain ⟨hgot', hrest'⟩ := Chunked.readExact_arrivals (need - tot) w'.inbox
  rw [← hw.arrivals] at hgot' hrest'
  have hsame := hgot.trans hgot'.symm
  have harrivals := hrest.trans hrest'.symm
  right
  simp only [recvLoop, hsame]
  cases (Chunked.readExact (need - tot) w'.inbox).1.2 with
  | none => exact ⟨_, _, _, rfl, rfl, hw.heap, harrivals, hw.sends, by rw [hw.trace]⟩
  | some stop => exact ⟨_, _, _, rfl, rfl, hw.heap, harrivals, hw.sends, by rw [hw.trace]⟩

theorem zdtmRecvMessage_recut (p : Option ZdtmMsg) :
    Matched Recut (zdtmRecvMessage b p) (zdtmRecvMessage b p) :=
  recvMessage_matched mem_recut recvLoop_recut p

/-- Sending does not look at the arrivals. -/
theorem sendLoop_recut (sockfd : Sock) (buf : List UInt8) (n : Nat) :
    Matched Recut (sendLoop sockfd buf n) (sendLoop sockfd buf n) := by
  intro w w' hw
  right
  simp only [sendLoop, hw.sends, hw.trace]
  exact ⟨_, _, _, rfl, rfl, hw.heap, hw.arrivals, rfl, rfl⟩

theorem sendComm_recut (sockfd : Sock) (data : Bytes comMsgSize) :
    Matched Recut (zdtmSendCommMessageTo sockfd data) (zdtmSendCommMessageTo sockfd data) :=
  matched_bind (sendLoop_recut _ _ _) fun _ => matched_ite (matched_pure _) (matched_pure _)

theorem zdtmSendMessageTo_recut (msg : ZdtmMsg) (sockfd : Sock) :
    Matched Recut (zdtmSendMessageTo b msg sockfd) (zdtmSendMessageTo b msg sockfd) := by
  apply matched_bind (mem_recut _)
  intro r
  obtain ⟨retval, ready⟩ := r
  apply matched_ite (matched_pure _)
  apply matched_bind (mem_recut _)
  intro block
  cases block with
  | none => exact matched_pure _
  | some block =>
    apply matched_bind (mem_recut _)
    intro wire
    exact matched_bind (sendLoop_recut _ _ _) fun _ => matched_ite (matched_pure _) (matched_pure _)

end Sys

/-- The program cannot tell how the arrivals are cut. -/
abbrev Blind {α : Type} (x : Session α) : Prop := Coupled RecutState x x

section Primitives

variable {α : Type}

theorem sys_blind {x : Sys α} (h : Matched Recut x x) : Blind (sys x) := by
  apply coupled_of_eq
  intro s s' hs
  rcases h s.world s'.world hs.world with ⟨f, hrun, hrun'⟩ | ⟨a, w, w', hrun, hrun', hw⟩
  · exact ⟨.error f, s, s', by simp only [sys, hrun], by simp only [sys, hrun'], hs⟩
  · exact ⟨.ok a, { s with world := w }, { s' with world := w' }, by simp only [sys, hrun],
      by simp only [sys, hrun'], hw, hs.env, hs.host, hs.events⟩

/-- The bytes of the recorded call are the same too. -/
theorem recorded_blind {x : Sys α} (h : Matched Recut x x) (call : α → Call) :
    Blind (recorded x call) := by
  apply coupled_of_eq
  intro s s' hs
  rcases h s.world s'.world hs.world with ⟨f, hrun, hrun'⟩ | ⟨a, w, w', hrun, hrun', hw⟩
  · exact ⟨.error f, s, s', by simp only [recorded, hrun], by simp only [recorded, hrun'], hs⟩
  · refine ⟨.ok a, _, _, recorded_ok call hrun, recorded_ok call hrun', hw, hs.env, hs.host, ?_⟩
    simp only [hs.events, hw.trace, hs.world.trace]

theorem getEnv_blind : Blind getEnv := coupled_view fun _ _ hs => hs.env

theorem getHost_blind : Blind getHost := coupled_view fun _ _ hs => hs.host

theorem modifyEnv_blind (g : Env → Env) : Blind (modifyEnv g) :=
  coupled_modify fun _ _ hs => ⟨hs.world, congrArg g hs.env, hs.host, hs.events⟩

theorem modifyHost_blind (g : Host → Host) : Blind (modifyHost g) :=
  coupled_modify fun _ _ hs => ⟨hs.world, hs.env, congrArg g hs.host, hs.events⟩

theorem answer_blind : Blind answer := by
  intro s s' hs
  simp only [answer, hs.host]
  cases s'.host.answers with
  | nil => exact ⟨rfl, hs⟩
  | cons success answers => exact ⟨rfl, hs.world, hs.env, rfl, hs.events⟩

theorem allocate_blind (n : Nat) : Blind (allocate n) := sys_blind (mem_recut _)

theorem allocateInt_blind (n : Int) : Blind (allocateInt n) :=
  coupled_ite (fun _ => coupled_pure _) fun _ => allocate_blind _

end Primitives

section Messages

variable (b : Build)

theorem recvMessage_blind : Blind (recvMessage b) :=
  coupled_bind (recorded_blind (zdtmRecvMessage_recut _) _) fun _ => coupled_pure _

theorem sendMessage_blind (msg : ZdtmMsg) : Blind (sendMessage b msg) :=
  coupled_bind (recorded_blind (zdtmSendMessageTo_recut msg .connfd) _) fun _ => coupled_pure _

theorem wrappedSend_blind (msg : ZdtmMsg) : Blind (zdtmWrappedSendMessage b msg) := by
  apply coupled_bind (recvMessage_blind b)
  intro r
  apply coupled_ite (fun _ => coupled_pure _)
  intro _
  apply coupled_guard (sendMessage_blind b msg)
  apply coupled_bind (recvMessage_blind b)
  intro r
  exact coupled_ite (fun _ => coupled_pure _) fun _ => coupled_pure _

theorem wrappedRecv_blind : Blind (zdtmWrappedRecvMessage b) := by
  apply coupled_guard (recorded_blind (sendComm_recut _ _) _)
  apply coupled_bind (recvMessage_blind b)
  intro r
  apply coupled_ite (fun _ => coupled_pure _)
  intro _
  apply coupled_ite (fun _ => coupled_pure _)
  intro _
  exact coupled_guard (recorded_blind (sendComm_recut _ _) _) (coupled_pure _)

theorem exchange_blind (msg : ZdtmMsg) (reply : ZaurusType) (sendFail recvFail typeFail : Int) :
    Blind (exchange b msg reply sendFail recvFail typeFail) := by
  apply coupled_guard (wrappedSend_blind b msg)
  apply coupled_bind (wrappedRecv_blind b)
  intro r
  apply coupled_ite (fun _ => coupled_pure _)
  intro _
  exact coupled_ite (fun _ => coupled_pure _) fun _ => coupled_pure _

/-- What follows an exchange: nothing behind a failure, else something with its reply. -/
theorem exchanged_blind {α : Type} {msg : ZdtmMsg} {reply : ZaurusType}
    {sendFail recvFail typeFail : Int} {fail : Int → Session α} {done : ZdtmMsg → Session α}
    (hfail : ∀ code, Blind (fail code)) (hdone : ∀ m, Blind (done m)) :
    Blind (exchange b msg reply sendFail recvFail typeFail >>= fun
      | .error code => fail code
      | .ok m => done m) := by
  apply coupled_bind (exchange_blind b _ _ _ _ _)
  intro r
  cases r with
  | error code => exact hfail code
  | ok m => exact hdone m

end Messages

section Operations

variable (b : Build)

theorem obtainDeviceInfo_blind : Blind (zdtmObtainDeviceInfo b) := by
  apply exchanged_blind b (fun _ => coupled_pure _)
  intro m
  apply coupled_bind getEnv_blind
  intro env
  apply coupled_bind (coupled_lift _)
  intro model
  exact coupled_bind (modifyEnv_blind _) fun _ => coupled_pure _

theorem obtainSyncState_blind : Blind (zdtmObtainSyncState b) := by
  apply coupled_bind getEnv_blind
  intro env
  apply exchanged_blind b (fun _ => coupled_pure _)
  intro m
  exact coupled_bind (modifyEnv_blind _) fun _ => coupled_pure _

theorem resetSyncState_blind : Blind (zdtmResetSyncState b) := by
  apply coupled_bind getEnv_blind
  intro env
  apply exchanged_blind b (fun _ => coupled_pure _)
  intro m
  exact coupled_bind (modifyEnv_blind _) fun _ => coupled_pure _

theorem authenticatePasscode_blind (passcode : CString) :
    Blind (zdtmAuthenticatePasscode b passcode) := by
  apply coupled_bind (allocateInt_blind _)
  intro block
  cases block with
  | none => exact coupled_pure _
  | some block =>
    apply coupled_guard (wrappedSend_blind b _)
    apply coupled_bind (wrappedRecv_blind b)
    intro r
    apply coupled_ite
    · intro _
      apply coupled_bind (wrappedRecv_blind b)
      intro r
      apply coupled_ite (fun _ => coupled_pure _)
      intro _
      exact coupled_ite (fun _ => coupled_pure _) fun _ => coupled_pure _
    · intro _
      apply coupled_ite (fun _ => coupled_pure _)
      intro _
      exact coupled_ite (fun _ => coupled_pure _) fun _ => coupled_pure _

theorem obtainLastTimeSynced_blind (pTime : Int) : Blind (zdtmObtainLastTimeSynced b pTime) := by
  apply exchanged_blind b (fun _ => coupled_pure _)
  intro m
  apply coupled_bind getHost_blind
  intro host
  exact coupled_ite (fun _ => coupled_pure _) fun _ => coupled_pure _

theorem setLastTimeSynced_blind (timeSynced : Int) :
    Blind (zdtmSetLastTimeSynced b timeSynced) := by
  apply coupled_bind getHost_blind
  intro host
  cases host.localtimeR timeSynced with
  | none => exact coupled_pure _
  | some tm =>
    apply coupled_bind (coupled_lift _)
    intro date
    exact exchanged_blind b (fun _ => coupled_pure _) fun _ => coupled_pure _

theorem resetSyncLog_blind : Blind (zdtmResetSyncLog b) := by
  apply coupled_guard (wrappedSend_blind b _)
  apply coupled_bind (wrappedRecv_blind b)
  intro r
  apply coupled_ite (fun _ => coupled_pure _)
  intro _
  apply coupled_bind (wrappedRecv_blind b)
  intro r
  apply coupled_ite (fun _ => coupled_pure _)
  intro _
  apply coupled_ite (fun _ => coupled_pure _)
  intro _
  exact exchanged_blind b (fun _ => coupled_pure _) fun _ => coupled_pure _

theorem obtainParamFormat_blind : Blind (zdtmObtainParamFormat b) := by
  apply coupled_bind getEnv_blind
  intro env
  apply coupled_ite (fun _ => coupled_pure _)
  intro _
  apply exchanged_blind b (fun _ => coupled_pure _)
  intro m
  exact coupled_bind (modifyEnv_blind _) fun _ => coupled_pure _

theorem obtainItem_blind (syncId : UInt32) (item : ItemParams) :
    Blind (zdtmObtainItem b syncId item) := by
  apply coupled_bind getEnv_blind
  intro env
  exact exchanged_blind b (fun _ => coupled_pure _) fun _ => coupled_pure _

theorem obtainSyncIdLists_blind (lists : SyncIdLists) : Blind (zdtmObtainSyncIdLists b lists) := by
  apply coupled_bind getEnv_blind
  intro env
  apply exchanged_blind b (fun _ => coupled_pure _)
  intro m
  apply coupled_bind (allocate_blind _)
  intro newBlock
  apply coupled_ite (fun _ => coupled_pure _)
  intro _
  apply coupled_bind (allocate_blind _)
  intro modBlock
  apply coupled_ite (fun _ => coupled_pure _)
  intro _
  apply coupled_bind (allocate_blind _)
  intro delBlock
  apply coupled_ite (fun _ => coupled_pure _)
  intro _
  exact coupled_bind (coupled_lift _) fun _ => coupled_pure _

theorem answered_blind {msg : Env → ZdtmMsg} {reply : ZaurusType} {sendFail recvFail typeFail : Int} :
    Blind (do
      let env ← getEnv
      match ← exchange b (msg env) reply sendFail recvFail typeFail with
      | .error code => return code
      | .ok _ => return 0 : Session Int) := by
  apply coupled_bind getEnv_blind
  intro env
  exact exchanged_blind b (fun _ => coupled_pure _) fun _ => coupled_pure _

theorem noOutput_blind {x : Session Int} (h : Blind x) : Blind (noOutput x) :=
  coupled_bind h fun _ => coupled_pure _

theorem call_blind (op : Operation) : Blind (call b op) := by
  cases op with
  | obtainDeviceInfo => exact noOutput_blind (obtainDeviceInfo_blind b)
  | obtainSyncState => exact noOutput_blind (obtainSyncState_blind b)
  | resetSyncState => exact noOutput_blind (resetSyncState_blind b)
  | authenticatePasscode passcode => exact noOutput_blind (authenticatePasscode_blind b passcode)
  | obtainLastTimeSynced pTime => exact obtainLastTimeSynced_blind b pTime
  | setLastTimeSynced timeSynced => exact noOutput_blind (setLastTimeSynced_blind b timeSynced)
  | resetSyncLog => exact noOutput_blind (resetSyncLog_blind b)
  | obtainParamFormat => exact noOutput_blind (obtainParamFormat_blind b)
  | obtainItem syncId item => exact obtainItem_blind b syncId item
  | obtainSyncIdLists lists => exact obtainSyncIdLists_blind b lists
  | deleteItem syncId => exact noOutput_blind (answered_blind b)
  | stateSyncDone => exact noOutput_blind (answered_blind b)

theorem obtainParsedItem_blind {I : Type} (syncType : UInt8)
    (parse : List AdiMsgParam → List AdrMsgParam → I → Mem (Int × I)) (syncId : UInt32) (item : I) :
    Blind (obtainParsedItem b syncType parse syncId item) := by
  apply coupled_bind getEnv_blind
  intro env
  apply coupled_ite (fun _ => coupled_pure _)
  intro _
  apply coupled_bind (obtainItem_blind b syncId {})
  intro r
  apply coupled_ite (fun _ => coupled_pure _)
  intro _
  apply coupled_bind (sys_blind (mem_recut _))
  intro r
  exact coupled_ite (fun _ => coupled_pure _) fun _ => coupled_pure _

end Operations

section Descriptors

variable (b : Build)

theorem openDescriptor_blind : Blind openDescriptor := by
  apply coupled_bind answer_blind
  intro success
  apply coupled_ite
  · intro _
    apply coupled_bind getHost_blind
    intro host
    exact coupled_bind (modifyHost_blind _) fun _ => coupled_pure _
  · exact fun _ => coupled_pure _

theorem closeDescriptor_blind (socket : Socket) : Blind (closeDescriptor socket) := by
  cases socket with
  | none => exact coupled_pure _
  | some fd =>
    apply coupled_bind getHost_blind
    intro host
    apply coupled_ite (fun _ => coupled_pure _)
    intro _
    apply coupled_bind answer_blind
    intro success
    apply coupled_ite
    · exact fun _ => coupled_bind (modifyHost_blind _) fun _ => coupled_pure _
    · exact fun _ => coupled_pure _

/-- The functions that close a descriptor of the environment. -/
theorem closes_blind (socket : Env → Socket) : Blind (do
    let env ← getEnv
    if ← closeDescriptor (socket env) then return 0 else return -1 : Session Int) := by
  apply coupled_bind getEnv_blind
  intro env
  apply coupled_bind (closeDescriptor_blind _)
  intro closed
  exact coupled_ite (fun _ => coupled_pure _) fun _ => coupled_pure _

theorem closeLog_blind : Blind zdtmCloseLog := by
  apply coupled_bind getEnv_blind
  intro env
  apply coupled_ite (fun _ => coupled_pure _)
  intro _
  apply coupled_bind (closeDescriptor_blind _)
  intro closed
  exact coupled_ite (fun _ => coupled_pure _) fun _ => coupled_pure _

theorem openLog_blind : Blind zdtmOpenLog := by
  apply coupled_bind getHost_blind
  intro host
  cases host.home with
  | none => exact coupled_pure _
  | some home =>
    apply coupled_ite (fun _ => coupled_lift _)
    intro _
    apply coupled_ite (fun _ => coupled_pure _)
    intro _
    apply coupled_bind openDescriptor_blind
    intro logfp
    apply coupled_bind (modifyEnv_blind _)
    intro _
    exact coupled_ite (fun _ => coupled_pure _) fun _ => coupled_pure _

theorem listenForZaurus_blind : Blind zdtmListenForZaurus := by
  apply coupled_bind openDescriptor_blind
  intro listenfd
  apply coupled_bind (modifyEnv_blind _)
  intro _
  apply coupled_ite (fun _ => coupled_pure _)
  intro _
  apply coupled_bind answer_blind
  intro option
  apply coupled_ite (fun _ => coupled_pure _)
  intro _
  apply coupled_bind answer_blind
  intro bound
  apply coupled_ite (fun _ => coupled_pure _)
  intro _
  apply coupled_bind answer_blind
  intro listening
  exact coupled_ite (fun _ => coupled_pure _) fun _ => coupled_pure _

theorem connToZaurus_blind (zaurusIp : Bytes ipStrSize) : Blind (zdtmConnToZaurus zaurusIp) := by
  apply coupled_bind openDescriptor_blind
  intro reqfd
  apply coupled_bind (modifyEnv_blind _)
  intro _
  apply coupled_ite (fun _ => coupled_pure _)
  intro _
  apply coupled_bind getHost_blind
  intro host
  apply coupled_ite (fun _ => coupled_pure _)
  intro _
  apply coupled_bind answer_blind
  intro connected
  exact coupled_ite (fun _ => coupled_pure _) fun _ => coupled_pure _

theorem handleZaurusConn_blind : Blind zdtmHandleZaurusConn := by
  apply coupled_bind openDescriptor_blind
  intro connfd
  apply coupled_bind (modifyEnv_blind _)
  intro _
  exact coupled_ite (fun _ => coupled_pure _) fun _ => coupled_pure _

theorem connect_blind (ipAddr : Bytes ipStrSize) : Blind (zdtmConnect b ipAddr) := by
  apply coupled_guard (connToZaurus_blind ipAddr)
  apply coupled_bind (sys_blind (zdtmSendMessageTo_recut _ _))
  intro r
  apply coupled_ite (fun _ => coupled_pure _)
  intro _
  exact coupled_guard handleZaurusConn_blind (coupled_pure _)

end Descriptors

section Library

variable (b : Build)

theorem setter_blind (setter : Setter) : Blind setter.run := by
  cases setter with
  | setZaurusIp ipAddr =>
    apply coupled_bind (coupled_lift _)
    intro zaurusIp
    exact coupled_bind (modifyEnv_blind _) fun _ => coupled_pure _
  | setSyncType type => exact coupled_bind (modifyEnv_blind _) fun _ => coupled_pure _
  | setPasscode passcode =>
    apply coupled_bind (allocate_blind _)
    intro block
    cases block with
    | none => exact coupled_bind (modifyEnv_blind _) fun _ => coupled_pure _
    | some block => exact coupled_bind (modifyEnv_blind _) fun _ => coupled_pure _

theorem initialize_blind : Blind zdtmInitialize := by
  apply coupled_guard openLog_blind
  apply coupled_bind (modifyEnv_blind _)
  intro _
  exact coupled_guard listenForZaurus_blind (coupled_pure _)

/-- What is asked of the device only if it is not known yet. -/
theorem unlessKnown_blind {known : Env → Prop} [∀ env, Decidable (known env)]
    {x : Session Int} {f : Int → Session Int} (hx : Blind x) (hf : ∀ r, Blind (f r)) : Blind (do
      let env ← getEnv
      let r ← if known env then x else pure 0
      f r) := by
  apply coupled_bind getEnv_blind
  intro env
  apply coupled_ite
  · exact fun _ => coupled_bind hx hf
  · exact fun _ => coupled_bind (coupled_pure _) hf

theorem checkCurAuthState_blind : Blind (zdtmCheckCurAuthState b) := by
  apply unlessKnown_blind (obtainDeviceInfo_blind b)
  intro r
  apply coupled_ite (fun _ => coupled_pure _)
  intro _
  apply coupled_bind getEnv_blind
  intro env
  exact coupled_ite (fun _ => coupled_pure _) fun _ => coupled_pure _

theorem requiresSlowSync_blind : Blind (zdtmRequiresSlowSync b) := by
  apply unlessKnown_blind (obtainSyncState_blind b)
  intro r
  apply coupled_ite (fun _ => coupled_pure _)
  intro _
  exact coupled_bind getEnv_blind fun _ => coupled_pure _

theorem greet_blind : Blind (greet b) := by
  apply coupled_guard (sendMessage_blind b _)
  apply coupled_bind (recvMessage_blind b)
  intro r
  apply coupled_ite
  · exact fun _ => coupled_ite (fun _ => coupled_pure _) fun _ => coupled_pure _
  · intro _
    apply coupled_bind (wrappedRecv_blind b)
    intro r
    apply coupled_ite (fun _ => coupled_pure _)
    intro _
    exact coupled_ite (fun _ => coupled_pure _) fun _ => coupled_pure _

theorem authorize_blind : Blind (authorize b) := by
  apply coupled_bind (checkCurAuthState_blind b)
  intro r
  apply coupled_ite (fun _ => coupled_pure _)
  intro _
  apply coupled_ite
  · intro _
    apply coupled_bind getEnv_blind
    intro env
    cases env.passcode with
    | none => exact coupled_pure _
    | some passcode =>
      apply coupled_bind (authenticatePasscode_blind b passcode)
      intro retval
      apply coupled_ite (fun _ => coupled_pure _)
      intro _
      exact coupled_ite (fun _ => coupled_pure _) fun _ => coupled_pure _
  · exact fun _ => coupled_pure _

/-- A step that is taken for a slow sync only. -/
theorem ifSlow_blind {op : Session Int} {code : Int} (hop : Blind op) : Blind (do
    let slow ← zdtmRequiresSlowSync b
    if slow = 1 then
      let r ← op
      if r ≠ 0 then return code
    return 0 : Session Int) := by
  apply coupled_bind (requiresSlowSync_blind b)
  intro slow
  apply coupled_ite
  · exact fun _ => coupled_guard hop (coupled_pure _)
  · exact fun _ => coupled_pure _

theorem obtainTime_blind : Blind (obtainTime b) := by
  apply coupled_bind (obtainLastTimeSynced_blind b 0)
  intro r
  apply coupled_ite
  · exact fun _ => coupled_ite (fun _ => coupled_pure _) fun _ => coupled_pure _
  · exact fun _ => coupled_pure _

theorem storeTime_blind : Blind (storeTime b) := by
  apply coupled_bind getHost_blind
  intro host
  exact coupled_guard (setLastTimeSynced_blind b _) (coupled_pure _)

theorem obtainFormat_blind : Blind (obtainFormat b) := by
  apply coupled_guard (obtainParamFormat_blind b)
  apply coupled_bind getEnv_blind
  intro env
  exact coupled_bind (coupled_lift _) fun _ => coupled_pure _

theorem setUp_blind : Blind (setUp b) := by
  apply coupled_guard
  · apply coupled_bind (obtainDeviceInfo_blind b)
    intro r
    exact coupled_ite (fun _ => coupled_pure _) fun _ => coupled_pure _
  apply coupled_guard (coupled_guard (obtainSyncState_blind b) (coupled_pure _))
  apply coupled_guard (obtainTime_blind b)
  apply coupled_guard (ifSlow_blind b (resetSyncLog_blind b))
  apply coupled_guard (storeTime_blind b)
  apply coupled_guard (ifSlow_blind b (resetSyncState_blind b))
  exact obtainFormat_blind b

theorem initiateSync_blind : Blind (zdtmInitiateSync b) := by
  apply coupled_bind getEnv_blind
  intro env
  apply coupled_ite (fun _ => coupled_pure _)
  intro _
  apply coupled_ite (fun _ => coupled_pure _)
  intro _
  apply coupled_guard (connect_blind b _)
  apply coupled_guard (greet_blind b)
  apply coupled_guard (authorize_blind b)
  exact setUp_blind b

theorem terminateSync_blind : Blind (zdtmTerminateSync b) := by
  apply coupled_guard (wrappedSend_blind b _)
  apply coupled_bind (wrappedRecv_blind b)
  intro r
  apply coupled_ite (fun _ => coupled_pure _)
  intro _
  apply coupled_bind (recvMessage_blind b)
  intro r
  apply coupled_ite (fun _ => coupled_pure _)
  intro _
  apply coupled_guard (sendMessage_blind b _)
  apply coupled_guard
  · exact coupled_guard (closes_blind Env.reqfd) (coupled_pure _)
  · exact coupled_pure _

theorem finalize_blind : Blind zdtmFinalize := by
  apply coupled_guard (closes_blind Env.listenfd)
  exact coupled_guard closeLog_blind (coupled_pure _)

theorem apiCall_blind (call : ApiCall) : Blind (call.run b) := by
  cases call with
  | initializeEnv => exact coupled_bind initialize_blind fun _ => coupled_pure _
  | set setter => exact coupled_bind (setter_blind setter) fun _ => coupled_pure _
  | initiateSync => exact coupled_bind (initiateSync_blind b) fun _ => coupled_pure _
  | checkCurAuthState => exact coupled_bind (checkCurAuthState_blind b) fun _ => coupled_pure _
  | requiresSlowSync => exact coupled_bind (requiresSlowSync_blind b) fun _ => coupled_pure _
  | operation op => exact coupled_bind (call_blind b op) fun _ => coupled_pure _
  | obtainTodoItem syncId item =>
    exact coupled_bind (obtainParsedItem_blind b _ _ syncId item) fun _ => coupled_pure _
  | obtainCalendarItem syncId item =>
    exact coupled_bind (obtainParsedItem_blind b _ _ syncId item) fun _ => coupled_pure _
  | obtainAddressItem syncId item =>
    exact coupled_bind (obtainParsedItem_blind b _ _ syncId item) fun _ => coupled_pure _
  | terminateSync => exact coupled_bind (terminateSync_blind b) fun _ => coupled_pure _
  | finalize => exact coupled_bind finalize_blind fun _ => coupled_pure _

end Library

/-- Whatever an application calls, and whatever arrives in whatever pieces, nothing
that it gets or does depends on the pieces. -/
theorem cuts_invisible (b : Build) (calls : List ApiCall) (s s' : State) (h : RecutState s s') :
    (runCalls b calls s).1 = (runCalls b calls s').1 ∧
      RecutState (runCalls b calls s).2 (runCalls b calls s').2 := by
  have hblind : Blind (runCalls b calls) := by
    induction calls with
    | nil => exact coupled_pure _
    | cons call calls ih =>
      apply coupled_bind (apiCall_blind b call)
      intro r
      exact coupled_bind ih fun _ => coupled_pure _
  exact hblind s s' h

/-- The stream of a device, one byte at a time. -/
def dribble (stream : List UInt8) : List (Chunked.Event UInt8) :=
  stream.map fun byte => .data [byte] (List.cons_ne_nil _ _)

theorem arrivals_dribble (stream : List UInt8) :
    Chunked.arrivals (dribble stream) = stream.map some := by
  induction stream with
  | nil => rfl
  | cons byte stream ih => simpa [dribble] using ih

/-- A synchronization of to-do items that deletes one of them. -/
def deletingApp : List ApiCall :=
  .initializeEnv :: todoSetters.map .set ++
    [.initiateSync, .operation (.deleteItem 7), .terminateSync, .finalize]

def dribbledState : State :=
  { sessionState with world := { sessionState.world with inbox := dribble partingDevice } }

theorem sessionState_dribbled : RecutState sessionState dribbledState where
  world := ⟨rfl, by simp [sessionState, dribbledState, deviceState, arrivals_dribble], rfl, rfl⟩
  env := rfl
  host := rfl
  events := rfl

theorem cuts_invisible_dribble :
    (runCalls .littleEndian deletingApp sessionState).1 =
        (runCalls .littleEndian deletingApp dribbledState).1 ∧
      RecutState (runCalls .littleEndian deletingApp sessionState).2
        (runCalls .littleEndian deletingApp dribbledState).2 :=
  cuts_invisible .littleEndian deletingApp sessionState dribbledState sessionState_dribbled

end ZdtmCuts
