import ZdtmSync.Connections
import ZdtmSync.Items

/-!
# The library

`zdtm_sync.c`: the environment is initialized and set up, a synchronization is
initiated, its items are handled, and it is terminated and finalized.
`zdtm_initiate_sync` is the sequence of its stages; each stage returns 0, or the
value that the function returns.
-/

namespace ZdtmSync

open CMemory Programs ZdtmTypes ZdtmMsgs ZdtmNet ZdtmItems ZdtmSession ZdtmProto ZdtmConnections

/-- Everything that `zdtm_initialize` sets between the log and the socket. -/
def initialEnv (env : Env) : Env :=
  { env with
    zaurusIp := zeros ipStrSize
    syncType := 0x00
    retreivedDeviceInfo := 0
    retrievedSyncState := 0
    todoSlowSyncRequired := 0
    calendarSlowSyncRequired := 0
    addressBookSlowSyncRequired := 0
    numParams := 0
    params := none
    passcode := none }

def zdtmInitialize : Session Int := do
  let r ← zdtmOpenLog
  if r ≠ 0 then return -1
  modifyEnv initialEnv
  let r ← zdtmListenForZaurus
  if r ≠ 0 then return -2
  return 0

/-- As many bytes as the member has are copied from the address, also of a string that
ends before. `ipAddr` are the bytes of the caller from there on. -/
def zdtmSetZaurusIp (ipAddr : List UInt8) : Session Int := do
  let zaurusIp ← Program.lift (copyBytes ipStrSize ipAddr)
  modifyEnv fun env => { env with zaurusIp }
  return 0

def syncTypeOf (type : Nat) : UInt8 :=
  match type with
  | 0 => 0x06
  | 1 => 0x01
  | 2 => 0x07
  | _ => 0x00

def zdtmSetSyncType (type : Nat) : Session Int := do
  modifyEnv fun env => { env with syncType := syncTypeOf type }
  return 0

def zdtmSetPasscode (passcode : CString) : Session Int := do
  match ← allocate (passcode.1.length + 1) with
  | none =>
    modifyEnv fun env => { env with passcode := none }
    return -1
  | some _ =>
    modifyEnv fun env => { env with passcode := some passcode }
    return 0

def zdtmCheckCurAuthState (b : Build) : Session Int := do
  let env ← getEnv
  let r ← if env.retreivedDeviceInfo = 0 then zdtmObtainDeviceInfo b else pure 0
  if r ≠ 0 then return -1
  let env ← getEnv
  if env.curAuthState = 0x0b ∨ env.curAuthState = 0x07 then return 1
  return 0

/-- The flag of the current sync type, or -2 without one. -/
def slowSyncFlag (env : Env) : Int :=
  if env.syncType = syncTypeTodo then env.todoSlowSyncRequired
  else if env.syncType = syncTypeCalendar then env.calendarSlowSyncRequired
  else if env.syncType = syncTypeAddress then env.addressBookSlowSyncRequired
  else -2

def zdtmRequiresSlowSync (b : Build) : Session Int := do
  let env ← getEnv
  let r ← if env.retrievedSyncState = 0 then zdtmObtainSyncState b else pure 0
  if r ≠ 0 then return -1
  let env ← getEnv
  return slowSyncFlag env

/-- RAY, its acknowledgement, and AAY. -/
def greet (b : Build) : Session Int := do
  let r ← sendMessage b (desktopMsg .ray {})
  if r ≠ 0 then return -1
  let (r, _) ← recvMessage b
  if r ≠ 1 then
    if r = 0 then return -1 else return -2
  let (r, rmsg) ← zdtmWrappedRecvMessage b
  if r ≠ 0 then return -3
  if rmsg.body.type ≠ ZaurusType.aay.bytes then return -4
  return 0

def authorize (b : Build) : Session Int := do
  let r ← zdtmCheckCurAuthState b
  if r < 0 then return -6
  if r = 1 then
    let env ← getEnv
    match env.passcode with
    | none => return -8
    | some passcode =>
      let retval ← zdtmAuthenticatePasscode b passcode
      if retval = 1 then return 1
      if retval ≠ 0 then return -7
      return 0
  return 0

def obtainDevice (b : Build) : Session Int := do
  let r ← zdtmObtainDeviceInfo b
  if r < 0 then return -9
  return 0

def obtainState (b : Build) : Session Int := do
  let r ← zdtmObtainSyncState b
  if r ≠ 0 then return -10
  return 0

def obtainTime (b : Build) : Session Int := do
  let (r, _) ← zdtmObtainLastTimeSynced b 0
  if r ≠ 0 then
    if r = 1 then return -11 else return -12
  return 0

def resetLogIfSlow (b : Build) : Session Int := do
  let slow ← zdtmRequiresSlowSync b
  if slow = 1 then
    let r ← zdtmResetSyncLog b
    if r ≠ 0 then return -13
  return 0

def storeTime (b : Build) : Session Int := do
  let host ← getHost
  let r ← zdtmSetLastTimeSynced b host.time
  if r ≠ 0 then return -14
  return 0

def resetStateIfSlow (b : Build) : Session Int := do
  let slow ← zdtmRequiresSlowSync b
  if slow = 1 then
    let r ← zdtmResetSyncState b
    if r ≠ 0 then return -15
  return 0

/-- One round of the loop over the parameters. -/
def copyParam (buff : Bytes 256) (param : AdiMsgParam) : Except Fault (Bytes 256) := do
  let buff ← copyString buff (some param.abrev.toList) 4
  copyString buff param.desc param.descLen.toNat

def copyParams : Nat → List AdiMsgParam → Bytes 256 → Except Fault (Bytes 256)
  | 0, _, buff => .ok buff
  | _ + 1, [], _ => .error .overread
  | n + 1, param :: params, buff => do
    let buff ← copyParam buff param
    copyParams n params buff

def obtainFormat (b : Build) : Session Int := do
  let r ← zdtmObtainParamFormat b
  if r ≠ 0 then return -16
  let env ← getEnv
  let _ ← Program.lift (copyParams env.numParams.toNat (env.params.getD []) (zeros 256))
  return 0

/-- The stages behind the authorization. -/
def setUp (b : Build) : Session Int := do
  let r ← obtainDevice b
  if r ≠ 0 then return r
  let r ← obtainState b
  if r ≠ 0 then return r
  let r ← obtainTime b
  if r ≠ 0 then return r
  let r ← resetLogIfSlow b
  if r ≠ 0 then return r
  let r ← storeTime b
  if r ≠ 0 then return r
  let r ← resetStateIfSlow b
  if r ≠ 0 then return r
  obtainFormat b

def zdtmInitiateSync (b : Build) : Session Int := do
  let env ← getEnv
  if env.syncType = 0x00 then return -7
  if env.zaurusIp = zeros ipStrSize then return -5
  let r ← zdtmConnect b env.zaurusIp
  if r ≠ 0 then return -6
  let r ← greet b
  if r ≠ 0 then return r
  let r ← authorize b
  if r ≠ 0 then return r
  setUp b

/-- The six variables that the caller points to. -/
structure SyncIdLists where
  newSyncIds : Option (List UInt32) := none
  numNewSyncIds : UInt16 := 0
  modSyncIds : Option (List UInt32) := none
  numModSyncIds : UInt16 := 0
  delSyncIds : Option (List UInt32) := none
  numDelSyncIds : UInt16 := 0

def copyIds (syncIds : Option (List UInt32)) (num : UInt16) : Except Fault (List UInt32) :=
  if num.toNat ≤ (syncIds.getD []).length then .ok ((syncIds.getD []).take num.toNat)
  else .error .overread

def copyLists (asy : AsyMsgContent) : Except Fault SyncIdLists := do
  let newSyncIds ← copyIds asy.newSyncIds asy.numNewSyncIds
  let modSyncIds ← copyIds asy.modSyncIds asy.numModSyncIds
  let delSyncIds ← copyIds asy.delSyncIds asy.numDelSyncIds
  return {
    newSyncIds := some newSyncIds, numNewSyncIds := asy.numNewSyncIds
    modSyncIds := some modSyncIds, numModSyncIds := asy.numModSyncIds
    delSyncIds := some delSyncIds, numDelSyncIds := asy.numDelSyncIds }

def rsyContent (syncType : UInt8) : SpecTypeContent where
  rsy := { syncType, uk := 0x07 }

def zdtmObtainSyncIdLists (b : Build) (lists : SyncIdLists) : Session (Int × SyncIdLists) := do
  let env ← getEnv
  match ← exchange b (desktopMsg .rsy (rsyContent env.syncType)) .asy (-1) (-2) (-3) with
  | .error code => return (code, lists)
  | .ok rmsg =>
    let asy := rmsg.body.cont.asy
    let newBlock ← allocate (4 * asy.numNewSyncIds.toNat)
    if newBlock = none then return (-4, lists)
    let modBlock ← allocate (4 * asy.numModSyncIds.toNat)
    if modBlock = none then return (-4, lists)
    let delBlock ← allocate (4 * asy.numDelSyncIds.toNat)
    if delBlock = none then return (-4, lists)
    let lists ← Program.lift (copyLists asy)
    return (0, lists)

section Items

variable {I : Type}

/-- The parameter format of the environment. -/
def paramFormat (env : Env) : List AdiMsgParam := (env.params.getD []).take env.numParams.toNat

def itemParams (item : ItemParams) : List AdrMsgParam :=
  (item.params.getD []).take item.numParams.toNat

/-- The three functions that obtain an item differ in its type and its parser. -/
def obtainParsedItem (b : Build) (syncType : UInt8)
    (parse : List AdiMsgParam → List AdrMsgParam → I → Mem (Int × I)) (syncId : UInt32)
    (item : I) : Session (Int × I) := do
  let env ← getEnv
  if env.syncType ≠ syncType then return (-1, item)
  let (r, got) ← zdtmObtainItem b syncId {}
  if r ≠ 0 then return (-2, item)
  let (r, item) ← sys (mem (parse (paramFormat env) (itemParams got) item))
  if r ≠ 0 then return (-3, item)
  return (0, item)

end Items

def zdtmObtainTodoItem (b : Build) (syncId : UInt32) (item : TodoItem) :
    Session (Int × TodoItem) :=
  obtainParsedItem b syncTypeTodo (zdtmParseTodoItemParams b) syncId item

def zdtmObtainCalendarItem (b : Build) (syncId : UInt32) (item : CalendarItem) :
    Session (Int × CalendarItem) :=
  obtainParsedItem b syncTypeCalendar (zdtmParseCalendarItemParams b) syncId item

def zdtmObtainAddressItem (b : Build) (syncId : UInt32) (item : AddressItem) :
    Session (Int × AddressItem) :=
  obtainParsedItem b syncTypeAddress (zdtmParseAddressItemParams b) syncId item

def rddContent (syncType : UInt8) (syncId : UInt32) : SpecTypeContent where
  rdd := { syncType, numSyncIds := 1, syncId }

def zdtmDeleteItem (b : Build) (syncId : UInt32) : Session Int := do
  let env ← getEnv
  match ← exchange b (desktopMsg .rdd (rddContent env.syncType syncId)) .aex (-1) (-2) (-3) with
  | .error code => return code
  | .ok _ => return 0

/-- The reply to RQT is received, but nothing looks at it. -/
def zdtmTerminateSync (b : Build) : Session Int := do
  let r ← zdtmWrappedSendMessage b (desktopMsg .rqt {})
  if r ≠ 0 then return -1
  let (r, _) ← zdtmWrappedRecvMessage b
  if r ≠ 0 then return -2
  let (r, _) ← recvMessage b
  if r ≠ 2 then return -3
  let r ← sendMessage b (desktopMsg .ray {})
  if r ≠ 0 then return -4
  let r ← zdtmDisconnect
  if r ≠ 0 then return -5
  return 0

/-- The format and the passcode are freed, but stay in the environment: whether they are
used again is a matter of the calls behind. -/
def zdtmFinalize : Session Int := do
  let r ← zdtmStopListening
  if r ≠ 0 then return -2
  let r ← zdtmCloseLog
  if r ≠ 0 then return -1
  return 0

end ZdtmSync
