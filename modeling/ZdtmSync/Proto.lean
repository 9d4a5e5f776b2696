import ZdtmSync.Session

/-!
# Protocol operations

The request and reply operations of `zdtm_proto.c`. Most of them send one
message, receive the reply and compare its type; `exchange` is that part, with
the codes that an operation returns for each failure. The authentication and the
reset of the log read again after an abort message.
-/

namespace ZdtmProto

open LittleEndian CMemory Programs ZdtmTypes ZdtmCommon ZdtmMsgs ZdtmNet ZdtmSession

abbrev syncTypeCalendar : UInt8 := 0x01
abbrev syncTypeAddress : UInt8 := 0x07

abbrev amgTodoMask : UInt8 := 0x01
abbrev amgCalMask : UInt8 := 0x02
abbrev amgAddrMask : UInt8 := 0x04

/-- A zeroed message with its type and the content that the caller fills in. -/
def desktopMsg (t : DesktopType) (cont : SpecTypeContent) : ZdtmMsg where
  body := { type := t.bytes, cont }

/-- Send the message, receive the reply and check that it has the type. -/
def exchange (b : Build) (msg : ZdtmMsg) (reply : ZaurusType) (sendFail recvFail typeFail : Int) :
    Session (Except Int ZdtmMsg) := do
  let r ← zdtmWrappedSendMessage b msg
  if r ≠ 0 then return .error sendFail
  let (r, rmsg) ← zdtmWrappedRecvMessage b
  if r ≠ 0 then return .error recvFail
  if rmsg.body.type ≠ reply.bytes then return .error typeFail
  return .ok rmsg

/-- `memcpy` of `len` characters into an array and a NUL behind them. -/
def copyString {n : Nat} (dst : Bytes n) (src : Ptr) (len : Nat) : Except Fault (Bytes n) := do
  let string ← load src len
  let filled ← store dst.toList (string ++ [0])
  copyBytes n filled

def zdtmObtainDeviceInfo (b : Build) : Session Int := do
  match ← exchange b (desktopMsg .rig {}) .aig (-1) (-2) (-3) with
  | .error code => return code
  | .ok rmsg =>
    let aig := rmsg.body.cont.aig
    let env ← getEnv
    let model ← Program.lift (copyString env.model aig.modelStr aig.modelStrLen.toNat)
    modifyEnv fun env =>
      { env with
        model, language := aig.language, curAuthState := aig.authState, retreivedDeviceInfo := 1 }
    return 0

/-- The flags are set for the clear bits and left alone for the others. -/
def storeSyncState (flags : UInt8) (env : Env) : Env :=
  { env with
    todoSlowSyncRequired := if flags &&& amgTodoMask = 0 then 1 else env.todoSlowSyncRequired
    calendarSlowSyncRequired :=
      if flags &&& amgCalMask = 0 then 1 else env.calendarSlowSyncRequired
    addressBookSlowSyncRequired :=
      if flags &&& amgAddrMask = 0 then 1 else env.addressBookSlowSyncRequired
    retrievedSyncState := 1 }

def rmgContent (syncType : UInt8) : SpecTypeContent where
  rmg := { uk := 0x01, syncType }

def zdtmObtainSyncState (b : Build) : Session Int := do
  let env ← getEnv
  match ← exchange b (desktopMsg .rmg (rmgContent env.syncType)) .amg (-1) (-2) (-3) with
  | .error code => return code
  | .ok rmsg =>
    modifyEnv (storeSyncState rmsg.body.cont.amg.fullsyncFlags)
    return 0

/-- The `switch` over the sync type: no case ends with a `break`. -/
def resetFlags (env : Env) : Env :=
  if env.syncType = 0 then
    { env with
      todoSlowSyncRequired := 1, calendarSlowSyncRequired := 1, addressBookSlowSyncRequired := 1 }
  else if env.syncType = 1 then
    { env with calendarSlowSyncRequired := 1, addressBookSlowSyncRequired := 1 }
  else { env with addressBookSlowSyncRequired := 1 }

def rssContent (syncType : UInt8) : SpecTypeContent where
  rss := { uk1 := 0x01, syncType, uk2 := 0x01 }

def zdtmResetSyncState (b : Build) : Session Int := do
  let env ← getEnv
  match ← exchange b (desktopMsg .rss (rssContent env.syncType)) .aex (-1) (-2) (-3) with
  | .error code => return code
  | .ok _ =>
    modifyEnv resetFlags
    return 0

/-- `pw_size` is an `int` before it is stored in a byte. -/
def pwSize (passcode : CString) : Int := toInt passcode.1.length

def rrlContent (passcode : CString) : SpecTypeContent where
  rrl := {
    pwSize := UInt8.ofInt (pwSize passcode)
    pw := some (passcode.1.take (pwSize passcode).toNat) }

/-- After an abort message the device says in an ANG message that it denies. -/
def zdtmAuthenticatePasscode (b : Build) (passcode : CString) : Session Int := do
  match ← allocateInt (pwSize passcode) with
  | none => return -1
  | some _ =>
    let r ← zdtmWrappedSendMessage b (desktopMsg .rrl (rrlContent passcode))
    if r ≠ 0 then return -2
    let (r, rmsg) ← zdtmWrappedRecvMessage b
    if r = 3 then
      let (r, angmsg) ← zdtmWrappedRecvMessage b
      if r ≠ 0 then return -3
      if angmsg.body.type = ZaurusType.ang.bytes then return 1
      return -4
    if r ≠ 0 then return -5
    if rmsg.body.type = ZaurusType.aex.bytes then return 0
    return -6

/-- The digits at the start of a string, after those before it. -/
def digits (n : Nat) : List UInt8 → Nat
  | [] => n
  | c :: s => if 0x30 ≤ c ∧ c ≤ 0x39 then digits (10 * n + (c.toNat - 0x30)) s else n

def isSpace (c : UInt8) : Bool := c = 0x20 ∨ (0x09 ≤ c ∧ c ≤ 0x0d)

def atoi (s : List UInt8) : Int :=
  match s.dropWhile isSpace with
  | 0x2d :: s => -(digits 0 s : Int)
  | 0x2b :: s => digits 0 s
  | s => digits 0 s

def atgTime (atg : AtgMsgContent) : Tm where
  tmYear := atoi atg.year.toList - 1900
  tmMon := atoi atg.month.toList - 1
  tmMday := atoi atg.day.toList
  tmHour := atoi atg.hour.toList
  tmMin := atoi atg.minutes.toList
  tmSec := atoi atg.seconds.toList
  tmIsdst := -1

/-- The test whether all fields are zero compares the arrays, not their bytes,
with NULL: it never holds. The second result is what `p_time` points to. -/
def zdtmObtainLastTimeSynced (b : Build) (pTime : Int) : Session (Int × Int) := do
  match ← exchange b (desktopMsg .rtg {}) .atg (-1) (-2) (-3) with
  | .error code => return (code, pTime)
  | .ok rmsg =>
    let host ← getHost
    let lastSyncTime := host.mktime (atgTime rmsg.body.cont.atg)
    if lastSyncTime = -1 then return (-4, pTime)
    return (0, lastSyncTime)

/-- `%.{width}d`. -/
def decimal (width : Nat) (n : Int) : List UInt8 :=
  (if n < 0 then [0x2d] else []) ++
    ((Nat.toDigits 10 n.natAbs).map fun c => UInt8.ofNat c.toNat).leftpad width 0x30

def formatTime (tm : Tm) : List UInt8 :=
  decimal 4 (tm.tmYear + 1900) ++ decimal 2 (tm.tmMon + 1) ++ decimal 2 tm.tmMday ++
    decimal 2 tm.tmHour ++ decimal 2 tm.tmMin ++ decimal 2 tm.tmSec

def rtsContent (date : Bytes rtsDateLen) : SpecTypeContent where
  rts := { date }

/-- `snprintf` does not fail; it cuts the text to fourteen characters. -/
def zdtmSetLastTimeSynced (b : Build) (timeSynced : Int) : Session Int := do
  let host ← getHost
  match host.localtimeR timeSynced with
  | none => return -1
  | some tm =>
    let date ← Program.lift (copyBytes rtsDateLen (formatTime tm))
    match ← exchange b (desktopMsg .rts (rtsContent date)) .aex (-3) (-4) (-5) with
    | .error code => return code
    | .ok _ => return 0

def rmsLog (bytes : List UInt8) (h : bytes.length ≤ rmsLogSize) : Bytes rmsLogSize :=
  ⟨bytes ++ List.replicate (rmsLogSize - bytes.length) 0, by
    rw [List.length_append, List.length_replicate]
    omega⟩

def rmsContent (bytes : List UInt8) (h : bytes.length ≤ rmsLogSize) : SpecTypeContent where
  rms := { logSize := UInt16.ofNat bytes.length, log := rmsLog bytes h }

def emptyLog : SpecTypeContent := rmsContent [] (Nat.zero_le _)

def resetLog : SpecTypeContent := rmsContent [0x01, 0x02, 0x03, 0x04, 0x05] (by decide)

def zdtmResetSyncLog (b : Build) : Session Int := do
  let r ← zdtmWrappedSendMessage b (desktopMsg .rms emptyLog)
  if r ≠ 0 then return -1
  let (r, _) ← zdtmWrappedRecvMessage b
  if r ≠ 3 then return -2
  let (r, rmsg) ← zdtmWrappedRecvMessage b
  if r ≠ 0 then return -3
  if rmsg.body.type ≠ ZaurusType.ang.bytes then return -4
  match ← exchange b (desktopMsg .rms resetLog) .aex (-5) (-6) (-7) with
  | .error code => return code
  | .ok _ => return 0

def rdiContent (syncType : UInt8) : SpecTypeContent where
  rdi := { syncType, uk := 0x07 }

def zdtmObtainParamFormat (b : Build) : Session Int := do
  let env ← getEnv
  if env.params ≠ none then return -4
  match ← exchange b (desktopMsg .rdi (rdiContent env.syncType)) .adi (-1) (-2) (-3) with
  | .error code => return code
  | .ok rmsg =>
    let adi := rmsg.body.cont.adi
    modifyEnv fun env => { env with numParams := adi.numParams, params := adi.params }
    return 0

/-- The parameters of an item, as the caller's two variables hold them. -/
structure ItemParams where
  params : Option (List AdrMsgParam) := none
  numParams : UInt16 := 0

def rdrContent (syncType : UInt8) (syncId : UInt32) : SpecTypeContent where
  rdr := { syncType, numSyncIds := 1, syncId }

def zdtmObtainItem (b : Build) (syncId : UInt32) (item : ItemParams) :
    Session (Int × ItemParams) := do
  let env ← getEnv
  match ← exchange b (desktopMsg .rdr (rdrContent env.syncType syncId)) .adr (-1) (-2) (-3) with
  | .error code => return (code, item)
  | .ok rmsg =>
    let adr := rmsg.body.cont.adr
    return (0, { params := adr.params, numParams := adr.numParams })

def rdsContent (syncType : UInt8) : SpecTypeContent where
  rds := { syncType, status := 0x07 }

def zdtmStateSyncDone (b : Build) : Session Int := do
  let env ← getEnv
  match ← exchange b (desktopMsg .rds (rdsContent env.syncType)) .aex (-1) (-2) (-3) with
  | .error code => return code
  | .ok _ => return 0

end ZdtmProto
