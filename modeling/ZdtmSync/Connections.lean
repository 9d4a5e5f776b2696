import ZdtmSync.Proto

/-!
# Descriptors of a session

The functions that open and close the log file, the listening socket and the two
connections with the Zaurus. The host keeps the set of open descriptors and a
history of it; closing a descriptor that is not open fails.
-/

namespace ZdtmConnections

open CMemory Programs ZdtmTypes ZdtmNet ZdtmSession ZdtmProto

/-- Whether the next system call succeeds. -/
def answer : Session Bool := fun s =>
  match s.host.answers with
  | [] => (.ok true, s)
  | success :: answers => (.ok success, { s with host := { s.host with answers } })

def opened (fd : Nat) (host : Host) : Host :=
  { host with descriptors := fd :: host.descriptors, history := host.history ++ [.opened fd] }

def closed (fd : Nat) (host : Host) : Host :=
  { host with
    descriptors := host.descriptors.erase fd, history := host.history ++ [.closed fd] }

def modifyHost (g : Host → Host) : Session Unit :=
  Program.modify fun s => { s with host := g s.host }

/-- `socket`, `accept` and `fopen`. -/
def openDescriptor : Session Socket := do
  if ← answer then
    let host ← getHost
    let fd := (host.pick host.descriptors).1
    modifyHost (opened fd)
    return some fd
  else return none

/-- `close` and `fclose`. -/
def closeDescriptor (socket : Socket) : Session Bool := do
  match socket with
  | none => return false
  | some fd =>
    let host ← getHost
    if fd ∉ host.descriptors then return false
    if ← answer then
      modifyHost (closed fd)
      return true
    else return false

/-- A home directory of 256 characters and more leaves no NUL in the path. -/
def zdtmOpenLog : Session Int := do
  let host ← getHost
  match host.home with
  | none => return -1
  | some home =>
    if 256 ≤ home.1.length then Program.lift (.error .overread)
    else if 256 - home.1.length - 1 < 19 then return -2
    else
      let logfp ← openDescriptor
      modifyEnv fun env => { env with logfp }
      if logfp = none then return -3
      return 0

/-- The stream stays in the environment, closed or not. -/
def zdtmCloseLog : Session Int := do
  let env ← getEnv
  if env.logfp = none then return -2
  if ← closeDescriptor env.logfp then return 0 else return -1

def zdtmListenForZaurus : Session Int := do
  let listenfd ← openDescriptor
  modifyEnv fun env => { env with listenfd }
  if listenfd = none then return -1
  -- `setsockopt`, `bind` and `listen`
  if !(← answer) then return -2
  if !(← answer) then return -3
  if !(← answer) then return -4
  return 0

def zdtmStopListening : Session Int := do
  let env ← getEnv
  if ← closeDescriptor env.listenfd then return 0 else return -1

def zdtmHandleZaurusConn : Session Int := do
  let connfd ← openDescriptor
  modifyEnv fun env => { env with connfd }
  if connfd = none then return -1
  return 0

def zdtmCloseZaurusConn : Session Int := do
  let env ← getEnv
  if ← closeDescriptor env.connfd then return 0 else return -1

def zdtmConnToZaurus (zaurusIp : Bytes ipStrSize) : Session Int := do
  let reqfd ← openDescriptor
  modifyEnv fun env => { env with reqfd }
  if reqfd = none then return -1
  let host ← getHost
  if !host.inetPton zaurusIp then return -2
  if !(← answer) then return -3
  return 0

def zdtmCloseConnToZaurus : Session Int := do
  let env ← getEnv
  if ← closeDescriptor env.reqfd then return 0 else return -1

/-- Ask the Zaurus over a connection of its own to connect back, and wait for that. -/
def zdtmConnect (b : Build) (ipAddr : Bytes ipStrSize) : Session Int := do
  let r ← zdtmConnToZaurus ipAddr
  if r ≠ 0 then return -1
  let (r, _) ← sys (zdtmSendMessageTo b (desktopMsg .ray {}) .reqfd)
  if r ≠ 0 then return -2
  let r ← zdtmHandleZaurusConn
  if r ≠ 0 then return -3
  return 0

def zdtmDisconnect : Session Int := do
  let r ← zdtmCloseConnToZaurus
  if r ≠ 0 then return -1
  return 0

end ZdtmConnections
