import ZdtmSync.Programs
import ZdtmSync.Delivery
import ZdtmSync.Receiving

/-!
# A session with the Zaurus

The environment of a synchronization, the services of the host that the library
calls, and the two functions of `zdtm_net.c` that wrap a message of the Desktop
or of the Zaurus into requests and acknowledgements. A state also records, for
the statements only, each call that moved bytes over `connfd`, with these bytes.
A program that faults keeps the state from before the call that faulted.
-/

namespace ZdtmSession

open CMemory Programs ZdtmTypes ZdtmMsgs ZdtmNet ZdtmDelivery ZdtmReceiving

abbrev ipStrSize : Nat := 16

/-- The characters of a C string, without the NUL that ends it. -/
abbrev CString := { s : List UInt8 // 0 ∉ s }

/-- A descriptor, or INVALID_SOCKET. -/
abbrev Socket := Option Nat

/-- `zdtm_lib_env`. -/
structure Env where
  listenfd : Socket := none
  connfd : Socket := none
  reqfd : Socket := none
  logfp : Option Nat := none
  retreivedDeviceInfo : Int := 0
  model : Bytes 256 := zeros 256
  language : Bytes 2 := zeros 2
  curAuthState : UInt8 := 0
  zaurusIp : Bytes ipStrSize := zeros ipStrSize
  syncType : UInt8 := 0
  retrievedSyncState : Int := 0
  todoSlowSyncRequired : Int := 0
  calendarSlowSyncRequired : Int := 0
  addressBookSlowSyncRequired : Int := 0
  numParams : UInt16 := 0
  params : Option (List AdiMsgParam) := none
  passcode : Option CString := none

/-- `struct tm`, as far as it is filled in or read. -/
structure Tm where
  tmSec : Int
  tmMin : Int
  tmHour : Int
  tmMday : Int
  tmMon : Int
  tmYear : Int
  tmIsdst : Int
  deriving DecidableEq

inductive DescriptorEvent where
  | opened (fd : Nat)
  | closed (fd : Nat)
  deriving DecidableEq

/-- What the library asks the host for: a descriptor that is not open yet,
whether the system calls to come succeed (after the last answer they all do),
and the time. -/
structure Host where
  home : Option CString := none
  pick : (descriptors : List Nat) → { fd : Nat // fd ∉ descriptors }
  descriptors : List Nat := []
  answers : List Bool := []
  history : List DescriptorEvent := []
  inetPton : Bytes ipStrSize → Bool := fun _ => true
  time : Int := 0
  localtimeR : Int → Option Tm := fun _ => none
  mktime : Tm → Int := fun _ => -1

/-- A number above all open descriptors. -/
def fresh : List Nat → Nat
  | [] => 0
  | fd :: descriptors => max (fd + 1) (fresh descriptors)

theorem lt_fresh {fd : Nat} {descriptors : List Nat} (h : fd ∈ descriptors) :
    fd < fresh descriptors := by
  induction h with
  | head descriptors =>
    rw [fresh]
    omega
  | tail other _ ih =>
    rw [fresh]
    omega

/-- A host on which every call succeeds and nothing is open. -/
def quietHost : Host where
  home := some ⟨[0x2f], by decide⟩
  pick descriptors := ⟨fresh descriptors, fun h => Nat.lt_irrefl _ (lt_fresh h)⟩

/-- A call that moves bytes over `connfd`, with what it returned. -/
inductive Call where
  | comm (m : CommonMsg) (r : Int)
  | message (msg : ZdtmMsg) (r : Int)
  | recv (r : Int) (msg : ZdtmMsg)

structure Event where
  call : Call
  io : List Io

structure State where
  world : World
  env : Env
  host : Host
  events : List Event := []

abbrev Session (α : Type) := Program State Fault α

section Lift

variable {α : Type}

/-- A function of the network part that is not recorded. -/
def sys (x : Sys α) : Session α := fun s =>
  match x s.world with
  | .ok (a, world) => (.ok a, { s with world })
  | .error f => (.error f, s)

/-- A function of the network part, recorded with the bytes it moved. -/
def recorded (x : Sys α) (call : α → Call) : Session α := fun s =>
  match x s.world with
  | .ok (a, world) =>
    (.ok a, { s with
      world, events := s.events ++ [⟨call a, world.trace.drop s.world.trace.length⟩] })
  | .error f => (.error f, s)

end Lift

def getEnv : Session Env := do return (← Program.get).env

def getHost : Session Host := do return (← Program.get).host

def modifyEnv (g : Env → Env) : Session Unit := Program.modify fun s => { s with env := g s.env }

def allocate (n : Nat) : Session Ptr := sys (mem (malloc n))

/-- `malloc` of an `int`: a negative one is converted to a size that no block has. -/
def allocateInt (n : Int) : Session Ptr := if n < 0 then pure none else allocate n.toNat

def sendAckMessage : Session Int := recorded zdtmSendAckMessage (.comm .ack)

def sendRqstMessage : Session Int := recorded zdtmSendRqstMessage (.comm .rqst)

def sendMessage (b : Build) (msg : ZdtmMsg) : Session Int := do
  let r ← recorded (zdtmSendMessage b msg) fun r => .message msg r.1
  return r.1

/-- `_zdtm_recv_message` on a zeroed message, as everywhere in the library. -/
def recvMessage (b : Build) : Session (Int × ZdtmMsg) := do
  let r ← recorded (zdtmRecvMessage b (some {})) fun r => .recv r.1 (r.2.getD {})
  return (r.1, r.2.getD {})

def zdtmWrappedSendMessage (b : Build) (msg : ZdtmMsg) : Session Int := do
  let (r, _) ← recvMessage b
  if r ≠ 2 then return -1
  let r ← sendMessage b msg
  if r ≠ 0 then return -2
  let (r, _) ← recvMessage b
  if r ≠ 1 then return -3
  return 0

def zdtmWrappedRecvMessage (b : Build) : Session (Int × ZdtmMsg) := do
  let r ← sendRqstMessage
  if r ≠ 0 then return (-1, {})
  let (r, msg) ← recvMessage b
  if r < 0 then return (-2, msg)
  if r > 0 then return (r, msg)
  let r ← sendAckMessage
  if r ≠ 0 then return (-3, msg)
  return (0, msg)

/-- The bytes of an event are those of its call, for a kernel that takes whole
messages. -/
def Event.Faithful (b : Build) (ev : Event) : Prop :=
  match ev.call with
  | .comm m r => r = 0 ∧ ev.io = m.bytes.toList.map (.sent .connfd)
  | .message msg r => (r ≠ 0 → ev.io = []) ∧ (r = 0 → ∃ ready : ZdtmMsg,
      ready.body.type = msg.body.type ∧ ev.io = (wireLayout b ready).map (.sent .connfd))
  | .recv r msg => ∃ stream got rest, Received b stream got rest r (some msg) ∧
      ev.io = got.map .received

/-- The same, with the message that was prepared for the wire. -/
def Event.Exact (b : Build) (ev : Event) : Prop :=
  match ev.call with
  | .comm m r => r = 0 ∧ ev.io = m.bytes.toList.map (.sent .connfd)
  | .message msg r => (r ≠ 0 → ev.io = []) ∧ (r = 0 → ∃ ready heap heap',
      zdtmPrepareMessage b msg heap = .ok ((0, ready), heap') ∧
      ev.io = (wireLayout b ready).map (.sent .connfd))
  | .recv r msg => ∃ stream got rest, Received b stream got rest r (some msg) ∧
      ev.io = got.map .received

/-- Preparing fills in the sizes, the content and the checksum. -/
theorem prepared_type {b : Build} {msg ready : ZdtmMsg} {heap heap' : Heap}
    (h : zdtmPrepareMessage b msg heap = .ok ((0, ready), heap')) :
    ready.body.type = msg.body.type := by
  obtain ⟨t, garbage, written, -, rfl, -⟩ := prepare_zero_iff.mp h
  rfl

theorem Event.Exact.faithful {b : Build} {ev : Event} (h : ev.Exact b) : ev.Faithful b := by
  obtain ⟨call, io⟩ := ev
  cases call with
  | comm m r => exact h
  | recv r msg => exact h
  | message msg r =>
    obtain ⟨hfailed, hsent⟩ := h
    constructor
    · exact hfailed
    · intro hr
      obtain ⟨ready, heap, heap', hprepare, hio⟩ := hsent hr
      exact ⟨ready, prepared_type hprepare, hio⟩

/-- The loop hands the whole buffer to a kernel that takes whole messages. -/
theorem sendLoop_whole (sockfd : Sock) (buf : List UInt8) {w : World} (h : w.sends = []) :
    sendLoop sockfd buf buf.length w =
      .ok (true, { w with trace := w.trace ++ buf.map (.sent sockfd) }) := by
  obtain ⟨heap, inbox, sends, trace⟩ := w
  subst h
  have hpieces : sendPieces buf [] buf.length = ((buf, true), []) := by
    cases buf with
    | nil => rfl
    | cons byte buf => simp [sendPieces]
  simp only [sendLoop, hpieces]

theorem sendPieces_accepting (buf : List UInt8) {sends : List SendEvent}
    (h : SendEvent.error ∉ sends) (n : Nat) :
    (sendPieces buf sends n).1.2 = true ∧ SendEvent.error ∉ (sendPieces buf sends n).2 := by
  induction sends generalizing n with
  | nil => cases n <;> simp [sendPieces]
  | cons e sends ih =>
    cases n with
    | zero => exact ⟨rfl, h⟩
    | succ n =>
      cases e with
      | error => exact absurd List.mem_cons_self h
      | accepts count => exact ih (fun hmem => h (List.mem_cons_of_mem _ hmem)) _

/-- A kernel that takes at least something each time gets the loop to its end. -/
theorem sendLoop_accepting (sockfd : Sock) (buf : List UInt8) (n : Nat) {w : World}
    (h : SendEvent.error ∉ w.sends) :
    ∃ w', sendLoop sockfd buf n w = .ok (true, w') ∧ SendEvent.error ∉ w'.sends ∧
      w'.inbox = w.inbox ∧ w'.heap = w.heap := by
  obtain ⟨hdone, hsends⟩ := sendPieces_accepting buf h n
  have hloop : sendLoop sockfd buf n w = .ok (true, { w with
      sends := (sendPieces buf w.sends n).2
      trace := w.trace ++ (sendPieces buf w.sends n).1.1.map (.sent sockfd) }) := by
    simp only [sendLoop, hdone]
  exact ⟨_, hloop, hsends, rfl, rfl⟩

/-- The loop does not read. -/
theorem sendLoop_inbox {sockfd : Sock} {buf : List UInt8} {n : Nat} {w w' : World} {done : Bool}
    (hrun : sendLoop sockfd buf n w = .ok (done, w')) : w'.inbox = w.inbox := by
  have hw' : _ = w' := (Prod.mk.inj (Except.ok.inj hrun)).2
  rw [← hw']

theorem sendComm_returns (sockfd : Sock) (data : Bytes comMsgSize) (w : World) :
    ∃ code w', zdtmSendCommMessageTo sockfd data w = .ok (code, w') ∧ w'.inbox = w.inbox := by
  have hloop : sendLoop sockfd data.toList comMsgSize w = .ok (_, _) := rfl
  unfold zdtmSendCommMessageTo
  rw [ZdtmNet.bind_ok hloop]
  split
  · exact ⟨_, _, rfl, rfl⟩
  · exact ⟨_, _, rfl, rfl⟩

theorem sendComm_whole (sockfd : Sock) (data : Bytes comMsgSize) {w : World}
    (h : w.sends = []) : zdtmSendCommMessageTo sockfd data w =
      .ok (0, { w with trace := w.trace ++ data.toList.map (.sent sockfd) }) := by
  have hloop := sendLoop_whole sockfd data.toList h
  rw [data.toList_length] at hloop
  exact ZdtmNet.bind_ok hloop

/-- A general message is not sent at all, or its wire form goes to the send loop. -/
theorem sendMessage_cases {b : Build} {msg sent : ZdtmMsg} {sockfd : Sock} {w w' : World} {r : Int}
    (hrun : zdtmSendMessageTo b msg sockfd w = .ok ((r, sent), w')) :
    (r ≠ 0 ∧ ∃ heap, w' = { w with heap }) ∨
    ∃ ready heap, (∃ heap', zdtmPrepareMessage b msg w.heap = .ok ((0, ready), heap')) ∧
      sendLoop sockfd (wireLayout b ready) (wireLayout b ready).length { w with heap } =
        .ok (decide (r = 0), w') := by
  cases hprepare : zdtmPrepareMessage b msg w.heap with
  | error f =>
    have hmem : mem (zdtmPrepareMessage b msg) w = .error f := by simp only [mem, hprepare]
    unfold zdtmSendMessageTo at hrun
    rw [ZdtmNet.bind_error hmem] at hrun
    cases hrun
  | ok result =>
    obtain ⟨⟨retval, ready⟩, heap⟩ := result
    by_cases hzero : retval = 0
    · subst hzero
      cases hh : heap 0 with
      | none =>
        rw [send_nomem hprepare hh] at hrun
        cases hrun
        exact Or.inl ⟨by decide, _, rfl⟩
      | some garbage =>
        by_cases hbody : 3 ≤ ready.bodySize.toNat
        · right
          rw [send_granted hprepare hh hbody] at hrun
          obtain ⟨done, w₁, hloop, hret⟩ := ZdtmNet.bind_inv hrun
          refine ⟨ready, heap.next, ⟨heap, rfl⟩, ?_⟩
          cases done with
          | true =>
            cases hret
            exact hloop
          | false =>
            cases hret
            exact hloop
        · rw [send_overrun hprepare hh hbody] at hrun
          cases hrun
    · unfold zdtmSendMessageTo at hrun
      rw [ZdtmNet.bind_ok (mem_ok hprepare)] at hrun
      simp only [ne_eq, hzero, not_false_eq_true, if_true] at hrun
      cases hrun
      exact Or.inl ⟨by decide, _, rfl⟩

/-- A general message goes out whole, or nothing of it does. -/
theorem sendMessage_whole {b : Build} {msg sent : ZdtmMsg} {sockfd : Sock} {w w' : World} {r : Int}
    (h : w.sends = []) (hrun : zdtmSendMessageTo b msg sockfd w = .ok ((r, sent), w')) :
    w'.sends = [] ∧ ∃ io, w'.trace = w.trace ++ io ∧ (r ≠ 0 → io = []) ∧
      (r = 0 → ∃ ready heap heap', zdtmPrepareMessage b msg heap = .ok ((0, ready), heap') ∧
        io = (wireLayout b ready).map (.sent sockfd)) := by
  rcases sendMessage_cases hrun with ⟨hr, heap, rfl⟩ | ⟨ready, heap, ⟨heap', hprepare⟩, hloop⟩
  · exact ⟨h, [], (List.append_nil _).symm, fun _ => rfl, fun hzero => absurd hzero hr⟩
  · have hwhole := sendLoop_whole sockfd (wireLayout b ready) (w := { w with heap }) h
    rw [hwhole] at hloop
    obtain ⟨hr, rfl⟩ := Prod.mk.inj (Except.ok.inj hloop)
    have hzero : r = 0 := of_decide_eq_true hr.symm
    exact ⟨h, _, rfl, fun hne => absurd hzero hne, fun _ => ⟨ready, _, heap', hprepare, rfl⟩⟩

/-- Sending takes nothing from the peer's stream. -/
theorem sendMessage_inbox {b : Build} {msg sent : ZdtmMsg} {sockfd : Sock} {w w' : World} {r : Int}
    (hrun : zdtmSendMessageTo b msg sockfd w = .ok ((r, sent), w')) : w'.inbox = w.inbox := by
  rcases sendMessage_cases hrun with ⟨-, heap, rfl⟩ | ⟨ready, heap, -, hloop⟩
  · rfl
  · have hinbox := sendLoop_inbox hloop
    exact hinbox

/-- What the calls take from the peer's stream. -/
inductive Reads (b : Build) : List Call → List UInt8 → List UInt8 → Prop
  | nil (stream : List UInt8) : Reads b [] stream stream
  | recv {cs : List Call} {stream got mid rest : List UInt8} {r : Int} {msg : ZdtmMsg}
      (hreceived : Received b stream got mid r (some msg)) (hreads : Reads b cs mid rest) :
      Reads b (.recv r msg :: cs) stream rest
  | comm {cs : List Call} {stream rest : List UInt8} (m : CommonMsg) (r : Int)
      (hreads : Reads b cs stream rest) : Reads b (.comm m r :: cs) stream rest
  | message {cs : List Call} {stream rest : List UInt8} (msg : ZdtmMsg) (r : Int)
      (hreads : Reads b cs stream rest) : Reads b (.message msg r :: cs) stream rest

theorem Reads.append {b : Build} {cs cs' : List Call} {stream mid rest : List UInt8}
    (h : Reads b cs stream mid) (h' : Reads b cs' mid rest) : Reads b (cs ++ cs') stream rest := by
  induction h with
  | nil stream => exact h'
  | recv hreceived hreads ih => exact .recv hreceived (ih h')
  | comm m r hreads ih => exact .comm m r (ih h')
  | message msg r hreads ih => exact .message msg r (ih h')

/-- Where there is no message, the zeroed one stands for it. -/
theorem received_present {b : Build} {stream got rest : List UInt8} {r : Int} {p : Option ZdtmMsg}
    (h : Received b stream got rest r p) : Received b stream got rest r (some (p.getD {})) := by
  cases h with
  | common m htook hstream => exact .common m htook hstream
  | general f htook hstream => exact .general f htook hstream
  | failed _ _ hcode => exact .failed _ _ hcode

/-- The events of a run, and what crossed the connection: their bytes, one call
after the other. -/
def Recorded (b : Build) (s : State) (evs : List Event) (s' : State) : Prop :=
  s'.events = s.events ++ evs ∧
    (s.world.sends = [] → s'.world.sends = [] ∧
      s'.world.trace = s.world.trace ++ evs.flatMap Event.io ∧ ∀ ev ∈ evs, ev.Exact b)

theorem Recorded.nothing {b : Build} {s s' : State} (hevents : s'.events = s.events)
    (hsends : s'.world.sends = s.world.sends) (htrace : s'.world.trace = s.world.trace) :
    Recorded b s [] s' := by
  refine ⟨hevents.trans (List.append_nil _).symm, ?_⟩
  intro hwhole
  refine ⟨hsends.trans hwhole, htrace.trans (List.append_nil _).symm, ?_⟩
  intro ev hev
  cases hev

theorem Recorded.append {b : Build} {s s' s'' : State} {evs evs' : List Event}
    (h : Recorded b s evs s') (h' : Recorded b s' evs' s'') : Recorded b s (evs ++ evs') s'' := by
  obtain ⟨hevents, hwhole⟩ := h
  obtain ⟨hevents', hwhole'⟩ := h'
  refine ⟨?_, ?_⟩
  · rw [hevents', hevents, List.append_assoc]
  · intro hsends
    obtain ⟨hsends₁, htrace₁, hexact₁⟩ := hwhole hsends
    obtain ⟨hsends₂, htrace₂, hexact₂⟩ := hwhole' hsends₁
    refine ⟨hsends₂, ?_, ?_⟩
    · rw [htrace₂, htrace₁, List.flatMap_append, List.append_assoc]
    · intro ev hev
      rcases List.mem_append.mp hev with hev | hev
      · exact hexact₁ ev hev
      · exact hexact₂ ev hev

/-- From `s` to `s'` the calls were made. -/
structure Traffic (b : Build) (s : State) (cs : List Call) (s' : State) : Prop where
  reads : Reads b cs (Chunked.available s.world.inbox) (Chunked.available s'.world.inbox)
  recorded : ∃ evs, evs.map Event.call = cs ∧ Recorded b s evs s'

theorem Traffic.nothing {b : Build} {s s' : State} (hevents : s'.events = s.events)
    (hinbox : s'.world.inbox = s.world.inbox) (hsends : s'.world.sends = s.world.sends)
    (htrace : s'.world.trace = s.world.trace) : Traffic b s [] s' where
  reads := by
    rw [hinbox]
    exact .nil _
  recorded := ⟨[], rfl, .nothing hevents hsends htrace⟩

theorem Traffic.refl (b : Build) (s : State) : Traffic b s [] s := .nothing rfl rfl rfl rfl

/-- Nothing but the environment changed. -/
theorem Traffic.env (b : Build) (s : State) (env : Env) : Traffic b s [] { s with env } :=
  .nothing rfl rfl rfl rfl

theorem Traffic.trans {b : Build} {s s' s'' : State} {cs cs' : List Call}
    (h : Traffic b s cs s') (h' : Traffic b s' cs' s'') : Traffic b s (cs ++ cs') s'' := by
  obtain ⟨hreads, evs, hcalls, hrecorded⟩ := h
  obtain ⟨hreads', evs', hcalls', hrecorded'⟩ := h'
  refine ⟨hreads.append hreads', evs ++ evs', ?_, hrecorded.append hrecorded'⟩
  rw [List.map_append, hcalls, hcalls']

/-- The calls of a program that asks nothing of the host. -/
structure Talks (b : Build) (s : State) (cs : List Call) (s' : State) : Prop where
  host : s'.host = s.host
  traffic : Traffic b s cs s'

def talks (b : Build) : Recorder State Call where
  Extends := Talks b
  refl s := ⟨rfl, Traffic.refl b s⟩
  trans h h' := ⟨h'.host.trans h.host, h.traffic.trans h'.traffic⟩

/-- The calls of a program that leaves the environment alone as well. -/
structure Exchanges (b : Build) (s : State) (cs : List Call) (s' : State) : Prop
    extends Talks b s cs s' where
  env : s'.env = s.env

def exchanges (b : Build) : Recorder State Call where
  Extends := Exchanges b
  refl s := ⟨(talks b).refl s, rfl⟩
  trans h h' := ⟨(talks b).trans h.toTalks h'.toTalks, h'.env.trans h.env⟩

/-- One call with the result it reports, or a fault without a call. -/
inductive OneCall {α : Type} (call : α → Call) : Except Fault α → List Call → Prop
  | returned (a : α) : OneCall call (.ok a) [call a]
  | faulted (f : Fault) : OneCall call (.error f) []

section Recorded

variable {b : Build} {α : Type} {x : Sys α} {call : α → Call}

theorem recorded_exchanges {s : State} {a : α} {w' : World} (hrun : x s.world = .ok (a, w'))
    (hreads : Reads b [call a] (Chunked.available s.world.inbox) (Chunked.available w'.inbox))
    (hexact : s.world.sends = [] → w'.sends = [] ∧
      ∃ io, w'.trace = s.world.trace ++ io ∧ Event.Exact b ⟨call a, io⟩) :
    recorded x call s = (.ok a, (recorded x call s).2) ∧
      Exchanges b s [call a] (recorded x call s).2 := by
  have heq : recorded x call s = (.ok a, { s with
      world := w', events := s.events ++ [⟨call a, w'.trace.drop s.world.trace.length⟩] }) := by
    simp only [recorded, hrun]
  rw [heq]
  refine ⟨rfl, ⟨rfl, hreads, [⟨call a, _⟩], rfl, rfl, ?_⟩, rfl⟩
  intro hsends
  obtain ⟨hsends', io, htrace, hio⟩ := hexact hsends
  have hdrop : w'.trace.drop s.world.trace.length = io := by rw [htrace, List.drop_left]
  rw [hdrop]
  refine ⟨hsends', ?_, ?_⟩
  · simpa using htrace
  · intro ev hev
    rw [List.mem_singleton] at hev
    rw [hev]
    exact hio

/-- A recorded function is one call, unless it faults. -/
theorem logs_recorded
    (hreads : ∀ {w a w'}, x w = .ok (a, w') →
      Reads b [call a] (Chunked.available w.inbox) (Chunked.available w'.inbox))
    (hexact : ∀ {w a w'}, x w = .ok (a, w') → w.sends = [] →
      w'.sends = [] ∧ ∃ io, w'.trace = w.trace ++ io ∧ Event.Exact b ⟨call a, io⟩) :
    Logs (exchanges b) (recorded x call) (OneCall call) := by
  intro s
  cases hrun : x s.world with
  | ok r =>
    obtain ⟨hret, hexchanges⟩ := recorded_exchanges hrun (hreads hrun) (hexact hrun)
    exact leads_of_eq hret ⟨_, hexchanges, .returned r.1⟩
  | error f =>
    have heq : recorded x call s = (.error f, s) := by simp only [recorded, hrun]
    exact leads_of_eq heq ⟨[], (exchanges b).refl s, .faulted f⟩

end Recorded

section Calls

variable (b : Build)

/-- A common message is always one call. -/
theorem logs_comm (m : CommonMsg) :
    Logs (exchanges b) (recorded (zdtmSendCommMessageTo .connfd m.bytes) (.comm m))
      fun r new => ∃ code, r = .ok code ∧ new = [.comm m code] := by
  intro s
  obtain ⟨code, w', hrun, hinbox⟩ := sendComm_returns .connfd m.bytes s.world
  have hreads : Reads b [.comm m code] (Chunked.available s.world.inbox)
      (Chunked.available w'.inbox) := by
    rw [hinbox]
    exact .comm m code (.nil _)
  have hwhole : s.world.sends = [] → w'.sends = [] ∧
      ∃ io, w'.trace = s.world.trace ++ io ∧ Event.Exact b ⟨.comm m code, io⟩ := by
    intro hsends
    rw [sendComm_whole .connfd m.bytes hsends] at hrun
    cases hrun
    exact ⟨hsends, _, rfl, rfl, rfl⟩
  obtain ⟨hret, hexchanges⟩ := recorded_exchanges hrun hreads hwhole
  exact leads_of_eq hret ⟨_, hexchanges, code, rfl, rfl⟩

theorem logs_sendMessage (msg : ZdtmMsg) :
    Logs (exchanges b) (sendMessage b msg) (OneCall (.message msg)) := by
  have hone : Logs (exchanges b)
      (recorded (zdtmSendMessage b msg) fun r => .message msg r.1)
      (OneCall fun r => .message msg r.1) := by
    apply logs_recorded
    · intro w a w' hrun
      rw [sendMessage_inbox hrun]
      exact .message msg a.1 (.nil _)
    · intro w a w' hrun hsends
      exact sendMessage_whole hsends hrun
  apply logs_bind hone
  · intro r new h
    cases h
    exact logs_pure (.returned r.1)
  · intro f new h
    cases h
    exact .faulted f

theorem logs_recvMessage :
    Logs (exchanges b) (recvMessage b) (OneCall fun r => .recv r.1 r.2) := by
  have hone : Logs (exchanges b)
      (recorded (zdtmRecvMessage b (some {})) fun r => .recv r.1 (r.2.getD {}))
      (OneCall fun r => .recv r.1 (r.2.getD {})) := by
    apply logs_recorded
    · intro w a w' hrun
      obtain ⟨got, -, hreceived⟩ := recv_takes hrun
      exact .recv (received_present hreceived) (.nil _)
    · intro w a w' hrun hsends
      obtain ⟨got, htakes, hreceived⟩ := recv_takes hrun
      exact ⟨htakes.sends.trans hsends, _, htakes.trace, _, got, _, (received_present hreceived), rfl⟩
  apply logs_bind hone
  · intro r new h
    cases h
    exact logs_pure (.returned (r.1, r.2.getD {}))
  · intro f new h
    cases h
    exact .faulted f

theorem logs_allocate (n : Nat) :
    Logs (exchanges b) (allocate n) fun r new => (∃ p, r = .ok p) ∧ new = [] := by
  intro s
  have hrun : allocate n s = (.ok ((s.world.heap 0).map fun garbage => (List.range n).map garbage),
      { s with world := { s.world with heap := s.world.heap.next } }) := rfl
  exact leads_of_eq hrun ⟨[], ⟨⟨rfl, .nothing rfl rfl rfl rfl⟩, rfl⟩, ⟨_, rfl⟩, rfl⟩

theorem logs_allocateInt (n : Int) :
    Logs (exchanges b) (allocateInt n) fun r new => (∃ p, r = .ok p) ∧ new = [] := by
  apply logs_ite
  · intro hneg
    exact logs_pure ⟨⟨_, rfl⟩, rfl⟩
  · intro hpos
    exact logs_allocate b n.toNat

end Calls

end ZdtmSession
