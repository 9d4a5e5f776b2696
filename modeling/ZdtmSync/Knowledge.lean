import ZdtmSync.Api
import ZdtmSync.Fetches
import ZdtmSync.Recitals
import ZdtmSync.Synchronized
import ZdtmSync.Judgments

/-!
# What is known of a run

A run is followed with what is known of the world and of the recorded calls. Each
primitive of the library hands this on, and a run fails only if somebody is to blame:
every read past an end happens while a message is received that announces more than
it holds, or comes from the application, and every write past an end copies something
of the last message that is longer than an array of the library.
-/

namespace ZdtmKnowledge

open CMemory Programs Triples ZdtmTypes ZdtmMsgs ZdtmNet ZdtmReceiving ZdtmItems ZdtmFixedFields
  ZdtmSession ZdtmProto ZdtmConnections ZdtmSync ZdtmServed ZdtmOverruns ZdtmDialogues ZdtmFetches
  ZdtmApi

variable {b : Build}

/-- A message is received without a fault, or it stands unread on the stream and
cannot be read. -/
theorem recv_unreadable {w : World} {e : Fault} (h : zdtmRecvMessage b (some {}) w = .error e) :
    e = .overread ∧ StartsUnreadable b (Chunked.available w.inbox) := by
  refine ⟨?_, unreadable_of_fault h⟩
  by_contra he
  exact recvMessage_avoids he b (some {}) w h

/-- A message that is received with the code 0 is a frame of the device. -/
theorem recv_general {w w' : World} {r : Int} {p : Option ZdtmMsg}
    (hrun : zdtmRecvMessage b (some {}) w = .ok ((r, p), w')) (hr : r = 0) :
    ∃ f : Frame b, p = some f.msg := by
  obtain ⟨got, -, hreceived⟩ := recv_takes hrun
  cases hreceived with
  | common m htook hstream =>
    cases m with
    | ack => exact absurd hr (by decide)
    | rqst => exact absurd hr (by decide)
    | abrt => exact absurd hr (by decide)
  | general f htook hstream => exact ⟨f, rfl⟩
  | failed code p hneg => omega

/-- What is known of the world and of the calls that were recorded, as long as nothing
faults, and of every general message that is received. The home directory stays the
same; only some of the calls may be made, and only some of the messages sent to the
Zaurus. -/
structure Knowledge (b : Build) where
  home : Option CString
  given : ApiCall → Prop
  known : World → List Call → Prop
  genuine : Frame b → Prop
  allows : DesktopType → Prop
  received : ∀ {w w' : World} {cs : List Call} {r : Int} {p : Option ZdtmMsg}, known w cs →
    zdtmRecvMessage b (some {}) w = .ok ((r, p), w') →
    known w' (cs ++ [.recv r (p.getD {})]) ∧ (r = 0 → ∃ f, genuine f ∧ p = some f.msg)
  signalled : ∀ {w w' : World} {cs : List Call} {m : CommonMsg} {r : Int}, known w cs →
    zdtmSendCommMessageTo .connfd m.bytes w = .ok (r, w') → known w' (cs ++ [.comm m r])
  sent : ∀ {w w' : World} {cs : List Call} {t : DesktopType} {cont : SpecTypeContent}
    {r : Int × ZdtmMsg}, known w cs → allows t → ZdtmWireFormat.Sendable t (desktopMsg t cont) →
    zdtmSendMessageTo b (desktopMsg t cont) .connfd w = .ok (r, w') →
    known w' (cs ++ [.message (desktopMsg t cont) r.1])
  requested : ∀ {w w' : World} {cs : List Call} {t : DesktopType} {cont : SpecTypeContent}
    {r : Int × ZdtmMsg}, known w cs → ZdtmWireFormat.Sendable t (desktopMsg t cont) →
    zdtmSendMessageTo b (desktopMsg t cont) .reqfd w = .ok (r, w') → known w' cs
  allocated : ∀ {w : World} {cs : List Call} {heap : Heap}, known w cs →
    (w.heap.Unlimited → heap.Unlimited) → known { w with heap } cs

def recordedCalls (s : State) : List Call := s.events.map Event.call

/-- The message was the last one to be received and acknowledged. -/
def Latest (s : State) (msg : ZdtmMsg) : Prop :=
  ∃ cs, recordedCalls s = cs ++ [.recv 0 msg, .comm .ack 0]

/-- No parameter is too long for the field that it is meant for. -/
def ItemFits (env : Env) (params : List AdrMsgParam) : Prop :=
  (env.syncType = syncTypeTodo → ParamsFit todoParser (paramFormat env) params) ∧
  (env.syncType = syncTypeCalendar → ParamsFit calendarParser (paramFormat env) params) ∧
  (env.syncType = syncTypeAddress → ParamsFit addressParser (paramFormat env) params)

/-- Something in the message is too long for an array of the library. -/
inductive Overlong (env : Env) (f : Frame b) : Prop
  | model (htype : f.type = .aig) (h : 256 ≤ f.cont.aig.modelStrLen.toNat)
  | description (htype : f.type = .adi) {p : AdiMsgParam} (hp : p ∈ f.cont.adi.params.getD [])
      (h : 256 ≤ p.descLen.toNat)
  | item (htype : f.type = .adr) (h : ¬ ItemFits env (paramsIn ⟨f, htype⟩))

/-- The path of the log has no room for its NUL. -/
def LongHome (home : Option CString) : Prop := ∃ path, home = some path ∧ 256 ≤ path.1.length

/-- A call of the application reads past an end by itself. -/
inductive Careless (home : Option CString) : ApiCall → Prop
  | home (hlong : LongHome home) : Careless home .initializeEnv
  | address {ipAddr : List UInt8} (hshort : ipAddr.length < ipStrSize) :
    Careless home (.set (.setZaurusIp ipAddr))

/-- What a fault comes from, in the state before the call that faulted. -/
def Cause (K : Knowledge b) : Fault → State → Prop
  | .overread, s => (∃ call, K.given call ∧ Careless K.home call) ∨
    StartsUnreadable b (Chunked.available s.world.inbox)
  | .overrun, s => ∃ f, K.genuine f ∧ Latest s f.msg ∧ Overlong s.env f
  | .dangling, _ => False

/-- What is known of a state, with a property of its environment. -/
structure Knows (K : Knowledge b) (J : Env → Prop) (s : State) : Prop where
  home : s.host.home = K.home
  world : K.known s.world (recordedCalls s)
  env : J s.env

/-- Everything may be said but that the synchronization is done. -/
class Speaks (K : Knowledge b) : Prop where
  allows : ∀ t, t ≠ .rds → K.allows t

/-- It is still known where a run fails, and somebody is to blame for the fault. -/
structure Blamed (K : Knowledge b) (J : Env → Prop) (e : Fault) (s : State) : Prop where
  knows : Knows K J s
  cause : Cause K e s

variable {K : Knowledge b} {J : Env → Prop}

section Messages

variable {α : Type}

theorem triple_recorded {x : Sys α} {call : α → Call} {before : State → Prop}
    {after : α → State → Prop} {blame : Fault → State → Prop}
    (hok : ∀ s a w', before s → x s.world = .ok (a, w') → after a { s with
      world := w', events := s.events ++ [⟨call a, w'.trace.drop s.world.trace.length⟩] })
    (herror : ∀ s e, before s → x s.world = .error e → blame e s) :
    Triple before (recorded x call) after blame := by
  constructor
  intro s hs
  cases hrun : x s.world with
  | ok r => exact leads_of_eq (recorded_ok call hrun) (hok s r.1 r.2 hs hrun)
  | error e =>
    have heq : recorded x call s = (.error e, s) := by simp only [recorded, hrun]
    exact leads_of_eq heq (herror s e hs hrun)

theorem triple_sys {x : Sys α} {before : State → Prop} {after : α → State → Prop}
    {blame : Fault → State → Prop}
    (hok : ∀ s a w', before s → x s.world = .ok (a, w') → after a { s with world := w' })
    (herror : ∀ s e, before s → x s.world = .error e → blame e s) :
    Triple before (sys x) after blame := by
  constructor
  intro s hs
  cases hrun : x s.world with
  | ok r =>
    have heq : sys x s = (.ok r.1, { s with world := r.2 }) := by simp only [sys, hrun]
    exact leads_of_eq heq (hok s r.1 r.2 hs hrun)
  | error e =>
    have heq : sys x s = (.error e, s) := by simp only [sys, hrun]
    exact leads_of_eq heq (herror s e hs hrun)

theorem mem_error {x : Mem α} {w : World} {e : Fault} (h : mem x w = .error e) :
    x w.heap = .error e := by
  cases hx : x w.heap with
  | error e' =>
    simp only [mem, hx] at h
    cases h
    rfl
  | ok r =>
    rw [mem_ok hx] at h
    cases h

/-- What is recorded is known behind the calls before it. -/
theorem recordedCalls_snoc {s : State} {w : World} {call : Call} {io : List Io} :
    recordedCalls { s with world := w, events := s.events ++ [⟨call, io⟩] } =
      recordedCalls s ++ [call] := by
  simp [recordedCalls]

/-- A message that is received can be read, or is blamed for not being readable. -/
theorem recv_triple : Triple (Knows K J) (recvMessage b)
    (fun r s => Knows K J s ∧ (r.1 = 0 → ∃ f, K.genuine f ∧ r.2 = f.msg ∧
      ∃ cs, recordedCalls s = cs ++ [.recv 0 f.msg])) (Blamed K J) := by
  have hrecv : Triple (Knows K J)
      (recorded (zdtmRecvMessage b (some {})) fun r => .recv r.1 (r.2.getD {}))
      (fun r s => Knows K J s ∧ (r.1 = 0 → ∃ f, K.genuine f ∧ r.2 = some f.msg ∧
        ∃ cs, recordedCalls s = cs ++ [.recv 0 f.msg])) (Blamed K J) := by
    apply triple_recorded
    · intro s r w' hs hrun
      obtain ⟨code, p⟩ := r
      obtain ⟨hworld, hgenuine⟩ := K.received hs.world hrun
      rw [← recordedCalls_snoc] at hworld
      refine ⟨⟨hs.home, hworld, hs.env⟩, ?_⟩
      intro hzero
      obtain ⟨f, hf, hp⟩ := hgenuine hzero
      simp only at hzero
      subst hzero hp
      exact ⟨f, hf, rfl, recordedCalls s, recordedCalls_snoc⟩
    · intro s e hs hrun
      obtain ⟨rfl, hstream⟩ := recv_unreadable hrun
      exact ⟨hs, Or.inr hstream⟩
  apply triple_bind hrecv
  intro r
  apply triple_pure
  intro s h
  obtain ⟨hs, hgenuine⟩ := h
  refine ⟨hs, ?_⟩
  intro hzero
  obtain ⟨f, hf, hp, hcalls⟩ := hgenuine hzero
  exact ⟨f, hf, by rw [hp]; rfl, hcalls⟩

theorem recv_keeps : Keeps (Knows K J) (recvMessage b) (Blamed K J) :=
  recv_triple.post fun _ _ h => h.1

/-- A common message is sent behind everything that was recorded. -/
theorem comm_triple (m : CommonMsg) (cs : List Call) :
    Triple (fun s => Knows K J s ∧ recordedCalls s = cs)
      (recorded (zdtmSendCommMessageTo .connfd m.bytes) (.comm m))
      (fun r s => Knows K J s ∧ recordedCalls s = cs ++ [.comm m r]) (Blamed K J) := by
  apply triple_recorded
  · intro s r w' hs hrun
    obtain ⟨hknows, rfl⟩ := hs
    have hworld := K.signalled hknows.world hrun
    rw [← recordedCalls_snoc] at hworld
    exact ⟨⟨hknows.home, hworld, hknows.env⟩, recordedCalls_snoc⟩
  · intro s e hs hrun
    obtain ⟨code, w', hrun', -⟩ := sendComm_returns .connfd m.bytes s.world
    rw [hrun] at hrun'
    cases hrun'

theorem comm_keeps (m : CommonMsg) : Keeps (Knows K J)
    (recorded (zdtmSendCommMessageTo .connfd m.bytes) (.comm m)) (Blamed K J) := by
  constructor
  intro s hs
  exact ((comm_triple m (recordedCalls s)).post fun _ _ h => h.1).run s ⟨hs, rfl⟩

variable {t : DesktopType} {cont : SpecTypeContent}
  (h : ZdtmWireFormat.Sendable t (desktopMsg t cont))

include h

theorem request_keeps :
    Keeps (Knows K J) (sys (zdtmSendMessageTo b (desktopMsg t cont) .reqfd)) (Blamed K J) := by
  obtain ⟨written, hserved⟩ := wire_served h b
  apply triple_sys
  · intro s r w' hs hrun
    exact ⟨hs.home, K.requested hs.world h hrun, hs.env⟩
  · intro s e hs hrun
    exact absurd hrun (send_avoids hserved .reqfd e s.world)

variable (hallowed : K.allows t)

include hallowed

theorem send_keeps : Keeps (Knows K J) (sendMessage b (desktopMsg t cont)) (Blamed K J) := by
  obtain ⟨written, hserved⟩ := wire_served h b
  apply keeps_bind
  · apply triple_recorded
    · intro s r w' hs hrun
      have hworld := K.sent hs.world hallowed h hrun
      rw [← recordedCalls_snoc] at hworld
      exact ⟨hs.home, hworld, hs.env⟩
    · intro s e hs hrun
      exact absurd hrun (send_avoids hserved .connfd e s.world)
  · exact fun r => keeps_pure _

theorem wrappedSend_keeps :
    Keeps (Knows K J) (zdtmWrappedSendMessage b (desktopMsg t cont)) (Blamed K J) := by
  apply keeps_bind recv_keeps
  intro r
  apply triple_ite (fun _ => keeps_pure _)
  intro _
  apply keeps_guard (send_keeps h hallowed)
  apply keeps_bind recv_keeps
  intro r
  exact triple_ite (fun _ => keeps_pure _) fun _ => keeps_pure _

omit h hallowed

/-- The last message, and that it was received. -/
theorem wrappedRecv_triple : Triple (Knows K J) (zdtmWrappedRecvMessage b)
    (fun r s => Knows K J s ∧ (r.1 = 0 → ∃ f, K.genuine f ∧ r.2 = f.msg ∧ Latest s f.msg))
    (Blamed K J) := by
  apply triple_bind (comm_keeps .rqst)
  intro r
  apply triple_ite
  · intro _
    apply triple_pure
    exact fun s hs => ⟨hs, nofun⟩
  intro _
  apply triple_bind recv_triple
  intro r
  apply triple_ite
  · intro _
    apply triple_pure
    exact fun s hs => ⟨hs.1, nofun⟩
  intro hneg
  apply triple_ite
  · intro hpos
    apply triple_pure
    exact fun s hs => ⟨hs.1, fun hzero => absurd hpos (by rw [hzero]; decide)⟩
  intro hpos
  constructor
  intro s hs
  obtain ⟨hknows, hgenuine⟩ := hs
  obtain ⟨f, hf, hmsg, cs, hcalls⟩ := hgenuine (by omega)
  refine (triple_bind (comm_triple .ack (recordedCalls s)) ?_).run s ⟨hknows, rfl⟩
  intro r
  apply triple_ite
  · intro _
    apply triple_pure
    exact fun s hs => ⟨hs.1, nofun⟩
  intro hr
  have hr : r = 0 := by omega
  subst hr
  apply triple_pure
  intro s' hs'
  obtain ⟨hknows', hcalls'⟩ := hs'
  refine ⟨hknows', fun _ => ⟨f, hf, hmsg, cs, ?_⟩⟩
  rw [hcalls', hcalls, List.append_assoc]
  rfl

theorem wrappedRecv_keeps : Keeps (Knows K J) (zdtmWrappedRecvMessage b) (Blamed K J) :=
  wrappedRecv_triple.post fun _ _ h => h.1

/-- What an exchange hands back: one of its codes, or a reply of the type, which was
the last message to be received. -/
def Replied (K : Knowledge b) (reply : ZaurusType) (codes : List Int) (s : State) :
    Except Int ZdtmMsg → Prop
  | .error code => code ∈ codes
  | .ok m => ∃ f, K.genuine f ∧ f.type = reply ∧ m = f.msg ∧ Latest s f.msg

include h hallowed

theorem exchange_triple (reply : ZaurusType) (sendFail recvFail typeFail : Int) :
    Triple (Knows K J) (exchange b (desktopMsg t cont) reply sendFail recvFail typeFail)
      (fun r s => Knows K J s ∧ Replied K reply [sendFail, recvFail, typeFail] s r)
      (Blamed K J) := by
  apply triple_bind (wrappedSend_keeps h hallowed)
  intro r
  apply triple_ite
  · intro _
    apply triple_pure
    exact fun s hs => ⟨hs, by simp [Replied]⟩
  intro _
  apply triple_bind wrappedRecv_triple
  intro r
  apply triple_ite
  · intro _
    apply triple_pure
    exact fun s hs => ⟨hs.1, by simp [Replied]⟩
  intro hr
  apply triple_ite
  · intro _
    apply triple_pure
    exact fun s hs => ⟨hs.1, by simp [Replied]⟩
  intro htype
  apply triple_pure
  intro s hs
  obtain ⟨hknows, hgenuine⟩ := hs
  obtain ⟨f, hf, hmsg, hlatest⟩ := hgenuine (Decidable.not_not.mp hr)
  refine ⟨hknows, f, hf, frame_type ?_, hmsg, hlatest⟩
  rw [← hmsg]
  exact Decidable.not_not.mp htype

/-- An exchange whose reply is only looked at. -/
theorem exchange_keeps {α : Type} {reply : ZaurusType} {sendFail recvFail typeFail : Int}
    {f : Except Int ZdtmMsg → Session α} (hf : ∀ r, Keeps (Knows K J) (f r) (Blamed K J)) :
    Keeps (Knows K J)
      (exchange b (desktopMsg t cont) reply sendFail recvFail typeFail >>= f) (Blamed K J) :=
  keeps_bind ((exchange_triple h hallowed reply sendFail recvFail typeFail).post fun _ _ h => h.1) hf

end Messages

section Services

theorem allocate_keeps (n : Nat) : Keeps (Knows K J) (allocate n) (Blamed K J) := by
  apply triple_sys
  · intro s p w' hs hrun
    cases hrun
    exact ⟨hs.home, K.allocated hs.world Heap.Unlimited.next, hs.env⟩
  · intro s e hs hrun
    cases hrun

theorem modifyEnv_keeps {g : Env → Env} (h : ∀ env, J env → J (g env)) :
    Keeps (Knows K J) (modifyEnv g) (Blamed K J) :=
  triple_modify fun s hs => ⟨hs.home, hs.world, h s.env hs.env⟩

theorem modifyHost_keeps {g : Host → Host} (h : ∀ host, (g host).home = host.home) :
    Keeps (Knows K J) (modifyHost g) (Blamed K J) :=
  triple_modify fun s hs => ⟨(h s.host).trans hs.home, hs.world, hs.env⟩

theorem answer_keeps : Keeps (Knows K J) answer (Blamed K J) := by
  constructor
  intro s hs
  cases hanswers : s.host.answers with
  | nil =>
    have hrun : answer s = (.ok true, s) := by simp only [answer, hanswers]
    exact leads_of_eq hrun hs
  | cons success answers =>
    have hrun : answer s = (.ok success, { s with host := { s.host with answers } }) := by
      simp only [answer, hanswers]
    exact leads_of_eq hrun ⟨hs.home, hs.world, hs.env⟩

theorem openDescriptor_keeps : Keeps (Knows K J) openDescriptor (Blamed K J) := by
  apply keeps_bind answer_keeps
  intro success
  apply triple_ite
  · intro _
    apply keeps_view State.host
    intro host
    exact keeps_bind (modifyHost_keeps fun _ => rfl) fun _ => keeps_pure _
  · exact fun _ => keeps_pure _

theorem closeDescriptor_keeps (socket : Socket) :
    Keeps (Knows K J) (closeDescriptor socket) (Blamed K J) := by
  cases socket with
  | none => exact keeps_pure _
  | some fd =>
    apply keeps_view State.host
    intro host
    apply triple_ite (fun _ => keeps_pure _)
    intro _
    apply keeps_bind answer_keeps
    intro success
    apply triple_ite
    · exact fun _ => keeps_bind (modifyHost_keeps fun _ => rfl) fun _ => keeps_pure _
    · exact fun _ => keeps_pure _

/-- The functions that close the descriptor of a variable. -/
theorem closes_keeps (socket : Env → Socket) : Keeps (Knows K J) (do
    let env ← getEnv
    if ← closeDescriptor (socket env) then return 0 else return -1 : Session Int) (Blamed K J) := by
  apply keeps_view State.env
  intro env
  apply keeps_bind (closeDescriptor_keeps _)
  intro closed
  exact triple_ite (fun _ => keeps_pure _) fun _ => keeps_pure _

end Services

end ZdtmKnowledge
