import ZdtmSync.Checksums
import ZdtmSync.Cuts
import ZdtmSync.Keeping

/-!
# What is taken from a stream of messages

A device that sends whole messages over one connection: whatever an application calls,
its receptions are the messages of the device, each of them once and in their order, and
behind the last one only the end of the stream.
-/

namespace ZdtmConsumption

open CMemory Programs Couplings ZdtmTypes ZdtmDesktopMsg ZdtmMsgs ZdtmNet ZdtmFraming ZdtmDelivery
  ZdtmReceiving ZdtmSession ZdtmProto ZdtmSync ZdtmServed ZdtmDialogues ZdtmSynchronized ZdtmScript
  ZdtmApi ZdtmCuts ZdtmKnowledge ZdtmKeeping

variable {b : Build}

/-- Nothing fails while the stream is read. -/
def Steady (w : World) : Prop := ∃ bs : List UInt8, Chunked.arrivals w.inbox = bs.map some

theorem Steady.arrivals {w : World} (h : Steady w) :
    Chunked.arrivals w.inbox = (Chunked.available w.inbox).map some := by
  obtain ⟨bs, hbs⟩ := h
  rw [Chunked.available_of_arrivals hbs, hbs]

/-- One world, with a stream that does not fail. -/
def SteadySame (w w' : World) : Prop := w = w' ∧ Steady w

theorem mem_steady {α : Type} (x : Mem α) : Matched SteadySame (mem x) (mem x) := by
  intro w w' hw
  obtain ⟨rfl, hsteady⟩ := hw
  cases hrun : x w.heap with
  | error e =>
    have hmem : mem x w = .error e := by simp only [mem, hrun]
    exact Or.inl ⟨e, hmem, hmem⟩
  | ok r => exact Or.inr ⟨r.1, _, _, mem_ok hrun, mem_ok hrun, rfl, hsteady⟩

theorem recvLoop_steady (tot need : Nat) :
    Matched SteadySame (recvLoop tot need) (recvLoop tot need) := by
  intro w w' hw
  obtain ⟨rfl, bs, hbs⟩ := hw
  obtain ⟨-, hrest⟩ := Chunked.readExact_arrivals (need - tot) w.inbox
  rw [hbs, Chunked.takeArrivals_some] at hrest
  right
  simp only [recvLoop]
  cases (Chunked.readExact (need - tot) w.inbox).1.2 with
  | none => exact ⟨_, _, _, rfl, rfl, rfl, _, hrest⟩
  | some stop => exact ⟨_, _, _, rfl, rfl, rfl, _, hrest⟩

theorem recvMessage_steady {w w' : World} {p : Option ZdtmMsg} {r : Int × Option ZdtmMsg}
    (hsteady : Steady w) (hrun : zdtmRecvMessage b p w = .ok (r, w')) : Steady w' := by
  have hmatched := recvMessage_matched (b := b) mem_steady recvLoop_steady p w w ⟨rfl, hsteady⟩
  rcases hmatched with ⟨e, herror, -⟩ | ⟨a, w₁, w₂, hok, -, -, hsteady'⟩
  · rw [hrun] at herror
    cases herror
  · rw [hrun] at hok
    cases hok
    exact hsteady'

/-- The device sends these messages, and the heap does not run out. -/
structure SendsItems (items : List (Item b)) (w : World) : Prop where
  heap : w.heap.Unlimited
  arrivals : Chunked.arrivals w.inbox = (items.flatMap Item.bytes).map some

/-- The next reception: the first of the messages, or the end of the stream. -/
def next : List (Item b) → Int × ZdtmMsg
  | [] => (-1, {})
  | item :: _ => (item.result.1, item.result.2.getD {})

/-- So many receptions, one after the other. -/
def receptions : List (Item b) → Nat → List (Int × ZdtmMsg)
  | _, 0 => []
  | items, n + 1 => next items :: receptions items.tail n

theorem receptions_succ (items : List (Item b)) (n : Nat) :
    receptions items (n + 1) = receptions items n ++ [next (items.drop n)] := by
  induction n generalizing items with
  | zero => rfl
  | succ n ih =>
    rw [receptions, ih, receptions, List.drop_tail]
    rfl

/-- What a call received. -/
def reception? : Call → Option (Int × ZdtmMsg)
  | .recv r msg => some (r, msg)
  | .comm _ _ => none
  | .message _ _ => none

/-- The receptions among the calls. -/
def receptionsIn (cs : List Call) : List (Int × ZdtmMsg) := cs.filterMap reception?

@[simp] theorem receptionsIn_append (cs cs' : List Call) :
    receptionsIn (cs ++ cs') = receptionsIn cs ++ receptionsIn cs' := List.filterMap_append

/-- A call takes the first of the messages, and leaves the others. -/
theorem recv_next {items : List (Item b)} {w w' : World} {r : Int} {p : Option ZdtmMsg}
    (hw : SendsItems items w) (hrun : zdtmRecvMessage b (some {}) w = .ok ((r, p), w')) :
    (r, p.getD {}) = next items ∧ SendsItems items.tail w' ∧
      (r = 0 → ∃ f, .general f ∈ items ∧ p = some f.msg) := by
  cases items with
  | nil =>
    obtain ⟨hgot, hrest⟩ := Chunked.readExact_arrivals comMsgSize w.inbox
    rw [hw.arrivals] at hgot hrest
    have hloop : recvLoop 0 comMsgSize w = .ok (.error (-1), { w with
        inbox := (Chunked.readExact comMsgSize w.inbox).2, trace := w.trace ++ [] }) := by
      simp only [recvLoop, Nat.sub_zero, hgot]
      rfl
    unfold zdtmRecvMessage at hrun
    rw [ZdtmNet.bind_ok (recvFrame_stopped hloop)] at hrun
    cases hrun
    exact ⟨rfl, ⟨hw.heap, hrest⟩, fun hzero => absurd hzero (by decide)⟩
  | cons item items =>
    have hsteady : Steady w := ⟨_, hw.arrivals⟩
    have hstream : Chunked.available w.inbox = item.bytes ++ items.flatMap Item.bytes :=
      Chunked.available_of_arrivals hw.arrivals
    obtain ⟨w'', hitem, hrest, hheap⟩ := recv_item item hw.heap hstream
    rw [hrun] at hitem
    obtain ⟨hresult, rfl⟩ := Prod.mk.inj (Except.ok.inj hitem)
    have harrivals : Chunked.arrivals w'.inbox = (items.flatMap Item.bytes).map some := by
      rw [(recvMessage_steady hsteady hrun).arrivals, hrest]
    refine ⟨?_, ⟨hheap, harrivals⟩, ?_⟩
    · simp only [next, ← hresult]
    · rintro rfl
      cases item with
      | common m => cases m <;> cases hresult
      | general f =>
        cases hresult
        exact ⟨f, List.mem_cons_self, rfl⟩

/-- So many of the messages are taken, behind what was received before. -/
structure Taken (items : List (Item b)) (before : List (Int × ZdtmMsg)) (n : Nat) (w : World)
    (cs : List Call) : Prop where
  sends : SendsItems (items.drop n) w
  heard : receptionsIn cs = before ++ receptions items n

def TakesInOrder (items : List (Item b)) (before : List (Int × ZdtmMsg)) (w : World)
    (cs : List Call) : Prop := ∃ n, Taken items before n w cs

variable {items : List (Item b)} {before : List (Int × ZdtmMsg)} {home : Option CString}

/-- The general message is one of those that the device sends. -/
def Among (items : List (Item b)) (f : Frame b) : Prop := .general f ∈ items

theorem taken_received {w w' : World} {cs : List Call} {r : Int} {p : Option ZdtmMsg}
    (hw : TakesInOrder items before w cs)
    (hrun : zdtmRecvMessage b (some {}) w = .ok ((r, p), w')) :
    TakesInOrder items before w' (cs ++ [.recv r (p.getD {})]) ∧
      (r = 0 → ∃ f, Among items f ∧ p = some f.msg) := by
  obtain ⟨n, hsends, hheard⟩ := hw
  obtain ⟨hnext, hrest, hgeneral⟩ := recv_next hsends hrun
  refine ⟨⟨n + 1, ?_, ?_⟩, ?_⟩
  · rwa [← List.tail_drop]
  · rw [receptionsIn_append, hheard, receptions_succ, ← hnext, List.append_assoc]
    rfl
  · intro hzero
    obtain ⟨f, hf, hp⟩ := hgeneral hzero
    exact ⟨f, List.mem_of_mem_drop hf, hp⟩

/-- What is neither a reception nor an arrival changes nothing. -/
theorem taken_kept {w w' : World} {cs cs' : List Call} (hw : TakesInOrder items before w cs)
    (hcs : receptionsIn cs' = receptionsIn cs) (hinbox : w'.inbox = w.inbox)
    (hheap : w.heap.Unlimited → w'.heap.Unlimited) : TakesInOrder items before w' cs' := by
  obtain ⟨n, hsends, hheard⟩ := hw
  refine ⟨n, ⟨hheap hsends.heap, ?_⟩, hcs.trans hheard⟩
  rw [hinbox, hsends.arrivals]

/-- The loop that sends touches neither the arrivals nor the heap. -/
theorem sendLoop_untouched {sockfd : Sock} {buf : List UInt8} {n : Nat} {w w' : World} {done : Bool}
    (hrun : sendLoop sockfd buf n w = .ok (done, w')) :
    w'.inbox = w.inbox ∧ w'.heap = w.heap := by
  have hw' : _ = w' := (Prod.mk.inj (Except.ok.inj hrun)).2
  rw [← hw']
  exact ⟨rfl, rfl⟩

theorem sendComm_untouched {sockfd : Sock} {data : Bytes comMsgSize} {w w' : World} {r : Int}
    (hrun : zdtmSendCommMessageTo sockfd data w = .ok (r, w')) :
    w'.inbox = w.inbox ∧ w'.heap = w.heap := by
  obtain ⟨done, w₁, hloop, hret⟩ := ZdtmNet.bind_inv hrun
  cases done with
  | true =>
    cases hret
    exact sendLoop_untouched hloop
  | false =>
    cases hret
    exact sendLoop_untouched hloop

/-- A message that fits its block takes no arrivals, and two blocks of the heap. -/
theorem sendMessage_untouched {t : DesktopType} {cont : SpecTypeContent} {written : Written}
    (h : Sendable b t cont written) {sockfd : Sock} {w w' : World} {r : Int × ZdtmMsg}
    (hrun : zdtmSendMessageTo b (desktopMsg t cont) sockfd w = .ok (r, w')) :
    w'.inbox = w.inbox ∧ (w.heap.Unlimited → w'.heap.Unlimited) := by
  obtain ⟨code, sent⟩ := r
  refine ⟨sendMessage_inbox hrun, ?_⟩
  intro hu
  obtain ⟨garbage, hgarbage⟩ := hu.exists_block
  obtain ⟨garbage', hgarbage'⟩ := hu.next.exists_block
  rw [send_granted (h.prepare hgarbage) hgarbage' h.body] at hrun
  obtain ⟨done, w₁, hloop, hret⟩ := ZdtmNet.bind_inv hrun
  have hheap : w₁.heap = w.heap.next.next := (sendLoop_untouched hloop).2
  cases done with
  | true =>
    cases hret
    rw [hheap]
    exact hu.next.next
  | false =>
    cases hret
    rw [hheap]
    exact hu.next.next

theorem taken_signalled {w w' : World} {cs : List Call} {m : CommonMsg} {r : Int}
    (hw : TakesInOrder items before w cs)
    (hrun : zdtmSendCommMessageTo .connfd m.bytes w = .ok (r, w')) :
    TakesInOrder items before w' (cs ++ [.comm m r]) := by
  obtain ⟨hinbox, hheap⟩ := sendComm_untouched hrun
  apply taken_kept hw (by simp [receptionsIn, reception?]) hinbox
  rw [hheap]
  exact id

section Sends

variable {w w' : World} {cs : List Call} {t : DesktopType} {cont : SpecTypeContent}
  {r : Int × ZdtmMsg} (hw : TakesInOrder items before w cs)
  (hproper : ZdtmWireFormat.Sendable t (desktopMsg t cont))

include hw hproper

theorem taken_requested (hrun : zdtmSendMessageTo b (desktopMsg t cont) .reqfd w = .ok (r, w')) :
    TakesInOrder items before w' cs := by
  obtain ⟨written, hserved⟩ := wire_served hproper b
  obtain ⟨hinbox, hheap⟩ := sendMessage_untouched hserved hrun
  exact taken_kept hw rfl hinbox hheap

theorem taken_sent (hrun : zdtmSendMessageTo b (desktopMsg t cont) .connfd w = .ok (r, w')) :
    TakesInOrder items before w' (cs ++ [.message (desktopMsg t cont) r.1]) := by
  obtain ⟨written, hserved⟩ := wire_served hproper b
  obtain ⟨hinbox, hheap⟩ := sendMessage_untouched hserved hrun
  exact taken_kept hw (by simp [receptionsIn, reception?]) hinbox hheap

end Sends

theorem taken_allocated {w : World} {cs : List Call} {heap : Heap}
    (hw : TakesInOrder items before w cs) (hheap : w.heap.Unlimited → heap.Unlimited) :
    TakesInOrder items before { w with heap } cs := taken_kept hw rfl rfl hheap

/-- The device sends these messages. -/
def messagesOf (items : List (Item b)) (before : List (Int × ZdtmMsg)) (home : Option CString)
    (given : ApiCall → Prop) : Knowledge b where
  home
  given
  known := TakesInOrder items before
  genuine := Among items
  allows _ := True
  received := taken_received
  signalled := taken_signalled
  sent hw _ := taken_sent hw
  requested := taken_requested
  allocated := taken_allocated

instance messagesOf_speaks {given : ApiCall → Prop} :
    Speaks (messagesOf items before home given) where
  allows _ _ := trivial

/-- Before a run nothing is taken. -/
theorem taken_none {w : World} {cs : List Call} (hheap : w.heap.Unlimited)
    (hstream : Chunked.arrivals w.inbox = (items.flatMap Item.bytes).map some) :
    TakesInOrder items (receptionsIn cs) w cs := ⟨0, ⟨hheap, hstream⟩, (List.append_nil _).symm⟩

/-- The connection from the Zaurus is `fd`. -/
def HasConnection (fd : Nat) (env : Env) : Prop := env.connfd = some fd

instance hasConnection (K : Knowledge b) (fd : Nat) : OfFormat K (HasConnection fd) where
  same _ _ hsame h := hsame.conn.trans h
  stored _ _ _ _ _ h := h

/-- A run over the one connection `fd`: it is there before, or the run begins with the call
that accepts it. -/
inductive OnConnection (b : Build) (fd : Nat) : List ApiCall → State → Prop
  | standing {calls : List ApiCall} {s : State} (hfd : s.env.connfd = some fd)
    (hone : .initiateSync ∉ calls) : OnConnection b fd calls s
  | accepted {calls : List ApiCall} {s : State}
    (hfd : (zdtmInitiateSync b s).2.env.connfd = some fd) (hone : .initiateSync ∉ calls) :
    OnConnection b fd (.initiateSync :: calls) s

variable {fd : Nat} {calls : List ApiCall} {s s' : State} {r : Except Fault (List Outcome)}

theorem standing_stable (hone : .initiateSync ∉ calls) :
    ∀ call ∈ calls, Stable (HasConnection fd) call := by
  intro call hcall
  constructor
  · exact fun _ env h => h
  · rintro rfl
    exact absurd hcall hone

/-- What is taken as long as the connection stands. -/
theorem standing_taken (htaken : TakesInOrder items before s.world (recordedCalls s))
    (hfd : s.env.connfd = some fd) (hone : .initiateSync ∉ calls)
    (hrun : runLive b false calls s = (r, s')) :
    s'.env.connfd = some fd ∧ TakesInOrder items before s'.world (recordedCalls s') := by
  have hknows : Knows (messagesOf items before s.host.home fun _ => True) (HasConnection fd) s :=
    ⟨rfl, htaken, hfd⟩
  have hknows' := runLive_knows trivial (fun _ _ => trivial) (standing_stable hone) hknows hrun
  exact ⟨hknows'.env, hknows'.world⟩

/-- The call of the application is that of the library, with its code. -/
theorem initiateSync_run {r : Except Fault Outcome}
    (hrun : ApiCall.initiateSync.run b s = (r, s')) : (zdtmInitiateSync b s).2 = s' := by
  cases hinit : zdtmInitiateSync b s with
  | mk code s₁ =>
    rcases bind_cases hrun with ⟨e, -, hfault⟩ | ⟨code', s₂, hreturned, hpure⟩
    · rw [hinit] at hfault
      cases hfault
      rfl
    · rw [hinit] at hreturned
      cases hreturned
      cases hpure
      rfl

/-- In every run over one connection the receptions are the messages of the device, each of
them once and in their order, and what is left of the stream are the others. -/
theorem messages_taken (hheap : s.world.heap.Unlimited)
    (hstream : Chunked.arrivals s.world.inbox = (items.flatMap Item.bytes).map some)
    (hone : OnConnection b fd calls s) (hrun : runLive b false calls s = (r, s')) :
    s'.env.connfd = some fd ∧
      ∃ n, receptionsIn (recordedCalls s') =
        receptionsIn (recordedCalls s) ++ receptions items n ∧
      Chunked.available s'.world.inbox = (items.drop n).flatMap Item.bytes := by
  have hnone : TakesInOrder items (receptionsIn (recordedCalls s)) s.world (recordedCalls s) :=
    taken_none hheap hstream
  have htaken : s'.env.connfd = some fd ∧
      TakesInOrder items (receptionsIn (recordedCalls s)) s'.world (recordedCalls s') := by
    cases hone with
    | standing hfd hone => exact standing_taken hnone hfd hone hrun
    | accepted hfd hone =>
      have hknows : Knows (messagesOf items (receptionsIn (recordedCalls s)) s.host.home
          fun _ => True) AnyFormat s := ⟨rfl, hnone, trivial⟩
      have hkept :=
        (apiCall_keeps trivial trivial (anyFormat_stable .initiateSync)).run s hknows
      rcases runLive_cons rfl hrun with ⟨e, rfl, hfault⟩ | ⟨o, rest, s₁, hfirst, hlive, rfl⟩
      · rw [initiateSync_run hfault] at hfd
        exact ⟨hfd, (hkept.of_eq hfault).knows.world⟩
      · rw [initiateSync_run hfirst] at hfd
        exact standing_taken (hkept.of_eq hfirst).world hfd hone hlive
  obtain ⟨hfd, n, hsends, hheard⟩ := htaken
  exact ⟨hfd, n, hheard, Chunked.available_of_arrivals hsends.arrivals⟩

/-- The device that asks for its passcode. -/
def infoItems : List (Item .littleEndian) :=
  [.common .rqst, .common .ack, .general lockedDevice.info.frame]

theorem infoItems_ne : infoItems.flatMap Item.bytes ≠ [] := by
  simp [infoItems, Item.bytes, CommonMsg.bytes]

/-- The device is connected. -/
def infoState : State :=
  { deviceState (infoItems.flatMap Item.bytes) infoItems_ne with env := { connfd := some 4 } }

/-- The second call finds that the device sends nothing any more. -/
def infoApp : List ApiCall := [.operation .obtainDeviceInfo, .operation .obtainSyncState, .finalize]

theorem infoState_arrivals :
    Chunked.arrivals infoState.world.inbox = (infoItems.flatMap Item.bytes).map some := by
  simp [infoState, deviceState]

theorem infoState_connected : OnConnection .littleEndian 4 infoApp infoState :=
  .standing rfl (by simp [infoApp])

theorem messages_taken_info : ∃ n,
    receptionsIn (recordedCalls (runLive .littleEndian false infoApp infoState).2) =
        receptions infoItems n ∧
      Chunked.available (runLive .littleEndian false infoApp infoState).2.world.inbox =
        (infoItems.drop n).flatMap Item.bytes :=
  (messages_taken (Heap.filled_unlimited 0) infoState_arrivals infoState_connected
    (Prod.eta _).symm).2

end ZdtmConsumption
