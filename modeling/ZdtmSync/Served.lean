import ZdtmSync.Exchanges

/-!
# Sessions that the device serves

With memory for every block and a connection that takes what is sent, what a
program does depends only on the stream of the device. `Answers` says which
bytes a program takes from that stream and what it then returns.
-/

namespace ZdtmServed

open CMemory Programs ZdtmTypes ZdtmDesktopMsg ZdtmMsgs ZdtmNet ZdtmFraming ZdtmDelivery
  ZdtmReceiving ZdtmSession ZdtmProto ZdtmExchanges

structure Served (s : State) (stream : List UInt8) : Prop where
  heap : s.world.heap.Unlimited
  sends : SendEvent.error ∉ s.world.sends
  stream : Chunked.available s.world.inbox = stream

section Answers

variable {α β : Type}

/-- Served with the bytes `taken`, the program takes them and returns `a`. -/
def Answers (x : Session α) (taken : List UInt8) (a : α) : Prop :=
  ∀ s rest, Served s (taken ++ rest) → Leads x s fun r s' =>
    r = .ok a ∧ Served s' rest ∧ s'.env = s.env ∧ s'.host = s.host

theorem answers_pure (a : α) : Answers (pure a) [] a :=
  fun _ _ hs => leads_pure ⟨rfl, hs, rfl, rfl⟩

/-- What follows a program that answers is run with its result. -/
theorem leads_answers {x : Session α} {f : α → Session β} {taken : List UInt8} {a : α}
    (hx : Answers x taken a) {s : State} {rest : List UInt8} (hs : Served s (taken ++ rest))
    {Q : Except Fault β → State → Prop}
    (hf : ∀ s', Served s' rest → s'.env = s.env → s'.host = s.host → Leads (f a) s' Q) :
    Leads (x >>= f) s Q := by
  apply leads_bind (hx s rest hs)
  · intro a' s' h
    obtain ⟨heq, hs', henv, hhost⟩ := h
    cases heq
    exact hf s' hs' henv hhost
  · intro e s' h
    obtain ⟨heq, -⟩ := h
    cases heq

theorem answers_bind {x : Session α} {f : α → Session β} {taken taken' : List UInt8} {a : α}
    {c : β} (hx : Answers x taken a) (hf : Answers (f a) taken' c) :
    Answers (x >>= f) (taken ++ taken') c := by
  intro s rest hs
  rw [List.append_assoc] at hs
  apply leads_answers hx hs
  intro s' hs' henv hhost
  apply (hf s' rest hs').mono
  intro r s'' h
  obtain ⟨hr, hs'', henv', hhost'⟩ := h
  exact ⟨hr, hs'', henv'.trans henv, hhost'.trans hhost⟩

/-- The last part of a sequence takes nothing more. -/
theorem answers_last {x : Session α} {f : α → Session β} {taken : List UInt8} {a : α} {c : β}
    (hx : Answers x taken a) (hf : Answers (f a) [] c) : Answers (x >>= f) taken c := by
  have hbind := answers_bind hx hf
  rwa [List.append_nil] at hbind

theorem recorded_ok {x : Sys α} (call : α → Call) {s : State} {a : α} {w' : World}
    (h : x s.world = .ok (a, w')) : recorded x call s = (.ok a, { s with
      world := w', events := s.events ++ [⟨call a, w'.trace.drop s.world.trace.length⟩] }) := by
  simp only [recorded, h]

/-- A recorded function that returns, and hands back what the next one needs. -/
theorem answers_recorded {x : Sys α} {call : α → Call} {taken : List UInt8} {a : α}
    (h : ∀ w rest, w.heap.Unlimited → SendEvent.error ∉ w.sends →
      Chunked.available w.inbox = taken ++ rest → ∃ w', x w = .ok (a, w') ∧
        w'.heap.Unlimited ∧ SendEvent.error ∉ w'.sends ∧ Chunked.available w'.inbox = rest) :
    Answers (recorded x call) taken a := by
  intro s rest hs
  obtain ⟨w', hrun, hheap, hsends, hrest⟩ := h s.world rest hs.heap hs.sends hs.stream
  exact leads_of_eq (recorded_ok call hrun) ⟨rfl, ⟨hheap, hsends, hrest⟩, rfl, rfl⟩

end Answers

section Receive

variable (b : Build)

theorem recv_answers (item : Item b) :
    Answers (recvMessage b) item.bytes (item.result.1, item.result.2.getD {}) := by
  have hone : Answers (recorded (zdtmRecvMessage b (some {})) fun r => .recv r.1 (r.2.getD {}))
      item.bytes item.result := by
    apply answers_recorded
    intro w rest hheap hsends hstream
    obtain ⟨w', hrun, hrest, hheap'⟩ := recv_item item hheap hstream
    obtain ⟨got, htakes, -⟩ := recv_takes hrun
    have hsends' : SendEvent.error ∉ w'.sends := by rwa [htakes.sends]
    exact ⟨w', hrun, hheap', hsends', hrest⟩
  exact answers_last hone (answers_pure _)

theorem recv_answers_common (m : CommonMsg) :
    Answers (recvMessage b) m.bytes.toList (commonCode m, {}) := recv_answers b (.common m)

theorem recv_answers_frame (f : Frame b) : Answers (recvMessage b) f.bytes (0, f.msg) :=
  recv_answers b (.general f)

theorem comm_answers (m : CommonMsg) :
    Answers (recorded (zdtmSendCommMessageTo .connfd m.bytes) (.comm m)) [] 0 := by
  apply answers_recorded
  intro w rest hheap hsends hstream
  obtain ⟨w', hloop, hsends', hinbox, hheap'⟩ :=
    sendLoop_accepting .connfd m.bytes.toList comMsgSize hsends
  refine ⟨w', ZdtmNet.bind_ok hloop, ?_, hsends', ?_⟩
  · rwa [hheap']
  · rwa [hinbox]

/-- The request, the frame and its acknowledgement. -/
theorem wrappedRecv_answers (f : Frame b) :
    Answers (zdtmWrappedRecvMessage b) f.bytes (0, f.msg) := by
  apply answers_bind (comm_answers .rqst)
  apply answers_last (recv_answers_frame b f)
  apply answers_last (comm_answers .ack)
  exact answers_pure _

end Receive

/-- What is written of the content fills no more than the block of the message. -/
structure Sendable (b : Build) (t : DesktopType) (cont : SpecTypeContent) (written : Written) :
    Prop where
  write : contentWrite b t cont = .ok written
  fits : written.bytes.length ≤ (sizedMessage b t (desktopMsg t cont)).contSize.toNat
  accepted : ¬ (t = .rdw ∧ written.null)
  body : 3 ≤ (sizedMessage b t (desktopMsg t cont)).bodySize.toNat

section Send

variable {b : Build} {t : DesktopType} {cont : SpecTypeContent} {written : Written}

theorem Sendable.prepare (h : Sendable b t cont written) {heap : Heap} {garbage : Nat → UInt8}
    (hsome : heap 0 = some garbage) :
    zdtmPrepareMessage b (desktopMsg t cont) heap =
      .ok ((0, preparedMessage b t (desktopMsg t cont) garbage written.bytes), heap.next) := by
  have hprepares : Prepares b (desktopMsg t cont) heap t garbage written :=
    ⟨desktopType_bytes t, rfl, hsome, h.write, h.fits, h.accepted⟩
  exact prepare_ok hprepares

theorem Sendable.send (h : Sendable b t cont written) (sockfd : Sock) {w : World}
    (hheap : w.heap.Unlimited) (hsends : SendEvent.error ∉ w.sends) :
    ∃ sent w', zdtmSendMessageTo b (desktopMsg t cont) sockfd w = .ok ((0, sent), w') ∧
      w'.heap.Unlimited ∧ SendEvent.error ∉ w'.sends ∧ w'.inbox = w.inbox := by
  obtain ⟨garbage, hgarbage⟩ := hheap.exists_block
  obtain ⟨garbage', hgarbage'⟩ := hheap.next.exists_block
  have hready := h.prepare hgarbage
  have hbody : 3 ≤ (preparedMessage b t (desktopMsg t cont) garbage
      written.bytes).bodySize.toNat := h.body
  generalize preparedMessage b t (desktopMsg t cont) garbage written.bytes = ready at hready hbody
  obtain ⟨w', hloop, hsends', hinbox, hheap'⟩ := sendLoop_accepting sockfd (wireLayout b ready)
    (wireLayout b ready).length (w := { w with heap := w.heap.next.next }) hsends
  refine ⟨_, w', (send_granted hready hgarbage' hbody).trans (ZdtmNet.bind_ok hloop), ?_,
    hsends', hinbox⟩
  rw [hheap']
  exact hheap.next.next

theorem Sendable.answers (h : Sendable b t cont written) :
    Answers (sendMessage b (desktopMsg t cont)) [] 0 := by
  intro s rest hs
  obtain ⟨sent, w', hrun, hheap, hsends, hinbox⟩ := h.send .connfd hs.heap hs.sends
  have hstream : Chunked.available w'.inbox = rest := by
    rw [hinbox]
    exact hs.stream
  have hone := recorded_ok (fun r => .message (desktopMsg t cont) r.1) hrun
  exact leads_of_eq (Programs.bind_ok hone) ⟨rfl, ⟨hheap, hsends, hstream⟩, rfl, rfl⟩

/-- What the device sends around a message of the Desktop. -/
def around : List UInt8 := CommonMsg.rqst.bytes.toList ++ CommonMsg.ack.bytes.toList

theorem wrappedSend_answers (h : Sendable b t cont written) :
    Answers (zdtmWrappedSendMessage b (desktopMsg t cont)) around 0 := by
  apply answers_bind (recv_answers_common b .rqst)
  apply answers_bind h.answers
  apply answers_last (recv_answers_common b .ack)
  exact answers_pure _

/-- An exchange whose reply has the type. -/
theorem exchange_answers (h : Sendable b t cont written) {reply : ZaurusType} {f : Frame b}
    (htype : f.type = reply) (sendFail recvFail typeFail : Int) :
    Answers (exchange b (desktopMsg t cont) reply sendFail recvFail typeFail) (around ++ f.bytes)
      (.ok f.msg) := by
  apply answers_bind (wrappedSend_answers h)
  apply answers_last (wrappedRecv_answers b f)
  have hbytes : f.msg.body.type = reply.bytes := by
    rw [← htype]
    rfl
  simp only [ne_eq, not_true_eq_false, if_false, hbytes]
  exact answers_pure _

end Send

section Took

variable {b : Build} {stream got rest : List UInt8} {msg m : ZdtmMsg} {cs : List Call}

theorem received_common {p : Option ZdtmMsg} (c : CommonMsg)
    (h : Received b stream got rest (commonCode c) p) : stream = c.bytes.toList ++ rest := by
  generalize hr : commonCode c = r at h
  cases h with
  | common c' htook hstream =>
    have hc : c' = c := by
      cases c <;> cases c' <;> first | rfl | cases hr
    rw [hstream, htook, hc]
  | general f htook hstream => cases c <;> cases hr
  | failed code p hcode =>
    subst hr
    cases c <;> exact absurd hcode (by decide)

theorem received_general (h : Received b stream got rest 0 (some m)) :
    ∃ f : Frame b, m = f.msg ∧ stream = f.bytes ++ rest := by
  generalize hr : (0 : Int) = r at h
  cases h with
  | common c htook hstream => cases c <;> cases hr
  | general f htook hstream => exact ⟨f, rfl, by rw [hstream, htook]⟩
  | failed code p hcode =>
    subst hr
    exact absurd hcode (by decide)

theorem reads_nil (h : Reads b [] stream rest) : stream = rest := by
  cases h
  rfl

theorem reads_split {cs' : List Call} (h : Reads b (cs ++ cs') stream rest) :
    ∃ mid, Reads b cs stream mid ∧ Reads b cs' mid rest := by
  induction cs generalizing stream with
  | nil => exact ⟨stream, .nil stream, h⟩
  | cons c cs ih =>
    cases h with
    | recv hreceived hreads =>
      obtain ⟨mid, hfirst, hlast⟩ := ih hreads
      exact ⟨mid, .recv hreceived hfirst, hlast⟩
    | comm c r hreads =>
      obtain ⟨mid, hfirst, hlast⟩ := ih hreads
      exact ⟨mid, .comm c r hfirst, hlast⟩
    | message msg r hreads =>
      obtain ⟨mid, hfirst, hlast⟩ := ih hreads
      exact ⟨mid, .message msg r hfirst, hlast⟩

theorem sendRun_stream (h : SendRun msg (.ok 0) cs) (hreads : Reads b cs stream rest) :
    stream = around ++ rest := by
  cases h with
  | acknowledged m m' =>
    cases hreads with
    | recv hrqst hreads =>
      cases hreads with
      | message msg r hreads =>
        cases hreads with
        | recv hack hreads =>
          rw [received_common .rqst hrqst, received_common .ack hack, reads_nil hreads, around,
            List.append_assoc]

theorem recvRun_stream (h : RecvRun (.ok (0, m)) cs) (hreads : Reads b cs stream rest) :
    ∃ f : Frame b, m = f.msg ∧ stream = f.bytes ++ rest := by
  cases h with
  | common r m hr => exact absurd hr (Int.lt_irrefl 0)
  | received m =>
    cases hreads with
    | comm c r hreads =>
      cases hreads with
      | recv hreceived hreads =>
        cases hreads with
        | comm c r hreads =>
          rw [← reads_nil hreads]
          exact received_general hreceived

theorem frame_type {f : Frame b} {z : ZaurusType} (h : f.msg.body.type = z.bytes) : f.type = z := by
  have hz : zaurusType f.type.bytes = zaurusType z.bytes := congrArg zaurusType h
  rw [zaurusType_bytes, zaurusType_bytes] at hz
  exact Option.some.inj hz

/-- An exchange that returns a message took it from the stream. -/
theorem exchanged_stream {reply : ZaurusType} (h : Exchanged msg reply (.ok (.ok m)) cs)
    (hreads : Reads b cs stream rest) : ∃ f : Frame b, m = f.msg ∧ f.type = reply ∧
      stream = around ++ (f.bytes ++ rest) := by
  cases h with
  | completed hsend hrecv htype =>
    obtain ⟨mid, hfirst, hlast⟩ := reads_split hreads
    obtain ⟨f, rfl, hmid⟩ := recvRun_stream hrecv hlast
    refine ⟨f, rfl, frame_type htype, ?_⟩
    rw [sendRun_stream hsend hfirst, hmid]

end Took

end ZdtmServed
