import ZdtmSync.Replies
import ZdtmSync.Served
import ZdtmSync.WireFormat

/-!
# What a run sends

Which messages a run hands to `_zdtm_send_message`, and which bytes its calls put
on the connection when the kernel takes whole messages.
-/

namespace ZdtmSending

open CMemory Programs ZdtmTypes ZdtmDesktopMsg ZdtmMsgs ZdtmNet ZdtmDelivery ZdtmSession
open ZdtmWriters ZdtmPrepare ZdtmProto ZdtmExchanges ZdtmReplies ZdtmServed
open ZdtmWireFormat (wireFormat)

def sentByte : Io → Option UInt8
  | .sent .connfd byte => some byte
  | _ => none

def bytesSent (io : List Io) : List UInt8 := io.filterMap sentByte

@[simp] theorem bytesSent_nil : bytesSent [] = [] := rfl

@[simp] theorem bytesSent_append (io io' : List Io) :
    bytesSent (io ++ io') = bytesSent io ++ bytesSent io' := List.filterMap_append

@[simp] theorem bytesSent_sent (bs : List UInt8) : bytesSent (bs.map (.sent .connfd)) = bs := by
  induction bs with
  | nil => rfl
  | cons byte bs ih => simpa [bytesSent, sentByte] using ih

@[simp] theorem bytesSent_received (bs : List UInt8) : bytesSent (bs.map .received) = [] := by
  simp [bytesSent, sentByte]

/-- The bytes sent on `connfd` between two states. -/
def sentSince (s s' : State) : List UInt8 :=
  bytesSent (s'.world.trace.drop s.world.trace.length)

/-- What the calls put on `connfd`, for a kernel that takes whole messages. -/
inductive Sends (b : Build) : List Call → List UInt8 → Prop
  | nil : Sends b [] []
  | recv {cs : List Call} {bs : List UInt8} (r : Int) (m : ZdtmMsg) (h : Sends b cs bs) :
      Sends b (.recv r m :: cs) bs
  | comm {cs : List Call} {bs : List UInt8} (m : CommonMsg) (h : Sends b cs bs) :
      Sends b (.comm m 0 :: cs) (m.bytes.toList ++ bs)
  | message {cs : List Call} {bs : List UInt8} {msg ready : ZdtmMsg} {heap heap' : Heap}
      (hprepare : zdtmPrepareMessage b msg heap = .ok ((0, ready), heap')) (h : Sends b cs bs) :
      Sends b (.message msg 0 :: cs) (wireLayout b ready ++ bs)
  | unsent {cs : List Call} {bs : List UInt8} (msg : ZdtmMsg) (r : Int) (hr : r ≠ 0)
      (h : Sends b cs bs) : Sends b (.message msg r :: cs) bs

theorem sends_of_exact {b : Build} {evs : List Event} (h : ∀ ev ∈ evs, ev.Exact b) :
    Sends b (evs.map Event.call) (bytesSent (evs.flatMap Event.io)) := by
  induction evs with
  | nil => exact .nil
  | cons ev evs ih =>
    obtain ⟨call, io⟩ := ev
    have hrest := ih fun ev hev => h ev (List.mem_cons_of_mem _ hev)
    have hev := h ⟨call, io⟩ List.mem_cons_self
    simp only [List.map_cons, List.flatMap_cons, bytesSent_append]
    cases call with
    | comm m r =>
      obtain ⟨rfl, rfl⟩ := hev
      rw [bytesSent_sent]
      exact .comm m hrest
    | recv r m =>
      obtain ⟨stream, got, rest, -, rfl⟩ := hev
      rw [bytesSent_received]
      exact .recv r m hrest
    | message msg r =>
      obtain ⟨hfailed, hsent⟩ := hev
      by_cases hr : r = 0
      · obtain ⟨ready, heap, heap', hprepare, rfl⟩ := hsent hr
        subst hr
        rw [bytesSent_sent]
        exact .message hprepare hrest
      · obtain rfl := hfailed hr
        exact .unsent msg r hr hrest

theorem traffic_sends {b : Build} {s s' : State} {cs : List Call} (h : Traffic b s cs s')
    (hsends : s.world.sends = []) : s'.world.sends = [] ∧ Sends b cs (sentSince s s') := by
  obtain ⟨evs, rfl, -, hwhole⟩ := h.recorded
  obtain ⟨hsends', htrace, hexact⟩ := hwhole hsends
  refine ⟨hsends', ?_⟩
  rw [sentSince, htrace, List.drop_left]
  exact sends_of_exact hexact

/-- The general message that a call was given to send. -/
def handedMsg : Call → Option ZdtmMsg
  | .message msg _ => some msg
  | _ => none

def handed (cs : List Call) : List ZdtmMsg := cs.filterMap handedMsg

@[simp] theorem handed_nil : handed [] = [] := rfl

@[simp] theorem handed_append (cs cs' : List Call) :
    handed (cs ++ cs') = handed cs ++ handed cs' := List.filterMap_append

section Runs

variable {b : Build} {msg m : ZdtmMsg} {cs : List Call} {bs : List UInt8}

/-- A send fails before it has come to its message, or hands over that one. -/
theorem sendRun_handed {r : Except Fault Int} (h : SendRun msg r cs) :
    (handed cs = [] ∧ ∀ code, r = .ok code → code ≠ 0) ∨ handed cs = [msg] := by
  cases h with
  | noRequest r m hr => exact Or.inl ⟨rfl, fun code hcode => by cases hcode; decide⟩
  | unsent m r hr => exact Or.inr rfl
  | unacknowledged m m' r hr => exact Or.inr rfl
  | acknowledged m m' => exact Or.inr rfl
  | requestFault f => exact Or.inl ⟨rfl, nofun⟩
  | sendFault f m => exact Or.inl ⟨rfl, nofun⟩
  | ackFault f m => exact Or.inr rfl

theorem recvRun_handed {r : Except Fault (Int × ZdtmMsg)} (h : RecvRun r cs) : handed cs = [] := by
  cases h <;> rfl

theorem sentThenReceived_handed {r : Except Fault (Int × ZdtmMsg)} {cs' : List Call}
    (hsend : SendRun msg (.ok 0) cs) (hrecv : RecvRun r cs') : handed (cs ++ cs') = [msg] := by
  rw [handed_append, recvRun_handed hrecv]
  cases hsend with
  | acknowledged m m' => rfl

/-- So does an exchange. -/
theorem exchange_handed {reply : ZaurusType} {r : Except Fault (Except Int ZdtmMsg)}
    (h : Exchanged msg reply r cs) :
    (handed cs = [] ∧ ∀ m, r ≠ .ok (.ok m)) ∨ handed cs = [msg] := by
  cases h with
  | unsent hcode hsend hr =>
    exact (sendRun_handed hsend).imp_left fun hnone => ⟨hnone.1, fun m hm => by cases hm⟩
  | unreceived hcode hsend hrecv hr => exact Or.inr (sentThenReceived_handed hsend hrecv)
  | mistyped hcode hsend hrecv htype => exact Or.inr (sentThenReceived_handed hsend hrecv)
  | completed hsend hrecv htype => exact Or.inr (sentThenReceived_handed hsend hrecv)
  | sendFault hsend =>
    exact (sendRun_handed hsend).imp_left fun hnone => ⟨hnone.1, fun m hm => by cases hm⟩
  | recvFault hsend hrecv => exact Or.inr (sentThenReceived_handed hsend hrecv)

theorem exchanged_handed {reply : ZaurusType} (h : Exchanged msg reply (.ok (.ok m)) cs) :
    handed cs = [msg] := by
  obtain ⟨-, hne⟩ | hone := exchange_handed h
  · exact absurd rfl (hne m)
  · exact hone

/-- The Desktop's side of an exchange: the message, a request and an acknowledgement. -/
theorem exchanged_sends {reply : ZaurusType} (h : Exchanged msg reply (.ok (.ok m)) cs)
    (hsends : Sends b cs bs) : ∃ ready heap heap',
      zdtmPrepareMessage b msg heap = .ok ((0, ready), heap') ∧
      bs = wireLayout b ready ++ (CommonMsg.rqst.bytes.toList ++ CommonMsg.ack.bytes.toList) := by
  cases h with
  | completed hsend hrecv htype =>
    cases hsend with
    | acknowledged m₁ m₂ =>
      cases hrecv with
      | common r m hr => exact absurd hr (Int.lt_irrefl 0)
      | received m =>
        cases hsends with
        | recv r m₃ h =>
          cases h with
          | unsent msg r hr h => exact absurd rfl hr
          | message hprepare h =>
            cases h with
            | recv r m₄ h =>
              cases h with
              | comm c h =>
                cases h with
                | recv r m₅ h =>
                  cases h with
                  | comm c h =>
                    cases h with
                    | nil => exact ⟨_, _, _, hprepare, by simp⟩

end Runs

section Desktop

variable {b : Build} {t : DesktopType} {cont : SpecTypeContent} {content : List UInt8}

/-- The messages without a bound on a length of their own. -/
theorem desktop_sendable (hrdw : t ≠ .rdw) (hrms : t ≠ .rms) (hrge : t ≠ .rge)
    (hreadable : ContentReadable t cont) : ZdtmWireFormat.Sendable t (desktopMsg t cont) where
  type := desktopType_bytes t
  other := hrdw
  raw := rfl
  log h := absurd h hrms
  path h := absurd h hrge
  readable := hreadable

/-- A well-formed message is sent. -/
theorem sendable_served (h : ZdtmWireFormat.Sendable t (desktopMsg t cont))
    (hw : contentWrite b t cont = .ok { bytes := content }) :
    Sendable b t cont { bytes := content } := by
  obtain ⟨content', hw', hlen⟩ := ZdtmWireFormat.sendable_written b h
  have hcontent : content = content' := by
    have heq := hw.symm.trans hw'
    cases heq
    rfl
  subst hcontent
  have hcont := contSize_toNat b t (desktopMsg t cont)
  have hbody := bodySize_toNat b t (desktopMsg t cont)
  have hle := (ZdtmWireFormat.contentLength_le h).2
  exact {
    write := hw
    fits := by
      simp only
      omega
    accepted := fun hnull => h.other hnull.1
    body := by omega }

/-- What an exchange over a whole-message kernel puts on the wire. -/
theorem exchanged_wire (h : ZdtmWireFormat.Sendable t (desktopMsg t cont))
    (hw : contentWrite .littleEndian t cont = .ok { bytes := content }) {reply : ZaurusType}
    {m : ZdtmMsg} {cs : List Call} {bs : List UInt8}
    (hexchanged : Exchanged (desktopMsg t cont) reply (.ok (.ok m)) cs)
    (hsends : Sends .littleEndian cs bs) :
    bs = wireFormat t.bytes content ++
      (CommonMsg.rqst.bytes.toList ++ CommonMsg.ack.bytes.toList) := by
  obtain ⟨ready, heap, heap', hprepare, rfl⟩ := exchanged_sends hexchanged hsends
  rw [ZdtmWireFormat.prepared_wire h hprepare hw]
  rfl

end Desktop

section Served

variable {b : Build} {t : DesktopType} {cont : SpecTypeContent} {written : Written} {s : State}
  {rest : List UInt8}

/-- A block is granted, and nothing crosses the connection meanwhile. -/
theorem leads_block {α : Type} {n : Nat} {f : Ptr → Session α}
    {Q : Except Fault α → State → Prop} (hs : Served s rest)
    (hf : ∀ block s', Served s' rest → Traffic b s [] s' → Leads (f (some block)) s' Q) :
    Leads (allocate n >>= f) s Q := by
  obtain ⟨garbage, hgarbage⟩ := hs.heap.exists_block
  have hrun : allocate n s = (.ok (some ((List.range n).map garbage)),
      { s with world := { s.world with heap := s.world.heap.next } }) := by
    simp only [allocate, sys, mem, malloc_some hgarbage]
  apply leads_bind (leads_of_eq hrun (P := fun r s' => ∃ block, r = .ok (some block) ∧
    Served s' rest ∧ Traffic b s [] s') ⟨_, rfl, ⟨hs.heap.next, hs.sends, hs.stream⟩,
      .nothing rfl rfl rfl rfl⟩)
  · intro p s' hp
    obtain ⟨block, heq, hs', htraffic⟩ := hp
    cases heq
    exact hf block s' hs' htraffic
  · intro e s' hp
    obtain ⟨block, heq, -⟩ := hp
    cases heq

/-- A message that the device asks for and acknowledges is handed over. -/
theorem wrappedSend_leads (h : Sendable b t cont written) (hs : Served s (around ++ rest)) :
    Leads (zdtmWrappedSendMessage b (desktopMsg t cont)) s fun r s' =>
      r = .ok 0 ∧ Served s' rest ∧
        ∃ cs, Traffic b s cs s' ∧ handed cs = [desktopMsg t cont] := by
  obtain ⟨hr, hserved, -, -⟩ := wrappedSend_answers h s rest hs
  obtain ⟨cs, hexchanges, hsend⟩ := logs_wrappedSend b (desktopMsg t cont) s
  rw [hr] at hsend
  refine ⟨hr, hserved, cs, hexchanges.traffic, ?_⟩
  cases hsend with
  | acknowledged m m' => rfl

/-- An exchange that the device serves, with the calls that it makes. -/
theorem exchange_leads (h : Sendable b t cont written) {reply : ZaurusType}
    {f : ZdtmReceiving.Frame b} (htype : f.type = reply) {sendFail recvFail typeFail : Int}
    (hneg : sendFail < 0 ∧ recvFail < 0 ∧ typeFail < 0)
    (hs : Served s (around ++ f.bytes ++ rest)) :
    Leads (exchange b (desktopMsg t cont) reply sendFail recvFail typeFail) s fun r s' =>
      r = .ok (.ok f.msg) ∧ Served s' rest ∧ s'.env = s.env ∧ s'.host = s.host ∧
        ∃ cs, Traffic b s cs s' ∧ Exchanged (desktopMsg t cont) reply (.ok (.ok f.msg)) cs := by
  obtain ⟨hsendFail, hrecvFail, htypeFail⟩ := hneg
  obtain ⟨hr, hserved, henv, hhost⟩ :=
    exchange_answers h htype sendFail recvFail typeFail s rest hs
  obtain ⟨cs, hexchanges, hexchanged⟩ :=
    logs_exchange b (desktopMsg t cont) reply hsendFail hrecvFail htypeFail s
  rw [hr] at hexchanged
  exact ⟨hr, hserved, henv, hhost, cs, hexchanges.traffic, hexchanged⟩

end Served

end ZdtmSending
