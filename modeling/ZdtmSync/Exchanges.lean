import ZdtmSync.Sync

/-!
# The calls of an exchange

What the two wrapped functions, and an exchange made of them, do on `connfd`:
each way in which they end, with the calls up to there.
-/

namespace ZdtmExchanges

open CMemory Programs ZdtmTypes ZdtmMsgs ZdtmNet ZdtmSession ZdtmProto

/-- The calls of `_zdtm_wrapped_send_message`. -/
inductive SendRun (msg : ZdtmMsg) : Except Fault Int → List Call → Prop
  | noRequest (r : Int) (m : ZdtmMsg) (hr : r ≠ 2) : SendRun msg (.ok (-1)) [.recv r m]
  | unsent (m : ZdtmMsg) (r : Int) (hr : r ≠ 0) :
      SendRun msg (.ok (-2)) [.recv 2 m, .message msg r]
  | unacknowledged (m m' : ZdtmMsg) (r : Int) (hr : r ≠ 1) :
      SendRun msg (.ok (-3)) [.recv 2 m, .message msg 0, .recv r m']
  | acknowledged (m m' : ZdtmMsg) : SendRun msg (.ok 0) [.recv 2 m, .message msg 0, .recv 1 m']
  | requestFault (f : Fault) : SendRun msg (.error f) []
  | sendFault (f : Fault) (m : ZdtmMsg) : SendRun msg (.error f) [.recv 2 m]
  | ackFault (f : Fault) (m : ZdtmMsg) : SendRun msg (.error f) [.recv 2 m, .message msg 0]

/-- The calls of `_zdtm_wrapped_recv_message`. -/
inductive RecvRun : Except Fault (Int × ZdtmMsg) → List Call → Prop
  | unasked (r : Int) (hr : r ≠ 0) : RecvRun (.ok (-1, {})) [.comm .rqst r]
  | failed (r : Int) (m : ZdtmMsg) (hr : r < 0) :
      RecvRun (.ok (-2, m)) [.comm .rqst 0, .recv r m]
  | common (r : Int) (m : ZdtmMsg) (hr : 0 < r) : RecvRun (.ok (r, m)) [.comm .rqst 0, .recv r m]
  | unacknowledged (m : ZdtmMsg) (r : Int) (hr : r ≠ 0) :
      RecvRun (.ok (-3, m)) [.comm .rqst 0, .recv 0 m, .comm .ack r]
  | received (m : ZdtmMsg) :
      RecvRun (.ok (0, m)) [.comm .rqst 0, .recv 0 m, .comm .ack 0]
  | fault (f : Fault) : RecvRun (.error f) [.comm .rqst 0]

section Wrapped

variable (b : Build)

theorem logs_wrappedSend (msg : ZdtmMsg) :
    Logs (exchanges b) (zdtmWrappedSendMessage b msg) (SendRun msg) := by
  refine logs_bind (logs_recvMessage b) ?_ ?_
  · intro a new hnew
    obtain ⟨r, m⟩ := a
    cases hnew
    refine logs_unless (fun hr => logs_pure (.noRequest r m hr)) ?_
    intro hr
    subst hr
    refine logs_bind (logs_sendMessage b msg) ?_ ?_
    · intro r new hnew
      cases hnew
      refine logs_unless (fun hr => logs_pure (.unsent m r hr)) ?_
      intro hr
      subst hr
      refine logs_bind (logs_recvMessage b) ?_ ?_
      · intro a new hnew
        obtain ⟨r, m'⟩ := a
        cases hnew
        refine logs_unless (fun hr => logs_pure (.unacknowledged m m' r hr)) ?_
        intro hr
        subst hr
        exact logs_pure (.acknowledged m m')
      · intro f new hnew
        cases hnew
        exact .ackFault f m
    · intro f new hnew
      cases hnew
      exact .sendFault f m
  · intro f new hnew
    cases hnew
    exact .requestFault f

theorem logs_wrappedRecv : Logs (exchanges b) (zdtmWrappedRecvMessage b) RecvRun := by
  refine logs_bind (logs_comm b .rqst) ?_ ?_
  · intro r new hnew
    obtain ⟨code, heq, rfl⟩ := hnew
    cases heq
    refine logs_unless (fun hr => logs_pure (.unasked r hr)) ?_
    intro hr
    subst hr
    refine logs_bind (logs_recvMessage b) ?_ ?_
    · intro a new hnew
      obtain ⟨r, m⟩ := a
      cases hnew
      refine logs_ite (fun hneg => logs_pure (.failed r m hneg)) ?_
      intro hneg
      refine logs_ite (fun hpos => logs_pure (.common r m hpos)) ?_
      intro hpos
      have hr : r = 0 := by omega
      subst hr
      refine logs_bind (logs_comm b .ack) ?_ ?_
      · intro r new hnew
        obtain ⟨code, heq, rfl⟩ := hnew
        cases heq
        refine logs_unless (fun hr => logs_pure (.unacknowledged m r hr)) ?_
        intro hr
        subst hr
        exact logs_pure (.received m)
      · intro f new hnew
        obtain ⟨code, heq, -⟩ := hnew
        cases heq
    · intro f new hnew
      cases hnew
      exact .fault f
  · intro f new hnew
    obtain ⟨code, heq, -⟩ := hnew
    cases heq

end Wrapped

/-- The calls of an exchange, with the reply or the negative code it ends with. -/
inductive Exchanged (msg : ZdtmMsg) (reply : ZaurusType) :
    Except Fault (Except Int ZdtmMsg) → List Call → Prop
  | unsent {code r : Int} {cs : List Call} (hcode : code < 0) (hsend : SendRun msg (.ok r) cs)
      (hr : r ≠ 0) : Exchanged msg reply (.ok (.error code)) cs
  | unreceived {code r : Int} {m : ZdtmMsg} {cs cs' : List Call} (hcode : code < 0)
      (hsend : SendRun msg (.ok 0) cs) (hrecv : RecvRun (.ok (r, m)) cs') (hr : r ≠ 0) :
      Exchanged msg reply (.ok (.error code)) (cs ++ cs')
  | mistyped {code : Int} {m : ZdtmMsg} {cs cs' : List Call} (hcode : code < 0)
      (hsend : SendRun msg (.ok 0) cs) (hrecv : RecvRun (.ok (0, m)) cs')
      (htype : m.body.type ≠ reply.bytes) : Exchanged msg reply (.ok (.error code)) (cs ++ cs')
  | completed {m : ZdtmMsg} {cs cs' : List Call} (hsend : SendRun msg (.ok 0) cs)
      (hrecv : RecvRun (.ok (0, m)) cs') (htype : m.body.type = reply.bytes) :
      Exchanged msg reply (.ok (.ok m)) (cs ++ cs')
  | sendFault {f : Fault} {cs : List Call} (hsend : SendRun msg (.error f) cs) :
      Exchanged msg reply (.error f) cs
  | recvFault {f : Fault} {cs cs' : List Call} (hsend : SendRun msg (.ok 0) cs)
      (hrecv : RecvRun (.error f) cs') : Exchanged msg reply (.error f) (cs ++ cs')

theorem Exchanged.code_neg {msg : ZdtmMsg} {reply : ZaurusType} {code : Int} {cs : List Call}
    (h : Exchanged msg reply (.ok (.error code)) cs) : code < 0 := by
  cases h with
  | unsent hcode hsend hr => exact hcode
  | unreceived hcode hsend hrecv hr => exact hcode
  | mistyped hcode hsend hrecv htype => exact hcode

theorem logs_exchange (b : Build) (msg : ZdtmMsg) (reply : ZaurusType)
    {sendFail recvFail typeFail : Int} (hsendFail : sendFail < 0) (hrecvFail : recvFail < 0)
    (htypeFail : typeFail < 0) :
    Logs (exchanges b) (exchange b msg reply sendFail recvFail typeFail)
      (Exchanged msg reply) := by
  refine logs_bind (logs_wrappedSend b msg) ?_ ?_
  · intro r cs hsend
    apply logs_unless
    · intro hr
      apply logs_pure
      simpa using Exchanged.unsent hsendFail hsend hr
    · intro hr
      subst hr
      refine logs_bind (logs_wrappedRecv b) ?_ ?_
      · intro a cs' hrecv
        obtain ⟨r, m⟩ := a
        apply logs_unless
        · intro hr
          apply logs_pure
          simpa using Exchanged.unreceived hrecvFail hsend hrecv hr
        · intro hr
          subst hr
          apply logs_unless
          · intro htype
            apply logs_pure
            simpa using Exchanged.mistyped htypeFail hsend hrecv htype
          · intro htype
            apply logs_pure
            simpa using Exchanged.completed hsend hrecv htype
      · intro f cs' hrecv
        exact .recvFault hsend hrecv
  · intro f cs hsend
    exact .sendFault hsend

end ZdtmExchanges
