import ZdtmSync.Served

/-!
# Receiving overruns nothing

Every copy while a message is received goes into a block or an array of the size
that is copied, so the only faults are reads past an end. A message that fills
no more than its block is sent without a fault.
-/

namespace ZdtmOverruns

open CMemory ZdtmTypes ZdtmDesktopMsg ZdtmZaurusMsg ZdtmMsgs ZdtmNet ZdtmFraming
open ZdtmDelivery ZdtmSession ZdtmProto ZdtmServed

section Parsers

open CMemory.Scan (avoids_pure avoids_raw avoids_alloc avoids_bind avoids_times)

variable {e : Fault} (he : e ≠ .overread)

include he

theorem uchar_avoids : Scan.Avoids e uchar :=
  avoids_bind (avoids_raw he 1) fun _ => avoids_pure _

theorem copied_avoids (n : Nat) (code : Int) : Scan.Avoids e (copied n code) :=
  avoids_bind (avoids_alloc n code) fun _ => avoids_bind (avoids_raw he n) fun _ => avoids_pure _

theorem atg_avoids : Scan.Avoids e zdtmParseRawAtgMsg :=
  avoids_bind (avoids_raw he 4) fun _ => avoids_bind (avoids_raw he 2) fun _ =>
    avoids_bind (avoids_raw he 2) fun _ => avoids_bind (avoids_raw he 2) fun _ =>
      avoids_bind (avoids_raw he 2) fun _ => avoids_bind (avoids_raw he 2) fun _ => avoids_pure _

theorem amg_avoids : Scan.Avoids e zdtmParseRawAmgMsg :=
  avoids_bind (avoids_raw he 2) fun _ => avoids_bind (uchar_avoids he) fun _ =>
    avoids_bind (avoids_raw he 46) fun _ => avoids_pure _

variable (b : Build)

theorem short_avoids : Scan.Avoids e (short b) :=
  avoids_bind (avoids_raw he 2) fun _ => avoids_pure _

theorem long_avoids : Scan.Avoids e (long b) :=
  avoids_bind (avoids_raw he 4) fun _ => avoids_pure _

theorem shortByLong_avoids : Scan.Avoids e (shortByLong b) :=
  avoids_bind (avoids_raw he 2) fun _ => avoids_pure _

theorem aig_avoids : Scan.Avoids e (zdtmParseRawAigMsg b) :=
  avoids_bind (short_avoids he b) fun _ => avoids_bind (copied_avoids he _ _) fun _ =>
    avoids_bind (avoids_raw he 5) fun _ => avoids_bind (avoids_raw he 2) fun _ =>
      avoids_bind (uchar_avoids he) fun _ => avoids_bind (avoids_raw he 6) fun _ => avoids_pure _

theorem adiDesc_avoids : Scan.Avoids e (adiDesc b) :=
  avoids_bind (short_avoids he b) fun _ => avoids_bind (copied_avoids he _ _) fun _ => avoids_pure _

theorem adi_avoids : Scan.Avoids e (zdtmParseRawAdiMsg b) :=
  avoids_bind (long_avoids he b) fun _ => avoids_bind (short_avoids he b) fun _ =>
    avoids_bind (uchar_avoids he) fun _ => avoids_bind (avoids_alloc _ _) fun _ =>
      avoids_bind (avoids_times (avoids_raw he 4) _) fun _ =>
        avoids_bind (avoids_times (uchar_avoids he) _) fun _ =>
          avoids_bind (avoids_times (adiDesc_avoids he b) _) fun _ => avoids_pure _

theorem asyList_avoids (code : Int) : Scan.Avoids e (asyList b code) :=
  avoids_bind (uchar_avoids he) fun _ => avoids_bind (short_avoids he b) fun _ =>
    avoids_bind (avoids_alloc _ _) fun _ =>
      avoids_bind (avoids_times (long_avoids he b) _) fun _ => avoids_pure _

theorem asy_avoids : Scan.Avoids e (zdtmParseRawAsyMsg b) :=
  avoids_bind (asyList_avoids he b _) fun _ => avoids_bind (asyList_avoids he b _) fun _ =>
    avoids_bind (asyList_avoids he b _) fun _ => avoids_pure _

theorem adrParam_avoids : Scan.Avoids e (adrParam b) :=
  avoids_bind (long_avoids he b) fun _ => avoids_bind (copied_avoids he _ _) fun _ => avoids_pure _

theorem adr_avoids : Scan.Avoids e (zdtmParseRawAdrMsg b) :=
  avoids_bind (avoids_raw he 2) fun _ => avoids_bind (shortByLong_avoids he b) fun _ =>
    avoids_bind (avoids_alloc _ _) fun _ =>
      avoids_bind (avoids_times (adrParam_avoids he b) _) fun _ => avoids_pure _

theorem adw_avoids : Scan.Avoids e (zdtmParseRawAdwMsg b) :=
  avoids_bind (avoids_raw he 4) fun _ => avoids_bind (shortByLong_avoids he b) fun _ =>
    avoids_bind (long_avoids he b) fun _ => avoids_pure _

theorem contentScan_avoids (z : ZaurusType) (cont : SpecTypeContent) :
    Scan.Avoids e (contentScan b z cont) := by
  cases z with
  | aay =>
    apply avoids_bind (avoids_bind (avoids_raw he 3) fun _ => avoids_pure _)
    exact fun aay => avoids_pure _
  | aig => exact avoids_bind (aig_avoids he b) fun aig => avoids_pure _
  | amg => exact avoids_bind (amg_avoids he) fun amg => avoids_pure _
  | atg => exact avoids_bind (atg_avoids he) fun atg => avoids_pure _
  | aex => exact avoids_pure cont
  | ang =>
    apply avoids_bind (avoids_bind (uchar_avoids he) fun _ => avoids_pure _)
    exact fun ang => avoids_pure _
  | adi => exact avoids_bind (adi_avoids he b) fun adi => avoids_pure _
  | asy => exact avoids_bind (asy_avoids he b) fun asy => avoids_pure _
  | adr => exact avoids_bind (adr_avoids he b) fun adr => avoids_pure _
  | adw => exact avoids_bind (adw_avoids he b) fun adw => avoids_pure _

theorem parse_avoids (msg : ZdtmMsg) : Avoids e (zdtmParseRawMsg b msg) := by
  unfold zdtmParseRawMsg
  split
  · exact CMemory.avoids_pure _
  · apply CMemory.avoids_bind ((contentScan_avoids he b _ _).run _)
    intro r
    cases r with
    | error code => exact CMemory.avoids_pure _
    | ok cont => exact CMemory.avoids_pure _

end Parsers

section Receive

variable {α : Type} {e : Fault}

theorem mem_avoids {x : Mem α} (h : Avoids e x) : Avoids e (mem x) := by
  intro w hrun
  cases hx : x w.heap with
  | ok r =>
    simp only [mem, hx] at hrun
    cases hrun
  | error e' =>
    simp only [mem, hx] at hrun
    cases hrun
    exact h w.heap hx

theorem copyBytes_reads (he : e ≠ .overread) (n : Nat) (src : List UInt8) :
    copyBytes n src ≠ .error e := by
  unfold copyBytes
  split
  · nofun
  · intro h
    cases h
    exact he rfl

theorem recvLoop_avoids (tot need : Nat) : Avoids e (recvLoop tot need) := by
  intro w hrun
  rcases recvLoop_cases tot need w with ⟨got, inbox, -, -, hok⟩ | ⟨code, w', -, hok⟩
  · rw [hok] at hrun
    cases hrun
  · rw [hok] at hrun
    cases hrun

variable (he : e ≠ .overread) (b : Build) (p : Option ZdtmMsg)

include he

theorem fillMessage_avoids (header buff : List UInt8) (bodySize : UInt16) :
    Avoids e (fillMessage b p header buff bodySize) := by
  cases p with
  | none => exact avoids_pure _
  | some msg =>
    apply avoids_ite (avoids_pure _)
    apply avoids_bind (mem_avoids (avoids_static (copyBytes_reads he _ _)))
    intro header
    apply avoids_bind (mem_avoids (avoids_static (copyBytes_reads he _ _)))
    intro type
    apply avoids_ite (avoids_pure _)
    apply avoids_bind (mem_avoids (avoids_malloc _))
    intro block
    cases block with
    | none => exact avoids_pure _
    | some block =>
      apply avoids_bind (mem_avoids (avoids_static (load_reads he _ _)))
      intro content
      exact avoids_pure _

theorem recvBody_avoids (header : List UInt8) : Avoids e (recvBody b p header) := by
  apply avoids_bind (mem_avoids (avoids_malloc _))
  intro block
  cases block with
  | none => exact avoids_pure _
  | some block =>
    apply avoids_bind (recvLoop_avoids _ _)
    intro buff
    cases buff with
    | error code => exact avoids_pure _
    | ok buff => exact fillMessage_avoids he b p _ _ _

theorem recvFrame_avoids : Avoids e (recvFrame b p) := by
  apply avoids_bind (recvLoop_avoids _ _)
  intro first
  cases first with
  | error code => exact avoids_pure _
  | ok first =>
    apply avoids_ite (avoids_pure _)
    apply avoids_ite (avoids_pure _)
    apply avoids_ite (avoids_pure _)
    apply avoids_bind (recvLoop_avoids _ _)
    intro second
    cases second with
    | error code => exact avoids_pure _
    | ok second => exact recvBody_avoids he b p _

theorem recvMessage_avoids : Avoids e (zdtmRecvMessage b p) := by
  apply avoids_bind (recvFrame_avoids he b p)
  intro framed
  cases framed with
  | returned code p => exact avoids_pure _
  | received msg =>
    apply avoids_bind (mem_avoids (parse_avoids he b msg))
    intro r
    exact avoids_pure _

end Receive

theorem send_avoids {b : Build} {t : DesktopType} {cont : SpecTypeContent} {written : Written}
    (h : Sendable b t cont written) (sockfd : Sock) (e : Fault) :
    Avoids e (zdtmSendMessageTo b (desktopMsg t cont) sockfd) := by
  intro w hrun
  cases hheap : w.heap 0 with
  | none =>
    have hprepare : zdtmPrepareMessage b (desktopMsg t cont) w.heap = _ :=
      prepare_nomem (desktopType_bytes t) rfl hheap
    unfold zdtmSendMessageTo at hrun
    rw [ZdtmNet.bind_ok (mem_ok hprepare)] at hrun
    cases hrun
  | some garbage =>
    have hprepare := h.prepare hheap
    cases hnext : w.heap.next 0 with
    | none =>
      rw [send_nomem hprepare hnext] at hrun
      cases hrun
    | some garbage' =>
      rw [send_granted hprepare hnext h.body] at hrun
      revert hrun
      apply avoids_bind
      · intro w' hloop
        cases hloop
      · intro done
        exact avoids_ite (avoids_pure _) (avoids_pure _)

section Exchange

open Programs

theorem recorded_never {α : Type} {e : Fault} {x : Sys α} {call : α → Call}
    (h : Avoids e x) : Never e (recorded x call) := by
  intro s hrun
  cases hx : x s.world with
  | ok r =>
    simp only [recorded, hx] at hrun
    cases hrun
  | error e' =>
    simp only [recorded, hx] at hrun
    cases hrun
    exact h s.world hx

theorem recv_never (b : Build) : Never .overrun (recvMessage b) :=
  never_bind (recorded_never (recvMessage_avoids (by decide) b _)) fun _ => never_pure _ _

theorem comm_never (m : CommonMsg) (e : Fault) :
    Never e (recorded (zdtmSendCommMessageTo .connfd m.bytes) (.comm m)) := by
  apply recorded_never
  intro w hrun
  obtain ⟨code, w', hok, -⟩ := sendComm_returns .connfd m.bytes w
  rw [hok] at hrun
  cases hrun

theorem wrappedRecv_never (b : Build) : Never .overrun (zdtmWrappedRecvMessage b) := by
  apply never_bind (comm_never .rqst _)
  intro r
  apply never_ite (never_pure _ _)
  apply never_bind (recv_never b)
  intro received
  apply never_ite (never_pure _ _)
  apply never_ite (never_pure _ _)
  apply never_bind (comm_never .ack _)
  intro r
  exact never_ite (never_pure _ _) (never_pure _ _)

variable {b : Build} {t : DesktopType} {cont : SpecTypeContent} {written : Written}

theorem wrappedSend_never (h : Sendable b t cont written) :
    Never .overrun (zdtmWrappedSendMessage b (desktopMsg t cont)) := by
  have hsend : Never .overrun (sendMessage b (desktopMsg t cont)) :=
    never_bind (recorded_never (send_avoids h .connfd _)) fun r => never_pure _ r.1
  apply never_bind (recv_never b)
  intro received
  apply never_ite (never_pure _ _)
  apply never_bind hsend
  intro r
  apply never_ite (never_pure _ _)
  apply never_bind (recv_never b)
  intro received
  exact never_ite (never_pure _ _) (never_pure _ _)

theorem exchange_never (h : Sendable b t cont written) (reply : ZaurusType)
    (sendFail recvFail typeFail : Int) :
    Never .overrun
      (exchange b (desktopMsg t cont) reply sendFail recvFail typeFail) := by
  apply never_bind (wrappedSend_never h)
  intro r
  apply never_ite (never_pure _ _)
  apply never_bind (wrappedRecv_never b)
  intro received
  apply never_ite (never_pure _ _)
  exact never_ite (never_pure _ _) (never_pure _ _)

end Exchange

end ZdtmOverruns
