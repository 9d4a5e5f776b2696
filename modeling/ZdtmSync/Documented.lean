import ZdtmSync.Served
import ZdtmSync.Stages
import ZdtmSync.Strings

/-!
# Replies that are documented

An operation that reports success received exactly the replies that its
documentation names. `zdtm_terminate_sync` is the exception: it takes any
general message for the AEX message that confirms the end.
-/

namespace ZdtmDocumented

open CMemory Programs ZdtmTypes ZdtmDesktopMsg ZdtmMsgs ZdtmNet ZdtmReceiving ZdtmSession
open ZdtmProto ZdtmConnections ZdtmSync ZdtmExchanges ZdtmOperations ZdtmReplies ZdtmDescriptors
open ZdtmScript ZdtmServed ZdtmStrings

inductive Reply where
  | abort
  | general (type : MsgType)
  deriving DecidableEq

/-- A reply that a call received; a request or an acknowledgement is none. -/
def replyOf : Call → Option Reply
  | .recv r m => if r = 0 then some (.general m.body.type) else if r = 3 then some .abort else none
  | _ => none

def replies (cs : List Call) : List Reply := cs.filterMap replyOf

@[simp] theorem replies_nil : replies [] = [] := rfl

@[simp] theorem replies_append (cs cs' : List Call) :
    replies (cs ++ cs') = replies cs ++ replies cs' := List.filterMap_append

/-- An operation that asks the device something, or the end of a session. -/
inductive Request where
  | operation (op : Operation)
  | terminateSync

def Request.run (b : Build) : Request → Session Int
  | .operation op => op.run b
  | .terminateSync => zdtmTerminateSync b

def Request.isAuthentication : Request → Bool
  | .operation (.authenticatePasscode _) => true
  | _ => false

/-- The replies behind a success. -/
def Request.documented : Request → List Reply
  | .operation .obtainDeviceInfo => [.general ZaurusType.aig.bytes]
  | .operation .obtainSyncState => [.general ZaurusType.amg.bytes]
  | .operation .resetSyncState => [.general ZaurusType.aex.bytes]
  | .operation (.authenticatePasscode _) => [.general ZaurusType.aex.bytes]
  | .operation (.obtainLastTimeSynced _) => [.general ZaurusType.atg.bytes]
  | .operation (.setLastTimeSynced _) => [.general ZaurusType.aex.bytes]
  | .operation .resetSyncLog =>
    [.abort, .general ZaurusType.ang.bytes, .general ZaurusType.aex.bytes]
  | .operation .obtainParamFormat => [.general ZaurusType.adi.bytes]
  | .operation (.obtainItem _ _) => [.general ZaurusType.adr.bytes]
  | .operation (.obtainSyncIdLists _) => [.general ZaurusType.asy.bytes]
  | .operation (.deleteItem _) => [.general ZaurusType.aex.bytes]
  | .operation .stateSyncDone => [.general ZaurusType.aex.bytes]
  | .terminateSync => [.general ZaurusType.aex.bytes]

/-- The replies behind a denied passcode. -/
def denied : List Reply := [.abort, .general ZaurusType.ang.bytes]

/-- The code that a request returned fits the replies. -/
structure Fits (req : Request) (code : Int) (cs : List Call) : Prop where
  success : code = 0 → replies cs = req.documented
  denial : req.isAuthentication → code = 1 → replies cs = denied

/-- Whatever the rest of the session is like, a request that is answered by the
stream returns only what the replies say. A run that reads past the end of a reply
returns nothing here, and says nothing against the request. -/
def ChecksReplies (b : Build) (req : Request) (stream : List UInt8) : Prop :=
  ∀ s, Chunked.available s.world.inbox = stream → ∀ code, (req.run b s).1 = .ok code →
    Fits req code (callsSince s (req.run b s).2)

section Runs

variable {msg m : ZdtmMsg} {cs : List Call}

theorem sendRun_replies (h : SendRun msg (.ok 0) cs) : replies cs = [] := by
  cases h with
  | acknowledged m m' => rfl

theorem recvRun_replies (h : RecvRun (.ok (0, m)) cs) :
    replies cs = [.general m.body.type] := by
  cases h with
  | common r m hr => exact absurd hr (Int.lt_irrefl 0)
  | received m => rfl

theorem recvRun_abort (h : RecvRun (.ok (3, m)) cs) : replies cs = [.abort] := by
  cases h with
  | common r m hr => rfl

theorem exchanged_replies {reply : ZaurusType} (h : Exchanged msg reply (.ok (.ok m)) cs) :
    replies cs = [.general reply.bytes] := by
  cases h with
  | completed hsend hrecv htype =>
    rw [replies_append, sendRun_replies hsend, recvRun_replies hrecv, htype]
    rfl

theorem answered_replies {t : DesktopType} {reply : ZaurusType}
    (h : AnsweredCalls t reply (.ok 0) cs) : replies cs = [.general reply.bytes] := by
  obtain ⟨store, env, env', hanswered⟩ := h
  obtain ⟨msg, m, -, hex, -⟩ := answered_completed hanswered rfl
  exact exchanged_replies hex

theorem authRun_replies (h : AuthRun (.ok 0) cs) :
    replies cs = [.general ZaurusType.aex.bytes] := by
  cases h with
  | unasked hcode => exact absurd hcode (Int.lt_irrefl 0)
  | unsent hcode => exact absurd hcode (Int.lt_irrefl 0)
  | failed hcode => exact absurd hcode (Int.lt_irrefl 0)
  | aborted hcode => exact absurd hcode (Int.lt_irrefl 0)
  | accepted ht hsend hrecv htype =>
    rw [replies_append, sendRun_replies hsend, recvRun_replies hrecv, htype]
    rfl

theorem authRun_denied (h : AuthRun (.ok 1) cs) : replies cs = denied := by
  cases h with
  | unasked hcode => exact absurd hcode (by decide)
  | unsent hcode => exact absurd hcode (by decide)
  | failed hcode => exact absurd hcode (by decide)
  | aborted hcode => exact absurd hcode (by decide)
  | denied ht hsend habort hrecv htype =>
    rw [replies_append, replies_append, sendRun_replies hsend, recvRun_abort habort,
      recvRun_replies hrecv, htype]
    rfl

theorem logRun_replies (h : LogRun (.ok 0) cs) :
    replies cs = [.abort, .general ZaurusType.ang.bytes, .general ZaurusType.aex.bytes] := by
  cases h with
  | unsent hcode => exact absurd hcode (Int.lt_irrefl 0)
  | unaborted hcode => exact absurd hcode (Int.lt_irrefl 0)
  | aborted hcode => exact absurd hcode (Int.lt_irrefl 0)
  | stopped hcode => exact absurd hcode (Int.lt_irrefl 0)
  | accepted ht ht' hrefused hex =>
    cases hrefused with
    | intro hsend habort hrecv htype =>
      simp [sendRun_replies hsend, recvRun_abort habort, recvRun_replies hrecv,
        exchanged_replies hex, htype]

/-- Every operation checks the replies it gets. -/
theorem operation_fits (op : Operation) {code : Int} (h : op.Calls (.ok code) cs) :
    Fits (.operation op) code cs := by
  constructor
  · rintro rfl
    cases op with
    | authenticatePasscode passcode => exact authRun_replies h
    | resetSyncLog => exact logRun_replies h
    | obtainDeviceInfo => exact answered_replies h
    | obtainSyncState => exact answered_replies h
    | resetSyncState => exact answered_replies h
    | obtainLastTimeSynced pTime => exact answered_replies h
    | setLastTimeSynced timeSynced => exact answered_replies h
    | obtainParamFormat => exact answered_replies h
    | obtainItem syncId item => exact answered_replies h
    | obtainSyncIdLists lists => exact answered_replies h
    | deleteItem syncId => exact answered_replies h
    | stateSyncDone => exact answered_replies h
  · intro hauth hcode
    subst hcode
    cases op with
    | authenticatePasscode passcode => exact authRun_denied h
    | _ => cases hauth

end Runs

section Disconnect

variable {α β : Type}

/-- Nothing crosses the connection on `connfd`. -/
def Quiet (x : Session α) : Prop :=
  ∀ s, Leads x s fun _ s' => s'.world = s.world ∧ s'.events = s.events

theorem quiet_pure (a : α) : Quiet (pure a) := fun _ => leads_pure ⟨rfl, rfl⟩

theorem quiet_ite {c : Prop} [Decidable c] {x y : Session α} (hx : Quiet x) (hy : Quiet y) :
    Quiet (if c then x else y) := by
  split
  · exact hx
  · exact hy

theorem quiet_bind {x : Session α} {f : α → Session β} (hx : Quiet x) (hf : ∀ a, Quiet (f a)) :
    Quiet (x >>= f) := by
  intro s
  apply leads_bind (hx s)
  · intro a s' h
    apply (hf a s').mono
    intro r s'' h'
    exact ⟨h'.1.trans h.1, h'.2.trans h.2⟩
  · intro e s' h
    exact h

theorem answer_quiet : Quiet answer := by
  intro s
  apply (answer_leads s).mono
  rintro r s' ⟨-, answers, rfl⟩
  exact ⟨rfl, rfl⟩

theorem closeDescriptor_quiet (socket : Socket) : Quiet (closeDescriptor socket) := by
  have hhost : Quiet getHost := fun s => ⟨rfl, rfl⟩
  cases socket with
  | none => exact quiet_pure false
  | some fd =>
    have hclosed : Quiet (modifyHost (closed fd)) := fun s => ⟨rfl, rfl⟩
    apply quiet_bind hhost
    intro host
    apply quiet_ite (quiet_pure false)
    apply quiet_bind answer_quiet
    intro success
    exact quiet_ite (quiet_bind hclosed fun _ => quiet_pure true) (quiet_pure false)

theorem disconnect_quiet : Quiet zdtmDisconnect := by
  have henv : Quiet getEnv := fun s => ⟨rfl, rfl⟩
  have hclose : Quiet zdtmCloseConnToZaurus := by
    apply quiet_bind henv
    intro env
    apply quiet_bind (closeDescriptor_quiet env.reqfd)
    intro success
    exact quiet_ite (quiet_pure 0) (quiet_pure (-1))
  apply quiet_bind hclose
  intro r
  exact quiet_ite (quiet_pure (-1)) (quiet_pure 0)

/-- The connection is closed if it is open and the call succeeds. -/
theorem disconnect_closes {s : State} {fd : Nat} (hreq : s.env.reqfd = some fd)
    (hopen : fd ∈ s.host.descriptors) (hanswers : s.host.answers = []) :
    (zdtmDisconnect s).1 = .ok 0 := by
  have hanswer : answer s = (.ok true, s) := by simp only [answer, hanswers]
  have hclose : closeDescriptor (some fd) s = (.ok true, { s with host := closed fd s.host }) := by
    change (if fd ∉ s.host.descriptors then _ else _ : Session Bool) s = _
    simp only [hopen, not_true_eq_false, if_false]
    rw [Programs.bind_ok hanswer]
    rfl
  have hconn : zdtmCloseConnToZaurus s = (.ok 0, { s with host := closed fd s.host }) := by
    change (closeDescriptor s.env.reqfd >>= _) s = _
    rw [hreq, Programs.bind_ok hclose]
    rfl
  unfold zdtmDisconnect
  rw [Programs.bind_ok hconn]
  rfl

end Disconnect

/-- The recorder of the calls alone. -/
def crosses (b : Build) : Recorder State Call where
  Extends := Traffic b
  refl s := Traffic.refl b s
  trans h h' := h.trans h'

section Terminate

variable {b : Build}

theorem Quiet.logs {α : Type} {x : Session α} (h : Quiet x) :
    Logs (crosses b) x fun _ cs => cs = [] := by
  intro s
  apply (h s).mono
  rintro r s' ⟨hworld, hevents⟩
  refine ⟨[], .nothing hevents ?_ ?_ ?_, rfl⟩
  · rw [hworld]
  · rw [hworld]
  · rw [hworld]

theorem crosses_of_exchanges {α : Type} {x : Session α} {R : Except Fault α → List Call → Prop}
    (h : Logs (exchanges b) x R) : Logs (crosses b) x R :=
  h.weaken fun _ _ _ hexchanges => hexchanges.traffic

/-- The calls of an end that is reported as a success: nothing is said of the
type of the general message. -/
inductive Terminated : List Call → Prop
  | intro {msg ray m m' : ZdtmMsg} {cs cs' : List Call} (hsend : SendRun msg (.ok 0) cs)
      (hrecv : RecvRun (.ok (0, m)) cs') : Terminated (cs ++ (cs' ++ [.recv 2 m', .message ray 0]))

theorem terminateSync_logs (b : Build) : Logs (crosses b) (zdtmTerminateSync b)
    fun r cs => r = .ok 0 → Terminated cs := by
  refine logs_bind (crosses_of_exchanges (logs_wrappedSend b _)) ?_ fun _ _ _ => nofun
  intro r cs hsend
  refine logs_unless (fun _ => logs_pure nofun) ?_
  intro hr
  subst hr
  refine logs_bind (crosses_of_exchanges (logs_wrappedRecv b)) ?_ fun _ _ _ => nofun
  intro a cs' hrecv
  obtain ⟨r, m⟩ := a
  refine logs_unless (fun _ => logs_pure nofun) ?_
  intro hr
  subst hr
  refine logs_bind (crosses_of_exchanges (logs_recvMessage b)) ?_ fun _ _ _ => nofun
  intro a cs'' hrqst
  obtain ⟨r, m'⟩ := a
  cases hrqst
  refine logs_unless (fun _ => logs_pure nofun) ?_
  intro hr
  subst hr
  refine logs_bind (crosses_of_exchanges (logs_sendMessage b _)) ?_ fun _ _ _ => nofun
  intro r cs'' hray
  cases hray
  refine logs_unless (fun _ => logs_pure nofun) ?_
  intro hr
  subst hr
  refine logs_bind disconnect_quiet.logs ?_ fun _ _ _ => nofun
  intro r cs'' hnothing
  subst hnothing
  refine logs_ite (fun _ => logs_pure nofun) ?_
  intro _
  apply logs_pure
  intro _
  simpa using Terminated.intro hsend hrecv

/-- The device says these bytes to an end that is reported as a success. -/
def farewell (f : Frame b) : List UInt8 := around ++ (f.bytes ++ CommonMsg.rqst.bytes.toList)

theorem terminated_stream {cs : List Call} (h : Terminated cs) {stream rest : List UInt8}
    (hreads : Reads b cs stream rest) : ∃ f : Frame b, stream = farewell f ++ rest ∧
      replies cs = [.general f.type.bytes] := by
  cases h with
  | intro hsend hrecv =>
    obtain ⟨mid, hfirst, hlast⟩ := reads_split hreads
    obtain ⟨mid', hreply, hlast⟩ := reads_split hlast
    obtain ⟨f, rfl, hmid⟩ := recvRun_stream hrecv hreply
    cases hlast with
    | recv hrqst hlast =>
      cases hlast with
      | message ray r hlast =>
        refine ⟨f, ?_, ?_⟩
        · rw [sendRun_stream hsend hfirst, hmid, received_common .rqst hrqst, reads_nil hlast,
            farewell]
          simp only [List.append_assoc]
        · rw [replies_append, replies_append, sendRun_replies hsend, recvRun_replies hrecv]
          rfl

/-- The type stands at its own place in a frame. -/
theorem farewell_type {f g : Frame b} {rest rest' : List UInt8}
    (h : farewell f ++ rest = farewell g ++ rest') : f.type = g.type := by
  simp only [farewell, Frame.bytes, List.append_assoc] at h
  have hframes := List.append_cancel_left h
  have hsizes := List.append_inj_right hframes (by simp)
  have htypes := List.append_inj_right hsizes (by simp [LittleEndian.length_bytes])
  have hbytes : f.type.bytes = g.type.bytes :=
    Subtype.ext (List.append_inj_left htypes (by simp))
  exact frame_type hbytes

theorem rqt_sendable (b : Build) : Sendable b .rqt {} { bytes := [0, 0, 0] } where
  write := rfl
  fits := by
    change 3 ≤ (UInt16.ofInt (3 + 3) - UInt16.ofNat 3).toNat
    decide
  accepted h := absurd h.1 (by decide)
  body := by
    change 3 ≤ (UInt16.ofInt (3 + 3)).toNat
    decide

theorem ray_sendable (b : Build) : Sendable b .ray {} { bytes := [] } :=
  ⟨rfl, Nat.zero_le _, fun h => absurd h.1 (by decide), Nat.le_refl 3⟩

/-- Whatever the type of the general message, the end is a success. -/
theorem terminateSync_succeeds (f : Frame b) {s : State} {rest : List UInt8}
    (hs : Served s (farewell f ++ rest)) {fd : Nat} (hreq : s.env.reqfd = some fd)
    (hopen : fd ∈ s.host.descriptors) (hanswers : s.host.answers = []) :
    (zdtmTerminateSync b s).1 = .ok 0 := by
  change Leads (zdtmTerminateSync b) s fun r _ => r = .ok 0
  rw [farewell, List.append_assoc, List.append_assoc] at hs
  apply leads_answers (wrappedSend_answers (rqt_sendable b)) hs
  intro s₁ hs₁ henv₁ hhost₁
  apply leads_answers (wrappedRecv_answers b f) hs₁
  intro s₂ hs₂ henv₂ hhost₂
  apply leads_answers (recv_answers_common b .rqst) hs₂
  intro s₃ hs₃ henv₃ hhost₃
  apply leads_answers (ray_sendable b).answers hs₃
  intro s₄ hs₄ henv₄ hhost₄
  have hdisconnect : (zdtmDisconnect s₄).1 = .ok 0 := by
    apply disconnect_closes
    · rw [henv₄, henv₃, henv₂, henv₁, hreq]
    · rw [hhost₄, hhost₃, hhost₂, hhost₁]
      exact hopen
    · rw [hhost₄, hhost₃, hhost₂, hhost₁, hanswers]
  apply leads_bind (P := fun r _ => r = .ok 0) hdisconnect
  · intro r s' hr
    cases hr
    exact leads_pure rfl
  · exact fun _ _ => nofun

end Terminate

/-- A connection to the Zaurus is open. -/
def connectedState (stream : List UInt8) (h : stream ≠ []) : State :=
  { deviceState stream h with
    env := { reqfd := some 0 }
    host := { quietHost with descriptors := [0] } }

theorem farewell_ne {b : Build} (f : Frame b) (rest : List UInt8) : farewell f ++ rest ≠ [] := by
  simp [farewell, around, CommonMsg.bytes]

theorem connectedState_served (stream : List UInt8) (h : stream ≠ []) :
    Served (connectedState stream h) stream := by
  obtain ⟨hheap, hsends, hstream⟩ := deviceState_served stream h
  exact ⟨hheap, hsends, hstream⟩

/-- The end of a session that is reported as a success got one general message,
which the stream names. -/
theorem terminateSync_replies {b : Build} {s : State}
    (h : (zdtmTerminateSync b s).1 = .ok 0) : ∃ (f : Frame b) (rest : List UInt8),
      Chunked.available s.world.inbox = farewell f ++ rest ∧
      replies (callsSince s (zdtmTerminateSync b s).2) = [.general f.type.bytes] := by
  obtain ⟨cs, htraffic, hterminated⟩ := (terminateSync_logs b s).of_eq (Prod.ext h rfl)
  obtain ⟨f, hstream, hreplies⟩ := terminated_stream (hterminated rfl) htraffic.reads
  have hcalls : callsSince s (zdtmTerminateSync b s).2 = cs := traffic_callsSince htraffic
  rw [hcalls]
  exact ⟨f, _, hstream, hreplies⟩

/-- A device that refuses the end of the session with an ANG message. -/
def refusal : List UInt8 := deviceReply .ang [0] ++ CommonMsg.rqst.bytes.toList

end ZdtmDocumented
