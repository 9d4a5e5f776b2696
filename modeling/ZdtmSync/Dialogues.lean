import ZdtmSync.Anchor
import ZdtmSync.Documented
import ZdtmSync.Passcodes
import ZdtmSync.Strings

/-!
# Dialogues

What is said over `connfd`, line by line: what the Desktop hears, and what it says.
`Dialogue` is the meaning of a program as a part in such a conversation: a device
that says its lines gets the others, in this order, and the program returns.
-/

namespace ZdtmDialogues

open CMemory Programs ZdtmTypes ZdtmDesktopMsg ZdtmMsgs ZdtmNet ZdtmParsing ZdtmFraming ZdtmDelivery
  ZdtmReceiving ZdtmSession ZdtmProto ZdtmSync ZdtmExchanges ZdtmOperations ZdtmReplies ZdtmServed
  ZdtmSending
open ZdtmWireFormat (wireFormat)

variable {b : Build}

/-- One line of the conversation. -/
inductive Line (b : Build) where
  | hears (item : Item b)
  | signals (m : CommonMsg)
  | sends (t : DesktopType) (cont : SpecTypeContent)

namespace Line

/-- What the device has to say for it. -/
def heard : Line b → List UInt8
  | .hears item => item.bytes
  | .signals _ => []
  | .sends _ _ => []

/-- What the Desktop says with it, in the little-endian build. -/
def said : Line b → List UInt8
  | .hears _ => []
  | .signals m => m.bytes.toList
  | .sends t cont =>
    match contentWrite .littleEndian t cont with
    | .ok written => wireFormat t.bytes written.bytes
    | .error _ => []

/-- The call that it is recorded as. -/
def call : Line b → Call
  | .hears item => .recv item.result.1 (item.result.2.getD {})
  | .signals m => .comm m 0
  | .sends t cont => .message (desktopMsg t cont) 0

/-- A message that is sent is well formed. -/
def Proper : Line b → Prop
  | .sends t cont => ZdtmWireFormat.Sendable t (desktopMsg t cont)
  | _ => True

end Line

def heard (lines : List (Line b)) : List UInt8 := lines.flatMap Line.heard

def said (lines : List (Line b)) : List UInt8 := lines.flatMap Line.said

@[simp] theorem heard_nil : heard ([] : List (Line b)) = [] := rfl

@[simp] theorem heard_append (lines lines' : List (Line b)) :
    heard (lines ++ lines') = heard lines ++ heard lines' := List.flatMap_append

/-- All messages that are sent are well formed. -/
def Proper (lines : List (Line b)) : Prop := ∀ line ∈ lines, line.Proper

theorem proper_nil : Proper ([] : List (Line b)) := List.forall_mem_nil _

theorem Proper.append {lines lines' : List (Line b)} (h : Proper lines) (h' : Proper lines') :
    Proper (lines ++ lines') := List.forall_mem_append.mpr ⟨h, h'⟩

theorem proper_ite {c : Prop} [Decidable c] {lines lines' : List (Line b)} (h : c → Proper lines)
    (h' : ¬ c → Proper lines') : Proper (if c then lines else lines') := by
  split
  · next hc => exact h hc
  · next hc => exact h' hc

/-- The bytes that the lines of the Desktop are sent as. -/
theorem sends_said {lines : List (Line .littleEndian)} (hproper : Proper lines)
    {bs : List UInt8} (h : Sends .littleEndian (lines.map Line.call) bs) : bs = said lines := by
  induction lines generalizing bs with
  | nil =>
    cases h
    rfl
  | cons line lines ih =>
    have hrest : Proper lines := fun line hline => hproper line (List.mem_cons_of_mem _ hline)
    have hline : line.Proper := hproper line List.mem_cons_self
    cases line with
    | hears item =>
      cases h with
      | recv r m h => exact ih hrest h
    | signals m =>
      cases h with
      | comm m h =>
        rw [ih hrest h]
        rfl
    | sends t cont =>
      cases h with
      | unsent msg r hr h => exact absurd rfl hr
      | message hprepare h =>
        obtain ⟨content, hwrite, -⟩ := ZdtmWireFormat.sendable_written .littleEndian hline
        have hwire := ZdtmWireFormat.prepared_wire hline hprepare hwrite
        have hwrite' : contentWrite .littleEndian t cont = .ok { bytes := content } := hwrite
        have hsaid : (Line.sends t cont : Line .littleEndian).said = wireFormat t.bytes content := by
          simp only [Line.said, hwrite']
        rw [ih hrest h, hwire]
        simp only [said, List.flatMap_cons, hsaid]
        rfl

/-- What a run over the lines sends, to a kernel that takes whole messages. -/
theorem traffic_said {s s' : State} {lines : List (Line .littleEndian)} (hproper : Proper lines)
    (h : Traffic .littleEndian s (lines.map Line.call) s') (hsends : s.world.sends = []) :
    s'.world.sends = [] ∧
      ∃ io, s'.world.trace = s.world.trace ++ io ∧ bytesSent io = said lines := by
  obtain ⟨hsends', hbytes⟩ := traffic_sends h hsends
  obtain ⟨evs, -, -, hwhole⟩ := h.recorded
  obtain ⟨-, htrace, -⟩ := hwhole hsends
  refine ⟨hsends', _, htrace, ?_⟩
  rw [sentSince, htrace, List.drop_left] at hbytes
  exact sends_said hproper hbytes

section Dialogue

variable {α β : Type} {host : Host}

/-- In this environment the program plays its part in the lines, returns `a`, and
leaves the environment `env'`. -/
structure Dialogue (b : Build) (host : Host) (x : Session α) (env : Env) (lines : List (Line b))
    (a : α) (env' : Env) : Prop where
  run : ∀ s rest, s.env = env → s.host = host → Served s (heard lines ++ rest) →
    Leads x s fun r s' => r = .ok a ∧ s'.env = env' ∧ s'.host = host ∧ Served s' rest ∧
      Traffic b s (lines.map Line.call) s'

variable {env env' env'' : Env} {lines lines' : List (Line b)} {a : α} {c : β}

theorem dialogue_pure (a : α) : Dialogue b host (pure a) env [] a env :=
  ⟨fun s _ henv hhost hs => leads_pure ⟨rfl, henv, hhost, hs, .refl b s⟩⟩

theorem dialogue_bind {x : Session α} {f : α → Session β} (hx : Dialogue b host x env lines a env')
    (hf : Dialogue b host (f a) env' lines' c env'') :
    Dialogue b host (x >>= f) env (lines ++ lines') c env'' := by
  constructor
  intro s rest henv hhost hs
  rw [heard_append, List.append_assoc] at hs
  apply leads_bind (hx.run s _ henv hhost hs)
  · intro r s₁ h
    obtain ⟨heq, henv₁, hhost₁, hs₁, htraffic⟩ := h
    cases heq
    apply (hf.run s₁ rest henv₁ hhost₁ hs₁).mono
    intro r s₂ h
    obtain ⟨hr, henv₂, hhost₂, hs₂, htraffic'⟩ := h
    rw [List.map_append]
    exact ⟨hr, henv₂, hhost₂, hs₂, htraffic.trans htraffic'⟩
  · intro e s₁ h
    obtain ⟨heq, -⟩ := h
    cases heq

/-- The last part of a sequence has no lines. -/
theorem dialogue_last {x : Session α} {f : α → Session β} (hx : Dialogue b host x env lines a env')
    (hf : Dialogue b host (f a) env' [] c env'') : Dialogue b host (x >>= f) env lines c env'' := by
  have hbind := dialogue_bind hx hf
  rwa [List.append_nil] at hbind

/-- The first part of a sequence has no lines. -/
theorem dialogue_first {x : Session α} {f : α → Session β} (hx : Dialogue b host x env [] a env')
    (hf : Dialogue b host (f a) env' lines c env'') : Dialogue b host (x >>= f) env lines c env'' :=
  dialogue_bind hx hf

/-- What follows a part of the conversation is run behind it. -/
theorem leads_dialogue {x : Session α} {f : α → Session β} (hx : Dialogue b host x env lines a env')
    {s : State} {rest : List UInt8} (henv : s.env = env) (hhost : s.host = host)
    (hs : Served s (heard lines ++ rest)) {Q : Except Fault β → State → Prop}
    (hf : ∀ s', s'.env = env' → s'.host = host → Served s' rest →
      Traffic b s (lines.map Line.call) s' → Leads (f a) s' Q) : Leads (x >>= f) s Q := by
  apply leads_bind (hx.run s rest henv hhost hs)
  · intro r s' h
    obtain ⟨heq, henv', hhost', hs', htraffic⟩ := h
    cases heq
    exact hf s' henv' hhost' hs' htraffic
  · intro e s' h
    obtain ⟨heq, -⟩ := h
    cases heq

theorem dialogue_getEnv {g : Env → Session α} (h : Dialogue b host (g env) env lines a env') :
    Dialogue b host (getEnv >>= g) env lines a env' := by
  constructor
  intro s rest henv hhost hs
  apply leads_getEnv
  rw [henv]
  exact h.run s rest henv hhost hs

theorem dialogue_getHost {g : Host → Session α} (h : Dialogue b host (g host) env lines a env') :
    Dialogue b host (getHost >>= g) env lines a env' := by
  constructor
  intro s rest henv hhost hs
  apply leads_getHost
  rw [hhost]
  exact h.run s rest henv hhost hs

theorem dialogue_lift {x : Except Fault α} {f : α → Session β} (hx : x = .ok a)
    (hf : Dialogue b host (f a) env lines c env') :
    Dialogue b host (Program.lift x >>= f) env lines c env' := by
  subst hx
  exact hf

theorem dialogue_modify (g : Env → Env) : Dialogue b host (modifyEnv g) env [] () (g env) := by
  constructor
  intro s rest henv hhost hs
  subst henv
  exact ⟨rfl, rfl, hhost, ⟨hs.heap, hs.sends, hs.stream⟩, .env b s _⟩

theorem dialogue_allocate {n : Nat} {f : Ptr → Session β}
    (hf : ∀ block, Dialogue b host (f (some block)) env lines c env') :
    Dialogue b host (allocate n >>= f) env lines c env' := by
  constructor
  intro s rest henv hhost hs
  obtain ⟨garbage, hgarbage⟩ := hs.heap.exists_block
  let s₁ : State := { s with world := { s.world with heap := s.world.heap.next } }
  have hrun : allocate n s = (.ok (some ((List.range n).map garbage)), s₁) := by
    simp only [allocate, sys, mem, malloc_some hgarbage, s₁]
  have hs₁ : Served s₁ (heard lines ++ rest) := ⟨hs.heap.next, hs.sends, hs.stream⟩
  have hsilent : Traffic b s [] s₁ := .nothing rfl rfl rfl rfl
  have hlead := (hf ((List.range n).map garbage)).run s₁ rest henv hhost hs₁
  have heq : (allocate n >>= f) s = f (some ((List.range n).map garbage)) s₁ :=
    Programs.bind_ok hrun
  rw [Leads, heq]
  obtain ⟨hr, henv', hhost', hserved, htraffic⟩ := hlead
  exact ⟨hr, henv', hhost', hserved, hsilent.trans htraffic⟩

/-- A program that answers, and is recorded as one call. -/
theorem dialogue_of_answers {x : Session α} {line : Line b} {call : α → Call}
    (hx : Answers x line.heard a) (hlogs : Logs (exchanges b) x (OneCall call))
    (hcall : call a = line.call) : Dialogue b host x env [line] a env := by
  constructor
  intro s rest henv hhost hs
  have hheard : heard [line] = line.heard := List.append_nil _
  rw [hheard] at hs
  obtain ⟨hr, hs', henv', hhost'⟩ := hx s rest hs
  obtain ⟨cs, hexchanges, hone⟩ := hlogs s
  rw [hr] at hone
  cases hone
  refine ⟨hr, henv'.trans henv, hhost'.trans hhost, hs', ?_⟩
  rw [List.map_singleton, ← hcall]
  exact hexchanges.traffic

end Dialogue

section Messages

variable {host : Host} {env : Env}

theorem recv_dialogue (item : Item b) : Dialogue b host (recvMessage b) env [.hears item]
    (item.result.1, item.result.2.getD {}) env :=
  dialogue_of_answers (recv_answers b item) (logs_recvMessage b) rfl

theorem hears_dialogue (m : CommonMsg) :
    Dialogue b host (recvMessage b) env [.hears (.common m)] (commonCode m, {}) env :=
  recv_dialogue (.common m)

theorem comm_dialogue (m : CommonMsg) :
    Dialogue b host (recorded (zdtmSendCommMessageTo .connfd m.bytes) (.comm m)) env [.signals m] 0
      env := by
  have hlogs : Logs (exchanges b) (recorded (zdtmSendCommMessageTo .connfd m.bytes) (.comm m))
      (OneCall (.comm m)) := by
    intro s
    apply (logs_comm b m s).mono
    intro r s' h
    obtain ⟨cs, hexchanges, code, rfl, rfl⟩ := h
    exact ⟨_, hexchanges, .returned code⟩
  have hline : (Line.signals m : Line b).heard = [] := rfl
  exact dialogue_of_answers (comm_answers m) hlogs rfl

theorem wire_served {t : DesktopType} {cont : SpecTypeContent}
    (h : ZdtmWireFormat.Sendable t (desktopMsg t cont)) (b : Build) :
    ∃ written, Sendable b t cont written := by
  obtain ⟨content, hwrite, -⟩ := ZdtmWireFormat.sendable_written b h
  exact ⟨_, sendable_served h hwrite⟩

theorem send_dialogue {t : DesktopType} {cont : SpecTypeContent}
    (h : ZdtmWireFormat.Sendable t (desktopMsg t cont)) :
    Dialogue b host (sendMessage b (desktopMsg t cont)) env [.sends t cont] 0 env := by
  obtain ⟨written, hserved⟩ := wire_served h b
  exact dialogue_of_answers hserved.answers (logs_sendMessage b _) rfl

/-- The Desktop is asked for a message. -/
def asked (b : Build) (t : DesktopType) (cont : SpecTypeContent) : List (Line b) :=
  [.hears (.common .rqst), .sends t cont, .hears (.common .ack)]

/-- The Desktop asks for a message. -/
def told (f : Frame b) : List (Line b) := [.signals .rqst, .hears (.general f), .signals .ack]

/-- The Desktop asks for a message, and is told that there is none. -/
def aborted (b : Build) : List (Line b) := [.signals .rqst, .hears (.common .abrt)]

def exchanged (t : DesktopType) (cont : SpecTypeContent) (f : Frame b) : List (Line b) :=
  asked b t cont ++ told f

theorem asked_proper {t : DesktopType} {cont : SpecTypeContent}
    (h : ZdtmWireFormat.Sendable t (desktopMsg t cont)) : Proper (asked b t cont) := by
  simp [Proper, asked, Line.Proper, h]

theorem told_proper (f : Frame b) : Proper (told f) := by
  simp [Proper, told, Line.Proper]

theorem aborted_proper : Proper (aborted b) := by
  simp [Proper, aborted, Line.Proper]

theorem exchanged_proper {t : DesktopType} {cont : SpecTypeContent}
    (h : ZdtmWireFormat.Sendable t (desktopMsg t cont)) (f : Frame b) :
    Proper (exchanged t cont f) := (asked_proper h).append (told_proper f)

@[simp] theorem heard_asked (t : DesktopType) (cont : SpecTypeContent) :
    heard (asked b t cont) = around := rfl

@[simp] theorem heard_told (f : Frame b) : heard (told f) = f.bytes := by
  simp [heard, told, Line.heard, Item.bytes]

@[simp] theorem heard_exchanged (t : DesktopType) (cont : SpecTypeContent) (f : Frame b) :
    heard (exchanged t cont f) = around ++ f.bytes := by
  simp [exchanged]

theorem wrappedSend_dialogue {t : DesktopType} {cont : SpecTypeContent}
    (h : ZdtmWireFormat.Sendable t (desktopMsg t cont)) :
    Dialogue b host (zdtmWrappedSendMessage b (desktopMsg t cont)) env (asked b t cont) 0 env := by
  apply dialogue_bind (hears_dialogue .rqst)
  apply dialogue_bind (send_dialogue h)
  apply dialogue_last (hears_dialogue .ack)
  exact dialogue_pure 0

theorem wrappedRecv_dialogue (f : Frame b) :
    Dialogue b host (zdtmWrappedRecvMessage b) env (told f) (0, f.msg) env := by
  apply dialogue_bind (comm_dialogue .rqst)
  apply dialogue_bind (recv_dialogue (.general f))
  apply dialogue_last (comm_dialogue .ack)
  exact dialogue_pure _

theorem wrappedRecv_aborted :
    Dialogue b host (zdtmWrappedRecvMessage b) env (aborted b) (3, {}) env := by
  apply dialogue_bind (comm_dialogue .rqst)
  apply dialogue_last (hears_dialogue .abrt)
  exact dialogue_pure _

/-- A general message of a type. -/
structure Reply (b : Build) (z : ZaurusType) where
  frame : Frame b
  type : frame.type = z

theorem Reply.msg_type {z : ZaurusType} (r : Reply b z) : r.frame.msg.body.type = z.bytes := by
  have hbytes : r.frame.msg.body.type = r.frame.type.bytes := rfl
  rw [hbytes, r.type]

/-- The message with this content. -/
def replyWith {z : ZaurusType} (content : List UInt8)
    (fits : msgTypeSize + content.length < 65536) (holds : HoldsItsFields .littleEndian z content) :
    Reply .littleEndian z where
  frame := {
    header := dmsgHdr
    type := z
    content
    checkSum := 0
    uncommon := dmsgHdr_uncommon
    fits
    holds }
  type := rfl

theorem exchange_dialogue {t : DesktopType} {cont : SpecTypeContent}
    (h : ZdtmWireFormat.Sendable t (desktopMsg t cont)) {z : ZaurusType} (r : Reply b z)
    (sendFail recvFail typeFail : Int) :
    Dialogue b host (exchange b (desktopMsg t cont) z sendFail recvFail typeFail) env
      (exchanged t cont r.frame) (.ok r.frame.msg) env := by
  apply dialogue_bind (wrappedSend_dialogue h)
  apply dialogue_last (wrappedRecv_dialogue r.frame)
  simp only [ne_eq, not_true_eq_false, if_false, r.msg_type]
  exact dialogue_pure _

end Messages

end ZdtmDialogues
