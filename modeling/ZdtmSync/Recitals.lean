import ZdtmSync.Daemon
import ZdtmSync.Fetches
import ZdtmSync.Synchronized

/-!
# A whole run of the test daemon

From its initialization to its finalization the daemon is one dialogue with the
device, and prints the items that the device has for it. A device that serves the
whole dialogue is told at its end that the synchronization is done.
-/

namespace ZdtmRecitals

open CMemory Programs ZdtmTypes ZdtmMsgs ZdtmNet ZdtmReceiving ZdtmItems ZdtmFilling ZdtmSession
  ZdtmProto ZdtmConnections ZdtmSync ZdtmOperations ZdtmReplies ZdtmSlowSync ZdtmScript ZdtmServed
  ZdtmSending ZdtmSyncIds ZdtmAnchor ZdtmDialogues ZdtmSynchronized ZdtmFetches ZdtmDaemon
open ZdtmLog (text hexadecimal)

variable {b : Build}

section Recital

variable {α β : Type} {host : Host}

/-- The program plays its part in the lines and prints `out`. -/
structure Recital (b : Build) (host : Host) (x : Daemon α) (env : Env) (lines : List (Line b))
    (out : List Printed) (a : α) (env' : Env) : Prop where
  run : ∀ s before rest, s.env = env → s.host = host → Served s (heard lines ++ rest) →
    Leads x (s, before) fun r s' => r = .ok a ∧ s'.2 = before ++ out ∧ s'.1.env = env' ∧
      s'.1.host = host ∧ Served s'.1 rest ∧ Traffic b s (lines.map Line.call) s'.1

variable {env env' env'' : Env} {lines lines' : List (Line b)} {out out' : List Printed} {a : α}
  {c : β}

theorem recital_call {x : Session α} (hx : Dialogue b host x env lines a env') :
    Recital b host (call x) env lines [] a env' := by
  constructor
  intro s before rest henv hhost hs
  obtain ⟨hr, henv', hhost', hs', htraffic⟩ := hx.run s rest henv hhost hs
  have hrun : call x (s, before) = ((x s).1, ((x s).2, before)) := rfl
  exact leads_of_eq hrun ⟨hr, (List.append_nil _).symm, henv', hhost', hs', htraffic⟩

theorem recital_print (p : Printed) : Recital b host (print p) env [] [p] () env :=
  ⟨fun s _ _ henv hhost hs => ⟨rfl, rfl, henv, hhost, hs, .refl b s⟩⟩

theorem recital_pure (a : α) : Recital b host (pure a) env [] [] a env :=
  ⟨fun s _ _ henv hhost hs =>
    ⟨rfl, (List.append_nil _).symm, henv, hhost, hs, .refl b s⟩⟩

theorem recital_bind {x : Daemon α} {f : α → Daemon β} (hx : Recital b host x env lines out a env')
    (hf : Recital b host (f a) env' lines' out' c env'') :
    Recital b host (x >>= f) env (lines ++ lines') (out ++ out') c env'' := by
  constructor
  intro s before rest henv hhost hs
  rw [heard_append, List.append_assoc] at hs
  apply leads_bind (hx.run s before _ henv hhost hs)
  · intro r s₁ h
    obtain ⟨heq, hout, henv₁, hhost₁, hs₁, htraffic⟩ := h
    cases heq
    apply (hf.run s₁.1 s₁.2 rest henv₁ hhost₁ hs₁).mono
    intro r s₂ h
    obtain ⟨hr, hout', henv₂, hhost₂, hs₂, htraffic'⟩ := h
    rw [List.map_append]
    refine ⟨hr, ?_, henv₂, hhost₂, hs₂, htraffic.trans htraffic'⟩
    rw [hout', hout, List.append_assoc]
  · intro e s₁ h
    obtain ⟨heq, -⟩ := h
    cases heq

theorem recital_last {x : Daemon α} {f : α → Daemon β} (hx : Recital b host x env lines out a env')
    (hf : Recital b host (f a) env' [] [] c env'') :
    Recital b host (x >>= f) env lines out c env'' := by
  have hbind := recital_bind hx hf
  rwa [List.append_nil, List.append_nil] at hbind

theorem recital_lift {x : Except Fault α} {f : α → Daemon β} (hx : x = .ok a)
    (hf : Recital b host (f a) env lines out c env') :
    Recital b host (Program.lift x >>= f) env lines out c env' := by
  subst hx
  exact hf

/-- Nothing is said while the program prints. -/
theorem recital_printf {f : Unit → Daemon β} (line : List UInt8)
    (hf : Recital b host (f ()) env lines out c env') :
    Recital b host (printf line >>= f) env lines (.stdout line :: out) c env' :=
  recital_bind (recital_print (.stdout line)) hf

/-- So it is with any program that says nothing. -/
theorem recital_silent {x : Daemon α} {f : α → Daemon β} (hx : Recital b host x env [] out a env')
    (hf : Recital b host (f a) env' lines out' c env'') :
    Recital b host (x >>= f) env lines (out ++ out') c env'' := recital_bind hx hf

/-- Nothing is printed while the program calls the library. -/
theorem recital_calls {x : Session α} {f : α → Daemon β} (hx : Dialogue b host x env lines a env')
    (hf : Recital b host (f a) env' lines' out c env'') :
    Recital b host (call x >>= f) env (lines ++ lines') out c env'' :=
  recital_bind (recital_call hx) hf

end Recital

/-- What `%s` prints of a string in a zeroed buffer. -/
def shown (src : Ptr) (len : UInt32) : List UInt8 :=
  (src.target.take len.toNat).takeWhile (· ≠ 0)

theorem takeWhile_zeros (string : List UInt8) (n : Nat) :
    (string ++ List.replicate n 0).takeWhile (· ≠ 0) = string.takeWhile (· ≠ 0) := by
  induction string with
  | nil =>
    cases n with
    | zero => rfl
    | succ n => simp [List.replicate_succ]
  | cons c string ih =>
    by_cases hc : c = 0
    · simp [hc]
    · simpa [hc] using ih

/-- The string is there, and leaves room for a NUL. -/
structure Printable (src : Ptr) (len : UInt32) : Prop where
  readable : len.toNat ≤ src.target.length
  short : len.toNat < 256

theorem bufferText_shown {src : Ptr} {len : UInt32} (h : Printable src len) :
    bufferText src len = .ok (shown src len) := by
  obtain ⟨hread, hshort⟩ := h
  have hlen : (src.target.take len.toNat).length = len.toNat := List.length_take_of_le hread
  have hzeros : (zeros 256).toList = List.replicate 256 0 := rfl
  have hstore : store (zeros 256).toList (src.target.take len.toNat) =
      .ok (src.target.take len.toNat ++ List.replicate (256 - len.toNat) 0) := by
    rw [store_of_le (by rw [hlen, hzeros, List.length_replicate]; omega), hlen, hzeros,
      List.drop_replicate]
  have hnul : (0 : UInt8) ∈ src.target.take len.toNat ++ List.replicate (256 - len.toNat) 0 := by
    apply List.mem_append_right
    rw [List.mem_replicate]
    exact ⟨by omega, rfl⟩
  simp only [bufferText, load_of_le hread]
  change (store (zeros 256).toList (src.target.take len.toNat) >>= _) = _
  rw [hstore]
  change (if 0 ∈ src.target.take len.toNat ++ List.replicate (256 - len.toNat) 0 then _ else _) = _
  rw [if_pos hnul, takeWhile_zeros]
  rfl

structure PrintableItem (item : TodoItem) : Prop where
  category : Printable item.category item.categoryLen
  description : Printable item.description item.descriptionLen
  notes : Printable item.notes item.notesLen

def itemLines (item : TodoItem) : List Printed :=
  [text "--== Todo Item ==--\n",
    text "Sync ID: " ++ number item.syncId.toNat ++ text "\n",
    text "Category: " ++ shown item.category item.categoryLen ++ text "\n",
    text "Progress: 0x" ++ hexadecimal 2 (promoted item.progress) ++ text "\n",
    text "Priority: 0x" ++ hexadecimal 2 (promoted item.priority) ++ text "\n",
    text "Description: " ++ shown item.description item.descriptionLen ++ text "\n",
    text "Notes: " ++ shown item.notes item.notesLen ++ text "\n"].map .stdout

section Items

variable {host : Host} {env : Env}

theorem printTodoItem_recital {item : TodoItem} (h : PrintableItem item) :
    Recital b host (printTodoItem item) env [] (itemLines item) () env := by
  apply recital_printf
  apply recital_printf
  apply recital_lift (bufferText_shown h.category)
  apply recital_printf
  apply recital_printf
  apply recital_printf
  apply recital_lift (bufferText_shown h.description)
  apply recital_printf
  apply recital_lift (bufferText_shown h.notes)
  exact recital_print _

/-- A new item: its id, the reply of the device, and what the variable then holds. -/
structure Entry (b : Build) where
  syncId : UInt32
  reply : Reply b .adr
  item : TodoItem

/-- Each item is filled over the one before, and can be printed. -/
inductive Chain (fmt : List AdiMsgParam) : TodoItem → List (Entry b) → Prop
  | nil (todoItem : TodoItem) : Chain fmt todoItem []
  | cons {todoItem : TodoItem} {entry : Entry b} {entries : List (Entry b)}
      (hsuits : Suits todoParser fmt entry.reply)
      (hfilled : Filled todoParser fmt entry.reply todoItem entry.item)
      (hprintable : PrintableItem entry.item) (hrest : Chain fmt entry.item entries) :
      Chain fmt todoItem (entry :: entries)

def Entry.lines (entry : Entry b) : List (Line b) :=
  exchanged .rdr (rdrContent syncTypeTodo entry.syncId) entry.reply.frame

def newPrinted : Nat → List (Entry b) → List Printed
  | _, [] => []
  | i, entry :: entries =>
    .stdout (syncIdLine "new" i entry.syncId) ::
      .stdout (text "Before the call to zdtm_obtain_todo_item.\n") ::
      .stdout (text "After the call to zdtm_obtain_todo_item.\n") ::
      (itemLines entry.item ++ newPrinted (i + 1) entries)

theorem obtainNewItems_recital {todoItem : TodoItem} {entries : List (Entry b)}
    (htype : env.syncType = syncTypeTodo) (hchain : Chain (paramFormat env) todoItem entries)
    (i : Nat) :
    Recital b host (obtainNewItems b i (entries.map Entry.syncId) todoItem) env
      (entries.flatMap Entry.lines) (newPrinted i entries) 0 env := by
  induction hchain generalizing i with
  | nil todoItem => exact recital_pure 0
  | @cons todoItem entry entries hsuits hfilled hprintable hrest ih =>
    have hitem : Dialogue b host (zdtmObtainTodoItem b entry.syncId todoItem) env entry.lines
        (0, entry.item) env := parsedItem_dialogue todo_separate htype hsuits hfilled entry.syncId
    apply recital_printf
    apply recital_printf
    apply recital_calls hitem
    apply recital_printf
    exact recital_bind (printTodoItem_recital hprintable) (ih (i + 1))

def idsPrinted (kind : String) : Nat → List UInt32 → List Printed
  | _, [] => []
  | i, syncId :: syncIds => .stdout (syncIdLine kind i syncId) :: idsPrinted kind (i + 1) syncIds

theorem printSyncIds_recital (kind : String) (i : Nat) (syncIds : List UInt32) :
    Recital b host (printSyncIds kind i syncIds) env [] (idsPrinted kind i syncIds) () env := by
  induction syncIds generalizing i with
  | nil => exact recital_pure ()
  | cons syncId syncIds ih => exact recital_printf _ (ih (i + 1))

/-- The lists of sync ids that a device has ready, with an entry for each new id. -/
structure Changes (b : Build) where
  lists : Reply b .asy
  entries : List (Entry b)

namespace Changes

variable (c : Changes b)

def asy : AsyMsgContent := c.lists.frame.cont.asy

def lines : List (Line b) :=
  exchanged .rsy (rsyContent syncTypeTodo) c.lists.frame ++ c.entries.flatMap Entry.lines

def printed : List Printed :=
  .stdout (numLine "new" c.asy.numNewSyncIds) :: (newPrinted 0 c.entries ++
    .stdout (numLine "mod" c.asy.numModSyncIds) ::
      (idsPrinted "mod" 0 (counted c.asy.modSyncIds c.asy.numModSyncIds) ++
        .stdout (numLine "del" c.asy.numDelSyncIds) ::
          idsPrinted "del" 0 (counted c.asy.delSyncIds c.asy.numDelSyncIds)))

/-- The entries are those of the new ids. -/
structure Served (fmt : List AdiMsgParam) (todoItem : TodoItem) : Prop where
  ids : counted c.asy.newSyncIds c.asy.numNewSyncIds = c.entries.map Entry.syncId
  chain : Chain fmt todoItem c.entries

variable {c}

theorem recital {todoItem : TodoItem} (htype : env.syncType = syncTypeTodo)
    (hserved : c.Served (paramFormat env) todoItem) :
    Recital b host (testGetChangeinfo b todoItem) env c.lines c.printed 0 env := by
  have hlists : Dialogue b host (zdtmObtainSyncIdLists b {}) env _ _ env :=
    syncIdLists_dialogue c.lists {}
  rw [htype] at hlists
  have hnew : counted (listsIn c.lists.frame.cont.asy).newSyncIds
      (listsIn c.lists.frame.cont.asy).numNewSyncIds = c.entries.map Entry.syncId := hserved.ids
  have hitems : Recital b host (obtainNewItems b 0 (c.entries.map Entry.syncId) todoItem) env
      (c.entries.flatMap Entry.lines) (newPrinted 0 c.entries) 0 env :=
    obtainNewItems_recital htype hserved.chain 0
  rw [← hnew] at hitems
  apply recital_calls hlists
  apply recital_printf
  rw [← List.append_nil (c.entries.flatMap Entry.lines)]
  apply recital_bind hitems
  apply recital_printf
  apply recital_silent (printSyncIds_recital "mod" 0 _)
  apply recital_printf
  exact recital_last (printSyncIds_recital "del" 0 _) (recital_pure 0)

end Changes

end Items

section Host

variable {s : State} {rest : List UInt8}

theorem closeDescriptor_ok {fd : Nat} (hopen : fd ∈ s.host.descriptors)
    (hanswers : s.host.answers = []) :
    closeDescriptor (some fd) s = (.ok true, { s with host := closed fd s.host }) := by
  change (if fd ∉ s.host.descriptors then _ else _ : Session Bool) s = _
  rw [if_neg (not_not_intro hopen), Programs.bind_ok (answer_ok hanswers)]
  rfl

/-- The calls on a socket of the environment that close it. -/
theorem closes_ok {socket : Env → Socket} {fd : Nat} (hsocket : socket s.env = some fd)
    (hopen : fd ∈ s.host.descriptors) (hanswers : s.host.answers = []) :
    (do
      let env ← getEnv
      if ← closeDescriptor (socket env) then return 0 else return -1 : Session Int) s =
        (.ok 0, { s with host := closed fd s.host }) := by
  change (closeDescriptor (socket s.env) >>= _) s = _
  rw [hsocket, Programs.bind_ok (closeDescriptor_ok hopen hanswers)]
  rfl

theorem disconnect_ok {fd : Nat} (hreq : s.env.reqfd = some fd) (hopen : fd ∈ s.host.descriptors)
    (hanswers : s.host.answers = []) :
    zdtmDisconnect s = (.ok 0, { s with host := closed fd s.host }) := by
  have hclose : zdtmCloseConnToZaurus s = (.ok 0, { s with host := closed fd s.host }) :=
    closes_ok hreq hopen hanswers
  unfold zdtmDisconnect
  rw [Programs.bind_ok hclose]
  rfl

/-- The last lines of a session; the type of the general message is not looked at. -/
def farewellLines (bye : Frame b) : List (Line b) :=
  asked b .rqt {} ++ (told bye ++ [.hears (.common .rqst), .sends .ray {}])

theorem rqt_proper : ZdtmWireFormat.Sendable .rqt (desktopMsg .rqt {}) :=
  desktop_sendable (by decide) (by decide) (by decide) trivial

theorem farewellLines_proper (bye : Frame b) : Proper (farewellLines bye) := by
  apply (asked_proper rqt_proper).append
  apply (told_proper bye).append
  simp [Proper, Line.Proper, ray_proper]

/-- The session ends with the connection to the Zaurus closed. -/
theorem terminateSync_ok (bye : Frame b) {fd : Nat} (hreq : s.env.reqfd = some fd)
    (hopen : fd ∈ s.host.descriptors) (hanswers : s.host.answers = [])
    (hs : Served s (heard (farewellLines bye) ++ rest)) :
    ∃ s', zdtmTerminateSync b s = (.ok 0, s') ∧ s'.env = s.env ∧ s'.host = closed fd s.host ∧
      Served s' rest ∧ Traffic b s ((farewellLines bye).map Line.call) s' := by
  have hlead : Leads (zdtmTerminateSync b) s fun r s' => r = .ok 0 ∧ s'.env = s.env ∧
      s'.host = closed fd s.host ∧ Served s' rest ∧
      Traffic b s ((farewellLines bye).map Line.call) s' := by
    have hs₀ : Served s (heard (asked b .rqt {}) ++ (heard (told bye) ++
        (heard [(Line.hears (.common .rqst) : Line b)] ++
          (heard [(Line.sends .ray {} : Line b)] ++ rest)))) := by
      simpa [farewellLines, heard, Line.heard] using hs
    apply leads_dialogue (wrappedSend_dialogue rqt_proper) rfl rfl hs₀
    intro s₁ henv₁ hhost₁ hs₁ htraffic₁
    apply leads_dialogue (wrappedRecv_dialogue bye) henv₁ hhost₁ hs₁
    intro s₂ henv₂ hhost₂ hs₂ htraffic₂
    apply leads_dialogue (hears_dialogue .rqst) henv₂ hhost₂ hs₂
    intro s₃ henv₃ hhost₃ hs₃ htraffic₃
    apply leads_dialogue (send_dialogue ray_proper) henv₃ hhost₃ hs₃
    intro s₄ henv₄ hhost₄ hs₄ htraffic₄
    have hdisconnect : zdtmDisconnect s₄ = (.ok 0, { s₄ with host := closed fd s₄.host }) := by
      apply disconnect_ok
      · rw [henv₄, hreq]
      · rw [hhost₄]
        exact hopen
      · rw [hhost₄, hanswers]
    have hall := ((htraffic₁.trans htraffic₂).trans htraffic₃).trans htraffic₄
    have hsilent : Traffic b s₄ [] { s₄ with host := closed fd s₄.host } := .nothing rfl rfl rfl rfl
    have hrun : (do
        let r ← zdtmDisconnect
        if r ≠ 0 then return -5
        return 0 : Session Int) s₄ = (.ok 0, { s₄ with host := closed fd s₄.host }) := by
      rw [Programs.bind_ok hdisconnect]
      rfl
    apply leads_of_eq hrun
    refine ⟨rfl, henv₄, by rw [hhost₄], ⟨hs₄.heap, hs₄.sends, hs₄.stream⟩, ?_⟩
    simpa [farewellLines] using hall.trans hsilent
  cases hrun : zdtmTerminateSync b s with
  | mk r s' =>
    obtain ⟨rfl, hrest⟩ := hlead.of_eq hrun
    exact ⟨s', rfl, hrest⟩

/-- The listening socket and the log file are closed. -/
theorem finalize_ok {listen log : Nat} (hlisten : s.env.listenfd = some listen)
    (hlog : s.env.logfp = some log) (hopen : listen ∈ s.host.descriptors)
    (hopen' : log ∈ s.host.descriptors.erase listen) (hanswers : s.host.answers = []) :
    zdtmFinalize s = (.ok 0, { s with host := closed log (closed listen s.host) }) := by
  have hstop : zdtmStopListening s = (.ok 0, { s with host := closed listen s.host }) :=
    closes_ok hlisten hopen hanswers
  have hclose : zdtmCloseLog { s with host := closed listen s.host } =
      (.ok 0, { s with host := closed log (closed listen s.host) }) := by
    have hnone : s.env.logfp ≠ none := by
      rw [hlog]
      exact Option.some_ne_none log
    have hclosed := closeDescriptor_ok (s := { s with host := closed listen s.host }) hopen' hanswers
    change (if s.env.logfp = none then _ else _ : Session Int) _ = _
    rw [if_neg hnone, hlog, Programs.bind_ok hclosed]
    rfl
  unfold zdtmFinalize
  rw [Programs.bind_ok hstop, if_neg (not_not_intro rfl), Programs.bind_ok hclose]
  rfl

/-- The log file and the listening socket are opened. -/
def initialized (s : State) : State :=
  let log := (s.host.pick s.host.descriptors).1
  let host := opened log s.host
  let listen := (host.pick host.descriptors).1
  { s with
    host := opened listen host
    env := { initialEnv { s.env with logfp := some log } with listenfd := some listen } }

theorem openLog_ok {home : CString} (hhome : s.host.home = some home)
    (hshort : home.1.length ≤ 236) (hanswers : s.host.answers = []) :
    zdtmOpenLog s = (.ok 0, { s with
      host := opened (s.host.pick s.host.descriptors).1 s.host
      env := { s.env with logfp := some (s.host.pick s.host.descriptors).1 } }) := by
  have hlong : ¬ 256 ≤ home.1.length := by omega
  have hroom : ¬ 256 - home.1.length - 1 < 19 := by omega
  have hhost : getHost s = (.ok s.host, s) := rfl
  unfold zdtmOpenLog
  rw [Programs.bind_ok hhost, hhome]
  simp only
  rw [if_neg hlong, if_neg hroom, Programs.bind_ok (openDescriptor_ok hanswers)]
  rfl

theorem listenForZaurus_ok (hanswers : s.host.answers = []) :
    zdtmListenForZaurus s = (.ok 0, { s with
      host := opened (s.host.pick s.host.descriptors).1 s.host
      env := { s.env with listenfd := some (s.host.pick s.host.descriptors).1 } }) := by
  let s₁ : State := { s with
    host := opened (s.host.pick s.host.descriptors).1 s.host
    env := { s.env with listenfd := some (s.host.pick s.host.descriptors).1 } }
  have hmodify : ∀ socket, modifyEnv (fun env => { env with listenfd := socket })
      { s with host := opened (s.host.pick s.host.descriptors).1 s.host } = (.ok (), { s with
        host := opened (s.host.pick s.host.descriptors).1 s.host
        env := { s.env with listenfd := socket } }) := fun socket => rfl
  have hanswer : answer s₁ = (.ok true, s₁) := answer_ok hanswers
  unfold zdtmListenForZaurus
  rw [Programs.bind_ok (openDescriptor_ok hanswers), Programs.bind_ok (hmodify _),
    if_neg (Option.some_ne_none _)]
  rw [Programs.bind_ok hanswer, Bool.not_true, if_neg Bool.false_ne_true, Programs.bind_ok hanswer,
    Bool.not_true, if_neg Bool.false_ne_true, Programs.bind_ok hanswer]
  rfl

theorem initialize_ok {home : CString} (hhome : s.host.home = some home)
    (hshort : home.1.length ≤ 236) (hanswers : s.host.answers = []) :
    zdtmInitialize s = (.ok 0, initialized s) := by
  let s₁ : State := { s with
    host := opened (s.host.pick s.host.descriptors).1 s.host
    env := initialEnv { s.env with logfp := some (s.host.pick s.host.descriptors).1 } }
  have hopen := openLog_ok hhome hshort hanswers
  have hmodify : modifyEnv initialEnv { s with
      host := opened (s.host.pick s.host.descriptors).1 s.host
      env := { s.env with logfp := some (s.host.pick s.host.descriptors).1 } } = (.ok (), s₁) := rfl
  have hlisten := listenForZaurus_ok (s := s₁) hanswers
  unfold zdtmInitialize
  rw [Programs.bind_ok hopen, if_neg (not_not_intro rfl), Programs.bind_ok hmodify,
    Programs.bind_ok hlisten]
  rfl

end Host

section Leading

variable {α β : Type} {x : Session α} {f : α → Daemon β} {s s' : State} {out out' : List Printed}
  {a : α} {Q : Except Fault β → State × List Printed → Prop}

theorem leads_call (hrun : x s = (.ok a, s')) (h : Leads (f a) (s', out) Q) :
    Leads (call x >>= f) (s, out) Q := by
  have hcall : call x (s, out) = (.ok a, (s', out)) := by simp only [call, hrun]
  have hbind : (call x >>= f) (s, out) = f a (s', out) := Programs.bind_ok hcall
  rw [Leads, hbind]
  exact h

theorem leads_printf {f : Unit → Daemon β} {line : List UInt8}
    (h : Leads (f ()) (s, out ++ [.stdout line]) Q) : Leads (printf line >>= f) (s, out) Q := h

theorem leads_recital {host : Host} {env env' : Env} {lines : List (Line b)} {x : Daemon α}
    (hx : Recital b host x env lines out' a env') {rest : List UInt8} (henv : s.env = env)
    (hhost : s.host = host) (hs : Served s (heard lines ++ rest))
    (h : ∀ s', s'.env = env' → s'.host = host → Served s' rest →
      Traffic b s (lines.map Line.call) s' → Leads (f a) (s', out ++ out') Q) :
    Leads (x >>= f) (s, out) Q := by
  apply leads_bind (hx.run s out rest henv hhost hs)
  · intro r s₁ hp
    obtain ⟨heq, hout, henv₁, hhost₁, hs₁, htraffic⟩ := hp
    cases heq
    obtain ⟨s₁, before⟩ := s₁
    cases hout
    exact h s₁ henv₁ hhost₁ hs₁ htraffic
  · intro e s₁ hp
    obtain ⟨heq, -⟩ := hp
    cases heq

end Leading

/-- Everything that a device has ready for the daemon. -/
structure Visit (b : Build) where
  device : Device b
  changes : Changes b
  done : Reply b .aex
  bye : Frame b

namespace Visit

variable (v : Visit b)

def lines (passcode : Option CString) (date : Bytes rtsDateLen) : List (Line b) :=
  v.device.lines .todo passcode date ++
    (v.changes.lines ++ (exchanged .rds (rdsContent syncTypeTodo) v.done.frame ++
      farewellLines v.bye))

/-- The parameter format that the device announced. -/
def format : List AdiMsgParam :=
  let adi := v.device.format.frame.cont.adi
  (adi.params.getD []).take adi.numParams.toNat

end Visit

/-- The passcode among the arguments. -/
def passcodeOf : List CString → Option CString
  | [_, passcode] => some passcode
  | _ => none

def passcodeLine : List CString → List UInt8
  | [_, _] => text "Successfully set the passcode.\n"
  | _ => text "No passcode given, trying without one.\n"

def Visit.printed (v : Visit b) (argv : List CString) : List Printed :=
  [text "Succsessfully initialized zdtm sync library.\n",
      text "Successfully set the Zaurus IP address.\n",
      text "Successfully set the Synchronization Type.\n",
      passcodeLine argv,
      text "- Initiated Synchronization\n"].map .stdout ++
    (v.changes.printed ++
      [text "get_changeinfo - (" ++ number 0 ++ text ").\n",
        text "Successfully terminated synchronization.\n",
        text "Successfully finalized the zdtm sync library.\n"].map .stdout)

section Known

variable {d : Device b} {k : Kind} {env : Env}

theorem resetFlags_eq (env : Env) : ∃ todoSlowSyncRequired calendarSlowSyncRequired
    addressBookSlowSyncRequired, resetFlags env = { env with
      todoSlowSyncRequired, calendarSlowSyncRequired, addressBookSlowSyncRequired } := by
  unfold resetFlags
  split
  · exact ⟨_, _, _, rfl⟩
  · split
    · exact ⟨_, _, _, rfl⟩
    · exact ⟨_, _, _, rfl⟩

/-- What is learned of a device touches neither the descriptors nor the sync type. -/
structure Kept (env env' : Env) : Prop where
  syncType : env'.syncType = env.syncType
  listenfd : env'.listenfd = env.listenfd
  connfd : env'.connfd = env.connfd
  reqfd : env'.reqfd = env.reqfd
  logfp : env'.logfp = env.logfp

theorem kept_learned : Kept env (d.learned k env) := by
  obtain ⟨todo, calendar, address, hreset⟩ := resetFlags_eq (d.stated env)
  unfold Device.learned
  split
  · rw [hreset]
    exact ⟨rfl, rfl, rfl, rfl, rfl⟩
  · exact ⟨rfl, rfl, rfl, rfl, rfl⟩

theorem known_of_code (h : d.code env.passcode = 0) :
    d.known k env = d.learned k (storeDeviceInfo d.info.frame.msg env) := if_pos h

theorem kept_known (h : d.code env.passcode = 0) : Kept env (d.known k env) := by
  obtain ⟨hsyncType, hlistenfd, hconnfd, hreqfd, hlogfp⟩ :
      Kept (storeDeviceInfo d.info.frame.msg env)
        (d.learned k (storeDeviceInfo d.info.frame.msg env)) := kept_learned
  rw [known_of_code h]
  exact ⟨hsyncType, hlistenfd, hconnfd, hreqfd, hlogfp⟩

theorem paramFormat_known (h : d.code env.passcode = 0) : paramFormat (d.known k env) =
    (d.format.frame.cont.adi.params.getD []).take d.format.frame.cont.adi.numParams.toNat := by
  rw [known_of_code h]
  rfl

end Known

section Main

variable {s : State} {rest : List UInt8} {out : List Printed}

/-- The state with the passcode of the arguments. -/
def withPasscode (argv : List CString) (heap : Heap) (s : State) : State :=
  { s with world := { s.world with heap }, env := { s.env with passcode := passcodeOf argv } }

theorem setPasscode_leads {argv : List CString} (hnone : s.env.passcode = none)
    (hs : Served s rest) : Leads (setPasscode argv) (s, out) fun r s' => r = .ok 0 ∧
      ∃ heap, heap.Unlimited ∧
        s' = (withPasscode argv heap s, out ++ [.stdout (passcodeLine argv)]) := by
  have hsame : ∀ {argv : List CString}, passcodeOf argv = none →
      withPasscode argv s.world.heap s = s := by
    intro argv hargv
    rw [withPasscode, hargv, ← hnone]
  match argv with
  | [] => exact ⟨rfl, s.world.heap, hs.heap, by rw [hsame rfl]; rfl⟩
  | [_] => exact ⟨rfl, s.world.heap, hs.heap, by rw [hsame rfl]; rfl⟩
  | [_, passcode] =>
    obtain ⟨garbage, hgarbage⟩ := hs.heap.exists_block
    have hset : zdtmSetPasscode passcode s = (.ok 0, { s with
        world := { s.world with heap := s.world.heap.next }
        env := { s.env with passcode := some passcode } }) := by
      have hrun : allocate (passcode.1.length + 1) s =
          (.ok (some ((List.range (passcode.1.length + 1)).map garbage)),
            { s with world := { s.world with heap := s.world.heap.next } }) := by
        simp only [allocate, sys, mem, malloc_some hgarbage]
      unfold zdtmSetPasscode
      rw [Programs.bind_ok hrun]
      rfl
    apply leads_call hset
    rw [if_neg (not_not_intro rfl)]
    exact ⟨rfl, s.world.heap.next, hs.heap.next, rfl⟩
  | _ :: _ :: _ :: _ => exact ⟨rfl, s.world.heap, hs.heap, by rw [hsame rfl]; rfl⟩

/-- Of four descriptors opened one after the other the first three are closed. -/
theorem erase_opened {descriptors : List Nat} {log listen req conn : Nat}
    (hconn : conn ∉ req :: listen :: log :: descriptors) :
    (conn :: req :: listen :: log :: descriptors).erase req = conn :: listen :: log :: descriptors ∧
      (conn :: listen :: log :: descriptors).erase listen = conn :: log :: descriptors ∧
      (conn :: log :: descriptors).erase log = conn :: descriptors := by
  simp only [List.mem_cons, not_or] at hconn
  simp [hconn]

/-- Of the four descriptors of the session the connection from the Zaurus stays open. -/
theorem synchronizeItems_leads {v : Visit b} {todoItem : TodoItem} {log listen req conn : Nat}
    {descriptors : List Nat}
    (htype : s.env.syncType = syncTypeTodo)
    (hserved : v.changes.Served (paramFormat s.env) todoItem)
    (hreq : s.env.reqfd = some req) (hlisten : s.env.listenfd = some listen)
    (hlog : s.env.logfp = some log) (hanswers : s.host.answers = [])
    (hopened : s.host.descriptors = conn :: req :: listen :: log :: descriptors)
    (hnew : conn ∉ req :: listen :: log :: descriptors)
    (hs : Served s (heard (v.changes.lines ++ (exchanged .rds (rdsContent syncTypeTodo)
      v.done.frame ++ farewellLines v.bye)) ++ rest)) :
    Leads (synchronizeItems b todoItem) (s, out) fun r s' => r = .ok 0 ∧
      s'.2 = out ++ (v.changes.printed ++ [text "get_changeinfo - (" ++ number 0 ++ text ").\n",
        text "Successfully terminated synchronization.\n",
        text "Successfully finalized the zdtm sync library.\n"].map .stdout) ∧
      s'.1.env = s.env ∧
      s'.1.host.descriptors = conn :: descriptors ∧
      Served s'.1 rest ∧ Traffic b s ((v.changes.lines ++ (exchanged .rds
        (rdsContent syncTypeTodo) v.done.frame ++ farewellLines v.bye)).map Line.call) s'.1 := by
  obtain ⟨herase, herase', herase''⟩ := erase_opened hnew
  have hopen : req ∈ s.host.descriptors := by simp [hopened]
  have hopen' : listen ∈ s.host.descriptors.erase req := by simp [hopened, herase]
  have hopen'' : log ∈ (s.host.descriptors.erase req).erase listen := by
    simp [hopened, herase, herase']
  rw [heard_append, heard_append, List.append_assoc, List.append_assoc] at hs
  apply leads_recital (Changes.recital htype hserved) rfl rfl hs
  intro s₁ henv₁ hhost₁ hs₁ htraffic₁
  apply leads_printf
  rw [if_pos rfl]
  have hdone : Dialogue b s.host (zdtmStateSyncDone b) s.env _ 0 s.env :=
    stateSyncDone_dialogue v.done
  rw [htype] at hdone
  apply leads_recital (recital_call hdone) henv₁ hhost₁ hs₁
  intro s₂ henv₂ hhost₂ hs₂ htraffic₂
  rw [if_neg (not_not_intro rfl), List.append_nil]
  have hreq₂ : s₂.env.reqfd = some req := by rw [henv₂, hreq]
  have hopen₂ : req ∈ s₂.host.descriptors := by rwa [hhost₂]
  have hanswers₂ : s₂.host.answers = [] := by rw [hhost₂, hanswers]
  obtain ⟨s₃, hterminate, henv₃, hhost₃, hs₃, htraffic₃⟩ :=
    terminateSync_ok v.bye hreq₂ hopen₂ hanswers₂ hs₂
  apply leads_call hterminate
  rw [if_neg (not_not_intro rfl)]
  apply leads_printf
  have henv : s₃.env = s.env := henv₃.trans henv₂
  have hhost : s₃.host = closed req s.host := by rw [hhost₃, hhost₂]
  have hlisten₃ : s₃.env.listenfd = some listen := by rw [henv, hlisten]
  have hlog₃ : s₃.env.logfp = some log := by rw [henv, hlog]
  have hopen₃ : listen ∈ s₃.host.descriptors := by rwa [hhost]
  have hopen₃' : log ∈ s₃.host.descriptors.erase listen := by rwa [hhost]
  have hanswers₃ : s₃.host.answers = [] := by
    rw [hhost]
    exact hanswers
  apply leads_call (finalize_ok hlisten₃ hlog₃ hopen₃ hopen₃' hanswers₃)
  rw [if_neg (not_not_intro rfl)]
  apply leads_printf
  have hsilent : Traffic b s₃ [] { s₃ with host := closed log (closed listen s₃.host) } :=
    .nothing rfl rfl rfl rfl
  have hall := ((htraffic₁.trans htraffic₂).trans htraffic₃).trans hsilent
  refine leads_pure ⟨rfl, ?_, henv, ?_, ⟨hs₃.heap, hs₃.sends, hs₃.stream⟩, ?_⟩
  · simp
  · rw [hhost]
    change ((s.host.descriptors.erase req).erase listen).erase log = conn :: descriptors
    rw [hopened, herase, herase', herase'']
  · simpa using hall

/-- The state in which the daemon initiates the synchronization. -/
def readied (argv : List CString) (heap : Heap) (s : State) : State :=
  let s₁ := initialized { s with env := {} }
  withPasscode argv heap
    { s₁ with env := { s₁.env with zaurusIp := zaurusAddress, syncType := syncTypeOf 0 } }

/-- What the daemon needs of its host. -/
structure Hosted (s : State) (tm : Tm) : Prop where
  home : ∃ home, s.host.home = some home ∧ home.1.length ≤ 236
  found : s.host.inetPton zaurusAddress = true
  answers : s.host.answers = []
  time : s.host.localtimeR s.host.time = some tm

/-- Up to the synchronization nothing is said. -/
theorem main_readied {argv : List CString} {todoItem : TodoItem} {tm : Tm}
    (hargv : argv.length ≤ 2) (hhosted : Hosted s tm) (hs : Served s rest)
    {Q : Except Fault Int → State × List Printed → Prop}
    (h : ∀ heap, heap.Unlimited → Leads (do
      let r ← call (zdtmInitiateSync b)
      if r ≠ 0 then
        failed "zdtm_initiate_sync" r
        return 4
      printf (text "- Initiated Synchronization\n")
      synchronizeItems b todoItem : Daemon Int) (readied argv heap s, out ++
        [text "Succsessfully initialized zdtm sync library.\n",
          text "Successfully set the Zaurus IP address.\n",
          text "Successfully set the Synchronization Type.\n", passcodeLine argv].map .stdout) Q) :
    Leads (main b todoItem argv) (s, out) Q := by
  obtain ⟨home, hhome, hshort⟩ := hhosted.home
  have hfew : ¬ 2 < argv.length := Nat.not_lt.mpr hargv
  let s₀ : State := { s with env := {} }
  let s₁ := initialized s₀
  let s₂ : State := { s₁ with env := { s₁.env with zaurusIp := zaurusAddress } }
  let s₃ : State := { s₂ with env := { s₂.env with syncType := syncTypeOf 0 } }
  have hclear : modifyEnv (fun _ => {}) s = (.ok (), s₀) := rfl
  have hinit : zdtmInitialize s₀ = (.ok 0, s₁) := initialize_ok hhome hshort hhosted.answers
  have hip : zdtmSetZaurusIp zaurusAddress.toList s₁ = (.ok 0, s₂) := rfl
  have htype : zdtmSetSyncType 0 s₂ = (.ok 0, s₃) := rfl
  have hs₃ : Served s₃ rest := ⟨hs.heap, hs.sends, hs.stream⟩
  unfold main
  rw [if_neg hfew]
  apply leads_call hclear
  apply leads_call hinit
  rw [if_neg (not_not_intro rfl)]
  apply leads_printf
  apply leads_call hip
  rw [if_neg (not_not_intro rfl)]
  apply leads_printf
  apply leads_call htype
  rw [if_neg (not_not_intro rfl)]
  apply leads_printf
  have hnone : s₃.env.passcode = none := rfl
  apply leads_bind (setPasscode_leads hnone hs₃)
  · intro r s' hp
    obtain ⟨heq, heap, hu, rfl⟩ := hp
    cases heq
    rw [if_neg (not_not_intro rfl)]
    have hstate : readied argv heap s = withPasscode argv heap s₃ := rfl
    have hrest := h heap hu
    rw [hstate] at hrest
    simpa using hrest
  · intro e s' hp
    obtain ⟨heq, -⟩ := hp
    cases heq

theorem readied_reachable {argv : List CString} {heap : Heap} {tm : Tm} (hhosted : Hosted s tm) :
    Reachable (readied argv heap s) tm where
  ip := show zaurusAddress ≠ zeros ipStrSize by decide
  found := hhosted.found
  answers := hhosted.answers
  time := hhosted.time

theorem chain_proper (entries : List (Entry b)) : Proper (entries.flatMap Entry.lines) := by
  intro line hline
  obtain ⟨entry, -, hmem⟩ := List.mem_flatMap.mp hline
  exact exchanged_proper (rdr_proper syncTypeTodo entry.syncId) entry.reply.frame line hmem

theorem Visit.lines_proper (v : Visit b) {passcode : Option CString}
    (hsize : ∀ p, passcode = some p → 0 ≤ pwSize p) (date : Bytes rtsDateLen) :
    Proper (v.lines passcode date) := by
  apply (v.device.lines_proper hsize date).append
  apply Proper.append
  · exact (exchanged_proper (rsy_sendable syncTypeTodo) v.changes.lists.frame).append
      (chain_proper v.changes.entries)
  · exact (exchanged_proper (rds_proper syncTypeTodo) v.done.frame).append
      (farewellLines_proper v.bye)

/-- The four descriptors of a session. -/
theorem readied_opened (argv : List CString) (heap : Heap) (s : State) :
    ∃ log listen req conn, conn ∉ req :: listen :: log :: s.host.descriptors ∧
      (accepted (requested (readied argv heap s))).host.descriptors =
        conn :: req :: listen :: log :: s.host.descriptors ∧
      (accepted (requested (readied argv heap s))).env.logfp = some log ∧
      (accepted (requested (readied argv heap s))).env.listenfd = some listen ∧
      (accepted (requested (readied argv heap s))).env.reqfd = some req ∧
      (accepted (requested (readied argv heap s))).env.connfd = some conn :=
  ⟨_, _, _, _, ((requested (readied argv heap s)).host.pick _).2, rfl, rfl, rfl, rfl, rfl⟩

/-- A device that serves the daemon gets the whole conversation, and the daemon
prints its items, returns 0 and leaves open the one descriptor it does not close. What
`todoItem` holds before the first item counts where an item does not have the member. -/
theorem main_visited (v : Visit b) {argv : List CString} {todoItem : TodoItem} {tm : Tm}
    (hargv : argv.length ≤ 2) (hhosted : Hosted s tm) (h : Localtime tm)
    (hsize : ∀ p, passcodeOf argv = some p → 0 ≤ pwSize p) (hfits : v.device.Fits s.host)
    (hopened : v.device.code (passcodeOf argv) = 0)
    (hserves : v.changes.Served v.format todoItem)
    (hs : Served s (heard (v.lines (passcodeOf argv) (dateOf h)) ++ rest)) :
    ∃ s', main b todoItem argv (s, []) = (.ok 0, (s', v.printed argv)) ∧
      callsSince s s' = (v.lines (passcodeOf argv) (dateOf h)).map Line.call ∧
      (∃ conn, s'.env.connfd = some conn ∧ s'.host.descriptors = conn :: s.host.descriptors) ∧
      Chunked.available s'.world.inbox = rest ∧
      (b = .littleEndian → s.world.sends = [] → ∃ io,
        s'.world.trace = s.world.trace ++ (knock ++ io) ∧
        bytesSent io = said (v.lines (passcodeOf argv) (dateOf h))) := by
  have hlead : Leads (main b todoItem argv) (s, []) fun r s' => r = .ok 0 ∧
      s'.2 = v.printed argv ∧ callsSince s s'.1 = (v.lines (passcodeOf argv) (dateOf h)).map Line.call ∧
      (∃ conn, s'.1.env.connfd = some conn ∧
        s'.1.host.descriptors = conn :: s.host.descriptors) ∧
      Chunked.available s'.1.world.inbox = rest ∧
      (b = .littleEndian → s.world.sends = [] → ∃ io,
        s'.1.world.trace = s.world.trace ++ (knock ++ io) ∧
        bytesSent io = said (v.lines (passcodeOf argv) (dateOf h))) := by
    apply main_readied hargv hhosted hs
    intro heap hu
    have hs₁ : Served (readied argv heap s) (heard (v.device.lines .todo (passcodeOf argv) (dateOf h)) ++
        (heard (v.changes.lines ++ (exchanged .rds (rdsContent syncTypeTodo) v.done.frame ++
          farewellLines v.bye)) ++ rest)) := by
      obtain ⟨-, hsends, hstream⟩ := hs
      refine ⟨hu, hsends, hstream.trans ?_⟩
      rw [Visit.lines, heard_append, List.append_assoc]
    have hdevice : v.device.Fits (readied argv heap s).host :=
      ⟨hfits.info, hfits.infoAgain, hfits.format, hfits.lastTime⟩
    obtain ⟨s₁, s₂, hrun, hconnected, henv, hhost, hserved, htraffic⟩ :=
      initiateSync_connected (s := readied argv heap s) (k := .todo)
        ⟨rfl, fun k => by cases k <;> rfl⟩ rfl rfl hsize (readied_reachable hhosted) h
        hdevice hs₁
    have hcode : v.device.code (readied argv heap s).env.passcode = 0 := hopened
    have hcode' : v.device.code (accepted (requested (readied argv heap s))).env.passcode = 0 :=
      hopened
    rw [hcode] at hrun
    apply leads_call hrun
    rw [if_neg (not_not_intro rfl)]
    apply leads_printf
    obtain ⟨hsyncType, hlistenfd, hconnfd, hreqfd, hlogfp⟩ := kept_known (k := .todo) hcode'
    have hformat := paramFormat_known (k := .todo) hcode'
    rw [← henv] at hsyncType hlistenfd hconnfd hreqfd hlogfp hformat
    rw [hconnected.host] at hhost
    have hchanges : v.changes.Served (paramFormat s₂.env) todoItem := by
      rw [hformat]
      exact hserves
    obtain ⟨log, listen, req, conn, hnew, hopen, hlog, hlisten, hreq, hconn⟩ :=
      readied_opened argv heap s
    rw [← hhost] at hopen
    have hanswers : s₂.host.answers = [] := by
      rw [hhost]
      exact hhosted.answers
    apply (synchronizeItems_leads (v := v) hsyncType hchanges (hreqfd.trans hreq)
      (hlistenfd.trans hlisten) (hlogfp.trans hlog) hanswers hopen hnew hserved).mono
    intro r s' hp
    obtain ⟨hr, hout, henv', hdescriptors, hserved', htraffic'⟩ := hp
    have hall : Traffic b s₁ ((v.lines (passcodeOf argv) (dateOf h)).map Line.call) s'.1 := by
      have hboth := htraffic.trans htraffic'
      rwa [← List.map_append] at hboth
    obtain ⟨hcalls, hbytes⟩ := hconnected.crossed (v.lines_proper hsize (dateOf h)) hall
    refine ⟨hr, ?_, hcalls, ⟨conn, ?_, hdescriptors⟩, hserved'.stream, hbytes⟩
    · rw [hout]
      simp [Visit.printed]
    · rw [henv', hconnfd, hconn]
  cases hrun : main b todoItem argv (s, []) with
  | mk r s' =>
    obtain ⟨rfl, hout, hrest⟩ := hlead.of_eq hrun
    obtain ⟨s', out⟩ := s'
    cases hout
    exact ⟨s', rfl, hrest⟩

end Main

def hiEntry : Entry .littleEndian where
  syncId := 0x11
  reply := hiReply
  item := hiItem

def hiVisit : Visit .littleEndian where
  device := { lockedDevice with format := replyWith titleFormat titleFormat_fits titleFormat_holds }
  changes := {
    lists := ⟨asyFrame dmsgHdr dmsgHdr_uncommon threeLists threeLists_fits 0, rfl⟩
    entries := [hiEntry] }
  done := doneReply
  bye := doneReply.frame

theorem hiVisit_format : hiVisit.format = titleParams := by decide +kernel

theorem hi_printable : PrintableItem hiEntry.item where
  category := ⟨by decide, by decide⟩
  description := ⟨by decide, by decide⟩
  notes := ⟨by decide, by decide⟩

/-- The daemon with the passcode of the device. -/
def hiArgs : List CString := [⟨[0x64], by decide⟩, secret]

def hiLines : List (Line .littleEndian) := hiVisit.lines (some secret) (dateOf newYear_localtime)

theorem hiLines_ne : heard hiLines ≠ [] := by
  simp [hiLines, Visit.lines, Device.lines, Device.greetLines, heard, Line.heard, Item.bytes,
    CommonMsg.bytes]

def hiState : State := deviceState (heard hiLines) hiLines_ne

theorem hi_size (p : CString) (hp : passcodeOf hiArgs = some p) : 0 ≤ pwSize p := by
  cases hp
  exact secret_size

theorem hi_fits : hiVisit.device.Fits hiState.host :=
  ⟨by decide +kernel, by decide +kernel, by decide +kernel, show (0 : Int) ≠ -1 by decide⟩

theorem hi_opened : hiVisit.device.code (passcodeOf hiArgs) = 0 := by decide +kernel

theorem hi_serves : hiVisit.changes.Served hiVisit.format {} := by
  rw [hiVisit_format]
  exact ⟨by decide +kernel, .cons hi_suits hi_filled hi_printable (.nil _)⟩

theorem main_visited_hi : ∃ s',
    main .littleEndian {} hiArgs (hiState, []) = (.ok 0, (s', hiVisit.printed hiArgs)) ∧
      Printed.stdout (text "Description: Hi\n") ∈ hiVisit.printed hiArgs ∧
      s'.host.descriptors.length = 1 ∧ Chunked.available s'.world.inbox = [] := by
  have hserved : Served hiState (heard hiLines ++ []) := by
    rw [List.append_nil]
    exact ZdtmStrings.deviceState_served _ hiLines_ne
  have hhosted : Hosted hiState newYear := ⟨⟨_, rfl, by decide⟩, rfl, rfl, rfl⟩
  obtain ⟨s', hrun, -, ⟨conn, -, hopen⟩, hrest, -⟩ :=
    main_visited hiVisit (by decide) hhosted newYear_localtime hi_size hi_fits hi_opened hi_serves
      hserved
  refine ⟨s', hrun, ?_, ?_, hrest⟩
  · decide +kernel
  · rw [hopen]
    rfl

end ZdtmRecitals
