import ZdtmSync.Keeping

/-!
# The items before the end

The test daemon tells a device that the synchronization is done only after it has
asked for every new item that the device had listed, got it, and printed it. The
device may answer what it likes: no new item is lost in a synchronization that it may
take for done.
-/

namespace ZdtmCompletion

open CMemory Programs Triples ZdtmTypes ZdtmNet ZdtmItems ZdtmSession ZdtmProto ZdtmSync
  ZdtmExchanges ZdtmOperations ZdtmSending ZdtmSyncIds ZdtmDialogues ZdtmFetches ZdtmRecitals
  ZdtmDaemon ZdtmKnowledge ZdtmKeeping
open ZdtmLog (text)

variable {b : Build}

/-- The device was not told that the synchronization is done. -/
def Undone (cs : List Call) : Prop := ∀ msg ∈ handed cs, msg.body.type ≠ DesktopType.rds.bytes

theorem silent_call {call : Call} (h : handedMsg call = none) {P : ZdtmMsg → Prop} :
    ∀ msg, handedMsg call = some msg → P msg := by
  intro msg hmsg
  rw [h] at hmsg
  cases hmsg

/-- A property of the recorded calls that only a message of another type can end. -/
def saying (b : Build) (home : Option CString) (P : List Call → Prop)
    (allows : DesktopType → Prop) (h : ∀ cs call, P cs → (∀ msg, handedMsg call = some msg →
      ∃ t, allows t ∧ msg.body.type = t.bytes) → P (cs ++ [call])) : Knowledge b where
  home
  given _ := True
  known _ cs := P cs
  genuine _ := True
  allows
  received hcs hrun := by
    refine ⟨h _ _ hcs (silent_call rfl), ?_⟩
    intro hr
    obtain ⟨f, hp⟩ := recv_general hrun hr
    exact ⟨f, trivial, hp⟩
  signalled hcs _ := h _ _ hcs (silent_call rfl)
  sent hcs hallowed _ _ := by
    apply h _ _ hcs
    intro msg hmsg
    have heq := Option.some.inj hmsg
    subst heq
    exact ⟨_, hallowed, rfl⟩
  requested hcs _ _ := hcs
  allocated hcs _ := hcs

theorem undone_snoc (cs : List Call) (call : Call) (hcs : Undone cs)
    (h : ∀ msg, handedMsg call = some msg → ∃ t : DesktopType, t ≠ .rds ∧ msg.body.type = t.bytes) :
    Undone (cs ++ [call]) := by
  intro msg hmsg
  rw [handed_append, List.mem_append] at hmsg
  rcases hmsg with hmsg | hmsg
  · exact hcs msg hmsg
  · obtain ⟨call', hcall, hhanded⟩ := List.mem_filterMap.mp hmsg
    rw [List.mem_singleton] at hcall
    subst hcall
    obtain ⟨t, ht, htype⟩ := h msg hhanded
    rw [htype]
    exact fun heq => ht (DesktopType.bytes_injective heq)

theorem grown_snoc (start : List Call) (cs : List Call) (call : Call) (hcs : start <+: cs)
    (_ : ∀ msg, handedMsg call = some msg → ∃ t : DesktopType, True ∧ msg.body.type = t.bytes) :
    start <+: cs ++ [call] := hcs.trans (List.prefix_append cs [call])

/-- Before the device is told that the synchronization is done. -/
def undone (b : Build) (home : Option CString) : Knowledge b :=
  saying b home Undone (· ≠ .rds) undone_snoc

/-- From then on whatever may be told. -/
def grown (b : Build) (home : Option CString) (start : List Call) : Knowledge b :=
  saying b home (start <+: ·) (fun _ => True) (grown_snoc start)

instance undone_speaks (home : Option CString) : Speaks (undone b home) where
  allows _ ht := ht

instance grown_speaks (home : Option CString) (start : List Call) : Speaks (grown b home start) where
  allows _ _ := trivial

/-- It is still known where a run fails. -/
def Still (K : Knowledge b) (J : Env → Prop) (_ : Fault) (s : State) : Prop := Knows K J s

section Recorded

variable {K : Knowledge b} {env : Env} {cs : List Call}

/-- The environment, and the calls up to here. -/
def Upto (K : Knowledge b) (env : Env) (cs : List Call) (s : State) : Prop :=
  Knows K (fun e => e = env) s ∧ recordedCalls s = cs

theorem triple_env {α : Type} {f : Env → Session α} {after : α → State → Prop}
    {blame : Fault → State → Prop} (h : Triple (Upto K env cs) (f env) after blame) :
    Triple (Upto K env cs) (getEnv >>= f) after blame := by
  constructor
  intro s hs
  have henv : s.env = env := hs.1.env
  apply leads_getEnv
  rw [henv]
  exact h.run s hs

/-- The calls of an exchange stand behind those before it. -/
theorem exchange_logged (cs : List Call) (msg : ZdtmMsg) (reply : ZaurusType)
    {sendFail recvFail typeFail : Int} (hsendFail : sendFail < 0) (hrecvFail : recvFail < 0)
    (htypeFail : typeFail < 0) :
    Triple (fun s => recordedCalls s = cs) (exchange b msg reply sendFail recvFail typeFail)
      (fun r s => ∃ new, Exchanged msg reply (.ok r) new ∧ recordedCalls s = cs ++ new)
      (fun _ _ => True) := by
  constructor
  intro s hs
  apply (logs_exchange b msg reply hsendFail hrecvFail htypeFail s).mono
  intro r s' h
  obtain ⟨new, hexchanges, hex⟩ := h
  cases r with
  | error e => trivial
  | ok r =>
    obtain ⟨evs, rfl, hevents, -⟩ := hexchanges.toTalks.traffic.recorded
    refine ⟨_, hex, ?_⟩
    rw [← hs, recordedCalls, hevents, List.map_append]
    rfl

/-- An exchange ends with a code that is not 0, or with a reply of the type. -/
theorem exchange_gets {t : DesktopType} {cont : SpecTypeContent}
    (h : ZdtmWireFormat.Sendable t (desktopMsg t cont)) (hallowed : K.allows t)
    (reply : ZaurusType) :
    Triple (Upto K env cs) (exchange b (desktopMsg t cont) reply (-1) (-2) (-3))
      (fun r s => match r with
        | .error code => Knows K (fun e => e = env) s ∧ code ≠ 0
        | .ok m => ∃ (f : Reply b reply) (new : List Call), m = f.frame.msg ∧
            Exchanged (desktopMsg t cont) reply (.ok (.ok f.frame.msg)) new ∧
            Upto K env (cs ++ new) s)
      (Still K fun e => e = env) := by
  apply (((exchange_triple h hallowed reply (-1) (-2) (-3)).both (exchange_logged cs _ reply
    (by decide) (by decide) (by decide))).post ?_).blames fun e s hblamed => hblamed.1.knows
  intro r s hs
  obtain ⟨⟨hknows, hreplied⟩, new, hex, hcalls⟩ := hs
  cases r with
  | error code =>
    refine ⟨hknows, ?_⟩
    rintro rfl
    simp [Replied] at hreplied
  | ok m =>
    obtain ⟨f, -, htype, rfl, -⟩ := hreplied
    exact ⟨⟨f, htype⟩, new, rfl, hex, hknows, hcalls⟩

theorem allocate_upto (n : Nat) : Keeps (Upto K env cs) (allocate n) (Still K fun e => e = env) := by
  have hrecorded : Triple (fun s => recordedCalls s = cs) (allocate n)
      (fun _ s => recordedCalls s = cs) (fun _ _ => True) :=
    triple_sys (fun _ _ _ hs _ => hs) fun _ _ _ _ => trivial
  exact ((allocate_keeps n).both hrecorded).blames fun _ _ h => h.1.knows

/-- The device was asked for its lists, and these are the ones it answered with. -/
def Listed (env : Env) (lists : Reply b .asy) (cs : List Call) : Prop :=
  Exchanged (desktopMsg .rsy (rsyContent env.syncType)) .asy (.ok (.ok lists.frame.msg)) cs

theorem syncIdLists_gets [Speaks K] (lists : SyncIdLists) :
    Triple (Upto K env cs) (zdtmObtainSyncIdLists b lists)
      (fun r s => Knows K (fun e => e = env) s ∧ (r.1 = 0 → ∃ (reply : Reply b .asy)
        (new : List Call), r.2 = listsIn reply.frame.cont.asy ∧ Listed env reply new ∧
        Upto K env (cs ++ new) s)) (Still K fun e => e = env) := by
  apply triple_env
  apply triple_bind (exchange_gets (rsy_sendable env.syncType) (Speaks.allows _ (by decide)) _)
  intro r
  cases r with
  | error code =>
    apply triple_pure
    intro s hs
    exact ⟨hs.1, fun hzero => absurd hzero hs.2⟩
  | ok m =>
    constructor
    intro s hs
    obtain ⟨reply, new, rfl, hex, hs⟩ := hs
    have hgone : ∀ s, Upto K env (cs ++ new) s → Knows K (fun e => e = env) s ∧
        ((-4 : Int) = 0 → ∃ (reply : Reply b .asy) (new : List Call),
          lists = listsIn reply.frame.cont.asy ∧ Listed env reply new ∧ Upto K env (cs ++ new) s) :=
      fun s hs => ⟨hs.1, fun hzero => absurd hzero (by decide)⟩
    refine (triple_bind (allocate_upto _) fun newBlock => ?_ :
      Triple (Upto K env (cs ++ new)) _ _ _).run s hs
    apply triple_ite (fun _ => triple_pure hgone)
    intro _
    apply triple_bind (allocate_upto _)
    intro modBlock
    apply triple_ite (fun _ => triple_pure hgone)
    intro _
    apply triple_bind (allocate_upto _)
    intro delBlock
    apply triple_ite (fun _ => triple_pure hgone)
    intro _
    apply triple_lift
    · intro got hgot
      have hcopies := copyLists_frame reply.type
      cases hcopies.symm.trans hgot
      apply triple_pure
      intro s hs
      exact ⟨hs.1, fun _ => ⟨reply, new, rfl, hex, hs⟩⟩
    · exact fun _ _ s hs => hs.1

theorem item_gets [Speaks K] (syncId : UInt32) (item : ItemParams) :
    Triple (Upto K env cs) (zdtmObtainItem b syncId item)
      (fun r s => Knows K (fun e => e = env) s ∧ (r.1 = 0 → ∃ (reply : Reply b .adr)
        (new : List Call), itemParams r.2 = paramsIn reply ∧
        Exchanged (desktopMsg .rdr (rdrContent env.syncType syncId)) .adr
          (.ok (.ok reply.frame.msg)) new ∧ Upto K env (cs ++ new) s))
      (Still K fun e => e = env) := by
  apply triple_env
  apply triple_bind (exchange_gets (rdr_proper env.syncType syncId) (Speaks.allows _ (by decide)) _)
  intro r
  cases r with
  | error code =>
    apply triple_pure
    intro s hs
    exact ⟨hs.1, fun hzero => absurd hzero hs.2⟩
  | ok m =>
    apply triple_pure
    intro s hs
    obtain ⟨reply, new, rfl, hex, hs⟩ := hs
    exact ⟨hs.1, fun _ => ⟨reply, new, rfl, hex, hs⟩⟩

/-- The device was asked for the item, and the one of the entry is what its answer makes
of the one before. -/
structure Obtained (fmt : List AdiMsgParam) (todoItem : TodoItem) (entry : Entry b)
    (cs : List Call) : Prop where
  exchanged : Exchanged (desktopMsg .rdr (rdrContent syncTypeTodo entry.syncId)) .adr
    (.ok (.ok entry.reply.frame.msg)) cs
  parsed : ∃ heap heap', zdtmParseTodoItemParams b fmt (paramsIn entry.reply) todoItem heap =
    .ok ((0, entry.item), heap')

theorem todoItem_gets [Speaks K] (syncId : UInt32) (todoItem : TodoItem) :
    Triple (Upto K env cs) (zdtmObtainTodoItem b syncId todoItem)
      (fun r s => Knows K (fun e => e = env) s ∧ (r.1 = 0 → ∃ (entry : Entry b) (new : List Call),
        entry.syncId = syncId ∧ entry.item = r.2 ∧ Obtained (paramFormat env) todoItem entry new ∧
        Upto K env (cs ++ new) s)) (Still K fun e => e = env) := by
  apply triple_env
  by_cases htype : env.syncType = syncTypeTodo
  · rw [if_neg (not_not_intro htype)]
    apply triple_bind (item_gets syncId {})
    intro r
    apply triple_ite
    · intro _
      apply triple_pure
      exact fun s hs => ⟨hs.1, fun hzero => absurd hzero (by simp)⟩
    intro hr
    constructor
    intro s hs
    obtain ⟨reply, new, hparams, hex, hknows, hcalls⟩ := hs.2 (Decidable.not_not.mp hr)
    rw [htype] at hex
    have hparse : Triple (Upto K env (cs ++ new))
        (sys (mem (zdtmParseTodoItemParams b (paramFormat env) (itemParams r.2) todoItem)))
        (fun r' s => Upto K env (cs ++ new) s ∧ ∃ heap heap',
          zdtmParseTodoItemParams b (paramFormat env) (paramsIn reply) todoItem heap =
            .ok (r', heap')) (Still K fun e => e = env) := by
      rw [hparams]
      apply triple_sys
      · intro s r' w' hs hrun
        obtain ⟨heap, hparse, rfl⟩ := mem_inv hrun
        obtain ⟨⟨hhome, hworld, henv⟩, hcalls⟩ := hs
        have hkept := K.allocated hworld fun hu => refills_parse _ _ _ _ _ heap hu hparse
        exact ⟨⟨⟨hhome, hkept, henv⟩, hcalls⟩, s.world.heap, heap, hparse⟩
      · exact fun s e hs _ => hs.1
    refine (triple_bind hparse fun r' => ?_ : Triple _ _ _ _).run s ⟨hknows, hcalls⟩
    apply triple_ite
    · intro _
      apply triple_pure
      exact fun s hs => ⟨hs.1.1, fun hzero => absurd hzero (by simp)⟩
    intro hr'
    apply triple_pure
    intro s hs
    obtain ⟨hs, heap, heap', hrun⟩ := hs
    have hzero : r' = (0, r'.2) := Prod.ext (Decidable.not_not.mp hr') rfl
    rw [hzero] at hrun
    exact ⟨hs.1, fun _ => ⟨⟨syncId, reply, r'.2⟩, new, rfl, rfl, ⟨hex, heap, heap', hrun⟩, hs⟩⟩
  · rw [if_pos htype]
    apply triple_pure
    exact fun s hs => ⟨hs.1, fun hzero => absurd hzero (by simp)⟩

end Recorded

section Printing

variable {α β : Type} {P : State → Prop} {out : List Printed}

/-- A property of the state, and what was printed up to here. -/
def Having (P : State → Prop) (out : List Printed) (p : State × List Printed) : Prop :=
  P p.1 ∧ p.2 = out

theorem triple_call {x : Session α} {after : α → State → Prop} {blame : Fault → State → Prop}
    (h : Triple P x after blame) :
    Triple (Having P out) (call x) (fun a => Having (after a) out) fun e => Having (blame e) out := by
  constructor
  intro p hp
  obtain ⟨s, before⟩ := p
  obtain ⟨hs, hout⟩ := hp
  have hsettled := (h.run s hs).of_eq rfl
  cases hrun : x s with
  | mk r s' =>
    have hcall : call x (s, before) = (r, (s', before)) := by simp only [call, hrun]
    rw [hrun] at hsettled
    apply leads_of_eq hcall
    cases r with
    | ok a => exact ⟨hsettled, hout⟩
    | error e => exact ⟨hsettled, hout⟩

theorem triple_printf {f : Unit → Daemon β} {line : List UInt8}
    {last : β → State × List Printed → Prop} {blame : Fault → State × List Printed → Prop}
    (h : Triple (Having P (out ++ [.stdout line])) (f ()) last blame) :
    Triple (Having P out) (printf line >>= f) last blame := by
  constructor
  intro p hp
  have hprint : (printf line >>= f) p = f () (p.1, p.2 ++ [.stdout line]) := rfl
  rw [Leads, hprint]
  exact h.run _ ⟨hp.1, congrArg (· ++ [.stdout line]) hp.2⟩

/-- What is printed behind a failed call does not matter. -/
theorem triple_failed {name : String} {r code : Int} {last : Int → State × List Printed → Prop}
    {blame : Fault → State × List Printed → Prop}
    (h : ∀ p : State × List Printed, P p.1 → last code p) :
    Triple (Having P out) (failed name r >>= fun _ => pure code) last blame :=
  ⟨fun _ hp => h _ hp.1⟩

theorem load_ok {src : Ptr} {n : Nat} {data : List UInt8} (h : load src n = .ok data) :
    data = src.target.take n := by
  rcases Nat.lt_or_ge src.target.length n with hlt | hle
  · rw [load_of_lt hlt] at h
    cases h
  · rw [load_of_le hle] at h
    cases h
    rfl

/-- What is printed of a buffer at all is the string that was copied to it. -/
theorem bufferText_ok {src : Ptr} {len : UInt32} {line : List UInt8}
    (h : bufferText src len = .ok line) : line = shown src len := by
  unfold bufferText at h
  cases hload : load src len.toNat with
  | error e =>
    rw [hload] at h
    cases h
  | ok string =>
    have hstring := load_ok hload
    rw [hload] at h
    change (store (zeros 256).toList string >>= fun buff => if 0 ∈ buff then _ else _) = _ at h
    rcases Nat.lt_or_ge (zeros 256).toList.length string.length with hlt | hle
    · rw [store_of_lt hlt] at h
      cases h
    · have hzeros : (zeros 256).toList.drop string.length =
          List.replicate (256 - string.length) 0 := List.drop_replicate
      rw [store_of_le hle, hzeros] at h
      change (if _ then _ else _) = _ at h
      split at h
      · cases h
        rw [takeWhile_zeros, hstring]
        rfl
      · cases h

theorem printTodoItem_prints {blame : Fault → State × List Printed → Prop} (item : TodoItem)
    (h : ∀ e (p : State × List Printed), P p.1 → blame e p) :
    Triple (Having P out) (printTodoItem item) (fun _ => Having P (out ++ itemLines item))
      blame := by
  apply triple_printf
  apply triple_printf
  apply triple_lift _ fun e _ p hp => h e p hp.1
  intro category hcategory
  rw [bufferText_ok hcategory]
  apply triple_printf
  apply triple_printf
  apply triple_printf
  apply triple_lift _ fun e _ p hp => h e p hp.1
  intro description hdescription
  rw [bufferText_ok hdescription]
  apply triple_printf
  apply triple_lift _ fun e _ p hp => h e p hp.1
  intro notes hnotes
  rw [bufferText_ok hnotes]
  constructor
  intro p hp
  obtain ⟨s, before⟩ := p
  obtain ⟨hs, rfl⟩ := hp
  refine ⟨hs, ?_⟩
  simp [itemLines, printf, print, Program.modify]

theorem printSyncIds_prints {blame : Fault → State × List Printed → Prop} (kind : String) (i : Nat)
    (syncIds : List UInt32) :
    Triple (Having P out) (printSyncIds kind i syncIds)
      (fun _ => Having P (out ++ idsPrinted kind i syncIds)) blame := by
  induction syncIds generalizing i out with
  | nil =>
    apply triple_pure
    intro p hp
    simpa [idsPrinted] using hp
  | cons syncId syncIds ih =>
    apply triple_printf
    apply (ih (i + 1)).post
    intro r p hp
    simpa [idsPrinted] using hp

end Printing

/-- The items of the entries are obtained one after the other. -/
inductive Fetched (fmt : List AdiMsgParam) : TodoItem → List (Entry b) → List Call → Prop
  | nil (todoItem : TodoItem) : Fetched fmt todoItem [] []
  | cons {todoItem : TodoItem} {entry : Entry b} {entries : List (Entry b)} {cs cs' : List Call}
      (hobtained : Obtained fmt todoItem entry cs) (hrest : Fetched fmt entry.item entries cs') :
      Fetched fmt todoItem (entry :: entries) (cs ++ cs')

/-- The device was asked for its lists, and then for each of the new items in turn. -/
structure Gathered (env : Env) (todoItem : TodoItem) (c : Changes b) (cs : List Call) : Prop where
  ids : counted c.asy.newSyncIds c.asy.numNewSyncIds = c.entries.map Entry.syncId
  calls : ∃ asked fetched, cs = asked ++ fetched ∧ Listed env c.lists asked ∧
    Fetched (paramFormat env) todoItem c.entries fetched

section Items

variable {K : Knowledge b} [Speaks K] {env : Env} {cs : List Call} {out : List Printed}

/-- The result 0 says that each of the items was obtained and printed. -/
theorem obtainNewItems_gets (i : Nat) (syncIds : List UInt32) (todoItem : TodoItem) :
    Triple (Having (Upto K env cs) out) (obtainNewItems b i syncIds todoItem)
      (fun r p => Knows K (fun e => e = env) p.1 ∧ (r = 0 → ∃ (entries : List (Entry b))
        (fetched : List Call), entries.map Entry.syncId = syncIds ∧
        Fetched (paramFormat env) todoItem entries fetched ∧
        Having (Upto K env (cs ++ fetched)) (out ++ newPrinted i entries) p))
      (fun e p => Still K (fun e => e = env) e p.1) := by
  induction syncIds generalizing i todoItem cs out with
  | nil =>
    apply triple_pure
    intro p hp
    refine ⟨hp.1.1, fun _ => ⟨[], [], rfl, .nil todoItem, ?_⟩⟩
    simpa [newPrinted] using hp
  | cons syncId syncIds ih =>
    apply triple_printf
    apply triple_printf
    apply triple_bind ((triple_call (todoItem_gets syncId todoItem)).blames fun _ _ h => h.1)
    intro r
    apply triple_printf
    apply triple_ite
    · intro _
      exact triple_failed fun p hp => ⟨hp.1, fun hzero => absurd hzero (by decide)⟩
    intro hr
    constructor
    intro p hp
    obtain ⟨⟨hknows, hgot⟩, hout⟩ := hp
    obtain ⟨entry, new, rfl, hitem, hobtained, hs⟩ := hgot (Decidable.not_not.mp hr)
    rw [← hitem]
    refine (triple_bind (printTodoItem_prints _ fun _ _ hs => hs.1) fun _ => ?_ :
      Triple (Having (Upto K env (cs ++ new)) _) _ _ _).run p ⟨hs, hout⟩
    apply (ih (i + 1) entry.item).post
    intro r p hp
    obtain ⟨hknows, hgot⟩ := hp
    refine ⟨hknows, ?_⟩
    intro hzero
    obtain ⟨entries, fetched, hids, hfetched, hp⟩ := hgot hzero
    refine ⟨entry :: entries, new ++ fetched, ?_, .cons hobtained hfetched, ?_⟩
    · simp [hids]
    · simpa [newPrinted] using hp

theorem testGetChangeinfo_gets (todoItem : TodoItem) :
    Triple (Having (Upto K env cs) out) (testGetChangeinfo b todoItem)
      (fun r p => Knows K (fun e => e = env) p.1 ∧ (r = 0 → ∃ (c : Changes b) (new : List Call),
        Gathered env todoItem c new ∧
        Having (Upto K env (cs ++ new)) (out ++ c.printed) p))
      (fun e p => Still K (fun e => e = env) e p.1) := by
  apply triple_bind ((triple_call (syncIdLists_gets {})).blames fun _ _ h => h.1)
  intro r
  apply triple_ite
  · intro _
    exact triple_failed fun p hp => ⟨hp.1, fun hzero => absurd hzero (by decide)⟩
  intro hr
  constructor
  intro p hp
  obtain ⟨⟨hknows, hgot⟩, hout⟩ := hp
  obtain ⟨lists, asked, hlists, hlisted, hs⟩ := hgot (Decidable.not_not.mp hr)
  rw [hlists]
  refine (triple_printf (triple_bind (obtainNewItems_gets 0 _ todoItem) fun r => ?_) :
    Triple (Having (Upto K env (cs ++ asked)) _) _ _ _).run p ⟨hs, hout⟩
  apply triple_ite
  · intro hr
    apply triple_pure
    exact fun p hp => ⟨hp.1, fun hzero => absurd hzero hr⟩
  intro hr
  constructor
  intro p hp
  obtain ⟨entries, fetched, hids, hfetched, hp⟩ := hp.2 (Decidable.not_not.mp hr)
  refine (triple_printf (triple_bind (printSyncIds_prints "mod" 0 _) fun _ => triple_printf
    (triple_bind (printSyncIds_prints "del" 0 _) fun _ => triple_pure ?_)) : Triple _ _ _ _).run p hp
  intro p hp
  refine ⟨hp.1.1, fun _ => ⟨⟨lists, entries⟩, asked ++ fetched, ?_, ?_⟩⟩
  · exact ⟨hids.symm, asked, fetched, rfl, hlisted, hfetched⟩
  · simpa [Changes.printed, Changes.asy, listsIn, ZdtmDaemon.counted] using hp

end Items

section Run

variable {α : Type} {K : Knowledge b} {J : Env → Prop} {out : List Printed} {home : Option CString}

/-- What is known of the state, and the beginning of what was printed. -/
def Since (K : Knowledge b) (J : Env → Prop) (out : List Printed) (p : State × List Printed) : Prop :=
  Knows K J p.1 ∧ out <+: p.2

abbrev KeepsOn (K : Knowledge b) (J : Env → Prop) (out : List Printed) (x : Daemon α) : Prop :=
  Keeps (Since K J out) x fun _ => Since K J out

theorem since_call {x : Session α} (h : Keeps (Knows K J) x (Blamed K J)) :
    KeepsOn K J out (call x) := by
  constructor
  intro p hp
  obtain ⟨hs, hout⟩ := hp
  apply ((triple_call h).run p ⟨hs, rfl⟩).mono
  intro r p' hsettled
  cases r with
  | ok a =>
    obtain ⟨hs', hsame⟩ := hsettled
    exact ⟨hs', hsame ▸ hout⟩
  | error e =>
    obtain ⟨hs', hsame⟩ := hsettled
    exact ⟨hs'.knows, hsame ▸ hout⟩

theorem since_print (line : Printed) : KeepsOn K J out (print line) :=
  triple_modify fun p hp => ⟨hp.1, hp.2.trans (List.prefix_append p.2 [line])⟩

/-- A call whose failure ends the run. -/
theorem since_stage {x : Session Int} {complain : Int → Printed} {code : Int} {rest : Daemon Int}
    (h : Keeps (Knows K J) x (Blamed K J)) (hrest : KeepsOn K J out rest) :
    KeepsOn K J out (call x >>= fun r =>
      if r ≠ 0 then print (complain r) >>= fun _ => pure code else rest) := by
  apply keeps_bind (since_call h)
  intro r
  apply triple_ite
  · exact fun _ => keeps_bind (since_print _) fun _ => keeps_pure _
  · exact fun _ => hrest

/-- The end of the run, whatever came before. -/
theorem farewell_keeps [Speaks K] : KeepsOn K J out (do
    let r ← call (zdtmTerminateSync b)
    if r ≠ 0 then
      failed "zdtm_terminate_sync" r
      return 7
    printf (text "Successfully terminated synchronization.\n")
    let r ← call zdtmFinalize
    if r ≠ 0 then
      fprintf (text "Error(" ++ number r ++ text "): Failed to finalize the zdtm library.\n")
      return 8
    printf (text "Successfully finalized the zdtm sync library.\n")
    return 0 : Daemon Int) := by
  apply since_stage terminateSync_keeps
  apply keeps_bind (since_print _)
  intro _
  apply since_stage finalize_keeps
  exact keeps_bind (since_print _) fun _ => keeps_pure _

theorem setPasscode_keeps [OfFormat K J] (hgiven : ∀ setter, K.given (.set setter))
    (argv : List CString) : KeepsOn K J out (setPasscode argv) := by
  have hnone : KeepsOn K J out (do
      printf (text "No passcode given, trying without one.\n")
      return 0 : Daemon Int) := keeps_bind (since_print _) fun _ => keeps_pure _
  match argv with
  | [] => exact hnone
  | [_] => exact hnone
  | _ :: _ :: _ :: _ => exact hnone
  | [_, passcode] =>
    apply since_stage (setter_keeps (.setPasscode passcode) (hgiven _))
    exact keeps_bind (since_print _) fun _ => keeps_pure _

/-- Somewhere in the run the new items were all gathered, before the device was told
that the synchronization is done, and printed. -/
def Completed (b : Build) (todoItem : TodoItem) (p : State × List Printed) : Prop :=
  ∃ (c : Changes b) (early new late : List Call) (before after : List Printed),
    recordedCalls p.1 = early ++ new ++ late ∧ Undone (early ++ new) ∧
      Gathered p.1.env todoItem c new ∧ p.2 = before ++ c.printed ++ after

/-- The device was not told that the synchronization is done, or it is. -/
def Honest (b : Build) (todoItem : TodoItem) (p : State × List Printed) : Prop :=
  Undone (recordedCalls p.1) ∨ Completed b todoItem p

theorem honest_undone {todoItem : TodoItem} {p : State × List Printed}
    (h : Since (undone b home) J out p) : Honest b todoItem p := Or.inl h.1.world

/-- What is only added behind the calls and the lines leaves a run complete. -/
theorem honest_completed {todoItem : TodoItem} {env : Env} {c : Changes b} {early new : List Call}
    {before : List Printed} (hundone : Undone (early ++ new))
    (hgathered : Gathered env todoItem c new) {p : State × List Printed}
    (h : Since (grown b home (early ++ new)) (fun e => e = env) (before ++ c.printed) p) :
    Honest b todoItem p := by
  obtain ⟨⟨-, ⟨late, hcalls⟩, henv⟩, after, hout⟩ := h
  refine Or.inr ⟨c, early, new, late, before, after, hcalls.symm, hundone, ?_, hout.symm⟩
  rw [henv]
  exact hgathered

/-- Whatever is known before, the run is honest behind it. -/
abbrev StaysHonest (todoItem : TodoItem) (before : State × List Printed → Prop) (x : Daemon α) :
    Prop := Triple before x (fun _ => Honest b todoItem) fun _ => Honest b todoItem

theorem KeepsOn.honest {todoItem : TodoItem} {x : Daemon α} (h : KeepsOn K J out x)
    (himp : ∀ p, Since K J out p → Honest b todoItem p) :
    StaysHonest (b := b) todoItem (Since K J out) x :=
  (h.post fun _ p hp => himp p hp).blames fun _ p hp => himp p hp

section Stages

variable {todoItem : TodoItem}

theorem honest_bind {x : Daemon α} {f : α → Daemon Int} (hx : KeepsOn (undone b home) J out x)
    (hf : ∀ a, StaysHonest (b := b) todoItem (Since (undone b home) J out) (f a)) :
    StaysHonest (b := b) todoItem (Since (undone b home) J out) (x >>= f) :=
  triple_bind (hx.blames fun _ _ hp => honest_undone hp) hf

theorem honest_stage {x : Session Int} {complain : Int → Printed} {code : Int} {rest : Daemon Int}
    (hx : Keeps (Knows (undone b home) J) x (Blamed (undone b home) J))
    (hrest : StaysHonest (b := b) todoItem (Since (undone b home) J out) rest) :
    StaysHonest (b := b) todoItem (Since (undone b home) J out) (call x >>= fun r =>
      if r ≠ 0 then print (complain r) >>= fun _ => pure code else rest) := by
  apply honest_bind (since_call hx)
  intro r
  apply triple_ite
  · intro _
    exact honest_bind (since_print _) fun _ => triple_pure fun _ hp => honest_undone hp
  · exact fun _ => hrest

theorem synchronizeItems_honest :
    StaysHonest (b := b) todoItem (Since (undone b home) J []) (synchronizeItems b todoItem) := by
  constructor
  intro p hp
  have hpre : Having (Upto (undone b home) p.1.env (recordedCalls p.1)) p.2 p :=
    ⟨⟨⟨hp.1.home, hp.1.world, rfl⟩, rfl⟩, rfl⟩
  refine (triple_bind ((testGetChangeinfo_gets todoItem).blames fun e p h => Or.inl h.world)
    fun r => ?_).run p hpre
  constructor
  intro p₁ hp₁
  obtain ⟨hknows, hgot⟩ := hp₁
  by_cases hr : r = 0
  · obtain ⟨c, new, hgathered, ⟨-, hcalls⟩, hout⟩ := hgot hr
    have hundone : Undone (recordedCalls p.1 ++ new) := hcalls ▸ hknows.world
    have hsince : Since (grown b home (recordedCalls p.1 ++ new)) (fun e => e = p.1.env)
        (p.2 ++ c.printed) p₁ :=
      ⟨⟨hknows.home, hcalls ▸ List.prefix_rfl, hknows.env⟩, hout ▸ List.prefix_rfl⟩
    refine (KeepsOn.honest ?_ fun p h => honest_completed hundone hgathered h).run p₁ hsince
    apply keeps_bind (since_print _)
    intro _
    apply triple_ite
    · exact fun _ => since_stage (stateSyncDone_keeps trivial) farewell_keeps
    · exact fun hne => absurd hr hne
  · have hsince : Since (undone b home) (fun e => e = p.1.env) [] p₁ := ⟨hknows, List.nil_prefix⟩
    refine (KeepsOn.honest ?_ fun p h => honest_undone h).run p₁ hsince
    apply keeps_bind (since_print _)
    intro _
    apply triple_ite
    · exact fun heq => absurd heq hr
    · exact fun _ => farewell_keeps

theorem main_honest (argv : List CString) :
    StaysHonest (b := b) todoItem (Since (undone b home) AnyFormat []) (main b todoItem argv) := by
  apply triple_ite
  · intro _
    exact honest_bind (since_print _) fun _ => triple_pure fun _ hp => honest_undone hp
  intro _
  apply honest_bind (since_call (modifyEnv_keeps fun _ _ => trivial))
  intro _
  apply honest_stage (initialize_keeps trivial fun _ _ => trivial)
  apply honest_bind (since_print _)
  intro _
  apply honest_stage (setter_keeps (.setZaurusIp zaurusAddress.toList) trivial)
  apply honest_bind (since_print _)
  intro _
  apply honest_stage (setter_keeps (.setSyncType 0) trivial)
  apply honest_bind (since_print _)
  intro _
  apply honest_bind (setPasscode_keeps (fun _ => trivial) argv)
  intro r
  apply triple_ite
  · exact fun _ => triple_pure fun _ hp => honest_undone hp
  intro _
  apply honest_stage ((initiateSync_obtains fun _ _ _ => trivial).post fun _ _ h => h.1)
  apply honest_bind (since_print _)
  intro _
  exact synchronizeItems_honest

end Stages

end Run

/-- The device was told that the synchronization is done. -/
def Done (cs : List Call) : Prop := ∃ msg ∈ handed cs, msg.body.type = DesktopType.rds.bytes

instance decidableDone (cs : List Call) : Decidable (Done cs) :=
  inferInstanceAs (Decidable (∃ msg ∈ handed cs, msg.body.type = DesktopType.rds.bytes))

/-- Whatever the device answers: it is told that the synchronization is done only after it
was asked for its lists and for each of the new items in turn, and its answers were parsed;
and all of the items are printed. -/
theorem done_after_items {todoItem : TodoItem} {argv : List CString} {s s' : State}
    {out : List Printed} {r : Except Fault Int} (hstart : s.events = [])
    (hrun : main b todoItem argv (s, []) = (r, (s', out))) (hdone : Done (recordedCalls s')) :
    ∃ (c : Changes b) (early new late : List Call) (before after : List Printed),
      recordedCalls s' = early ++ new ++ late ∧ Undone (early ++ new) ∧
        Gathered s'.env todoItem c new ∧ out = before ++ c.printed ++ after := by
  have hsilent : Undone (recordedCalls s) := by simp [Undone, recordedCalls, hstart]
  have hsince : Since (undone b s.host.home) AnyFormat [] (s, []) :=
    ⟨⟨rfl, hsilent, trivial⟩, List.nil_prefix⟩
  have hsettled := ((main_honest argv).run (s, []) hsince).of_eq hrun
  have hhonest : Honest b todoItem (s', out) := by
    cases r with
    | ok code => exact hsettled
    | error e => exact hsettled
  rcases hhonest with hundone | hcompleted
  · obtain ⟨msg, hmsg, htype⟩ := hdone
    exact absurd htype (hundone msg hmsg)
  · exact hcompleted

theorem run_of_done {x : Daemon Int} {p : State × List Printed}
    (h : Done (recordedCalls (x p).2.1)) :
    ∃ r s' out, x p = (r, (s', out)) ∧ Done (recordedCalls s') := ⟨_, _, _, rfl, h⟩

theorem done_after_items_hi : ∃ (r : Except Fault Int) (s' : State) (out : List Printed)
    (c : Changes .littleEndian) (early new late : List Call) (before after : List Printed),
    main .littleEndian {} hiArgs (hiState, []) = (r, (s', out)) ∧ Done (recordedCalls s') ∧
      recordedCalls s' = early ++ new ++ late ∧ Undone (early ++ new) ∧
        Gathered s'.env {} c new ∧ out = before ++ c.printed ++ after := by
  obtain ⟨r, s', out, hrun, hdone⟩ := run_of_done (x := main .littleEndian {} hiArgs)
    (p := (hiState, [])) (by decide +kernel)
  obtain ⟨c, early, new, late, before, after, hgot⟩ := done_after_items rfl hrun hdone
  exact ⟨r, s', out, c, early, new, late, before, after, hrun, hdone, hgot⟩

end ZdtmCompletion
