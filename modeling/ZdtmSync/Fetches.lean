import ZdtmSync.Dialogues
import ZdtmSync.Filling
import ZdtmSync.SyncIds

/-!
# Items that are fetched

The calls behind `zdtm_initiate_sync`, over a device that serves them: the lists of
sync ids, an item of each of the three kinds, and the end of the session. The bytes
of an ADR message arrive in the members that the parameter format names for them.
-/

namespace ZdtmFetches

open ByteCodec CMemory Programs Records ZdtmTypes ZdtmZaurusMsg ZdtmNet ZdtmParsing ZdtmReceiving
  ZdtmItems ZdtmFixedFields ZdtmFilling ZdtmSession ZdtmProto ZdtmSync ZdtmReplies ZdtmScript
  ZdtmServed ZdtmStrings ZdtmAnchor ZdtmSending ZdtmSyncIds ZdtmDialogues

variable {b : Build}

section Lists

variable {host : Host} {env : Env} {s rest : List UInt8}

theorem asyList_length {row : UInt8 × UInt16 × List UInt32}
    (h : asyListLayout s = some (row, rest)) : row.2.2.length = row.2.1.toNat := by
  obtain ⟨listId, s₁, -, h⟩ := Decoder.bind_some h
  obtain ⟨numSyncIds, s₂, -, h⟩ := Decoder.bind_some h
  obtain ⟨syncIds, s₃, hids, h⟩ := Decoder.bind_some h
  cases h
  exact times_length hids

/-- The caller's variables behind a message. -/
def listsIn (asy : AsyMsgContent) : SyncIdLists where
  newSyncIds := some (asy.newSyncIds.getD [])
  numNewSyncIds := asy.numNewSyncIds
  modSyncIds := some (asy.modSyncIds.getD [])
  numModSyncIds := asy.numModSyncIds
  delSyncIds := some (asy.delSyncIds.getD [])
  numDelSyncIds := asy.numDelSyncIds

theorem copyIds_whole {syncIds : List UInt32} {num : UInt16} (h : syncIds.length = num.toNat) :
    copyIds (some syncIds) num = .ok syncIds := by
  simp [copyIds, ← h]

/-- The lists that a frame carries are as long as their counts, so they are copied whole. -/
theorem copyLists_layout {asy : AsyMsgContent} (h : asyLayout s = some (asy, rest)) :
    copyLists asy = .ok (listsIn asy) := by
  obtain ⟨new, s₁, hnew, h⟩ := Decoder.bind_some h
  obtain ⟨mod, s₂, hmod, h⟩ := Decoder.bind_some h
  obtain ⟨del, s₃, hdel, h⟩ := Decoder.bind_some h
  cases h
  simp only [copyLists, copyIds_whole (asyList_length hnew), copyIds_whole (asyList_length hmod),
    copyIds_whole (asyList_length hdel)]
  rfl

theorem copyLists_frame {f : Frame b} (h : f.type = .asy) :
    copyLists f.cont.asy = .ok (listsIn f.cont.asy) := by
  obtain ⟨rest, hlayout⟩ := f.layout_cont
  rw [h] at hlayout
  generalize f.cont = cont at hlayout ⊢
  obtain ⟨asy, mid, hasy, hcont⟩ := Decoder.bind_some hlayout
  have hcopy := copyLists_layout hasy
  cases hcont
  exact hcopy

theorem syncIdLists_dialogue (r : Reply b .asy) (lists : SyncIdLists) :
    Dialogue b host (zdtmObtainSyncIdLists b lists) env
      (exchanged .rsy (rsyContent env.syncType) r.frame) (0, listsIn r.frame.cont.asy) env := by
  apply dialogue_getEnv
  apply dialogue_last (exchange_dialogue (rsy_sendable env.syncType) r (-1) (-2) (-3))
  apply dialogue_allocate
  intro newBlock
  rw [if_neg (Option.some_ne_none newBlock)]
  apply dialogue_allocate
  intro modBlock
  rw [if_neg (Option.some_ne_none modBlock)]
  apply dialogue_allocate
  intro delBlock
  rw [if_neg (Option.some_ne_none delBlock)]
  apply dialogue_lift (copyLists_frame r.type)
  exact dialogue_pure _

end Lists

/-- The parameters of an item, as the caller gets them. -/
def paramsIn (r : Reply b .adr) : List AdrMsgParam :=
  itemParams { params := r.frame.cont.adr.params, numParams := r.frame.cont.adr.numParams }

theorem adr_readable {f : Frame b} (h : f.type = .adr) : Readable (f.cont.adr.params.getD []) := by
  obtain ⟨rest, hlayout⟩ := f.layout_cont
  rw [h] at hlayout
  generalize f.cont = cont at hlayout ⊢
  obtain ⟨adr, mid, hadr, hcont⟩ := Decoder.bind_some hlayout
  have hread := adr_params_readable hadr
  cases hcont
  exact hread

theorem paramsIn_readable (r : Reply b .adr) : Readable (paramsIn r) :=
  fun p hp => adr_readable r.type p (List.mem_of_mem_take hp)

section Items

variable {I F : Type} [DecidableEq F] {P : Parser I F} {fmt : List AdiMsgParam}
  {r : Reply b .adr} {item item' : I}

/-- The reply has a parameter for each entry of the format, and those for arrays have
their sizes. -/
structure Suits (P : Parser I F) (fmt : List AdiMsgParam) (r : Reply b .adr) : Prop where
  count : fmt.length = (paramsIn r).length
  exact : ParamsExact P fmt (paramsIn r)

/-- Each member holds the last parameter that stands for it, or what it held before. -/
def Filled (P : Parser I F) (fmt : List AdiMsgParam) (r : Reply b .adr) (item item' : I) : Prop :=
  ∀ f, (∀ data, (dataFor P fmt (paramsIn r) f).getLast? = some data →
      ((P.layout b).get f item').Holds data) ∧
    (dataFor P fmt (paramsIn r) f = [] → (P.layout b).get f item' = (P.layout b).get f item)

/-- The message and the item before say what the item is. -/
theorem Filled.unique {item₁ item₂ : I} (h₁ : Filled P fmt r item item₁)
    (h₂ : Filled P fmt r item item₂) : item₁ = item₂ := by
  apply (P.layout b).ext
  intro f
  cases hf : dataFor P fmt (paramsIn r) f with
  | nil => rw [(h₁ f).2 hf, (h₂ f).2 hf]
  | cons data rest =>
    obtain ⟨final, hfinal⟩ : ∃ final, (dataFor P fmt (paramsIn r) f).getLast? = some final :=
      ⟨_, by rw [hf, List.getLast?_cons]⟩
    exact ((h₁ f).1 final hfinal).unique ((h₂ f).1 final hfinal)

theorem filled_exists (hseparate : Separate P) (hsuits : Suits P fmt r) (item : I) :
    ∃ item', Filled P fmt r item item' := by
  obtain ⟨item', heap', -, hfilled⟩ := parse_last hseparate b hsuits.count (paramsIn_readable r)
    hsuits.exact item (Heap.filled_unlimited 0)
  exact ⟨item', hfilled⟩

theorem parse_filled (hseparate : Separate P) (hsuits : Suits P fmt r)
    (hfilled : Filled P fmt r item item') {heap : Heap} (hu : heap.Unlimited) :
    ∃ heap', P.parse b fmt (paramsIn r) item heap = .ok ((0, item'), heap') ∧ heap'.Unlimited := by
  obtain ⟨item'', heap', hrun, hlast⟩ := parse_last hseparate b hsuits.count
    (paramsIn_readable r) hsuits.exact item hu
  have hfilled' : Filled P fmt r item item'' := hlast
  have hsame : item'' = item' := hfilled'.unique hfilled
  subst hsame
  refine ⟨heap', hrun, ?_⟩
  rw [parse_of_length b hsuits.count] at hrun
  exact refills_assignAll (P.layout b) _ item heap _ heap' hu hrun

variable {host : Host} {env : Env}

theorem rdr_proper (syncType : UInt8) (syncId : UInt32) :
    ZdtmWireFormat.Sendable .rdr (desktopMsg .rdr (rdrContent syncType syncId)) :=
  desktop_sendable (by decide) (by decide) (by decide) trivial

theorem item_dialogue (r : Reply b .adr) (syncId : UInt32) (item : ItemParams) :
    Dialogue b host (zdtmObtainItem b syncId item) env
      (exchanged .rdr (rdrContent env.syncType syncId) r.frame)
      (0, { params := r.frame.cont.adr.params, numParams := r.frame.cont.adr.numParams }) env := by
  apply dialogue_getEnv
  apply dialogue_last (exchange_dialogue (rdr_proper env.syncType syncId) r (-1) (-2) (-3))
  exact dialogue_pure _

theorem parse_dialogue (hseparate : Separate P) (hsuits : Suits P (paramFormat env) r)
    (hfilled : Filled P (paramFormat env) r item item') :
    Dialogue b host (sys (mem (P.parse b (paramFormat env) (paramsIn r) item))) env []
      (0, item') env := by
  constructor
  intro s rest henv hhost hs
  obtain ⟨heap', hrun, hu⟩ := parse_filled hseparate hsuits hfilled hs.heap
  have hsys : sys (mem (P.parse b (paramFormat env) (paramsIn r) item)) s =
      (.ok (0, item'), { s with world := { s.world with heap := heap' } }) := by
    simp only [sys, mem_ok hrun]
  exact leads_of_eq hsys ⟨rfl, henv, hhost, ⟨hu, hs.sends, hs.stream⟩, .nothing rfl rfl rfl rfl⟩

/-- The caller gets the item that the device sent. -/
theorem parsedItem_dialogue (hseparate : Separate P) {syncType : UInt8}
    (htype : env.syncType = syncType) (hsuits : Suits P (paramFormat env) r)
    (hfilled : Filled P (paramFormat env) r item item') (syncId : UInt32) :
    Dialogue b host (obtainParsedItem b syncType (P.parse b) syncId item) env
      (exchanged .rdr (rdrContent syncType syncId) r.frame) (0, item') env := by
  subst htype
  apply dialogue_getEnv
  simp only [ne_eq, not_true_eq_false, if_false]
  apply dialogue_last (item_dialogue r syncId {})
  apply dialogue_first (parse_dialogue hseparate hsuits hfilled)
  exact dialogue_pure _

end Items

section Kinds

variable (k : ZdtmSlowSync.Kind)

/-- The structure of an item, by the type of the synchronization. -/
def ItemOf : Type :=
  match k with
  | .todo => TodoItem
  | .calendar => CalendarItem
  | .address => AddressItem

def MemberOf : Type :=
  match k with
  | .todo => TodoMember
  | .calendar => CalendarMember
  | .address => AddressMember

instance decEqMemberOf : DecidableEq (MemberOf k) :=
  match k with
  | .todo => inferInstanceAs (DecidableEq TodoMember)
  | .calendar => inferInstanceAs (DecidableEq CalendarMember)
  | .address => inferInstanceAs (DecidableEq AddressMember)

def parserOf : Parser (ItemOf k) (MemberOf k) :=
  match k with
  | .todo => todoParser
  | .calendar => calendarParser
  | .address => addressParser

/-- The function of the library that obtains an item of this kind. -/
def zdtmObtainItemOf (b : Build) (syncId : UInt32) (item : ItemOf k) : Session (Int × ItemOf k) :=
  match k, item with
  | .todo, item => zdtmObtainTodoItem b syncId item
  | .calendar, item => zdtmObtainCalendarItem b syncId item
  | .address, item => zdtmObtainAddressItem b syncId item

theorem separateOf : Separate (parserOf k) := by
  cases k with
  | todo => exact todo_separate
  | calendar => exact calendar_separate
  | address => exact address_separate

/-- The three functions differ in the type and the parser only. -/
theorem obtainItemOf_eq (b : Build) (syncId : UInt32) (item : ItemOf k) :
    zdtmObtainItemOf k b syncId item =
      obtainParsedItem b k.syncType ((parserOf k).parse b) syncId item := by
  cases k with
  | todo => rfl
  | calendar => rfl
  | address => rfl

variable {s : State} {rest : List UInt8}

end Kinds

/-- One parameter `TITL` with a description of two characters. -/
def titleFormat : List UInt8 :=
  [0, 0, 0, 0, 1, 0, 0] ++ [0x54, 0x49, 0x54, 0x4c, 0x11] ++ [2, 0, 0x41, 0x42]

theorem titleFormat_fits : msgTypeSize + titleFormat.length < 65536 := by decide

theorem titleFormat_holds : HoldsItsFields .littleEndian .adi titleFormat :=
  ⟨by decide, by decide, trivial⟩

/-- What an environment keeps of it. -/
def titleParams : List AdiMsgParam :=
  [{ abrev := ⟨[0x54, 0x49, 0x54, 0x4c], rfl⟩
     typeId := 0x11
     descLen := 2
     desc := some [0x41, 0x42] }]

def hiContent : List UInt8 := [0, 0, 1, 0] ++ [2, 0, 0, 0, 0x48, 0x69]

theorem hiContent_fits : msgTypeSize + hiContent.length < 65536 := by decide

theorem hiContent_holds : HoldsItsFields .littleEndian .adr hiContent :=
  ⟨by decide, fun _ => ⟨by decide, trivial⟩⟩

/-- An item with the title `Hi`. -/
def hiReply : Reply .littleEndian .adr := replyWith hiContent hiContent_fits hiContent_holds

def hiItem : TodoItem := { descriptionLen := 2, description := some [0x48, 0x69] }

theorem hi_filled : Filled todoParser titleParams hiReply {} hiItem := by
  intro f
  by_cases hf : f = .description
  · subst hf
    have hdata : dataFor todoParser titleParams (paramsIn hiReply) .description =
        [[0x48, 0x69]] := by decide +kernel
    rw [hdata]
    refine ⟨?_, nofun⟩
    intro data h
    cases h
    exact ⟨rfl, rfl⟩
  · have hdata : dataFor todoParser titleParams (paramsIn hiReply) f = [] := by
      cases f with
      | description => exact absurd rfl hf
      | _ => decide +kernel
    rw [hdata]
    refine ⟨nofun, ?_⟩
    intro _
    cases f with
    | description => exact absurd rfl hf
    | _ => rfl

theorem hi_suits : Suits todoParser titleParams hiReply where
  count := by decide +kernel
  exact := by
    unfold ParamsExact
    decide +kernel

/-- To-do items are synchronized, and the device has the item ready. -/
def hiFetched : State :=
  { deviceState (around ++ hiReply.frame.bytes) (around_ne_nil hiReply.frame) with
    env := { syncType := syncTypeTodo, numParams := 1, params := some titleParams } }

theorem hiFetched_served : Served hiFetched (around ++ hiReply.frame.bytes ++ []) := by
  rw [List.append_nil]
  obtain ⟨hheap, hsends, hstream⟩ := deviceState_served _ (around_ne_nil hiReply.frame)
  exact ⟨hheap, hsends, hstream⟩

section Rest

variable {host : Host} {env : Env}

theorem rds_proper (syncType : UInt8) :
    ZdtmWireFormat.Sendable .rds (desktopMsg .rds (rdsContent syncType)) :=
  desktop_sendable (by decide) (by decide) (by decide) trivial

theorem stateSyncDone_dialogue (r : Reply b .aex) :
    Dialogue b host (zdtmStateSyncDone b) env (exchanged .rds (rdsContent env.syncType) r.frame) 0
      env := by
  apply dialogue_getEnv
  apply dialogue_last (exchange_dialogue (rds_proper env.syncType) r (-1) (-2) (-3))
  exact dialogue_pure 0

end Rest

end ZdtmFetches
