import ZdtmSync.Msgs

/-!
# Writers against their length functions

For every content type the writer emits what its length function announces,
with one exception: the writer of a to-do item copies four bytes of the
description and of the notes, whatever their lengths are.
-/

namespace ZdtmWriters

open LittleEndian ByteCodec CMemory ZdtmTypes ZdtmCommon ZdtmDesktopMsg ZdtmMsgs

/-- The variations that end in a to-do item, with the synchronization type for one. -/
def WritesItem (rdw : RdwMsgContent) : Prop :=
  (rdw.variation = 1 ∨ rdw.variation = 3) ∧ rdw.syncType = syncTypeTodo

/-- Everything the writer of a content copies can be read. -/
def ContentReadable (t : DesktopType) (cont : SpecTypeContent) : Prop :=
  match t with
  | .rrl => cont.rrl.pwSize.toNat ≤ cont.rrl.pw.target.length
  | .rge => cont.rge.pathLen.toNat ≤ cont.rge.path.target.length
  | .rdw => WritesItem cont.rdw → TodoReadable cont.rdw.todo
  | _ => True

section Item

variable {rdw : RdwMsgContent}

/-- The bytes of the content before the item. -/
def beforeItem (b : Build) (rdw : RdwMsgContent) : List UInt8 :=
  syncIdsWrite b rdw.syncType rdw.numSyncIds rdw.syncId ++
    if rdw.variation = 1 then rdw.vars.padding.toList else rdwVariationThree b rdw.vars.three

/-- Their number: 23 for variation 1 and 38 for variation 3. -/
def beforeItemLength (rdw : RdwMsgContent) : Nat := if rdw.variation = 1 then 23 else 38

theorem length_beforeItem (b : Build) (rdw : RdwMsgContent) :
    (beforeItem b rdw).length = beforeItemLength rdw := by
  unfold beforeItem beforeItemLength
  split <;> simp

theorem zdtmRdwWrite_item_variation (b : Build) (hv : rdw.variation = 1 ∨ rdw.variation = 3) :
    zdtmRdwWrite b rdw = rdwItemWrite b (beforeItem b rdw) rdw := by
  rcases hv with hv | hv <;> simp [zdtmRdwWrite, beforeItem, hv]

theorem zdtmRdwLength_item_variation (hv : rdw.variation = 1 ∨ rdw.variation = 3) :
    zdtmRdwLength rdw = rdwItemLength (beforeItemLength rdw) rdw := by
  rcases hv with hv | hv <;> simp [zdtmRdwLength, beforeItemLength, hv]

theorem zdtmRdwWrite_item (b : Build) (hi : WritesItem rdw) (hr : TodoReadable rdw.todo) :
    zdtmRdwWrite b rdw = .ok { bytes := beforeItem b rdw ++ todoBytes b rdw.todo } := by
  rw [zdtmRdwWrite_item_variation b hi.1, rdwItemWrite_todo b _ hi.2 hr]

theorem zdtmRdwWrite_unreadable (b : Build) (hi : WritesItem rdw)
    (hr : ¬ TodoReadable rdw.todo) : ∃ f, zdtmRdwWrite b rdw = .error f := by
  rw [zdtmRdwWrite_item_variation b hi.1]
  exact rdwItemWrite_unreadable b _ hi.2 hr

theorem zdtmRdwWrite_other (b : Build) (hv : rdw.variation = 1 ∨ rdw.variation = 3)
    (hs : rdw.syncType ≠ syncTypeTodo) :
    zdtmRdwWrite b rdw = .ok { bytes := beforeItem b rdw, null := true } := by
  rw [zdtmRdwWrite_item_variation b hv, rdwItemWrite_other b _ hs]

theorem zdtmRdwLength_other (hv : rdw.variation = 1 ∨ rdw.variation = 3)
    (hs : rdw.syncType ≠ syncTypeTodo) : zdtmRdwLength rdw = retUnkType := by
  rw [zdtmRdwLength_item_variation hv, rdwItemLength, if_neg hs]

/-- The sum of the field lengths of an item, before it is made an `int`. -/
def todoFieldLengths (todo : TodoItem) : Nat :=
  49 + todo.categoryLen.toNat + todo.descriptionLen.toNat + todo.notesLen.toNat

theorem zdtmTodoLength_eq (todo : TodoItem) : zdtmTodoLength todo = toInt (todoFieldLengths todo) := by
  unfold zdtmTodoLength todoFieldLengths
  congr 1
  push_cast
  ring

theorem zdtmRdwLength_item (hi : WritesItem rdw) :
    zdtmRdwLength rdw = toInt (beforeItemLength rdw + todoFieldLengths rdw.todo) := by
  rw [zdtmRdwLength_item_variation hi.1, rdwItemLength, if_pos hi.2, zdtmTodoLength_eq]
  simp only [toInt]
  exact Int.add_bmod_bmod

theorem zdtmRdwWrite_two (b : Build) (hv : rdw.variation = 2) :
    zdtmRdwWrite b rdw =
      .ok { bytes := syncIdsWrite b rdw.syncType rdw.numSyncIds rdw.syncId ++
              rdwVariationTwo b rdw.vars } := by
  simp [zdtmRdwWrite, hv]

theorem zdtmRdwLength_two (hv : rdw.variation = 2) : zdtmRdwLength rdw = 12 := by
  simp [zdtmRdwLength, hv]

/-- A variation that the switches do not know. -/
def UnknownVariation (rdw : RdwMsgContent) : Prop :=
  rdw.variation ≠ 1 ∧ rdw.variation ≠ 2 ∧ rdw.variation ≠ 3

theorem zdtmRdwWrite_unknown (b : Build) (hv : UnknownVariation rdw) :
    zdtmRdwWrite b rdw =
      .ok { bytes := syncIdsWrite b rdw.syncType rdw.numSyncIds rdw.syncId } := by
  simp [zdtmRdwWrite, hv.1, hv.2.1, hv.2.2]

theorem zdtmRdwLength_unknown (hv : UnknownVariation rdw) : zdtmRdwLength rdw = retUnkVar := by
  simp [zdtmRdwLength, hv.1, hv.2.1, hv.2.2]

end Item

section Content

variable {b : Build} {t : DesktopType} {cont : SpecTypeContent} {written : Written}

theorem rdw_cases (rdw : RdwMsgContent) :
    WritesItem rdw ∨ ((rdw.variation = 1 ∨ rdw.variation = 3) ∧ rdw.syncType ≠ syncTypeTodo) ∨
      rdw.variation = 2 ∨ UnknownVariation rdw := by
  unfold WritesItem UnknownVariation
  by_cases h1 : rdw.variation = 1 <;> by_cases h2 : rdw.variation = 2 <;>
    by_cases h3 : rdw.variation = 3 <;> by_cases hs : rdw.syncType = syncTypeTodo <;> simp_all

theorem not_unreadable_of_ok {rdw : RdwMsgContent} (h : zdtmRdwWrite b rdw = .ok written)
    (hi : WritesItem rdw) : TodoReadable rdw.todo := by
  by_contra hr
  obtain ⟨f, hf⟩ := zdtmRdwWrite_unreadable b hi hr
  rw [hf] at h
  cases h

/-- A content is written exactly when all of it can be read. -/
theorem contentWrite_ok_iff :
    (∃ written, contentWrite b t cont = .ok written) ↔ ContentReadable t cont := by
  cases t with
  | rrl =>
    constructor
    · intro hwritten
      obtain ⟨written, hw⟩ := hwritten
      by_contra hlt
      rw [contentWrite, zdtmRrlWrite_of_lt (not_le.mp hlt)] at hw
      cases hw
    · intro hr
      exact ⟨_, by rw [contentWrite, zdtmRrlWrite_of_le hr]; rfl⟩
  | rge =>
    constructor
    · intro hwritten
      obtain ⟨written, hw⟩ := hwritten
      by_contra hlt
      rw [contentWrite, zdtmRgeWrite_of_lt b (not_le.mp hlt)] at hw
      cases hw
    · intro hr
      exact ⟨_, by rw [contentWrite, zdtmRgeWrite_of_le b hr]; rfl⟩
  | rdw =>
    constructor
    · rintro ⟨written, hw⟩ hi
      exact not_unreadable_of_ok hw hi
    · intro hr
      rcases rdw_cases cont.rdw with hi | ⟨hv, hs⟩ | hv | hv
      · exact ⟨_, zdtmRdwWrite_item b hi (hr hi)⟩
      · exact ⟨_, zdtmRdwWrite_other b hv hs⟩
      · exact ⟨_, zdtmRdwWrite_two b hv⟩
      · exact ⟨_, zdtmRdwWrite_unknown b hv⟩
  | _ => exact ⟨fun _ => trivial, fun _ => ⟨_, rfl⟩⟩

/-- Outside RDW, and with a log that fits, the writer emits the announced length. -/
theorem contentWrite_length (hw : contentWrite b t cont = .ok written) (hrdw : t ≠ .rdw)
    (hrms : t = .rms → cont.rms.logSize.toNat ≤ 38) :
    written.null = false ∧ (written.bytes.length : Int) = contentLength t cont := by
  have hr := contentWrite_ok_iff.mp ⟨written, hw⟩
  cases t with
  | rrl =>
    have hle : cont.rrl.pwSize.toNat ≤ cont.rrl.pw.target.length := hr
    rw [contentWrite, zdtmRrlWrite_of_le hr] at hw
    cases hw
    refine ⟨rfl, ?_⟩
    simp only [contentLength, zdtmRrlLength, List.length_cons, List.length_take]
    omega
  | rge =>
    have hle : cont.rge.pathLen.toNat ≤ cont.rge.path.target.length := hr
    rw [contentWrite, zdtmRgeWrite_of_le b hr] at hw
    cases hw
    refine ⟨rfl, ?_⟩
    simp only [contentLength, zdtmRgeLength, List.length_append, length_hostShort,
      List.length_take]
    omega
  | rms =>
    have hle := hrms rfl
    rw [contentWrite, zdtmRmsWrite_of_le b hle] at hw
    cases hw
    refine ⟨rfl, ?_⟩
    simp only [contentLength, zdtmRmsLength, List.length_append, length_bytes,
      List.length_take, List.Vector.toList_length, List.length_replicate, rmsLogSize]
    omega
  | rdw => exact absurd rfl hrdw
  | rts => cases hw; exact ⟨rfl, by simp [contentLength, zdtmRtsLength, zdtmRtsWrite]⟩
  | rdr => cases hw; exact ⟨rfl, by simp [contentLength, zdtmRdrLength, zdtmRdrWrite]⟩
  | rdd => cases hw; exact ⟨rfl, by simp [contentLength, zdtmRddLength, zdtmRddWrite]⟩
  | rds => cases hw; exact ⟨rfl, by simp [contentLength, zdtmRdsLength, zdtmRdsWrite]⟩
  | rqt => cases hw; exact ⟨rfl, by simp [contentLength, zdtmRqtLength, zdtmRqtWrite]⟩
  | _ => cases hw; exact ⟨rfl, rfl⟩

end Content

/-- The strings of an item cover the lengths given with them. -/
structure TodoValid (todo : TodoItem) : Prop where
  category : todo.categoryLen.toNat ≤ todo.category.target.length
  description : todo.descriptionLen.toNat ≤ todo.description.target.length
  notes : todo.notesLen.toNat ≤ todo.notes.target.length

/-- The contents the writers are meant to accept. -/
structure MeantFor (t : DesktopType) (cont : SpecTypeContent) : Prop where
  pw : t = .rrl → cont.rrl.pwSize.toNat ≤ cont.rrl.pw.target.length
  path : t = .rge → cont.rge.pathLen.toNat ≤ cont.rge.path.target.length
  log : t = .rms → cont.rms.logSize.toNat ≤ 38
  variation : t = .rdw → cont.rdw.variation = 2 ∨ WritesItem cont.rdw
  item : t = .rdw → WritesItem cont.rdw → TodoValid cont.rdw.todo

/-- The writer succeeds and emits as many bytes as its length function announces. -/
def EmitsLength (b : Build) (t : DesktopType) (cont : SpecTypeContent) : Prop :=
  ∃ written, contentWrite b t cont = .ok written ∧ written.null = false ∧
    (written.bytes.length : Int) = contentLength t cont

/-- The two copies of four bytes stay inside the strings and make up for the
lengths, and the content is not too long for an `int`. -/
structure FourByteCopiesFit (rdw : RdwMsgContent) : Prop where
  description : 4 ≤ rdw.todo.description.target.length
  notes : 4 ≤ rdw.todo.notes.target.length
  lengths : (rdw.todo.descriptionLen.toNat + rdw.todo.notesLen.toNat) % 2 ^ 32 = 8
  small : beforeItemLength rdw + 57 + rdw.todo.categoryLen.toNat < 2 ^ 31

theorem toInt_eq_natCast_iff (n m : Nat) : toInt n = m ↔ m < 2 ^ 31 ∧ n % 2 ^ 32 = m := by
  unfold toInt
  rw [Int.bmod_def]
  split <;> omega

theorem length_item_content (b : Build) {rdw : RdwMsgContent} (hr : TodoReadable rdw.todo) :
    (beforeItem b rdw ++ todoBytes b rdw.todo).length =
      beforeItemLength rdw + 57 + rdw.todo.categoryLen.toNat := by
  rw [List.length_append, length_beforeItem, length_todoBytes b hr]
  omega

theorem item_length_iff (rdw : RdwMsgContent) (hi : WritesItem rdw) :
    ((beforeItemLength rdw + 57 + rdw.todo.categoryLen.toNat : Nat) : Int) = zdtmRdwLength rdw ↔
      (rdw.todo.descriptionLen.toNat + rdw.todo.notesLen.toNat) % 2 ^ 32 = 8 ∧
        beforeItemLength rdw + 57 + rdw.todo.categoryLen.toNat < 2 ^ 31 := by
  have hsum := toInt_eq_natCast_iff (beforeItemLength rdw + todoFieldLengths rdw.todo)
    (beforeItemLength rdw + 57 + rdw.todo.categoryLen.toNat)
  rw [zdtmRdwLength_item hi, eq_comm, ← Nat.cast_add, hsum]
  unfold todoFieldLengths
  omega

/-- Every writer emits what its length function announces, except that a content
with an item must happen to make up for the four-byte copies. -/
theorem emits_announced_length_iff (b : Build) (t : DesktopType) (cont : SpecTypeContent)
    (h : MeantFor t cont) :
    EmitsLength b t cont ↔
      (t = .rdw → WritesItem cont.rdw → FourByteCopiesFit cont.rdw) := by
  by_cases hrdw : t = .rdw
  · subst hrdw
    rcases h.variation rfl with hv | hi
    · have hno : ¬ WritesItem cont.rdw := by
        intro hi
        have hone := hi.1
        rw [hv] at hone
        revert hone
        decide
      refine ⟨fun _ _ hi => absurd hi hno, fun _ => ⟨_, zdtmRdwWrite_two b hv, rfl, ?_⟩⟩
      simp [contentLength, zdtmRdwLength_two hv]
    · have hvalid := h.item rfl hi
      constructor
      · rintro ⟨written, hw, -, hlen⟩ - -
        have hr : TodoReadable cont.rdw.todo := not_unreadable_of_ok hw hi
        rw [contentWrite, zdtmRdwWrite_item b hi hr] at hw
        cases hw
        rw [contentLength, length_item_content b hr, item_length_iff _ hi] at hlen
        exact ⟨hr.description, hr.notes, hlen.1, hlen.2⟩
      · intro hfit
        obtain ⟨hd, hn, hlen, hsmall⟩ := hfit rfl hi
        have hr : TodoReadable cont.rdw.todo := ⟨hvalid.category, hd, hn⟩
        refine ⟨_, zdtmRdwWrite_item b hi hr, rfl, ?_⟩
        rw [contentLength, length_item_content b hr, item_length_iff _ hi]
        exact ⟨hlen, hsmall⟩
  · refine ⟨fun _ ht => absurd ht hrdw, fun _ => ?_⟩
    have hr : ContentReadable t cont := by
      cases t with
      | rrl => exact h.pw rfl
      | rge => exact h.path rfl
      | rdw => exact absurd rfl hrdw
      | _ => trivial
    obtain ⟨written, hw⟩ := (contentWrite_ok_iff (b := b)).mpr hr
    obtain ⟨hnull, hlen⟩ := contentWrite_length hw hrdw h.log
    exact ⟨written, hw, hnull, hlen⟩

/-- An item as `zdtm_prepare_message_test.c` fills it. -/
def crudItem : TodoItem where
  categoryLen := 5
  category := some [0x43, 0x52, 0x55, 0x44, 0x00]
  startDate := ⟨[0x61, 0x62, 0x63, 0x64, 0x65], rfl⟩
  dueDate := ⟨[0x61, 0x62, 0x63, 0x64, 0x65], rfl⟩
  completedDate := ⟨[0x61, 0x62, 0x63, 0x64, 0x65], rfl⟩
  progress := 0xa5
  priority := 0xff
  descriptionLen := 5
  description := some [0x43, 0x52, 0x55, 0x44, 0x00]
  notesLen := 5
  notes := some [0x43, 0x52, 0x55, 0x44, 0x00]

/-- The RDW content of variation 1 of that test. -/
def crudContent : SpecTypeContent where
  rdw := {
    syncType := syncTypeTodo, numSyncIds := 1, syncId := 0xdeadbeef, variation := 1
    vars := { padding := List.Vector.replicate 16 0xff }, todo := crudItem }

theorem crudItem_valid : TodoValid crudItem := by
  constructor <;> decide

theorem crudContent_writesItem : WritesItem crudContent.rdw := ⟨Or.inl rfl, rfl⟩

theorem crudContent_meant : MeantFor .rdw crudContent where
  pw h := by cases h
  path h := by cases h
  log h := by cases h
  variation _ := Or.inr crudContent_writesItem
  item _ _ := crudItem_valid

theorem emits_announced_length_crud :
    EmitsLength .bigEndian .rdw crudContent ↔
      (DesktopType.rdw = .rdw → WritesItem crudContent.rdw → FourByteCopiesFit crudContent.rdw) :=
  emits_announced_length_iff .bigEndian .rdw crudContent crudContent_meant

/-- The content of the test is announced with 87 bytes and written with 85. -/
theorem crud_length_drift :
    MeantFor .rdw crudContent ∧ ¬ EmitsLength .littleEndian .rdw crudContent := by
  refine ⟨crudContent_meant, ?_⟩
  intro hwritten
  obtain ⟨written, hw, -, hlen⟩ := hwritten
  have hr : TodoReadable crudContent.rdw.todo := not_unreadable_of_ok hw crudContent_writesItem
  rw [contentWrite, zdtmRdwWrite_item _ crudContent_writesItem hr] at hw
  cases hw
  rw [contentLength, length_item_content _ hr] at hlen
  revert hlen
  decide

end ZdtmWriters
