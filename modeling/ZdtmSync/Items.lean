import ZdtmSync.Records
import ZdtmSync.Common

/-!
# Items and their parameters

The items of `zdtm_common.h` and the functions of `zdtm_proto.c` that fill them
in from the parameters of an ADR message, by the format that an ADI message
gave. The type id and the abbreviation of a parameter select a member; its bytes
are copied there as they came, into numbers too.
-/

namespace ZdtmItems

open CMemory Records ZdtmTypes ZdtmCommon

abbrev dataIdTime : UInt8 := 0x04
abbrev dataIdBit : UInt8 := 0x06
abbrev dataIdWord : UInt8 := 0x08
abbrev dataIdUchar : UInt8 := 0x0b
abbrev dataIdBarray : UInt8 := 0x0c
abbrev dataIdUtf8 : UInt8 := 0x11
abbrev dataIdUlong : UInt8 := 0x12

def charBytes (x : UInt8) : Bytes 1 := ⟨[x], rfl⟩

/-- A `uint16_t` as it lies in the memory of the host. -/
def shortBytes (b : Build) (x : UInt16) : Bytes 2 := ⟨hostShort b x, length_hostShort b x⟩

/-- A `uint32_t` as it lies in the memory of the host. -/
def longBytes (b : Build) (x : UInt32) : Bytes 4 := ⟨hostLong b x, length_hostLong b x⟩

def charOf (v : Bytes 1) : UInt8 := v.head
def shortOf (b : Build) (v : Bytes 2) : UInt16 := shortAt b v.toList
def longOf (b : Build) (v : Bytes 4) : UInt32 := longAt b v.toList

@[simp] theorem charBytes_charOf (v : Bytes 1) : charBytes (charOf v) = v :=
  (List.Vector.singleton_tail v ▸ List.Vector.cons_head_tail v : charOf v ::ᵥ .nil = v)

@[simp] theorem shortBytes_shortOf (b : Build) (v : Bytes 2) : shortBytes b (shortOf b v) = v :=
  Subtype.ext (hostShort_shortAt b v.toList_length)

@[simp] theorem longBytes_longOf (b : Build) (v : Bytes 4) : longBytes b (longOf b v) = v :=
  Subtype.ext (hostLong_longAt b v.toList_length)

theorem charBytes_injective : Function.Injective charBytes := by
  intro x y h
  exact congrArg charOf h

theorem shortOf_shortBytes (b : Build) (x : UInt16) : shortOf b (shortBytes b x) = x := by
  have hvalue : LittleEndian.value (LittleEndian.bytes 2 x.toNat) = x.toNat :=
    LittleEndian.value_bytes_of_lt x.toNat_lt
  cases b with
  | littleEndian =>
    change UInt16.ofNat (LittleEndian.value (LittleEndian.bytes 2 x.toNat)) = x
    rw [hvalue, UInt16.ofNat_toNat]
  | bigEndian =>
    change UInt16.ofNat (LittleEndian.value (LittleEndian.bytes 2 x.toNat).reverse.reverse) = x
    rw [List.reverse_reverse, hvalue, UInt16.ofNat_toNat]

theorem longOf_longBytes (b : Build) (x : UInt32) : longOf b (longBytes b x) = x := by
  have hvalue : LittleEndian.value (LittleEndian.bytes 4 x.toNat) = x.toNat :=
    LittleEndian.value_bytes_of_lt x.toNat_lt
  cases b with
  | littleEndian =>
    change UInt32.ofNat (LittleEndian.value (LittleEndian.bytes 4 x.toNat)) = x
    rw [hvalue, UInt32.ofNat_toNat]
  | bigEndian =>
    change UInt32.ofNat (LittleEndian.value (LittleEndian.bytes 4 x.toNat).reverse.reverse) = x
    rw [List.reverse_reverse, hvalue, UInt32.ofNat_toNat]

theorem shortBytes_injective (b : Build) : Function.Injective (shortBytes b) :=
  Function.LeftInverse.injective (shortOf_shortBytes b)

theorem longBytes_injective (b : Build) : Function.Injective (longBytes b) :=
  Function.LeftInverse.injective (longOf_longBytes b)

/-- One comparison inside one case of the switch, and the member it copies to. -/
structure Branch (F : Type) where
  typeId : UInt8
  abrev : Bytes 4
  member : F
  nomem : Int

def abrevOf (a b c d : Char) : Bytes 4 :=
  ⟨[UInt8.ofNat a.toNat, UInt8.ofNat b.toNat, UInt8.ofNat c.toNat, UInt8.ofNat d.toNat], rfl⟩

variable {F I : Type}

/-- A branch that copies over an array; it needs no block. -/
def fixed (typeId : UInt8) (a b c d : Char) (member : F) : Branch F :=
  ⟨typeId, abrevOf a b c d, member, -1⟩

/-- A branch that copies into a block of its own, or returns without one. -/
def counted (typeId : UInt8) (a b c d : Char) (member : F) (nomem : Int) : Branch F :=
  ⟨typeId, abrevOf a b c d, member, nomem⟩

/-- What the three functions differ in: the structure and the branches. -/
structure Parser (I F : Type) where
  kind : F → Kind
  layout : Build → Layout I kind
  branches : List (Branch F)

namespace Parser

/-- The first branch for the type id and the abbreviation, if there is one. -/
def branch (P : Parser I F) (format : AdiMsgParam) : Option (Branch F) :=
  P.branches.find? fun branch =>
    decide (branch.typeId = format.typeId ∧ branch.abrev = format.abrev)

def assignment (P : Parser I F) (format : AdiMsgParam) (param : AdrMsgParam) :
    Option (Assignment F) :=
  (P.branch format).map fun branch =>
    { member := branch.member, nomem := branch.nomem
      size := param.paramLen, data := param.paramData }

/-- What the rounds of the loop do; a parameter without a branch is passed over. -/
def assignments (P : Parser I F) (paramFormat : List AdiMsgParam) (params : List AdrMsgParam) :
    List (Assignment F) :=
  (List.zip paramFormat params).filterMap fun p => P.assignment p.1 p.2

/-- `_zdtm_parse_…_item_params`. -/
def parse (P : Parser I F) (b : Build) (paramFormat : List AdiMsgParam)
    (params : List AdrMsgParam) (item : I) : Mem (Int × I) :=
  if paramFormat.length ≠ params.length then pure (-1, item)
  else (P.layout b).assignAll (P.assignments paramFormat params) item

end Parser

inductive TodoMember where
  | attr | creationDate | modificationDate | syncId | category | startDate | dueDate
  | completedDate | progress | priority | description | notes
  deriving DecidableEq

def todoKind : TodoMember → Kind
  | .creationDate | .modificationDate | .startDate | .dueDate | .completedDate => .array 5
  | .attr | .progress | .priority => .array 1
  | .syncId => .array 4
  | .category | .description | .notes => .counted

def todoGet (b : Build) : (f : TodoMember) → TodoItem → (todoKind f).Value
  | .attr, item => charBytes item.attr
  | .creationDate, item => item.creationDate
  | .modificationDate, item => item.modificationDate
  | .syncId, item => longBytes b item.syncId
  | .category, item => (item.categoryLen, item.category)
  | .startDate, item => item.startDate
  | .dueDate, item => item.dueDate
  | .completedDate, item => item.completedDate
  | .progress, item => charBytes item.progress
  | .priority, item => charBytes item.priority
  | .description, item => (item.descriptionLen, item.description)
  | .notes, item => (item.notesLen, item.notes)

def todoSet (b : Build) : (f : TodoMember) → (todoKind f).Value → TodoItem → TodoItem
  | .attr, v, item => { item with attr := charOf v }
  | .creationDate, v, item => { item with creationDate := v }
  | .modificationDate, v, item => { item with modificationDate := v }
  | .syncId, v, item => { item with syncId := longOf b v }
  | .category, v, item => { item with categoryLen := Prod.fst v, category := Prod.snd v }
  | .startDate, v, item => { item with startDate := v }
  | .dueDate, v, item => { item with dueDate := v }
  | .completedDate, v, item => { item with completedDate := v }
  | .progress, v, item => { item with progress := charOf v }
  | .priority, v, item => { item with priority := charOf v }
  | .description, v, item => { item with descriptionLen := Prod.fst v, description := Prod.snd v }
  | .notes, v, item => { item with notesLen := Prod.fst v, notes := Prod.snd v }

attribute [ext] TodoItem

theorem todo_get_set (b : Build) (f : TodoMember) (v : (todoKind f).Value) (item : TodoItem) :
    todoGet b f (todoSet b f v item) = v := by
  cases f with
  | attr => exact charBytes_charOf v
  | syncId => exact longBytes_longOf b v
  | progress => exact charBytes_charOf v
  | priority => exact charBytes_charOf v
  | _ => rfl

theorem todo_get_set_of_ne (b : Build) {f g : TodoMember} (v : (todoKind f).Value)
    (item : TodoItem) (h : g ≠ f) : todoGet b g (todoSet b f v item) = todoGet b g item := by
  cases f <;> cases g <;> first | rfl | exact absurd rfl h

theorem todo_ext (b : Build) {i j : TodoItem} (h : ∀ f, todoGet b f i = todoGet b f j) :
    i = j := by
  apply TodoItem.ext
  · exact charBytes_injective (h .attr)
  · exact h .creationDate
  · exact h .modificationDate
  · exact longBytes_injective b (h .syncId)
  · exact congrArg Prod.fst (h .category)
  · exact congrArg Prod.snd (h .category)
  · exact h .startDate
  · exact h .dueDate
  · exact h .completedDate
  · exact charBytes_injective (h .progress)
  · exact charBytes_injective (h .priority)
  · exact congrArg Prod.fst (h .description)
  · exact congrArg Prod.snd (h .description)
  · exact congrArg Prod.fst (h .notes)
  · exact congrArg Prod.snd (h .notes)

def todoLayout (b : Build) : Layout TodoItem todoKind where
  get := todoGet b
  set := todoSet b
  get_set := todo_get_set b
  get_set_of_ne := todo_get_set_of_ne b
  ext := todo_ext b

def todoBranches : List (Branch TodoMember) :=
  [fixed dataIdTime 'C' 'T' 'T' 'M' .creationDate,
    fixed dataIdTime 'M' 'D' 'T' 'M' .modificationDate,
    fixed dataIdTime 'E' 'T' 'D' 'Y' .startDate,
    fixed dataIdTime 'L' 'T' 'D' 'Y' .dueDate,
    fixed dataIdTime 'F' 'N' 'D' 'Y' .completedDate,
    fixed dataIdBit 'A' 'T' 'T' 'R' .attr,
    fixed dataIdUchar 'M' 'A' 'R' 'K' .progress,
    fixed dataIdUchar 'P' 'R' 'T' 'Y' .priority,
    counted dataIdBarray 'C' 'T' 'G' 'R' .category (-2),
    counted dataIdUtf8 'T' 'I' 'T' 'L' .description (-3),
    counted dataIdUtf8 'M' 'E' 'M' '1' .notes (-4),
    fixed dataIdUlong 'S' 'Y' 'I' 'D' .syncId]

def todoParser : Parser TodoItem TodoMember := ⟨todoKind, todoLayout, todoBranches⟩

def zdtmParseTodoItemParams (b : Build) (paramFormat : List AdiMsgParam)
    (params : List AdrMsgParam) (item : TodoItem) : Mem (Int × TodoItem) :=
  todoParser.parse b paramFormat params item

@[ext] structure CalendarItem where
  attr : UInt8 := 0
  creationDate : Bytes 5 := zeros 5
  modificationDate : Bytes 5 := zeros 5
  syncId : UInt32 := 0
  categoryLen : UInt32 := 0
  category : Ptr := none
  descriptionLen : UInt32 := 0
  description : Ptr := none
  locationLen : UInt32 := 0
  location : Ptr := none
  notesLen : UInt32 := 0
  notes : Ptr := none
  startTime : Bytes 5 := zeros 5
  endTime : Bytes 5 := zeros 5
  scheduleType : UInt8 := 0
  alarm : UInt8 := 0
  alarmSetting : UInt8 := 0
  alarmTime : UInt16 := 0
  repeatType : UInt8 := 0
  repeatPeriod : UInt16 := 0
  repeatPosition : UInt16 := 0
  repeatDate : UInt8 := 0
  repeatEndDateSetting : UInt8 := 0
  repeatEndDate : Bytes 5 := zeros 5
  allDayStartDate : Bytes 5 := zeros 5
  allDayEndDate : Bytes 5 := zeros 5
  multipleDaysFlag : UInt8 := 0
  deriving DecidableEq

inductive CalendarMember where
  | attr | creationDate | modificationDate | syncId | category | description | location
  | notes | startTime | endTime | scheduleType | alarm | alarmSetting | alarmTime | repeatType
  | repeatPeriod | repeatPosition | repeatDate | repeatEndDateSetting | repeatEndDate
  | allDayStartDate | allDayEndDate | multipleDaysFlag
  deriving DecidableEq

def calendarKind : CalendarMember → Kind
  | .creationDate | .modificationDate | .startTime | .endTime | .repeatEndDate | .allDayStartDate
  | .allDayEndDate => .array 5
  | .attr | .scheduleType | .alarm | .alarmSetting | .repeatType | .repeatDate
  | .repeatEndDateSetting | .multipleDaysFlag => .array 1
  | .alarmTime | .repeatPeriod | .repeatPosition => .array 2
  | .syncId => .array 4
  | .category | .description | .location | .notes => .counted

def calendarGet (b : Build) : (f : CalendarMember) → CalendarItem → (calendarKind f).Value
  | .attr, item => charBytes item.attr
  | .creationDate, item => item.creationDate
  | .modificationDate, item => item.modificationDate
  | .syncId, item => longBytes b item.syncId
  | .category, item => (item.categoryLen, item.category)
  | .description, item => (item.descriptionLen, item.description)
  | .location, item => (item.locationLen, item.location)
  | .notes, item => (item.notesLen, item.notes)
  | .startTime, item => item.startTime
  | .endTime, item => item.endTime
  | .scheduleType, item => charBytes item.scheduleType
  | .alarm, item => charBytes item.alarm
  | .alarmSetting, item => charBytes item.alarmSetting
  | .alarmTime, item => shortBytes b item.alarmTime
  | .repeatType, item => charBytes item.repeatType
  | .repeatPeriod, item => shortBytes b item.repeatPeriod
  | .repeatPosition, item => shortBytes b item.repeatPosition
  | .repeatDate, item => charBytes item.repeatDate
  | .repeatEndDateSetting, item => charBytes item.repeatEndDateSetting
  | .repeatEndDate, item => item.repeatEndDate
  | .allDayStartDate, item => item.allDayStartDate
  | .allDayEndDate, item => item.allDayEndDate
  | .multipleDaysFlag, item => charBytes item.multipleDaysFlag

def calendarSet (b : Build) :
    (f : CalendarMember) → (calendarKind f).Value → CalendarItem → CalendarItem
  | .attr, v, item => { item with attr := charOf v }
  | .creationDate, v, item => { item with creationDate := v }
  | .modificationDate, v, item => { item with modificationDate := v }
  | .syncId, v, item => { item with syncId := longOf b v }
  | .category, v, item => { item with categoryLen := Prod.fst v, category := Prod.snd v }
  | .description, v, item => { item with descriptionLen := Prod.fst v, description := Prod.snd v }
  | .location, v, item => { item with locationLen := Prod.fst v, location := Prod.snd v }
  | .notes, v, item => { item with notesLen := Prod.fst v, notes := Prod.snd v }
  | .startTime, v, item => { item with startTime := v }
  | .endTime, v, item => { item with endTime := v }
  | .scheduleType, v, item => { item with scheduleType := charOf v }
  | .alarm, v, item => { item with alarm := charOf v }
  | .alarmSetting, v, item => { item with alarmSetting := charOf v }
  | .alarmTime, v, item => { item with alarmTime := shortOf b v }
  | .repeatType, v, item => { item with repeatType := charOf v }
  | .repeatPeriod, v, item => { item with repeatPeriod := shortOf b v }
  | .repeatPosition, v, item => { item with repeatPosition := shortOf b v }
  | .repeatDate, v, item => { item with repeatDate := charOf v }
  | .repeatEndDateSetting, v, item => { item with repeatEndDateSetting := charOf v }
  | .repeatEndDate, v, item => { item with repeatEndDate := v }
  | .allDayStartDate, v, item => { item with allDayStartDate := v }
  | .allDayEndDate, v, item => { item with allDayEndDate := v }
  | .multipleDaysFlag, v, item => { item with multipleDaysFlag := charOf v }

theorem calendar_get_set (b : Build) (f : CalendarMember) (v : (calendarKind f).Value)
    (item : CalendarItem) : calendarGet b f (calendarSet b f v item) = v := by
  cases f with
  | attr => exact charBytes_charOf v
  | syncId => exact longBytes_longOf b v
  | scheduleType => exact charBytes_charOf v
  | alarm => exact charBytes_charOf v
  | alarmSetting => exact charBytes_charOf v
  | alarmTime => exact shortBytes_shortOf b v
  | repeatType => exact charBytes_charOf v
  | repeatPeriod => exact shortBytes_shortOf b v
  | repeatPosition => exact shortBytes_shortOf b v
  | repeatDate => exact charBytes_charOf v
  | repeatEndDateSetting => exact charBytes_charOf v
  | multipleDaysFlag => exact charBytes_charOf v
  | _ => rfl

theorem calendar_get_set_of_ne (b : Build) {f g : CalendarMember} (v : (calendarKind f).Value)
    (item : CalendarItem) (h : g ≠ f) :
    calendarGet b g (calendarSet b f v item) = calendarGet b g item := by
  cases f <;> cases g <;> first | rfl | exact absurd rfl h

theorem calendar_ext (b : Build) {i j : CalendarItem}
    (h : ∀ f, calendarGet b f i = calendarGet b f j) : i = j := by
  apply CalendarItem.ext
  · exact charBytes_injective (h .attr)
  · exact h .creationDate
  · exact h .modificationDate
  · exact longBytes_injective b (h .syncId)
  · exact congrArg Prod.fst (h .category)
  · exact congrArg Prod.snd (h .category)
  · exact congrArg Prod.fst (h .description)
  · exact congrArg Prod.snd (h .description)
  · exact congrArg Prod.fst (h .location)
  · exact congrArg Prod.snd (h .location)
  · exact congrArg Prod.fst (h .notes)
  · exact congrArg Prod.snd (h .notes)
  · exact h .startTime
  · exact h .endTime
  · exact charBytes_injective (h .scheduleType)
  · exact charBytes_injective (h .alarm)
  · exact charBytes_injective (h .alarmSetting)
  · exact shortBytes_injective b (h .alarmTime)
  · exact charBytes_injective (h .repeatType)
  · exact shortBytes_injective b (h .repeatPeriod)
  · exact shortBytes_injective b (h .repeatPosition)
  · exact charBytes_injective (h .repeatDate)
  · exact charBytes_injective (h .repeatEndDateSetting)
  · exact h .repeatEndDate
  · exact h .allDayStartDate
  · exact h .allDayEndDate
  · exact charBytes_injective (h .multipleDaysFlag)

def calendarLayout (b : Build) : Layout CalendarItem calendarKind where
  get := calendarGet b
  set := calendarSet b
  get_set := calendar_get_set b
  get_set_of_ne := calendar_get_set_of_ne b
  ext := calendar_ext b

def calendarBranches : List (Branch CalendarMember) :=
  [fixed dataIdTime 'C' 'T' 'T' 'M' .creationDate,
    fixed dataIdTime 'M' 'D' 'T' 'M' .modificationDate,
    fixed dataIdTime 'T' 'I' 'M' '1' .startTime,
    fixed dataIdTime 'T' 'I' 'M' '2' .endTime,
    fixed dataIdTime 'R' 'E' 'D' 'T' .repeatEndDate,
    fixed dataIdTime 'A' 'L' 'S' 'D' .allDayStartDate,
    fixed dataIdTime 'A' 'L' 'E' 'D' .allDayEndDate,
    fixed dataIdBit 'A' 'T' 'T' 'R' .attr,
    fixed dataIdUchar 'A' 'D' 'A' 'Y' .scheduleType,
    fixed dataIdUchar 'A' 'R' 'O' 'N' .alarm,
    fixed dataIdUchar 'A' 'R' 'S' 'D' .alarmSetting,
    fixed dataIdUchar 'R' 'T' 'Y' 'P' .repeatType,
    fixed dataIdUchar 'R' 'D' 'Y' 'S' .repeatDate,
    fixed dataIdUchar 'R' 'E' 'N' 'D' .repeatEndDateSetting,
    fixed dataIdUchar 'M' 'D' 'A' 'Y' .multipleDaysFlag,
    fixed dataIdWord 'A' 'R' 'M' 'N' .alarmTime,
    fixed dataIdWord 'R' 'F' 'R' 'Q' .repeatPeriod,
    fixed dataIdWord 'R' 'P' 'O' 'S' .repeatPosition,
    counted dataIdBarray 'C' 'T' 'G' 'R' .category (-2),
    counted dataIdUtf8 'D' 'S' 'R' 'P' .description (-3),
    counted dataIdUtf8 'P' 'L' 'C' 'E' .location (-4),
    counted dataIdUtf8 'M' 'E' 'M' '1' .notes (-5),
    fixed dataIdUlong 'S' 'Y' 'I' 'D' .syncId]

def calendarParser : Parser CalendarItem CalendarMember :=
  ⟨calendarKind, calendarLayout, calendarBranches⟩

def zdtmParseCalendarItemParams (b : Build) (paramFormat : List AdiMsgParam)
    (params : List AdrMsgParam) (item : CalendarItem) : Mem (Int × CalendarItem) :=
  calendarParser.parse b paramFormat params item

/-- The strings of an address item, each with its length. -/
inductive AddressText where
  | category | fullName | fullNamePronun | title | lastName | firstName | middleName | suffix
  | alternativeName | lastNamePronun | firstNamePronun | company | companyPronun | department
  | jobTitle | workPhone | workFax | workMobile | workState | workCity | workStreet | workZip
  | workCountry | workWebPage | office | profession | assistant | manager | pager | cellular
  | homePhone | homeFax | homeState | homeCity | homeStreet | homeZip | homeCountry | homeWebPage
  | defaultEmail | emails | spouse | gender | birthday | anniversary | nickname | children | memo
  | group
  deriving DecidableEq

@[ext] structure AddressItem where
  attr : UInt8 := 0
  creationDate : Bytes 5 := zeros 5
  modificationDate : Bytes 5 := zeros 5
  syncId : UInt32 := 0
  text : AddressText → UInt32 × Ptr := fun _ => (0, none)

inductive AddressMember where
  | attr | creationDate | modificationDate | syncId
  | text (t : AddressText)
  deriving DecidableEq

def addressKind : AddressMember → Kind
  | .creationDate | .modificationDate => .array 5
  | .attr => .array 1
  | .syncId => .array 4
  | .text _ => .counted

def addressGet (b : Build) : (f : AddressMember) → AddressItem → (addressKind f).Value
  | .attr, item => charBytes item.attr
  | .creationDate, item => item.creationDate
  | .modificationDate, item => item.modificationDate
  | .syncId, item => longBytes b item.syncId
  | .text t, item => item.text t

def addressSet (b : Build) :
    (f : AddressMember) → (addressKind f).Value → AddressItem → AddressItem
  | .attr, v, item => { item with attr := charOf v }
  | .creationDate, v, item => { item with creationDate := v }
  | .modificationDate, v, item => { item with modificationDate := v }
  | .syncId, v, item => { item with syncId := longOf b v }
  | .text t, v, item => { item with text := Function.update item.text t v }

theorem address_get_set (b : Build) (f : AddressMember) (v : (addressKind f).Value)
    (item : AddressItem) : addressGet b f (addressSet b f v item) = v := by
  cases f with
  | attr => exact charBytes_charOf v
  | syncId => exact longBytes_longOf b v
  | text t => exact Function.update_self t v item.text
  | _ => rfl

theorem address_get_set_of_ne (b : Build) {f g : AddressMember} (v : (addressKind f).Value)
    (item : AddressItem) (h : g ≠ f) :
    addressGet b g (addressSet b f v item) = addressGet b g item := by
  cases f with
  | text t =>
    cases g with
    | text u => exact Function.update_of_ne (fun hu => h (congrArg _ hu)) v item.text
    | _ => rfl
  | _ => cases g <;> first | rfl | exact absurd rfl h

theorem address_ext (b : Build) {i j : AddressItem}
    (h : ∀ f, addressGet b f i = addressGet b f j) : i = j := by
  apply AddressItem.ext
  · exact charBytes_injective (h .attr)
  · exact h .creationDate
  · exact h .modificationDate
  · exact longBytes_injective b (h .syncId)
  · funext t
    exact h (.text t)

def addressLayout (b : Build) : Layout AddressItem addressKind where
  get := addressGet b
  set := addressSet b
  get_set := address_get_set b
  get_set_of_ne := address_get_set_of_ne b
  ext := address_ext b

def addressBranches : List (Branch AddressMember) :=
  [fixed dataIdTime 'C' 'T' 'T' 'M' .creationDate,
    fixed dataIdTime 'M' 'D' 'T' 'M' .modificationDate,
    fixed dataIdBit 'A' 'T' 'T' 'R' .attr,
    counted dataIdBarray 'C' 'T' 'G' 'R' (.text .category) (-2),
    counted dataIdUtf8 'F' 'U' 'L' 'L' (.text .fullName) (-3),
    counted dataIdUtf8 'N' 'A' 'P' 'R' (.text .fullNamePronun) (-4),
    counted dataIdUtf8 'T' 'I' 'T' 'L' (.text .title) (-5),
    counted dataIdUtf8 'L' 'N' 'M' 'E' (.text .lastName) (-6),
    counted dataIdUtf8 'F' 'N' 'M' 'E' (.text .firstName) (-7),
    counted dataIdUtf8 'M' 'N' 'M' 'E' (.text .middleName) (-8),
    counted dataIdUtf8 'S' 'U' 'F' 'X' (.text .suffix) (-9),
    counted dataIdUtf8 'F' 'L' 'A' 'S' (.text .alternativeName) (-10),
    counted dataIdUtf8 'L' 'N' 'P' 'R' (.text .lastNamePronun) (-11),
    counted dataIdUtf8 'F' 'N' 'P' 'R' (.text .firstNamePronun) (-12),
    counted dataIdUtf8 'C' 'P' 'N' 'Y' (.text .company) (-13),
    counted dataIdUtf8 'C' 'P' 'P' 'R' (.text .companyPronun) (-14),
    counted dataIdUtf8 'S' 'C' 'T' 'N' (.text .department) (-15),
    counted dataIdUtf8 'P' 'S' 'T' 'N' (.text .jobTitle) (-16),
    counted dataIdUtf8 'T' 'E' 'L' '2' (.text .workPhone) (-17),
    counted dataIdUtf8 'F' 'A' 'X' '2' (.text .workFax) (-18),
    counted dataIdUtf8 'C' 'P' 'S' '2' (.text .workMobile) (-19),
    counted dataIdUtf8 'B' 'S' 'T' 'A' (.text .workState) (-20),
    counted dataIdUtf8 'B' 'C' 'T' 'Y' (.text .workCity) (-21),
    counted dataIdUtf8 'B' 'S' 'T' 'R' (.text .workStreet) (-22),
    counted dataIdUtf8 'B' 'Z' 'I' 'P' (.text .workZip) (-23),
    counted dataIdUtf8 'B' 'C' 'T' 'R' (.text .workCountry) (-24),
    counted dataIdUtf8 'B' 'W' 'E' 'B' (.text .workWebPage) (-25),
    counted dataIdUtf8 'O' 'F' 'C' 'E' (.text .office) (-26),
    counted dataIdUtf8 'P' 'R' 'F' 'S' (.text .profession) (-27),
    counted dataIdUtf8 'A' 'S' 'S' 'T' (.text .assistant) (-28),
    counted dataIdUtf8 'M' 'N' 'G' 'R' (.text .manager) (-29),
    counted dataIdUtf8 'B' 'P' 'G' 'R' (.text .pager) (-30),
    counted dataIdUtf8 'C' 'P' 'S' '1' (.text .cellular) (-31),
    counted dataIdUtf8 'T' 'E' 'L' '1' (.text .homePhone) (-32),
    counted dataIdUtf8 'F' 'A' 'X' '1' (.text .homeFax) (-33),
    counted dataIdUtf8 'H' 'S' 'T' 'A' (.text .homeState) (-34),
    counted dataIdUtf8 'H' 'C' 'T' 'Y' (.text .homeCity) (-35),
    counted dataIdUtf8 'H' 'S' 'T' 'R' (.text .homeStreet) (-36),
    counted dataIdUtf8 'H' 'Z' 'I' 'P' (.text .homeZip) (-37),
    counted dataIdUtf8 'H' 'C' 'T' 'R' (.text .homeCountry) (-38),
    counted dataIdUtf8 'H' 'W' 'E' 'B' (.text .homeWebPage) (-39),
    counted dataIdUtf8 'D' 'M' 'A' 'L' (.text .defaultEmail) (-40),
    counted dataIdUtf8 'M' 'A' 'L' '1' (.text .emails) (-41),
    counted dataIdUtf8 'S' 'P' 'U' 'S' (.text .spouse) (-42),
    counted dataIdUtf8 'G' 'N' 'D' 'R' (.text .gender) (-43),
    counted dataIdUtf8 'B' 'R' 'T' 'H' (.text .birthday) (-44),
    counted dataIdUtf8 'A' 'N' 'I' 'V' (.text .anniversary) (-45),
    counted dataIdUtf8 'N' 'C' 'N' 'M' (.text .nickname) (-46),
    counted dataIdUtf8 'C' 'L' 'D' 'R' (.text .children) (-47),
    counted dataIdUtf8 'M' 'E' 'M' '1' (.text .memo) (-48),
    counted dataIdUtf8 'G' 'R' 'P' 'S' (.text .group) (-49),
    fixed dataIdUlong 'S' 'Y' 'I' 'D' .syncId]

def addressParser : Parser AddressItem AddressMember :=
  ⟨addressKind, addressLayout, addressBranches⟩

def zdtmParseAddressItemParams (b : Build) (paramFormat : List AdiMsgParam)
    (params : List AdrMsgParam) (item : AddressItem) : Mem (Int × AddressItem) :=
  addressParser.parse b paramFormat params item

end ZdtmItems
