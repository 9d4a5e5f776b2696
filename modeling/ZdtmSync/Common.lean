import ZdtmSync.Types

/-!
# Byte order, swap helpers and to-do items

`zdtm_common.c`, with the stores and loads of 16- and 32-bit objects that the
other files make. In a WORDS_BIGENDIAN build the numbers go through a swap
helper first; where that is done with the helper of the right width, the bytes
in memory are little-endian in both builds.
-/

namespace ZdtmCommon

open LittleEndian CMemory ZdtmTypes

/-- The bytes of a `uint16_t` in the memory of the host. -/
def hostShort : Build → UInt16 → List UInt8
  | .littleEndian, x => bytes 2 x.toNat
  | .bigEndian, x => (bytes 2 x.toNat).reverse

/-- The bytes of a `uint32_t` in the memory of the host. -/
def hostLong : Build → UInt32 → List UInt8
  | .littleEndian, x => bytes 4 x.toNat
  | .bigEndian, x => (bytes 4 x.toNat).reverse

/-- `*(uint16_t *)p`. -/
def shortAt : Build → List UInt8 → UInt16
  | .littleEndian, bs => UInt16.ofNat (value bs)
  | .bigEndian, bs => UInt16.ofNat (value bs.reverse)

/-- `*(uint32_t *)p`. -/
def longAt : Build → List UInt8 → UInt32
  | .littleEndian, bs => UInt32.ofNat (value bs)
  | .bigEndian, bs => UInt32.ofNat (value bs.reverse)

def zdtmLiltobigs (b : Build) (lilshort : UInt16) : UInt16 :=
  shortAt b (hostShort b lilshort).reverse

def zdtmLiltobigl (b : Build) (lillong : UInt32) : UInt32 :=
  longAt b (hostLong b lillong).reverse

@[simp] theorem length_hostShort (b : Build) (x : UInt16) : (hostShort b x).length = 2 := by
  cases b <;> simp [hostShort]

@[simp] theorem length_hostLong (b : Build) (x : UInt32) : (hostLong b x).length = 4 := by
  cases b <;> simp [hostLong]

theorem bytes_ofNat_value_two {bs : List UInt8} (h : bs.length = 2) :
    bytes 2 (UInt16.ofNat (value bs)).toNat = bs := by
  have hlt : value bs < 2 ^ 16 := by simpa [h] using value_lt bs
  rw [UInt16.toNat_ofNat_of_lt' hlt]
  simpa [h] using bytes_value bs

theorem bytes_ofNat_value_four {bs : List UInt8} (h : bs.length = 4) :
    bytes 4 (UInt32.ofNat (value bs)).toNat = bs := by
  have hlt : value bs < 2 ^ 32 := by simpa [h] using value_lt bs
  rw [UInt32.toNat_ofNat_of_lt' hlt]
  simpa [h] using bytes_value bs

theorem hostShort_shortAt (b : Build) {bs : List UInt8} (h : bs.length = 2) :
    hostShort b (shortAt b bs) = bs := by
  cases b with
  | littleEndian => exact bytes_ofNat_value_two h
  | bigEndian =>
    have hr : bs.reverse.length = 2 := by simpa using h
    simp only [hostShort, shortAt]
    rw [bytes_ofNat_value_two hr, List.reverse_reverse]

theorem hostLong_longAt (b : Build) {bs : List UInt8} (h : bs.length = 4) :
    hostLong b (longAt b bs) = bs := by
  cases b with
  | littleEndian => exact bytes_ofNat_value_four h
  | bigEndian =>
    have hr : bs.reverse.length = 4 := by simpa using h
    simp only [hostLong, longAt]
    rw [bytes_ofNat_value_four hr, List.reverse_reverse]

/-- The swap helpers reverse the bytes in memory, in both builds. -/
theorem hostShort_zdtmLiltobigs (b : Build) (x : UInt16) :
    hostShort b (zdtmLiltobigs b x) = (hostShort b x).reverse :=
  hostShort_shortAt b (by simp)

theorem hostLong_zdtmLiltobigl (b : Build) (x : UInt32) :
    hostLong b (zdtmLiltobigl b x) = (hostLong b x).reverse :=
  hostLong_longAt b (by simp)

/-- `*((uint16_t*)buf) = …` with `zdtm_liltobigs` under WORDS_BIGENDIAN. -/
def putShort (b : Build) (x : UInt16) : List UInt8 :=
  match b with
  | .bigEndian => hostShort b (zdtmLiltobigs b x)
  | .littleEndian => hostShort b x

/-- `*((uint32_t*)buf) = …` with `zdtm_liltobigl` under WORDS_BIGENDIAN. -/
def putLong (b : Build) (x : UInt32) : List UInt8 :=
  match b with
  | .bigEndian => hostLong b (zdtmLiltobigl b x)
  | .littleEndian => hostLong b x

/-- `… = *((uint16_t *)buf)` with `zdtm_liltobigs` under WORDS_BIGENDIAN. -/
def getShort (b : Build) (bs : List UInt8) : UInt16 :=
  match b with
  | .bigEndian => zdtmLiltobigs b (shortAt b bs)
  | .littleEndian => shortAt b bs

/-- `… = *((uint32_t *)buf)` with `zdtm_liltobigl` under WORDS_BIGENDIAN. -/
def getLong (b : Build) (bs : List UInt8) : UInt32 :=
  match b with
  | .bigEndian => zdtmLiltobigl b (longAt b bs)
  | .littleEndian => longAt b bs

@[simp] theorem putShort_eq (b : Build) (x : UInt16) : putShort b x = bytes 2 x.toNat := by
  cases b with
  | littleEndian => rfl
  | bigEndian =>
    simp only [putShort]
    rw [hostShort_zdtmLiltobigs]
    simp only [hostShort, List.reverse_reverse]

@[simp] theorem putLong_eq (b : Build) (x : UInt32) : putLong b x = bytes 4 x.toNat := by
  cases b with
  | littleEndian => rfl
  | bigEndian =>
    simp only [putLong]
    rw [hostLong_zdtmLiltobigl]
    simp only [hostLong, List.reverse_reverse]

theorem getShort_eq (b : Build) {bs : List UInt8} (h : bs.length = 2) :
    getShort b bs = UInt16.ofNat (value bs) := by
  cases b with
  | littleEndian => rfl
  | bigEndian =>
    simp only [getShort, zdtmLiltobigs]
    rw [hostShort_shortAt _ h]
    simp only [shortAt, List.reverse_reverse]

theorem getLong_eq (b : Build) {bs : List UInt8} (h : bs.length = 4) :
    getLong b bs = UInt32.ofNat (value bs) := by
  cases b with
  | littleEndian => rfl
  | bigEndian =>
    simp only [getLong, zdtmLiltobigl]
    rw [hostLong_longAt _ h]
    simp only [longAt, List.reverse_reverse]

/-- Conversion of a size to a 32-bit `int`. -/
def toInt (n : Int) : Int := n.bmod (2 ^ 32)

def zdtmTodoLength (todo : TodoItem) : Int :=
  toInt (4 + todo.categoryLen.toNat + (4 + 5) + (4 + 5) + (4 + 5) + (4 + 1) + (4 + 1) +
    (4 + todo.descriptionLen.toNat) + (4 + todo.notesLen.toNat))

/-- The length stored before the category: its own length in a WORDS_BIGENDIAN
build, the size of the length field in the other. -/
def todoCategoryLen (b : Build) (todo : TodoItem) : List UInt8 :=
  match b with
  | .bigEndian => hostLong b (zdtmLiltobigl b todo.categoryLen)
  | .littleEndian => hostLong b 4

def zdtmTodoWrite (b : Build) (todo : TodoItem) : Except Fault (List UInt8) := do
  let category ← load todo.category todo.categoryLen.toNat
  -- both copies are `sizeof` the length field, not the length
  let description ← load todo.description 4
  let notes ← load todo.notes 4
  return todoCategoryLen b todo ++ category ++
    putLong b 5 ++ todo.startDate.toList ++
    putLong b 5 ++ todo.dueDate.toList ++
    putLong b 5 ++ todo.completedDate.toList ++
    putLong b 1 ++ [todo.progress] ++
    putLong b 1 ++ [todo.priority] ++
    putLong b todo.descriptionLen ++ description ++
    putLong b todo.notesLen ++ notes

/-- Each pointer of the item can be read for as many bytes as the writer copies. -/
structure TodoReadable (todo : TodoItem) : Prop where
  category : todo.categoryLen.toNat ≤ todo.category.target.length
  description : 4 ≤ todo.description.target.length
  notes : 4 ≤ todo.notes.target.length

/-- The bytes the writer produces when it can read the item. -/
def todoBytes (b : Build) (todo : TodoItem) : List UInt8 :=
  todoCategoryLen b todo ++ todo.category.target.take todo.categoryLen.toNat ++
    bytes 4 5 ++ todo.startDate.toList ++
    bytes 4 5 ++ todo.dueDate.toList ++
    bytes 4 5 ++ todo.completedDate.toList ++
    bytes 4 1 ++ [todo.progress] ++
    bytes 4 1 ++ [todo.priority] ++
    bytes 4 todo.descriptionLen.toNat ++ todo.description.target.take 4 ++
    bytes 4 todo.notesLen.toNat ++ todo.notes.target.take 4

theorem zdtmTodoWrite_readable (b : Build) {todo : TodoItem} (h : TodoReadable todo) :
    zdtmTodoWrite b todo = .ok (todoBytes b todo) := by
  simp only [zdtmTodoWrite, load_of_le h.category, load_of_le h.description, load_of_le h.notes,
    putLong_eq]
  rfl

theorem zdtmTodoWrite_ok {b : Build} {todo : TodoItem} {written : List UInt8}
    (h : zdtmTodoWrite b todo = .ok written) : TodoReadable todo ∧ written = todoBytes b todo := by
  have hr : TodoReadable todo := by
    constructor
    · by_contra hlt
      simp [zdtmTodoWrite, load_of_lt (not_le.mp hlt), bind, Except.bind] at h
    · by_contra hlt
      simp only [zdtmTodoWrite, load_of_lt (not_le.mp hlt), bind, Except.bind] at h
      split at h <;> cases h
    · by_contra hlt
      simp only [zdtmTodoWrite, load_of_lt (not_le.mp hlt), bind, Except.bind] at h
      split at h
      · cases h
      · split at h <;> cases h
  rw [zdtmTodoWrite_readable b hr] at h
  cases h
  exact ⟨hr, rfl⟩

@[simp] theorem length_todoCategoryLen (b : Build) (todo : TodoItem) :
    (todoCategoryLen b todo).length = 4 := by
  cases b <;> simp [todoCategoryLen]

theorem length_todoBytes (b : Build) {todo : TodoItem} (h : TodoReadable todo) :
    (todoBytes b todo).length = 57 + todo.categoryLen.toNat := by
  have hc := h.category
  have hd := h.description
  have hn := h.notes
  simp only [todoBytes, List.length_append, length_todoCategoryLen, length_bytes,
    List.Vector.toList_length, List.length_take, List.length_cons, List.length_nil]
  omega

end ZdtmCommon
