import ZdtmSync.Writers

/-!
# A to-do item read back from its bytes

A receiver reads an item as eight fields, each behind its 32-bit length. The
writer stores a length of four for the category, and four bytes of description
and notes, so it is understood exactly when all three lengths are four.
-/

namespace ZdtmTodoRecord

open LittleEndian ByteCodec CMemory ZdtmTypes ZdtmCommon ZdtmWriters

/-- Eight fields, each behind its 32-bit little-endian length, and nothing after them. -/
def readFields (bs : List UInt8) : Option (List (List UInt8)) :=
  match Decoder.times 8 Codec.blob32.decode bs with
  | some (fields, []) => some (fields.map fun field => field.2.toList)
  | _ => none

/-- The values an item carries: the strings up to their lengths, the dates and the bytes. -/
def todoFields (todo : TodoItem) : List (List UInt8) :=
  [todo.category.target.take todo.categoryLen.toNat,
    todo.startDate.toList, todo.dueDate.toList, todo.completedDate.toList,
    [todo.progress], [todo.priority],
    todo.description.target.take todo.descriptionLen.toNat,
    todo.notes.target.take todo.notesLen.toNat]

/-- The item is written, its fields are read back from the bytes, and no valid
item with other fields has the same bytes. -/
def SerialisesFaithfully (b : Build) (todo : TodoItem) : Prop :=
  ∃ written, zdtmTodoWrite b todo = .ok written ∧
    readFields written = some (todoFields todo) ∧
    ∀ other, TodoValid other → zdtmTodoWrite b other = .ok written →
      todoFields other = todoFields todo

def encodeField (field : List UInt8) : List UInt8 := bytes 4 field.length ++ field

theorem blob32_encode (field : Σ n : UInt32, List.Vector UInt8 n.toNat) :
    Codec.blob32.encode field = encodeField field.2.toList := by
  have hlen : field.2.toList.length = field.1.toNat := field.2.toList_length
  rw [encodeField, hlen]
  rfl

/-- What is read back is the layout of its fields. -/
theorem readFields_some {bs : List UInt8} {fields : List (List UInt8)}
    (h : readFields bs = some fields) : bs = fields.flatMap encodeField := by
  unfold readFields at h
  split at h
  · next as hrun =>
    obtain ⟨-, hbs⟩ := Codec.times_some Codec.blob32 hrun
    cases h
    rw [← hbs, List.append_nil, List.flatMap_map]
    congr 1
    funext field
    exact blob32_encode field
  · cases h

theorem exists_blobs (fields : List (List UInt8))
    (hsmall : ∀ field ∈ fields, field.length < 2 ^ 32) :
    ∃ blobs : List (Σ n : UInt32, List.Vector UInt8 n.toNat),
      blobs.map (fun blob => blob.2.toList) = fields := by
  induction fields with
  | nil => exact ⟨[], rfl⟩
  | cons field fields ih =>
    obtain ⟨blobs, hblobs⟩ := ih fun f hf => hsmall f (List.mem_cons_of_mem _ hf)
    have hlen : field.length = (UInt32.ofNat field.length).toNat :=
      (UInt32.toNat_ofNat_of_lt' (hsmall field List.mem_cons_self)).symm
    refine ⟨⟨UInt32.ofNat field.length, ⟨field, hlen⟩⟩ :: blobs, ?_⟩
    rw [List.map_cons, hblobs]
    rfl

/-- Eight fields are read back from their layout. -/
theorem readFields_encode {fields : List (List UInt8)} (h8 : fields.length = 8)
    (hsmall : ∀ field ∈ fields, field.length < 2 ^ 32) :
    readFields (fields.flatMap encodeField) = some fields := by
  obtain ⟨blobs, rfl⟩ := exists_blobs fields hsmall
  have henc : (blobs.map fun blob => blob.2.toList).flatMap encodeField =
      blobs.flatMap Codec.blob32.encode ++ [] := by
    rw [List.append_nil, List.flatMap_map]
    congr 1
    funext blob
    exact (blob32_encode blob).symm
  have hrun := Codec.times_encode Codec.blob32 blobs []
  rw [List.length_map] at h8
  rw [h8] at hrun
  rw [readFields, henc, hrun]

theorem length_todoFields_layout {todo : TodoItem} (hv : TodoValid todo) :
    ((todoFields todo).flatMap encodeField).length =
      49 + todo.categoryLen.toNat + todo.descriptionLen.toNat + todo.notesLen.toNat := by
  have hc := hv.category
  have hd := hv.description
  have hn := hv.notes
  simp only [todoFields, encodeField, List.flatMap_cons, List.flatMap_nil, List.length_append,
    length_bytes, List.Vector.toList_length, List.length_take, List.length_cons, List.length_nil]
  omega

/-- With three lengths of four the writer lays out exactly the fields. -/
theorem todoBytes_of_four {todo : TodoItem} (hv : TodoValid todo)
    (hc : todo.categoryLen = 4) (hd : todo.descriptionLen = 4) (hn : todo.notesLen = 4) :
    todoBytes .littleEndian todo = (todoFields todo).flatMap encodeField := by
  have hvc : 4 ≤ todo.category.target.length := by simpa [hc] using hv.category
  have hvd : 4 ≤ todo.description.target.length := by simpa [hd] using hv.description
  have hvn : 4 ≤ todo.notes.target.length := by simpa [hn] using hv.notes
  have hfour : (4 : UInt32).toNat = 4 := rfl
  simp [todoBytes, todoFields, encodeField, todoCategoryLen, hostLong, hc, hd, hn, hfour, hvc,
    hvd, hvn]

/-- The bytes of an item up to the length of the description. -/
def todoHead (b : Build) (todo : TodoItem) : List UInt8 :=
  todoCategoryLen b todo ++ todo.category.target.take todo.categoryLen.toNat ++
    bytes 4 5 ++ todo.startDate.toList ++
    bytes 4 5 ++ todo.dueDate.toList ++
    bytes 4 5 ++ todo.completedDate.toList ++
    bytes 4 1 ++ [todo.progress] ++
    bytes 4 1 ++ [todo.priority]

theorem todoBytes_split (b : Build) (todo : TodoItem) :
    todoBytes b todo = todoHead b todo ++ (bytes 4 todo.descriptionLen.toNat ++
      (todo.description.target.take 4 ++
        (bytes 4 todo.notesLen.toNat ++ todo.notes.target.take 4))) := by
  simp only [todoBytes, todoHead, List.append_assoc]

theorem length_todoHead (b : Build) {todo : TodoItem} (hr : TodoReadable todo) :
    (todoHead b todo).length = 41 + todo.categoryLen.toNat := by
  have hc := hr.category
  simp only [todoHead, List.length_append, length_todoCategoryLen, length_bytes,
    List.Vector.toList_length, List.length_take, List.length_cons, List.length_nil]
  omega

theorem bytes_four_inj {x y : UInt32} (h : bytes 4 x.toNat = bytes 4 y.toNat) : x = y :=
  UInt32.toNat_inj.mp (bytes_inj_of_lt x.toNat_lt y.toNat_lt h)

/-- Items of one category length with the same bytes have the same string lengths. -/
theorem lengths_of_todoBytes_eq {b : Build} {todo other : TodoItem} (hr : TodoReadable todo)
    (ho : TodoReadable other) (hc : other.categoryLen = todo.categoryLen)
    (h : todoBytes b other = todoBytes b todo) :
    other.descriptionLen = todo.descriptionLen ∧ other.notesLen = todo.notesLen := by
  have hd := hr.description
  have hdo := ho.description
  rw [todoBytes_split, todoBytes_split] at h
  have hhead : (todoHead b other).length = (todoHead b todo).length := by
    rw [length_todoHead b ho, length_todoHead b hr, hc]
  obtain ⟨-, h⟩ := List.append_inj h hhead
  obtain ⟨hdesc, h⟩ := List.append_inj h (by simp)
  obtain ⟨-, h⟩ := List.append_inj h (by simp; omega)
  obtain ⟨hnotes, -⟩ := List.append_inj h (by simp)
  exact ⟨bytes_four_inj hdesc, bytes_four_inj hnotes⟩

/-- Items with three lengths of four serialise faithfully. -/
theorem faithful_of_four {todo : TodoItem} (hv : TodoValid todo) (hc : todo.categoryLen = 4)
    (hd : todo.descriptionLen = 4) (hn : todo.notesLen = 4) :
    SerialisesFaithfully .littleEndian todo := by
  have hvd : 4 ≤ todo.description.target.length := by simpa [hd] using hv.description
  have hvn : 4 ≤ todo.notes.target.length := by simpa [hn] using hv.notes
  have hr : TodoReadable todo := ⟨hv.category, hvd, hvn⟩
  have hsmall : ∀ field ∈ todoFields todo, field.length < 2 ^ 32 := by
    simp [todoFields, hc, hd, hn]
  have hread : readFields ((todoFields todo).flatMap encodeField) = some (todoFields todo) :=
    readFields_encode rfl hsmall
  rw [← todoBytes_of_four hv hc hd hn] at hread
  refine ⟨_, zdtmTodoWrite_readable _ hr, hread, ?_⟩
  intro other hvo hwo
  obtain ⟨hro, hbytes⟩ := zdtmTodoWrite_ok hwo
  have hlen := congrArg List.length hbytes
  rw [length_todoBytes _ hr, length_todoBytes _ hro] at hlen
  have hco : other.categoryLen = todo.categoryLen := UInt32.toNat_inj.mp (by omega)
  obtain ⟨hdo, hno⟩ := lengths_of_todoBytes_eq hr hro hco hbytes.symm
  have hlayout := todoBytes_of_four hvo (hco.trans hc) (hdo.trans hd) (hno.trans hn)
  rw [hbytes, hlayout] at hread
  have hsmallo : ∀ field ∈ todoFields other, field.length < 2 ^ 32 := by
    simp [todoFields, hco, hdo, hno, hc, hd, hn]
  rw [readFields_encode rfl hsmallo] at hread
  exact Option.some.inj hread

/-- A length that only the first four bytes of a string bear on is at most four. -/
theorem le_four_of_take {s : List UInt8} {n : Nat} (hle : n ≤ s.length)
    (h : ∀ s' : List UInt8, s'.length = s.length → s'.take 4 = s.take 4 → s'.take n = s.take n) :
    n ≤ 4 := by
  by_contra hgt
  have hn : 4 < n := by omega
  have hlt : 4 < s.length := by omega
  have hsame := h (s.set 4 (s[4] + 1)) (by simp) (List.take_set_of_le (le_refl 4))
  have hget : (s.set 4 (s[4] + 1))[4]? = s[4]? := by
    rw [← List.getElem?_take_of_lt hn, hsame, List.getElem?_take_of_lt hn]
  simp [hlt] at hget

theorem faithful_fields {b : Build} {todo other : TodoItem} (h : SerialisesFaithfully b todo)
    (hv : TodoValid other) (hr : TodoReadable other) (hbytes : todoBytes b other = todoBytes b todo) :
    todoFields other = todoFields todo := by
  obtain ⟨written, hw, -, hinj⟩ := h
  obtain ⟨-, rfl⟩ := zdtmTodoWrite_ok hw
  exact hinj other hv (by rw [zdtmTodoWrite_readable b hr, hbytes])

theorem faithful_readable {b : Build} {todo : TodoItem} (h : SerialisesFaithfully b todo) :
    TodoReadable todo := by
  obtain ⟨written, hw, -⟩ := h
  exact (zdtmTodoWrite_ok hw).1

/-- A faithfully written item has a description of at most four bytes. -/
theorem description_le_four {b : Build} {todo : TodoItem} (hv : TodoValid todo)
    (h : SerialisesFaithfully b todo) : todo.descriptionLen.toNat ≤ 4 := by
  have hr := faithful_readable h
  apply le_four_of_take hv.description
  intro s hlen hfour
  have hvs : TodoValid { todo with description := some s } :=
    ⟨hv.category, hlen ▸ hv.description, hv.notes⟩
  have hrs : TodoReadable { todo with description := some s } :=
    ⟨hr.category, hlen ▸ hr.description, hr.notes⟩
  have hbytes : todoBytes b { todo with description := some s } = todoBytes b todo := by
    simp only [todoBytes, todoCategoryLen, Ptr.target_some, hfour]
  have hfields := faithful_fields h hvs hrs hbytes
  simpa [todoFields] using hfields

/-- And notes of at most four bytes. -/
theorem notes_le_four {b : Build} {todo : TodoItem} (hv : TodoValid todo)
    (h : SerialisesFaithfully b todo) : todo.notesLen.toNat ≤ 4 := by
  have hr := faithful_readable h
  apply le_four_of_take hv.notes
  intro s hlen hfour
  have hvs : TodoValid { todo with notes := some s } :=
    ⟨hv.category, hv.description, hlen ▸ hv.notes⟩
  have hrs : TodoReadable { todo with notes := some s } :=
    ⟨hr.category, hr.description, hlen ▸ hr.notes⟩
  have hbytes : todoBytes b { todo with notes := some s } = todoBytes b todo := by
    simp only [todoBytes, todoCategoryLen, Ptr.target_some, hfour]
  have hfields := faithful_fields h hvs hrs hbytes
  simpa [todoFields] using hfields

/-- On a little-endian host exactly the items with three lengths of four are
written so that they can be read back. -/
theorem serialises_faithfully_iff (todo : TodoItem) (hv : TodoValid todo) :
    SerialisesFaithfully .littleEndian todo ↔
      todo.categoryLen = 4 ∧ todo.descriptionLen = 4 ∧ todo.notesLen = 4 := by
  constructor
  · intro h
    have hd := description_le_four hv h
    have hn := notes_le_four hv h
    obtain ⟨written, hw, hread, -⟩ := h
    obtain ⟨hr, rfl⟩ := zdtmTodoWrite_ok hw
    have hlayout := readFields_some hread
    have hlen := congrArg List.length hlayout
    rw [length_todoBytes _ hr, length_todoFields_layout hv] at hlen
    have hdlen : todo.descriptionLen = 4 := UInt32.toNat_inj.mp (by simp; omega)
    have hnlen : todo.notesLen = 4 := UInt32.toNat_inj.mp (by simp; omega)
    refine ⟨?_, hdlen, hnlen⟩
    have hcat : (todo.category.target.take todo.categoryLen.toNat).length =
        todo.categoryLen.toNat := List.length_take_of_le hv.category
    have hfirst : bytes 4 (4 : UInt32).toNat = bytes 4 todo.categoryLen.toNat := by
      have htake := congrArg (List.take 4) hlayout
      simpa [todoBytes, todoCategoryLen, hostLong, todoFields, encodeField, hcat] using htake
    exact (bytes_four_inj hfirst).symm
  · rintro ⟨hc, hd, hn⟩
    exact faithful_of_four hv hc hd hn

theorem serialises_faithfully_crud :
    SerialisesFaithfully .littleEndian crudItem ↔
      crudItem.categoryLen = 4 ∧ crudItem.descriptionLen = 4 ∧ crudItem.notesLen = 4 :=
  serialises_faithfully_iff crudItem crudItem_valid

/-- The bytes of the test's item do not read back as its fields. -/
theorem crud_not_read_back :
    TodoValid crudItem ∧ ∃ written, zdtmTodoWrite .littleEndian crudItem = .ok written ∧
      readFields written ≠ some (todoFields crudItem) := by
  have hr : TodoReadable crudItem := by constructor <;> decide
  refine ⟨crudItem_valid, _, zdtmTodoWrite_readable _ hr, ?_⟩
  intro h
  have hlen := congrArg List.length (readFields_some h)
  revert hlen
  decide

end ZdtmTodoRecord
