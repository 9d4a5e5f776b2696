import ZdtmSync.CMemory

/-!
# Structures filled member by member

The members of a C structure are fixed arrays of bytes, or a length with a
block of that length. A layout names all of them, and the laws it carries say
that writing one member is seen there and nowhere else. An assignment copies a
counted string into a member: over the start of an array, where it must fit, or
into a block of its own.
-/

namespace Records

open CMemory

inductive Kind where
  | array (size : Nat)
  | counted
  deriving DecidableEq

abbrev Kind.Value : Kind → Type
  | .array size => List.Vector UInt8 size
  | .counted => UInt32 × Ptr

/-- So many bytes fit into the member. -/
def Kind.Fits : Kind → Nat → Prop
  | .array size, n => n ≤ size
  | .counted, _ => True

instance (k : Kind) (n : Nat) : Decidable (k.Fits n) :=
  match k with
  | .array size => inferInstanceAs (Decidable (n ≤ size))
  | .counted => inferInstanceAs (Decidable True)

def Kind.IsArray : Kind → Prop
  | .array _ => True
  | .counted => False

/-- The bytes of an array; a string is not part of the structure itself. -/
def Kind.Value.bytes : {k : Kind} → k.Value → List UInt8
  | .array _, v => v.toList
  | .counted, _ => []

/-- So many bytes are all that the member holds. -/
def Kind.Exact : Kind → Nat → Prop
  | .array size, n => n = size
  | .counted, _ => True

instance (k : Kind) (n : Nat) : Decidable (k.Exact n) :=
  match k with
  | .array size => inferInstanceAs (Decidable (n = size))
  | .counted => inferInstanceAs (Decidable True)

theorem Kind.Exact.fits {k : Kind} {n : Nat} (h : k.Exact n) : k.Fits n := by
  cases k with
  | array size => exact Nat.le_of_eq h
  | counted => trivial

/-- How many bytes the member holds. -/
def Kind.Value.size : {k : Kind} → k.Value → Nat
  | .array size, _ => size
  | .counted, v => (Prod.fst v).toNat

/-- The bytes of an array, or the block of a string and its length. -/
def Kind.Value.Holds : {k : Kind} → k.Value → List UInt8 → Prop
  | .array _, v, data => v.toList = data
  | .counted, v, data => (Prod.fst v).toNat = data.length ∧ Prod.snd v = some data

theorem Kind.Value.Holds.unique {k : Kind} {v w : k.Value} {data : List UInt8}
    (hv : v.Holds data) (hw : w.Holds data) : v = w := by
  cases k with
  | array size => exact Subtype.ext (hv.trans hw.symm)
  | counted =>
    have hlen := hv.1.trans hw.1.symm
    exact Prod.ext (UInt32.toNat_inj.mp hlen) (hv.2.trans hw.2.symm)

/-- The members of a structure `I`, by their names. -/
structure Layout (I : Type) {F : Type} (kind : F → Kind) where
  get : (f : F) → I → (kind f).Value
  set : (f : F) → (kind f).Value → I → I
  get_set : ∀ f v i, get f (set f v i) = v
  get_set_of_ne : ∀ {f g} v i, g ≠ f → get g (set f v i) = get g i
  ext : ∀ {i j}, (∀ f, get f i = get f j) → i = j

theorem length_overwrite {size : Nat} {data : List UInt8} (h : data.length ≤ size)
    (old : List.Vector UInt8 size) :
    (data ++ old.toList.drop data.length).length = size := by
  rw [List.length_append, List.length_drop, old.toList_length, Nat.add_sub_cancel' h]

/-- `memcpy` of `n` bytes over the start of an array. -/
def copyInto {size : Nat} (old : List.Vector UInt8 size) (src : Ptr) (n : Nat) :
    Except Fault (List.Vector UInt8 size) := do
  let data ← load src n
  if h : data.length ≤ size then
    .ok ⟨data ++ old.toList.drop data.length, length_overwrite h old⟩
  else .error .overrun

/-- The new value of a member, and whether there was a block where one is needed. -/
def fillValue : (k : Kind) → k.Value → UInt32 → Ptr → Mem (Bool × k.Value)
  | .array _, old, n, src => do
    let new ← static (copyInto old src n.toNat)
    return (true, new)
  | .counted, _, n, src => do
    match ← malloc n.toNat with
    | none => return (false, (n, none))
    | some block =>
      let data ← static (load src n.toNat)
      let block ← static (store block data)
      return (true, (n, some block))

section Fill

variable {n : UInt32} {src : Ptr} (hsrc : n.toNat ≤ src.target.length)

include hsrc

theorem copyInto_fits {size : Nat} (old : List.Vector UInt8 size) (h : n.toNat ≤ size) :
    ∃ new, copyInto old src n.toNat = .ok new ∧
      new.toList = src.target.take n.toNat ++ old.toList.drop n.toNat := by
  have hlen : (src.target.take n.toNat).length = n.toNat := List.length_take_of_le hsrc
  have hle : (src.target.take n.toNat).length ≤ size := by omega
  refine ⟨⟨_, length_overwrite hle old⟩, ?_, ?_⟩
  · simp only [copyInto, load_of_le hsrc]
    exact dif_pos hle
  · change _ ++ old.toList.drop _ = _
    rw [hlen]

theorem copyInto_overrun {size : Nat} (old : List.Vector UInt8 size) (h : size < n.toNat) :
    copyInto old src n.toNat = .error .overrun := by
  have hlen : (src.target.take n.toNat).length = n.toNat := List.length_take_of_le hsrc
  simp only [copyInto, load_of_le hsrc]
  exact dif_neg (by omega)

/-- A string that fits is copied; whether there was a block depends on the heap alone. -/
theorem fillValue_fits (k : Kind) (h : k.Fits n.toNat) (heap : Heap) :
    ∃ granted heap', (heap.Unlimited → granted = true ∧ heap'.Unlimited) ∧ ∀ old : k.Value,
      ∃ new : k.Value, fillValue k old n src heap = .ok ((granted, new), heap') ∧
        (k.IsArray → new.bytes = src.target.take n.toNat ++ old.bytes.drop n.toNat) ∧
        (granted = true → k.Exact n.toNat → new.Holds (src.target.take n.toNat)) := by
  cases k with
  | array size =>
    refine ⟨true, heap, fun hu => ⟨rfl, hu⟩, ?_⟩
    intro old
    obtain ⟨new, hcopy, hbytes⟩ := copyInto_fits hsrc old h
    refine ⟨new, ?_, fun _ => hbytes, ?_⟩
    · simp only [fillValue, hcopy]
      rfl
    · intro _ hexact
      have hall : old.toList.drop n.toNat = [] := by simp [show n.toNat = size from hexact]
      change new.toList = _
      rw [hbytes, hall, List.append_nil]
  | counted =>
    cases hh : heap 0 with
    | none =>
      refine ⟨false, heap.next, fun hu => ?_, ?_⟩
      · obtain ⟨garbage, hsome⟩ := hu.exists_block
        rw [hh] at hsome
        cases hsome
      · intro old
        exact ⟨(n, none), bind_ok (malloc_none hh _), False.elim, nofun⟩
    | some garbage =>
      refine ⟨true, heap.next, fun hu => ⟨rfl, hu.next⟩, ?_⟩
      intro old
      have hstore : store ((List.range n.toNat).map garbage) (src.target.take n.toNat) =
          .ok (src.target.take n.toNat) :=
        store_exact (by rw [List.length_take_of_le hsrc, List.length_map, List.length_range])
      refine ⟨(n, some (src.target.take n.toNat)), ?_, False.elim,
        fun _ _ => ⟨(List.length_take_of_le hsrc).symm, rfl⟩⟩
      apply (bind_ok (malloc_some hh _)).trans
      simp only [load_of_le hsrc]
      apply (bind_ok (static_ok _ _)).trans
      simp only [hstore]
      rfl

/-- A string longer than its array runs over the end of it. -/
theorem fillValue_overrun (k : Kind) (h : ¬ k.Fits n.toNat) (old : k.Value) (heap : Heap) :
    fillValue k old n src heap = .error .overrun := by
  cases k with
  | array size =>
    simp only [fillValue, copyInto_overrun hsrc old (Nat.lt_of_not_le h)]
    rfl
  | counted => exact absurd trivial h

end Fill

theorem refills_fillValue (k : Kind) (old : k.Value) (n : UInt32) (src : Ptr) :
    Refills (fillValue k old n src) := by
  cases k with
  | array size => exact refills_bind (refills_static _) fun new => refills_pure _
  | counted =>
    apply refills_bind (refills_malloc _)
    intro p
    cases p with
    | none => exact refills_pure _
    | some block =>
      apply refills_bind (refills_static _)
      intro data
      exact refills_bind (refills_static _) fun block => refills_pure _

/-- A counted string for a member, and what is returned without a block for it. -/
structure Assignment (F : Type) where
  member : F
  nomem : Int
  size : UInt32
  data : Ptr

namespace Assignment

variable {F : Type}

/-- As many bytes can be read as the string counts. -/
def Readable (a : Assignment F) : Prop := a.size.toNat ≤ a.data.target.length

def bytes (a : Assignment F) : List UInt8 := a.data.target.take a.size.toNat

theorem Readable.length_bytes {a : Assignment F} (h : a.Readable) :
    a.bytes.length = a.size.toNat := List.length_take_of_le h

/-- The string is no longer than the array it is meant for. -/
def Fits (kind : F → Kind) (a : Assignment F) : Prop := (kind a.member).Fits a.size.toNat

instance (kind : F → Kind) (a : Assignment F) : Decidable (a.Fits kind) :=
  inferInstanceAs (Decidable ((kind a.member).Fits a.size.toNat))

/-- The string is as long as the array it is meant for. -/
def Exact (kind : F → Kind) (a : Assignment F) : Prop := (kind a.member).Exact a.size.toNat

end Assignment

variable {I F : Type} {kind : F → Kind}

namespace Layout

def assign (L : Layout I kind) (a : Assignment F) (item : I) : Mem (Int × I) := do
  let (granted, new) ← fillValue (kind a.member) (L.get a.member item) a.size a.data
  return (if granted then 0 else a.nomem, L.set a.member new item)

/-- One assignment after the other, until one of them fails. -/
def assignAll (L : Layout I kind) : List (Assignment F) → I → Mem (Int × I)
  | [], item => pure (0, item)
  | a :: rest, item => do
    let (code, item) ← L.assign a item
    if code ≠ 0 then return (code, item)
    L.assignAll rest item

end Layout

theorem refills_assignAll (L : Layout I kind) (as : List (Assignment F)) (item : I) :
    Refills (L.assignAll as item) := by
  induction as generalizing item with
  | nil => exact refills_pure _
  | cons a as ih =>
    have hassign : Refills (L.assign a item) :=
      refills_bind (refills_fillValue _ _ _ _) fun filled => refills_pure _
    apply refills_bind hassign
    intro r
    exact refills_ite (refills_pure _) (ih r.2)

section Assign

variable {a : Assignment F} (hread : a.Readable)

/-- An assignment changes its own member only. -/
theorem assign_frame (L : Layout I kind) {item item' : I} {heap heap' : Heap} {code : Int}
    (h : L.assign a item heap = .ok ((code, item'), heap')) {g : F} (hg : g ≠ a.member) :
    L.get g item' = L.get g item := by
  unfold Layout.assign at h
  cases hfill : fillValue (kind a.member) (L.get a.member item) a.size a.data heap with
  | error f =>
    rw [bind_error hfill] at h
    cases h
  | ok r =>
    rw [bind_ok hfill] at h
    cases h
    exact L.get_set_of_ne _ _ hg

include hread

/-- An assignment that fits is carried out alike in every layout of the structure. -/
theorem assign_fits (hfits : a.Fits kind) (heap : Heap) :
    ∃ code heap', (code = 0 ∨ code = a.nomem) ∧
      (heap.Unlimited → code = 0 ∧ heap'.Unlimited) ∧
      ∀ (L : Layout I kind) (item : I), ∃ item',
        L.assign a item heap = .ok ((code, item'), heap') ∧
        ((kind a.member).IsArray → (L.get a.member item').bytes =
          a.bytes ++ (L.get a.member item).bytes.drop a.bytes.length) ∧
        (heap.Unlimited → a.Exact kind → (L.get a.member item').Holds a.bytes) := by
  obtain ⟨granted, heap', hu, hfill⟩ := fillValue_fits hread (kind a.member) hfits heap
  refine ⟨if granted then 0 else a.nomem, heap', ?_, ?_, ?_⟩
  · cases granted with
    | true => exact Or.inl rfl
    | false => exact Or.inr rfl
  · intro hheap
    obtain ⟨rfl, hheap'⟩ := hu hheap
    exact ⟨rfl, hheap'⟩
  · intro L item
    obtain ⟨new, hrun, hbytes, hholds⟩ := hfill (L.get a.member item)
    refine ⟨L.set a.member new item, bind_ok hrun, ?_, ?_⟩
    · intro harray
      rw [L.get_set, hbytes harray, hread.length_bytes]
      rfl
    · intro hheap hexact
      rw [L.get_set]
      exact hholds (hu hheap).1 hexact

theorem assign_overrun (hfits : ¬ a.Fits kind) (L : Layout I kind) (item : I) (heap : Heap) :
    L.assign a item heap = .error .overrun := by
  unfold Layout.assign
  exact bind_error (fillValue_overrun hread _ hfits _ heap)

end Assign

/-- The run over one assignment more changes the member of that one only. -/
theorem assignAll_snoc_frame (L : Layout I kind) (as : List (Assignment F)) (a : Assignment F)
    {item item₁ item₂ : I} {heap heap₁ heap₂ : Heap} {code₁ code₂ : Int}
    (h₁ : L.assignAll as item heap = .ok ((code₁, item₁), heap₁))
    (h₂ : L.assignAll (as ++ [a]) item heap = .ok ((code₂, item₂), heap₂)) {g : F}
    (hg : g ≠ a.member) : L.get g item₂ = L.get g item₁ := by
  induction as generalizing item heap with
  | nil =>
    cases h₁
    change L.assignAll [a] item₁ heap₁ = _ at h₂
    cases hrun : L.assign a item₁ heap₁ with
    | error f =>
      rw [Layout.assignAll, bind_error hrun] at h₂
      cases h₂
    | ok r =>
      obtain ⟨⟨code, item'⟩, heap'⟩ := r
      rw [Layout.assignAll, bind_ok hrun] at h₂
      have hframe := assign_frame L hrun hg
      by_cases hcode : code = 0
      · simp only [ne_eq, hcode, not_true_eq_false, if_false] at h₂
        cases h₂
        exact hframe
      · simp only [ne_eq, hcode, not_false_eq_true, if_true] at h₂
        cases h₂
        exact hframe
  | cons c as ih =>
    rw [List.cons_append] at h₂
    cases hrun : L.assign c item heap with
    | error f =>
      rw [Layout.assignAll, bind_error hrun] at h₁
      cases h₁
    | ok r =>
      obtain ⟨⟨code, item'⟩, heap'⟩ := r
      rw [Layout.assignAll, bind_ok hrun] at h₁ h₂
      by_cases hcode : code = 0
      · simp only [ne_eq, hcode, not_true_eq_false, if_false] at h₁ h₂
        exact ih h₁ h₂
      · simp only [ne_eq, hcode, not_false_eq_true, if_true] at h₁ h₂
        cases h₁
        cases h₂
        rfl

/-- Strings copied one after the other over the start of an array. -/
def overlay (strings : List (List UInt8)) (old : List UInt8) : List UInt8 :=
  strings.foldl (fun m w => w ++ m.drop w.length) old

@[simp] theorem overlay_nil (old : List UInt8) : overlay [] old = old := rfl

@[simp] theorem overlay_cons (w : List UInt8) (strings : List (List UInt8)) (old : List UInt8) :
    overlay (w :: strings) old = overlay strings (w ++ old.drop w.length) := rfl

theorem overlay_over (strings : List (List UInt8)) (m old : List UInt8) :
    overlay strings (m ++ old.drop m.length) =
      overlay strings m ++ old.drop (overlay strings m).length := by
  induction strings generalizing m with
  | nil => rfl
  | cons w strings ih =>
    have hdrop : (m ++ old.drop m.length).drop w.length =
        m.drop w.length ++ old.drop (w ++ m.drop w.length).length := by
      rw [List.drop_append, List.drop_drop, List.length_append, List.length_drop]
      congr 2
      omega
    rw [overlay_cons, overlay_cons, hdrop, ← List.append_assoc]
    exact ih (w ++ m.drop w.length)

/-- What the strings leave of the old bytes are those behind the longest of them. -/
theorem overlay_eq (strings : List (List UInt8)) (old : List UInt8) :
    overlay strings old = overlay strings [] ++ old.drop (overlay strings []).length :=
  overlay_over strings [] old

theorem length_overlay_le {n : Nat} (strings : List (List UInt8))
    (h : ∀ w ∈ strings, w.length ≤ n) {old : List UInt8} (hold : old.length ≤ n) :
    (overlay strings old).length ≤ n := by
  induction strings generalizing old with
  | nil => exact hold
  | cons w strings ih =>
    have hw := h w List.mem_cons_self
    apply ih (fun v hv => h v (List.mem_cons_of_mem _ hv))
    rw [List.length_append, List.length_drop]
    omega

/-- Over every old array the overlay is the mirror image of the overlay over the
mirrored array exactly when it is empty, or covers the array and reads the same
in both directions. -/
theorem overlay_mirror_iff {n : Nat} {w : List UInt8} (hw : w.length ≤ n) :
    (∀ old : List UInt8, old.length = n →
      w ++ old.reverse.drop w.length = (w ++ old.drop w.length).reverse) ↔
      w = [] ∨ w.length = n ∧ w.reverse = w := by
  constructor
  · intro h
    cases w with
    | nil => exact Or.inl rfl
    | cons x rest =>
      right
      by_cases hlen : (x :: rest).length = n
      · refine ⟨hlen, ?_⟩
        have hold := h (x :: rest) hlen
        rw [List.drop_length, List.append_nil,
          List.drop_of_length_le (by rw [List.length_reverse]), List.append_nil] at hold
        exact hold.symm
      · -- behind a shorter overlay the last byte stays, and it need not be the first one
        have hlast := congrArg List.head? (h (List.replicate (n - 1) 0 ++ [x + 1])
          (by rw [List.length_append, List.length_replicate, List.length_singleton]
              rw [List.length_cons] at hw
              omega))
        have hle : (x :: rest).length ≤ (List.replicate (n - 1) (0 : UInt8)).length := by
          rw [List.length_replicate]
          omega
        rw [List.drop_append_of_le_length hle, ← List.append_assoc, List.reverse_append] at hlast
        simp at hlast
  · intro h old hold
    cases h with
    | inl hnil => simp [hnil]
    | inr hfull =>
      obtain ⟨hlen, hmirror⟩ := hfull
      rw [List.drop_of_length_le (by rw [List.length_reverse]; omega),
        List.drop_of_length_le (by omega), List.append_nil, hmirror]

section DecidableEq

variable [DecidableEq F]

/-- The strings meant for one member, in order. -/
def stringsFor (as : List (Assignment F)) (f : F) : List (List UInt8) :=
  (as.filter fun a => decide (a.member = f)).map Assignment.bytes

theorem stringsFor_cons_self (a : Assignment F) (as : List (Assignment F)) :
    stringsFor (a :: as) a.member = a.bytes :: stringsFor as a.member := by
  simp [stringsFor]

theorem stringsFor_cons_of_ne {a : Assignment F} {f : F} (h : f ≠ a.member)
    (as : List (Assignment F)) : stringsFor (a :: as) f = stringsFor as f := by
  simp [stringsFor, Ne.symm h]

theorem length_of_mem_stringsFor {as : List (Assignment F)} (hread : ∀ a ∈ as, a.Readable)
    (hfits : ∀ a ∈ as, a.Fits kind) {f : F} {n : Nat} (hf : kind f = .array n) :
    ∀ w ∈ stringsFor as f, w.length ≤ n := by
  intro w hw
  obtain ⟨a, ha, rfl⟩ := List.mem_map.mp hw
  obtain ⟨ha, hmem⟩ := List.mem_filter.mp ha
  have hfit := hfits a ha
  rw [Assignment.Fits, of_decide_eq_true hmem, hf] at hfit
  rw [(hread a ha).length_bytes]
  exact hfit

/-- Assignments that all fit are carried out alike in every layout, and an array
holds the overlay of the strings meant for it when they are all through. -/
theorem assignAll_fits (as : List (Assignment F)) (hread : ∀ a ∈ as, a.Readable)
    (hfits : ∀ a ∈ as, a.Fits kind) (heap : Heap) :
    ∃ code heap', (heap.Unlimited → code = 0) ∧ ∀ (L : Layout I kind) (item : I), ∃ item',
      L.assignAll as item heap = .ok ((code, item'), heap') ∧
        (code = 0 → ∀ f, (kind f).IsArray →
          (L.get f item').bytes = overlay (stringsFor as f) (L.get f item).bytes) := by
  induction as generalizing heap with
  | nil => exact ⟨0, heap, fun _ => rfl, fun L item => ⟨item, rfl, fun _ f _ => rfl⟩⟩
  | cons a as ih =>
    obtain ⟨code, heap₁, -, hu, hassign⟩ :=
      assign_fits (I := I) (hread a List.mem_cons_self) (hfits a List.mem_cons_self) heap
    by_cases hcode : code = 0
    · subst hcode
      obtain ⟨code, heap', hu', hrest⟩ := ih (fun b hb => hread b (List.mem_cons_of_mem _ hb))
        (fun b hb => hfits b (List.mem_cons_of_mem _ hb)) heap₁
      refine ⟨code, heap', fun hheap => hu' (hu hheap).2, ?_⟩
      intro L item
      obtain ⟨item₁, hrun₁, hbytes₁, -⟩ := hassign L item
      obtain ⟨item', hrun', hbytes'⟩ := hrest L item₁
      refine ⟨item', (bind_ok hrun₁).trans hrun', ?_⟩
      intro hzero f harray
      rw [hbytes' hzero f harray]
      by_cases hf : f = a.member
      · subst hf
        rw [stringsFor_cons_self, overlay_cons, hbytes₁ harray]
      · rw [stringsFor_cons_of_ne hf, assign_frame L hrun₁ hf]
    · refine ⟨code, heap₁, fun hheap => (hu hheap).1, ?_⟩
      intro L item
      obtain ⟨item₁, hrun₁, -⟩ := hassign L item
      refine ⟨item₁, ?_, fun hzero => absurd hzero hcode⟩
      apply (bind_ok hrun₁).trans
      simp only [ne_eq, hcode, not_false_eq_true, if_true]
      rfl

omit [DecidableEq F] in
/-- Over a heap that grants its blocks, a string that is too long ends the run. -/
theorem assignAll_overrun {as : List (Assignment F)} (hread : ∀ a ∈ as, a.Readable)
    (hlong : ∃ a ∈ as, ¬ a.Fits kind) (L : Layout I kind) (item : I) {heap : Heap}
    (hu : heap.Unlimited) : L.assignAll as item heap = .error .overrun := by
  induction as generalizing item heap with
  | nil =>
    obtain ⟨a, ha, -⟩ := hlong
    cases ha
  | cons a as ih =>
    have hread' : a.Readable := hread a List.mem_cons_self
    by_cases hfits : a.Fits kind
    · obtain ⟨code, heap', -, hheap, hassign⟩ := assign_fits (I := I) hread' hfits heap
      obtain ⟨rfl, hu'⟩ := hheap hu
      obtain ⟨item', hrun, -⟩ := hassign L item
      apply (bind_ok hrun).trans
      apply ih (fun b hb => hread b (List.mem_cons_of_mem _ hb)) _ item' hu'
      obtain ⟨c, hc, hno⟩ := hlong
      cases hc with
      | head => exact absurd hfits hno
      | tail _ hc => exact ⟨c, hc, hno⟩
    · exact bind_error (assign_overrun hread' hfits L item heap)

omit [DecidableEq F] in
/-- A run that faults came to a string that is too long. -/
theorem assignAll_faults {as : List (Assignment F)} (hread : ∀ a ∈ as, a.Readable)
    (L : Layout I kind) (item : I) {heap : Heap} {e : Fault}
    (h : L.assignAll as item heap = .error e) : e = .overrun ∧ ∃ a ∈ as, ¬ a.Fits kind := by
  induction as generalizing item heap with
  | nil => cases h
  | cons a as ih =>
    have hread' : a.Readable := hread a List.mem_cons_self
    by_cases hfits : a.Fits kind
    · obtain ⟨code, heap', -, -, hassign⟩ := assign_fits (I := I) hread' hfits heap
      obtain ⟨item', hrun, -⟩ := hassign L item
      rw [Layout.assignAll, bind_ok hrun] at h
      by_cases hcode : code = 0
      · simp only [ne_eq, hcode, not_true_eq_false, if_false] at h
        obtain ⟨he, c, hc, hlong⟩ := ih (fun c hc => hread c (List.mem_cons_of_mem _ hc)) item' h
        exact ⟨he, c, List.mem_cons_of_mem _ hc, hlong⟩
      · simp only [ne_eq, hcode, not_false_eq_true, if_true] at h
        cases h
    · rw [Layout.assignAll, bind_error (assign_overrun hread' hfits L item heap)] at h
      cases h
      exact ⟨rfl, a, List.mem_cons_self, hfits⟩

omit [DecidableEq F] in
/-- A run returns over every heap exactly when no string is too long. -/
theorem assignAll_returns_iff {as : List (Assignment F)} (hread : ∀ a ∈ as, a.Readable)
    (L : Layout I kind) (item : I) :
    (∀ heap, ∃ code item' heap', L.assignAll as item heap = .ok ((code, item'), heap')) ↔
      ∀ a ∈ as, a.Fits kind := by
  classical
  constructor
  · intro h
    by_contra hno
    simp only [not_forall] at hno
    obtain ⟨a, ha, hlong⟩ := hno
    obtain ⟨code, item', heap', hrun⟩ := h (Heap.filled 0)
    rw [assignAll_overrun hread ⟨a, ha, hlong⟩ L item (Heap.filled_unlimited 0)] at hrun
    cases hrun
  · intro hfits heap
    obtain ⟨code, heap', -, hrun⟩ := assignAll_fits (I := I) as hread hfits heap
    obtain ⟨item', hitem, -⟩ := hrun L item
    exact ⟨code, item', heap', hitem⟩

/-- Over a heap that grants its blocks, strings that are as long as their arrays are
all copied, and each member holds the last string meant for it. -/
theorem assignAll_last (as : List (Assignment F)) (hread : ∀ a ∈ as, a.Readable)
    (hexact : ∀ a ∈ as, a.Exact kind) {heap : Heap} (hu : heap.Unlimited) (L : Layout I kind)
    (item : I) : ∃ item' heap', L.assignAll as item heap = .ok ((0, item'), heap') ∧
      ∀ f, (∀ data, (stringsFor as f).getLast? = some data → (L.get f item').Holds data) ∧
        (stringsFor as f = [] → L.get f item' = L.get f item) := by
  induction as generalizing item heap with
  | nil => exact ⟨item, heap, rfl, fun f => ⟨by simp [stringsFor], fun _ => rfl⟩⟩
  | cons a as ih =>
    obtain ⟨ha, hrest⟩ := List.forall_mem_cons.mp hread
    obtain ⟨hexa, hexrest⟩ := List.forall_mem_cons.mp hexact
    obtain ⟨code, heap₁, -, hgrant, hassign⟩ := assign_fits (I := I) ha hexa.fits heap
    obtain ⟨rfl, hu₁⟩ := hgrant hu
    obtain ⟨item₁, hrun₁, -, hholds⟩ := hassign L item
    obtain ⟨item', heap', hrun', hlast⟩ := ih hrest hexrest hu₁ item₁
    refine ⟨item', heap', (bind_ok hrun₁).trans hrun', ?_⟩
    intro f
    by_cases hf : f = a.member
    · subst hf
      rw [stringsFor_cons_self]
      refine ⟨?_, by simp⟩
      intro data hdata
      cases hlater : stringsFor as a.member with
      | nil =>
        rw [hlater] at hdata
        cases hdata
        rw [(hlast a.member).2 hlater]
        exact hholds hu hexa
      | cons w ws =>
        apply (hlast a.member).1
        rw [hlater] at hdata ⊢
        simpa using hdata
    · rw [stringsFor_cons_of_ne hf]
      refine ⟨(hlast f).1, ?_⟩
      intro hnone
      rw [(hlast f).2 hnone]
      exact assign_frame L hrun₁ hf

end DecidableEq

end Records
