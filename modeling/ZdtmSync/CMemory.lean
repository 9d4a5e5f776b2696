import Mathlib.Data.Vector.Basic
import ZdtmSync.ByteCodec

/-!
# Memory of a C program as seen by one function

Objects are lists of bytes and a pointer is the list of bytes that can be read
from it. Reading past the end of an object and writing past the end of a block
are faults that end the run: nothing is said about what the machine does then.
Allocation asks an arbitrary heap, which either fails or hands out a block that
still holds arbitrary bytes.

A scan walks a cursor through a buffer, as a parser of raw contents does. It
refines a decoder when it finds the decoder's value, leaves the buffer only
where the decoder rejects it, and fails only when the heap refuses a block.
-/

namespace CMemory

open ByteCodec

variable {α β : Type}

/-- A read or a write past an end, or the use of a stream or a block that is gone. -/
inductive Fault where
  | overread
  | overrun
  | dangling
  deriving DecidableEq, Repr

/-- What one call of the allocator does: fail, or hand out a block whose bytes
are whatever the heap holds there. -/
abbrev Alloc := Option (Nat → UInt8)

/-- The outcomes of all allocations to come. -/
abbrev Heap := Nat → Alloc

def Heap.next (heap : Heap) : Heap := fun i => heap (i + 1)

/-- A heap that never refuses a block. -/
def Heap.Unlimited (heap : Heap) : Prop := ∀ i, (heap i).isSome

theorem Heap.Unlimited.next {heap : Heap} (h : heap.Unlimited) : heap.next.Unlimited :=
  fun i => h (i + 1)

theorem Heap.Unlimited.exists_block {heap : Heap} (h : heap.Unlimited) :
    ∃ garbage, heap 0 = some garbage := Option.isSome_iff_exists.mp (h 0)

/-- A heap that never refuses a block and fills every block with one byte. -/
def Heap.filled (b : UInt8) : Heap := fun _ => some fun _ => b

theorem Heap.filled_unlimited (b : UInt8) : (Heap.filled b).Unlimited := fun _ => rfl

/-- NULL, or the bytes from the address on. -/
abbrev Ptr := Option (List UInt8)

def Ptr.target (p : Ptr) : List UInt8 := p.getD []

@[simp] theorem Ptr.target_some (bs : List UInt8) : Ptr.target (some bs) = bs := rfl
@[simp] theorem Ptr.target_none : Ptr.target none = [] := rfl

/-- The `n` bytes from a pointer on. -/
def load (p : Ptr) (n : Nat) : Except Fault (List UInt8) :=
  if n ≤ p.target.length then .ok (p.target.take n) else .error .overread

/-- Fill a block from its start; what is not written keeps its bytes. -/
def store (block written : List UInt8) : Except Fault (List UInt8) :=
  if written.length ≤ block.length then .ok (written ++ block.drop written.length)
  else .error .overrun

theorem load_of_le {p : Ptr} {n : Nat} (h : n ≤ p.target.length) :
    load p n = .ok (p.target.take n) := if_pos h

theorem load_of_lt {p : Ptr} {n : Nat} (h : p.target.length < n) :
    load p n = .error .overread := if_neg (by omega)

theorem store_of_le {block written : List UInt8} (h : written.length ≤ block.length) :
    store block written = .ok (written ++ block.drop written.length) := if_pos h

theorem store_of_lt {block written : List UInt8} (h : block.length < written.length) :
    store block written = .error .overrun := if_neg (by omega)

/-- A whole block is replaced when exactly its length is written. -/
theorem store_exact {block written : List UInt8} (h : written.length = block.length) :
    store block written = .ok written := by
  rw [store_of_le (by omega), h, List.drop_length, List.append_nil]

/-- A computation that allocates, reads and writes, or faults. -/
abbrev Mem := StateT Heap (Except Fault)

def malloc (n : Nat) : Mem Ptr := fun heap =>
  .ok ((heap 0).map fun garbage => (List.range n).map garbage, heap.next)

/-- A computation that does not allocate. -/
def static (x : Except Fault α) : Mem α := fun heap =>
  match x with
  | .ok a => .ok (a, heap)
  | .error f => .error f

theorem malloc_none {heap : Heap} (h : heap 0 = none) (n : Nat) :
    malloc n heap = .ok (none, heap.next) := by
  simp [malloc, h]

theorem malloc_some {heap : Heap} {garbage : Nat → UInt8} (h : heap 0 = some garbage) (n : Nat) :
    malloc n heap = .ok (some ((List.range n).map garbage), heap.next) := by
  simp [malloc, h]

@[simp] theorem static_ok (a : α) (heap : Heap) :
    static (.ok a : Except Fault α) heap = .ok (a, heap) := rfl
@[simp] theorem static_error (f : Fault) (heap : Heap) :
    static (.error f : Except Fault α) heap = .error f := rfl

@[simp] theorem pure_run (a : α) (heap : Heap) : (pure a : Mem α) heap = .ok (a, heap) := rfl

theorem bind_run (x : Mem α) (f : α → Mem β) (heap : Heap) :
    (x >>= f) heap = (x heap).bind fun r => f r.1 r.2 := rfl

theorem bind_ok {x : Mem α} {f : α → Mem β} {heap heap' : Heap} {a : α}
    (h : x heap = .ok (a, heap')) : (x >>= f) heap = f a heap' := by
  rw [bind_run, h]
  rfl

theorem bind_error {x : Mem α} {f : α → Mem β} {heap : Heap} {e : Fault}
    (h : x heap = .error e) : (x >>= f) heap = .error e := by
  rw [bind_run, h]
  rfl

/-- No run ends in the fault. -/
def Avoids {σ : Type} (e : Fault) (x : StateT σ (Except Fault) α) : Prop := ∀ s, x s ≠ .error e

section Avoids

variable {σ : Type} {e : Fault}

theorem avoids_pure (a : α) : Avoids e (pure a : StateT σ (Except Fault) α) := by
  intro s h
  cases h

theorem avoids_bind {x : StateT σ (Except Fault) α} {f : α → StateT σ (Except Fault) β}
    (hx : Avoids e x) (hf : ∀ a, Avoids e (f a)) : Avoids e (x >>= f) := by
  intro s h
  have hbind : (x >>= f) s = (x s).bind fun r => f r.1 r.2 := rfl
  rw [hbind] at h
  cases hrun : x s with
  | error e' =>
    rw [hrun] at h
    cases h
    exact hx s hrun
  | ok r =>
    rw [hrun] at h
    exact hf r.1 r.2 h

theorem avoids_ite {c : Prop} [Decidable c] {x y : StateT σ (Except Fault) α} (hx : Avoids e x)
    (hy : Avoids e y) : Avoids e (if c then x else y) := by
  split
  · exact hx
  · exact hy

theorem avoids_malloc (n : Nat) : Avoids e (malloc n) := by
  intro heap h
  cases h

theorem avoids_static {x : Except Fault α} (hx : x ≠ .error e) : Avoids e (static x) := by
  intro heap h
  cases x with
  | ok a => cases h
  | error e' =>
    cases h
    exact hx rfl

theorem load_reads (he : e ≠ .overread) (p : Ptr) (n : Nat) : load p n ≠ .error e := by
  unfold load
  split
  · nofun
  · intro h
    cases h
    exact he rfl

end Avoids

/-- A heap that never refuses a block is left as one. -/
def Refills (x : Mem α) : Prop :=
  ∀ heap a heap', heap.Unlimited → x heap = .ok (a, heap') → heap'.Unlimited

theorem refills_pure (a : α) : Refills (pure a : Mem α) := by
  intro heap a' heap' hu h
  cases h
  exact hu

theorem refills_bind {x : Mem α} {f : α → Mem β} (hx : Refills x) (hf : ∀ a, Refills (f a)) :
    Refills (x >>= f) := by
  intro heap c heap' hu h
  cases hrun : x heap with
  | error e =>
    rw [bind_error hrun] at h
    cases h
  | ok r =>
    rw [bind_ok hrun] at h
    exact hf r.1 r.2 c heap' (hx heap r.1 r.2 hu hrun) h

theorem refills_ite {c : Prop} [Decidable c] {x y : Mem α} (hx : Refills x) (hy : Refills y) :
    Refills (if c then x else y) := by
  split
  · exact hx
  · exact hy

theorem refills_malloc (n : Nat) : Refills (malloc n) := by
  intro heap p heap' hu h
  cases h
  exact hu.next

theorem refills_static (x : Except Fault α) : Refills (static x) := by
  intro heap a heap' hu h
  cases x with
  | ok c =>
    cases h
    exact hu
  | error e => cases h

/-- A scan stops with a value, with a failure code of the C function, or by a fault. -/
inductive Outcome (α : Type) where
  | done (a : α) (rest : List UInt8) (heap : Heap) : Outcome α
  | failed (code : Int) (heap : Heap) : Outcome α
  | fault (f : Fault) : Outcome α

/-- A cursor moving through a buffer while blocks are allocated. -/
def Scan (α : Type) := List UInt8 → Heap → Outcome α

namespace Scan

instance : Monad Scan where
  pure a := fun buf heap => .done a buf heap
  bind s f := fun buf heap =>
    match s buf heap with
    | .done a rest heap' => f a rest heap'
    | .failed code heap' => .failed code heap'
    | .fault e => .fault e

/-- Copy `n` bytes out of the buffer and move the cursor behind them. -/
def raw (n : Nat) : Scan (List.Vector UInt8 n) := fun buf heap =>
  if h : n ≤ buf.length then .done ⟨buf.take n, List.length_take_of_le h⟩ (buf.drop n) heap
  else .fault .overread

/-- Allocate a block that is then filled from the buffer; `code` is returned without one. -/
def alloc (n : Nat) (code : Int) : Scan Unit := fun buf heap =>
  match malloc n heap with
  | .ok (some _, heap') => .done () buf heap'
  | .ok (none, heap') => .failed code heap'
  | .error f => .fault f

/-- The body of a counted loop, run `n` times. -/
def times : Nat → Scan α → Scan (List α)
  | 0, _ => pure []
  | n + 1, s => do
    let a ← s
    let as ← times n s
    return a :: as

/-- Run a scan over what a pointer points to. -/
def run (s : Scan α) (p : Ptr) : Mem (Except Int α) := fun heap =>
  match s p.target heap with
  | .done a _ heap' => .ok (.ok a, heap')
  | .failed code heap' => .ok (.error code, heap')
  | .fault f => .error f

/-- The scan never ends in the fault. -/
def Avoids (e : Fault) (s : Scan α) : Prop := ∀ buf heap, s buf heap ≠ .fault e

theorem avoids_pure {e : Fault} (a : α) : Avoids e (pure a : Scan α) := by
  intro buf heap h
  cases h

theorem avoids_raw {e : Fault} (he : e ≠ .overread) (n : Nat) : Avoids e (raw n) := by
  intro buf heap h
  unfold raw at h
  split at h
  · cases h
  · cases h
    exact he rfl

theorem avoids_alloc {e : Fault} (n : Nat) (code : Int) : Avoids e (alloc n code) := by
  intro buf heap h
  cases hh : heap 0 with
  | none => simp [alloc, malloc_none hh] at h
  | some garbage => simp [alloc, malloc_some hh] at h

theorem avoids_bind {e : Fault} {s : Scan α} {f : α → Scan β} (hs : Avoids e s)
    (hf : ∀ a, Avoids e (f a)) : Avoids e (s >>= f) := by
  intro buf heap h
  cases hrun : s buf heap with
  | done a rest heap' =>
    simp only [Bind.bind, hrun] at h
    exact hf a rest heap' h
  | failed code heap' =>
    simp only [Bind.bind, hrun] at h
    cases h
  | fault e' =>
    simp only [Bind.bind, hrun] at h
    cases h
    exact hs buf heap hrun

theorem avoids_times {e : Fault} {s : Scan α} (hs : Avoids e s) (n : Nat) :
    Avoids e (times n s) := by
  induction n with
  | zero => exact avoids_pure []
  | succ n ih => exact avoids_bind hs fun a => avoids_bind ih fun as => avoids_pure (a :: as)

theorem Avoids.run {e : Fault} {s : Scan α} (hs : Avoids e s) (p : Ptr) :
    CMemory.Avoids e (s.run p) := by
  intro heap h
  cases hrun : s p.target heap with
  | done a rest heap' => simp [Scan.run, hrun] at h
  | failed code heap' => simp [Scan.run, hrun] at h
  | fault e' =>
    simp only [Scan.run, hrun, Except.error.injEq] at h
    subst h
    exact hs p.target heap hrun

/-- The scan computes the decoder's value, faults only where the decoder rejects
the buffer, and fails only with a nonzero code after a refused allocation. -/
structure Refines (s : Scan α) (d : Decoder α) : Prop where
  done : ∀ {buf heap a rest heap'}, s buf heap = .done a rest heap' →
    d buf = some (a, rest) ∧ (heap.Unlimited → heap'.Unlimited)
  failed : ∀ {buf heap code heap'}, s buf heap = .failed code heap' →
    code ≠ 0 ∧ ¬ heap.Unlimited
  fault : ∀ {buf heap f}, s buf heap = .fault f → d buf = none

theorem refines_pure (a : α) : Refines (pure a) (pure a) where
  done h := by cases h; exact ⟨rfl, id⟩
  failed h := by cases h
  fault h := by cases h

theorem bind_done {s : Scan α} {f : α → Scan β} {buf rest : List UInt8} {heap heap' : Heap} {a : α}
    (h : s buf heap = .done a rest heap') : (s >>= f) buf heap = f a rest heap' := by
  simp only [Bind.bind, h]

theorem bind_failed {s : Scan α} {f : α → Scan β} {buf : List UInt8} {heap heap' : Heap}
    {code : Int} (h : s buf heap = .failed code heap') :
    (s >>= f) buf heap = .failed code heap' := by
  simp only [Bind.bind, h]

theorem bind_fault {s : Scan α} {f : α → Scan β} {buf : List UInt8} {heap : Heap} {e : Fault}
    (h : s buf heap = .fault e) : (s >>= f) buf heap = .fault e := by
  simp only [Bind.bind, h]

theorem refines_bind {s : Scan α} {d : Decoder α} {f : α → Scan β} {g : α → Decoder β}
    (hs : Refines s d) (hf : ∀ a, Refines (f a) (g a)) : Refines (s >>= f) (d >>= g) where
  done {buf heap b rest heap'} h := by
    cases hrun : s buf heap with
    | done a mid heap₁ =>
      rw [bind_done hrun] at h
      obtain ⟨hd, hu⟩ := hs.done hrun
      obtain ⟨hg, hu'⟩ := (hf a).done h
      exact ⟨(Decoder.bind_append hd).trans hg, fun hh => hu' (hu hh)⟩
    | failed code heap₁ => rw [bind_failed hrun] at h; cases h
    | fault e => rw [bind_fault hrun] at h; cases h
  failed {buf heap code heap'} h := by
    cases hrun : s buf heap with
    | done a mid heap₁ =>
      rw [bind_done hrun] at h
      obtain ⟨hcode, hno⟩ := (hf a).failed h
      exact ⟨hcode, fun hh => hno ((hs.done hrun).2 hh)⟩
    | failed code heap₁ =>
      rw [bind_failed hrun] at h
      cases h
      exact hs.failed hrun
    | fault e => rw [bind_fault hrun] at h; cases h
  fault {buf heap e} h := by
    cases hrun : s buf heap with
    | done a mid heap₁ =>
      rw [bind_done hrun] at h
      rw [Decoder.bind_append (hs.done hrun).1]
      exact (hf a).fault h
    | failed code heap₁ => rw [bind_failed hrun] at h; cases h
    | fault e' =>
      rw [Decoder.bind_run, hs.fault hrun]
      rfl

theorem refines_raw (n : Nat) : Refines (raw n) (Decoder.raw n) where
  done {buf heap a rest heap'} h := by
    unfold raw at h
    split at h
    · next hle => cases h; exact ⟨Decoder.raw_run hle, id⟩
    · cases h
  failed {buf heap code heap'} h := by unfold raw at h; split at h <;> cases h
  fault {buf heap f} h := by
    unfold raw at h
    split at h
    · cases h
    · next hle => exact dif_neg hle

theorem alloc_none {heap : Heap} (h : heap 0 = none) (n : Nat) (code : Int) (buf : List UInt8) :
    alloc n code buf heap = .failed code heap.next := by
  simp only [alloc, malloc_none h]

theorem alloc_some {heap : Heap} {garbage : Nat → UInt8} (h : heap 0 = some garbage) (n : Nat)
    (code : Int) (buf : List UInt8) : alloc n code buf heap = .done () buf heap.next := by
  simp only [alloc, malloc_some h]

/-- Allocation is invisible to the decoder. -/
theorem refines_alloc (n : Nat) {code : Int} (hcode : code ≠ 0) : Refines (alloc n code) (pure ()) where
  done {buf heap a rest heap'} h := by
    cases hh : heap 0 with
    | none => rw [alloc_none hh] at h; cases h
    | some garbage =>
      rw [alloc_some hh] at h
      cases h
      exact ⟨rfl, Heap.Unlimited.next⟩
  failed {buf heap c heap'} h := by
    cases hh : heap 0 with
    | none =>
      rw [alloc_none hh] at h
      cases h
      exact ⟨hcode, fun hu => by simpa [hh] using hu 0⟩
    | some garbage => rw [alloc_some hh] at h; cases h
  fault {buf heap e} h := by
    cases hh : heap 0 with
    | none => rw [alloc_none hh] at h; cases h
    | some garbage => rw [alloc_some hh] at h; cases h

theorem refines_alloc_bind (n : Nat) {code : Int} (hcode : code ≠ 0) {s : Scan α} {d : Decoder α}
    (hs : Refines s d) : Refines (alloc n code >>= fun _ => s) d := by
  simpa only [pure_bind] using refines_bind (refines_alloc n hcode) fun _ => hs

theorem refines_times {s : Scan α} {d : Decoder α} (hs : Refines s d) (n : Nat) :
    Refines (times n s) (Decoder.times n d) := by
  induction n with
  | zero => exact refines_pure []
  | succ n ih =>
    exact refines_bind hs fun a => refines_bind ih fun as => refines_pure (a :: as)

/-- With enough memory a scan of an accepted buffer delivers the decoder's value. -/
theorem Refines.run_some {s : Scan α} {d : Decoder α} (hs : Refines s d) {p : Ptr} {heap : Heap}
    {a : α} {rest : List UInt8} (hd : d p.target = some (a, rest)) (hu : heap.Unlimited) :
    ∃ heap', s.run p heap = .ok (.ok a, heap') ∧ heap'.Unlimited := by
  cases hrun : s p.target heap with
  | done b rest' heap' =>
    obtain ⟨hb, hu'⟩ := hs.done hrun
    have he := hb.symm.trans hd
    cases he
    exact ⟨heap', by simp [run, hrun], hu' hu⟩
  | failed code heap' => exact absurd hu (hs.failed hrun).2
  | fault f => rw [hs.fault hrun] at hd; cases hd

/-- With enough memory a scan of a buffer that the decoder rejects faults. -/
theorem Refines.run_none {s : Scan α} {d : Decoder α} (hs : Refines s d) {p : Ptr} {heap : Heap}
    (hd : d p.target = none) (hu : heap.Unlimited) : ∃ f, s.run p heap = .error f := by
  cases hrun : s p.target heap with
  | done a rest heap' => rw [(hs.done hrun).1] at hd; cases hd
  | failed code heap' => exact absurd hu (hs.failed hrun).2
  | fault f => exact ⟨f, by simp [run, hrun]⟩

/-- A scan stays inside its buffer, whatever the heap does, exactly when the
decoder accepts the buffer. -/
theorem Refines.run_inBounds_iff {s : Scan α} {d : Decoder α} (hs : Refines s d) (p : Ptr) :
    (∀ heap f, s.run p heap ≠ .error f) ↔ (d p.target).isSome := by
  constructor
  · intro h
    cases hrun : s p.target (Heap.filled 0) with
    | done a rest heap' => rw [(hs.done hrun).1]; rfl
    | failed code heap' => exact absurd (Heap.filled_unlimited 0) (hs.failed hrun).2
    | fault f => exact absurd (by simp [run, hrun]) (h (Heap.filled 0) f)
  · intro h heap f hf
    cases hrun : s p.target heap with
    | done a rest heap' => simp [run, hrun] at hf
    | failed code heap' => simp [run, hrun] at hf
    | fault e => rw [hs.fault hrun] at h; cases h

end Scan

end CMemory
