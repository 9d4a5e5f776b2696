import Mathlib.Data.List.Basic

/-!
# Streams cut into chunks

A reader asks for elements of a stream and gets them in nonempty chunks whose
sizes the other side chooses; a writer offers elements and the other side takes
them in pieces. Everything here is about arbitrary elements: what a loop that
reads exactly `need` elements obtains depends only on the elements the stream
still holds, never on the cuts.
-/

namespace Chunked

variable {α : Type}

/-- One return of a blocking read. A stream without events is closed. -/
inductive Event (α : Type) where
  | data (chunk : List α) (nonempty : chunk ≠ []) : Event α
  | error : Event α
  deriving DecidableEq

/-- Why a read returns no element. -/
inductive Stop where
  | closed
  | error
  deriving DecidableEq, Repr

/-- The elements that can still be read before the stream ends or fails. -/
def available : List (Event α) → List α
  | [] => []
  | .error :: _ => []
  | .data chunk _ :: es => chunk ++ available es

/-- How the stream ends once these elements are read. -/
def ending : List (Event α) → Stop
  | [] => .closed
  | .error :: _ => .error
  | .data _ _ :: es => ending es

@[simp] theorem available_nil : available ([] : List (Event α)) = [] := rfl
@[simp] theorem available_error (es : List (Event α)) : available (.error :: es) = [] := rfl
@[simp] theorem available_data (chunk : List α) (h : chunk ≠ []) (es : List (Event α)) :
    available (.data chunk h :: es) = chunk ++ available es := rfl
@[simp] theorem ending_nil : ending ([] : List (Event α)) = .closed := rfl
@[simp] theorem ending_error (es : List (Event α)) : ending (.error :: es) = .error := rfl
@[simp] theorem ending_data (chunk : List α) (h : chunk ≠ []) (es : List (Event α)) :
    ending (.data chunk h :: es) = ending es := rfl

theorem drop_ne_nil_of_not_le {chunk : List α} {n : Nat} (h : ¬ chunk.length ≤ n) :
    chunk.drop n ≠ [] := by
  intro hd
  exact h (List.drop_eq_nil_iff.mp hd)

/-- One read of at most `n` elements; what a chunk holds beyond that stays. -/
def read (n : Nat) : List (Event α) → Except Stop (List α) × List (Event α)
  | [] => (.error .closed, [])
  | .error :: es => (.error .error, es)
  | .data chunk _ :: es =>
    if h : chunk.length ≤ n then (.ok chunk, es)
    else (.ok (chunk.take n), .data (chunk.drop n) (drop_ne_nil_of_not_le h) :: es)

/-- Read until `need` elements have been obtained, or the stream stops. -/
def readExact : Nat → List (Event α) → (List α × Option Stop) × List (Event α)
  | need, [] => (([], if need = 0 then none else some .closed), [])
  | need, .error :: es =>
    if need = 0 then (([], none), .error :: es) else (([], some .error), es)
  | need, .data chunk nonempty :: es =>
    if need = 0 then (([], none), .data chunk nonempty :: es)
    else if h : chunk.length ≤ need then
      let r := readExact (need - chunk.length) es
      ((chunk ++ r.1.1, r.1.2), r.2)
    else ((chunk.take need, none), .data (chunk.drop need) (drop_ne_nil_of_not_le h) :: es)

@[simp] theorem readExact_zero (es : List (Event α)) : readExact 0 es = (([], none), es) := by
  match es with
  | [] => rfl
  | .error :: _ => rfl
  | .data _ _ :: _ => rfl

/-- The loop equation: one read, then the loop again for what is missing. -/
theorem readExact_step (need : Nat) (h : 0 < need) (es : List (Event α)) :
    readExact need es =
      match read need es with
      | (.error stop, es') => (([], some stop), es')
      | (.ok chunk, es') =>
        ((chunk ++ (readExact (need - chunk.length) es').1.1,
          (readExact (need - chunk.length) es').1.2),
          (readExact (need - chunk.length) es').2) := by
  have hne : need ≠ 0 := by omega
  match es with
  | [] => simp [readExact, read, hne]
  | .error :: es => simp [readExact, read, hne]
  | .data chunk nonempty :: es =>
    by_cases hle : chunk.length ≤ need
    · simp [readExact, read, hne, hle]
    · have hlen : (chunk.take need).length = need := by
        rw [List.length_take]
        omega
      simp [readExact, read, hne, hle, hlen]

/-- A stream that holds enough elements gives exactly the first `need` of them
and keeps the rest, however it is cut. -/
theorem readExact_enough (need : Nat) (es : List (Event α))
    (h : need ≤ (available es).length) :
    (readExact need es).1 = ((available es).take need, none) ∧
      available (readExact need es).2 = (available es).drop need ∧
      ending (readExact need es).2 = ending es := by
  induction es generalizing need with
  | nil =>
    have hz : need = 0 := by simpa using h
    subst hz
    simp
  | cons e es ih =>
    cases e with
    | error =>
      have hz : need = 0 := by simpa using h
      subst hz
      simp
    | data chunk nonempty =>
      by_cases hz : need = 0
      · subst hz
        simp
      · by_cases hle : chunk.length ≤ need
        · have hrest : need - chunk.length ≤ (available es).length := by
            simp only [available_data, List.length_append] at h
            omega
          obtain ⟨hgot, havail, hend⟩ := ih _ hrest
          simp only [readExact, if_neg hz, dif_pos hle, hgot, havail, hend, available_data,
            ending_data]
          refine ⟨?_, ?_, trivial⟩
          · rw [List.take_append, List.take_of_length_le hle]
          · rw [List.drop_append, List.drop_eq_nil_of_le hle, List.nil_append]
        · have hsub : need - chunk.length = 0 := by omega
          simp [readExact, hz, hle, List.take_append, List.drop_append, hsub]

/-- A stream that runs out gives all it has and says why it stopped. -/
theorem readExact_short (need : Nat) (es : List (Event α))
    (h : (available es).length < need) :
    (readExact need es).1 = (available es, some (ending es)) := by
  induction es generalizing need with
  | nil =>
    have hz : need ≠ 0 := by omega
    simp [readExact, hz]
  | cons e es ih =>
    cases e with
    | error =>
      have hz : need ≠ 0 := by omega
      simp [readExact, hz]
    | data chunk nonempty =>
      simp only [available_data, List.length_append] at h
      have hz : need ≠ 0 := by omega
      have hle : chunk.length ≤ need := by omega
      have hgot := ih (need - chunk.length) (by omega)
      simp [readExact, hz, hle, hgot]

/-- The stream without its cuts: the elements in order, with `none` where a read fails. -/
def arrivals : List (Event α) → List (Option α)
  | [] => []
  | .error :: es => none :: arrivals es
  | .data chunk _ :: es => chunk.map some ++ arrivals es

/-- The reader of a stream that is not cut. -/
def takeArrivals : Nat → List (Option α) → (List α × Option Stop) × List (Option α)
  | 0, as => (([], none), as)
  | _ + 1, [] => (([], some .closed), [])
  | _ + 1, none :: as => (([], some .error), as)
  | need + 1, some a :: as =>
    let r := takeArrivals need as
    ((a :: r.1.1, r.1.2), r.2)

@[simp] theorem arrivals_nil : arrivals ([] : List (Event α)) = [] := rfl
@[simp] theorem arrivals_error (es : List (Event α)) :
    arrivals (.error :: es) = none :: arrivals es := rfl
@[simp] theorem arrivals_data (chunk : List α) (h : chunk ≠ []) (es : List (Event α)) :
    arrivals (.data chunk h :: es) = chunk.map some ++ arrivals es := rfl

@[simp] theorem takeArrivals_zero (as : List (Option α)) : takeArrivals 0 as = (([], none), as) := by
  cases as <;> rfl

/-- A chunk that is wanted whole. -/
theorem takeArrivals_append (need : Nat) (chunk : List α) (as : List (Option α)) :
    takeArrivals (chunk.length + need) (chunk.map some ++ as) =
      ((chunk ++ (takeArrivals need as).1.1, (takeArrivals need as).1.2),
        (takeArrivals need as).2) := by
  induction chunk with
  | nil => simp
  | cons a chunk ih =>
    have hlen : (a :: chunk).length + need = chunk.length + need + 1 := by
      rw [List.length_cons]
      omega
    rw [hlen]
    simp [takeArrivals, ih]

/-- A chunk of which the first elements are wanted. -/
theorem takeArrivals_prefix (need : Nat) (chunk : List α) (as : List (Option α))
    (h : need ≤ chunk.length) :
    takeArrivals need (chunk.map some ++ as) =
      ((chunk.take need, none), (chunk.drop need).map some ++ as) := by
  have hlen : (chunk.take need).length + 0 = need := by
    rw [List.length_take]
    omega
  have hsplit : chunk.map some ++ as =
      (chunk.take need).map some ++ ((chunk.drop need).map some ++ as) := by
    rw [← List.append_assoc, ← List.map_append, List.take_append_drop]
  have happend := takeArrivals_append 0 (chunk.take need) ((chunk.drop need).map some ++ as)
  rw [hlen] at happend
  rw [hsplit, happend]
  simp

/-- The cuts are of no account: reading a stream is reading its arrivals. -/
theorem readExact_arrivals (need : Nat) (es : List (Event α)) :
    (readExact need es).1 = (takeArrivals need (arrivals es)).1 ∧
      arrivals (readExact need es).2 = (takeArrivals need (arrivals es)).2 := by
  induction es generalizing need with
  | nil => cases need <;> simp [readExact, takeArrivals]
  | cons e es ih =>
    cases need with
    | zero => simp
    | succ need =>
      have hne : need + 1 ≠ 0 := by omega
      cases e with
      | error => simp [readExact, takeArrivals]
      | data chunk nonempty =>
        by_cases hle : chunk.length ≤ need + 1
        · have hsplit : need + 1 = chunk.length + (need + 1 - chunk.length) := by omega
          have happend := takeArrivals_append (need + 1 - chunk.length) chunk (arrivals es)
          rw [← hsplit] at happend
          obtain ⟨hgot, hrest⟩ := ih (need + 1 - chunk.length)
          simp only [readExact, if_neg hne, dif_pos hle, arrivals_data, happend, hgot, hrest,
            and_self]
        · have hprefix := takeArrivals_prefix (need + 1) chunk (arrivals es)
            (Nat.le_of_not_le hle)
          simp only [readExact, if_neg hne, dif_neg hle, arrivals_data, hprefix, and_self]

/-- A stream that does not fail is read as far as it goes, and then closed. -/
theorem takeArrivals_some (need : Nat) (as : List α) :
    takeArrivals need (as.map some) =
      ((as.take need, if need ≤ as.length then none else some .closed), (as.drop need).map some) := by
  induction as generalizing need with
  | nil => cases need <;> simp [takeArrivals]
  | cons a as ih => cases need <;> simp [takeArrivals, ih]

theorem available_of_arrivals {es : List (Event α)} {as : List α} (h : arrivals es = as.map some) :
    available es = as := by
  induction es generalizing as with
  | nil => simpa using h
  | cons e es ih =>
    cases e with
    | error => cases as <;> simp at h
    | data chunk nonempty =>
      obtain ⟨first, rest, rfl, hfirst, hrest⟩ := List.map_eq_append_iff.mp h.symm
      have hchunk : first = chunk := (List.map_inj_right fun _ _ => Option.some.inj).mp hfirst
      rw [available_data, ih hrest.symm, hchunk]

/-- Offset and length of each piece in which `n` elements from `off` on are
taken, when the other side takes the given numbers and then all that is left. -/
def pieces : List Nat → Nat → Nat → List (Nat × Nat)
  | [], off, n => if n = 0 then [] else [(off, n)]
  | c :: cs, off, n =>
    if n = 0 then [] else (off, min c n) :: pieces cs (off + min c n) (n - min c n)

@[simp] theorem pieces_zero (cs : List Nat) (off : Nat) : pieces cs off 0 = [] := by
  cases cs <;> rfl

theorem off_le_of_mem_pieces {cs : List Nat} {off n : Nat} {p : Nat × Nat}
    (h : p ∈ pieces cs off n) : off ≤ p.1 := by
  induction cs generalizing off n with
  | nil =>
    by_cases hn : n = 0
    · simp [hn] at h
    · simp only [pieces, if_neg hn, List.mem_singleton] at h
      subst h
      exact Nat.le_refl off
  | cons c cs ih =>
    by_cases hn : n = 0
    · simp [hn] at h
    · simp only [pieces, if_neg hn, List.mem_cons] at h
      rcases h with rfl | h
      · exact Nat.le_refl off
      · have hle := ih h
        omega

/-- Every position of the transfer lies in a piece. -/
theorem exists_piece {cs : List Nat} {off n q : Nat} (hle : off ≤ q) (hlt : q < off + n) :
    ∃ p ∈ pieces cs off n, p.1 ≤ q ∧ q < p.1 + p.2 := by
  induction cs generalizing off n with
  | nil =>
    have hn : n ≠ 0 := by omega
    exact ⟨(off, n), by simp [pieces, hn], hle, hlt⟩
  | cons c cs ih =>
    have hn : n ≠ 0 := by omega
    simp only [pieces, if_neg hn, List.exists_mem_cons_iff]
    by_cases hfirst : q < off + min c n
    · exact Or.inl ⟨hle, hfirst⟩
    · exact Or.inr (ih (by omega) (by omega))

/-- Sending every piece from its own offset transfers the elements once each, in order. -/
theorem flatMap_pieces (xs : List α) (cs : List Nat) (off n : Nat) :
    (pieces cs off n).flatMap (fun p => (xs.drop p.1).take p.2) = (xs.drop off).take n := by
  induction cs generalizing off n with
  | nil => by_cases hn : n = 0 <;> simp [pieces, hn]
  | cons c cs ih =>
    by_cases hn : n = 0
    · simp [hn]
    · have hsplit : n = min c n + (n - min c n) := by omega
      simp only [pieces, if_neg hn, List.flatMap_cons, ih]
      conv_rhs => rw [hsplit]
      rw [List.take_add, List.drop_drop]

/-- Sending every piece from offset zero again transfers the elements correctly
exactly when every piece happens to repeat the beginning. -/
theorem flatMap_resend_iff (xs : List α) (cs : List Nat) (off n : Nat)
    (h : off + n ≤ xs.length) :
    (pieces cs off n).flatMap (fun p => xs.take p.2) = (xs.drop off).take n ↔
      ∀ p ∈ pieces cs off n, (xs.drop p.1).take p.2 = xs.take p.2 := by
  rw [← flatMap_pieces xs cs off n]
  induction cs generalizing off n with
  | nil =>
    by_cases hn : n = 0
    · simp [hn]
    · simp [pieces, hn, eq_comm]
  | cons c cs ih =>
    by_cases hn : n = 0
    · simp [hn]
    · have hlen : (xs.take (min c n)).length = ((xs.drop off).take (min c n)).length := by
        simp only [List.length_take, List.length_drop]
        omega
      simp only [pieces, if_neg hn, List.flatMap_cons, List.forall_mem_cons]
      constructor
      · intro he
        obtain ⟨hhead, htail⟩ := List.append_inj he hlen
        exact ⟨hhead.symm, (ih _ _ (by omega)).mp htail⟩
      · rintro ⟨hhead, htail⟩
        rw [hhead, (ih _ _ (by omega)).mpr htail]

end Chunked
