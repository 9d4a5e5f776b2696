import ZdtmSync.Programs

/-!
# What is said of runs

A triple speaks of every run of a program from the states before: it returns in a
state after, or it fails and the failure has somebody to blame. Each construct of a
program has a rule, so a failure is blamed at the primitive where it occurs, and
every sequence around that primitive passes the blame on.

Two programs are coupled by a relation on their states if from related states they
have the same outcome and end in related states again. A program that is coupled
with itself cannot tell related states apart; a program coupled with another one
computes the same results in another state. Each construct of a program keeps the
coupling, so it has to be shown for the primitives only.
-/

namespace Triples

open Programs

variable {σ ε α β γ : Type}

/-- A run returned as `after` says, or failed as `blame` says. -/
def Settled (after : α → σ → Prop) (blame : ε → σ → Prop) : Except ε α → σ → Prop
  | .ok a, s => after a s
  | .error e, s => blame e s

structure Triple (before : σ → Prop) (x : Program σ ε α) (after : α → σ → Prop)
    (blame : ε → σ → Prop) : Prop where
  run : ∀ s, before s → Leads x s (Settled after blame)

/-- The program keeps the invariant, or its failure has somebody to blame. -/
abbrev Keeps (inv : σ → Prop) (x : Program σ ε α) (blame : ε → σ → Prop) : Prop :=
  Triple inv x (fun _ => inv) blame

section Rules

variable {before before' : σ → Prop} {x y : Program σ ε α} {f : α → Program σ ε β}
  {mid after after' : α → σ → Prop} {last : β → σ → Prop} {blame : ε → σ → Prop}

theorem triple_pure {a : α} (h : ∀ s, before s → after a s) :
    Triple before (pure a : Program σ ε α) after blame := ⟨h⟩

theorem Triple.pre (h : Triple before x after blame) (himp : ∀ s, before' s → before s) :
    Triple before' x after blame := ⟨fun s hs => h.run s (himp s hs)⟩

theorem Triple.post (h : Triple before x after blame) (himp : ∀ a s, after a s → after' a s) :
    Triple before x after' blame := by
  constructor
  intro s hs
  apply (h.run s hs).mono
  intro r s' hsettled
  cases r with
  | ok a => exact himp a s' hsettled
  | error e => exact hsettled

theorem Triple.blames {blame' : ε → σ → Prop} (h : Triple before x after blame)
    (himp : ∀ e s, blame e s → blame' e s) : Triple before x after blame' := by
  constructor
  intro s hs
  apply (h.run s hs).mono
  intro r s' hsettled
  cases r with
  | ok a => exact hsettled
  | error e => exact himp e s' hsettled

/-- Two accounts of the same runs. -/
theorem Triple.both {blame' : ε → σ → Prop} (h : Triple before x after blame)
    (h' : Triple before' x after' blame') :
    Triple (fun s => before s ∧ before' s) x (fun a s => after a s ∧ after' a s)
      fun e s => blame e s ∧ blame' e s := by
  constructor
  intro s hs
  have hsettled := (h.run s hs.1).of_eq rfl
  have hsettled' := (h'.run s hs.2).of_eq rfl
  cases hrun : x s with
  | mk r s' =>
    rw [hrun] at hsettled hsettled'
    apply leads_of_eq hrun
    cases r with
    | ok a => exact ⟨hsettled, hsettled'⟩
    | error e => exact ⟨hsettled, hsettled'⟩

theorem triple_bind (hx : Triple before x mid blame)
    (hf : ∀ a, Triple (mid a) (f a) last blame) : Triple before (x >>= f) last blame := by
  constructor
  intro s hs
  apply leads_bind (hx.run s hs)
  · intro a s' hmid
    exact (hf a).run s' hmid
  · intro e s' hblame
    exact hblame

theorem triple_ite {c : Prop} [Decidable c] (hx : c → Triple before x after blame)
    (hy : ¬ c → Triple before y after blame) :
    Triple before (if c then x else y) after blame := by
  by_cases hc : c
  · simpa [hc] using hx hc
  · simpa [hc] using hy hc

/-- A stage that lets the sequence go on only with the result 0. -/
theorem triple_guard {x : Program σ ε Int} {inv : σ → Prop} {code : Int → β}
    {rest : Program σ ε β} (hx : Triple before x (fun _ => inv) blame)
    (hcode : ∀ r s, r ≠ 0 → inv s → last (code r) s) (hrest : Triple inv rest last blame) :
    Triple before (x >>= fun r => if r ≠ 0 then pure (code r) else rest) last blame :=
  triple_bind hx fun r => triple_ite (fun hr => triple_pure fun s hs => hcode r s hr hs)
    fun _ => hrest

theorem triple_modify {g : σ → σ} {after : Unit → σ → Prop} (h : ∀ s, before s → after () (g s)) :
    Triple before (Program.modify g : Program σ ε Unit) after blame := ⟨h⟩

/-- A computation without a state is blamed for its own failures. -/
theorem triple_lift {z : Except ε α} (hok : ∀ a, z = .ok a → Triple before (f a) last blame)
    (herror : ∀ e, z = .error e → ∀ s, before s → blame e s) :
    Triple before (Program.lift z >>= f) last blame := by
  cases z with
  | ok a => exact hok a rfl
  | error e => exact ⟨herror e rfl⟩

/-- What is read of the state is known until the state changes. -/
theorem triple_view (view : σ → γ) {g : γ → Program σ ε β}
    (h : ∀ v, Triple (fun s => before s ∧ view s = v) (g v) last blame) :
    Triple before ((fun s => (.ok (view s), s) : Program σ ε γ) >>= g) last blame :=
  ⟨fun s hs => (h (view s)).run s ⟨hs, rfl⟩⟩

end Rules

section Keeps

variable {inv : σ → Prop} {x : Program σ ε α} {f : α → Program σ ε β} {blame : ε → σ → Prop}

theorem keeps_pure (a : α) : Keeps inv (pure a : Program σ ε α) blame :=
  triple_pure fun _ hs => hs

theorem keeps_bind (hx : Keeps inv x blame) (hf : ∀ a, Keeps inv (f a) blame) :
    Keeps inv (x >>= f) blame := triple_bind hx hf

theorem keeps_guard {x : Program σ ε Int} {code : Int → β} {rest : Program σ ε β}
    (hx : Keeps inv x blame) (hrest : Keeps inv rest blame) :
    Keeps inv (x >>= fun r => if r ≠ 0 then pure (code r) else rest) blame :=
  triple_guard hx (fun _ _ _ hs => hs) hrest

/-- What is read does not matter. -/
theorem keeps_view (view : σ → γ) {g : γ → Program σ ε β} (h : ∀ v, Keeps inv (g v) blame) :
    Keeps inv ((fun s => (.ok (view s), s) : Program σ ε γ) >>= g) blame :=
  triple_view view fun v => (h v).pre fun _ hs => hs.1

end Keeps

end Triples

namespace Couplings

open Programs

variable {σ τ ε α β γ : Type} {R : σ → τ → Prop}

/-- From related states the same outcome, and related states at the end. -/
def Coupled (R : σ → τ → Prop) (x : Program σ ε α) (y : Program τ ε α) : Prop :=
  ∀ s t, R s t → (x s).1 = (y t).1 ∧ R (x s).2 (y t).2

theorem coupled_of_eq {x : Program σ ε α} {y : Program τ ε α}
    (h : ∀ s t, R s t → ∃ r s' t', x s = (r, s') ∧ y t = (r, t') ∧ R s' t') : Coupled R x y := by
  intro s t hst
  obtain ⟨r, s', t', hx, hy, hst'⟩ := h s t hst
  rw [hx, hy]
  exact ⟨rfl, hst'⟩

theorem Coupled.run {x : Program σ ε α} {y : Program τ ε α} (h : Coupled R x y) {s : σ} {t : τ}
    (hst : R s t) : ∃ r s' t', x s = (r, s') ∧ y t = (r, t') ∧ R s' t' := by
  obtain ⟨heq, hst'⟩ := h s t hst
  exact ⟨(x s).1, (x s).2, (y t).2, rfl, Prod.ext heq.symm rfl, hst'⟩

section Rules

variable {x x' : Program σ ε α} {y y' : Program τ ε α}

theorem coupled_pure (a : α) :
    Coupled R (pure a : Program σ ε α) (pure a : Program τ ε α) := fun _ _ hst => ⟨rfl, hst⟩

theorem coupled_lift (x : Except ε α) :
    Coupled R (Program.lift x : Program σ ε α) (Program.lift x : Program τ ε α) :=
  fun _ _ hst => ⟨rfl, hst⟩

theorem coupled_modify {g : σ → σ} {h : τ → τ} (hgh : ∀ s t, R s t → R (g s) (h t)) :
    Coupled R (Program.modify g : Program σ ε Unit) (Program.modify h : Program τ ε Unit) :=
  fun s t hst => ⟨rfl, hgh s t hst⟩

/-- A part of the state that related states share. -/
theorem coupled_view {view : σ → γ} {view' : τ → γ} (h : ∀ s t, R s t → view s = view' t) :
    Coupled R (fun s => (.ok (view s), s) : Program σ ε γ) (fun t => (.ok (view' t), t)) :=
  fun s t hst => ⟨congrArg Except.ok (h s t hst), hst⟩

theorem coupled_bind {f : α → Program σ ε β} {g : α → Program τ ε β} (hxy : Coupled R x y)
    (hfg : ∀ a, Coupled R (f a) (g a)) : Coupled R (x >>= f) (y >>= g) := by
  intro s t hst
  obtain ⟨r, s', t', hx, hy, hst'⟩ := hxy.run hst
  cases r with
  | ok a =>
    rw [bind_ok hx, bind_ok hy]
    exact hfg a s' t' hst'
  | error e =>
    rw [bind_error hx, bind_error hy]
    exact ⟨rfl, hst'⟩

theorem coupled_ite {c : Prop} [Decidable c] (h : c → Coupled R x y) (h' : ¬ c → Coupled R x' y') :
    Coupled R (if c then x else x') (if c then y else y') := by
  by_cases hc : c
  · simpa [hc] using h hc
  · simpa [hc] using h' hc

/-- A stage that lets the sequence go on only with the result 0. -/
theorem coupled_guard {x : Program σ ε Int} {y : Program τ ε Int} {code : Int → β}
    {rest : Program σ ε β} {rest' : Program τ ε β} (hxy : Coupled R x y)
    (hrest : Coupled R rest rest') :
    Coupled R (x >>= fun r => if r ≠ 0 then pure (code r) else rest)
      (y >>= fun r => if r ≠ 0 then pure (code r) else rest') :=
  coupled_bind hxy fun _ => coupled_ite (fun _ => coupled_pure _) fun _ => hrest

end Rules

/-- The same for functions whose state is lost when they fail. -/
def Matched (R : σ → τ → Prop) (x : StateT σ (Except ε) α) (y : StateT τ (Except ε) α) : Prop :=
  ∀ s t, R s t → (∃ e, x s = .error e ∧ y t = .error e) ∨
    ∃ a s' t', x s = .ok (a, s') ∧ y t = .ok (a, t') ∧ R s' t'

section Matched

variable {x x' : StateT σ (Except ε) α} {y y' : StateT τ (Except ε) α}

theorem matched_pure (a : α) :
    Matched R (pure a : StateT σ (Except ε) α) (pure a : StateT τ (Except ε) α) :=
  fun s t hst => Or.inr ⟨a, s, t, rfl, rfl, hst⟩

theorem matched_bind {f : α → StateT σ (Except ε) β} {g : α → StateT τ (Except ε) β}
    (hxy : Matched R x y) (hfg : ∀ a, Matched R (f a) (g a)) : Matched R (x >>= f) (y >>= g) := by
  intro s t hst
  change (∃ e, (x s).bind (fun r => f r.1 r.2) = .error e ∧
      (y t).bind (fun r => g r.1 r.2) = .error e) ∨
    ∃ a s' t', (x s).bind (fun r => f r.1 r.2) = .ok (a, s') ∧
      (y t).bind (fun r => g r.1 r.2) = .ok (a, t') ∧ R s' t'
  rcases hxy s t hst with ⟨e, hx, hy⟩ | ⟨a, s', t', hx, hy, hst'⟩
  · rw [hx, hy]
    exact Or.inl ⟨e, rfl, rfl⟩
  · rw [hx, hy]
    exact hfg a s' t' hst'

theorem matched_ite {c : Prop} [Decidable c] (h : Matched R x y) (h' : Matched R x' y') :
    Matched R (if c then x else x') (if c then y else y') := by
  by_cases hc : c
  · simpa [hc] using h
  · simpa [hc] using h'

end Matched

end Couplings
