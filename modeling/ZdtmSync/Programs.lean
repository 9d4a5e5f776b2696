/-!
# Programs that keep their state when they fail

A program runs in a state and returns or fails; either way it leaves a state.
`Leads` is what holds at the end of a run, however it ends. `Logs` is for
programs that only append to a log: it relates the outcome to what was appended,
and composes by concatenation.

A loop runs its body as long as a test on the state holds. It has fuel, and fails
when it wants to go on without any; a measure that falls with every pass bounds
the fuel that is needed. `Ends` is total correctness: the run returns.
-/

namespace Programs

def Program (σ ε α : Type) := σ → Except ε α × σ

instance (σ ε : Type) : Monad (Program σ ε) where
  pure a := fun s => (.ok a, s)
  bind x f := fun s =>
    match x s with
    | (.ok a, s') => f a s'
    | (.error e, s') => (.error e, s')

variable {σ ε α β γ φ : Type}

namespace Program

def get : Program σ ε σ := fun s => (.ok s, s)

def modify (g : σ → σ) : Program σ ε Unit := fun s => (.ok (), g s)

def lift (x : Except ε α) : Program σ ε α := fun s => (x, s)

end Program

section Bind

variable {x : Program σ ε α} {f : α → Program σ ε β} {s s' : σ}

theorem bind_ok {a : α} (h : x s = (.ok a, s')) : (x >>= f) s = f a s' := by
  simp only [Bind.bind, h]

theorem bind_error {e : ε} (h : x s = (.error e, s')) : (x >>= f) s = (.error e, s') := by
  simp only [Bind.bind, h]

/-- The first part fails, or the second one goes on where it ended. -/
theorem bind_cases {r : Except ε β} (h : (x >>= f) s = (r, s')) :
    (∃ e, r = .error e ∧ x s = (.error e, s')) ∨ ∃ a s₁, x s = (.ok a, s₁) ∧ f a s₁ = (r, s') := by
  cases hx : x s with
  | mk first s₁ =>
    cases first with
    | ok a =>
      rw [bind_ok hx] at h
      exact Or.inr ⟨a, s₁, rfl, h⟩
    | error e =>
      rw [bind_error hx] at h
      cases h
      exact Or.inl ⟨e, rfl, rfl⟩

end Bind

/-- The run from `s` ends, with a result or with a failure, as `Q` says. -/
def Leads (x : Program σ ε α) (s : σ) (Q : Except ε α → σ → Prop) : Prop := Q (x s).1 (x s).2

section Leads

variable {x : Program σ ε α} {f : α → Program σ ε β} {s : σ} {P : Except ε α → σ → Prop}
  {Q : Except ε β → σ → Prop}

theorem leads_of_eq {r : Except ε α} {s' : σ} (h : x s = (r, s')) (hp : P r s') :
    Leads x s P := by
  rw [Leads, h]
  exact hp

theorem Leads.of_eq (h : Leads x s P) {r : Except ε α} {s' : σ} (hrun : x s = (r, s')) :
    P r s' := by
  rw [Leads, hrun] at h
  exact h

theorem Leads.congr {y : Program σ ε α} (h : Leads y s P) (heq : x s = y s) : Leads x s P := by
  rw [Leads, heq]
  exact h

theorem leads_pure {a : α} (h : P (.ok a) s) : Leads (pure a) s P := h

theorem Leads.mono {P' : Except ε α → σ → Prop} (h : Leads x s P)
    (himp : ∀ r s', P r s' → P' r s') : Leads x s P' := himp _ _ h

theorem leads_bind (hx : Leads x s P) (hok : ∀ a s', P (.ok a) s' → Leads (f a) s' Q)
    (herror : ∀ e s', P (.error e) s' → Q (.error e) s') : Leads (x >>= f) s Q := by
  cases hrun : x s with
  | mk r s' =>
    have hp := hx.of_eq hrun
    cases r with
    | ok a => exact leads_of_eq (bind_ok hrun) (hok a s' hp)
    | error e => exact leads_of_eq (bind_error hrun) (herror e s' hp)

end Leads

/-- No run ends in the failure. -/
def Never (e : ε) (x : Program σ ε α) : Prop := ∀ s, (x s).1 ≠ .error e

theorem never_pure (e : ε) (a : α) : Never e (pure a : Program σ ε α) := by
  intro s h
  cases h

theorem never_bind {e : ε} {x : Program σ ε α} {f : α → Program σ ε β} (hx : Never e x)
    (hf : ∀ a, Never e (f a)) : Never e (x >>= f) := by
  intro s h
  cases hrun : x s with
  | mk r s' =>
    cases r with
    | ok a =>
      rw [bind_ok hrun] at h
      exact hf a s' h
    | error e' =>
      rw [bind_error hrun] at h
      cases h
      exact hx s (congrArg Prod.fst hrun)

theorem never_ite {e : ε} {c : Prop} [Decidable c] {x y : Program σ ε α} (hx : Never e x)
    (hy : Never e y) : Never e (if c then x else y) := by
  split
  · exact hx
  · exact hy

/-- Every run that returns has a result as `P` says. -/
structure Yields (P : α → Prop) (x : Program σ ε α) : Prop where
  run : ∀ s a s', x s = (.ok a, s') → P a

section Yields

variable {P : α → Prop} {Q : β → Prop}

theorem yields_true (x : Program σ ε α) : Yields (fun _ => True) x :=
  ⟨fun _ _ _ _ => trivial⟩

theorem yields_pure {a : α} (h : P a) : Yields P (pure a : Program σ ε α) := by
  constructor
  intro s a' s' hrun
  cases hrun
  exact h

theorem yields_bind {x : Program σ ε α} {f : α → Program σ ε β} (hx : Yields P x)
    (hf : ∀ a, P a → Yields Q (f a)) : Yields Q (x >>= f) := by
  constructor
  intro s c s' hrun
  cases hstep : x s with
  | mk r s₁ =>
    cases r with
    | ok a =>
      rw [bind_ok hstep] at hrun
      exact (hf a (hx.run s a s₁ hstep)).run s₁ c s' hrun
    | error e =>
      rw [bind_error hstep] at hrun
      cases hrun

/-- What comes before does not matter. -/
theorem yields_then {x : Program σ ε α} {f : α → Program σ ε β} (hf : ∀ a, Yields Q (f a)) :
    Yields Q (x >>= f) := yields_bind (yields_true x) fun a _ => hf a

theorem yields_ite {c : Prop} [Decidable c] {x y : Program σ ε α} (hx : c → Yields P x)
    (hy : ¬ c → Yields P y) : Yields P (if c then x else y) := by
  by_cases hc : c
  · rw [if_pos hc]
    exact hx hc
  · rw [if_neg hc]
    exact hy hc

/-- A stage of a sequence that is stopped by the code of a stage. -/
theorem yields_stage {P : Int → Prop} {x rest : Program σ ε Int} (hx : Yields P x)
    (hrest : Yields P rest) : Yields P (x >>= fun r => if r ≠ 0 then pure r else rest) := by
  apply yields_bind hx
  intro r hr
  exact yields_ite (fun _ => yields_pure hr) fun _ => hrest

/-- A stage with a code of its own for every failure. -/
theorem yields_failing {P : β → Prop} {x : Program σ ε Int} {rest : Program σ ε β} {code : β}
    (hcode : P code) (hrest : Yields P rest) :
    Yields P (x >>= fun r => if r ≠ 0 then pure code else rest) := by
  apply yields_then
  intro r
  exact yields_ite (fun _ => yields_pure hcode) fun _ => hrest

end Yields

/-- An element of a log in two parts stands in one of them. -/
theorem split_append {xs ys pre post : List γ} {x : γ} (h : xs ++ ys = pre ++ x :: post) :
    (∃ as, ys = as ++ x :: post) ∨ ∃ as, xs = pre ++ x :: as ∧ post = as ++ ys := by
  rcases List.append_eq_append_iff.mp h with ⟨as, -, has⟩ | ⟨as, rfl, has⟩
  · exact Or.inl ⟨as, has⟩
  · cases as with
    | nil => exact Or.inl ⟨[], has.symm⟩
    | cons y as =>
      rw [List.cons_append, List.cons.injEq] at has
      obtain ⟨rfl, rfl⟩ := has
      exact Or.inr ⟨as, rfl, rfl⟩

/-- What a run appends to a log that is kept in the state, together with whatever
else holds between the two states. -/
structure Recorder (σ γ : Type) where
  Extends : σ → List γ → σ → Prop
  refl (s : σ) : Extends s [] s
  trans {s s' s'' : σ} {new new' : List γ} (h : Extends s new s') (h' : Extends s' new' s'') :
    Extends s (new ++ new') s''

/-- `R` relates the outcome of every run to what it appended to the log. -/
def Logs (L : Recorder σ γ) (x : Program σ ε α) (R : Except ε α → List γ → Prop) : Prop :=
  ∀ s, Leads x s fun r s' => ∃ new, L.Extends s new s' ∧ R r new

section Logs

variable {L : Recorder σ γ} {x : Program σ ε α} {f : α → Program σ ε β}
  {R : Except ε α → List γ → Prop}

theorem Logs.run (h : Logs L x R) {r : Except ε α} {s s' : σ} (hrun : x s = (r, s')) :
    ∃ new, L.Extends s new s' ∧ R r new := (h s).of_eq hrun

theorem logs_pure {a : α} (h : R (.ok a) []) : Logs L (pure a : Program σ ε α) R :=
  fun s => ⟨[], L.refl s, h⟩

/-- A recorder that demands less. -/
theorem Logs.weaken {L' : Recorder σ γ} (h : Logs L x R)
    (himp : ∀ s new s', L.Extends s new s' → L'.Extends s new s') : Logs L' x R := by
  intro s
  apply (h s).mono
  intro r s' hp
  obtain ⟨new, hext, hr⟩ := hp
  exact ⟨new, himp s new s' hext, hr⟩

/-- What a sequence appends is what its parts append, one after the other. -/
theorem logs_bind {R' : Except ε β → List γ → Prop} (hx : Logs L x R)
    (hok : ∀ a new, R (.ok a) new → Logs L (f a) fun r new' => R' r (new ++ new'))
    (herror : ∀ e new, R (.error e) new → R' (.error e) new) : Logs L (x >>= f) R' := by
  intro s
  apply leads_bind (hx s)
  · intro a s' hp
    obtain ⟨new, hext, hr⟩ := hp
    apply (hok a new hr s').mono
    intro r s'' hp'
    obtain ⟨new', hext', hr'⟩ := hp'
    exact ⟨new ++ new', L.trans hext hext', hr'⟩
  · intro e s' hp
    obtain ⟨new, hext, hr⟩ := hp
    exact ⟨new, hext, herror e new hr⟩

theorem logs_ite {c : Prop} [Decidable c] {y z : Program σ ε α} (hy : c → Logs L y R)
    (hz : ¬ c → Logs L z R) : Logs L (if c then y else z) R := by
  by_cases hc : c
  · rw [if_pos hc]
    exact hy hc
  · rw [if_neg hc]
    exact hz hc

/-- A code that stops a sequence, or lets it go on. -/
theorem logs_unless {γ' : Type} [DecidableEq γ'] {a c : γ'} {y z : Program σ ε α}
    (hstop : a ≠ c → Logs L y R) (hrest : a = c → Logs L z R) :
    Logs L (if a ≠ c then y else z) R :=
  logs_ite hstop fun h => hrest (Decidable.not_not.mp h)

end Logs

/-- `R` relates the outcome of every run, and what it appended to the log, to a
part of the state before and after it. -/
def Runs (L : Recorder σ γ) (view : σ → φ) (x : Program σ ε α)
    (R : φ → Except ε α → φ → List γ → Prop) : Prop :=
  ∀ s, Leads x s fun r s' => ∃ new, L.Extends s new s' ∧ R (view s) r (view s') new

section Runs

variable {L : Recorder σ γ} {view : σ → φ} {x : Program σ ε α} {f : α → Program σ ε β}
  {R : φ → Except ε α → φ → List γ → Prop}

theorem Runs.run (h : Runs L view x R) {r : Except ε α} {s s' : σ} (hrun : x s = (r, s')) :
    ∃ new, L.Extends s new s' ∧ R (view s) r (view s') new := (h s).of_eq hrun

theorem Runs.mono {R' : φ → Except ε α → φ → List γ → Prop} (h : Runs L view x R)
    (himp : ∀ v r v' new, R v r v' new → R' v r v' new) : Runs L view x R' := by
  intro s
  apply (h s).mono
  intro r s' hp
  obtain ⟨new, hext, hr⟩ := hp
  exact ⟨new, hext, himp _ r _ new hr⟩

theorem Runs.logs {R' : Except ε α → List γ → Prop} (h : Runs L view x R)
    (himp : ∀ v r v' new, R v r v' new → R' r new) : Logs L x R' := by
  intro s
  apply (h s).mono
  intro r s' hp
  obtain ⟨new, hext, hr⟩ := hp
  exact ⟨new, hext, himp _ r _ new hr⟩

/-- A program that logs under a recorder that also keeps the view. -/
theorem Logs.runs {L' : Recorder σ γ} {R' : Except ε α → List γ → Prop} (h : Logs L' x R')
    (himp : ∀ s new s', L'.Extends s new s' → L.Extends s new s' ∧ view s' = view s) :
    Runs L view x fun v r v' new => v' = v ∧ R' r new := by
  intro s
  apply (h s).mono
  intro r s' hp
  obtain ⟨new, hext, hr⟩ := hp
  exact ⟨new, (himp s new s' hext).1, (himp s new s' hext).2, hr⟩

/-- A recorder that demands more, if the runs meet it. -/
theorem Runs.strengthen {L' : Recorder σ γ} (h : Runs L view x R)
    (himp : ∀ s r new s', L.Extends s new s' → R (view s) r (view s') new → L'.Extends s new s') :
    Runs L' view x R := by
  intro s
  apply (h s).mono
  intro r s' hp
  obtain ⟨new, hext, hr⟩ := hp
  exact ⟨new, himp s r new s' hext hr, hr⟩

theorem runs_pure {a : α} (h : ∀ v, R v (.ok a) v []) :
    Runs L view (pure a : Program σ ε α) R := fun s => ⟨[], L.refl s, h (view s)⟩

theorem runs_lift {y : Except ε α} {R' : φ → Except ε β → φ → List γ → Prop}
    (herror : ∀ e, y = .error e → ∀ v, R' v (.error e) v [])
    (hok : ∀ a, y = .ok a → Runs L view (f a) R') :
    Runs L view (Program.lift y >>= f) R' := by
  cases y with
  | error e => exact fun s => ⟨[], L.refl s, herror e rfl (view s)⟩
  | ok a => exact hok a rfl

/-- In a sequence the second part starts where the first one ended. -/
theorem runs_bind {R' : φ → Except ε β → φ → List γ → Prop} (hx : Runs L view x R)
    (hok : ∀ v a v' new, R v (.ok a) v' new →
      Runs L view (f a) fun v₁ r v₂ new' => v₁ = v' → R' v r v₂ (new ++ new'))
    (herror : ∀ v e v' new, R v (.error e) v' new → R' v (.error e) v' new) :
    Runs L view (x >>= f) R' := by
  intro s
  apply leads_bind (hx s)
  · intro a s' hp
    obtain ⟨new, hext, hr⟩ := hp
    apply (hok _ a _ new hr s').mono
    intro r s'' hp'
    obtain ⟨new', hext', hr'⟩ := hp'
    exact ⟨new ++ new', L.trans hext hext', hr' rfl⟩
  · intro e s' hp
    obtain ⟨new, hext, hr⟩ := hp
    exact ⟨new, hext, herror _ e _ new hr⟩

/-- A stage that returns 0, or stops the sequence. -/
theorem runs_guard {x : Program σ ε Int} {rest : Program σ ε β} {code : Int → β}
    {R : φ → Except ε Int → φ → List γ → Prop} {R' : φ → Except ε β → φ → List γ → Prop}
    (hx : Runs L view x R)
    (hstop : ∀ v r v' new, r ≠ 0 → R v (.ok r) v' new → R' v (.ok (code r)) v' new)
    (herror : ∀ v e v' new, R v (.error e) v' new → R' v (.error e) v' new)
    (hrest : ∀ v v' new, R v (.ok 0) v' new →
      Runs L view rest fun v₁ r v₂ new' => v₁ = v' → R' v r v₂ (new ++ new')) :
    Runs L view (x >>= fun r => if r ≠ 0 then pure (code r) else rest) R' := by
  apply runs_bind hx
  · intro v r v' new hr
    by_cases hzero : r = 0
    · subst hzero
      exact hrest v v' new hr
    · rw [if_pos hzero]
      apply runs_pure
      rintro v₁ rfl
      rw [List.append_nil]
      exact hstop v r v₁ new hzero hr
  · exact herror

end Runs

end Programs

namespace Loops

open Programs

variable {σ ε α β : Type}

/-- The run from `s` returns, and the result and the state are as `Q` says. -/
def Ends (x : Program σ ε α) (s : σ) (Q : α → σ → Prop) : Prop :=
  ∃ a s', x s = (.ok a, s') ∧ Q a s'

section Ends

variable {x : Program σ ε α} {f : α → Program σ ε β} {s : σ} {P : α → σ → Prop}
  {Q : β → σ → Prop}

theorem ends_pure {a : α} (h : P a s) : Ends (pure a : Program σ ε α) s P := ⟨a, s, rfl, h⟩

theorem ends_modify {g : σ → σ} {P : Unit → σ → Prop} (h : P () (g s)) :
    Ends (Program.modify g : Program σ ε Unit) s P := ⟨(), g s, rfl, h⟩

theorem ends_bind (hx : Ends x s P) (hf : ∀ a s', P a s' → Ends (f a) s' Q) :
    Ends (x >>= f) s Q := by
  obtain ⟨a, s', hrun, hp⟩ := hx
  obtain ⟨c, s'', hrun', hq⟩ := hf a s' hp
  exact ⟨c, s'', (bind_ok hrun).trans hrun', hq⟩

theorem ends_get {g : σ → Program σ ε β} (h : Ends (g s) s Q) :
    Ends (Program.get >>= g) s Q := h

theorem Ends.mono {P' : α → σ → Prop} (h : Ends x s P) (himp : ∀ a s', P a s' → P' a s') :
    Ends x s P' := by
  obtain ⟨a, s', hrun, hp⟩ := h
  exact ⟨a, s', hrun, himp a s' hp⟩

end Ends

section While

variable {spent : ε} {test : σ → Bool} {body : Program σ ε Unit}

def repeatWhile (spent : ε) (test : σ → Bool) (body : Program σ ε Unit) :
    Nat → Program σ ε Unit
  | 0 => fun s => if test s then (.error spent, s) else (.ok (), s)
  | fuel + 1 => fun s =>
    if test s then (body >>= fun _ => repeatWhile spent test body fuel) s else (.ok (), s)

theorem repeatWhile_done {s : σ} (h : test s = false) (fuel : Nat) :
    repeatWhile spent test body fuel s = (.ok (), s) := by
  cases fuel with
  | zero => simp [repeatWhile, h]
  | succ fuel => simp [repeatWhile, h]

theorem repeatWhile_more {s : σ} (h : test s = true) (fuel : Nat) :
    repeatWhile spent test body (fuel + 1) s =
      (body >>= fun _ => repeatWhile spent test body fuel) s := by
  simp [repeatWhile, h]

/-- An invariant that every pass keeps holds at the end, where the test fails; and
the end is reached if every pass lowers the measure. -/
theorem ends_while {I : σ → Prop} {m : σ → Nat}
    (hbody : ∀ s, I s → test s = true → Ends body s fun _ s' => I s' ∧ m s' < m s)
    {fuel : Nat} {s : σ} (hs : I s) (hfuel : m s ≤ fuel) :
    Ends (repeatWhile spent test body fuel) s fun _ s' => I s' ∧ test s' = false := by
  induction fuel generalizing s with
  | zero =>
    cases htest : test s with
    | false => exact ⟨(), s, repeatWhile_done htest 0, hs, htest⟩
    | true =>
      obtain ⟨a, s', -, -, hlt⟩ := hbody s hs htest
      omega
  | succ fuel ih =>
    cases htest : test s with
    | false => exact ⟨(), s, repeatWhile_done htest (fuel + 1), hs, htest⟩
    | true =>
      have hpasses : Ends (body >>= fun _ => repeatWhile spent test body fuel) s
          fun _ s' => I s' ∧ test s' = false := by
        apply ends_bind (hbody s hs htest)
        intro a s' h
        exact ih h.1 (by omega)
      obtain ⟨a, s', hrun, hend⟩ := hpasses
      exact ⟨a, s', (repeatWhile_more htest fuel).trans hrun, hend⟩

/-- A counter that grows with every pass comes up to its bound. -/
theorem ends_count {I : σ → Prop} {c : σ → Nat} {n : Nat}
    (hbody : ∀ s, I s → c s < n → Ends body s fun _ s' => I s' ∧ c s < c s')
    {fuel : Nat} {s : σ} (hs : I s) (hfuel : n - c s ≤ fuel) :
    Ends (repeatWhile spent (fun s => c s < n) body fuel) s fun _ s' => I s' ∧ n ≤ c s' := by
  have hpass : ∀ s, I s → decide (c s < n) = true →
      Ends body s fun _ s' => I s' ∧ n - c s' < n - c s := by
    intro s hs htest
    have hlt : c s < n := of_decide_eq_true htest
    apply (hbody s hs hlt).mono
    intro a s' h
    exact ⟨h.1, by omega⟩
  apply (ends_while hpass hs hfuel).mono
  intro a s' h
  exact ⟨h.1, Nat.le_of_not_lt (of_decide_eq_false h.2)⟩

end While

end Loops
