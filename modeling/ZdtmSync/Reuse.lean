import ZdtmSync.Faults

/-!
# One synchronization for one initialization

`_zdtm_obtain_param_format` refuses to ask for a format as long as the environment
has one, and nothing but `zdtm_initialize` takes it away again: an environment is good
for one synchronization only, whatever the device does.
-/

namespace ZdtmReuse

open CMemory Triples ZdtmTypes ZdtmSession ZdtmProto ZdtmSync ZdtmScript ZdtmSynchronized ZdtmApi
  ZdtmKnowledge ZdtmKeeping ZdtmFaults

variable {b : Build} {K : Knowledge b}

/-- The environment has this format. -/
structure HasFormat (numParams : UInt16) (params : List AdiMsgParam) (env : Env) : Prop where
  num : env.numParams = numParams
  params : env.params = some params

variable {numParams : UInt16} {params : List AdiMsgParam}

instance hasFormat_ofFormat : OfFormat K (HasFormat numParams params) where
  same _ _ hsame h := ⟨hsame.num.trans h.num, hsame.params.trans h.params⟩
  stored _ _ _ _ hnone h := absurd (hnone.symm.trans h.params) nofun

/-- No format is asked for where there is one. -/
theorem paramFormat_refused : Triple (Knows K (HasFormat numParams params))
    (zdtmObtainParamFormat b) (fun r s => Knows K (HasFormat numParams params) s ∧ r ≠ 0)
    (Blamed K (HasFormat numParams params)) := by
  apply triple_view State.env
  intro env
  apply triple_ite
  · exact fun _ => triple_pure fun s hs => ⟨hs.1, by decide⟩
  · intro hno
    constructor
    intro s hs
    obtain ⟨hknows, rfl⟩ := hs
    rw [hknows.env.params] at hno
    exact absurd (Option.some_ne_none params) hno

theorem obtainFormat_refused : Triple (Knows K (HasFormat numParams params)) (obtainFormat b)
    (fun r s => Knows K (HasFormat numParams params) s ∧ r ≠ 0)
    (Blamed K (HasFormat numParams params)) := by
  apply triple_bind paramFormat_refused
  intro r
  apply triple_ite
  · exact fun _ => triple_pure fun s hs => ⟨hs.1, by decide⟩
  · intro hzero
    constructor
    intro s hs
    exact absurd hs.2 hzero

theorem initiateSync_refused [Speaks K] :
    Triple (Knows K (HasFormat numParams params)) (zdtmInitiateSync b)
      (fun r s => Knows K (HasFormat numParams params) s ∧ r ≠ 0)
      (Blamed K (HasFormat numParams params)) :=
  initiateSync_triple (fun _ _ h => ⟨h.num, h.params⟩) (fun _ _ hr hs => ⟨hs, hr⟩)
    obtainFormat_refused

theorem hasFormat_stable {call : ApiCall} (h : call ≠ .initializeEnv) :
    Stable (HasFormat numParams params) call :=
  ⟨fun heq => absurd heq h, fun _ _ _ h => ⟨h.num, h.params⟩⟩

/-- The code of a synchronization that was initiated. -/
theorem initiateSync_code {s s' : State} {o : Outcome}
    (hrun : ApiCall.initiateSync.run b s = (.ok o, s')) :
    zdtmInitiateSync b s = (.ok o.returned, s') := by
  cases hinit : zdtmInitiateSync b s with
  | mk r s₁ =>
    cases r with
    | error e =>
      have heq : ApiCall.initiateSync.run b s = (.error e, s₁) := Programs.bind_error hinit
      rw [heq] at hrun
      cases hrun
    | ok r =>
      have heq : ApiCall.initiateSync.run b s = (.ok (.code r), s₁) := Programs.bind_ok hinit
      rw [heq] at hrun
      cases hrun
      rfl

section Histories

variable {calls : List ApiCall} {outcomes : List Outcome} {s s' : State}
  {mid post : List (ApiCall × Outcome)} {o o' : Outcome}

/-- As long as the environment has a format, no synchronization is initiated. -/
theorem history_refused {home : Option CString}
    (hs : Knows (anyDevice b home fun _ => True) (HasFormat numParams params) s)
    (hrun : runCalls b calls s = (.ok outcomes, s'))
    (hsplit : calls.zip outcomes = mid ++ (.initiateSync, o) :: post)
    (hno : ∀ p ∈ mid, p.1 ≠ .initializeEnv) : o.returned ≠ 0 := by
  induction mid generalizing calls outcomes s with
  | nil =>
    cases calls with
    | nil => cases hsplit
    | cons call calls =>
      obtain ⟨o₁, os, s₁, hfirst, -, rfl⟩ := runCalls_cons hrun
      cases hsplit
      exact ((initiateSync_refused.run s hs).of_eq (initiateSync_code hfirst)).2
  | cons p mid ih =>
    cases calls with
    | nil => cases hsplit
    | cons call calls =>
      obtain ⟨o₁, os, s₁, hfirst, hrest, rfl⟩ := runCalls_cons hrun
      obtain ⟨rfl, hzip⟩ := List.cons.inj hsplit
      have hcall : call ≠ .initializeEnv := hno (call, o₁) List.mem_cons_self
      have hkept := (apiCall_keeps trivial trivial (hasFormat_stable hcall)).run s hs
      exact ih (hkept.of_eq hfirst) hrest hzip fun p hp => hno p (List.mem_cons_of_mem _ hp)

/-- Behind a synchronization that was initiated the environment has a format. -/
theorem initiated_format (hrun : zdtmInitiateSync b s = (.ok 0, s')) :
    ∃ numParams params,
      Knows (anyDevice b s.host.home fun _ => True) (HasFormat numParams params) s' := by
  have hs : Knows (anyDevice b s.host.home fun _ => True) AnyFormat s := ⟨rfl, trivial, trivial⟩
  obtain ⟨hknows, hformat⟩ := ((initiateSync_obtains fun _ _ _ => trivial).run s hs).of_eq hrun
  obtain ⟨params, hparams⟩ := Option.ne_none_iff_exists'.mp (hformat rfl)
  exact ⟨s'.env.numParams, params, hknows.home, trivial, rfl, hparams⟩

/-- Between two synchronizations that are initiated the environment is initialized. -/
theorem initialized_between {pre : List (ApiCall × Outcome)}
    (hrun : runCalls b calls s = (.ok outcomes, s'))
    (hsplit : calls.zip outcomes =
      pre ++ (.initiateSync, o) :: (mid ++ (.initiateSync, o') :: post))
    (hfirst : o.returned = 0) (hsecond : o'.returned = 0) : ∃ p ∈ mid, p.1 = .initializeEnv := by
  induction pre generalizing calls outcomes s with
  | nil =>
    cases calls with
    | nil => cases hsplit
    | cons call calls =>
      obtain ⟨o₁, os, s₁, hcall, hrest, rfl⟩ := runCalls_cons hrun
      obtain ⟨hpair, hzip⟩ := List.cons.inj hsplit
      cases hpair
      have hinit := initiateSync_code hcall
      rw [hfirst] at hinit
      obtain ⟨numParams, params, hformat⟩ := initiated_format hinit
      by_contra hno
      have hmid : ∀ p ∈ mid, p.1 ≠ .initializeEnv := fun p hp heq => hno ⟨p, hp, heq⟩
      exact history_refused hformat hrest hzip hmid hsecond
  | cons p pre ih =>
    cases calls with
    | nil => cases hsplit
    | cons call calls =>
      obtain ⟨o₁, os, s₁, -, hrest, rfl⟩ := runCalls_cons hrun
      exact ih hrest (List.cons.inj hsplit).2

end Histories

theorem twoVisits_ne : openDevice ++ openDevice ≠ [] := by decide

/-- The address and the type are known from the beginning. -/
def twoVisits : State :=
  { deviceState (openDevice ++ openDevice) twoVisits_ne with
    env := {
      syncType := syncTypeTodo
      zaurusIp := lockedState.env.zaurusIp } }

/-- The two synchronizations, with an initialization between them. -/
def visits : List ApiCall :=
  .initiateSync :: (.initializeEnv :: todoSetters.map .set ++ [.initiateSync])

def codes : Except Fault (List Outcome) → Option (List Int)
  | .ok outcomes => some (outcomes.map Outcome.returned)
  | .error _ => none

theorem run_of_codes {r : Except Fault (List Outcome) × State} {cs : List Int}
    (h : codes r.1 = some cs) :
    ∃ outcomes, r = (.ok outcomes, r.2) ∧ outcomes.map Outcome.returned = cs := by
  obtain ⟨r, s⟩ := r
  cases r with
  | ok outcomes => exact ⟨outcomes, rfl, Option.some.inj h⟩
  | error e => cases h

theorem visits_split {outcomes : List Outcome}
    (h : outcomes.map Outcome.returned = [0, 0, 0, 0, 0]) : ∃ o mid o',
      visits.zip outcomes = [] ++ (.initiateSync, o) :: (mid ++ (.initiateSync, o') :: []) ∧
      o.returned = 0 ∧ o'.returned = 0 := by
  obtain ⟨o, os, rfl, hfirst, h⟩ := List.map_eq_cons_iff.mp h
  obtain ⟨o₁, os, rfl, -, h⟩ := List.map_eq_cons_iff.mp h
  obtain ⟨o₂, os, rfl, -, h⟩ := List.map_eq_cons_iff.mp h
  obtain ⟨o₃, os, rfl, -, h⟩ := List.map_eq_cons_iff.mp h
  obtain ⟨o', os, rfl, hsecond, h⟩ := List.map_eq_cons_iff.mp h
  obtain rfl := List.map_eq_nil_iff.mp h
  exact ⟨o, (visits.drop 1).zip [o₁, o₂, o₃], o', rfl, hfirst, hsecond⟩

theorem initialized_between_visits : ∃ outcomes o mid o',
    codes (runCalls .littleEndian visits twoVisits).1 = some (outcomes.map Outcome.returned) ∧
      visits.zip outcomes = [] ++ (.initiateSync, o) :: (mid ++ (.initiateSync, o') :: []) ∧
      o.returned = 0 ∧ o'.returned = 0 ∧ ∃ p ∈ mid, p.1 = .initializeEnv := by
  have hcodes : codes (runCalls .littleEndian visits twoVisits).1 = some [0, 0, 0, 0, 0] := by
    decide +kernel
  obtain ⟨outcomes, hrun, hreturned⟩ := run_of_codes hcodes
  obtain ⟨o, mid, o', hsplit, hfirst, hsecond⟩ := visits_split hreturned
  exact ⟨outcomes, o, mid, o', by rw [hcodes, hreturned], hsplit, hfirst, hsecond,
    initialized_between hrun hsplit hfirst hsecond⟩

end ZdtmReuse
