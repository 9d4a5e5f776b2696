import ZdtmSync.Atomic
import ZdtmSync.Leaks

/-!
# Applications

An application is a sequence of calls of the library on one environment. Nothing
is assumed about their order: an application may initiate a synchronization
without an initialization, ask for items of another type, or go on behind a
failure.
-/

namespace ZdtmApi

open CMemory Programs ZdtmTypes ZdtmItems ZdtmSession ZdtmSync ZdtmOperations ZdtmAtomic ZdtmScript

inductive ApiCall where
  | initializeEnv
  | set (setter : Setter)
  | initiateSync
  | checkCurAuthState
  | requiresSlowSync
  | operation (op : Operation)
  | obtainTodoItem (syncId : UInt32) (item : TodoItem)
  | obtainCalendarItem (syncId : UInt32) (item : CalendarItem)
  | obtainAddressItem (syncId : UInt32) (item : AddressItem)
  | terminateSync
  | finalize

/-- The code that a call returns, with the variables of the caller that it may fill. -/
inductive Outcome where
  | code (r : Int)
  | output (op : Operation) (r : Int × Output op)
  | todoItem (r : Int × TodoItem)
  | calendarItem (r : Int × CalendarItem)
  | addressItem (r : Int × AddressItem)

def Outcome.returned : Outcome → Int
  | .code r => r
  | .output _ r => r.1
  | .todoItem r => r.1
  | .calendarItem r => r.1
  | .addressItem r => r.1

def ApiCall.run (b : Build) : ApiCall → Session Outcome
  | .initializeEnv => do return .code (← zdtmInitialize)
  | .set setter => do return .code (← setter.run)
  | .initiateSync => do return .code (← zdtmInitiateSync b)
  | .checkCurAuthState => do return .code (← zdtmCheckCurAuthState b)
  | .requiresSlowSync => do return .code (← zdtmRequiresSlowSync b)
  | .operation op => do return .output op (← call b op)
  | .obtainTodoItem syncId item => do return .todoItem (← zdtmObtainTodoItem b syncId item)
  | .obtainCalendarItem syncId item => do
    return .calendarItem (← zdtmObtainCalendarItem b syncId item)
  | .obtainAddressItem syncId item => do
    return .addressItem (← zdtmObtainAddressItem b syncId item)
  | .terminateSync => do return .code (← zdtmTerminateSync b)
  | .finalize => do return .code (← zdtmFinalize)

/-- The calls one after the other, whatever each of them returns. -/
def runCalls (b : Build) : List ApiCall → Session (List Outcome)
  | [] => return []
  | call :: calls => do
    let r ← call.run b
    let rs ← runCalls b calls
    return r :: rs

section Runs

variable {b : Build} {call : ApiCall} {calls : List ApiCall} {s s₁ s' : State}

/-- Behind a call that returns the others run from where it ended. -/
theorem runCalls_behind {o : Outcome} {r : Except Fault (List Outcome)}
    (hfirst : call.run b s = (.ok o, s₁)) (hrest : runCalls b calls s₁ = (r, s')) :
    runCalls b (call :: calls) s = (r.map (o :: ·), s') := by
  have heq : runCalls b (call :: calls) s = _ := bind_ok hfirst
  rw [heq]
  cases r with
  | ok os => exact bind_ok hrest
  | error e => exact bind_error hrest

/-- A run that returns is the run of its first call, and that of the others. -/
theorem runCalls_cons {outcomes : List Outcome}
    (hrun : runCalls b (call :: calls) s = (.ok outcomes, s')) :
    ∃ o os s₁, call.run b s = (.ok o, s₁) ∧ runCalls b calls s₁ = (.ok os, s') ∧
      outcomes = o :: os := by
  rcases bind_cases hrun with ⟨e, heq, -⟩ | ⟨o, s₁, hfirst, hrun⟩
  · cases heq
  · rcases bind_cases hrun with ⟨e, heq, -⟩ | ⟨os, s₂, hrest, hrun⟩
    · cases heq
    · cases hrun
      exact ⟨o, os, s₁, hfirst, hrest, rfl⟩

/-- A run that faults does so in one of its calls, behind others that returned. -/
theorem runCalls_error {e : Fault} (hrun : runCalls b calls s = (.error e, s')) :
    ∃ early call late outcomes s₁, calls = early ++ call :: late ∧
      runCalls b early s = (.ok outcomes, s₁) ∧ call.run b s₁ = (.error e, s') := by
  induction calls generalizing s with
  | nil => cases hrun
  | cons call calls ih =>
    rcases bind_cases hrun with ⟨e', heq, hfirst⟩ | ⟨o, s₁, hfirst, hrun⟩
    · cases heq
      exact ⟨[], call, calls, [], s, rfl, rfl, hfirst⟩
    · rcases bind_cases hrun with ⟨e', heq, hrest⟩ | ⟨os, s₂, -, hrun⟩
      · cases heq
        obtain ⟨early, call', late, outcomes, s₂, rfl, hearly, hcall⟩ := ih hrest
        exact ⟨call :: early, call', late, o :: outcomes, s₂, rfl, runCalls_behind hfirst hearly,
          hcall⟩
      · cases hrun

end Runs

/-- All calls but the initialization and the setters use what the environment points
to: the stream of the log, the parameter format, the passcode. -/
def ApiCall.uses : ApiCall → Bool
  | .initializeEnv => false
  | .set _ => false
  | _ => true

/-- Whether the pointers dangle behind a call. `zdtm_finalize` leaves them as they are,
also if the log cannot be closed; an initialization that opens a log replaces them. -/
def ApiCall.leaves (call : ApiCall) (r : Int) (dangling : Bool) : Bool :=
  match call with
  | .finalize => dangling || decide (r ≠ -2)
  | .initializeEnv => dangling && decide (r = -1)
  | _ => dangling

/-- The calls one after the other, up to the first that uses an environment whose
pointers dangle. Such a call is a fault whether it comes to the pointers or not. -/
def runLive (b : Build) : Bool → List ApiCall → Session (List Outcome)
  | _, [] => return []
  | dangling, call :: calls => do
    if dangling && call.uses then Program.lift (.error .dangling)
    else
      let r ← call.run b
      let rs ← runLive b (call.leaves r.returned dangling) calls
      return r :: rs

section Lifetimes

variable {b : Build} {calls : List ApiCall} {s s' : State} {dangling : Bool}

/-- Whether the pointers dangle behind a run. -/
def leavesAll (dangling : Bool) (history : List (ApiCall × Outcome)) : Bool :=
  history.foldl (fun dangling p => p.1.leaves p.2.returned dangling) dangling

/-- A finalization that came to its log, and no other log since then. -/
def Finalized (history : List (ApiCall × Outcome)) : Prop :=
  ∃ early o late, history = early ++ (.finalize, o) :: late ∧ o.returned ≠ -2 ∧
    ∀ p ∈ late, p.1 = .initializeEnv → p.2.returned = -1

theorem Finalized.cons {history : List (ApiCall × Outcome)} (p : ApiCall × Outcome)
    (h : Finalized history) : Finalized (p :: history) := by
  obtain ⟨early, o, late, rfl, ho, hlate⟩ := h
  exact ⟨p :: early, o, late, rfl, ho, hlate⟩

/-- The pointers dangle since before the run, or the run finalized the environment. -/
theorem finalized_of_leavesAll {history : List (ApiCall × Outcome)}
    (h : leavesAll dangling history = true) :
    (dangling = true ∧ ∀ p ∈ history, p.1 = .initializeEnv → p.2.returned = -1) ∨
      Finalized history := by
  induction history generalizing dangling with
  | nil => exact Or.inl ⟨h, List.forall_mem_nil _⟩
  | cons p history ih =>
    rcases ih h with ⟨hleaves, hall⟩ | hfinalized
    · obtain ⟨call, o⟩ := p
      cases call with
      | finalize =>
        by_cases hcode : o.returned = -2
        · left
          simpa [ApiCall.leaves, hcode] using And.intro hleaves hall
        · exact Or.inr ⟨[], o, history, rfl, hcode, hall⟩
      | initializeEnv =>
        left
        have hboth : dangling = true ∧ o.returned = -1 := by
          simpa [ApiCall.leaves] using hleaves
        simpa [hboth] using hall
      | _ =>
        left
        have hdangling : dangling = true := hleaves
        simpa [hdangling] using hall
    · exact Or.inr (hfinalized.cons p)

/-- The run comes to a call that uses an environment which was finalized. -/
def UsesFinalized (b : Build) (calls : List ApiCall) (s s' : State) : Prop :=
  ∃ early call late outcomes, calls = early ++ call :: late ∧ call.uses = true ∧
    runCalls b early s = (.ok outcomes, s') ∧ Finalized (early.zip outcomes)

/-- The first call faults, or the others go on where it ended. -/
theorem runLive_cons {call : ApiCall} {r : Except Fault (List Outcome)}
    (hgood : (dangling && call.uses) = false)
    (hrun : runLive b dangling (call :: calls) s = (r, s')) :
    (∃ e, r = .error e ∧ call.run b s = (.error e, s')) ∨
      ∃ o rest s₁, call.run b s = (.ok o, s₁) ∧
        runLive b (call.leaves o.returned dangling) calls s₁ = (rest, s') ∧
        r = rest.map (o :: ·) := by
  rw [runLive, hgood, if_neg Bool.false_ne_true] at hrun
  rcases bind_cases hrun with hfault | ⟨o, s₁, hfirst, hrun⟩
  · exact Or.inl hfault
  · right
    rcases bind_cases hrun with ⟨e, rfl, hrest⟩ | ⟨os, s₂, hrest, hrun⟩
    · exact ⟨o, _, s₁, hfirst, hrest, rfl⟩
    · cases hrun
      exact ⟨o, _, s₁, hfirst, hrest, rfl⟩

/-- The run goes on to its end, or stops at the first use of pointers that dangle. -/
theorem runLive_cases {r : Except Fault (List Outcome)}
    (hrun : runLive b dangling calls s = (r, s')) :
    runCalls b calls s = (r, s') ∨ (r = .error .dangling ∧ ∃ early call late outcomes,
      calls = early ++ call :: late ∧ call.uses = true ∧
        runCalls b early s = (.ok outcomes, s') ∧
        leavesAll dangling (early.zip outcomes) = true) := by
  induction calls generalizing dangling s r with
  | nil => exact Or.inl hrun
  | cons call calls ih =>
    cases hstop : dangling && call.uses with
    | true =>
      rw [runLive, hstop, if_pos rfl] at hrun
      cases hrun
      obtain ⟨hdangling, huses⟩ := Bool.and_eq_true_iff.mp hstop
      exact Or.inr ⟨rfl, [], call, calls, [], rfl, huses, rfl, hdangling⟩
    | false =>
      rcases runLive_cons hstop hrun with ⟨e, rfl, hfirst⟩ | ⟨o, rest, s₁, hfirst, hlive, rfl⟩
      · exact Or.inl (bind_error hfirst)
      · rcases ih hlive with hrest | ⟨rfl, early, call', late, outcomes, rfl, huses, hearly, hleaves⟩
        · exact Or.inl (runCalls_behind hfirst hrest)
        · exact Or.inr ⟨rfl, call :: early, call', late, o :: outcomes, rfl, huses,
            runCalls_behind hfirst hearly, hleaves⟩

/-- So it is from an environment whose pointers are good. -/
theorem runLive_good {r : Except Fault (List Outcome)} (hrun : runLive b false calls s = (r, s')) :
    runCalls b calls s = (r, s') ∨ (r = .error .dangling ∧ UsesFinalized b calls s s') := by
  rcases runLive_cases hrun with h | ⟨rfl, early, call, late, outcomes, hsplit, huses, hearly, hleaves⟩
  · exact Or.inl h
  · rcases finalized_of_leavesAll hleaves with ⟨hdangling, -⟩ | hfinalized
    · cases hdangling
    · exact Or.inr ⟨rfl, early, call, late, outcomes, hsplit, huses, hearly, hfinalized⟩

/-- An application that finalizes last does not use the environment any more. -/
theorem finalize_last {s' : State} (hlast : .finalize ∉ calls.dropLast) :
    ¬ UsesFinalized b calls s s' := by
  rintro ⟨early, call, late, outcomes, rfl, -, -, before, o, after, hzip, -⟩
  have hmem : (ApiCall.finalize, o) ∈ early.zip outcomes := by simp [hzip]
  apply hlast
  rw [List.dropLast_append_cons]
  exact List.mem_append_left _ (List.of_mem_zip hmem).1

end Lifetimes

end ZdtmApi
