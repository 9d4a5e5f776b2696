import ZdtmSync.Replies
import ZdtmSync.Discipline

/-!
# The slow sync flags

What the environment says of the device after the calls that obtain and reset
the synchronization state. Neither of the two keeps the flags in step with the
device: a flag that is set stays set whatever the device reports, and the reset
sets the flag of the address book whatever the type of the synchronization.
-/

namespace ZdtmSlowSync

open CMemory Programs ZdtmTypes ZdtmMsgs ZdtmNet ZdtmItems ZdtmSession ZdtmProto ZdtmConnections
  ZdtmSync ZdtmExchanges ZdtmOperations ZdtmReplies ZdtmDiscipline

/-- The three kinds of items that are synchronized. -/
inductive Kind where
  | todo | calendar | address
  deriving DecidableEq

def Kind.syncType : Kind → UInt8
  | .todo => syncTypeTodo
  | .calendar => syncTypeCalendar
  | .address => syncTypeAddress

def Kind.mask : Kind → UInt8
  | .todo => amgTodoMask
  | .calendar => amgCalMask
  | .address => amgAddrMask

def Kind.flag (env : Env) : Kind → Int
  | .todo => env.todoSlowSyncRequired
  | .calendar => env.calendarSlowSyncRequired
  | .address => env.addressBookSlowSyncRequired

theorem slowSyncFlag_kind {env : Env} {k : Kind} (h : env.syncType = k.syncType) :
    slowSyncFlag env = k.flag env := by
  cases k <;>
    simp [slowSyncFlag, h, Kind.syncType, Kind.flag, syncTypeTodo, syncTypeCalendar, syncTypeAddress]

/-- A set flag is not cleared. -/
@[simp] theorem storeSyncState_flag (flags : UInt8) (env : Env) (k : Kind) :
    k.flag (storeSyncState flags env) = if flags &&& k.mask = 0 then 1 else k.flag env := by
  cases k <;> rfl

/-- Every type of synchronization sets the flag of the address book, and the
calendar its own; the flag of the todo items is never set. -/
theorem resetFlags_flag {env : Env} {k : Kind} (h : env.syncType = k.syncType) (k' : Kind) :
    k'.flag (resetFlags env) =
      if k' = .address ∨ (k' = .calendar ∧ k = .calendar) then 1 else k'.flag env := by
  cases k <;> cases k' <;>
    simp [resetFlags, h, Kind.syncType, Kind.flag, syncTypeTodo, syncTypeCalendar, syncTypeAddress]

/-- The calls of a run. -/
inductive FlagCall where
  | setSyncType (type : Nat)
  | obtainSyncState
  | resetSyncState
  deriving DecidableEq

def FlagCall.run (b : Build) : FlagCall → Session Int
  | .setSyncType type => zdtmSetSyncType type
  | .obtainSyncState => zdtmObtainSyncState b
  | .resetSyncState => zdtmResetSyncState b

/-- A call that was taken, with the states around it. -/
structure Taken where
  call : FlagCall
  before : State
  code : Int
  after : State

/-- The calls of a run, up to the first that faults: a reply too short for its fields is
read past its end there, and nothing is said of that call and of those behind it. -/
def history (b : Build) : List FlagCall → State → List Taken
  | [], _ => []
  | call :: calls, s =>
    match call.run b s with
    | (.ok code, s') => ⟨call, s, code, s'⟩ :: history b calls s'
    | (.error _, _) => []

/-- What holds of every call that is taken in a state holds of every call of a run. -/
theorem forall_history {b : Build} {P Q : Taken → Prop}
    (h : ∀ call s code s', call.run b s = (.ok code, s') →
      (P ⟨call, s, code, s'⟩ ↔ Q ⟨call, s, code, s'⟩)) (calls : List FlagCall) (s : State) :
    (∀ t ∈ history b calls s, P t) ↔ ∀ t ∈ history b calls s, Q t := by
  induction calls generalizing s with
  | nil => simp [history]
  | cons call calls ih =>
    cases hrun : call.run b s with
    | mk r s' =>
      cases r with
      | error f => simp [history, hrun]
      | ok code => simp [history, hrun, h call s code s' hrun, ih s']

/-- The flags say what the device was last known to hold: behind an AMG message,
what its bits say; behind a reset, that the current kind is new. -/
def Taken.Reflects (t : Taken) : Prop :=
  if t.code ≠ 0 then ∀ k : Kind, k.flag t.after.env = k.flag t.before.env
  else match t.call with
    | .setSyncType _ => ∀ k : Kind, k.flag t.after.env = k.flag t.before.env
    | .obtainSyncState => ∃ m, received (callsSince t.before t.after) = [m] ∧
        m.body.type = ZaurusType.amg.bytes ∧
        ∀ k : Kind, k.flag t.after.env =
          if m.body.cont.amg.fullsyncFlags &&& k.mask = 0 then 1 else 0
    | .resetSyncState => ∀ k : Kind, t.before.env.syncType = k.syncType →
        k.flag t.after.env = 1 ∧
          ∀ k' : Kind, k' ≠ k → k'.flag t.after.env = k'.flag t.before.env

/-- The AMG message clears no flag; the reset is one of the address book, or finds
that flag set, and that of the todo items if these are the current kind. -/
def Taken.KeepsStep (t : Taken) : Prop :=
  if t.code ≠ 0 then True
  else match t.call with
    | .setSyncType _ => True
    | .obtainSyncState => ∀ m, received (callsSince t.before t.after) = [m] →
        ∀ k : Kind, m.body.cont.amg.fullsyncFlags &&& k.mask = 0 ∨ k.flag t.before.env = 0
    | .resetSyncState => ∀ k : Kind, t.before.env.syncType = k.syncType → k ≠ .address →
        Kind.flag t.before.env .address = 1 ∧
          (k = .todo → Kind.flag t.before.env .todo = 1)

section Steps

variable {b : Build} {s s' : State} {code : Int}

/-- A call that fails changes nothing. -/
theorem failed_iff {t : DesktopType} {reply : ZaurusType} {store : ZdtmMsg → Env → Env}
    {call : FlagCall} (hruns : Runs (talks b) State.env (call.run b) (AnsweredCode t reply store))
    (hrun : call.run b s = (.ok code, s')) (hcode : code ≠ 0) :
    Taken.Reflects ⟨call, s, code, s'⟩ ↔ Taken.KeepsStep ⟨call, s, code, s'⟩ := by
  obtain ⟨cs, -, hanswered⟩ := hruns.run hrun
  obtain ⟨henv, -⟩ := answered_undone hanswered hcode
  simp [Taken.Reflects, Taken.KeepsStep, hcode, henv]

/-- A successful call stores what the one message says that was received. -/
theorem succeeded_stores {t : DesktopType} {reply : ZaurusType} {store : ZdtmMsg → Env → Env}
    {call : FlagCall} (hruns : Runs (talks b) State.env (call.run b) (AnsweredCode t reply store))
    (hrun : call.run b s = (.ok 0, s')) :
    ∃ m, received (callsSince s s') = [m] ∧ m.body.type = reply.bytes ∧
      s'.env = store m s.env := by
  obtain ⟨cs, htalks, hanswered⟩ := hruns.run hrun
  obtain ⟨m, hreceived, htype, henv⟩ := answered_stored hanswered
  rw [traffic_callsSince htalks.traffic]
  exact ⟨m, hreceived, htype, henv⟩

theorem obtainSyncState_iff (hrun : FlagCall.obtainSyncState.run b s = (.ok 0, s')) :
    Taken.Reflects ⟨.obtainSyncState, s, 0, s'⟩ ↔
      Taken.KeepsStep ⟨.obtainSyncState, s, 0, s'⟩ := by
  obtain ⟨m, hreceived, htype, henv⟩ := succeeded_stores (obtainSyncState_runs b) hrun
  have hflag : ∀ k : Kind, k.flag s'.env =
      if m.body.cont.amg.fullsyncFlags &&& k.mask = 0 then 1 else k.flag s.env := by
    intro k
    rw [henv, storeSyncState_flag]
  constructor
  · rintro ⟨m', hreceived', -, hreflects⟩ m'' hreceived'' k
    cases hreceived'.symm.trans hreceived
    cases hreceived''.symm.trans hreceived
    by_cases hbit : m.body.cont.amg.fullsyncFlags &&& k.mask = 0
    · exact Or.inl hbit
    · right
      have hzero := hreflects k
      simp only [hflag, hbit, if_false] at hzero
      exact hzero
  · intro hkeeps
    refine ⟨m, hreceived, htype, ?_⟩
    intro k
    change k.flag s'.env = _
    rw [hflag]
    rcases hkeeps m hreceived k with hbit | hzero
    · simp [hbit]
    · simp [hzero]

theorem resetSyncState_iff (hrun : FlagCall.resetSyncState.run b s = (.ok 0, s')) :
    Taken.Reflects ⟨.resetSyncState, s, 0, s'⟩ ↔
      Taken.KeepsStep ⟨.resetSyncState, s, 0, s'⟩ := by
  obtain ⟨m, -, -, henv⟩ := succeeded_stores (resetSyncState_runs b) hrun
  have hflag : ∀ k k' : Kind, s.env.syncType = k.syncType → k'.flag s'.env =
      if k' = .address ∨ (k' = .calendar ∧ k = .calendar) then 1 else k'.flag s.env := by
    intro k k' htype
    rw [henv, resetFlags_flag htype]
  constructor
  · intro hreflects k htype hk
    obtain ⟨hset, hothers⟩ := hreflects k htype
    have haddress := hothers .address hk.symm
    simp only [hflag k _ htype] at haddress hset
    refine ⟨by simpa using haddress.symm, ?_⟩
    rintro rfl
    simpa using hset
  · intro hkeeps k htype
    refine ⟨?_, ?_⟩
    · cases k with
      | todo => simpa [hflag _ _ htype] using (hkeeps .todo htype (by decide)).2 rfl
      | calendar => simp [hflag _ _ htype]
      | address => simp [hflag _ _ htype]
    · intro k' hne
      cases k' with
      | todo => simp [hflag _ _ htype]
      | calendar => simp [hflag _ _ htype, hne.symm]
      | address => simp [hflag _ _ htype, (hkeeps k htype hne.symm).1]

theorem reflects_iff {call : FlagCall} (hrun : call.run b s = (.ok code, s')) :
    Taken.Reflects ⟨call, s, code, s'⟩ ↔ Taken.KeepsStep ⟨call, s, code, s'⟩ := by
  by_cases hcode : code = 0
  · subst hcode
    cases call with
    | setSyncType type =>
      cases hrun
      refine ⟨fun _ => trivial, ?_⟩
      rintro - (_ | _ | _) <;> rfl
    | obtainSyncState => exact obtainSyncState_iff hrun
    | resetSyncState => exact resetSyncState_iff hrun
  · cases call with
    | setSyncType type =>
      cases hrun
      exact absurd rfl hcode
    | obtainSyncState => exact failed_iff (obtainSyncState_runs b) hrun hcode
    | resetSyncState => exact failed_iff (resetSyncState_runs b) hrun hcode

end Steps

end ZdtmSlowSync
