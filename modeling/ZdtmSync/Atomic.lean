import ZdtmSync.Discipline
import ZdtmSync.Replies

/-!
# Operations that fail

Every operation writes to the environment and to the variables of its caller
only behind its last way to fail, so a code other than 0 means that both are as
before the call.
-/

namespace ZdtmAtomic

open CMemory Programs ZdtmTypes ZdtmMsgs ZdtmNet ZdtmSession ZdtmProto ZdtmSync ZdtmExchanges
  ZdtmOperations ZdtmDiscipline ZdtmReplies

/-- The variables that the caller of an operation points to. -/
def Output : Operation → Type
  | .obtainLastTimeSynced _ => Int
  | .obtainItem _ _ => ItemParams
  | .obtainSyncIdLists _ => SyncIdLists
  | _ => Unit

/-- What they hold before the call. -/
def outputBefore : (op : Operation) → Output op
  | .obtainDeviceInfo => ()
  | .obtainSyncState => ()
  | .resetSyncState => ()
  | .authenticatePasscode _ => ()
  | .obtainLastTimeSynced pTime => pTime
  | .setLastTimeSynced _ => ()
  | .resetSyncLog => ()
  | .obtainParamFormat => ()
  | .obtainItem _ item => item
  | .obtainSyncIdLists lists => lists
  | .deleteItem _ => ()
  | .stateSyncDone => ()

/-- An operation without such variables. -/
def noOutput (x : Session Int) : Session (Int × Unit) := do return (← x, ())

/-- An operation with all that it hands back. -/
def call (b : Build) : (op : Operation) → Session (Int × Output op)
  | .obtainDeviceInfo => noOutput (zdtmObtainDeviceInfo b)
  | .obtainSyncState => noOutput (zdtmObtainSyncState b)
  | .resetSyncState => noOutput (zdtmResetSyncState b)
  | .authenticatePasscode passcode => noOutput (zdtmAuthenticatePasscode b passcode)
  | .obtainLastTimeSynced pTime => zdtmObtainLastTimeSynced b pTime
  | .setLastTimeSynced timeSynced => noOutput (zdtmSetLastTimeSynced b timeSynced)
  | .resetSyncLog => noOutput (zdtmResetSyncLog b)
  | .obtainParamFormat => noOutput (zdtmObtainParamFormat b)
  | .obtainItem syncId item => zdtmObtainItem b syncId item
  | .obtainSyncIdLists lists => zdtmObtainSyncIdLists b lists
  | .deleteItem syncId => noOutput (zdtmDeleteItem b syncId)
  | .stateSyncDone => noOutput (zdtmStateSyncDone b)

theorem returned_noOutput (x : Session Int) : returned (noOutput x) = x := by
  funext s
  cases hx : x s with
  | mk r s' =>
    cases r with
    | ok r => simp [returned, noOutput, Bind.bind, Pure.pure, hx]
    | error f => simp [returned, noOutput, Bind.bind, hx]

theorem returned_call (b : Build) (op : Operation) : returned (call b op) = op.run b := by
  cases op with
  | obtainLastTimeSynced pTime => rfl
  | obtainItem syncId item => rfl
  | obtainSyncIdLists lists => rfl
  | obtainDeviceInfo => exact returned_noOutput _
  | obtainSyncState => exact returned_noOutput _
  | resetSyncState => exact returned_noOutput _
  | authenticatePasscode passcode => exact returned_noOutput _
  | setLastTimeSynced timeSynced => exact returned_noOutput _
  | resetSyncLog => exact returned_noOutput _
  | obtainParamFormat => exact returned_noOutput _
  | deleteItem syncId => exact returned_noOutput _
  | stateSyncDone => exact returned_noOutput _

/-- A run that returns a code other than 0 keeps the environment and `before`. -/
def FailsUnchanged {β : Type} (before : β) (x : Session (Int × β)) : Prop :=
  ∀ s, Leads x s fun r s' => ∀ code out, r = .ok (code, out) → code ≠ 0 →
    s'.env = s.env ∧ out = before

section Unchanged

variable {b : Build} {t : DesktopType} {reply : ZaurusType} {store : ZdtmMsg → Env → Env}

theorem answeredWith_unchanged {β : Type} {before : β} {x : Session (Int × β)}
    (h : Runs (talks b) State.env x (AnsweredWith before t reply store)) :
    FailsUnchanged before x := by
  intro s
  apply (h s).mono
  rintro r s' ⟨cs, -, hrun⟩ code out rfl hcode
  obtain ⟨henv, code', hout⟩ := answered_undone hrun hcode
  cases hout
  exact ⟨henv, rfl⟩

/-- The code alone decides. -/
theorem noOutput_unchanged {x : Session Int}
    (h : ∀ s, Leads x s fun r s' => ∀ code, r = .ok code → code ≠ 0 → s'.env = s.env) :
    FailsUnchanged () (noOutput x) := by
  intro s
  apply leads_bind (h s)
  · intro r s' henv
    apply leads_pure
    rintro code out heq hcode
    cases heq
    exact ⟨henv _ rfl hcode, rfl⟩
  · intro f s' henv code out heq
    cases heq

theorem answeredCode_unchanged {x : Session Int}
    (h : Runs (talks b) State.env x (AnsweredCode t reply store)) :
    FailsUnchanged () (noOutput x) := by
  apply noOutput_unchanged
  intro s
  apply (h s).mono
  rintro r s' ⟨cs, -, hrun⟩ code rfl hcode
  exact (answered_undone hrun hcode).1

/-- The environment is not written to at all. -/
theorem exchanges_unchanged {R : Except Fault Int → List Call → Prop} {x : Session Int}
    (h : Logs (exchanges b) x R) : FailsUnchanged () (noOutput x) := by
  apply noOutput_unchanged
  intro s
  apply (h s).mono
  rintro r s' ⟨cs, hexchanges, -⟩ code - -
  exact hexchanges.env

end Unchanged

/-- An operation that returns a code other than 0 has changed neither the
environment nor the variables of its caller. -/
theorem operations_atomic (b : Build) (op : Operation) (s : State) {code : Int}
    {out : Output op} (hrun : (call b op s).1 = .ok (code, out)) (hcode : code ≠ 0) :
    (call b op s).2.env = s.env ∧ out = outputBefore op := by
  have hunchanged : FailsUnchanged (outputBefore op) (call b op) := by
    cases op with
    | obtainDeviceInfo => exact answeredCode_unchanged (obtainDeviceInfo_runs b)
    | obtainSyncState => exact answeredCode_unchanged (obtainSyncState_runs b)
    | resetSyncState => exact answeredCode_unchanged (resetSyncState_runs b)
    | authenticatePasscode passcode =>
      exact exchanges_unchanged (authenticatePasscode_logs b passcode)
    | obtainLastTimeSynced pTime =>
      exact answeredWith_unchanged (obtainLastTimeSynced_runs b pTime)
    | setLastTimeSynced timeSynced =>
      exact answeredCode_unchanged (setLastTimeSynced_runs b timeSynced)
    | resetSyncLog => exact exchanges_unchanged (resetSyncLog_logs b)
    | obtainParamFormat => exact answeredCode_unchanged (obtainParamFormat_runs b)
    | obtainItem syncId item => exact answeredWith_unchanged (obtainItem_runs b syncId item)
    | obtainSyncIdLists lists => exact answeredWith_unchanged (obtainSyncIdLists_runs b lists)
    | deleteItem syncId => exact answeredCode_unchanged (deleteItem_runs b syncId)
    | stateSyncDone => exact answeredCode_unchanged (stateSyncDone_runs b)
  exact hunchanged s code out hrun hcode

/-- The device answers with AEX, which is not the time asked for. -/
theorem operations_atomic_mistyped :
    (call .littleEndian (.obtainLastTimeSynced 5) doneState).2.env = doneState.env ∧
      (5 : Int) = outputBefore (.obtainLastTimeSynced 5) := by
  have hrun : (zdtmObtainLastTimeSynced .littleEndian 5 doneState).1 = .ok (-3, 5) := by
    decide +kernel
  exact operations_atomic .littleEndian (.obtainLastTimeSynced 5) doneState hrun (by decide)

end ZdtmAtomic
