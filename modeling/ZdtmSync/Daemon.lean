import ZdtmSync.Log
import ZdtmSync.Sync

/-!
# The test daemon

`zdtm_test_daemon.c`, the application of the library that comes with it: it
synchronizes the to-do items of a Zaurus at a fixed address, prints the new ones,
and says that the synchronization is done if it got all of them.
-/

namespace ZdtmDaemon

open CMemory Programs ZdtmTypes ZdtmItems ZdtmSession ZdtmProto ZdtmSync
open ZdtmLog (text hexadecimal)

/-- One call of `printf`, or of `fprintf` to `stderr`. -/
inductive Printed where
  | stdout (text : List UInt8)
  | stderr (text : List UInt8)
  deriving DecidableEq

/-- A program of the application: it calls the library and prints. -/
abbrev Daemon (α : Type) := Program (State × List Printed) Fault α

def call {α : Type} (x : Session α) : Daemon α := fun (s, out) =>
  match x s with
  | (r, s') => (r, (s', out))

def print (p : Printed) : Daemon Unit := Program.modify fun (s, out) => (s, out ++ [p])

def printf (text : List UInt8) : Daemon Unit := print (.stdout text)

def fprintf (text : List UInt8) : Daemon Unit := print (.stderr text)

/-- `%u`, and `%d` for an `int`. -/
def number (n : Int) : List UInt8 := decimal 0 n

/-- The `unsigned int` that `%x` makes of a `char`, which is signed on the host. -/
def promoted (c : UInt8) : Nat := if c < 0x80 then c.toNat else 0xffffff00 + c.toNat

/-- `memset`, `memcpy` and `%s` of the buffer of 256 characters: without a NUL the
output runs behind it. -/
def bufferText (src : Ptr) (len : UInt32) : Except Fault (List UInt8) := do
  let string ← load src len.toNat
  let buff ← store (zeros 256).toList string
  if 0 ∈ buff then .ok (buff.takeWhile (· ≠ 0)) else .error .overread

/-- Progress and priority are plain `char`s. -/
def printTodoItem (item : TodoItem) : Daemon Unit := do
  printf (text "--== Todo Item ==--\n")
  printf (text "Sync ID: " ++ number item.syncId.toNat ++ text "\n")
  let category ← Program.lift (bufferText item.category item.categoryLen)
  printf (text "Category: " ++ category ++ text "\n")
  printf (text "Progress: 0x" ++ hexadecimal 2 (promoted item.progress) ++ text "\n")
  printf (text "Priority: 0x" ++ hexadecimal 2 (promoted item.priority) ++ text "\n")
  let description ← Program.lift (bufferText item.description item.descriptionLen)
  printf (text "Description: " ++ description ++ text "\n")
  let notes ← Program.lift (bufferText item.notes item.notesLen)
  printf (text "Notes: " ++ notes ++ text "\n")

/-- `ERR(%d): … failed.` -/
def failed (name : String) (r : Int) : Daemon Unit :=
  fprintf (text "ERR(" ++ number r ++ text "): " ++ text name ++ text "() failed.\n")

def syncIdLine (kind : String) (i : Nat) (syncId : UInt32) : List UInt8 :=
  text " -- " ++ text kind ++ text " sync id [" ++ number i ++ text "] = (hex) 0x" ++
    hexadecimal 8 syncId.toNat ++ text ", (dec) " ++ number syncId.toNat ++ text "\n"

/-- The loop over the new sync ids. The item is a variable of its caller that is not
initialized, and one round leaves it to the next. -/
def obtainNewItems (b : Build) : Nat → List UInt32 → TodoItem → Daemon Int
  | _, [], _ => return 0
  | i, syncId :: syncIds, todoItem => do
    printf (syncIdLine "new" i syncId)
    printf (text "Before the call to zdtm_obtain_todo_item.\n")
    let (r, todoItem) ← call (zdtmObtainTodoItem b syncId todoItem)
    printf (text "After the call to zdtm_obtain_todo_item.\n")
    if r ≠ 0 then
      failed "zdtm_obtain_todo_item" r
      return 22
    printTodoItem todoItem
    obtainNewItems b (i + 1) syncIds todoItem

def printSyncIds (kind : String) : Nat → List UInt32 → Daemon Unit
  | _, [] => return ()
  | i, syncId :: syncIds => do
    printf (syncIdLine kind i syncId)
    printSyncIds kind (i + 1) syncIds

def numLine (kind : String) (num : UInt16) : List UInt8 :=
  text "num " ++ text kind ++ text " sync ids = " ++ number num.toNat ++ text "\n"

/-- As many of the ids as the count says. -/
def counted (syncIds : Option (List UInt32)) (num : UInt16) : List UInt32 :=
  (syncIds.getD []).take num.toNat

/-- `todoItem` is what the variable of the function happens to hold. -/
def testGetChangeinfo (b : Build) (todoItem : TodoItem) : Daemon Int := do
  let (r, lists) ← call (zdtmObtainSyncIdLists b {})
  if r ≠ 0 then
    failed "_zdtm_obtain_sync_id_lists" r
    return 8
  printf (numLine "new" lists.numNewSyncIds)
  let r ← obtainNewItems b 0 (counted lists.newSyncIds lists.numNewSyncIds) todoItem
  if r ≠ 0 then return r
  printf (numLine "mod" lists.numModSyncIds)
  printSyncIds "mod" 0 (counted lists.modSyncIds lists.numModSyncIds)
  printf (numLine "del" lists.numDelSyncIds)
  printSyncIds "del" 0 (counted lists.delSyncIds lists.numDelSyncIds)
  return 0

/-- "192.168.129.201" -/
def zaurusAddress : Bytes ipStrSize :=
  ⟨[0x31, 0x39, 0x32, 0x2e, 0x31, 0x36, 0x38, 0x2e, 0x31, 0x32, 0x39, 0x2e, 0x32, 0x30, 0x31, 0],
    rfl⟩

/-- The passcode is the only argument behind the name of the program. -/
def setPasscode : List CString → Daemon Int
  | [_, passcode] => do
    let r ← call (zdtmSetPasscode passcode)
    if r ≠ 0 then
      failed "zdtm_set_passcode" r
      return 5
    printf (text "Successfully set the passcode.\n")
    return 0
  | _ => do
    printf (text "No passcode given, trying without one.\n")
    return 0

/-- What is done once the synchronization is initiated. The code of the items decides
only whether the device is told that the synchronization is done. -/
def synchronizeItems (b : Build) (todoItem : TodoItem) : Daemon Int := do
  let r ← testGetChangeinfo b todoItem
  printf (text "get_changeinfo - (" ++ number r ++ text ").\n")
  if r = 0 then
    let r ← call (zdtmStateSyncDone b)
    if r ≠ 0 then
      failed "_zdtm_state_sync_done" r
      return 6
  let r ← call (zdtmTerminateSync b)
  if r ≠ 0 then
    failed "zdtm_terminate_sync" r
    return 7
  printf (text "Successfully terminated synchronization.\n")
  let r ← call zdtmFinalize
  if r ≠ 0 then
    fprintf (text "Error(" ++ number r ++ text "): Failed to finalize the zdtm library.\n")
    return 8
  printf (text "Successfully finalized the zdtm sync library.\n")
  return 0

def main (b : Build) (todoItem : TodoItem) (argv : List CString) : Daemon Int := do
  if 2 < argv.length then
    printf (text "Usage: " ++ (argv.head?.map Subtype.val).getD [] ++ text " [passcode]\n")
    return 0
  call (modifyEnv fun _ => {})
  let r ← call zdtmInitialize
  if r ≠ 0 then
    failed "zdtm_initialize" r
    return 1
  printf (text "Succsessfully initialized zdtm sync library.\n")
  let r ← call (zdtmSetZaurusIp zaurusAddress.toList)
  if r ≠ 0 then
    failed "zdtm_set_zaurus_ip" r
    return 2
  printf (text "Successfully set the Zaurus IP address.\n")
  let r ← call (zdtmSetSyncType 0)
  if r ≠ 0 then
    failed "zdtm_set_sync_type" r
    return 3
  printf (text "Successfully set the Synchronization Type.\n")
  let r ← setPasscode argv
  if r ≠ 0 then return r
  let r ← call (zdtmInitiateSync b)
  if r ≠ 0 then
    failed "zdtm_initiate_sync" r
    return 4
  printf (text "- Initiated Synchronization\n")
  synchronizeItems b todoItem

end ZdtmDaemon
