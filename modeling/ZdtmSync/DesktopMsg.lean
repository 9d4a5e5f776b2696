import ZdtmSync.Common

/-!
# Length functions and writers of the Desktop messages

One pair of functions for each content-bearing type, from the files
`zdtm_r*_msg.c`: the length that is allocated for the content, and the bytes
that are written into the allocated block.
-/

namespace ZdtmDesktopMsg

open LittleEndian CMemory ZdtmTypes ZdtmCommon

/-- What a writer put into the buffer, and whether it returned NULL. -/
structure Written where
  bytes : List UInt8
  null : Bool := false
  deriving DecidableEq, Repr

def zdtmRmgLength (_rmg : RmgMsgContent) : Int := 2
def zdtmRmgWrite (rmg : RmgMsgContent) : List UInt8 := [rmg.uk, rmg.syncType]

def zdtmRtsLength (_rts : RtsMsgContent) : Int := 14
def zdtmRtsWrite (rts : RtsMsgContent) : List UInt8 := rts.date.toList

def zdtmRdiLength (_rdi : RdiMsgContent) : Int := 2
def zdtmRdiWrite (rdi : RdiMsgContent) : List UInt8 := [rdi.syncType, rdi.uk]

def zdtmRsyLength (_rsy : RsyMsgContent) : Int := 2
def zdtmRsyWrite (rsy : RsyMsgContent) : List UInt8 := [rsy.syncType, rsy.uk]

def zdtmRssLength (_rss : RssMsgContent) : Int := 3
def zdtmRssWrite (rss : RssMsgContent) : List UInt8 := [rss.uk1, rss.syncType, rss.uk2]

def zdtmRdsLength (_rds : RdsMsgContent) : Int := 4
def zdtmRdsWrite (rds : RdsMsgContent) : List UInt8 :=
  [rds.syncType, rds.status] ++ rds.nullBytes.toList

def zdtmRqtLength (_rqt : RqtMsgContent) : Int := 3
def zdtmRqtWrite (rqt : RqtMsgContent) : List UInt8 := rqt.nullBytes.toList

def zdtmRlrLength (_rlr : RlrMsgContent) : Int := 1
def zdtmRlrWrite (rlr : RlrMsgContent) : List UInt8 := [rlr.syncType]

def zdtmRrlLength (rrl : RrlMsgContent) : Int := 1 + rrl.pwSize.toNat

def zdtmRrlWrite (rrl : RrlMsgContent) : Except Fault (List UInt8) := do
  let pw ← load rrl.pw rrl.pwSize.toNat
  return rrl.pwSize :: pw

def zdtmRgeLength (rge : RgeMsgContent) : Int := 2 + rge.pathLen.toNat

/-- The length goes out in host order in both builds. -/
def zdtmRgeWrite (b : Build) (rge : RgeMsgContent) : Except Fault (List UInt8) := do
  let path ← load rge.path rge.pathLen.toNat
  return hostShort b rge.pathLen ++ path

def zdtmRmsLength (_rms : RmsMsgContent) : Int := 40

def zdtmRmsWrite (b : Build) (rms : RmsMsgContent) : Written :=
  if rmsLogSize < rms.logSize.toNat then { bytes := [], null := true }
  else
    { bytes := putShort b rms.logSize ++ rms.log.toList.take rms.logSize.toNat ++
        List.replicate (rmsLogSize - rms.logSize.toNat) 0 }

/-- `*((uint32_t*)buf) = …` with the 16-bit helper `zdtm_liltobigs` under
WORDS_BIGENDIAN. -/
def putSyncId (b : Build) (syncId : UInt32) : List UInt8 :=
  match b with
  | .bigEndian => hostLong b (zdtmLiltobigs b syncId.toUInt16).toUInt32
  | .littleEndian => hostLong b syncId

def syncIdsWrite (b : Build) (syncType : UInt8) (numSyncIds : UInt16) (syncId : UInt32) :
    List UInt8 :=
  [syncType] ++ putShort b numSyncIds ++ putSyncId b syncId

def zdtmRdrLength (_rdr : RdrMsgContent) : Int := 1 + 2 + 4
def zdtmRdrWrite (b : Build) (rdr : RdrMsgContent) : List UInt8 :=
  syncIdsWrite b rdr.syncType rdr.numSyncIds rdr.syncId

def zdtmRddLength (_rdd : RddMsgContent) : Int := 1 + 2 + 4
def zdtmRddWrite (b : Build) (rdd : RddMsgContent) : List UInt8 :=
  syncIdsWrite b rdd.syncType rdd.numSyncIds rdd.syncId

/-- The inner switch over the synchronization type. -/
def rdwItemLength (size : Int) (rdw : RdwMsgContent) : Int :=
  if rdw.syncType = syncTypeTodo then toInt (size + zdtmTodoLength rdw.todo) else retUnkType

def zdtmRdwLength (rdw : RdwMsgContent) : Int :=
  let size := 1 + 2 + 4
  if rdw.variation = 1 then rdwItemLength (size + 16) rdw
  else if rdw.variation = 2 then size + (4 + 1)
  else if rdw.variation = 3 then
    rdwItemLength (size + (4 + 1 + 4 + 5 + 4 + 5 + 4 + 4)) rdw
  else retUnkVar

def rdwVariationTwo (b : Build) (vars : RdwVariations) : List UInt8 :=
  putLong b 1 ++ [vars.attr]

/-- The last id is copied as it lies in memory. -/
def rdwVariationThree (b : Build) (three : RdwVariationThree) : List UInt8 :=
  putLong b 1 ++ [three.attr] ++
    putLong b 5 ++ three.cardCreatedDateTime.toList ++
    putLong b 5 ++ three.cardModDateTime.toList ++
    putLong b 4 ++ hostLong b three.syncId

def rdwItemWrite (b : Build) (before : List UInt8) (rdw : RdwMsgContent) :
    Except Fault Written := do
  if rdw.syncType = syncTypeTodo then
    let todo ← zdtmTodoWrite b rdw.todo
    return { bytes := before ++ todo }
  else return { bytes := before, null := true }

def zdtmRdwWrite (b : Build) (rdw : RdwMsgContent) : Except Fault Written :=
  let head := syncIdsWrite b rdw.syncType rdw.numSyncIds rdw.syncId
  if rdw.variation = 1 then rdwItemWrite b (head ++ rdw.vars.padding.toList) rdw
  else if rdw.variation = 2 then .ok { bytes := head ++ rdwVariationTwo b rdw.vars }
  else if rdw.variation = 3 then
    rdwItemWrite b (head ++ rdwVariationThree b rdw.vars.three) rdw
  else .ok { bytes := head }

@[simp] theorem length_putSyncId (b : Build) (syncId : UInt32) :
    (putSyncId b syncId).length = 4 := by
  cases b <;> simp [putSyncId]

@[simp] theorem length_syncIdsWrite (b : Build) (syncType : UInt8) (numSyncIds : UInt16)
    (syncId : UInt32) : (syncIdsWrite b syncType numSyncIds syncId).length = 7 := by
  simp [syncIdsWrite]

@[simp] theorem length_rdwVariationTwo (b : Build) (vars : RdwVariations) :
    (rdwVariationTwo b vars).length = 5 := by
  simp [rdwVariationTwo]

@[simp] theorem length_rdwVariationThree (b : Build) (three : RdwVariationThree) :
    (rdwVariationThree b three).length = 31 := by
  simp [rdwVariationThree]

theorem zdtmRrlWrite_of_le {rrl : RrlMsgContent} (h : rrl.pwSize.toNat ≤ rrl.pw.target.length) :
    zdtmRrlWrite rrl = .ok (rrl.pwSize :: rrl.pw.target.take rrl.pwSize.toNat) := by
  simp only [zdtmRrlWrite, load_of_le h]
  rfl

theorem zdtmRrlWrite_of_lt {rrl : RrlMsgContent} (h : rrl.pw.target.length < rrl.pwSize.toNat) :
    zdtmRrlWrite rrl = .error .overread := by
  simp only [zdtmRrlWrite, load_of_lt h]
  rfl

theorem zdtmRgeWrite_of_le (b : Build) {rge : RgeMsgContent}
    (h : rge.pathLen.toNat ≤ rge.path.target.length) :
    zdtmRgeWrite b rge =
      .ok (hostShort b rge.pathLen ++ rge.path.target.take rge.pathLen.toNat) := by
  simp only [zdtmRgeWrite, load_of_le h]
  rfl

theorem zdtmRgeWrite_of_lt (b : Build) {rge : RgeMsgContent}
    (h : rge.path.target.length < rge.pathLen.toNat) :
    zdtmRgeWrite b rge = .error .overread := by
  simp only [zdtmRgeWrite, load_of_lt h]
  rfl

theorem zdtmRmsWrite_of_le (b : Build) {rms : RmsMsgContent} (h : rms.logSize.toNat ≤ 38) :
    zdtmRmsWrite b rms =
      { bytes := bytes 2 rms.logSize.toNat ++ rms.log.toList.take rms.logSize.toNat ++
          List.replicate (38 - rms.logSize.toNat) 0 } := by
  simp only [zdtmRmsWrite, if_neg (not_lt.mpr h), putShort_eq]

theorem zdtmRmsWrite_of_lt (b : Build) {rms : RmsMsgContent} (h : 38 < rms.logSize.toNat) :
    zdtmRmsWrite b rms = { bytes := [], null := true } := if_pos h

theorem rdwItemWrite_todo (b : Build) (before : List UInt8) {rdw : RdwMsgContent}
    (hs : rdw.syncType = syncTypeTodo) (hr : TodoReadable rdw.todo) :
    rdwItemWrite b before rdw = .ok { bytes := before ++ todoBytes b rdw.todo } := by
  simp only [rdwItemWrite, if_pos hs, zdtmTodoWrite_readable b hr]
  rfl

theorem rdwItemWrite_other (b : Build) (before : List UInt8) {rdw : RdwMsgContent}
    (hs : rdw.syncType ≠ syncTypeTodo) :
    rdwItemWrite b before rdw = .ok { bytes := before, null := true } := by
  simp only [rdwItemWrite, if_neg hs]
  rfl

theorem rdwItemWrite_unreadable (b : Build) (before : List UInt8) {rdw : RdwMsgContent}
    (hs : rdw.syncType = syncTypeTodo) (hr : ¬ TodoReadable rdw.todo) :
    ∃ f, rdwItemWrite b before rdw = .error f := by
  cases hw : zdtmTodoWrite b rdw.todo with
  | ok written => exact absurd (zdtmTodoWrite_ok hw).1 hr
  | error f =>
    refine ⟨f, ?_⟩
    simp only [rdwItemWrite, if_pos hs, hw]
    rfl

end ZdtmDesktopMsg
