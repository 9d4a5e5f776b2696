import ZdtmSync.CMemory

/-!
# Message types and contents

The constants of `zdtm_types.h` and `zdtm_common.h`, the content structures of
the message headers and the message itself. Fixed arrays are vectors, pointers
are `Ptr`, and every structure is zero by default, as after `memset`. A union
is a record with one field for each member: the functions read only the member
that the message type (or the variation) selects.
-/

namespace ZdtmTypes

open CMemory

abbrev Bytes (n : Nat) := List.Vector UInt8 n

def zeros (n : Nat) : Bytes n := List.Vector.replicate n 0

/-- Whether configure defined WORDS_BIGENDIAN; the host has that byte order. -/
inductive Build where
  | littleEndian
  | bigEndian
  deriving DecidableEq, Repr

abbrev msgHdrSize : Nat := 13
abbrev msgTypeSize : Nat := 3
abbrev comMsgSize : Nat := 7
abbrev msgHdrContOffset : Nat := 9
abbrev rmsLogSize : Nat := 38
abbrev rtsDateLen : Nat := 14

abbrev retNnullRaw : Int := -7
abbrev retMemContent : Int := -9
abbrev retUnkType : Int := -10
abbrev retUnkVar : Int := -12
abbrev retMallocFail : Int := -13
abbrev retParseRawFail : Int := -14

abbrev syncTypeTodo : UInt8 := 0x06

/-- The header of every message of the Desktop; the two 0xff bytes are replaced. -/
def dmsgHdr : Bytes msgHdrSize :=
  ⟨[0x00, 0x00, 0x00, 0x00, 0x00, 0x96, 0x01, 0x01, 0x0c, 0xff, 0xff, 0x00, 0x00], rfl⟩

abbrev MsgType := Bytes msgTypeSize

def ascii (a b c : Char) : MsgType :=
  ⟨[UInt8.ofNat a.toNat, UInt8.ofNat b.toNat, UInt8.ofNat c.toNat], rfl⟩

inductive DesktopType where
  | ray | rig | rrl | rmg | rms | rtg | rts | rdi | rsy | rss | rdr | rdw | rdd | rds | rqt
  | rlr | rge
  deriving DecidableEq, Repr

def DesktopType.bytes : DesktopType → MsgType
  | .ray => ascii 'R' 'A' 'Y'
  | .rig => ascii 'R' 'I' 'G'
  | .rrl => ascii 'R' 'R' 'L'
  | .rmg => ascii 'R' 'M' 'G'
  | .rms => ascii 'R' 'M' 'S'
  | .rtg => ascii 'R' 'T' 'G'
  | .rts => ascii 'R' 'T' 'S'
  | .rdi => ascii 'R' 'D' 'I'
  | .rsy => ascii 'R' 'S' 'Y'
  | .rss => ascii 'R' 'S' 'S'
  | .rdr => ascii 'R' 'D' 'R'
  | .rdw => ascii 'R' 'D' 'W'
  | .rdd => ascii 'R' 'D' 'D'
  | .rds => ascii 'R' 'D' 'S'
  | .rqt => ascii 'R' 'Q' 'T'
  | .rlr => ascii 'R' 'L' 'R'
  | .rge => ascii 'R' 'G' 'E'

inductive ZaurusType where
  | aay | aig | amg | atg | aex | ang | adi | asy | adr | adw
  deriving DecidableEq, Repr

def ZaurusType.bytes : ZaurusType → MsgType
  | .aay => ascii 'A' 'A' 'Y'
  | .aig => ascii 'A' 'I' 'G'
  | .amg => ascii 'A' 'M' 'G'
  | .atg => ascii 'A' 'T' 'G'
  | .aex => ascii 'A' 'E' 'X'
  | .ang => ascii 'A' 'N' 'G'
  | .adi => ascii 'A' 'D' 'I'
  | .asy => ascii 'A' 'S' 'Y'
  | .adr => ascii 'A' 'D' 'R'
  | .adw => ascii 'A' 'D' 'W'

/-- The order in which `_zdtm_prepare_message` compares the types. -/
def DesktopType.order : List DesktopType :=
  [.rrl, .rmg, .rms, .rts, .rdi, .rsy, .rss, .rdr, .rdw, .rdd, .rds, .rqt, .rlr, .rge,
    .ray, .rig, .rtg]

/-- The order in which `_zdtm_parse_raw_msg` compares the types. -/
def ZaurusType.order : List ZaurusType :=
  [.aay, .aig, .amg, .atg, .aex, .ang, .adi, .asy, .adr, .adw]

/-- The chain of `IS_…` tests: the first type whose three bytes agree. -/
def desktopType (t : MsgType) : Option DesktopType :=
  DesktopType.order.find? fun d => decide (t = d.bytes)

def zaurusType (t : MsgType) : Option ZaurusType :=
  ZaurusType.order.find? fun z => decide (t = z.bytes)

@[simp] theorem desktopType_bytes (d : DesktopType) : desktopType d.bytes = some d := by
  cases d <;> decide

@[simp] theorem zaurusType_bytes (z : ZaurusType) : zaurusType z.bytes = some z := by
  cases z <;> decide

theorem desktopType_some {t : MsgType} {d : DesktopType} (h : desktopType t = some d) :
    t = d.bytes := by
  simpa using List.find?_some h

theorem zaurusType_some {t : MsgType} {z : ZaurusType} (h : zaurusType t = some z) :
    t = z.bytes := by
  simpa using List.find?_some h

theorem DesktopType.bytes_injective : Function.Injective DesktopType.bytes := by
  intro d e h
  have hs : some d = some e := by rw [← desktopType_bytes d, h, desktopType_bytes]
  exact Option.some.inj hs

structure AayMsgContent where
  ukData0 : Bytes 3 := zeros 3
  deriving DecidableEq

structure AigMsgContent where
  modelStrLen : UInt16 := 0
  modelStr : Ptr := none
  ukData0 : Bytes 5 := zeros 5
  language : Bytes 2 := zeros 2
  authState : UInt8 := 0
  ukData1 : Bytes 6 := zeros 6
  deriving DecidableEq

structure AmgMsgContent where
  sl : Bytes 2 := zeros 2
  fullsyncFlags : UInt8 := 0
  uk : Bytes 46 := zeros 46
  deriving DecidableEq

structure AtgMsgContent where
  year : Bytes 4 := zeros 4
  month : Bytes 2 := zeros 2
  day : Bytes 2 := zeros 2
  hour : Bytes 2 := zeros 2
  minutes : Bytes 2 := zeros 2
  seconds : Bytes 2 := zeros 2
  deriving DecidableEq

structure AngMsgContent where
  ukData0 : UInt8 := 0
  deriving DecidableEq

structure AdiMsgParam where
  abrev : Bytes 4 := zeros 4
  typeId : UInt8 := 0
  descLen : UInt16 := 0
  desc : Ptr := none
  deriving DecidableEq

structure AdiMsgContent where
  numCards : UInt32 := 0
  numParams : UInt16 := 0
  ukData0 : UInt8 := 0
  params : Option (List AdiMsgParam) := none
  deriving DecidableEq

structure AsyMsgContent where
  newListId : UInt8 := 0
  numNewSyncIds : UInt16 := 0
  newSyncIds : Option (List UInt32) := none
  modListId : UInt8 := 0
  numModSyncIds : UInt16 := 0
  modSyncIds : Option (List UInt32) := none
  delListId : UInt8 := 0
  numDelSyncIds : UInt16 := 0
  delSyncIds : Option (List UInt32) := none
  deriving DecidableEq

structure AdrMsgParam where
  paramLen : UInt32 := 0
  paramData : Ptr := none
  deriving DecidableEq

structure AdrMsgContent where
  uk : Bytes 2 := zeros 2
  numParams : UInt16 := 0
  params : Option (List AdrMsgParam) := none
  deriving DecidableEq

structure AdwMsgContent where
  uk : Bytes 4 := zeros 4
  numSyncIds : UInt16 := 0
  syncId : UInt32 := 0
  deriving DecidableEq

structure RrlMsgContent where
  pwSize : UInt8 := 0
  pw : Ptr := none
  deriving DecidableEq

structure RmgMsgContent where
  uk : UInt8 := 0
  syncType : UInt8 := 0
  deriving DecidableEq

structure RmsMsgContent where
  logSize : UInt16 := 0
  log : Bytes rmsLogSize := zeros rmsLogSize
  deriving DecidableEq

structure RtsMsgContent where
  date : Bytes rtsDateLen := zeros rtsDateLen
  deriving DecidableEq

structure RdiMsgContent where
  syncType : UInt8 := 0
  uk : UInt8 := 0
  deriving DecidableEq

structure RsyMsgContent where
  syncType : UInt8 := 0
  uk : UInt8 := 0
  deriving DecidableEq

structure RssMsgContent where
  uk1 : UInt8 := 0
  syncType : UInt8 := 0
  uk2 : UInt8 := 0
  deriving DecidableEq

structure RdrMsgContent where
  syncType : UInt8 := 0
  numSyncIds : UInt16 := 0
  syncId : UInt32 := 0
  deriving DecidableEq

structure TodoItem where
  attr : UInt8 := 0
  creationDate : Bytes 5 := zeros 5
  modificationDate : Bytes 5 := zeros 5
  syncId : UInt32 := 0
  categoryLen : UInt32 := 0
  category : Ptr := none
  startDate : Bytes 5 := zeros 5
  dueDate : Bytes 5 := zeros 5
  completedDate : Bytes 5 := zeros 5
  progress : UInt8 := 0
  priority : UInt8 := 0
  descriptionLen : UInt32 := 0
  description : Ptr := none
  notesLen : UInt32 := 0
  notes : Ptr := none
  deriving DecidableEq

structure RdwVariationThree where
  attr : UInt8 := 0
  cardCreatedDateTime : Bytes 5 := zeros 5
  cardModDateTime : Bytes 5 := zeros 5
  syncId : UInt32 := 0
  deriving DecidableEq

structure RdwVariations where
  padding : Bytes 16 := zeros 16
  attr : UInt8 := 0
  three : RdwVariationThree := {}
  deriving DecidableEq

structure RdwMsgContent where
  syncType : UInt8 := 0
  numSyncIds : UInt16 := 0
  syncId : UInt32 := 0
  variation : UInt8 := 0
  vars : RdwVariations := {}
  todo : TodoItem := {}
  deriving DecidableEq

structure RddMsgContent where
  syncType : UInt8 := 0
  numSyncIds : UInt16 := 0
  syncId : UInt32 := 0
  deriving DecidableEq

structure RdsMsgContent where
  syncType : UInt8 := 0
  status : UInt8 := 0
  nullBytes : Bytes 2 := zeros 2
  deriving DecidableEq

structure RqtMsgContent where
  nullBytes : Bytes 3 := zeros 3
  deriving DecidableEq

structure RlrMsgContent where
  syncType : UInt8 := 0
  deriving DecidableEq

structure RgeMsgContent where
  pathLen : UInt16 := 0
  path : Ptr := none
  deriving DecidableEq

structure SpecTypeContent where
  aay : AayMsgContent := {}
  aig : AigMsgContent := {}
  amg : AmgMsgContent := {}
  atg : AtgMsgContent := {}
  ang : AngMsgContent := {}
  adi : AdiMsgContent := {}
  adr : AdrMsgContent := {}
  asy : AsyMsgContent := {}
  adw : AdwMsgContent := {}
  rrl : RrlMsgContent := {}
  rmg : RmgMsgContent := {}
  rms : RmsMsgContent := {}
  rts : RtsMsgContent := {}
  rdi : RdiMsgContent := {}
  rsy : RsyMsgContent := {}
  rss : RssMsgContent := {}
  rdr : RdrMsgContent := {}
  rdw : RdwMsgContent := {}
  rdd : RddMsgContent := {}
  rds : RdsMsgContent := {}
  rqt : RqtMsgContent := {}
  rlr : RlrMsgContent := {}
  rge : RgeMsgContent := {}
  deriving DecidableEq

structure ZdtmMessageBody where
  type : MsgType := zeros msgTypeSize
  pRawContent : Ptr := none
  cont : SpecTypeContent := {}
  deriving DecidableEq

structure ZdtmMsg where
  header : Bytes msgHdrSize := zeros msgHdrSize
  body : ZdtmMessageBody := {}
  bodySize : UInt16 := 0
  checkSum : UInt16 := 0
  contSize : UInt16 := 0
  deriving DecidableEq

end ZdtmTypes
