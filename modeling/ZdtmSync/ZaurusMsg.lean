import ZdtmSync.Common

/-!
# Parsers of the Zaurus messages

The functions `zdtm_parse_raw_*_msg` of the files `zdtm_a*_msg.c`, as scans
over the raw content, and for each one the layout it reads: a decoder that
consumes the same fields and rejects content that ends too early. None of the
parsers is given the length of its content. After a refused allocation the
fields filled so far are not kept: no caller reads them.
-/

namespace ZdtmZaurusMsg

open LittleEndian ByteCodec CMemory ZdtmTypes ZdtmCommon
open CMemory.Scan (Refines refines_pure refines_bind refines_raw refines_alloc_bind refines_times)

def uchar : Scan UInt8 := do
  let v ← Scan.raw 1
  return v.head

def short (b : Build) : Scan UInt16 := do
  let v ← Scan.raw 2
  return getShort b v.toList

def long (b : Build) : Scan UInt32 := do
  let v ← Scan.raw 4
  return getLong b v.toList

/-- `… = *((uint16_t *)buf)` with the 32-bit helper `zdtm_liltobigl` under
WORDS_BIGENDIAN. -/
def getShortByLong (b : Build) (bs : List UInt8) : UInt16 :=
  match b with
  | .bigEndian => (zdtmLiltobigl b (shortAt b bs).toUInt32).toUInt16
  | .littleEndian => shortAt b bs

def shortByLong (b : Build) : Scan UInt16 := do
  let v ← Scan.raw 2
  return getShortByLong b v.toList

/-- A block of its own for the next `n` bytes. -/
def copied (n : Nat) (code : Int) : Scan (List UInt8) := do
  Scan.alloc n code
  let v ← Scan.raw n
  return v.toList

def zdtmParseRawAayMsg : Scan AayMsgContent := do
  let ukData0 ← Scan.raw 3
  return { ukData0 }

def zdtmParseRawAigMsg (b : Build) : Scan AigMsgContent := do
  let modelStrLen ← short b
  let modelStr ← copied modelStrLen.toNat (-1)
  let ukData0 ← Scan.raw 5
  let language ← Scan.raw 2
  let authState ← uchar
  let ukData1 ← Scan.raw 6
  return { modelStrLen, modelStr := some modelStr, ukData0, language, authState, ukData1 }

def zdtmParseRawAmgMsg : Scan AmgMsgContent := do
  let sl ← Scan.raw 2
  let fullsyncFlags ← uchar
  let uk ← Scan.raw 46
  return { sl, fullsyncFlags, uk }

def zdtmParseRawAtgMsg : Scan AtgMsgContent := do
  let year ← Scan.raw 4
  let month ← Scan.raw 2
  let day ← Scan.raw 2
  let hour ← Scan.raw 2
  let minutes ← Scan.raw 2
  let seconds ← Scan.raw 2
  return { year, month, day, hour, minutes, seconds }

def zdtmParseRawAngMsg : Scan AngMsgContent := do
  let ukData0 ← uchar
  return { ukData0 }

def adiDesc (b : Build) : Scan (UInt16 × List UInt8) := do
  let descLen ← short b
  let desc ← copied descLen.toNat (-2)
  return (descLen, desc)

/-- The parameters from the three columns the message holds. -/
def adiParams (abrevs : List (Bytes 4)) (typeIds : List UInt8)
    (descs : List (UInt16 × List UInt8)) : List AdiMsgParam :=
  List.zipWith (fun abrev (row : UInt8 × UInt16 × List UInt8) =>
    { abrev, typeId := row.1, descLen := row.2.1, desc := some row.2.2 })
    abrevs (List.zip typeIds descs)

abbrev sizeofAdiMsgParam : Nat := 16

def zdtmParseRawAdiMsg (b : Build) : Scan AdiMsgContent := do
  let numCards ← long b
  let numParams ← short b
  let ukData0 ← uchar
  Scan.alloc (numParams.toNat * sizeofAdiMsgParam) (-1)
  let abrevs ← Scan.times numParams.toNat (Scan.raw 4)
  let typeIds ← Scan.times numParams.toNat uchar
  let descs ← Scan.times numParams.toNat (adiDesc b)
  return { numCards, numParams, ukData0, params := some (adiParams abrevs typeIds descs) }

/-- One of the three lists: its id, its count and its synchronization ids. -/
def asyList (b : Build) (code : Int) : Scan (UInt8 × UInt16 × List UInt32) := do
  let listId ← uchar
  let numSyncIds ← short b
  Scan.alloc (4 * numSyncIds.toNat) code
  let syncIds ← Scan.times numSyncIds.toNat (long b)
  return (listId, numSyncIds, syncIds)

def zdtmParseRawAsyMsg (b : Build) : Scan AsyMsgContent := do
  let new ← asyList b (-1)
  let mod ← asyList b (-2)
  let del ← asyList b (-3)
  return {
    newListId := new.1, numNewSyncIds := new.2.1, newSyncIds := some new.2.2
    modListId := mod.1, numModSyncIds := mod.2.1, modSyncIds := some mod.2.2
    delListId := del.1, numDelSyncIds := del.2.1, delSyncIds := some del.2.2 }

def adrParam (b : Build) : Scan AdrMsgParam := do
  let paramLen ← long b
  let paramData ← copied paramLen.toNat (-2)
  return { paramLen, paramData := some paramData }

abbrev sizeofAdrMsgParam : Nat := 16

def zdtmParseRawAdrMsg (b : Build) : Scan AdrMsgContent := do
  let uk ← Scan.raw 2
  let numParams ← shortByLong b
  Scan.alloc (numParams.toNat * sizeofAdrMsgParam) (-1)
  let params ← Scan.times numParams.toNat (adrParam b)
  return { uk, numParams, params := some params }

def zdtmParseRawAdwMsg (b : Build) : Scan AdwMsgContent := do
  let uk ← Scan.raw 4
  let numSyncIds ← shortByLong b
  let syncId ← long b
  return { uk, numSyncIds, syncId }

/-- The count the 32-bit helper leaves of a 16-bit one. -/
def countByLong (b : Build) : Decoder UInt16 := do
  let n ← Decoder.u16
  return match b with
    | .littleEndian => n
    | .bigEndian => 0

def block (n : Nat) : Decoder (List UInt8) := do
  let v ← Decoder.raw n
  return v.toList

def aayLayout : Decoder AayMsgContent := do
  let ukData0 ← Decoder.raw 3
  return { ukData0 }

def aigLayout : Decoder AigMsgContent := do
  let modelStrLen ← Decoder.u16
  let modelStr ← block modelStrLen.toNat
  let ukData0 ← Decoder.raw 5
  let language ← Decoder.raw 2
  let authState ← Decoder.u8
  let ukData1 ← Decoder.raw 6
  return { modelStrLen, modelStr := some modelStr, ukData0, language, authState, ukData1 }

def amgLayout : Decoder AmgMsgContent := do
  let sl ← Decoder.raw 2
  let fullsyncFlags ← Decoder.u8
  let uk ← Decoder.raw 46
  return { sl, fullsyncFlags, uk }

def atgLayout : Decoder AtgMsgContent := do
  let year ← Decoder.raw 4
  let month ← Decoder.raw 2
  let day ← Decoder.raw 2
  let hour ← Decoder.raw 2
  let minutes ← Decoder.raw 2
  let seconds ← Decoder.raw 2
  return { year, month, day, hour, minutes, seconds }

def angLayout : Decoder AngMsgContent := do
  let ukData0 ← Decoder.u8
  return { ukData0 }

def adiDescLayout : Decoder (UInt16 × List UInt8) := do
  let descLen ← Decoder.u16
  let desc ← block descLen.toNat
  return (descLen, desc)

def adiLayout : Decoder AdiMsgContent := do
  let numCards ← Decoder.u32
  let numParams ← Decoder.u16
  let ukData0 ← Decoder.u8
  let abrevs ← Decoder.times numParams.toNat (Decoder.raw 4)
  let typeIds ← Decoder.times numParams.toNat Decoder.u8
  let descs ← Decoder.times numParams.toNat adiDescLayout
  return { numCards, numParams, ukData0, params := some (adiParams abrevs typeIds descs) }

def asyListLayout : Decoder (UInt8 × UInt16 × List UInt32) := do
  let listId ← Decoder.u8
  let numSyncIds ← Decoder.u16
  let syncIds ← Decoder.times numSyncIds.toNat Decoder.u32
  return (listId, numSyncIds, syncIds)

def asyLayout : Decoder AsyMsgContent := do
  let new ← asyListLayout
  let mod ← asyListLayout
  let del ← asyListLayout
  return {
    newListId := new.1, numNewSyncIds := new.2.1, newSyncIds := some new.2.2
    modListId := mod.1, numModSyncIds := mod.2.1, modSyncIds := some mod.2.2
    delListId := del.1, numDelSyncIds := del.2.1, delSyncIds := some del.2.2 }

def adrParamLayout : Decoder AdrMsgParam := do
  let paramLen ← Decoder.u32
  let paramData ← block paramLen.toNat
  return { paramLen, paramData := some paramData }

def adrLayout (b : Build) : Decoder AdrMsgContent := do
  let uk ← Decoder.raw 2
  let numParams ← countByLong b
  let params ← Decoder.times numParams.toNat adrParamLayout
  return { uk, numParams, params := some params }

def adwLayout (b : Build) : Decoder AdwMsgContent := do
  let uk ← Decoder.raw 4
  let numSyncIds ← countByLong b
  let syncId ← Decoder.u32
  return { uk, numSyncIds, syncId }

theorem refines_uchar : Refines uchar Decoder.u8 :=
  refines_bind (refines_raw 1) fun v => refines_pure v.head

theorem refines_short (b : Build) : Refines (short b) Decoder.u16 := by
  apply refines_bind (refines_raw 2)
  intro v
  rw [getShort_eq b v.toList_length]
  exact refines_pure _

theorem refines_long (b : Build) : Refines (long b) Decoder.u32 := by
  apply refines_bind (refines_raw 4)
  intro v
  rw [getLong_eq b v.toList_length]
  exact refines_pure _

/-- Only the high half of the swapped word is set, and the count keeps the low half. -/
theorem zdtmLiltobigl_of_short (x : UInt16) :
    (zdtmLiltobigl .bigEndian x.toUInt32).toUInt16 = 0 := by
  have hx : x.toNat < 65536 := x.toNat_lt
  have hhigh : x.toNat / 256 / 256 = 0 := by omega
  simp only [zdtmLiltobigl, hostLong, longAt, UInt16.toNat_toUInt32,
    bytes_succ, bytes_zero, hhigh, List.reverse_cons, List.reverse_nil, List.nil_append,
    List.cons_append, value_cons, value_nil]
  apply UInt16.toNat_inj.mp
  simp
  omega

theorem refines_shortByLong (b : Build) : Refines (shortByLong b) (countByLong b) := by
  cases b with
  | littleEndian =>
    have h : countByLong .littleEndian = Decoder.u16 := bind_pure _
    rw [h]
    exact refines_bind (refines_raw 2) fun v => refines_pure _
  | bigEndian =>
    have h : countByLong .bigEndian = (Decoder.raw 2 >>= fun _ => pure 0) := by
      simp only [countByLong, Decoder.u16, bind_assoc, pure_bind]
    rw [h]
    apply refines_bind (refines_raw 2)
    intro v
    simp only [getShortByLong, zdtmLiltobigl_of_short]
    exact refines_pure 0

theorem refines_copied (n : Nat) {code : Int} (h : code ≠ 0) : Refines (copied n code) (block n) :=
  refines_alloc_bind n h (refines_bind (refines_raw n) fun v => refines_pure v.toList)

theorem aay_refines : Refines zdtmParseRawAayMsg aayLayout :=
  refines_bind (refines_raw 3) fun _ => refines_pure _

theorem aig_refines (b : Build) : Refines (zdtmParseRawAigMsg b) aigLayout := by
  apply refines_bind (refines_short b)
  intro modelStrLen
  apply refines_bind (refines_copied _ (by decide))
  intro modelStr
  apply refines_bind (refines_raw 5)
  intro ukData0
  apply refines_bind (refines_raw 2)
  intro language
  apply refines_bind refines_uchar
  intro authState
  exact refines_bind (refines_raw 6) fun _ => refines_pure _

theorem amg_refines : Refines zdtmParseRawAmgMsg amgLayout := by
  apply refines_bind (refines_raw 2)
  intro sl
  apply refines_bind refines_uchar
  intro fullsyncFlags
  exact refines_bind (refines_raw 46) fun _ => refines_pure _

theorem atg_refines : Refines zdtmParseRawAtgMsg atgLayout := by
  apply refines_bind (refines_raw 4)
  intro year
  apply refines_bind (refines_raw 2)
  intro month
  apply refines_bind (refines_raw 2)
  intro day
  apply refines_bind (refines_raw 2)
  intro hour
  apply refines_bind (refines_raw 2)
  intro minutes
  exact refines_bind (refines_raw 2) fun _ => refines_pure _

theorem ang_refines : Refines zdtmParseRawAngMsg angLayout :=
  refines_bind refines_uchar fun _ => refines_pure _

theorem adiDesc_refines (b : Build) : Refines (adiDesc b) adiDescLayout := by
  apply refines_bind (refines_short b)
  intro descLen
  exact refines_bind (refines_copied _ (by decide)) fun _ => refines_pure _

theorem adi_refines (b : Build) : Refines (zdtmParseRawAdiMsg b) adiLayout := by
  apply refines_bind (refines_long b)
  intro numCards
  apply refines_bind (refines_short b)
  intro numParams
  apply refines_bind refines_uchar
  intro ukData0
  apply refines_alloc_bind _ (by decide)
  apply refines_bind (refines_times (refines_raw 4) _)
  intro abrevs
  apply refines_bind (refines_times refines_uchar _)
  intro typeIds
  exact refines_bind (refines_times (adiDesc_refines b) _) fun _ => refines_pure _

theorem asyList_refines (b : Build) {code : Int} (h : code ≠ 0) :
    Refines (asyList b code) asyListLayout := by
  apply refines_bind refines_uchar
  intro listId
  apply refines_bind (refines_short b)
  intro numSyncIds
  apply refines_alloc_bind _ h
  exact refines_bind (refines_times (refines_long b) _) fun _ => refines_pure _

theorem asy_refines (b : Build) : Refines (zdtmParseRawAsyMsg b) asyLayout := by
  apply refines_bind (asyList_refines b (by decide))
  intro new
  apply refines_bind (asyList_refines b (by decide))
  intro mod
  exact refines_bind (asyList_refines b (by decide)) fun _ => refines_pure _

theorem adrParam_refines (b : Build) : Refines (adrParam b) adrParamLayout := by
  apply refines_bind (refines_long b)
  intro paramLen
  exact refines_bind (refines_copied _ (by decide)) fun _ => refines_pure _

theorem adr_refines (b : Build) : Refines (zdtmParseRawAdrMsg b) (adrLayout b) := by
  apply refines_bind (refines_raw 2)
  intro uk
  apply refines_bind (refines_shortByLong b)
  intro numParams
  apply refines_alloc_bind _ (by decide)
  exact refines_bind (refines_times (adrParam_refines b) _) fun _ => refines_pure _

theorem adw_refines (b : Build) : Refines (zdtmParseRawAdwMsg b) (adwLayout b) := by
  apply refines_bind (refines_raw 4)
  intro uk
  apply refines_bind (refines_shortByLong b)
  intro numSyncIds
  exact refines_bind (refines_long b) fun _ => refines_pure _

end ZdtmZaurusMsg
