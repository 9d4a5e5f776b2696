import ZdtmSync.Msgs

/-!
# Contents laid out on the wire

The values that the variable-length messages of the Zaurus carry, and their wire
format. Each content is several runs of fields over one cursor: AIG a counted
string, ADI three columns, ASY three lists, ADR a list of counted strings.
Whatever follows on the wire, the little-endian build parses a value back.
-/

namespace ZdtmContents

open LittleEndian ByteCodec CMemory ZdtmTypes ZdtmZaurusMsg ZdtmMsgs

structure AigValue where
  model : List UInt8
  ukData0 : Bytes 5
  language : Bytes 2
  authState : UInt8
  ukData1 : Bytes 6
  model_lt : model.length < 2 ^ 16

/-- A parameter descriptor: abbreviation, type id and description. -/
structure AdiParam where
  abrev : Bytes 4
  typeId : UInt8
  desc : List UInt8
  desc_lt : desc.length < 2 ^ 16

structure AdiValue where
  numCards : UInt32
  ukData0 : UInt8
  params : List AdiParam
  count_lt : params.length < 2 ^ 16

structure SyncIdList where
  listId : UInt8
  syncIds : List UInt32
  count_lt : syncIds.length < 2 ^ 16

structure AsyValue where
  new : SyncIdList
  mod : SyncIdList
  del : SyncIdList

structure AdrParam where
  data : List UInt8
  data_lt : data.length < 2 ^ 32

structure AdrValue where
  uk : Bytes 2
  params : List AdrParam
  count_lt : params.length < 2 ^ 16

def AigValue.wire (v : AigValue) : List UInt8 :=
  bytes 2 v.model.length ++ (v.model ++ (v.ukData0.toList ++ (v.language.toList ++
    ([v.authState] ++ v.ukData1.toList))))

def AdiParam.wireDesc (p : AdiParam) : List UInt8 := bytes 2 p.desc.length ++ p.desc

/-- All abbreviations, then all type ids, then all descriptions behind their lengths. -/
def AdiValue.wire (v : AdiValue) : List UInt8 :=
  bytes 4 v.numCards.toNat ++ (bytes 2 v.params.length ++ ([v.ukData0] ++
    (v.params.flatMap (fun p => p.abrev.toList) ++ (v.params.flatMap (fun p => [p.typeId]) ++
      v.params.flatMap AdiParam.wireDesc))))

def SyncIdList.wire (l : SyncIdList) : List UInt8 :=
  [l.listId] ++ (bytes 2 l.syncIds.length ++ l.syncIds.flatMap fun id => bytes 4 id.toNat)

def AsyValue.wire (v : AsyValue) : List UInt8 := v.new.wire ++ (v.mod.wire ++ v.del.wire)

def AdrParam.wire (p : AdrParam) : List UInt8 := bytes 4 p.data.length ++ p.data

def AdrValue.wire (v : AdrValue) : List UInt8 :=
  v.uk.toList ++ (bytes 2 v.params.length ++ v.params.flatMap AdrParam.wire)

def AigValue.content (v : AigValue) : AigMsgContent where
  modelStrLen := UInt16.ofNat v.model.length
  modelStr := some v.model
  ukData0 := v.ukData0
  language := v.language
  authState := v.authState
  ukData1 := v.ukData1

def AdiParam.content (p : AdiParam) : AdiMsgParam where
  abrev := p.abrev
  typeId := p.typeId
  descLen := UInt16.ofNat p.desc.length
  desc := some p.desc

def AdiValue.content (v : AdiValue) : AdiMsgContent where
  numCards := v.numCards
  numParams := UInt16.ofNat v.params.length
  ukData0 := v.ukData0
  params := some (v.params.map AdiParam.content)

def AsyValue.content (v : AsyValue) : AsyMsgContent where
  newListId := v.new.listId
  numNewSyncIds := UInt16.ofNat v.new.syncIds.length
  newSyncIds := some v.new.syncIds
  modListId := v.mod.listId
  numModSyncIds := UInt16.ofNat v.mod.syncIds.length
  modSyncIds := some v.mod.syncIds
  delListId := v.del.listId
  numDelSyncIds := UInt16.ofNat v.del.syncIds.length
  delSyncIds := some v.del.syncIds

def AdrParam.content (p : AdrParam) : AdrMsgParam where
  paramLen := UInt32.ofNat p.data.length
  paramData := some p.data

def AdrValue.content (v : AdrValue) : AdrMsgContent where
  uk := v.uk
  numParams := UInt16.ofNat v.params.length
  params := some (v.params.map AdrParam.content)

section Decode

variable (rest : List UInt8)

theorem u16_count {n : Nat} (h : n < 2 ^ 16) :
    Decoder.u16 (bytes 2 n ++ rest) = some (UInt16.ofNat n, rest) := by
  have hdecode := Codec.u16.decode_encode (UInt16.ofNat n) rest
  change Decoder.u16 (bytes 2 (UInt16.ofNat n).toNat ++ rest) = _ at hdecode
  rwa [UInt16.toNat_ofNat_of_lt' h] at hdecode

theorem u32_count {n : Nat} (h : n < 2 ^ 32) :
    Decoder.u32 (bytes 4 n ++ rest) = some (UInt32.ofNat n, rest) := by
  have hdecode := Codec.u32.decode_encode (UInt32.ofNat n) rest
  change Decoder.u32 (bytes 4 (UInt32.ofNat n).toNat ++ rest) = _ at hdecode
  rwa [UInt32.toNat_ofNat_of_lt' h] at hdecode

theorem block_data (data : List UInt8) :
    block data.length (data ++ rest) = some (data, rest) :=
  Decoder.bind_append (Decoder.raw_append ⟨data, rfl⟩ rest)

theorem aigLayout_wire (v : AigValue) : aigLayout (v.wire ++ rest) = some (v.content, rest) := by
  simp only [AigValue.wire, List.append_assoc]
  apply (Decoder.bind_append (u16_count _ v.model_lt)).trans
  rw [UInt16.toNat_ofNat_of_lt' v.model_lt]
  apply (Decoder.bind_append (block_data _ v.model)).trans
  apply (Decoder.bind_append (Decoder.raw_append v.ukData0 _)).trans
  apply (Decoder.bind_append (Decoder.raw_append v.language _)).trans
  apply (Decoder.bind_append (Codec.u8.decode_encode v.authState _)).trans
  exact Decoder.bind_append (Decoder.raw_append v.ukData1 rest)

theorem adiDesc_wire (p : AdiParam) :
    adiDescLayout (p.wireDesc ++ rest) = some ((p.content.descLen, p.desc), rest) := by
  rw [AdiParam.wireDesc, List.append_assoc]
  apply (Decoder.bind_append (u16_count _ p.desc_lt)).trans
  rw [UInt16.toNat_ofNat_of_lt' p.desc_lt]
  exact Decoder.bind_append (block_data rest p.desc)

/-- The three columns give the parameters back, row by row. -/
theorem adiParams_columns (params : List AdiParam) :
    adiParams (params.map AdiParam.abrev) (params.map AdiParam.typeId)
      (params.map fun p => (p.content.descLen, p.desc)) = params.map AdiParam.content := by
  induction params with
  | nil => rfl
  | cons p params ih =>
    simp only [List.map_cons]
    rw [← ih]
    rfl

theorem adiLayout_wire (v : AdiValue) : adiLayout (v.wire ++ rest) = some (v.content, rest) := by
  have hcount : (UInt16.ofNat v.params.length).toNat = v.params.length :=
    UInt16.toNat_ofNat_of_lt' v.count_lt
  simp only [AdiValue.wire, List.append_assoc]
  apply (Decoder.bind_append (Codec.u32.decode_encode v.numCards _)).trans
  apply (Decoder.bind_append (u16_count _ v.count_lt)).trans
  apply (Decoder.bind_append (Codec.u8.decode_encode v.ukData0 _)).trans
  rw [hcount]
  apply (Decoder.bind_append (Decoder.times_append
    (fun p : AdiParam => Decoder.raw_append p.abrev) v.params _)).trans
  apply (Decoder.bind_append (Decoder.times_append
    (fun p : AdiParam => Codec.u8.decode_encode p.typeId) v.params _)).trans
  apply (Decoder.bind_append (Decoder.times_append (fun p s => adiDesc_wire s p) v.params _)).trans
  rw [adiParams_columns]
  rfl

theorem asyList_wire (l : SyncIdList) : asyListLayout (l.wire ++ rest) =
    some ((l.listId, UInt16.ofNat l.syncIds.length, l.syncIds), rest) := by
  have hcount : (UInt16.ofNat l.syncIds.length).toNat = l.syncIds.length :=
    UInt16.toNat_ofNat_of_lt' l.count_lt
  simp only [SyncIdList.wire, List.append_assoc]
  apply (Decoder.bind_append (Codec.u8.decode_encode l.listId _)).trans
  apply (Decoder.bind_append (u16_count _ l.count_lt)).trans
  rw [hcount]
  exact Decoder.bind_append (Codec.u32.times_encode l.syncIds rest)

theorem asyLayout_wire (v : AsyValue) : asyLayout (v.wire ++ rest) = some (v.content, rest) := by
  simp only [AsyValue.wire, List.append_assoc]
  apply (Decoder.bind_append (asyList_wire _ v.new)).trans
  apply (Decoder.bind_append (asyList_wire _ v.mod)).trans
  exact Decoder.bind_append (asyList_wire rest v.del)

theorem adrParam_wire (p : AdrParam) :
    adrParamLayout (p.wire ++ rest) = some (p.content, rest) := by
  rw [AdrParam.wire, List.append_assoc]
  apply (Decoder.bind_append (u32_count _ p.data_lt)).trans
  rw [UInt32.toNat_ofNat_of_lt' p.data_lt]
  exact Decoder.bind_append (block_data rest p.data)

theorem adrLayout_wire (v : AdrValue) :
    adrLayout .littleEndian (v.wire ++ rest) = some (v.content, rest) := by
  have hcount : (UInt16.ofNat v.params.length).toNat = v.params.length :=
    UInt16.toNat_ofNat_of_lt' v.count_lt
  have hlittle : countByLong .littleEndian = Decoder.u16 := bind_pure _
  simp only [AdrValue.wire, List.append_assoc]
  apply (Decoder.bind_append (Decoder.raw_append v.uk _)).trans
  rw [hlittle]
  apply (Decoder.bind_append (u16_count _ v.count_lt)).trans
  rw [hcount]
  exact Decoder.bind_append (Decoder.times_append (fun p s => adrParam_wire s p) v.params rest)

end Decode

inductive Value where
  | aig (v : AigValue)
  | adi (v : AdiValue)
  | asy (v : AsyValue)
  | adr (v : AdrValue)

namespace Value

def type : Value → ZaurusType
  | .aig _ => .aig
  | .adi _ => .adi
  | .asy _ => .asy
  | .adr _ => .adr

def wire : Value → List UInt8
  | .aig v => v.wire
  | .adi v => v.wire
  | .asy v => v.wire
  | .adr v => v.wire

/-- The content with the value in the member of its type. -/
def stored (cont : SpecTypeContent) : Value → SpecTypeContent
  | .aig v => { cont with aig := v.content }
  | .adi v => { cont with adi := v.content }
  | .asy v => { cont with asy := v.content }
  | .adr v => { cont with adr := v.content }

theorem contentLayout_wire (v : Value) (cont : SpecTypeContent) (rest : List UInt8) :
    contentLayout .littleEndian v.type cont (v.wire ++ rest) = some (v.stored cont, rest) := by
  cases v with
  | aig v => exact Decoder.bind_append (aigLayout_wire rest v)
  | adi v => exact Decoder.bind_append (adiLayout_wire rest v)
  | asy v => exact Decoder.bind_append (asyLayout_wire rest v)
  | adr v => exact Decoder.bind_append (adrLayout_wire rest v)

end Value

structure AigValue.HeldBy (v : AigValue) (c : AigMsgContent) : Prop where
  length : c.modelStrLen.toNat = v.model.length
  model : c.modelStr = some v.model
  ukData0 : c.ukData0 = v.ukData0
  language : c.language = v.language
  authState : c.authState = v.authState
  ukData1 : c.ukData1 = v.ukData1

structure AdiParam.HeldBy (v : AdiParam) (p : AdiMsgParam) : Prop where
  abrev : p.abrev = v.abrev
  typeId : p.typeId = v.typeId
  length : p.descLen.toNat = v.desc.length
  desc : p.desc = some v.desc

structure AdiValue.HeldBy (v : AdiValue) (c : AdiMsgContent) : Prop where
  numCards : c.numCards = v.numCards
  ukData0 : c.ukData0 = v.ukData0
  count : c.numParams.toNat = v.params.length
  params : ∃ ps, c.params = some ps ∧ List.Forall₂ AdiParam.HeldBy v.params ps

structure SyncIdList.HeldBy (l : SyncIdList) (listId : UInt8) (num : UInt16)
    (syncIds : Option (List UInt32)) : Prop where
  listId : listId = l.listId
  count : num.toNat = l.syncIds.length
  syncIds : syncIds = some l.syncIds

structure AsyValue.HeldBy (v : AsyValue) (c : AsyMsgContent) : Prop where
  new : v.new.HeldBy c.newListId c.numNewSyncIds c.newSyncIds
  mod : v.mod.HeldBy c.modListId c.numModSyncIds c.modSyncIds
  del : v.del.HeldBy c.delListId c.numDelSyncIds c.delSyncIds

structure AdrParam.HeldBy (v : AdrParam) (p : AdrMsgParam) : Prop where
  length : p.paramLen.toNat = v.data.length
  data : p.paramData = some v.data

structure AdrValue.HeldBy (v : AdrValue) (c : AdrMsgContent) : Prop where
  uk : c.uk = v.uk
  count : c.numParams.toNat = v.params.length
  params : ∃ ps, c.params = some ps ∧ List.Forall₂ AdrParam.HeldBy v.params ps

theorem forall₂_map {α β : Type} {R : α → β → Prop} {f : α → β} (h : ∀ a, R a (f a))
    (as : List α) : List.Forall₂ R as (as.map f) := by
  induction as with
  | nil => exact .nil
  | cons a as ih => exact .cons (h a) ih

theorem AigValue.content_holds (v : AigValue) : v.HeldBy v.content :=
  ⟨UInt16.toNat_ofNat_of_lt' v.model_lt, rfl, rfl, rfl, rfl, rfl⟩

theorem AdiParam.content_holds (v : AdiParam) : v.HeldBy v.content :=
  ⟨rfl, rfl, UInt16.toNat_ofNat_of_lt' v.desc_lt, rfl⟩

theorem AdiValue.content_holds (v : AdiValue) : v.HeldBy v.content :=
  ⟨rfl, rfl, UInt16.toNat_ofNat_of_lt' v.count_lt, _, rfl,
    forall₂_map AdiParam.content_holds v.params⟩

theorem SyncIdList.content_holds (l : SyncIdList) :
    l.HeldBy l.listId (UInt16.ofNat l.syncIds.length) (some l.syncIds) :=
  ⟨rfl, UInt16.toNat_ofNat_of_lt' l.count_lt, rfl⟩

theorem AsyValue.content_holds (v : AsyValue) : v.HeldBy v.content :=
  ⟨v.new.content_holds, v.mod.content_holds, v.del.content_holds⟩

theorem AdrParam.content_holds (v : AdrParam) : v.HeldBy v.content :=
  ⟨UInt32.toNat_ofNat_of_lt' v.data_lt, rfl⟩

theorem AdrValue.content_holds (v : AdrValue) : v.HeldBy v.content :=
  ⟨rfl, UInt16.toNat_ofNat_of_lt' v.count_lt, _, rfl,
    forall₂_map AdrParam.content_holds v.params⟩

/-- The member of the value's type holds the value. -/
def Value.HeldBy (cont : SpecTypeContent) : Value → Prop
  | .aig v => v.HeldBy cont.aig
  | .adi v => v.HeldBy cont.adi
  | .asy v => v.HeldBy cont.asy
  | .adr v => v.HeldBy cont.adr

theorem Value.stored_holds (v : Value) (cont : SpecTypeContent) : v.HeldBy (v.stored cont) := by
  cases v with
  | aig v => exact v.content_holds
  | adi v => exact v.content_holds
  | asy v => exact v.content_holds
  | adr v => exact v.content_holds

/-- With enough memory a value on the wire is parsed back to exactly that value,
whatever follows it, and nothing else of the message changes. -/
theorem parses_wire (v : Value) (rest : List UInt8) (msg : ZdtmMsg) (heap : Heap)
    (ht : msg.body.type = v.type.bytes) (hraw : msg.body.pRawContent = some (v.wire ++ rest))
    (hu : heap.Unlimited) :
    ∃ heap', zdtmParseRawMsg .littleEndian msg heap =
        .ok ((0, withCont msg (v.stored msg.body.cont)), heap') ∧
      v.HeldBy (v.stored msg.body.cont) := by
  have hz : zaurusType msg.body.type = some v.type := by rw [ht, zaurusType_bytes]
  have hlayout : contentLayout .littleEndian v.type msg.body.cont msg.body.pRawContent.target =
      some (v.stored msg.body.cont, rest) := by
    rw [hraw]
    exact v.contentLayout_wire msg.body.cont rest
  obtain ⟨heap', hrun, -⟩ := parse_accepted hz hlayout hu
  exact ⟨heap', hrun, v.stored_holds msg.body.cont⟩

/-- Two parameter descriptors, the second one without a description. -/
def twoColumns : AdiValue where
  numCards := 7
  ukData0 := 0
  params := [⟨⟨[0x43, 0x54, 0x54, 0x4d], rfl⟩, 0x04, [0x61, 0x62], by decide⟩,
    ⟨⟨[0x53, 0x59, 0x49, 0x44], rfl⟩, 0x12, [], by decide⟩]
  count_lt := by decide

def twoColumnsMsg : ZdtmMsg where
  body := { type := ZaurusType.adi.bytes, pRawContent := some (twoColumns.wire ++ [0xff]) }

theorem parses_wire_twoColumns :
    ∃ heap', zdtmParseRawMsg .littleEndian twoColumnsMsg (Heap.filled 0) =
        .ok ((0, withCont twoColumnsMsg ((Value.adi twoColumns).stored twoColumnsMsg.body.cont)),
          heap') ∧
      (Value.adi twoColumns).HeldBy ((Value.adi twoColumns).stored twoColumnsMsg.body.cont) :=
  parses_wire (.adi twoColumns) [0xff] twoColumnsMsg (Heap.filled 0) rfl rfl
    (Heap.filled_unlimited 0)

end ZdtmContents
