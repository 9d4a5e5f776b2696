import ZdtmSync.Contents
import ZdtmSync.Sending

/-!
# The lists of sync ids

An ASY message carries three lists of sync ids. They go through the framing, the
copy of the raw content, three loops of the parser and three more copies before
`zdtm_obtain_sync_id_lists` hands them out; whatever their lengths, they arrive
as the device sent them.
-/

namespace ZdtmSyncIds

open LittleEndian ByteCodec CMemory Programs ZdtmTypes ZdtmCommon ZdtmDesktopMsg ZdtmZaurusMsg
open ZdtmMsgs ZdtmNet ZdtmParsing ZdtmFraming ZdtmDelivery ZdtmReceiving ZdtmContents ZdtmSession
open ZdtmProto ZdtmSync ZdtmExchanges ZdtmOperations ZdtmReplies ZdtmServed ZdtmSending
open ZdtmWireFormat (wireFormat)

/-- The frame that carries the three lists. -/
def asyFrame (header : Bytes msgHdrSize) (uncommon : Uncommon header.toList) (v : AsyValue)
    (fits : msgTypeSize + v.wire.length < 65536) (checkSum : UInt16) : Frame .littleEndian where
  header
  type := .asy
  content := v.wire
  checkSum
  uncommon
  fits
  holds := by
    have hlayout := (Value.asy v).contentLayout_wire {} []
    rw [List.append_nil] at hlayout
    change contentLayout .littleEndian .asy {} v.wire = _ at hlayout
    rw [← contentLayout_accepts .littleEndian .asy {}, hlayout]
    rfl

theorem asyFrame_asy {header : Bytes msgHdrSize} {uncommon : Uncommon header.toList} {v : AsyValue}
    {fits : msgTypeSize + v.wire.length < 65536} {checkSum : UInt16} :
    (asyFrame header uncommon v fits checkSum).cont.asy = v.content := by
  have hlayout := (Value.asy v).contentLayout_wire {} []
  rw [List.append_nil] at hlayout
  change contentLayout .littleEndian .asy {} v.wire = _ at hlayout
  simp only [Frame.cont, asyFrame, hlayout]
  rfl

/-- The six variables of the caller hold the three lists. -/
structure Hold (v : AsyValue) (lists : SyncIdLists) : Prop where
  newSyncIds : lists.newSyncIds = some v.new.syncIds
  numNewSyncIds : lists.numNewSyncIds.toNat = v.new.syncIds.length
  modSyncIds : lists.modSyncIds = some v.mod.syncIds
  numModSyncIds : lists.numModSyncIds.toNat = v.mod.syncIds.length
  delSyncIds : lists.delSyncIds = some v.del.syncIds
  numDelSyncIds : lists.numDelSyncIds.toNat = v.del.syncIds.length

def listsOf (v : AsyValue) : SyncIdLists where
  newSyncIds := some v.new.syncIds
  numNewSyncIds := UInt16.ofNat v.new.syncIds.length
  modSyncIds := some v.mod.syncIds
  numModSyncIds := UInt16.ofNat v.mod.syncIds.length
  delSyncIds := some v.del.syncIds
  numDelSyncIds := UInt16.ofNat v.del.syncIds.length

theorem copyIds_list (l : SyncIdList) :
    copyIds (some l.syncIds) (UInt16.ofNat l.syncIds.length) = .ok l.syncIds := by
  have hcount : (UInt16.ofNat l.syncIds.length).toNat = l.syncIds.length :=
    UInt16.toNat_ofNat_of_lt' l.count_lt
  simp [copyIds, hcount]

/-- The final copies take whole lists. -/
theorem copyLists_content (v : AsyValue) : ∃ lists, copyLists v.content = .ok lists ∧ Hold v lists := by
  have hnew := copyIds_list v.new
  have hmod := copyIds_list v.mod
  have hdel := copyIds_list v.del
  have hcopies : copyLists v.content = .ok (listsOf v) := by
    simp only [copyLists, AsyValue.content, hnew, hmod, hdel]
    rfl
  exact ⟨listsOf v, hcopies, rfl, UInt16.toNat_ofNat_of_lt' v.new.count_lt, rfl,
    UInt16.toNat_ofNat_of_lt' v.mod.count_lt, rfl, UInt16.toNat_ofNat_of_lt' v.del.count_lt⟩

section Run

variable {b : Build} {s : State} {rest : List UInt8}

theorem rsy_sendable (syncType : UInt8) :
    ZdtmWireFormat.Sendable .rsy (desktopMsg .rsy (rsyContent syncType)) :=
  desktop_sendable (by decide) (by decide) (by decide) trivial

theorem rsyContent_written (syncType : UInt8) :
    contentWrite .littleEndian .rsy (rsyContent syncType) = .ok { bytes := [syncType, 0x07] } := rfl

/-- What follows the reply: three blocks, three copies, and nothing on the wire. -/
theorem leads_copies {v : AsyValue} {lists : SyncIdLists} (hs : Served s rest) :
    Leads (do
      let newBlock ← allocate (4 * v.content.numNewSyncIds.toNat)
      if newBlock = none then return (-4, lists)
      let modBlock ← allocate (4 * v.content.numModSyncIds.toNat)
      if modBlock = none then return (-4, lists)
      let delBlock ← allocate (4 * v.content.numDelSyncIds.toNat)
      if delBlock = none then return (-4, lists)
      let lists ← Program.lift (copyLists v.content)
      return (0, lists) : Session (Int × SyncIdLists)) s fun r s' =>
        (∃ got, r = .ok (0, got) ∧ Hold v got) ∧ Served s' rest ∧ Traffic b s [] s' := by
  apply leads_block (b := b) hs
  intro newBlock s₁ hs₁ hnew
  rw [if_neg (Option.some_ne_none newBlock)]
  apply leads_block (b := b) hs₁
  intro modBlock s₂ hs₂ hmod
  rw [if_neg (Option.some_ne_none modBlock)]
  apply leads_block (b := b) hs₂
  intro delBlock s₃ hs₃ hdel
  rw [if_neg (Option.some_ne_none delBlock)]
  obtain ⟨got, hcopies, hhold⟩ := copyLists_content v
  rw [hcopies]
  exact ⟨⟨got, rfl, hhold⟩, hs₃, (hnew.trans hmod).trans hdel⟩

/-- The exchange for the three lists, and the copies of what it got. -/
theorem obtainSyncIdLists_leads {v : AsyValue} {header : Bytes msgHdrSize}
    {uncommon : Uncommon header.toList} {fits : msgTypeSize + v.wire.length < 65536}
    {checkSum : UInt16} (lists : SyncIdLists)
    (hs : Served s (around ++ (asyFrame header uncommon v fits checkSum).bytes ++ rest)) :
    Leads (zdtmObtainSyncIdLists .littleEndian lists) s fun r s' =>
      (∃ got, r = .ok (0, got) ∧ Hold v got) ∧ Served s' rest ∧
        ∃ cs m, Traffic .littleEndian s cs s' ∧
          Exchanged (desktopMsg .rsy (rsyContent s.env.syncType)) .asy (.ok (.ok m)) cs := by
  have hsend := sendable_served (b := .littleEndian) (rsy_sendable s.env.syncType)
    (rsyContent_written s.env.syncType)
  apply leads_getEnv
  apply leads_bind (exchange_leads hsend rfl (by decide) hs)
  · intro r s₁ h
    obtain ⟨heq, hs₁, -, -, cs, htraffic, hexchanged⟩ := h
    cases heq
    have hasy : (asyFrame header uncommon v fits checkSum).msg.body.cont.asy = v.content :=
      asyFrame_asy
    simp only [hasy]
    apply (leads_copies (b := .littleEndian) hs₁).mono
    intro r s' h
    obtain ⟨hgot, hs', hsilent⟩ := h
    have hall := htraffic.trans hsilent
    rw [List.append_nil] at hall
    exact ⟨hgot, hs', cs, _, hall, hexchanged⟩
  · intro f s₁ h
    obtain ⟨heq, -⟩ := h
    cases heq

end Run

/-- If the device requests, acknowledges and answers with the frame of the three
lists, the caller gets them as they were sent, and the device was asked for the
lists of the sync type of the environment. -/
theorem obtains_sync_ids (v : AsyValue) (header : Bytes msgHdrSize)
    (uncommon : Uncommon header.toList) (checkSum : UInt16)
    (fits : msgTypeSize + v.wire.length < 65536) (lists : SyncIdLists) (s : State)
    (rest : List UInt8) (hheap : s.world.heap.Unlimited)
    (hsends : SendEvent.error ∉ s.world.sends)
    (hstream : Chunked.available s.world.inbox =
      around ++ (asyFrame header uncommon v fits checkSum).bytes ++ rest) :
    ∃ got s', zdtmObtainSyncIdLists .littleEndian lists s = (.ok (0, got), s') ∧ Hold v got ∧
      handed (callsSince s s') = [desktopMsg .rsy (rsyContent s.env.syncType)] ∧
      (s.world.sends = [] → sentSince s s' =
        wireFormat DesktopType.rsy.bytes [s.env.syncType, 0x07] ++
          (CommonMsg.rqst.bytes.toList ++ CommonMsg.ack.bytes.toList)) ∧
      Chunked.available s'.world.inbox = rest := by
  have hserved : Served s (around ++ (asyFrame header uncommon v fits checkSum).bytes ++ rest) :=
    ⟨hheap, hsends, hstream⟩
  have hwrite := rsyContent_written s.env.syncType
  obtain ⟨⟨got, heq, hhold⟩, hs', cs, m, htraffic, hexchanged⟩ :=
    obtainSyncIdLists_leads lists hserved
  refine ⟨got, _, Prod.ext heq rfl, hhold, ?_, ?_, hs'.stream⟩
  · rw [traffic_callsSince htraffic]
    exact exchanged_handed hexchanged
  · intro hwhole
    exact exchanged_wire (rsy_sendable s.env.syncType) hwrite hexchanged (traffic_sends htraffic hwhole).2

/-- One new id, none modified and two deleted. -/
def threeLists : AsyValue where
  new := ⟨0x00, [0x11], by decide⟩
  mod := ⟨0x01, [], by decide⟩
  del := ⟨0x02, [0x22, 0x33], by decide⟩

theorem threeLists_fits : msgTypeSize + threeLists.wire.length < 65536 := by decide

/-- The device answers in two chunks. -/
def listsState : State where
  world := {
    heap := Heap.filled 0
    inbox := [.data around (by decide),
      .data (asyFrame dmsgHdr dmsgHdr_uncommon threeLists threeLists_fits 0).bytes (by decide)] }
  env := { syncType := syncTypeTodo }
  host := quietHost

theorem obtains_sync_ids_three :
    ∃ got s', zdtmObtainSyncIdLists .littleEndian {} listsState = (.ok (0, got), s') ∧
      got.newSyncIds = some [0x11] ∧ got.modSyncIds = some [] ∧
      got.delSyncIds = some [0x22, 0x33] := by
  obtain ⟨got, s', hrun, hhold, -⟩ := obtains_sync_ids threeLists dmsgHdr dmsgHdr_uncommon 0
    threeLists_fits {} listsState [] (Heap.filled_unlimited 0) List.not_mem_nil
    (by simp [listsState])
  exact ⟨got, s', hrun, hhold.newSyncIds, hhold.modSyncIds, hhold.delSyncIds⟩

end ZdtmSyncIds
