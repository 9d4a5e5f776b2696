import ZdtmSync.Writers

/-!
# What a prepared message is

Which messages `_zdtm_prepare_message` lets through, and whether the content
it leaves was all written by the writer. A run that reads outside a field or
writes outside the block has no result, so nothing that is said about results
holds of it.
-/

namespace ZdtmPrepare

open LittleEndian CMemory ZdtmTypes ZdtmCommon ZdtmDesktopMsg ZdtmMsgs ZdtmWriters

theorem toNat_ofInt (x : Int) : ((UInt16.ofInt x).toNat : Int) = x % 65536 := by
  have hpos : 0 ≤ x % 65536 := Int.emod_nonneg x (by decide)
  have hlt : x % 65536 < 65536 := Int.emod_lt_of_pos x (by decide)
  have hsmall : (x % 2 ^ 16).toNat < UInt16.size := by
    have h : (2 : Int) ^ 16 = 65536 := by decide
    rw [h]
    simp only [UInt16.size]
    omega
  rw [UInt16.ofInt, UInt16.toNat_ofNat_of_lt' hsmall]
  omega

section Sizes

variable (b : Build) (t : DesktopType) (msg : ZdtmMsg)

theorem bodySize_toNat :
    ((sizedMessage b t msg).bodySize.toNat : Int) =
      (3 + contentLength t msg.body.cont) % 65536 := by
  simp only [sizedMessage]
  rw [toNat_ofInt]
  rfl

theorem contSize_toNat :
    ((sizedMessage b t msg).contSize.toNat : Int) = contentLength t msg.body.cont % 65536 := by
  have hbody := bodySize_toNat b t msg
  have hcont : (sizedMessage b t msg).contSize = (sizedMessage b t msg).bodySize - 3 := rfl
  have hlt : (sizedMessage b t msg).bodySize.toNat < 65536 := UInt16.toNat_lt _
  have hthree : (3 : UInt16).toNat = 3 := rfl
  rw [hcont, UInt16.toNat_sub, hthree]
  omega

end Sizes

/-- Every run returns, and what it returns with 0 has the property. -/
def Returns (b : Build) (msg : ZdtmMsg) (Q : ZdtmMsg → Prop) : Prop :=
  ∀ heap, ∃ code msg' heap',
    zdtmPrepareMessage b msg heap = .ok ((code, msg'), heap') ∧ (code = 0 → Q msg')

section Runs

variable {b : Build} {msg : ZdtmMsg} {t : DesktopType} {Q : ZdtmMsg → Prop}

theorem returns_unknown (ht : desktopType msg.body.type = none) : Returns b msg Q := by
  intro heap
  exact ⟨_, _, _, prepare_unknown ht, fun h => by cases h⟩

theorem returns_nnull (ht : desktopType msg.body.type = some t)
    (hr : msg.body.pRawContent ≠ none) : Returns b msg Q := by
  intro heap
  exact ⟨_, _, _, prepare_nnull ht hr, fun h => by cases h⟩

/-- Only the run in which the block is granted matters. -/
theorem returns_iff (ht : desktopType msg.body.type = some t)
    (hr : msg.body.pRawContent = none) :
    Returns b msg Q ↔ ∃ written, contentWrite b t msg.body.cont = .ok written ∧
      written.bytes.length ≤ (sizedMessage b t msg).contSize.toNat ∧
      (¬ (t = .rdw ∧ written.null) →
        ∀ garbage, Q (preparedMessage b t msg garbage written.bytes)) := by
  constructor
  · intro h
    have hgranted : ∀ garbage, (fun _ => some garbage : Heap) 0 = some garbage := fun _ => rfl
    cases hw : contentWrite b t msg.body.cont with
    | error f =>
      obtain ⟨code, msg', heap', hrun, -⟩ := h (Heap.filled 0)
      rw [prepare_unreadable ht hr (hgranted _) hw] at hrun
      cases hrun
    | ok written =>
      by_cases hle : written.bytes.length ≤ (sizedMessage b t msg).contSize.toNat
      · refine ⟨written, rfl, hle, ?_⟩
        intro haccept garbage
        obtain ⟨code, msg', heap', hrun, hq⟩ := h fun _ => some garbage
        rw [prepare_ok ⟨ht, hr, hgranted garbage, hw, hle, haccept⟩] at hrun
        cases hrun
        exact hq rfl
      · obtain ⟨code, msg', heap', hrun, -⟩ := h (Heap.filled 0)
        rw [prepare_overrun ht hr (hgranted _) hw (not_le.mp hle)] at hrun
        cases hrun
  · rintro ⟨written, hw, hle, hq⟩ heap
    cases hh : heap 0 with
    | none => exact ⟨_, _, _, prepare_nomem ht hr hh, fun h => by cases h⟩
    | some garbage =>
      by_cases hnull : t = .rdw ∧ written.null
      · obtain ⟨rfl, hnull⟩ := hnull
        exact ⟨_, _, _, prepare_refused ht hr hh hw hle hnull, fun h => by cases h⟩
      · exact ⟨_, _, _, prepare_ok ⟨ht, hr, hh, hw, hle, hnull⟩, fun _ => hq hnull garbage⟩

end Runs

/-- A message that may be sent: a known type, no raw content yet, a log that
fits, and a variation and synchronization type the RDW functions know. -/
structure WellFormed (t : DesktopType) (msg : ZdtmMsg) : Prop where
  type : desktopType msg.body.type = some t
  raw : msg.body.pRawContent = none
  log : t = .rms → msg.body.cont.rms.logSize.toNat ≤ 38
  variation : t = .rdw → msg.body.cont.rdw.variation = 2 ∨ WritesItem msg.body.cont.rdw

/-- Every run returns, and it returns 0 only for a well-formed message whose
content is then exactly what the writer wrote. -/
def PreparesWellFormed (b : Build) (msg : ZdtmMsg) : Prop :=
  Returns b msg fun msg' => ∃ t written, WellFormed t msg ∧
    contentWrite b t msg.body.cont = .ok written ∧ written.null = false ∧
    msg'.body.pRawContent = some written.bytes

/-- Contents that fill their block exactly, or that the writer refuses. -/
def ContentSound (t : DesktopType) (cont : SpecTypeContent) : Prop :=
  match t with
  | .rms => cont.rms.logSize.toNat ≤ 38
  | .rrl => cont.rrl.pwSize.toNat ≤ cont.rrl.pw.target.length
  | .rge => cont.rge.pathLen.toNat ≤ cont.rge.path.target.length ∧
      cont.rge.pathLen.toNat ≤ 65533
  | .rdw => cont.rdw.variation = 2 ∨
      (cont.rdw.variation = 1 ∨ cont.rdw.variation = 3) ∧
        (cont.rdw.syncType = syncTypeTodo → TodoReadable cont.rdw.todo ∧
          (cont.rdw.todo.descriptionLen.toNat + cont.rdw.todo.notesLen.toNat) % 65536 = 8 ∧
          beforeItemLength cont.rdw + 57 + cont.rdw.todo.categoryLen.toNat < 65536)
  | _ => True

/-- The content is refused, or it is well formed and fills its block. -/
def FillsBlock (b : Build) (t : DesktopType) (msg : ZdtmMsg) : Prop :=
  ∃ written, contentWrite b t msg.body.cont = .ok written ∧
    written.bytes.length ≤ (sizedMessage b t msg).contSize.toNat ∧
    (¬ (t = .rdw ∧ written.null) → WellFormed t msg ∧ written.null = false ∧
      written.bytes.length = (sizedMessage b t msg).contSize.toNat)

section Sound

variable {b : Build} {msg : ZdtmMsg} {t : DesktopType}

theorem preparesWellFormed_iff_fillsBlock (ht : desktopType msg.body.type = some t)
    (hr : msg.body.pRawContent = none) :
    PreparesWellFormed b msg ↔ FillsBlock b t msg := by
  rw [PreparesWellFormed, returns_iff ht hr]
  constructor
  · intro hwritten
    obtain ⟨written, hw, hle, hq⟩ := hwritten
    refine ⟨written, hw, hle, ?_⟩
    intro haccept
    obtain ⟨t', written', hwell, hw', hnull, hraw⟩ := hq haccept fun _ => 0
    have htt : t' = t := Option.some.inj (hwell.type.symm.trans ht)
    subst htt
    rw [hw] at hw'
    cases hw'
    have hblock : filledBlock (sizedMessage b t' msg).contSize.toNat (fun _ => 0)
        written.bytes = written.bytes := Option.some.inj hraw
    have hlen := length_filledBlock (fun _ => 0) hle
    rw [hblock] at hlen
    exact ⟨hwell, hnull, hlen⟩
  · intro hwritten
    obtain ⟨written, hw, hle, hq⟩ := hwritten
    refine ⟨written, hw, hle, ?_⟩
    intro haccept garbage
    obtain ⟨hwell, hnull, hlen⟩ := hq haccept
    refine ⟨t, written, hwell, hw, hnull, ?_⟩
    simp only [preparedMessage, withRaw, ← hlen, filledBlock_exact]

/-- Outside RDW a well-formed content fills its block when its length is a 16-bit number. -/
theorem fillsBlock_of_length (ht : desktopType msg.body.type = some t)
    (hr : msg.body.pRawContent = none) (hrdw : t ≠ .rdw)
    (hlog : t = .rms → msg.body.cont.rms.logSize.toNat ≤ 38)
    (hread : ContentReadable t msg.body.cont)
    (hsmall : contentLength t msg.body.cont < 65536) : FillsBlock b t msg := by
  obtain ⟨written, hw⟩ := (contentWrite_ok_iff (b := b)).mpr hread
  obtain ⟨hnull, hlen⟩ := contentWrite_length hw hrdw hlog
  have hcont := contSize_toNat b t msg
  have heq : written.bytes.length = (sizedMessage b t msg).contSize.toNat := by omega
  have hwell : WellFormed t msg := ⟨ht, hr, hlog, fun h => absurd h hrdw⟩
  exact ⟨written, hw, heq.le, fun _ => ⟨hwell, hnull, heq⟩⟩

theorem fillsBlock_readable (h : FillsBlock b t msg) : ContentReadable t msg.body.cont := by
  obtain ⟨written, hw, -⟩ := h
  exact contentWrite_ok_iff.mp ⟨written, hw⟩

theorem fillsBlock_length (h : FillsBlock b t msg) (hrdw : t ≠ .rdw) :
    WellFormed t msg ∧ contentLength t msg.body.cont < 65536 := by
  obtain ⟨written, hw, -, hq⟩ := h
  obtain ⟨hwell, -, heq⟩ := hq fun hn => hrdw hn.1
  obtain ⟨-, hlen⟩ := contentWrite_length hw hrdw hwell.log
  have hlt : (sizedMessage b t msg).contSize.toNat < 65536 := UInt16.toNat_lt _
  exact ⟨hwell, by omega⟩

theorem item_contSize (hi : WritesItem msg.body.cont.rdw) :
    (sizedMessage b .rdw msg).contSize.toNat =
      (beforeItemLength msg.body.cont.rdw + todoFieldLengths msg.body.cont.rdw.todo) % 65536 := by
  have hcont := contSize_toNat b .rdw msg
  rw [contentLength, zdtmRdwLength_item hi] at hcont
  have hmod : (toInt (beforeItemLength msg.body.cont.rdw +
      todoFieldLengths msg.body.cont.rdw.todo)) % 65536 =
      ((beforeItemLength msg.body.cont.rdw : Int) +
        todoFieldLengths msg.body.cont.rdw.todo) % 65536 := by
    unfold toInt
    rw [Int.bmod_def]
    split <;> omega
  rw [hmod] at hcont
  omega

/-- An item fills its block when its lengths make up for the four-byte copies modulo 65536. -/
theorem item_fillsBlock_iff (ht : desktopType msg.body.type = some .rdw)
    (hr : msg.body.pRawContent = none) (hi : WritesItem msg.body.cont.rdw) :
    FillsBlock b .rdw msg ↔ TodoReadable msg.body.cont.rdw.todo ∧
      (msg.body.cont.rdw.todo.descriptionLen.toNat +
        msg.body.cont.rdw.todo.notesLen.toNat) % 65536 = 8 ∧
      beforeItemLength msg.body.cont.rdw + 57 +
        msg.body.cont.rdw.todo.categoryLen.toNat < 65536 := by
  have hsize := item_contSize (b := b) hi
  have hlt : (sizedMessage b .rdw msg).contSize.toNat < 65536 := UInt16.toNat_lt _
  unfold todoFieldLengths at hsize
  constructor
  · intro hwritten
    obtain ⟨written, hw, -, hq⟩ := hwritten
    have hread : TodoReadable msg.body.cont.rdw.todo := not_unreadable_of_ok hw hi
    rw [contentWrite, zdtmRdwWrite_item b hi hread] at hw
    cases hw
    obtain ⟨-, -, heq⟩ := hq (by simp)
    simp only at heq
    have hlen := length_item_content b hread
    refine ⟨hread, ?_, ?_⟩ <;> omega
  · rintro ⟨hread, hlens, hsmall⟩
    have hlen := length_item_content b hread
    have heq : (beforeItem b msg.body.cont.rdw ++ todoBytes b msg.body.cont.rdw.todo).length =
        (sizedMessage b .rdw msg).contSize.toNat := by omega
    have hwell : WellFormed .rdw msg := ⟨ht, hr, fun h => by (cases h), fun _ => Or.inr hi⟩
    exact ⟨_, zdtmRdwWrite_item b hi hread, heq.le, fun _ => ⟨hwell, rfl, heq⟩⟩

/-- What an item without a known type leaves in the block fits it. -/
theorem noItem_fits (hv : msg.body.cont.rdw.variation = 1 ∨ msg.body.cont.rdw.variation = 3)
    (hs : msg.body.cont.rdw.syncType ≠ syncTypeTodo) :
    (beforeItem b msg.body.cont.rdw).length ≤ (sizedMessage b .rdw msg).contSize.toNat := by
  have hcont := contSize_toNat b .rdw msg
  rw [contentLength, zdtmRdwLength_other hv hs] at hcont
  simp only [retUnkType] at hcont
  rw [length_beforeItem]
  unfold beforeItemLength
  split <;> omega

theorem rdw_fillsBlock_iff (ht : desktopType msg.body.type = some .rdw)
    (hr : msg.body.pRawContent = none) :
    FillsBlock b .rdw msg ↔ ContentSound .rdw msg.body.cont := by
  have hcont := contSize_toNat b .rdw msg
  rcases rdw_cases msg.body.cont.rdw with hi | ⟨hv, hs⟩ | hv | hv
  · have hno : msg.body.cont.rdw.variation ≠ 2 := by
      rcases hi.1 with h | h <;> rw [h] <;> decide
    rw [item_fillsBlock_iff ht hr hi]
    simp only [ContentSound, hno, hi.1, hi.2, false_or, true_and, forall_const]
  · have hfills : FillsBlock b .rdw msg :=
      ⟨_, zdtmRdwWrite_other b hv hs, noItem_fits hv hs, fun hn => absurd ⟨rfl, rfl⟩ hn⟩
    exact iff_of_true hfills (Or.inr ⟨hv, fun h => absurd h hs⟩)
  · rw [contentLength, zdtmRdwLength_two hv] at hcont
    have hlen : (syncIdsWrite b msg.body.cont.rdw.syncType msg.body.cont.rdw.numSyncIds
        msg.body.cont.rdw.syncId ++ rdwVariationTwo b msg.body.cont.rdw.vars).length =
        (sizedMessage b .rdw msg).contSize.toNat := by
      rw [List.length_append, length_syncIdsWrite, length_rdwVariationTwo]
      omega
    have hwell : WellFormed .rdw msg := ⟨ht, hr, fun h => by (cases h), fun _ => Or.inl hv⟩
    have hfills : FillsBlock b .rdw msg :=
      ⟨_, zdtmRdwWrite_two b hv, hlen.le, fun _ => ⟨hwell, rfl, hlen⟩⟩
    exact iff_of_true hfills (Or.inl hv)
  · apply iff_of_false
    · intro hwritten
      obtain ⟨written, hw, -, hq⟩ := hwritten
      rw [contentWrite, zdtmRdwWrite_unknown b hv] at hw
      cases hw
      rcases (hq (by simp)).1.variation rfl with h | h
      · exact hv.2.1 h
      · exact h.1.elim hv.1 hv.2.2
    · rintro (h | ⟨h, -⟩)
      · exact hv.2.1 h
      · exact h.elim hv.1 hv.2.2

theorem fillsBlock_iff (ht : desktopType msg.body.type = some t)
    (hr : msg.body.pRawContent = none) :
    FillsBlock b t msg ↔ ContentSound t msg.body.cont := by
  cases t with
  | rdw => exact rdw_fillsBlock_iff ht hr
  | rms =>
    constructor
    · intro h
      exact (fillsBlock_length h (by decide)).1.log rfl
    · intro hlog
      exact fillsBlock_of_length ht hr (by decide) (fun _ => hlog) trivial
        (by simp [contentLength, zdtmRmsLength])
  | rrl =>
    constructor
    · intro h
      exact fillsBlock_readable h
    · intro hread
      have hlt : msg.body.cont.rrl.pwSize.toNat < 256 := UInt8.toNat_lt _
      exact fillsBlock_of_length ht hr (by decide) (fun h => by cases h) hread
        (by simp only [contentLength, zdtmRrlLength]; omega)
  | rge =>
    constructor
    · intro h
      have hlt := (fillsBlock_length h (by decide)).2
      simp only [contentLength, zdtmRgeLength] at hlt
      exact ⟨fillsBlock_readable h, by omega⟩
    · rintro ⟨hread, hsmall⟩
      exact fillsBlock_of_length ht hr (by decide) (fun h => by cases h) hread
        (by simp only [contentLength, zdtmRgeLength]; omega)
  | _ =>
    exact iff_of_true (fillsBlock_of_length ht hr (by decide) (fun h => by cases h) trivial
      (of_decide_eq_true rfl)) trivial

end Sound

/-- The messages that are refused before the content matters, and those with a
sound content. -/
def RefusedOrSound (msg : ZdtmMsg) : Prop :=
  msg.body.pRawContent ≠ none ∨
    ∀ t, desktopType msg.body.type = some t → ContentSound t msg.body.cont

/-- `_zdtm_prepare_message` lets through only well-formed messages with nothing
but written content, exactly for these messages. -/
theorem prepares_well_formed_iff (b : Build) (msg : ZdtmMsg) :
    PreparesWellFormed b msg ↔ RefusedOrSound msg := by
  cases ht : desktopType msg.body.type with
  | none =>
    refine iff_of_true (returns_unknown ht) (Or.inr ?_)
    intro t h
    rw [ht] at h
    cases h
  | some t =>
    by_cases hr : msg.body.pRawContent = none
    · rw [preparesWellFormed_iff_fillsBlock ht hr, fillsBlock_iff ht hr]
      simp [RefusedOrSound, hr, ht]
    · exact iff_of_true (returns_nnull ht hr) (Or.inl hr)

/-- An RMS message whose log size is one more than its log holds. -/
def overlongLog : ZdtmMsg where
  body := { type := DesktopType.rms.bytes, cont := { rms := { logSize := 39 } } }

/-- It is prepared with 0 and forty bytes of whatever the heap held. -/
theorem overlongLog_prepared :
    (∃ msg' heap', zdtmPrepareMessage .littleEndian overlongLog (Heap.filled 0xa5) =
        .ok ((0, msg'), heap') ∧ msg'.body.pRawContent = some (List.replicate 40 0xa5)) ∧
      ∀ t, ¬ WellFormed t overlongLog := by
  have ht : desktopType overlongLog.body.type = some .rms := desktopType_bytes .rms
  have hp : Prepares .littleEndian overlongLog (Heap.filled 0xa5) .rms (fun _ => 0xa5)
      { bytes := [], null := true } :=
    ⟨ht, rfl, rfl, rfl, Nat.zero_le _, fun h => absurd h.1 (by decide)⟩
  refine ⟨⟨_, _, prepare_ok hp, by decide⟩, ?_⟩
  intro t hwell
  have htt : t = .rms := Option.some.inj (hwell.type.symm.trans ht)
  exact absurd (hwell.log htt) (by decide)

end ZdtmPrepare
