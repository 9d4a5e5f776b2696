import ZdtmSync.Prepare

/-!
# Sizes that do not wrap

The length of a content is an `int`, `body_size` and `cont_size` are 16-bit
numbers. They are exact when the full length of the content is at most 65532,
and nothing in `_zdtm_prepare_message` checks that it is.
-/

namespace ZdtmSizes

open LittleEndian CMemory ZdtmTypes ZdtmCommon ZdtmDesktopMsg ZdtmMsgs ZdtmWriters ZdtmPrepare

/-- The length of a content as a natural number: for RDW the sum of its field lengths. -/
def fullLength (t : DesktopType) (cont : SpecTypeContent) : Nat :=
  match t with
  | .rrl => 1 + cont.rrl.pwSize.toNat
  | .rge => 2 + cont.rge.pathLen.toNat
  | .rdw =>
    if cont.rdw.variation = 1 ∨ cont.rdw.variation = 3 then
      beforeItemLength cont.rdw + todoFieldLengths cont.rdw.todo
    else if cont.rdw.variation = 2 then 12
    else 7
  | t => (contentLength t cont).toNat

/-- Every run returns; with 0 the sizes are those of the full content, and a
content of more than 65532 bytes is never let through. -/
def SizesExact (b : Build) (t : DesktopType) (msg : ZdtmMsg) : Prop :=
  Returns b msg fun msg' =>
    msg'.bodySize.toNat = 3 + fullLength t msg.body.cont ∧
      msg'.contSize.toNat + 3 = msg'.bodySize.toNat ∧
      fullLength t msg.body.cont ≤ 65532

/-- The full content fits a message and the writer stays inside fields and block. -/
structure ContentFits (t : DesktopType) (cont : SpecTypeContent) : Prop where
  full : fullLength t cont ≤ 65532
  readable : ContentReadable t cont
  variation : t = .rdw → ¬ UnknownVariation cont.rdw
  item : t = .rdw → WritesItem cont.rdw →
    8 ≤ cont.rdw.todo.descriptionLen.toNat + cont.rdw.todo.notesLen.toNat

/-- An RDW message that the second pass refuses. -/
def NoItemType (t : DesktopType) (cont : SpecTypeContent) : Prop :=
  t = .rdw ∧ (cont.rdw.variation = 1 ∨ cont.rdw.variation = 3) ∧
    cont.rdw.syncType ≠ syncTypeTodo

section Exact

variable {b : Build} {msg : ZdtmMsg} {t : DesktopType} {cont : SpecTypeContent}

theorem fullLength_item (hi : WritesItem cont.rdw) :
    fullLength .rdw cont = beforeItemLength cont.rdw + todoFieldLengths cont.rdw.todo :=
  if_pos hi.1

theorem fullLength_two (hv : cont.rdw.variation = 2) : fullLength .rdw cont = 12 := by
  simp [fullLength, hv]

theorem contentLength_eq_full (hrdw : t ≠ .rdw) :
    contentLength t cont = fullLength t cont := by
  cases t with
  | rdw => exact absurd rfl hrdw
  | rrl => simp [contentLength, zdtmRrlLength, fullLength]
  | rge => simp [contentLength, zdtmRgeLength, fullLength]
  | _ => rfl

/-- Up to multiples of 65536 the announced length is the full one. -/
theorem contentLength_mod (hknown : t = .rdw → cont.rdw.variation = 2 ∨ WritesItem cont.rdw) :
    contentLength t cont % 65536 = (fullLength t cont : Int) % 65536 := by
  by_cases hrdw : t = .rdw
  · subst hrdw
    rcases hknown rfl with hv | hi
    · rw [contentLength, zdtmRdwLength_two hv, fullLength_two hv]
      rfl
    · rw [contentLength, zdtmRdwLength_item hi, fullLength_item hi]
      unfold toInt
      rw [Int.bmod_def]
      split <;> omega
  · rw [contentLength_eq_full hrdw]

/-- The sizes are exact when the full length is small enough, and only then. -/
theorem sizes_iff
    (hknown : t = .rdw → msg.body.cont.rdw.variation = 2 ∨ WritesItem msg.body.cont.rdw) :
    (sizedMessage b t msg).contSize.toNat = fullLength t msg.body.cont % 65536 ∧
      ((sizedMessage b t msg).bodySize.toNat = 3 + fullLength t msg.body.cont ↔
        fullLength t msg.body.cont ≤ 65532) := by
  have hbody := bodySize_toNat b t msg
  have hcont := contSize_toNat b t msg
  have hmod := contentLength_mod hknown
  constructor
  · omega
  · omega

/-- What the writer emits fits the full length, with an item if its strings
make up for the four-byte copies. -/
theorem contentWrite_le_full {written : Written} (hw : contentWrite b t cont = .ok written)
    (hknown : t = .rdw → cont.rdw.variation = 2 ∨ WritesItem cont.rdw) :
    written.bytes.length ≤ fullLength t cont ↔ (t = .rdw → WritesItem cont.rdw →
      8 ≤ cont.rdw.todo.descriptionLen.toNat + cont.rdw.todo.notesLen.toNat) := by
  by_cases hrdw : t = .rdw
  · subst hrdw
    rcases hknown rfl with hv | hi
    · have hno : ¬ WritesItem cont.rdw := by
        intro hi
        rcases hi.1 with h | h <;> rw [hv] at h <;> revert h <;> decide
      rw [contentWrite, zdtmRdwWrite_two b hv] at hw
      cases hw
      simp [fullLength_two hv, hno]
    · have hread := not_unreadable_of_ok hw hi
      rw [contentWrite, zdtmRdwWrite_item b hi hread] at hw
      cases hw
      rw [length_item_content b hread, fullLength_item hi]
      unfold todoFieldLengths
      constructor
      · intro h _ _
        omega
      · intro h
        have h8 := h rfl hi
        omega
  · refine iff_of_true ?_ fun h => absurd h hrdw
    by_cases hlog : t = .rms → cont.rms.logSize.toNat ≤ 38
    · have hlen := (contentWrite_length hw hrdw hlog).2
      rw [contentLength_eq_full hrdw] at hlen
      omega
    · obtain ⟨rfl, hgt⟩ := Classical.not_imp.mp hlog
      rw [contentWrite, zdtmRmsWrite_of_lt b (not_le.mp hgt)] at hw
      cases hw
      exact Nat.zero_le _

/-- The writer succeeds inside the block, and the sizes are exact unless it refuses. -/
def SizedRun (b : Build) (t : DesktopType) (msg : ZdtmMsg) : Prop :=
  ∃ written, contentWrite b t msg.body.cont = .ok written ∧
    written.bytes.length ≤ (sizedMessage b t msg).contSize.toNat ∧
    (¬ (t = .rdw ∧ written.null) →
      (sizedMessage b t msg).bodySize.toNat = 3 + fullLength t msg.body.cont ∧
        (sizedMessage b t msg).contSize.toNat + 3 = (sizedMessage b t msg).bodySize.toNat ∧
        fullLength t msg.body.cont ≤ 65532)

theorem sizesExact_iff_sizedRun (ht : desktopType msg.body.type = some t)
    (hr : msg.body.pRawContent = none) : SizesExact b t msg ↔ SizedRun b t msg := by
  rw [SizesExact, returns_iff ht hr]
  constructor
  · intro hwritten
    obtain ⟨written, hw, hle, hq⟩ := hwritten
    exact ⟨written, hw, hle, fun haccept => hq haccept fun _ => 0⟩
  · intro hwritten
    obtain ⟨written, hw, hle, hq⟩ := hwritten
    exact ⟨written, hw, hle, fun haccept _ => hq haccept⟩

theorem sizedRun_known
    (hknown : t = .rdw → msg.body.cont.rdw.variation = 2 ∨ WritesItem msg.body.cont.rdw) :
    SizedRun b t msg ↔ ContentFits t msg.body.cont := by
  obtain ⟨hcont, hbody⟩ := sizes_iff (b := b) hknown
  have hvar : t = .rdw → ¬ UnknownVariation msg.body.cont.rdw := by
    intro hrdw hunk
    rcases hknown hrdw with h | h
    · exact hunk.2.1 h
    · exact h.1.elim hunk.1 hunk.2.2
  have haccepted : ∀ {written}, contentWrite b t msg.body.cont = .ok written →
      ¬ (t = .rdw ∧ written.null) := by
    rintro written hw ⟨rfl, hnull⟩
    rcases hknown rfl with hv | hi
    · rw [contentWrite, zdtmRdwWrite_two b hv] at hw
      cases hw
      cases hnull
    · rw [contentWrite, zdtmRdwWrite_item b hi (not_unreadable_of_ok hw hi)] at hw
      cases hw
      cases hnull
  constructor
  · intro hwritten
    obtain ⟨written, hw, hle, hq⟩ := hwritten
    obtain ⟨-, -, hfull⟩ := hq (haccepted hw)
    have hle' : written.bytes.length ≤ fullLength t msg.body.cont := by omega
    exact ⟨hfull, contentWrite_ok_iff.mp ⟨written, hw⟩, hvar,
      (contentWrite_le_full hw hknown).mp hle'⟩
  · rintro ⟨hfull, hread, -, hitem⟩
    obtain ⟨written, hw⟩ := (contentWrite_ok_iff (b := b)).mpr hread
    have hle := (contentWrite_le_full hw hknown).mpr hitem
    have hsize := hbody.mpr hfull
    exact ⟨written, hw, by omega, fun _ => ⟨hsize, by omega, hfull⟩⟩

/-- An unknown variation is let through with the sizes of its error code. -/
theorem not_sizedRun_unknown (hv : UnknownVariation msg.body.cont.rdw) :
    ¬ SizedRun b .rdw msg := by
  intro hwritten
  obtain ⟨written, hw, -, hq⟩ := hwritten
  have hbody := bodySize_toNat b .rdw msg
  rw [contentLength, zdtmRdwLength_unknown hv] at hbody
  simp only [retUnkVar] at hbody
  rw [contentWrite, zdtmRdwWrite_unknown b hv] at hw
  cases hw
  have hfull : fullLength .rdw msg.body.cont = 7 := by
    simp [fullLength, hv.1, hv.2.1, hv.2.2]
  have hsize := (hq (by simp)).1
  omega

end Exact

/-- The sizes of a prepared message are exact, and too long a content is
refused, exactly for these messages. -/
theorem sizes_exact_iff (b : Build) (t : DesktopType) (msg : ZdtmMsg)
    (ht : desktopType msg.body.type = some t) :
    SizesExact b t msg ↔ msg.body.pRawContent ≠ none ∨ NoItemType t msg.body.cont ∨
      ContentFits t msg.body.cont := by
  by_cases hr : msg.body.pRawContent = none
  · rw [sizesExact_iff_sizedRun ht hr]
    simp only [hr, ne_eq, not_true_eq_false, false_or]
    by_cases hknown : t = .rdw → msg.body.cont.rdw.variation = 2 ∨ WritesItem msg.body.cont.rdw
    · rw [sizedRun_known hknown, or_iff_right]
      rintro ⟨hrdw, hv, hs⟩
      rcases hknown hrdw with h | h
      · rcases hv with hv | hv <;> rw [hv] at h <;> revert h <;> decide
      · exact hs h.2
    · obtain ⟨rfl, hno⟩ := Classical.not_imp.mp hknown
      rcases rdw_cases msg.body.cont.rdw with hi | ⟨hv, hs⟩ | hv | hv
      · exact absurd (Or.inr hi) hno
      · have hrun : SizedRun b .rdw msg :=
          ⟨_, zdtmRdwWrite_other b hv hs, noItem_fits hv hs, fun hn => absurd ⟨rfl, rfl⟩ hn⟩
        exact iff_of_true hrun (Or.inl ⟨rfl, hv, hs⟩)
      · exact absurd (Or.inl hv) hno
      · apply iff_of_false (not_sizedRun_unknown hv)
        rintro (⟨-, h, -⟩ | h)
        · exact h.elim hv.1 hv.2.2
        · exact h.variation rfl hv
  · exact iff_of_true (returns_nnull ht hr) (Or.inl hr)

/-- An RGE message with a path of 65531 bytes. -/
def longPath : ZdtmMsg where
  body := {
    type := DesktopType.rge.bytes
    cont := { rge := { pathLen := 65531, path := some (List.replicate 65531 0x2f) } } }

theorem sizes_exact_longPath :
    SizesExact .littleEndian .rge longPath ↔ longPath.body.pRawContent ≠ none ∨
      NoItemType .rge longPath.body.cont ∨ ContentFits .rge longPath.body.cont :=
  sizes_exact_iff .littleEndian .rge longPath (desktopType_bytes .rge)

/-- It is prepared with 0 and a body size of 0, for a content of 65533 bytes. -/
theorem longPath_wraps :
    (∃ msg' heap', zdtmPrepareMessage .littleEndian longPath (Heap.filled 0) =
        .ok ((0, msg'), heap') ∧ msg'.bodySize.toNat = 0) ∧
      desktopType longPath.body.type = some .rge ∧ fullLength .rge longPath.body.cont = 65533 := by
  have ht : desktopType longPath.body.type = some .rge := desktopType_bytes .rge
  have hpath : longPath.body.cont.rge.pathLen.toNat = 65531 := rfl
  have htarget : longPath.body.cont.rge.path.target.length = 65531 := List.length_replicate
  have hread : ContentReadable .rge longPath.body.cont := by
    rw [ContentReadable, hpath, htarget]
  have hbody := bodySize_toNat .littleEndian .rge longPath
  have hcont := contSize_toNat .littleEndian .rge longPath
  obtain ⟨written, hw⟩ := contentWrite_ok_iff.mpr hread
  have hlen := (contentWrite_length hw (by decide) fun h => by cases h).2
  simp only [contentLength, zdtmRgeLength, hpath] at hbody hcont hlen
  have hp : Prepares .littleEndian longPath (Heap.filled 0) .rge (fun _ => 0) written :=
    ⟨ht, rfl, rfl, hw, by omega, fun h => absurd h.1 (by decide)⟩
  refine ⟨⟨_, _, prepare_ok hp, ?_⟩, ht, rfl⟩
  simp only [preparedMessage, withRaw]
  omega

end ZdtmSizes
