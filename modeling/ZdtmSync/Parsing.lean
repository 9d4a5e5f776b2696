import ZdtmSync.Msgs

/-!
# Parsing within the raw content

No parser is told how long its content is. Each one reads what the counts and
lengths in the content announce, so it stays inside the content exactly when
the content is long enough for them, and it never reports that it is not.
-/

namespace ZdtmParsing

open LittleEndian ByteCodec CMemory ZdtmTypes ZdtmZaurusMsg ZdtmMsgs
open ByteCodec.Decoder

/-- The size of a block behind its own length of `w` bytes. -/
def blockSize (w : Nat) (s : List UInt8) : Nat := w + value (s.take w)

/-- The size of a list of synchronization ids with its id and its count. -/
def syncListSize (s : List UInt8) : Nat := 3 + 4 * value ((s.drop 1).take 2)

/-- The content is long enough for its own counts and lengths, as the build reads them. -/
def HoldsItsFields (b : Build) (z : ZaurusType) (s : List UInt8) : Prop :=
  match z with
  | .aay => 3 ≤ s.length
  | .aig => 16 + value (s.take 2) ≤ s.length
  | .amg => 49 ≤ s.length
  | .atg => 14 ≤ s.length
  | .aex => True
  | .ang => 1 ≤ s.length
  | .adi => 7 + 5 * value ((s.drop 4).take 2) ≤ s.length ∧
      Holds (blockSize 2) (value ((s.drop 4).take 2)) (s.drop (7 + 5 * value ((s.drop 4).take 2)))
  | .asy => Holds syncListSize 3 s
  | .adr => 4 ≤ s.length ∧
      (b = .littleEndian → Holds (blockSize 4) (value ((s.drop 2).take 2)) (s.drop 4))
  | .adw => 10 ≤ s.length

theorem fixedWidth_block (n : Nat) : FixedWidth (block n) n :=
  sized_bind (fixedWidth_raw n) fun _ => fixedWidth_pure _

theorem fixedWidth_countByLong (b : Build) : FixedWidth (countByLong b) 2 :=
  sized_bind fixedWidth_u16 fun _ => fixedWidth_pure _

theorem aayLayout_width : FixedWidth aayLayout 3 :=
  sized_bind (fixedWidth_raw 3) fun _ => fixedWidth_pure _

theorem amgLayout_width : FixedWidth amgLayout 49 :=
  sized_bind (fixedWidth_raw 2) fun _ => sized_bind fixedWidth_u8 fun _ =>
    sized_bind (fixedWidth_raw 46) fun _ => fixedWidth_pure _

theorem atgLayout_width : FixedWidth atgLayout 14 :=
  sized_bind (fixedWidth_raw 4) fun _ => sized_bind (fixedWidth_raw 2) fun _ =>
    sized_bind (fixedWidth_raw 2) fun _ => sized_bind (fixedWidth_raw 2) fun _ =>
      sized_bind (fixedWidth_raw 2) fun _ => sized_bind (fixedWidth_raw 2) fun _ =>
        fixedWidth_pure _

theorem angLayout_width : FixedWidth angLayout 1 :=
  sized_bind fixedWidth_u8 fun _ => fixedWidth_pure _

theorem adwLayout_width (b : Build) : FixedWidth (adwLayout b) 10 :=
  sized_bind (fixedWidth_raw 4) fun _ => sized_bind (fixedWidth_countByLong b) fun _ =>
    sized_bind fixedWidth_u32 fun _ => fixedWidth_pure _

theorem aigLayout_size : Sized aigLayout fun s => 2 + (value (s.take 2) + 14) := by
  refine sized_u16_bind (g := fun n => n + 14) ?_
  intro modelStrLen
  exact sized_bind (fixedWidth_block _) fun _ => sized_bind (fixedWidth_raw 5) fun _ =>
    sized_bind (fixedWidth_raw 2) fun _ => sized_bind fixedWidth_u8 fun _ =>
      sized_bind (fixedWidth_raw 6) fun _ => fixedWidth_pure _

theorem adiDescLayout_size : Sized adiDescLayout (blockSize 2) := by
  refine sized_u16_bind (g := fun n => n) ?_
  intro descLen
  exact sized_bind (fixedWidth_block _) fun _ => fixedWidth_pure _

theorem adrParamLayout_size : Sized adrParamLayout (blockSize 4) := by
  refine sized_u32_bind (g := fun n => n) ?_
  intro paramLen
  exact sized_bind (fixedWidth_block _) fun _ => fixedWidth_pure _

theorem asyListLayout_size : Sized asyListLayout syncListSize := by
  have hsize : syncListSize = fun s => 1 + (2 + (value ((s.drop 1).take 2) * 4 + 0)) := by
    funext s
    unfold syncListSize
    omega
  have hlist := sized_bind fixedWidth_u8 fun listId : UInt8 =>
    sized_u16_bind (g := fun n => n * 4 + 0) fun numSyncIds : UInt16 =>
      sized_bind (fixedWidth_times fixedWidth_u32 numSyncIds.toNat) fun syncIds =>
        fixedWidth_pure (listId, numSyncIds, syncIds)
  rw [hsize]
  exact hlist

theorem asyLayout_accepts (s : List UInt8) : (asyLayout s).isSome ↔ Holds syncListSize 3 s := by
  apply isSome_sized_bind asyListLayout_size
  intro new s
  apply isSome_sized_bind asyListLayout_size
  intro mod s
  apply isSome_sized_bind asyListLayout_size
  intro del s
  exact iff_of_true rfl trivial

/-- The three columns of an ADI content, for `n` parameters. -/
def HoldsColumns (n : Nat) (s : List UInt8) : Prop :=
  n * 4 ≤ s.length ∧ n * 1 ≤ (s.drop (n * 4)).length ∧
    Holds (blockSize 2) n ((s.drop (n * 4)).drop (n * 1))

theorem adiLayout_columns (s : List UInt8) :
    (adiLayout s).isSome ↔ 4 ≤ s.length ∧ 2 ≤ (s.drop 4).length ∧
      1 ≤ ((s.drop 4).drop 2).length ∧
      HoldsColumns (value ((s.drop 4).take 2)) (((s.drop 4).drop 2).drop 1) := by
  refine isSome_sized_bind (P := fun s => 2 ≤ s.length ∧ 1 ≤ (s.drop 2).length ∧
    HoldsColumns (value (s.take 2)) ((s.drop 2).drop 1)) fixedWidth_u32 ?_
  intro numCards s
  refine isSome_number_bind (Q := fun n s => 1 ≤ s.length ∧ HoldsColumns n (s.drop 1))
    fixedWidth_u16 Codec.u16_value ?_
  intro numParams s
  apply isSome_sized_bind fixedWidth_u8
  intro ukData0 s
  refine isSome_sized_bind (P := fun s => numParams.toNat * 1 ≤ s.length ∧
    Holds (blockSize 2) numParams.toNat (s.drop (numParams.toNat * 1)))
    (fixedWidth_times (fixedWidth_raw 4) _) ?_
  intro abrevs s
  apply isSome_sized_bind (fixedWidth_times fixedWidth_u8 _)
  intro typeIds s
  rw [isSome_bind_pure]
  exact isSome_times adiDescLayout_size _ s

theorem adrLayout_params (b : Build) (s : List UInt8) :
    (adrLayout b s).isSome ↔ 2 ≤ s.length ∧ 2 ≤ (s.drop 2).length ∧
      (b = .littleEndian →
        Holds (blockSize 4) (value ((s.drop 2).take 2)) ((s.drop 2).drop 2)) := by
  refine isSome_sized_bind (P := fun s => 2 ≤ s.length ∧
    (b = .littleEndian → Holds (blockSize 4) (value (s.take 2)) (s.drop 2))) (fixedWidth_raw 2) ?_
  intro uk s
  simp only [countByLong, bind_assoc, pure_bind]
  refine isSome_number_bind (Q := fun n s => b = .littleEndian → Holds (blockSize 4) n s)
    fixedWidth_u16 Codec.u16_value ?_
  intro numParams s
  rw [isSome_bind_pure, isSome_times adrParamLayout_size]
  cases b with
  | littleEndian => simp
  | bigEndian => simp [Holds]

/-- A layout accepts exactly the contents that hold their fields. -/
theorem contentLayout_accepts (b : Build) (z : ZaurusType) (cont : SpecTypeContent)
    (s : List UInt8) : (contentLayout b z cont s).isSome ↔ HoldsItsFields b z s := by
  cases z with
  | aex => exact iff_of_true rfl trivial
  | aay => exact isSome_bind_pure.trans (aayLayout_width.isSome_iff s)
  | amg => exact isSome_bind_pure.trans (amgLayout_width.isSome_iff s)
  | atg => exact isSome_bind_pure.trans (atgLayout_width.isSome_iff s)
  | ang => exact isSome_bind_pure.trans (angLayout_width.isSome_iff s)
  | adw => exact isSome_bind_pure.trans ((adwLayout_width b).isSome_iff s)
  | asy => exact isSome_bind_pure.trans (asyLayout_accepts s)
  | aig =>
    rw [contentLayout, isSome_bind_pure, aigLayout_size.isSome_iff, HoldsItsFields]
    omega
  | adi =>
    rw [contentLayout, isSome_bind_pure, adiLayout_columns, HoldsItsFields, HoldsColumns]
    simp only [List.drop_drop, List.length_drop]
    have hoff : ∀ n : Nat, 4 + 2 + 1 + n * 4 + n * 1 = 7 + 5 * n := by
      intro n
      omega
    rw [hoff]
    constructor
    · rintro ⟨h4, h2, h1, hn4, hn1, h⟩
      exact ⟨by omega, h⟩
    · rintro ⟨hlen, h⟩
      exact ⟨by omega, by omega, by omega, by omega, by omega, h⟩
  | adr =>
    rw [contentLayout, isSome_bind_pure, adrLayout_params, HoldsItsFields]
    simp only [List.drop_drop, List.length_drop]
    constructor
    · rintro ⟨h2, h4, h⟩
      exact ⟨by omega, h⟩
    · rintro ⟨h4, h⟩
      exact ⟨by omega, by omega, h⟩

/-- Whatever message of the type holds the content, parsing returns without
reading outside it, and not with 0 if the content is too short. -/
def ParsesInBounds (b : Build) (z : ZaurusType) (s : List UInt8) : Prop :=
  ∀ (msg : ZdtmMsg) (heap : Heap), msg.body.type = z.bytes →
    msg.body.pRawContent.target = s → msg.contSize.toNat = s.length →
    ∃ code msg' heap', zdtmParseRawMsg b msg heap = .ok ((code, msg'), heap') ∧
      (¬ HoldsItsFields b z s → code ≠ 0)

/-- A message of the type with the content, as it is received. -/
def receivedMsg (z : ZaurusType) (s : List UInt8) : ZdtmMsg where
  body := { type := z.bytes, pRawContent := if s = [] then none else some s }
  contSize := UInt16.ofNat s.length

theorem receivedMsg_target (z : ZaurusType) (s : List UInt8) :
    (receivedMsg z s).body.pRawContent.target = s := by
  by_cases hs : s = []
  · simp [receivedMsg, hs]
  · simp [receivedMsg, hs]

/-- Parsing stays inside a content exactly when the content is long enough for
its own counts and lengths. -/
theorem parses_in_bounds_iff (b : Build) (z : ZaurusType) (s : List UInt8)
    (hlen : s.length < 65536) : ParsesInBounds b z s ↔ HoldsItsFields b z s := by
  constructor
  · intro h
    have hsize : (receivedMsg z s).contSize.toNat = s.length := UInt16.toNat_ofNat_of_lt' hlen
    have ht : zaurusType (receivedMsg z s).body.type = some z := zaurusType_bytes z
    have hbounds := (parse_inBounds_iff (b := b) ht).mp
    rw [receivedMsg_target, contentLayout_accepts] at hbounds
    apply hbounds
    intro heap f hf
    obtain ⟨code, msg', heap', hrun, -⟩ :=
      h (receivedMsg z s) heap rfl (receivedMsg_target z s) hsize
    rw [hrun] at hf
    cases hf
  · intro hfields msg heap ht hraw hsize
    have hz : zaurusType msg.body.type = some z := by rw [ht, zaurusType_bytes]
    have hbounds := (parse_inBounds_iff (b := b) hz).mpr
      (by rw [hraw, contentLayout_accepts]; exact hfields)
    cases hrun : zdtmParseRawMsg b msg heap with
    | error f => exact absurd hrun (hbounds heap f)
    | ok r =>
      obtain ⟨⟨code, msg'⟩, heap'⟩ := r
      exact ⟨code, msg', heap', rfl, fun hno => absurd hfields hno⟩

theorem parses_in_bounds_asy :
    ParsesInBounds .bigEndian .asy [0x10, 0xff, 0xff] ↔
      HoldsItsFields .bigEndian .asy [0x10, 0xff, 0xff] :=
  parses_in_bounds_iff .bigEndian .asy [0x10, 0xff, 0xff] (by decide)

/-- An ASY content of three bytes that announces 65535 new ids is read past its end. -/
theorem asy_overread :
    zdtmParseRawMsg .littleEndian (receivedMsg .asy [0x10, 0xff, 0xff]) (Heap.filled 0) =
        .error .overread ∧ ¬ ParsesInBounds .littleEndian .asy [0x10, 0xff, 0xff] := by
  have hrun : zdtmParseRawMsg .littleEndian (receivedMsg .asy [0x10, 0xff, 0xff])
      (Heap.filled 0) = .error .overread := rfl
  refine ⟨hrun, ?_⟩
  intro h
  obtain ⟨code, msg', heap', hok, -⟩ :=
    h (receivedMsg .asy [0x10, 0xff, 0xff]) (Heap.filled 0) rfl rfl rfl
  rw [hrun] at hok
  cases hok

end ZdtmParsing
