import ZdtmSync.Items
import ZdtmSync.ZaurusMsg

/-!
# Copies into the fixed fields of an item

The item parsers copy as many bytes as a parameter announces. Members with a
length of their own get a block of that size, but nobody compares the length
with the size of a date, a number or a single byte.
-/

namespace ZdtmFixedFields

open ByteCodec CMemory Records ZdtmTypes ZdtmZaurusMsg ZdtmItems

/-- As many bytes can be read of every parameter as it counts. -/
def Readable (params : List AdrMsgParam) : Prop :=
  ∀ p ∈ params, p.paramLen.toNat ≤ p.paramData.target.length

variable {I F : Type}

/-- No parameter is longer than the array that its type id and abbreviation select. -/
def ParamsFit (P : Parser I F) (paramFormat : List AdiMsgParam) (params : List AdrMsgParam) :
    Prop := ∀ p ∈ List.zip paramFormat params, ∀ branch, P.branch p.1 = some branch →
      (P.kind branch.member).Fits p.2.paramLen.toNat

/-- The `k`-th parameter selects the member. -/
def Selects (P : Parser I F) (paramFormat : List AdiMsgParam) (k : Nat) (f : F) : Prop :=
  ∃ format branch, paramFormat[k]? = some format ∧ P.branch format = some branch ∧
    branch.member = f

/-- Parsing returns, whatever the heap does, and reports a parameter that is
longer than its field; each parameter changes only the member it selects. -/
structure StaysInFields (P : Parser I F) (b : Build)
    (parse : List AdiMsgParam → List AdrMsgParam → I → Mem (Int × I))
    (paramFormat : List AdiMsgParam) (params : List AdrMsgParam) : Prop where
  returns : ∀ item heap, ∃ code item' heap',
    parse paramFormat params item heap = .ok ((code, item'), heap') ∧
      (¬ ParamsFit P paramFormat params → code ≠ 0)
  frame : ∀ {k item heap code₁ item₁ heap₁ code₂ item₂ heap₂},
    parse (paramFormat.take k) (params.take k) item heap = .ok ((code₁, item₁), heap₁) →
    parse (paramFormat.take (k + 1)) (params.take (k + 1)) item heap =
      .ok ((code₂, item₂), heap₂) →
    ∀ f, ¬ Selects P paramFormat k f → (P.layout b).get f item₂ = (P.layout b).get f item₁

theorem times_forall {α : Type} {d : Decoder α} {Q : α → Prop}
    (h : ∀ {s a rest}, d s = some (a, rest) → Q a) {n : Nat} {s rest : List UInt8}
    {as : List α} (hd : Decoder.times n d s = some (as, rest)) : ∀ a ∈ as, Q a := by
  induction n generalizing s as with
  | zero =>
    cases hd
    intro a ha
    cases ha
  | succ n ih =>
    obtain ⟨a, mid, hfirst, hd⟩ := Decoder.bind_some hd
    obtain ⟨tail, mid', hrest, hd⟩ := Decoder.bind_some hd
    cases hd
    intro c hc
    cases hc with
    | head => exact h hfirst
    | tail _ hc => exact ih hrest c hc

theorem block_length {n : Nat} {s data rest : List UInt8} (h : block n s = some (data, rest)) :
    data.length = n := by
  obtain ⟨v, mid, -, hd⟩ := Decoder.bind_some h
  cases hd
  exact v.toList_length

theorem adrParam_readable {s rest : List UInt8} {p : AdrMsgParam}
    (h : adrParamLayout s = some (p, rest)) : p.paramLen.toNat ≤ p.paramData.target.length := by
  obtain ⟨paramLen, s₁, -, h⟩ := Decoder.bind_some h
  obtain ⟨paramData, s₂, hblock, h⟩ := Decoder.bind_some h
  cases h
  exact Nat.le_of_eq (block_length hblock).symm

/-- The parameters of a received item hold as many bytes as they count. -/
theorem adr_params_readable {b : Build} {s rest : List UInt8} {adr : AdrMsgContent}
    (h : adrLayout b s = some (adr, rest)) : Readable (adr.params.getD []) := by
  obtain ⟨uk, s₁, -, h⟩ := Decoder.bind_some h
  obtain ⟨numParams, s₂, -, h⟩ := Decoder.bind_some h
  obtain ⟨params, s₃, htimes, h⟩ := Decoder.bind_some h
  cases h
  exact times_forall adrParam_readable htimes

section Parser

variable (P : Parser I F) (b : Build) (paramFormat : List AdiMsgParam)
  (params : List AdrMsgParam)

theorem mem_assignments {a : Assignment F} :
    a ∈ P.assignments paramFormat params ↔
      ∃ p ∈ List.zip paramFormat params, P.assignment p.1 p.2 = some a := List.mem_filterMap

theorem paramsFit_iff :
    ParamsFit P paramFormat params ↔ ∀ a ∈ P.assignments paramFormat params, a.Fits P.kind := by
  constructor
  · intro h a ha
    obtain ⟨p, hp, hassign⟩ := (mem_assignments P paramFormat params).mp ha
    obtain ⟨branch, hbranch, rfl⟩ := Option.map_eq_some_iff.mp hassign
    exact h p hp branch hbranch
  · intro h p hp branch hbranch
    have hassign : P.assignment p.1 p.2 = some _ := Option.map_eq_some_iff.mpr ⟨branch, hbranch, rfl⟩
    exact h _ ((mem_assignments P paramFormat params).mpr ⟨p, hp, hassign⟩)

theorem assignments_readable (hread : Readable params) :
    ∀ a ∈ P.assignments paramFormat params, a.Readable := by
  intro a ha
  obtain ⟨p, hp, hassign⟩ := (mem_assignments P paramFormat params).mp ha
  obtain ⟨branch, -, rfl⟩ := Option.map_eq_some_iff.mp hassign
  exact hread p.2 (List.of_mem_zip hp).2

variable {P paramFormat params}

theorem parse_of_length (hlen : paramFormat.length = params.length) :
    P.parse b paramFormat params =
      (P.layout b).assignAll (P.assignments paramFormat params) := by
  funext item
  rw [Parser.parse, if_neg (by simp [hlen])]

/-- The rounds of the loop up to the one of the `k`-th parameter. -/
theorem assignments_take (k : Nat) :
    P.assignments (paramFormat.take k) (params.take k) =
      ((List.zip paramFormat params).take k).filterMap fun p => P.assignment p.1 p.2 := by
  have hzip : List.zip (paramFormat.take k) (params.take k) = (List.zip paramFormat params).take k :=
    List.take_zipWith.symm
  rw [Parser.assignments, hzip]

theorem parse_frame (hlen : paramFormat.length = params.length) {k : Nat} {item item₁ item₂ : I}
    {heap heap₁ heap₂ : Heap} {code₁ code₂ : Int}
    (h₁ : P.parse b (paramFormat.take k) (params.take k) item heap = .ok ((code₁, item₁), heap₁))
    (h₂ : P.parse b (paramFormat.take (k + 1)) (params.take (k + 1)) item heap =
      .ok ((code₂, item₂), heap₂)) {f : F} (hf : ¬ Selects P paramFormat k f) :
    (P.layout b).get f item₂ = (P.layout b).get f item₁ := by
  have htake : ∀ n, (paramFormat.take n).length = (params.take n).length := by
    intro n
    rw [List.length_take, List.length_take, hlen]
  rw [parse_of_length b (htake _), assignments_take] at h₁ h₂
  rw [List.take_add_one, List.filterMap_append] at h₂
  cases hk : (List.zip paramFormat params)[k]? with
  | none =>
    rw [hk, Option.toList_none, List.filterMap_nil, List.append_nil, h₁] at h₂
    cases h₂
    rfl
  | some p =>
    rw [hk] at h₂
    cases hassign : P.assignment p.1 p.2 with
    | none =>
      simp only [Option.toList_some, List.filterMap_cons, hassign, List.filterMap_nil,
        List.append_nil] at h₂
      rw [h₁] at h₂
      cases h₂
      rfl
    | some a =>
      simp only [Option.toList_some, List.filterMap_cons, hassign, List.filterMap_nil] at h₂
      apply assignAll_snoc_frame (P.layout b) _ a h₁ h₂
      intro hmember
      obtain ⟨branch, hbranch, rfl⟩ := Option.map_eq_some_iff.mp hassign
      have hformat : paramFormat[k]? = some p.1 := (List.getElem?_zip_eq_some.mp hk).1
      exact hf ⟨p.1, branch, hformat, hbranch, hmember.symm⟩

/-- Parsing stays in the fields exactly when no parameter is longer than its field. -/
theorem parser_stays_iff (hlen : paramFormat.length = params.length) (hread : Readable params)
    (item : I) :
    StaysInFields P b (P.parse b) paramFormat params ↔ ParamsFit P paramFormat params := by
  have hreturns := assignAll_returns_iff (assignments_readable P paramFormat params hread)
    (P.layout b)
  constructor
  · intro h
    rw [paramsFit_iff, ← hreturns item]
    intro heap
    obtain ⟨code, item', heap', hrun, -⟩ := h.returns item heap
    rw [parse_of_length b hlen] at hrun
    exact ⟨code, item', heap', hrun⟩
  · intro h
    constructor
    · intro item heap
      obtain ⟨code, item', heap', hrun⟩ :=
        (hreturns item).mpr ((paramsFit_iff P paramFormat params).mp h) heap
      rw [parse_of_length b hlen]
      exact ⟨code, item', heap', hrun, fun hno => absurd h hno⟩
    · intro k item heap code₁ item₁ heap₁ code₂ item₂ heap₂ h₁ h₂ f hf
      exact parse_frame b hlen h₁ h₂ hf

end Parser

/-- Each of the three parsers stays in the fields of its item exactly when no
parameter is longer than the field that its type id and abbreviation select. -/
theorem stays_in_fields_iff (b : Build) (paramFormat : List AdiMsgParam)
    (params : List AdrMsgParam) (hlen : paramFormat.length = params.length)
    (hread : Readable params) :
    (StaysInFields todoParser b (zdtmParseTodoItemParams b) paramFormat params ↔
      ParamsFit todoParser paramFormat params) ∧
    (StaysInFields calendarParser b (zdtmParseCalendarItemParams b) paramFormat params ↔
      ParamsFit calendarParser paramFormat params) ∧
    (StaysInFields addressParser b (zdtmParseAddressItemParams b) paramFormat params ↔
      ParamsFit addressParser paramFormat params) :=
  ⟨parser_stays_iff b hlen hread {}, parser_stays_iff b hlen hread {},
    parser_stays_iff b hlen hread {}⟩

/-- A creation date of six bytes. -/
def longDateFormat : List AdiMsgParam :=
  [{ abrev := abrevOf 'C' 'T' 'T' 'M', typeId := dataIdTime }]

def longDateParams : List AdrMsgParam :=
  [{ paramLen := 6, paramData := some [1, 2, 3, 4, 5, 6] }]

theorem longDate_readable : Readable longDateParams := by
  intro p hp
  rw [List.mem_singleton.mp hp]
  decide

theorem stays_in_fields_long_date :
    (StaysInFields todoParser .littleEndian (zdtmParseTodoItemParams .littleEndian)
        longDateFormat longDateParams ↔ ParamsFit todoParser longDateFormat longDateParams) ∧
    (StaysInFields calendarParser .littleEndian (zdtmParseCalendarItemParams .littleEndian)
        longDateFormat longDateParams ↔ ParamsFit calendarParser longDateFormat longDateParams) ∧
    (StaysInFields addressParser .littleEndian (zdtmParseAddressItemParams .littleEndian)
        longDateFormat longDateParams ↔ ParamsFit addressParser longDateFormat longDateParams) :=
  stays_in_fields_iff .littleEndian longDateFormat longDateParams rfl longDate_readable

/-- Its sixth byte is written behind the creation date. -/
theorem long_date_overrun :
    zdtmParseTodoItemParams .littleEndian longDateFormat longDateParams {} (Heap.filled 0) =
        .error .overrun ∧
      ¬ StaysInFields todoParser .littleEndian (zdtmParseTodoItemParams .littleEndian)
        longDateFormat longDateParams := by
  have hrun : zdtmParseTodoItemParams .littleEndian longDateFormat longDateParams {}
      (Heap.filled 0) = .error .overrun := rfl
  refine ⟨hrun, ?_⟩
  intro h
  obtain ⟨code, item', heap', hok, -⟩ := h.returns {} (Heap.filled 0)
  rw [hrun] at hok
  cases hok

end ZdtmFixedFields
