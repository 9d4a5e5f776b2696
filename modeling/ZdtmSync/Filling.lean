import ZdtmSync.FixedFields

/-!
# Items filled from their parameters

The type id and the abbreviation of a parameter stand for one member, and no two
members share them. So a member holds the last of the parameters that stand for
it, whatever else the list contains, and without repetitions the order of the
list does not matter.
-/

namespace ZdtmFilling

open CMemory Records ZdtmTypes ZdtmItems ZdtmFixedFields

variable {I F : Type}

/-- Some branch has the type id and the abbreviation of the parameter, and copies
to the member. -/
def Designates (P : Parser I F) (format : AdiMsgParam) (f : F) : Prop :=
  ∃ branch ∈ P.branches,
    branch.typeId = format.typeId ∧ branch.abrev = format.abrev ∧ branch.member = f

instance [DecidableEq F] (P : Parser I F) (format : AdiMsgParam) (f : F) :
    Decidable (Designates P format f) :=
  inferInstanceAs (Decidable (∃ branch ∈ P.branches, _))

/-- The bytes of the parameters that stand for one member, in order. -/
def dataFor [DecidableEq F] (P : Parser I F) (paramFormat : List AdiMsgParam)
    (params : List AdrMsgParam) (f : F) : List (List UInt8) :=
  ((List.zip paramFormat params).filter fun p => decide (Designates P p.1 f)).map fun p =>
    p.2.paramData.target.take p.2.paramLen.toNat

/-- A parameter that stands for an array has exactly the size of that array. -/
def ParamsExact (P : Parser I F) (paramFormat : List AdiMsgParam) (params : List AdrMsgParam) :
    Prop := ∀ p ∈ List.zip paramFormat params, ∀ branch ∈ P.branches,
      branch.typeId = p.1.typeId → branch.abrev = p.1.abrev →
        (P.kind branch.member).Exact p.2.paramLen.toNat

/-- Parsing returns 0 and leaves each member with the last parameter that stands
for it, or as it was; where none stands twice, the order is of no account. -/
structure FillsItem [DecidableEq F] (P : Parser I F) (b : Build)
    (parse : List AdiMsgParam → List AdrMsgParam → I → Mem (Int × I))
    (paramFormat : List AdiMsgParam) (params : List AdrMsgParam) : Prop where
  last : ∀ item heap, heap.Unlimited → ∃ item' heap',
    parse paramFormat params item heap = .ok ((0, item'), heap') ∧ ∀ f,
      (∀ data, (dataFor P paramFormat params f).getLast? = some data →
        ((P.layout b).get f item').Holds data) ∧
      (dataFor P paramFormat params f = [] →
        (P.layout b).get f item' = (P.layout b).get f item)
  permuted : ∀ paramFormat' params', paramFormat'.length = params'.length →
    (List.zip paramFormat params).Perm (List.zip paramFormat' params') →
    (∀ f, (dataFor P paramFormat params f).length ≤ 1) →
    ∀ item heap heap', heap.Unlimited → heap'.Unlimited → ∃ item' heap₁ heap₂,
      parse paramFormat params item heap = .ok ((0, item'), heap₁) ∧
      parse paramFormat' params' item heap' = .ok ((0, item'), heap₂)

def key (branch : Branch F) : UInt8 × Bytes 4 := (branch.typeId, branch.abrev)

/-- No two branches compare with the same type id and abbreviation. -/
def Separate (P : Parser I F) : Prop := (P.branches.map key).Nodup

theorem todo_separate : Separate todoParser := by
  unfold Separate
  decide +kernel

theorem calendar_separate : Separate calendarParser := by
  unfold Separate
  decide +kernel

theorem address_separate : Separate addressParser := by
  unfold Separate
  decide +kernel

section Parser

variable {P : Parser I F} (hseparate : Separate P)

include hseparate

/-- The first branch that agrees with a parameter is the only one. -/
theorem branch_iff (format : AdiMsgParam) (branch : Branch F) :
    P.branch format = some branch ↔
      branch ∈ P.branches ∧ branch.typeId = format.typeId ∧ branch.abrev = format.abrev := by
  constructor
  · intro h
    exact ⟨List.mem_of_find?_eq_some h, by simpa using List.find?_some h⟩
  · intro h
    obtain ⟨hmem, htype, habrev⟩ := h
    cases hfind : P.branch format with
    | none => simpa [htype, habrev] using List.find?_eq_none.mp hfind branch hmem
    | some other =>
      have hagrees : other.typeId = format.typeId ∧ other.abrev = format.abrev := by
        simpa using List.find?_some hfind
      have hkey : key other = key branch := by
        simp [key, htype, habrev, hagrees]
      rw [List.inj_on_of_nodup_map hseparate (List.mem_of_find?_eq_some hfind) hmem hkey]

theorem designates_iff (format : AdiMsgParam) (f : F) :
    Designates P format f ↔ ∃ branch, P.branch format = some branch ∧ branch.member = f := by
  simp only [branch_iff hseparate, Designates, and_assoc]

section DecidableEq

variable [DecidableEq F]

/-- The strings that the rounds of the loop assign to a member. -/
theorem stringsFor_assignments (paramFormat : List AdiMsgParam) (params : List AdrMsgParam)
    (f : F) : stringsFor (P.assignments paramFormat params) f = dataFor P paramFormat params f := by
  unfold Parser.assignments dataFor
  generalize List.zip paramFormat params = rounds
  induction rounds with
  | nil => rfl
  | cons p rounds ih =>
    cases hbranch : P.branch p.1 with
    | none =>
      have hnot : ¬ Designates P p.1 f := by simp [designates_iff hseparate, hbranch]
      have hassign : P.assignment p.1 p.2 = none := by simp [Parser.assignment, hbranch]
      simpa [List.filterMap_cons, hassign, hnot] using ih
    | some branch =>
      by_cases hmember : branch.member = f
      · have hyes : Designates P p.1 f := by simp [designates_iff hseparate, hbranch, hmember]
        simp only [List.filterMap_cons, Parser.assignment, hbranch, Option.map_some]
        simp only [hyes, decide_true, List.filter_cons_of_pos, List.map_cons, ← ih]
        subst hmember
        rw [stringsFor_cons_self]
        rfl
      · have hnot : ¬ Designates P p.1 f := by
          simp [designates_iff hseparate, hbranch, hmember]
        simp only [List.filterMap_cons, Parser.assignment, hbranch, Option.map_some]
        simp only [hnot, decide_false, List.filter_cons_of_neg, Bool.false_eq_true,
          not_false_eq_true, ← ih]
        rw [stringsFor_cons_of_ne (Ne.symm hmember)]
        rfl

omit [DecidableEq F] in
theorem assignments_exact {paramFormat : List AdiMsgParam} {params : List AdrMsgParam}
    (h : ParamsExact P paramFormat params) :
    ∀ a ∈ P.assignments paramFormat params, a.Exact P.kind := by
  intro a ha
  obtain ⟨p, hp, hassign⟩ := (mem_assignments P paramFormat params).mp ha
  obtain ⟨branch, hbranch, rfl⟩ := Option.map_eq_some_iff.mp hassign
  obtain ⟨hmem, htype, habrev⟩ := (branch_iff hseparate p.1 branch).mp hbranch
  exact h p hp branch hmem htype habrev

variable {paramFormat paramFormat' : List AdiMsgParam} {params params' : List AdrMsgParam}

theorem parse_last (b : Build) (hlen : paramFormat.length = params.length)
    (hread : Readable params) (hexact : ParamsExact P paramFormat params) (item : I) {heap : Heap}
    (hu : heap.Unlimited) : ∃ item' heap',
      P.parse b paramFormat params item heap = .ok ((0, item'), heap') ∧ ∀ f,
        (∀ data, (dataFor P paramFormat params f).getLast? = some data →
          ((P.layout b).get f item').Holds data) ∧
        (dataFor P paramFormat params f = [] →
          (P.layout b).get f item' = (P.layout b).get f item) := by
  have hrun := assignAll_last (P.assignments paramFormat params)
    (assignments_readable P paramFormat params hread) (assignments_exact hseparate hexact) hu
    (P.layout b) item
  simp only [stringsFor_assignments hseparate] at hrun
  rw [parse_of_length b hlen]
  exact hrun

omit hseparate in
/-- A member that at most one parameter stands for gets the same bytes in any order. -/
theorem dataFor_perm (hperm : (List.zip paramFormat params).Perm (List.zip paramFormat' params'))
    {f : F} (hone : (dataFor P paramFormat params f).length ≤ 1) :
    dataFor P paramFormat' params' f = dataFor P paramFormat params f := by
  have hdata : (dataFor P paramFormat params f).Perm (dataFor P paramFormat' params' f) :=
    (hperm.filter _).map _
  cases hfirst : dataFor P paramFormat params f with
  | nil =>
    rw [hfirst] at hdata
    exact List.nil_perm.mp hdata
  | cons data rest =>
    have hrest : rest = [] := by
      rw [hfirst] at hone
      simpa using hone
    rw [hfirst, hrest] at hdata
    rw [hrest]
    exact (List.singleton_perm.mp hdata).symm

theorem parse_fills (b : Build) (hlen : paramFormat.length = params.length)
    (hread : Readable params) (hexact : ParamsExact P paramFormat params) :
    FillsItem P b (P.parse b) paramFormat params where
  last item heap hu := parse_last hseparate b hlen hread hexact item hu
  permuted paramFormat' params' hlen' hperm hone item heap heap' hu hu' := by
    have hread' : ∀ p ∈ params', p.paramLen.toNat ≤ p.paramData.target.length := by
      intro param hparam
      obtain ⟨k, hk, rfl⟩ := List.mem_iff_getElem.mp hparam
      have hround : (paramFormat'[k], params'[k]) ∈ List.zip paramFormat' params' :=
        List.mem_iff_getElem.mpr ⟨k, by simp [hlen', hk], by simp⟩
      exact hread _ (List.of_mem_zip (hperm.mem_iff.mpr hround)).2
    have hexact' : ParamsExact P paramFormat' params' :=
      fun p hp => hexact p (hperm.mem_iff.mpr hp)
    obtain ⟨item₁, heap₁, hrun₁, hlast₁⟩ := parse_last hseparate b hlen hread hexact item hu
    obtain ⟨item₂, heap₂, hrun₂, hlast₂⟩ := parse_last hseparate b hlen' hread' hexact' item hu'
    have hitem : item₂ = item₁ := by
      apply (P.layout b).ext
      intro f
      have hdata := dataFor_perm hperm (hone f)
      cases hf : dataFor P paramFormat params f with
      | nil => rw [(hlast₁ f).2 hf, (hlast₂ f).2 (hdata.trans hf)]
      | cons data rest =>
        obtain ⟨final, hfinal⟩ : ∃ final, (dataFor P paramFormat params f).getLast? = some final :=
          ⟨_, by rw [hf, List.getLast?_cons]⟩
        exact ((hlast₂ f).1 final (hdata ▸ hfinal)).unique ((hlast₁ f).1 final hfinal)
    subst hitem
    exact ⟨item₂, heap₁, heap₂, hrun₁, hrun₂⟩

end DecidableEq

end Parser

/-- A title twice, and a type id that no parser knows between them. -/
def twiceFormat : List AdiMsgParam :=
  [{ abrev := abrevOf 'T' 'I' 'T' 'L', typeId := dataIdUtf8 },
    { abrev := abrevOf 'T' 'I' 'T' 'L', typeId := 0x7f },
    { abrev := abrevOf 'T' 'I' 'T' 'L', typeId := dataIdUtf8 }]

def twiceParams : List AdrMsgParam :=
  [{ paramLen := 1, paramData := some [0x61] }, { paramLen := 0, paramData := some [] },
    { paramLen := 2, paramData := some [0x62, 0x63] }]

theorem twice_readable : Readable twiceParams := by
  unfold Readable
  decide

end ZdtmFilling
