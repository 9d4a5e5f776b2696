import ZdtmSync.FixedFields
import ZdtmSync.Overruns
import ZdtmSync.Script

/-!
# Strings that the device announces

The model of the device and the descriptions of the parameters are copied into
arrays of 256 characters, with a NUL behind them. Their lengths are the device's
own, and nothing compares them with the size of the array.
-/

namespace ZdtmStrings

open ByteCodec CMemory Programs ZdtmTypes ZdtmDesktopMsg ZdtmZaurusMsg ZdtmMsgs ZdtmNet
open ZdtmReceiving ZdtmSession ZdtmProto ZdtmSync ZdtmExchanges ZdtmOperations ZdtmReplies
open ZdtmFixedFields ZdtmScript ZdtmServed ZdtmOverruns

section Copies

variable {n len : Nat} {src : Ptr}

theorem copyString_store (dst : Bytes n) (hsrc : src.target.length = len) :
    copyString dst src len = store dst.toList (src.target ++ [0]) >>= copyBytes n := by
  have hload : load src len = .ok src.target := by
    rw [load_of_le (Nat.le_of_eq hsrc.symm), ← hsrc, List.take_length]
  simp only [copyString, hload]
  rfl

theorem copyString_fits (dst : Bytes n) (hsrc : src.target.length = len) (h : len < n) :
    ∃ v, copyString dst src len = .ok v := by
  have hwritten : (src.target ++ [0]).length ≤ dst.toList.length := by
    simp [hsrc]
    omega
  have hfilled : n ≤ (src.target ++ [(0 : UInt8)] ++
      dst.toList.drop (src.target ++ [(0 : UInt8)]).length).length := by
    simp
    omega
  rw [copyString_store dst hsrc, store_of_le hwritten]
  exact ⟨_, dif_pos hfilled⟩

/-- Also a string of exactly the size of the array overruns it, by its NUL. -/
theorem copyString_overruns (dst : Bytes n) (hsrc : src.target.length = len) (h : n ≤ len) :
    copyString dst src len = .error .overrun := by
  have hwritten : dst.toList.length < (src.target ++ [0]).length := by
    simp [hsrc]
    omega
  rw [copyString_store dst hsrc, store_of_lt hwritten]
  rfl

/-- The description is as long as the parameter says. -/
def Described (param : AdiMsgParam) : Prop := param.desc.target.length = param.descLen.toNat

/-- The abbreviation always fits. -/
theorem copyAbrev_fits (buff : Bytes 256) (param : AdiMsgParam) :
    ∃ v, copyString buff (some param.abrev.toList) 4 = .ok v :=
  copyString_fits buff param.abrev.toList_length (by decide)

theorem copyParam_fits (buff : Bytes 256) {param : AdiMsgParam} (hdesc : Described param)
    (h : param.descLen.toNat < 256) : ∃ v, copyParam buff param = .ok v := by
  obtain ⟨v, habrev⟩ := copyAbrev_fits buff param
  obtain ⟨v', hcopy⟩ := copyString_fits v hdesc h
  refine ⟨v', ?_⟩
  simp only [copyParam, habrev]
  exact hcopy

theorem copyParam_overruns (buff : Bytes 256) {param : AdiMsgParam} (hdesc : Described param)
    (h : 256 ≤ param.descLen.toNat) : copyParam buff param = .error .overrun := by
  obtain ⟨v, habrev⟩ := copyAbrev_fits buff param
  simp only [copyParam, habrev]
  exact copyString_overruns v hdesc h

/-- The loop overruns its buffer exactly when some description does. -/
theorem copyParams_overruns_iff {params : List AdiMsgParam} (hdesc : ∀ p ∈ params, Described p)
    (buff : Bytes 256) : copyParams params.length params buff = .error .overrun ↔
      ∃ p ∈ params, 256 ≤ p.descLen.toNat := by
  induction params generalizing buff with
  | nil => exact iff_of_false nofun nofun
  | cons param params ih =>
    have hhead := hdesc param List.mem_cons_self
    have hstep : copyParams (param :: params).length (param :: params) buff =
        copyParam buff param >>= copyParams params.length params := rfl
    rw [hstep]
    by_cases hlong : 256 ≤ param.descLen.toNat
    · rw [copyParam_overruns buff hhead hlong]
      exact iff_of_true rfl ⟨param, List.mem_cons_self, hlong⟩
    · obtain ⟨v, hcopy⟩ := copyParam_fits buff hhead (by omega)
      rw [hcopy]
      change copyParams params.length params v = _ ↔ _
      rw [ih (fun p hp => hdesc p (List.mem_cons_of_mem _ hp)) v]
      simp [hlong]

end Copies

section Announced

variable {b : Build} {s rest : List UInt8}

theorem aigLayout_model {aig : AigMsgContent} (h : aigLayout s = some (aig, rest)) :
    aig.modelStr.target.length = aig.modelStrLen.toNat := by
  obtain ⟨modelStrLen, s₁, -, h⟩ := Decoder.bind_some h
  obtain ⟨modelStr, s₂, hmodel, h⟩ := Decoder.bind_some h
  obtain ⟨ukData0, s₃, -, h⟩ := Decoder.bind_some h
  obtain ⟨language, s₄, -, h⟩ := Decoder.bind_some h
  obtain ⟨authState, s₅, -, h⟩ := Decoder.bind_some h
  obtain ⟨ukData1, s₆, -, h⟩ := Decoder.bind_some h
  cases h
  exact block_length hmodel

theorem times_length {α : Type} {d : Decoder α} {n : Nat} {as : List α}
    (h : Decoder.times n d s = some (as, rest)) : as.length = n := by
  induction n generalizing s as with
  | zero =>
    cases h
    rfl
  | succ n ih =>
    obtain ⟨a, mid, -, h⟩ := Decoder.bind_some h
    obtain ⟨tail, mid', hrest, h⟩ := Decoder.bind_some h
    cases h
    rw [List.length_cons, ih hrest]

theorem adiDesc_length {row : UInt16 × List UInt8} (h : adiDescLayout s = some (row, rest)) :
    row.2.length = row.1.toNat := by
  obtain ⟨descLen, s₁, -, h⟩ := Decoder.bind_some h
  obtain ⟨desc, s₂, hdesc, h⟩ := Decoder.bind_some h
  cases h
  exact block_length hdesc

theorem adiParams_described {abrevs : List (Bytes 4)} {typeIds : List UInt8}
    {descs : List (UInt16 × List UInt8)} (h : ∀ row ∈ descs, row.2.length = row.1.toNat) :
    ∀ p ∈ adiParams abrevs typeIds descs, Described p := by
  intro p hp
  obtain ⟨i, hi⟩ := List.mem_iff_getElem?.mp hp
  obtain ⟨abrev, row, -, hrow, rfl⟩ := List.getElem?_zipWith_eq_some.mp hi
  exact h row.2 (List.of_mem_zip (List.mem_of_getElem? hrow)).2

/-- As many parameters as the count says, each described. -/
theorem adiLayout_params {adi : AdiMsgContent} (h : adiLayout s = some (adi, rest)) :
    (adi.params.getD []).length = adi.numParams.toNat ∧ ∀ p ∈ adi.params.getD [], Described p := by
  obtain ⟨numCards, s₁, -, h⟩ := Decoder.bind_some h
  obtain ⟨numParams, s₂, -, h⟩ := Decoder.bind_some h
  obtain ⟨ukData0, s₃, -, h⟩ := Decoder.bind_some h
  obtain ⟨abrevs, s₄, habrevs, h⟩ := Decoder.bind_some h
  obtain ⟨typeIds, s₅, htypeIds, h⟩ := Decoder.bind_some h
  obtain ⟨descs, s₆, hdescs, h⟩ := Decoder.bind_some h
  cases h
  constructor
  · simp [adiParams, times_length habrevs, times_length htypeIds, times_length hdescs]
  · exact adiParams_described (times_forall adiDesc_length hdescs)

theorem frame_model {f : Frame b} (h : f.type = .aig) :
    f.cont.aig.modelStr.target.length = f.cont.aig.modelStrLen.toNat := by
  obtain ⟨rest, hlayout⟩ := f.layout_cont
  rw [h] at hlayout
  generalize f.cont = cont at hlayout ⊢
  obtain ⟨aig, mid, haig, hcont⟩ := Decoder.bind_some hlayout
  have hmodel := aigLayout_model haig
  cases hcont
  exact hmodel

theorem frame_params {f : Frame b} (h : f.type = .adi) :
    (f.cont.adi.params.getD []).length = f.cont.adi.numParams.toNat ∧
      ∀ p ∈ f.cont.adi.params.getD [], Described p := by
  obtain ⟨rest, hlayout⟩ := f.layout_cont
  rw [h] at hlayout
  generalize f.cont = cont at hlayout ⊢
  obtain ⟨adi, mid, hadi, hcont⟩ := Decoder.bind_some hlayout
  have hparams := adiLayout_params hadi
  cases hcont
  exact hparams

end Announced

/-- Whatever the rest of the session is like, a run over the stream writes past
the end of no array. A run that reads past the end of a reply is over before it
writes, and stays in them too. -/
def StaysInArrays (x : Session Int) (stream : List UInt8) : Prop :=
  ∀ s, Chunked.available s.world.inbox = stream → (x s).1 ≠ .error .overrun

theorem deviceState_served (stream : List UInt8) (h : stream ≠ []) :
    Served (deviceState stream h) stream :=
  ⟨Heap.filled_unlimited 0, List.not_mem_nil, by simp [deviceState, Chunked.available]⟩

section Runs

variable {b : Build} {stream rest : List UInt8} {s : State}

theorem rig_sendable (b : Build) : Sendable b .rig {} { bytes := [] } :=
  ⟨rfl, Nat.zero_le _, fun h => absurd h.1 (by decide), Nat.le_refl 3⟩

theorem rdi_sendable (b : Build) (syncType : UInt8) :
    Sendable b .rdi (rdiContent syncType) { bytes := [syncType, 0x07] } where
  write := rfl
  fits := by
    change 2 ≤ (UInt16.ofInt (3 + 2) - UInt16.ofNat 3).toNat
    decide
  accepted h := absurd h.1 (by decide)
  body := by
    change 3 ≤ (UInt16.ofInt (3 + 2)).toNat
    decide

/-- An exchange overruns nothing: what it is followed by does, after a reply. -/
theorem exchange_overruns {α : Type} {t : DesktopType} {cont : SpecTypeContent}
    {written : Written} (h : Sendable b t cont written) {reply : ZaurusType}
    {sendFail recvFail typeFail : Int} (hneg : sendFail < 0 ∧ recvFail < 0 ∧ typeFail < 0)
    {f : Except Int ZdtmMsg → Session α} (herror : ∀ code, Never .overrun (f (.error code)))
    (hrun : ((exchange b (desktopMsg t cont) reply sendFail recvFail typeFail >>= f) s).1 =
      .error .overrun) :
    ∃ (g : Frame b) (rest : List UInt8) (s' : State), g.type = reply ∧
      Chunked.available s.world.inbox = around ++ (g.bytes ++ rest) ∧
      (f (.ok g.msg) s').1 = .error .overrun := by
  obtain ⟨hsendFail, hrecvFail, htypeFail⟩ := hneg
  cases hex : exchange b (desktopMsg t cont) reply sendFail recvFail typeFail s with
  | mk r s' =>
    cases r with
    | error e =>
      rw [Programs.bind_error hex] at hrun
      cases hrun
      exact absurd (congrArg Prod.fst hex) (exchange_never h _ _ _ _ s)
    | ok r =>
      rw [Programs.bind_ok hex] at hrun
      cases r with
      | error code => exact absurd hrun (herror code s')
      | ok m =>
        obtain ⟨cs, hexchanges, hexchanged⟩ :=
          (logs_exchange b (desktopMsg t cont) reply hsendFail hrecvFail htypeFail).run hex
        obtain ⟨g, rfl, htype, hstream⟩ :=
          exchanged_stream hexchanged hexchanges.traffic.reads
        exact ⟨g, _, s', htype, hstream, hrun⟩

/-- Only a model of 256 characters or more overruns its array. -/
theorem deviceInfo_long (hrun : (zdtmObtainDeviceInfo b s).1 = .error .overrun) :
    ∃ (g : Frame b) (rest : List UInt8), g.type = .aig ∧
      Chunked.available s.world.inbox = around ++ (g.bytes ++ rest) ∧
      256 ≤ g.cont.aig.modelStrLen.toNat := by
  obtain ⟨g, rest, s', htype, hstream, hcopy⟩ :=
    exchange_overruns (rig_sendable b) (by decide) (fun code => never_pure _ code) hrun
  refine ⟨g, rest, htype, hstream, ?_⟩
  by_contra hshort
  obtain ⟨v, hfits⟩ := copyString_fits s'.env.model (frame_model htype) (Nat.lt_of_not_le hshort)
  change (((Program.lift (copyString s'.env.model g.cont.aig.modelStr
    g.cont.aig.modelStrLen.toNat) : Session _) >>= _) s').1 = _ at hcopy
  rw [hfits] at hcopy
  cases hcopy

theorem deviceInfo_overruns {f : Frame b} (htype : f.type = .aig)
    (hlong : 256 ≤ f.cont.aig.modelStrLen.toNat)
    (hs : Served s (around ++ (f.bytes ++ rest))) :
    Leads (zdtmObtainDeviceInfo b) s fun r _ => r = .error .overrun := by
  rw [← List.append_assoc] at hs
  apply leads_answers (exchange_answers (rig_sendable b) htype (-1) (-2) (-3)) hs
  intro s' hs' henv hhost
  have hcopy := copyString_overruns s'.env.model (frame_model htype) hlong
  apply leads_getEnv
  change Leads (Program.lift (copyString s'.env.model f.cont.aig.modelStr
    f.cont.aig.modelStrLen.toNat) >>= _) s' _
  rw [hcopy]
  rfl

theorem paramFormat_never (b : Build) : Never .overrun (zdtmObtainParamFormat b) := by
  have henv : Never Fault.overrun getEnv := fun s => nofun
  apply never_bind henv
  intro env
  apply never_ite (never_pure _ _)
  apply never_bind (exchange_never (rdi_sendable b env.syncType) _ _ _ _)
  intro r
  cases r with
  | error code => exact never_pure _ code
  | ok m => exact fun s => nofun

/-- Only a description of 256 characters or more overruns the buffer of the loop. -/
theorem format_long (hrun : (obtainFormat b s).1 = .error .overrun) :
    ∃ (g : Frame b) (rest : List UInt8), g.type = .adi ∧
      Chunked.available s.world.inbox = around ++ (g.bytes ++ rest) ∧
      ∃ p ∈ g.cont.adi.params.getD [], 256 ≤ p.descLen.toNat := by
  unfold obtainFormat at hrun
  cases hformat : zdtmObtainParamFormat b s with
  | mk r s' =>
    cases r with
    | error e =>
      rw [Programs.bind_error hformat] at hrun
      cases hrun
      exact absurd (congrArg Prod.fst hformat) (paramFormat_never b s)
    | ok r =>
      rw [Programs.bind_ok hformat] at hrun
      by_cases hr : r = 0
      · subst hr
        obtain ⟨cs, htalks, hanswered⟩ := (obtainParamFormat_runs b).run hformat
        obtain ⟨msg, m, ht, hexchanged, henv⟩ := answered_completed hanswered rfl
        obtain ⟨g, rfl, htype, hstream⟩ := exchanged_stream hexchanged htalks.traffic.reads
        obtain ⟨hcount, hdesc⟩ := frame_params htype
        refine ⟨g, _, htype, hstream, (copyParams_overruns_iff hdesc (zeros 256)).mp ?_⟩
        rw [hcount]
        change ((Program.lift (copyParams s'.env.numParams.toNat (s'.env.params.getD [])
          (zeros 256)) >>= fun _ => (pure 0 : Session Int)) s').1 = _ at hrun
        rw [henv] at hrun
        change ((Program.lift (copyParams g.cont.adi.numParams.toNat (g.cont.adi.params.getD [])
          (zeros 256)) >>= fun _ => (pure 0 : Session Int)) s').1 = _ at hrun
        cases hcopy : copyParams g.cont.adi.numParams.toNat (g.cont.adi.params.getD [])
            (zeros 256) with
        | ok buff =>
          rw [hcopy] at hrun
          cases hrun
        | error e =>
          rw [hcopy] at hrun
          cases hrun
          rfl
      · rw [if_pos hr] at hrun
        cases hrun

theorem format_overruns {f : Frame b} (htype : f.type = .adi)
    (hlong : ∃ p ∈ f.cont.adi.params.getD [], 256 ≤ p.descLen.toNat)
    (hs : Served s (around ++ (f.bytes ++ rest))) (hparams : s.env.params = none) :
    Leads (obtainFormat b) s fun r _ => r = .error .overrun := by
  obtain ⟨hcount, hdesc⟩ := frame_params htype
  have hcopy := (copyParams_overruns_iff hdesc (zeros 256)).mpr hlong
  rw [hcount] at hcopy
  have hformat : Leads (zdtmObtainParamFormat b) s fun r s' =>
      r = .ok 0 ∧ s'.env.numParams = f.cont.adi.numParams ∧
        s'.env.params = f.cont.adi.params := by
    rw [← List.append_assoc] at hs
    apply leads_getEnv
    simp only [hparams, ne_eq, not_true_eq_false, if_false]
    apply leads_answers
      (exchange_answers (rdi_sendable b s.env.syncType) htype (-1) (-2) (-3)) hs
    intro s' hs' henv hhost
    exact ⟨rfl, rfl, rfl⟩
  apply leads_bind hformat
  · intro r s' h
    obtain ⟨heq, hnum, hps⟩ := h
    cases heq
    apply leads_getEnv
    change Leads (Program.lift (copyParams s'.env.numParams.toNat (s'.env.params.getD [])
      (zeros 256)) >>= _) s' _
    rw [hnum, hps, hcopy]
    rfl
  · intro e s' h
    obtain ⟨heq, -⟩ := h
    cases heq

end Runs

theorem answered_ne {b : Build} (f : Frame b) (rest : List UInt8) :
    around ++ (f.bytes ++ rest) ≠ [] := List.append_ne_nil_of_left_ne_nil (by decide) _

/-- A model of 256 characters: there is no room for its NUL. -/
def longModel : List UInt8 := [0x00, 0x01] ++ List.replicate 256 0x41 ++ List.replicate 14 0

/-- One parameter with a description of 256 characters. -/
def longDesc : List UInt8 :=
  [0, 0, 0, 0, 1, 0, 0] ++ [0x43, 0x54, 0x47, 0x52, 1] ++ [0x00, 0x01] ++ List.replicate 256 0x41

end ZdtmStrings
