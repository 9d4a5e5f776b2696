import ZdtmSync.Consumption

/-!
# Who is to blame for a fault

A run of an application ends in a fault only if the device, the home directory or the
application itself is to blame for it. A device that sends whole messages only, with
strings and parameters that fit, does no harm: each call takes whole messages from the
stream, so what is left are whole messages again.
-/

namespace ZdtmFaults

open CMemory ZdtmTypes ZdtmNet ZdtmFraming ZdtmReceiving ZdtmFixedFields ZdtmSession ZdtmSync
  ZdtmScript ZdtmStrings ZdtmFetches ZdtmSynchronized ZdtmApi ZdtmKnowledge ZdtmKeeping
  ZdtmConsumption

variable {b : Build} {home : Option CString}

theorem any_received {w w' : World} {r : Int} {p : Option ZdtmMsg} (_ : True)
    (hrun : zdtmRecvMessage b (some {}) w = .ok ((r, p), w')) :
    True ∧ (r = 0 → ∃ f : Frame b, True ∧ p = some f.msg) := by
  refine ⟨trivial, ?_⟩
  intro hr
  obtain ⟨f, hp⟩ := recv_general hrun hr
  exact ⟨f, trivial, hp⟩

/-- Nothing is known of the device. -/
def anyDevice (b : Build) (home : Option CString) (given : ApiCall → Prop) : Knowledge b where
  home
  given
  known _ _ := True
  genuine _ := True
  allows _ := True
  received := any_received
  signalled _ _ := trivial
  sent _ _ _ _ := trivial
  requested _ _ _ := trivial
  allocated _ _ := trivial

instance anyDevice_speaks {given : ApiCall → Prop} : Speaks (anyDevice b home given) where
  allows _ _ := trivial

/-- Why a call faults: it passes an address that is too short, or opens a log whose path is
too long; the next message of the device cannot be read; or the last one has something
that is too long for its array. -/
inductive Blame (b : Build) (call : ApiCall) (s : State) : Fault → Prop
  | careless (h : Careless s.host.home call) : Blame b call s .overread
  | unreadable (h : StartsUnreadable b (Chunked.available s.world.inbox)) : Blame b call s .overread
  | overlong {f : Frame b} (hlatest : Latest s f.msg) (h : Overlong s.env f) : Blame b call s .overrun

theorem call_blamed {call : ApiCall} {s s' : State} {e : Fault}
    (hrun : call.run b s = (.error e, s')) : Blame b call s' e := by
  let K : Knowledge b := anyDevice b s.host.home (· = call)
  have hknows : Knows K AnyFormat s := ⟨rfl, trivial, trivial⟩
  have hblamed : Blamed K AnyFormat e s' :=
    ((apiCall_keeps trivial rfl (anyFormat_stable call)).run s hknows).of_eq hrun
  obtain ⟨hafter, hcause⟩ := hblamed
  cases e with
  | overread =>
    rcases hcause with ⟨call', heq, hcareless⟩ | hunreadable
    · have heq' : call' = call := heq
      subst heq'
      apply Blame.careless
      rw [hafter.home]
      exact hcareless
    · exact .unreadable hunreadable
  | overrun =>
    obtain ⟨f, -, hlatest, hlong⟩ := hcause
    exact .overlong hlatest hlong
  | dangling => exact absurd hcause id

theorem longModel_ne : deviceReply .aig longModel ≠ [] := by decide +kernel

/-- A device whose model is a character too long. -/
def longModelState : State := deviceState (deviceReply .aig longModel) longModel_ne

def modelApp : List ApiCall := [.operation .obtainDeviceInfo, .operation .obtainSyncState]

/-- Whether a run wrote past an end. -/
def overran {α : Type} : Except Fault α → Bool
  | .error .overrun => true
  | _ => false

theorem run_of_overran {α : Type} {x : Session α} {s : State} (h : overran (x s).1 = true) :
    ∃ s', x s = (.error .overrun, s') := by
  cases hrun : x s with
  | mk r s' =>
    rw [hrun] at h
    cases r with
    | ok a => exact absurd h Bool.false_ne_true
    | error e =>
      cases e with
      | overrun => exact ⟨s', rfl⟩
      | _ => exact absurd h Bool.false_ne_true

/-- A message that holds its fields can be read. -/
theorem general_readable (f : Frame b) : ¬ Unreadable b f.general := by
  intro hunreadable
  rcases hunreadable with hshort | ⟨z, content, hbody, hfields⟩
  · have hlen : f.general.body.length = msgTypeSize + f.content.length := by
      simp [Frame.general]
    omega
  · obtain ⟨htype, rfl⟩ := List.append_inj hbody (by simp)
    have hz : zaurusType f.type.bytes = zaurusType z.bytes :=
      congrArg zaurusType (List.Vector.toList_injective htype)
    rw [zaurusType_bytes, zaurusType_bytes] at hz
    cases hz
    exact hfields f.holds

/-- What follows on such a stream can be read. -/
theorem sends_readable {items : List (Item b)} {w : World} (hw : SendsItems items w) :
    ¬ StartsUnreadable b (Chunked.available w.inbox) := by
  intro hstarts
  obtain ⟨f, tail, hstream, hunreadable⟩ := hstarts
  rw [Chunked.available_of_arrivals hw.arrivals] at hstream
  cases items with
  | nil =>
    have hlen := congrArg List.length hstream
    rw [List.length_append, GeneralFrame.length_bytes] at hlen
    simp [msgHdrSize] at hlen
    omega
  | cons item items =>
    cases item with
    | common m =>
      have huncommon : Uncommon (f.bytes ++ tail) := by
        simp only [GeneralFrame.bytes, List.append_assoc]
        exact (uncommon_append (by simp [comMsgSize, msgHdrSize]) _).mpr f.uncommon
      rw [← hstream] at huncommon
      have hcommon := (uncommon_append (by simp [Item.bytes]) _).mp huncommon m
      cases m <;> cases hcommon
    | general g =>
      have heq : g.general = f := by
        apply ZdtmChecksums.bytes_append_inj
        rw [Frame.bytes_general]
        exact hstream
      subst heq
      exact general_readable g hunreadable

/-- The strings have room for a NUL, and no parameter is longer than a field that it
could be meant for, whatever the type of the synchronization. -/
structure Harmless (items : List (Item b)) : Prop where
  model : ∀ f, Among items f → f.type = .aig → f.cont.aig.modelStrLen.toNat < 256
  descriptions : ∀ f, Among items f → f.type = .adi →
    ∀ p ∈ f.cont.adi.params.getD [], p.descLen.toNat < 256
  params : ∀ f g, Among items f → f.type = .adi → Among items g → ∀ h : g.type = .adr,
    ∀ env : Env, env.numParams = f.cont.adi.numParams → env.params = f.cont.adi.params →
      ItemFits env (paramsIn ⟨g, h⟩)

/-- The environment has no parameter format, or the one of a message of the device. -/
def Formatted (items : List (Item b)) (env : Env) : Prop :=
  env.params = none ∨ ∃ f, Among items f ∧ f.type = .adi ∧
    env.numParams = f.cont.adi.numParams ∧ env.params = f.cont.adi.params

section Returns

variable {items : List (Item b)} {before : List (Int × ZdtmMsg)}

instance formatted {given : ApiCall → Prop} :
    OfFormat (messagesOf items before home given) (Formatted items) where
  same env env' hsame h := by
    unfold Formatted
    rw [hsame.num, hsame.params]
    exact h
  stored env f hf htype _ _ := Or.inr ⟨f, hf, htype, rfl, rfl⟩

theorem formatted_stable (call : ApiCall) : Stable (Formatted items) call :=
  ⟨fun _ _ _ => Or.inl rfl, fun _ _ _ h => h⟩

theorem itemFits_nil {env : Env} (hparams : env.params = none) (params : List AdrMsgParam) :
    ItemFits env params := by
  simp [ItemFits, ParamsFit, paramFormat, hparams]

theorem harmless_blamed {given : ApiCall → Prop} {s : State} {e : Fault} (hitems : Harmless items)
    (hcareful : ∀ call, given call → ¬ Careless home call) :
    ¬ Blamed (messagesOf items before home given) (Formatted items) e s := by
  intro hblamed
  obtain ⟨hknows, hcause⟩ := hblamed
  cases e with
  | overread =>
    rcases hcause with ⟨call, hgiven, hcareless⟩ | hstarts
    · exact hcareful call hgiven hcareless
    · obtain ⟨n, hsends, -⟩ := hknows.world
      exact sends_readable hsends hstarts
  | overrun =>
    obtain ⟨f, hf, -, hlong⟩ := hcause
    cases hlong with
    | model htype hle => exact absurd (hitems.model f hf htype) (Nat.not_lt.mpr hle)
    | description htype hp hle =>
      exact absurd (hitems.descriptions f hf htype _ hp) (Nat.not_lt.mpr hle)
    | item htype hno =>
      rcases hknows.env with hnone | ⟨g, hg, hadi, hnum, hparams⟩
      · exact hno (itemFits_nil hnone _)
      · exact hno (hitems.params g f hg hadi hf htype s.env hnum hparams)
  | dangling => exact hcause

end Returns

theorem infoItems_only {f : Frame .littleEndian} (h : Among infoItems f) :
    f = lockedDevice.info.frame := by
  simp [Among, infoItems] at h
  exact h

theorem infoItems_harmless : Harmless infoItems where
  model := by
    intro f hf _
    rw [infoItems_only hf]
    decide +kernel
  descriptions := by
    intro f hf htype
    rw [infoItems_only hf] at htype
    cases htype
  params := by
    intro f g hf htype
    rw [infoItems_only hf] at htype
    cases htype

theorem infoApp_careful : ∀ call ∈ infoApp, ¬ Careless infoState.host.home call := by
  intro call hcall hcareless
  cases hcareless with
  | home hlong => simp [infoApp] at hcall
  | address hshort => simp [infoApp] at hcall

end ZdtmFaults
