import ZdtmSync.Sending
import ZdtmSync.Strings

/-!
# Passcodes on the wire

The length of a passcode is narrowed twice, to an `int` and then to the byte in
front of the passcode in the RRL message. The second one has no check: of a
passcode of 256 characters or more the device gets a part.
-/

namespace ZdtmPasscodes

open CMemory Programs ZdtmTypes ZdtmCommon ZdtmDesktopMsg ZdtmMsgs ZdtmWriters ZdtmNet ZdtmDelivery
open ZdtmSession ZdtmProto ZdtmExchanges ZdtmReplies ZdtmScript ZdtmServed ZdtmStrings ZdtmSending
open ZdtmWireFormat (wireFormat)

section Narrowing

variable (passcode : CString)

theorem pwSize_neg_iff : pwSize passcode < 0 ↔ 2 ^ 31 ≤ passcode.1.length % 2 ^ 32 := by
  simp only [pwSize, toInt, Int.bmod_def]
  split
  · omega
  · omega

theorem toNat_pwSize (h : 0 ≤ pwSize passcode) :
    (pwSize passcode).toNat = passcode.1.length % 2 ^ 32 := by
  simp only [pwSize, toInt, Int.bmod_def] at h ⊢
  split
  · omega
  · omega

theorem toNat_ofInt_byte (n : Int) : ((UInt8.ofInt n).toNat : Int) = n % 256 := by
  have hsmall : (n % 2 ^ 8).toNat < 256 := by omega
  rw [UInt8.ofInt, UInt8.toNat_ofNat_of_lt' hsmall]
  omega

/-- The byte has the low eight bits of the length. -/
theorem toNat_rrlSize : (rrlContent passcode).rrl.pwSize.toNat = passcode.1.length % 256 := by
  have hbyte := toNat_ofInt_byte (pwSize passcode)
  have hmod : pwSize passcode % 256 = passcode.1.length % 256 := by
    simp only [pwSize, toInt, Int.bmod_def]
    split
    · omega
    · omega
  have hfield : (rrlContent passcode).rrl.pwSize = UInt8.ofInt (pwSize passcode) := rfl
  rw [hfield]
  omega

/-- What the RRL message says of the passcode. -/
theorem rrlContent_written (b : Build) (h : 0 ≤ pwSize passcode) :
    contentWrite b .rrl (rrlContent passcode) = .ok { bytes :=
      (rrlContent passcode).rrl.pwSize :: passcode.1.take (passcode.1.length % 256) } := by
  have hsize := toNat_rrlSize passcode
  have hpw : (rrlContent passcode).rrl.pw.target = passcode.1.take (passcode.1.length % 2 ^ 32) := by
    have hfield : (rrlContent passcode).rrl.pw =
        some (passcode.1.take (pwSize passcode).toNat) := rfl
    rw [hfield, Ptr.target_some, toNat_pwSize passcode h]
  have hle : (rrlContent passcode).rrl.pwSize.toNat ≤
      (rrlContent passcode).rrl.pw.target.length := by
    rw [hsize, hpw, List.length_take]
    omega
  have hmin : min (passcode.1.length % 256) (passcode.1.length % 2 ^ 32) =
      passcode.1.length % 256 := by omega
  rw [contentWrite, zdtmRrlWrite_of_le hle, hsize, hpw, List.take_take, hmin]
  generalize (rrlContent passcode).rrl.pwSize = size
  rfl

theorem rrl_sendable (h : 0 ≤ pwSize passcode) :
    ZdtmWireFormat.Sendable .rrl (desktopMsg .rrl (rrlContent passcode)) := by
  apply desktop_sendable (by decide) (by decide) (by decide)
  rw [← contentWrite_ok_iff (b := .littleEndian)]
  exact ⟨_, rrlContent_written passcode .littleEndian h⟩

end Narrowing

section Silent

variable {b : Build} {α β : Type}

/-- A program that hands over no general message. -/
def Silent (b : Build) (x : Session α) : Prop := Logs (exchanges b) x fun _ cs => handed cs = []

theorem silent_pure (a : α) : Silent b (pure a) := logs_pure rfl

theorem silent_bind {x : Session α} {f : α → Session β} (hx : Silent b x)
    (hf : ∀ a, Silent b (f a)) : Silent b (x >>= f) := by
  apply logs_bind hx
  · intro a cs hcs s
    apply (hf a s).mono
    intro r s' h
    obtain ⟨cs', hext, hcs'⟩ := h
    exact ⟨cs', hext, by simp [hcs, hcs']⟩
  · intro e cs hcs
    exact hcs

theorem silent_ite {c : Prop} [Decidable c] {x y : Session α} (hx : Silent b x)
    (hy : Silent b y) : Silent b (if c then x else y) := logs_ite (fun _ => hx) fun _ => hy

theorem silent_wrappedRecv (b : Build) : Silent b (zdtmWrappedRecvMessage b) := by
  intro s
  apply (logs_wrappedRecv b s).mono
  intro r s' h
  obtain ⟨cs, hext, hrecv⟩ := h
  exact ⟨cs, hext, recvRun_handed hrecv⟩

end Silent

section Authenticate

variable (b : Build) (passcode : CString)

/-- What `_zdtm_authenticate_passcode` does once the RRL message is acknowledged. -/
def passcodeReply : Session Int := do
  let (r, rmsg) ← zdtmWrappedRecvMessage b
  if r = 3 then
    let (r, angmsg) ← zdtmWrappedRecvMessage b
    if r ≠ 0 then return -3
    if angmsg.body.type = ZaurusType.ang.bytes then return 1
    return -4
  if r ≠ 0 then return -5
  if rmsg.body.type = ZaurusType.aex.bytes then return 0
  return -6

theorem silent_passcodeReply : Silent b (passcodeReply b) := by
  apply silent_bind (silent_wrappedRecv b)
  intro r
  apply silent_ite
  · apply silent_bind (silent_wrappedRecv b)
    intro r
    exact silent_ite (silent_pure _) (silent_ite (silent_pure _) (silent_pure _))
  · exact silent_ite (silent_pure _) (silent_ite (silent_pure _) (silent_pure _))

/-- What it does once there is a block for the passcode. -/
def sendPasscode : Session Int := do
  let r ← zdtmWrappedSendMessage b (desktopMsg .rrl (rrlContent passcode))
  if r ≠ 0 then return -2
  passcodeReply b

theorem sendPasscode_handed : Logs (exchanges b) (sendPasscode b passcode) fun r cs =>
    (handed cs = [] ∧ ∀ code, r = .ok code → code < 0) ∨
      handed cs = [desktopMsg .rrl (rrlContent passcode)] := by
  apply logs_bind (logs_wrappedSend b _)
  · intro r cs hsend
    apply logs_unless
    · intro hr
      apply logs_pure
      rw [List.append_nil]
      exact (sendRun_handed hsend).imp_left fun hnone =>
        ⟨hnone.1, fun code hcode => by cases hcode; decide⟩
    · intro hr
      subst hr
      have hone : handed cs = [desktopMsg .rrl (rrlContent passcode)] :=
        (sendRun_handed hsend).resolve_left fun hnone => hnone.2 0 rfl rfl
      intro s
      apply (silent_passcodeReply b s).mono
      intro r s' h
      obtain ⟨cs', hext, hcs'⟩ := h
      refine ⟨cs', hext, Or.inr ?_⟩
      simp [hone, hcs']
  · intro f cs hsend
    exact (sendRun_handed hsend).imp_left fun hnone => ⟨hnone.1, nofun⟩

/-- One RRL message is handed over, or none and the code is negative. -/
theorem authenticatePasscode_handed : Logs (exchanges b) (zdtmAuthenticatePasscode b passcode)
    fun r cs => (handed cs = [] ∧ ∀ code, r = .ok code → code < 0) ∨
      (0 ≤ pwSize passcode ∧ handed cs = [desktopMsg .rrl (rrlContent passcode)]) := by
  by_cases hneg : pwSize passcode < 0
  · have hrun : zdtmAuthenticatePasscode b passcode = pure (-1) := by
      unfold zdtmAuthenticatePasscode
      rw [allocateInt, if_pos hneg]
      rfl
    rw [hrun]
    apply logs_pure
    exact Or.inl ⟨rfl, fun code hcode => by cases hcode; decide⟩
  · have hsize : 0 ≤ pwSize passcode := Int.not_lt.mp hneg
    apply logs_bind (logs_allocateInt b (pwSize passcode))
    · intro p cs hp
      obtain ⟨-, rfl⟩ := hp
      cases p with
      | none =>
        apply logs_pure
        exact Or.inl ⟨rfl, fun code hcode => by cases hcode; decide⟩
      | some block =>
        intro s
        apply (sendPasscode_handed b passcode s).mono
        intro r s' h
        obtain ⟨cs, hext, hhanded⟩ := h
        exact ⟨cs, hext, hhanded.imp_right fun hone => ⟨hsize, hone⟩⟩
    · intro f cs hp
      obtain ⟨⟨p, hp⟩, -⟩ := hp
      cases hp

/-- A device that asks for the passcode and acknowledges it gets one RRL message. -/
theorem authenticatePasscode_served (h : 0 ≤ pwSize passcode) {s : State} {rest : List UInt8}
    (hs : Served s (around ++ rest)) : Leads (zdtmAuthenticatePasscode b passcode) s
      fun _ s' => handed (callsSince s s') = [desktopMsg .rrl (rrlContent passcode)] := by
  have hpos : ¬ pwSize passcode < 0 := Int.not_lt.mpr h
  unfold zdtmAuthenticatePasscode
  rw [allocateInt, if_neg hpos]
  apply leads_block (b := b) hs
  intro block s₁ hs₁ hblock
  have hsend := sendable_served (rrl_sendable passcode h) (rrlContent_written passcode b h)
  apply leads_bind (wrappedSend_leads hsend hs₁)
  · intro r s₂ hsent
    obtain ⟨heq, -, cs, htraffic, hone⟩ := hsent
    cases heq
    apply (silent_passcodeReply b s₂).mono
    intro r s' hreply
    obtain ⟨cs', hexchanges, hnone⟩ := hreply
    have hall := (hblock.trans htraffic).trans hexchanges.traffic
    rw [traffic_callsSince hall, handed_append, hnone]
    simpa using hone
  · intro f s₂ hsent
    obtain ⟨heq, -⟩ := hsent
    cases heq

end Authenticate

/-- The RRL message, however it is prepared, has the whole length in front of all bytes. -/
def CarriesPasscode (b : Build) (passcode : CString) (msg : ZdtmMsg) : Prop :=
  msg.body.type = DesktopType.rrl.bytes ∧ ∃ size : UInt8, size.toNat = passcode.1.length ∧
    ∀ heap ready heap', zdtmPrepareMessage b msg heap = .ok ((0, ready), heap') →
      ready.body.pRawContent = some (size :: passcode.1)

/-- Every run fails without an RRL message, or hands over one with the passcode. -/
def SendsWhole (b : Build) (passcode : CString) : Prop :=
  ∀ s r s', zdtmAuthenticatePasscode b passcode s = (r, s') →
    (handed (callsSince s s') = [] ∧ ∀ code, r = .ok code → code < 0) ∨
    ∃ msg, handed (callsSince s s') = [msg] ∧ CarriesPasscode b passcode msg

/-- Some run with the passcode puts these bytes on the wire as its RRL message. -/
def RrlOnWire (b : Build) (passcode : CString) (wire : List UInt8) : Prop :=
  ∃ s r s' msg heap ready heap', zdtmAuthenticatePasscode b passcode s = (r, s') ∧
    handed (callsSince s s') = [msg] ∧ zdtmPrepareMessage b msg heap = .ok ((0, ready), heap') ∧
    wire = wireLayout b ready

/-- The length fits in the byte, or is negative as an `int`. -/
def Fits (passcode : CString) : Prop :=
  passcode.1.length < 256 ∨ 2 ^ 31 ≤ passcode.1.length % 2 ^ 32

section Carries

variable {b : Build} {passcode other : CString} {wire : List UInt8}

theorem carriesPasscode_of_lt (h : 0 ≤ pwSize passcode) (hlt : passcode.1.length < 256) :
    CarriesPasscode b passcode (desktopMsg .rrl (rrlContent passcode)) := by
  have hmod : passcode.1.length % 256 = passcode.1.length := Nat.mod_eq_of_lt hlt
  refine ⟨rfl, (rrlContent passcode).rrl.pwSize, ?_, ?_⟩
  · rw [toNat_rrlSize, hmod]
  · intro heap ready heap' hprepare
    have hwritten := rrlContent_written passcode b h
    rw [hmod, List.take_length] at hwritten
    exact ZdtmWireFormat.prepared_content (rrl_sendable passcode h) hprepare hwritten

/-- A part of the passcode is not the passcode. -/
theorem not_carriesPasscode (h : 0 ≤ pwSize passcode) (hlong : 256 ≤ passcode.1.length) :
    ¬ CarriesPasscode b passcode (desktopMsg .rrl (rrlContent passcode)) := by
  intro hcarries
  obtain ⟨-, size, -, hall⟩ := hcarries
  have hwritten := rrlContent_written passcode b h
  obtain ⟨garbage, hgarbage⟩ := (Heap.filled_unlimited 0).exists_block
  have hprepare := (sendable_served (rrl_sendable passcode h) hwritten).prepare hgarbage
  have hpart := ZdtmWireFormat.prepared_content (rrl_sendable passcode h) hprepare hwritten
  have hwhole := hall _ _ _ hprepare
  rw [hpart, Option.some.injEq, List.cons.injEq] at hwhole
  have hlen := congrArg List.length hwhole.2
  rw [List.length_take] at hlen
  have hmod : passcode.1.length % 256 < 256 := Nat.mod_lt _ (by decide)
  omega

theorem sendsWhole_of_fits (h : Fits passcode) : SendsWhole b passcode := by
  intro s r s' hrun
  obtain ⟨cs, hexchanges, hhanded⟩ := (authenticatePasscode_handed b passcode).run hrun
  rw [traffic_callsSince hexchanges.traffic]
  obtain ⟨hnone, hneg⟩ | ⟨hsize, hone⟩ := hhanded
  · exact Or.inl ⟨hnone, hneg⟩
  · have hlt : passcode.1.length < 256 := by
      have hpos : ¬ pwSize passcode < 0 := Int.not_lt.mpr hsize
      rw [pwSize_neg_iff] at hpos
      exact h.resolve_right hpos
    exact Or.inr ⟨_, hone, carriesPasscode_of_lt hsize hlt⟩

/-- Where the device gets as far as the passcode, it is handed over. -/
theorem authenticatePasscode_hands (h : 0 ≤ pwSize passcode) : ∃ s r s',
    zdtmAuthenticatePasscode b passcode s = (r, s') ∧
      handed (callsSince s s') = [desktopMsg .rrl (rrlContent passcode)] := by
  have hserved : Served (deviceState around (by decide)) (around ++ []) :=
    deviceState_served around (by decide)
  cases hrun : zdtmAuthenticatePasscode b passcode (deviceState around (by decide)) with
  | mk r s' =>
    exact ⟨_, r, s', hrun, (authenticatePasscode_served b passcode h hserved).of_eq hrun⟩

theorem fits_of_sendsWhole (hwhole : SendsWhole b passcode) : Fits passcode := by
  by_contra hfits
  rw [Fits, not_or] at hfits
  obtain ⟨hlong, hpos⟩ := hfits
  rw [← pwSize_neg_iff] at hpos
  have hsize : 0 ≤ pwSize passcode := Int.not_lt.mp hpos
  obtain ⟨s, r, s', hrun, hone⟩ := authenticatePasscode_hands (b := b) hsize
  obtain ⟨hnone, -⟩ | ⟨msg, hmsg, hcarries⟩ := hwhole s r s' hrun
  · rw [hone] at hnone
    cases hnone
  · rw [hone, List.cons.injEq] at hmsg
    obtain ⟨rfl, -⟩ := hmsg
    exact not_carriesPasscode hsize (by omega) hcarries

/-- Messages with the same wire form have the same content. -/
theorem wireLayout_content {m m' : ZdtmMsg} (h : wireLayout b m = wireLayout b m') :
    m.body.pRawContent.target = m'.body.pRawContent.target := by
  simp only [wireLayout] at h
  obtain ⟨hfront, -⟩ := List.append_inj' h (by simp [length_hostShort])
  exact (List.append_inj hfront (by simp [length_hostShort])).2

/-- What is on the wire has the passcode in it. -/
theorem rrlOnWire_content (h : Fits passcode) (hwire : RrlOnWire b passcode wire) :
    ∃ ready size, wire = wireLayout b ready ∧
      ready.body.pRawContent = some (size :: passcode.1) := by
  obtain ⟨s, r, s', msg, heap, ready, heap', hrun, hhanded, hprepare, rfl⟩ := hwire
  obtain ⟨hnone, -⟩ | ⟨msg', hone, -, size, -, hall⟩ := sendsWhole_of_fits h s r s' hrun
  · rw [hhanded] at hnone
    cases hnone
  · rw [hhanded, List.cons.injEq] at hone
    obtain ⟨rfl, -⟩ := hone
    exact ⟨ready, size, rfl, hall _ _ _ hprepare⟩

end Carries

/-- The whole passcode goes to the device, or nothing does, exactly when its length
fits in the byte or is negative as an `int`; such passcodes that differ lead to
different messages. -/
theorem passcode_sent_iff (b : Build) (passcode other : CString) :
    (SendsWhole b passcode ↔ Fits passcode) ∧
      (Fits passcode → Fits other → passcode ≠ other →
        ∀ wire, RrlOnWire b passcode wire → ¬ RrlOnWire b other wire) := by
  constructor
  · constructor
    · exact fits_of_sendsWhole
    · exact sendsWhole_of_fits
  · intro hfits hfits' hne wire hwire hwire'
    obtain ⟨ready, size, rfl, hcontent⟩ := rrlOnWire_content hfits hwire
    obtain ⟨ready', size', hsame, hcontent'⟩ := rrlOnWire_content hfits' hwire'
    have htarget := wireLayout_content hsame
    rw [hcontent, hcontent', Ptr.target_some, Ptr.target_some, List.cons.injEq] at htarget
    exact hne (Subtype.ext htarget.2)

/-- The RRL message of the passcode, in the wire format. -/
theorem rrlOnWire_format {passcode : CString} (h : 0 ≤ pwSize passcode) :
    RrlOnWire .littleEndian passcode (wireFormat DesktopType.rrl.bytes
      ((rrlContent passcode).rrl.pwSize :: passcode.1.take (passcode.1.length % 256))) := by
  obtain ⟨s, r, s', hrun, hone⟩ := authenticatePasscode_hands (b := .littleEndian) h
  obtain ⟨garbage, hgarbage⟩ := (Heap.filled_unlimited 0).exists_block
  have hwritten := rrlContent_written passcode .littleEndian h
  have hprepare := (sendable_served (rrl_sendable passcode h) hwritten).prepare hgarbage
  refine ⟨s, r, s', _, _, _, _, hrun, hone, hprepare, ?_⟩
  rw [ZdtmWireFormat.prepared_wire (rrl_sendable passcode h) hprepare hwritten]
  rfl

def longPasscode : CString :=
  ⟨List.replicate 256 0x41, fun h => absurd (List.eq_of_mem_replicate h) (by decide)⟩

def noPasscode : CString := ⟨[], List.not_mem_nil⟩

/-- A passcode of 256 characters is sent like the empty one. -/
theorem long_passcode_dropped : ¬ SendsWhole .littleEndian longPasscode ∧
    ∃ wire, RrlOnWire .littleEndian longPasscode wire ∧
      RrlOnWire .littleEndian noPasscode wire := by
  have hlen : longPasscode.1.length = 256 := List.length_replicate
  have hlong : 0 ≤ pwSize longPasscode := by
    rw [← Int.not_lt, pwSize_neg_iff, hlen]
    decide
  have hnone : 0 ≤ pwSize noPasscode := by
    rw [← Int.not_lt, pwSize_neg_iff]
    decide
  constructor
  · intro h
    have hfits := fits_of_sendsWhole h
    rw [Fits, hlen] at hfits
    omega
  · have hsame : (rrlContent longPasscode).rrl.pwSize = (rrlContent noPasscode).rrl.pwSize := by
      rw [← UInt8.toNat_inj, toNat_rrlSize, toNat_rrlSize, hlen]
      rfl
    have hwire := rrlOnWire_format hlong
    rw [hlen, hsame] at hwire
    exact ⟨_, hwire, rrlOnWire_format hnone⟩

end ZdtmPasscodes
