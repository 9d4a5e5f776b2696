import ZdtmSync.DesktopMsg
import ZdtmSync.ZaurusMsg

/-!
# General message handling

`zdtm_msgs.c`: the common messages, the checksum, preparing a message for
sending and parsing the raw content of a received one. Preparing goes over the
content twice: once for its length, from which the block is allocated, and
once to fill the block.
-/

namespace ZdtmMsgs

open LittleEndian ByteCodec CMemory ZdtmTypes ZdtmCommon ZdtmDesktopMsg ZdtmZaurusMsg

inductive CommonMsg where
  | ack | rqst | abrt
  deriving DecidableEq, Repr

def CommonMsg.bytes : CommonMsg → Bytes comMsgSize
  | .ack => ⟨[0x00, 0x00, 0x00, 0x00, 0x00, 0x96, 0x06], rfl⟩
  | .rqst => ⟨[0x00, 0x00, 0x00, 0x00, 0x00, 0x96, 0x05], rfl⟩
  | .abrt => ⟨[0x00, 0x00, 0x00, 0x00, 0x00, 0x96, 0x18], rfl⟩

/-- `memcmp` of a buffer with the bytes of a common message. -/
def isCommonMessage (m : CommonMsg) (buff : List UInt8) : Bool :=
  decide (buff.take comMsgSize = m.bytes.toList)

def zdtmIsAckMessage (buff : List UInt8) : Bool := isCommonMessage .ack buff
def zdtmIsRqstMessage (buff : List UInt8) : Bool := isCommonMessage .rqst buff
def zdtmIsAbrtMessage (buff : List UInt8) : Bool := isCommonMessage .abrt buff

def addBytes (sum : UInt16) (bs : List UInt8) : UInt16 :=
  bs.foldl (fun sum byte => sum + byte.toUInt16) sum

def zdtmChecksum (msg : ZdtmMsg) : Except Fault UInt16 := do
  let content ← load msg.body.pRawContent msg.contSize.toNat
  return addBytes (addBytes 0 msg.body.type.toList) content

theorem toNat_addBytes (sum : UInt16) (bs : List UInt8) :
    (addBytes sum bs).toNat = (sum.toNat + (bs.map UInt8.toNat).sum) % 65536 := by
  induction bs generalizing sum with
  | nil =>
    have h : sum.toNat < 65536 := sum.toNat_lt
    simp only [addBytes, List.foldl_nil, List.map_nil, List.sum_nil]
    omega
  | cons byte bs ih =>
    have hstep : addBytes sum (byte :: bs) = addBytes (sum + byte.toUInt16) bs := rfl
    have hadd : (sum + byte.toUInt16).toNat = (sum.toNat + byte.toNat) % 65536 := by
      simp [UInt16.toNat_add]
    rw [hstep, ih, hadd, List.map_cons, List.sum_cons]
    omega

theorem addBytes_append (sum : UInt16) (xs ys : List UInt8) :
    addBytes sum (xs ++ ys) = addBytes (addBytes sum xs) ys := List.foldl_append ..

/-- The checksum of a body is the sum of its bytes modulo 65536. -/
theorem toNat_addBytes_zero (bs : List UInt8) :
    (addBytes 0 bs).toNat = (bs.map UInt8.toNat).sum % 65536 := by
  rw [toNat_addBytes]
  simp

def zdtmCleanMessage (msg : ZdtmMsg) : ZdtmMsg :=
  let body := { msg.body with pRawContent := none }
  if body.type = DesktopType.rrl.bytes then
    { msg with body := { body with cont := { body.cont with rrl := { body.cont.rrl with pw := none } } } }
  else { msg with body }

def contentLength (t : DesktopType) (cont : SpecTypeContent) : Int :=
  match t with
  | .rrl => zdtmRrlLength cont.rrl
  | .rmg => zdtmRmgLength cont.rmg
  | .rms => zdtmRmsLength cont.rms
  | .rts => zdtmRtsLength cont.rts
  | .rdi => zdtmRdiLength cont.rdi
  | .rsy => zdtmRsyLength cont.rsy
  | .rss => zdtmRssLength cont.rss
  | .rdr => zdtmRdrLength cont.rdr
  | .rdw => zdtmRdwLength cont.rdw
  | .rdd => zdtmRddLength cont.rdd
  | .rds => zdtmRdsLength cont.rds
  | .rqt => zdtmRqtLength cont.rqt
  | .rlr => zdtmRlrLength cont.rlr
  | .rge => zdtmRgeLength cont.rge
  | .ray | .rig | .rtg => 0

def plain (bytes : List UInt8) : Except Fault Written := .ok { bytes }

def contentWrite (b : Build) (t : DesktopType) (cont : SpecTypeContent) : Except Fault Written :=
  match t with
  | .rrl => zdtmRrlWrite cont.rrl >>= plain
  | .rmg => plain (zdtmRmgWrite cont.rmg)
  | .rms => .ok (zdtmRmsWrite b cont.rms)
  | .rts => plain (zdtmRtsWrite cont.rts)
  | .rdi => plain (zdtmRdiWrite cont.rdi)
  | .rsy => plain (zdtmRsyWrite cont.rsy)
  | .rss => plain (zdtmRssWrite cont.rss)
  | .rdr => plain (zdtmRdrWrite b cont.rdr)
  | .rdw => zdtmRdwWrite b cont.rdw
  | .rdd => plain (zdtmRddWrite b cont.rdd)
  | .rds => plain (zdtmRdsWrite cont.rds)
  | .rqt => plain (zdtmRqtWrite cont.rqt)
  | .rlr => plain (zdtmRlrWrite cont.rlr)
  | .rge => zdtmRgeWrite b cont.rge >>= plain
  | .ray | .rig | .rtg => plain []

/-- `DMSG_HDR` with the content size in its place. -/
def preparedHeader (b : Build) (contSize : UInt16) : Bytes msgHdrSize :=
  ⟨dmsgHdr.toList.take msgHdrContOffset ++ putShort b contSize ++
    dmsgHdr.toList.drop (msgHdrContOffset + 2), by simp [msgHdrSize, msgHdrContOffset]⟩

/-- The first pass: `body_size += …_length()`, the content size and the header. -/
def sizedMessage (b : Build) (t : DesktopType) (msg : ZdtmMsg) : ZdtmMsg :=
  let bodySize := UInt16.ofInt (msgTypeSize + contentLength t msg.body.cont)
  let contSize := bodySize - UInt16.ofNat msgTypeSize
  { msg with bodySize, contSize, header := preparedHeader b contSize }

def withRaw (msg : ZdtmMsg) (raw : Ptr) : ZdtmMsg :=
  { msg with body := { msg.body with pRawContent := raw } }

def zdtmPrepareMessage (b : Build) (msg : ZdtmMsg) : Mem (Int × ZdtmMsg) :=
  match desktopType msg.body.type with
  | none => pure (retUnkType, { msg with bodySize := UInt16.ofNat msgTypeSize })
  | some t => do
    let sized := sizedMessage b t msg
    if msg.body.pRawContent ≠ none then return (retNnullRaw, sized)
    match ← malloc sized.contSize.toNat with
    | none => return (-1, withRaw sized none)
    | some block =>
      let written ← static (contentWrite b t msg.body.cont)
      let content ← static (store block written.bytes)
      let filled := withRaw sized (some content)
      if t = .rdw ∧ written.null then return (retUnkType, filled)
      let checkSum ← static (zdtmChecksum filled)
      return (0, { filled with checkSum })

/-- A block of `n` bytes after writing: behind the written bytes it holds what it held. -/
def filledBlock (n : Nat) (garbage : Nat → UInt8) (written : List UInt8) : List UInt8 :=
  written ++ ((List.range n).map garbage).drop written.length

/-- What preparing leaves in the message. -/
def preparedMessage (b : Build) (t : DesktopType) (msg : ZdtmMsg) (garbage : Nat → UInt8)
    (written : List UInt8) : ZdtmMsg :=
  let sized := sizedMessage b t msg
  let content := filledBlock sized.contSize.toNat garbage written
  { withRaw sized (some content) with
    checkSum := addBytes 0 (msg.body.type.toList ++ content) }

theorem length_filledBlock {n : Nat} (garbage : Nat → UInt8) {written : List UInt8}
    (h : written.length ≤ n) : (filledBlock n garbage written).length = n := by
  simp only [filledBlock, List.length_append, List.length_drop, List.length_map,
    List.length_range]
  omega

theorem filledBlock_exact (garbage : Nat → UInt8) (written : List UInt8) :
    filledBlock written.length garbage written = written := by
  simp [filledBlock]

theorem store_filledBlock {n : Nat} (garbage : Nat → UInt8) {written : List UInt8}
    (h : written.length ≤ n) :
    store ((List.range n).map garbage) written = .ok (filledBlock n garbage written) :=
  store_of_le (by simpa using h)

/-- Over a content of the announced size the checksum reads all of it and no more. -/
theorem zdtmChecksum_exact {msg : ZdtmMsg} {content : List UInt8}
    (hr : msg.body.pRawContent = some content) (hlen : content.length = msg.contSize.toNat) :
    zdtmChecksum msg = .ok (addBytes 0 (msg.body.type.toList ++ content)) := by
  have hload : load msg.body.pRawContent msg.contSize.toNat = .ok content := by
    rw [hr, load_of_le (by simp [hlen]), ← hlen]
    simp
  simp only [zdtmChecksum, hload, addBytes_append]
  rfl

/-- The runs of `_zdtm_prepare_message` that return 0. -/
structure Prepares (b : Build) (msg : ZdtmMsg) (heap : Heap) (t : DesktopType)
    (garbage : Nat → UInt8) (written : Written) : Prop where
  type : desktopType msg.body.type = some t
  raw : msg.body.pRawContent = none
  block : heap 0 = some garbage
  write : contentWrite b t msg.body.cont = .ok written
  fits : written.bytes.length ≤ (sizedMessage b t msg).contSize.toNat
  accepted : ¬ (t = .rdw ∧ written.null)

section Runs

variable {b : Build} {msg : ZdtmMsg} {heap : Heap} {t : DesktopType} {garbage : Nat → UInt8}
  {written : Written}

theorem prepare_unknown (ht : desktopType msg.body.type = none) :
    zdtmPrepareMessage b msg heap =
      .ok ((retUnkType, { msg with bodySize := UInt16.ofNat msgTypeSize }), heap) := by
  simp only [zdtmPrepareMessage, ht, pure_run]

theorem prepare_nnull (ht : desktopType msg.body.type = some t)
    (hr : msg.body.pRawContent ≠ none) :
    zdtmPrepareMessage b msg heap = .ok ((retNnullRaw, sizedMessage b t msg), heap) := by
  simp only [zdtmPrepareMessage, ht, if_pos hr, pure_run]

theorem prepare_nomem (ht : desktopType msg.body.type = some t)
    (hr : msg.body.pRawContent = none) (hh : heap 0 = none) :
    zdtmPrepareMessage b msg heap =
      .ok ((-1, withRaw (sizedMessage b t msg) none), heap.next) := by
  simp only [zdtmPrepareMessage, ht, hr, ne_eq, not_true_eq_false, if_false]
  exact bind_ok (malloc_none hh _)

theorem prepare_unreadable (ht : desktopType msg.body.type = some t)
    (hr : msg.body.pRawContent = none) (hh : heap 0 = some garbage) {f : Fault}
    (hw : contentWrite b t msg.body.cont = .error f) :
    zdtmPrepareMessage b msg heap = .error f := by
  simp only [zdtmPrepareMessage, ht, hr, ne_eq, not_true_eq_false, if_false, hw]
  exact bind_ok (malloc_some hh _)

theorem prepare_overrun (ht : desktopType msg.body.type = some t)
    (hr : msg.body.pRawContent = none) (hh : heap 0 = some garbage)
    (hw : contentWrite b t msg.body.cont = .ok written)
    (hlt : (sizedMessage b t msg).contSize.toNat < written.bytes.length) :
    zdtmPrepareMessage b msg heap = .error .overrun := by
  have hs : store ((List.range (sizedMessage b t msg).contSize.toNat).map garbage)
      written.bytes = .error .overrun := store_of_lt (by simpa using hlt)
  simp only [zdtmPrepareMessage, ht, hr, ne_eq, not_true_eq_false, if_false, hw]
  apply (bind_ok (malloc_some hh _)).trans
  apply (bind_ok (static_ok written _)).trans
  simp only [hs]
  rfl

theorem prepare_refused (ht : desktopType msg.body.type = some .rdw)
    (hr : msg.body.pRawContent = none) (hh : heap 0 = some garbage)
    (hw : contentWrite b .rdw msg.body.cont = .ok written)
    (hle : written.bytes.length ≤ (sizedMessage b .rdw msg).contSize.toNat)
    (hnull : written.null = true) :
    zdtmPrepareMessage b msg heap =
      .ok ((retUnkType, withRaw (sizedMessage b .rdw msg) (some (filledBlock
        (sizedMessage b .rdw msg).contSize.toNat garbage written.bytes))), heap.next) := by
  simp only [zdtmPrepareMessage, ht, hr, ne_eq, not_true_eq_false, if_false, hw]
  apply (bind_ok (malloc_some hh _)).trans
  apply (bind_ok (static_ok written _)).trans
  simp only [store_filledBlock garbage hle]
  apply (bind_ok (static_ok _ _)).trans
  simp only [hnull, and_self, if_true]
  rfl

theorem prepare_ok (h : Prepares b msg heap t garbage written) :
    zdtmPrepareMessage b msg heap =
      .ok ((0, preparedMessage b t msg garbage written.bytes), heap.next) := by
  obtain ⟨ht, hr, hh, hw, hle, haccept⟩ := h
  have hcheck : zdtmChecksum (withRaw (sizedMessage b t msg)
      (some (filledBlock (sizedMessage b t msg).contSize.toNat garbage written.bytes))) =
      .ok (preparedMessage b t msg garbage written.bytes).checkSum :=
    zdtmChecksum_exact rfl (length_filledBlock garbage hle)
  simp only [zdtmPrepareMessage, ht, hr, ne_eq, not_true_eq_false, if_false, hw]
  apply (bind_ok (malloc_some hh _)).trans
  apply (bind_ok (static_ok written _)).trans
  simp only [store_filledBlock garbage hle]
  apply (bind_ok (static_ok _ _)).trans
  simp only [if_neg haccept, hcheck]
  rfl

/-- `_zdtm_prepare_message` returns 0 in exactly these runs. -/
theorem prepare_zero_iff {msg' : ZdtmMsg} {heap' : Heap} :
    zdtmPrepareMessage b msg heap = .ok ((0, msg'), heap') ↔
      ∃ t garbage written, Prepares b msg heap t garbage written ∧
        msg' = preparedMessage b t msg garbage written.bytes ∧ heap' = heap.next := by
  constructor
  · intro h
    cases ht : desktopType msg.body.type with
    | none => rw [prepare_unknown ht] at h; simp at h
    | some t =>
      by_cases hr : msg.body.pRawContent = none
      · cases hh : heap 0 with
        | none => rw [prepare_nomem ht hr hh] at h; simp at h
        | some garbage =>
          cases hw : contentWrite b t msg.body.cont with
          | error f => rw [prepare_unreadable ht hr hh hw] at h; cases h
          | ok written =>
            by_cases hle : written.bytes.length ≤ (sizedMessage b t msg).contSize.toNat
            · by_cases hnull : t = .rdw ∧ written.null
              · obtain ⟨rfl, hnull⟩ := hnull
                rw [prepare_refused ht hr hh hw hle hnull] at h
                simp at h
              · have hp : Prepares b msg heap t garbage written := ⟨ht, hr, hh, hw, hle, hnull⟩
                rw [prepare_ok hp] at h
                cases h
                exact ⟨t, garbage, written, hp, rfl, rfl⟩
            · rw [prepare_overrun ht hr hh hw (by omega)] at h
              cases h
      · rw [prepare_nnull ht hr] at h
        simp at h
  · intro hprepares
    obtain ⟨t, garbage, written, hp, rfl, rfl⟩ := hprepares
    exact prepare_ok hp

end Runs

/-- What `_zdtm_parse_raw_msg` returns when the parser of the type fails. -/
def parseFailCode : ZaurusType → Int
  | .aay => -1
  | .aig => -2
  | .amg => -3
  | .atg => -4
  | .aex => -5
  | .ang => -6
  | .adi => -7
  | .asy => -8
  | .adr => -9
  | .adw => -10

def contentScan (b : Build) (z : ZaurusType) (cont : SpecTypeContent) : Scan SpecTypeContent :=
  match z with
  | .aay => do let aay ← zdtmParseRawAayMsg; return { cont with aay }
  | .aig => do let aig ← zdtmParseRawAigMsg b; return { cont with aig }
  | .amg => do let amg ← zdtmParseRawAmgMsg; return { cont with amg }
  | .atg => do let atg ← zdtmParseRawAtgMsg; return { cont with atg }
  | .aex => pure cont
  | .ang => do let ang ← zdtmParseRawAngMsg; return { cont with ang }
  | .adi => do let adi ← zdtmParseRawAdiMsg b; return { cont with adi }
  | .asy => do let asy ← zdtmParseRawAsyMsg b; return { cont with asy }
  | .adr => do let adr ← zdtmParseRawAdrMsg b; return { cont with adr }
  | .adw => do let adw ← zdtmParseRawAdwMsg b; return { cont with adw }

def withCont (msg : ZdtmMsg) (cont : SpecTypeContent) : ZdtmMsg :=
  { msg with body := { msg.body with cont } }

def zdtmParseRawMsg (b : Build) (msg : ZdtmMsg) : Mem (Int × ZdtmMsg) :=
  match zaurusType msg.body.type with
  | none => pure (-255, msg)
  | some z => do
    match ← (contentScan b z msg.body.cont).run msg.body.pRawContent with
    | .error code => return (if code = 0 then 0 else parseFailCode z, msg)
    | .ok cont => return (0, withCont msg cont)

/-- The layout of each content as the build reads it. -/
def contentLayout (b : Build) (z : ZaurusType) (cont : SpecTypeContent) :
    Decoder SpecTypeContent :=
  match z with
  | .aay => do let aay ← aayLayout; return { cont with aay }
  | .aig => do let aig ← aigLayout; return { cont with aig }
  | .amg => do let amg ← amgLayout; return { cont with amg }
  | .atg => do let atg ← atgLayout; return { cont with atg }
  | .aex => pure cont
  | .ang => do let ang ← angLayout; return { cont with ang }
  | .adi => do let adi ← adiLayout; return { cont with adi }
  | .asy => do let asy ← asyLayout; return { cont with asy }
  | .adr => do let adr ← adrLayout b; return { cont with adr }
  | .adw => do let adw ← adwLayout b; return { cont with adw }

theorem contentScan_refines (b : Build) (z : ZaurusType) (cont : SpecTypeContent) :
    Scan.Refines (contentScan b z cont) (contentLayout b z cont) := by
  cases z with
  | aay => exact Scan.refines_bind aay_refines fun _ => Scan.refines_pure _
  | aig => exact Scan.refines_bind (aig_refines b) fun _ => Scan.refines_pure _
  | amg => exact Scan.refines_bind amg_refines fun _ => Scan.refines_pure _
  | atg => exact Scan.refines_bind atg_refines fun _ => Scan.refines_pure _
  | aex => exact Scan.refines_pure cont
  | ang => exact Scan.refines_bind ang_refines fun _ => Scan.refines_pure _
  | adi => exact Scan.refines_bind (adi_refines b) fun _ => Scan.refines_pure _
  | asy => exact Scan.refines_bind (asy_refines b) fun _ => Scan.refines_pure _
  | adr => exact Scan.refines_bind (adr_refines b) fun _ => Scan.refines_pure _
  | adw => exact Scan.refines_bind (adw_refines b) fun _ => Scan.refines_pure _

/-- With enough memory a content that its layout accepts is parsed to its value. -/
theorem parse_accepted {b : Build} {msg : ZdtmMsg} {z : ZaurusType} {heap : Heap}
    {cont : SpecTypeContent} {rest : List UInt8} (ht : zaurusType msg.body.type = some z)
    (hd : contentLayout b z msg.body.cont msg.body.pRawContent.target = some (cont, rest))
    (hu : heap.Unlimited) :
    ∃ heap', zdtmParseRawMsg b msg heap = .ok ((0, withCont msg cont), heap') ∧
      heap'.Unlimited := by
  obtain ⟨heap', hrun, hu'⟩ := (contentScan_refines b z msg.body.cont).run_some hd hu
  refine ⟨heap', ?_, hu'⟩
  simp only [zdtmParseRawMsg, ht]
  exact bind_ok hrun

/-- With enough memory parsing faults over a content that its layout rejects. -/
theorem parse_rejected {b : Build} {msg : ZdtmMsg} {z : ZaurusType} {heap : Heap}
    (ht : zaurusType msg.body.type = some z)
    (hd : contentLayout b z msg.body.cont msg.body.pRawContent.target = none)
    (hu : heap.Unlimited) : ∃ f, zdtmParseRawMsg b msg heap = .error f := by
  obtain ⟨f, hrun⟩ := (contentScan_refines b z msg.body.cont).run_none hd hu
  refine ⟨f, ?_⟩
  simp only [zdtmParseRawMsg, ht]
  exact bind_error hrun

/-- Parsing stays inside the raw content, whatever the heap does, exactly when
the layout accepts the content. -/
theorem parse_inBounds_iff {b : Build} {msg : ZdtmMsg} {z : ZaurusType}
    (ht : zaurusType msg.body.type = some z) :
    (∀ heap f, zdtmParseRawMsg b msg heap ≠ .error f) ↔
      (contentLayout b z msg.body.cont msg.body.pRawContent.target).isSome := by
  rw [← (contentScan_refines b z msg.body.cont).run_inBounds_iff]
  have hrun : ∀ heap, (∃ f, zdtmParseRawMsg b msg heap = .error f) ↔
      ∃ f, (contentScan b z msg.body.cont).run msg.body.pRawContent heap = .error f := by
    intro heap
    simp only [zdtmParseRawMsg, ht]
    cases hs : (contentScan b z msg.body.cont).run msg.body.pRawContent heap with
    | error f => simp [bind_error hs]
    | ok r =>
      obtain ⟨result, heap'⟩ := r
      rw [bind_ok hs]
      cases result <;> simp
  constructor
  · intro h heap f hf
    obtain ⟨f', hf'⟩ := (hrun heap).mpr ⟨f, hf⟩
    exact h heap f' hf'
  · intro h heap f hf
    obtain ⟨f', hf'⟩ := (hrun heap).mp ⟨f, hf⟩
    exact h heap f' hf'

end ZdtmMsgs
