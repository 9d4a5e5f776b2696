import ZdtmSync.Delivery
import ZdtmSync.Prepare

/-!
# The wire format of the Desktop messages

What `_zdtm_send_message_to` builds for the wire in the little-endian build:
the header with the content size, the body size, the type, the content and the
sum of the body's bytes. Two messages with the same wire bytes are the same
message.
-/

namespace ZdtmWireFormat

open LittleEndian ByteCodec CMemory ZdtmTypes ZdtmCommon ZdtmDesktopMsg ZdtmMsgs ZdtmWriters
open ZdtmPrepare ZdtmNet ZdtmDelivery

/-- Over this heap every run is a send loop over these bytes. -/
def BuildsWire (b : Build) (msg : ZdtmMsg) (heap : Heap) (wire : List UInt8) : Prop :=
  ∀ (sockfd : Sock) (w : World), w.heap = heap → ∃ done,
    zdtmSendMessageTo b msg sockfd w = (do
      if ← sendLoop sockfd wire wire.length then return (0, done)
      else return (-2, done)) { w with heap := heap.next.next }

section Builds

variable {b : Build} {msg : ZdtmMsg} {heap : Heap} {t : DesktopType} {garbage : Nat → UInt8}
  {written : Written} {wire wire' : List UInt8}

/-- A prepared message with a body of at least three bytes is built as its layout. -/
theorem buildsWire_prepared (hp : Prepares b msg heap t garbage written)
    (hu : heap.Unlimited)
    (hbody : 3 ≤ (preparedMessage b t msg garbage written.bytes).bodySize.toNat) :
    BuildsWire b msg heap (wireLayout b (preparedMessage b t msg garbage written.bytes)) := by
  rintro sockfd w rfl
  obtain ⟨garbage', hsome⟩ := hu.next.exists_block
  exact ⟨_, send_granted (prepare_ok hp) hsome hbody⟩

/-- Over a kernel that accepts everything the peer gets what was built. -/
theorem buildsWire_free (h : BuildsWire b msg heap wire) :
    ∃ done, zdtmSendMessageTo b msg .connfd { heap, inbox := [] } =
      .ok ((0, done), { heap := heap.next.next, inbox := [], trace := wire.map (.sent .connfd) }) := by
  obtain ⟨done, hrun⟩ := h .connfd { heap, inbox := [] } rfl
  have hloop : sendLoop .connfd wire wire.length { heap := heap.next.next, inbox := [] } =
      .ok (true, { heap := heap.next.next, inbox := [], trace := wire.map (.sent .connfd) }) := by
    cases wire with
    | nil => simp [sendLoop]
    | cons byte wire => simp [sendLoop, sendPieces]
  exact ⟨done, hrun.trans (ZdtmNet.bind_ok hloop)⟩

theorem buildsWire_unique (h : BuildsWire b msg heap wire) (h' : BuildsWire b msg heap wire') :
    wire = wire' := by
  obtain ⟨done, hrun⟩ := buildsWire_free h
  obtain ⟨done', hrun'⟩ := buildsWire_free h'
  rw [hrun] at hrun'
  simp only [Except.ok.injEq, Prod.mk.injEq, World.mk.injEq, true_and] at hrun'
  exact (List.map_injective_iff.mpr (sent_injective .connfd)) hrun'.2

/-- Below three bytes the copies leave the block, and nothing is built. -/
theorem bodySize_of_buildsWire (hp : Prepares b msg heap t garbage written)
    (hu : heap.Unlimited) (h : BuildsWire b msg heap wire) :
    3 ≤ (preparedMessage b t msg garbage written.bytes).bodySize.toNat := by
  by_contra hbody
  obtain ⟨garbage', hsome⟩ := hu.next.exists_block
  obtain ⟨done, hrun⟩ := buildsWire_free h
  rw [send_overrun (prepare_ok hp) hsome hbody] at hrun
  cases hrun

end Builds

/-- The bytes of a message with this type and content. -/
def wireFormat (type : MsgType) (content : List UInt8) : List UInt8 :=
  dmsgHdr.toList.take 9 ++ bytes 2 content.length ++ dmsgHdr.toList.drop 11 ++
    bytes 2 (content.length + 3) ++ (type.toList ++ content) ++
    bytes 2 (((type.toList ++ content).map UInt8.toNat).sum % 65536)

/-- The well-formed messages other than RDW. -/
structure Sendable (t : DesktopType) (msg : ZdtmMsg) : Prop where
  type : desktopType msg.body.type = some t
  other : t ≠ .rdw
  raw : msg.body.pRawContent = none
  log : t = .rms → msg.body.cont.rms.logSize.toNat ≤ 38
  path : t = .rge → msg.body.cont.rge.pathLen.toNat ≤ 65530
  readable : ContentReadable t msg.body.cont

/-- The fields that a content of the type sends. -/
def SameContent (t : DesktopType) (c c' : SpecTypeContent) : Prop :=
  match t with
  | .rrl => c.rrl.pwSize = c'.rrl.pwSize ∧
      c.rrl.pw.target.take c.rrl.pwSize.toNat = c'.rrl.pw.target.take c.rrl.pwSize.toNat
  | .rge => c.rge.pathLen = c'.rge.pathLen ∧
      c.rge.path.target.take c.rge.pathLen.toNat = c'.rge.path.target.take c.rge.pathLen.toNat
  | .rms => c.rms.logSize = c'.rms.logSize ∧
      c.rms.log.toList.take c.rms.logSize.toNat = c'.rms.log.toList.take c.rms.logSize.toNat
  | .rmg => c.rmg = c'.rmg
  | .rts => c.rts = c'.rts
  | .rdi => c.rdi = c'.rdi
  | .rsy => c.rsy = c'.rsy
  | .rss => c.rss = c'.rss
  | .rdr => c.rdr = c'.rdr
  | .rdw => c.rdw = c'.rdw
  | .rdd => c.rdd = c'.rdd
  | .rds => c.rds = c'.rds
  | .rqt => c.rqt = c'.rqt
  | .rlr => c.rlr = c'.rlr
  | .ray | .rig | .rtg => True

theorem contentLength_le {t : DesktopType} {msg : ZdtmMsg} (h : Sendable t msg) :
    0 ≤ contentLength t msg.body.cont ∧ contentLength t msg.body.cont ≤ 65532 := by
  cases t with
  | rrl =>
    have hlt : msg.body.cont.rrl.pwSize.toNat < 256 := UInt8.toNat_lt _
    simp only [contentLength, zdtmRrlLength]
    omega
  | rge =>
    have hle := h.path rfl
    simp only [contentLength, zdtmRgeLength]
    omega
  | rdw => exact absurd rfl h.other
  | _ => exact ⟨of_decide_eq_true rfl, of_decide_eq_true rfl⟩

section Format

variable {t t' : DesktopType} {msg msg' : ZdtmMsg} {heap : Heap}

/-- The writer fills the block of a sendable message exactly. -/
theorem sendable_written (b : Build) (h : Sendable t msg) :
    ∃ content, contentWrite b t msg.body.cont = .ok { bytes := content } ∧
      contentLength t msg.body.cont = content.length := by
  obtain ⟨written, hw⟩ := (contentWrite_ok_iff (b := b)).mpr h.readable
  obtain ⟨hnull, hlen⟩ := contentWrite_length hw h.other h.log
  obtain ⟨content, null⟩ := written
  simp only at hnull hlen
  subst hnull
  exact ⟨content, hw, hlen.symm⟩

theorem sendable_prepares {b : Build} (h : Sendable t msg) {garbage : Nat → UInt8}
    (hsome : heap 0 = some garbage) {content : List UInt8}
    (hw : contentWrite b t msg.body.cont = .ok { bytes := content })
    (hlen : contentLength t msg.body.cont = content.length) :
    Prepares b msg heap t garbage { bytes := content } ∧
      (sizedMessage b t msg).contSize.toNat = content.length ∧
      (sizedMessage b t msg).bodySize.toNat = content.length + 3 := by
  have hcont := contSize_toNat b t msg
  have hbody := bodySize_toNat b t msg
  have hle := (contentLength_le h).2
  have hcont' : (sizedMessage b t msg).contSize.toNat = content.length := by omega
  refine ⟨⟨h.type, h.raw, hsome, hw, hcont'.ge, fun hn => h.other hn.1⟩, hcont', ?_⟩
  omega

/-- A prepared message whose content fills its block has the format. -/
theorem wireLayout_exact {garbage : Nat → UInt8} {content : List UInt8}
    (hcont : (sizedMessage .littleEndian t msg).contSize.toNat = content.length)
    (hbody : (sizedMessage .littleEndian t msg).bodySize.toNat = content.length + 3) :
    wireLayout .littleEndian (preparedMessage .littleEndian t msg garbage content) =
      wireFormat msg.body.type content := by
  have hblock : filledBlock (sizedMessage .littleEndian t msg).contSize.toNat garbage content =
      content := by rw [hcont, filledBlock_exact]
  have hheader : (preparedHeader .littleEndian (sizedMessage .littleEndian t msg).contSize).toList
      = dmsgHdr.toList.take 9 ++ bytes 2 content.length ++ dmsgHdr.toList.drop 11 := by
    rw [← hcont, ← putShort_eq .littleEndian]
    rfl
  have hsum : (addBytes 0 (msg.body.type.toList ++ content)).toNat =
      ((msg.body.type.toList ++ content).map UInt8.toNat).sum % 65536 := toNat_addBytes_zero _
  simp only [wireLayout, preparedMessage, withRaw, hblock, wireFormat, ← hheader, ← hbody,
    ← hsum, hostShort, Ptr.target_some, List.append_assoc]
  rfl

/-- What is built of a sendable message has the format. -/
theorem buildsWire_sendable (h : Sendable t msg) (hu : heap.Unlimited) {content : List UInt8}
    (hw : contentWrite .littleEndian t msg.body.cont = .ok { bytes := content })
    (hlen : contentLength t msg.body.cont = content.length) :
    BuildsWire .littleEndian msg heap (wireFormat msg.body.type content) := by
  obtain ⟨garbage, hsome⟩ := hu.exists_block
  obtain ⟨hp, hcont, hbody⟩ := sendable_prepares h hsome hw hlen
  have hbuild := buildsWire_prepared hp hu (by
    change 3 ≤ (sizedMessage .littleEndian t msg).bodySize.toNat
    omega)
  rw [← wireLayout_exact hcont hbody]
  exact hbuild

/-- Whatever heap a sendable message was prepared in, the content fills its block. -/
theorem prepared_sendable {b : Build} (h : Sendable t msg) {ready : ZdtmMsg} {heap' : Heap}
    (hprepare : zdtmPrepareMessage b msg heap = .ok ((0, ready), heap')) {content : List UInt8}
    (hw : contentWrite b t msg.body.cont = .ok { bytes := content }) :
    ∃ garbage, ready = preparedMessage b t msg garbage content ∧
      (sizedMessage b t msg).contSize.toNat = content.length ∧
      (sizedMessage b t msg).bodySize.toNat = content.length + 3 := by
  obtain ⟨t', garbage, written, hp, rfl, -⟩ := prepare_zero_iff.mp hprepare
  have ht : t' = t := Option.some.inj (hp.type.symm.trans h.type)
  subst ht
  obtain ⟨content', hw', hlen'⟩ := sendable_written b h
  have hwritten : written = { bytes := content' } := Except.ok.inj (hp.write.symm.trans hw')
  have hcontent : content = content' := by
    rw [hw'] at hw
    cases hw
    rfl
  subst hwritten
  subst hcontent
  obtain ⟨-, hcont, hbody⟩ := sendable_prepares h hp.block hw hlen'
  exact ⟨garbage, rfl, hcont, hbody⟩

/-- Its wire form has the format. -/
theorem prepared_wire (h : Sendable t msg) {ready : ZdtmMsg} {heap' : Heap}
    (hprepare : zdtmPrepareMessage .littleEndian msg heap = .ok ((0, ready), heap'))
    {content : List UInt8}
    (hw : contentWrite .littleEndian t msg.body.cont = .ok { bytes := content }) :
    wireLayout .littleEndian ready = wireFormat msg.body.type content := by
  obtain ⟨garbage, rfl, hcont, hbody⟩ := prepared_sendable h hprepare hw
  exact wireLayout_exact hcont hbody

/-- A content that fills its block is the raw content of the prepared message. -/
theorem prepared_content {b : Build} (h : Sendable t msg) {ready : ZdtmMsg} {heap' : Heap}
    (hprepare : zdtmPrepareMessage b msg heap = .ok ((0, ready), heap')) {content : List UInt8}
    (hw : contentWrite b t msg.body.cont = .ok { bytes := content }) :
    ready.body.pRawContent = some content := by
  obtain ⟨garbage, rfl, hcont, -⟩ := prepared_sendable h hprepare hw
  simp only [preparedMessage, withRaw, hcont, filledBlock_exact]

theorem wireFormat_injective {type type' : MsgType} {content content' : List UInt8}
    (h : wireFormat type content = wireFormat type' content') :
    type = type' ∧ content = content' := by
  have hlen : content.length = content'.length := by
    have hwire := congrArg List.length h
    simp only [wireFormat, List.length_append, length_bytes, List.Vector.toList_length] at hwire
    omega
  obtain ⟨hfront, -⟩ := List.append_inj h (by simp [hlen])
  obtain ⟨-, hbody⟩ := List.append_inj hfront (by simp)
  obtain ⟨htype, hcontent⟩ := List.append_inj hbody (by simp)
  exact ⟨Subtype.ext htype, hcontent⟩

end Format

section Injective

variable {t : DesktopType} {c c' : SpecTypeContent} {content : List UInt8}

theorem syncIdsWrite_injective {s s' : UInt8} {n n' : UInt16} {i i' : UInt32}
    (h : syncIdsWrite .littleEndian s n i = syncIdsWrite .littleEndian s' n' i') :
    s = s' ∧ n = n' ∧ i = i' := by
  simp only [syncIdsWrite, putShort_eq] at h
  have henc : ((Codec.u8.pair Codec.u16).pair Codec.u32).encode ((s, n), i) =
      ((Codec.u8.pair Codec.u16).pair Codec.u32).encode ((s', n'), i') := h
  have heq := Codec.encode_injective _ henc
  simp only [Prod.mk.injEq, and_assoc] at heq
  exact heq

theorem zdtmRmsWrite_injective {rms rms' : RmsMsgContent} (hle : rms.logSize.toNat ≤ 38)
    (hle' : rms'.logSize.toNat ≤ 38)
    (h : zdtmRmsWrite .littleEndian rms = zdtmRmsWrite .littleEndian rms') :
    rms.logSize = rms'.logSize ∧
      rms.log.toList.take rms.logSize.toNat = rms'.log.toList.take rms.logSize.toNat := by
  rw [zdtmRmsWrite_of_le _ hle, zdtmRmsWrite_of_le _ hle', Written.mk.injEq] at h
  obtain ⟨hbytes, -⟩ := h
  rw [List.append_assoc, List.append_assoc] at hbytes
  obtain ⟨hsize, hrest⟩ := Codec.encode_append_inj Codec.u16 hbytes
  rw [← hsize] at hrest
  exact ⟨hsize, (List.append_inj hrest (by simp)).1⟩

theorem plain_injective : Function.Injective plain := by
  intro xs ys h
  simpa [plain] using h

/-- Contents with the same bytes are the same content. -/
theorem contentWrite_injective (hrdw : t ≠ .rdw) (hlog : t = .rms → c.rms.logSize.toNat ≤ 38)
    (hlog' : t = .rms → c'.rms.logSize.toNat ≤ 38)
    (hw : contentWrite .littleEndian t c = .ok { bytes := content })
    (hw' : contentWrite .littleEndian t c' = .ok { bytes := content }) : SameContent t c c' := by
  have hr := contentWrite_ok_iff.mp ⟨_, hw⟩
  have hr' := contentWrite_ok_iff.mp ⟨_, hw'⟩
  have h := hw.trans hw'.symm
  cases t with
  | rrl =>
    rw [contentWrite, contentWrite, zdtmRrlWrite_of_le hr, zdtmRrlWrite_of_le hr'] at h
    obtain ⟨hsize, hpw⟩ := List.cons_eq_cons.mp (plain_injective h)
    rw [← hsize] at hpw
    exact ⟨hsize, hpw⟩
  | rge =>
    rw [contentWrite, contentWrite, zdtmRgeWrite_of_le _ hr, zdtmRgeWrite_of_le _ hr'] at h
    obtain ⟨hlen, hpath⟩ := Codec.encode_append_inj Codec.u16 (plain_injective h)
    rw [← hlen] at hpath
    exact ⟨hlen, hpath⟩
  | rms => exact zdtmRmsWrite_injective (hlog rfl) (hlog' rfl) (Except.ok.inj h)
  | rdr => exact (RdrMsgContent.mk.injEq ..).mpr (syncIdsWrite_injective (plain_injective h))
  | rdd => exact (RddMsgContent.mk.injEq ..).mpr (syncIdsWrite_injective (plain_injective h))
  | rts => exact congrArg RtsMsgContent.mk (Subtype.ext (plain_injective h))
  | rqt => exact congrArg RqtMsgContent.mk (Subtype.ext (plain_injective h))
  | rds =>
    obtain ⟨hbytes, hnull⟩ := List.append_inj (plain_injective h) rfl
    simp only [List.cons.injEq, and_true] at hbytes
    exact (RdsMsgContent.mk.injEq ..).mpr ⟨hbytes.1, hbytes.2, Subtype.ext hnull⟩
  | rmg =>
    have hbytes := plain_injective h
    simp only [zdtmRmgWrite, List.cons.injEq, and_true] at hbytes
    exact (RmgMsgContent.mk.injEq ..).mpr hbytes
  | rdi =>
    have hbytes := plain_injective h
    simp only [zdtmRdiWrite, List.cons.injEq, and_true] at hbytes
    exact (RdiMsgContent.mk.injEq ..).mpr hbytes
  | rsy =>
    have hbytes := plain_injective h
    simp only [zdtmRsyWrite, List.cons.injEq, and_true] at hbytes
    exact (RsyMsgContent.mk.injEq ..).mpr hbytes
  | rss =>
    have hbytes := plain_injective h
    simp only [zdtmRssWrite, List.cons.injEq, and_true] at hbytes
    exact (RssMsgContent.mk.injEq ..).mpr hbytes
  | rlr =>
    have hbytes := plain_injective h
    simp only [zdtmRlrWrite, List.cons.injEq, and_true] at hbytes
    exact congrArg RlrMsgContent.mk hbytes
  | rdw => exact absurd rfl hrdw
  | ray => trivial
  | rig => trivial
  | rtg => trivial

end Injective

/-- A well-formed message is built in the wire format, with the content that its
writer wrote, and no other well-formed message is built as the same bytes. -/
theorem wire_format (t t' : DesktopType) (msg msg' : ZdtmMsg) (heap heap' : Heap)
    (h : Sendable t msg) (h' : Sendable t' msg') (hu : heap.Unlimited) (hu' : heap'.Unlimited) :
    (∃ content prepared, contentWrite .littleEndian t msg.body.cont = .ok { bytes := content } ∧
      zdtmPrepareMessage .littleEndian msg heap = .ok ((0, prepared), heap.next) ∧
      prepared.contSize.toNat = content.length ∧
      BuildsWire .littleEndian msg heap (wireFormat msg.body.type content)) ∧
    ∀ wire, BuildsWire .littleEndian msg heap wire → BuildsWire .littleEndian msg' heap' wire →
      t = t' ∧ SameContent t msg.body.cont msg'.body.cont := by
  obtain ⟨content, hw, hlen⟩ := sendable_written .littleEndian h
  obtain ⟨content', hw', hlen'⟩ := sendable_written .littleEndian h'
  have hbuild := buildsWire_sendable h hu hw hlen
  have hbuild' := buildsWire_sendable h' hu' hw' hlen'
  constructor
  · obtain ⟨garbage, hsome⟩ := hu.exists_block
    obtain ⟨hp, hcont, -⟩ := sendable_prepares h hsome hw hlen
    exact ⟨content, _, hw, prepare_ok hp, hcont, hbuild⟩
  · intro wire hwire hwire'
    have heq : wireFormat msg.body.type content = wireFormat msg'.body.type content' :=
      (buildsWire_unique hbuild hwire).trans (buildsWire_unique hwire' hbuild')
    obtain ⟨htype, hcontent⟩ := wireFormat_injective heq
    rw [desktopType_some h.type, desktopType_some h'.type] at htype
    have htt := DesktopType.bytes_injective htype
    subst htt
    subst hcontent
    exact ⟨rfl, contentWrite_injective h.other h.log h'.log hw hw'⟩

/-- A log of three bytes and a passcode of two. -/
def logMsg : ZdtmMsg where
  body := { type := DesktopType.rms.bytes, cont := { rms := { logSize := 3 } } }

def passcodeMsg : ZdtmMsg where
  body := {
    type := DesktopType.rrl.bytes
    cont := { rrl := { pwSize := 2, pw := some [0x34, 0x32] } } }

theorem logMsg_sendable : Sendable .rms logMsg where
  type := desktopType_bytes .rms
  other := by decide
  raw := rfl
  log _ := by decide
  path h := by cases h
  readable := trivial

theorem passcodeMsg_sendable : Sendable .rrl passcodeMsg where
  type := desktopType_bytes .rrl
  other := by decide
  raw := rfl
  log h := by cases h
  path h := by cases h
  readable := Nat.le_refl 2

theorem wire_format_log :
    (∃ content prepared, contentWrite .littleEndian .rms logMsg.body.cont =
        .ok { bytes := content } ∧
      zdtmPrepareMessage .littleEndian logMsg (Heap.filled 0) =
        .ok ((0, prepared), (Heap.filled 0).next) ∧
      prepared.contSize.toNat = content.length ∧
      BuildsWire .littleEndian logMsg (Heap.filled 0) (wireFormat logMsg.body.type content)) ∧
    ∀ wire, BuildsWire .littleEndian logMsg (Heap.filled 0) wire →
      BuildsWire .littleEndian passcodeMsg (Heap.filled 1) wire →
      DesktopType.rms = .rrl ∧ SameContent .rms logMsg.body.cont passcodeMsg.body.cont :=
  wire_format .rms .rrl logMsg passcodeMsg (Heap.filled 0) (Heap.filled 1) logMsg_sendable
    passcodeMsg_sendable (Heap.filled_unlimited 0) (Heap.filled_unlimited 1)

end ZdtmWireFormat
