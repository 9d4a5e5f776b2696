import ZdtmSync.Consumption

/-!
# Reading back what was sent

Whatever an application calls, what it puts on the connection are whole messages, one
behind the other. The receiver of the library, at the other end of the connection and
on a host of either byte order, takes each of them off the stream again, with its
type, its content and the sum of its bytes.
-/

namespace ZdtmLoopback

open CMemory ZdtmTypes ZdtmMsgs ZdtmNet ZdtmFraming ZdtmReceiving ZdtmSession ZdtmProto ZdtmSending
  ZdtmApi ZdtmKnowledge ZdtmKeeping ZdtmConsumption
open ZdtmWireFormat (wireFormat)

variable {b : Build}

/-- What is sent as a whole. -/
inductive Packet where
  | signal (m : CommonMsg)
  | message (t : DesktopType) (content : List UInt8)

namespace Packet

def bytes : Packet → List UInt8
  | .signal m => m.bytes.toList
  | .message t content => wireFormat t.bytes content

/-- The size of the body is written in two bytes. -/
def Fits : Packet → Prop
  | .signal _ => True
  | .message _ content => msgTypeSize + content.length < 65536

end Packet

theorem sentHeader_length (content : List UInt8) :
    (dmsgHdr.toList.take 9 ++ LittleEndian.bytes 2 content.length ++ dmsgHdr.toList.drop 11).length =
      msgHdrSize := by
  simp [msgHdrSize]

/-- The header that the message is sent with. -/
def sentHeader (content : List UInt8) : Bytes msgHdrSize :=
  ⟨dmsgHdr.toList.take 9 ++ LittleEndian.bytes 2 content.length ++ dmsgHdr.toList.drop 11,
    sentHeader_length content⟩

/-- The message as the other end finds it in its own memory. -/
def framedPacket (t : DesktopType) (content : List UInt8) : ZdtmMsg :=
  framedMsg {} (sentHeader content) t.bytes content (UInt16.ofNat (msgTypeSize + content.length))
    (addBytes 0 (t.bytes.toList ++ content))

/-- What the receiver returns for it: no message of the Desktop is one that it parses. -/
def Packet.result : Packet → Int × Option ZdtmMsg
  | .signal m => (commonCode m, some {})
  | .message t content => (retParseRawFail, some (framedPacket t content))

theorem sentHeader_uncommon (content : List UInt8) : Uncommon (sentHeader content).toList := by
  have hfront : Uncommon (dmsgHdr.toList.take 9) := by
    intro m
    cases m <;> decide
  simp only [sentHeader, List.Vector.toList_mk, List.append_assoc]
  exact (uncommon_append (by decide) _).mpr hfront

theorem zaurusType_desktop (t : DesktopType) : zaurusType t.bytes = none := by
  cases t <;> decide

section Reading

variable {w : World} {rest : List UInt8}

/-- The sum that is sent is the one that the receiver would compute. -/
theorem wireFormat_framed (t : DesktopType) (content : List UInt8) :
    wireFormat t.bytes content = (sentHeader content).toList ++
      LittleEndian.bytes 2 (msgTypeSize + content.length) ++
        (t.bytes.toList ++ (content ++
          LittleEndian.bytes 2 (addBytes 0 (t.bytes.toList ++ content)).toNat)) := by
  rw [toNat_addBytes_zero, Nat.add_comm msgTypeSize]
  simp [wireFormat, sentHeader, msgTypeSize]

theorem recv_packet (p : Packet) (hfits : p.Fits) (hheap : w.heap.Unlimited)
    (h : Chunked.available w.inbox = p.bytes ++ rest) :
    ∃ w', zdtmRecvMessage b (some {}) w = .ok (p.result, w') ∧
      Chunked.available w'.inbox = rest ∧ w'.heap.Unlimited := by
  cases p with
  | signal m => exact recv_common m hheap h
  | message t content =>
    rw [Packet.bytes, wireFormat_framed, List.append_assoc] at h
    obtain ⟨w', hframe, havail, hheap'⟩ := recvFrame_any (b := b) _ _ _ _
      (sentHeader_uncommon content) hfits hheap h
    have hparse : zdtmParseRawMsg b (framedPacket t content) w'.heap =
        .ok ((-255, framedPacket t content), w'.heap) := by
      have htype : zaurusType (framedPacket t content).body.type = none := zaurusType_desktop t
      simp only [zdtmParseRawMsg, htype]
      rfl
    refine ⟨w', ?_, havail, hheap'⟩
    unfold zdtmRecvMessage
    apply (ZdtmNet.bind_ok hframe).trans
    exact ZdtmNet.bind_ok (mem_ok hparse)

/-- One call a packet. -/
theorem recvMany_packets (packets : List Packet) (hfits : ∀ p ∈ packets, p.Fits)
    (hheap : w.heap.Unlimited)
    (h : Chunked.available w.inbox = packets.flatMap Packet.bytes ++ rest) :
    ∃ w', recvMany b packets.length w = .ok (packets.map Packet.result, w') ∧
      Chunked.available w'.inbox = rest := by
  induction packets generalizing w with
  | nil => exact ⟨w, rfl, h⟩
  | cons p packets ih =>
    rw [List.flatMap_cons, List.append_assoc] at h
    obtain ⟨w₁, hfirst, havail, hheap₁⟩ :=
      recv_packet (b := b) p (hfits p List.mem_cons_self) hheap h
    obtain ⟨w₂, hrest, havail'⟩ :=
      ih (fun p hp => hfits p (List.mem_cons_of_mem _ hp)) hheap₁ havail
    refine ⟨w₂, ?_, havail'⟩
    apply (ZdtmNet.bind_ok hfirst).trans
    exact ZdtmNet.bind_ok hrest

end Reading

/-- The type and the content that a message is sent with. -/
def messagePacket (msg : ZdtmMsg) : Option Packet :=
  match desktopType msg.body.type with
  | none => none
  | some t =>
    match contentWrite .littleEndian t msg.body.cont with
    | .error _ => none
    | .ok written => some (.message t written.bytes)

/-- The packet that a call put on the connection. -/
def packet? : Call → Option Packet
  | .recv _ _ => none
  | .comm m r => if r = 0 then some (.signal m) else none
  | .message msg r => if r = 0 then messagePacket msg else none

/-- The packets among the calls. -/
def packets (cs : List Call) : List Packet := cs.filterMap packet?

@[simp] theorem packets_append (cs cs' : List Call) :
    packets (cs ++ cs') = packets cs ++ packets cs' := List.filterMap_append

/-- All bytes that were sent since are those of the packets, and the kernel still takes
whole messages. -/
structure SentWhole (before : List Packet) (bytes : List UInt8) (w : World) (cs : List Call) :
    Prop where
  sends : w.sends = []
  packets : ∃ new, packets cs = before ++ new ∧ (∀ p ∈ new, p.Fits) ∧
    bytesSent w.trace = bytes ++ new.flatMap Packet.bytes

section Kept

variable {before : List Packet} {bytes : List UInt8} {w w' : World} {cs : List Call}

/-- A call that sends no packet. -/
theorem sent_nothing (hw : SentWhole before bytes w cs) {call : Call} (hnone : packet? call = none)
    (hsends : w'.sends = w.sends) (hsame : bytesSent w'.trace = bytesSent w.trace) :
    SentWhole before bytes w' (cs ++ [call]) := by
  obtain ⟨hwhole, new, hnew, hfits, hbytes⟩ := hw
  refine ⟨hsends.trans hwhole, new, ?_, hfits, hsame.trans hbytes⟩
  rw [packets_append, hnew]
  simp [packets, hnone]

/-- A call that sends its packet. -/
theorem sent_packet (hw : SentWhole before bytes w cs) {call : Call} {p : Packet}
    (hsome : packet? call = some p) (hfit : p.Fits) (hsends : w'.sends = [])
    (hmore : bytesSent w'.trace = bytesSent w.trace ++ p.bytes) :
    SentWhole before bytes w' (cs ++ [call]) := by
  obtain ⟨-, new, hnew, hfits, hbytes⟩ := hw
  refine ⟨hsends, new ++ [p], ?_, ?_, ?_⟩
  · rw [packets_append, hnew, List.append_assoc]
    simp [packets, hsome]
  · exact List.forall_mem_append.mpr ⟨hfits, List.forall_mem_singleton.mpr hfit⟩
  · rw [hmore, hbytes, List.flatMap_append, List.append_assoc]
    simp

theorem sent_received {r : Int} {p : Option ZdtmMsg} (hw : SentWhole before bytes w cs)
    (hrun : zdtmRecvMessage .littleEndian (some {}) w = .ok ((r, p), w')) :
    SentWhole before bytes w' (cs ++ [.recv r (p.getD {})]) ∧
      (r = 0 → ∃ f : Frame .littleEndian, True ∧ p = some f.msg) := by
  obtain ⟨got, htakes, hreceived⟩ := recv_takes hrun
  constructor
  · apply sent_nothing hw rfl htakes.sends
    simp [htakes.trace]
  · rintro rfl
    generalize hcode : (0 : Int) = code at hreceived
    cases hreceived with
    | common m htook hstream => cases m <;> cases hcode
    | general f htook hstream => exact ⟨f, trivial, rfl⟩
    | failed code p hneg => omega

theorem sent_signalled {m : CommonMsg} {r : Int} (hw : SentWhole before bytes w cs)
    (hrun : zdtmSendCommMessageTo .connfd m.bytes w = .ok (r, w')) :
    SentWhole before bytes w' (cs ++ [.comm m r]) := by
  rw [sendComm_whole .connfd m.bytes hw.sends] at hrun
  obtain ⟨rfl, rfl⟩ := Prod.mk.inj (Except.ok.inj hrun)
  have hmore : bytesSent (w.trace ++ m.bytes.toList.map (.sent .connfd)) =
      bytesSent w.trace ++ (Packet.signal m).bytes := by
    simp [Packet.bytes]
  exact sent_packet hw (p := .signal m) rfl trivial hw.sends hmore

section Messages

variable {t : DesktopType} {cont : SpecTypeContent} {r : Int × ZdtmMsg}

theorem sent_message (hw : SentWhole before bytes w cs)
    (hproper : ZdtmWireFormat.Sendable t (desktopMsg t cont))
    (hrun : zdtmSendMessageTo .littleEndian (desktopMsg t cont) .connfd w = .ok (r, w')) :
    SentWhole before bytes w' (cs ++ [.message (desktopMsg t cont) r.1]) := by
  obtain ⟨code, sent⟩ := r
  obtain ⟨content, hwrite, hlen⟩ := ZdtmWireFormat.sendable_written .littleEndian hproper
  have hle := (ZdtmWireFormat.contentLength_le hproper).2
  obtain ⟨hsends, io, htrace, hfailed, hdone⟩ := sendMessage_whole hw.sends hrun
  by_cases hcode : code = 0
  · obtain ⟨ready, heap, heap', hprepare, rfl⟩ := hdone hcode
    have hpacket : packet? (.message (desktopMsg t cont) code) = some (.message t content) := by
      simp only [packet?, if_pos hcode, messagePacket, hproper.type, hwrite]
    have hfit : (Packet.message t content).Fits := by
      change 3 + content.length < 65536
      omega
    apply sent_packet hw hpacket hfit hsends
    rw [htrace, bytesSent_append, bytesSent_sent,
      ZdtmWireFormat.prepared_wire hproper hprepare hwrite]
    rfl
  · have hnone : packet? (.message (desktopMsg t cont) code) = none := if_neg hcode
    apply sent_nothing hw hnone (hsends.trans hw.sends.symm)
    rw [htrace, hfailed hcode, List.append_nil]

/-- What goes to the Zaurus over the other socket. -/
theorem sent_request (hw : SentWhole before bytes w cs)
    (_ : ZdtmWireFormat.Sendable t (desktopMsg t cont))
    (hrun : zdtmSendMessageTo .littleEndian (desktopMsg t cont) .reqfd w = .ok (r, w')) :
    SentWhole before bytes w' cs := by
  obtain ⟨code, sent⟩ := r
  obtain ⟨hsends, io, htrace, hfailed, hdone⟩ := sendMessage_whole hw.sends hrun
  have hsilent : bytesSent io = [] := by
    by_cases hcode : code = 0
    · obtain ⟨ready, heap, heap', -, rfl⟩ := hdone hcode
      simp [bytesSent, sentByte]
    · rw [hfailed hcode]
      rfl
  obtain ⟨-, new, hnew, hfits, hbytes⟩ := hw
  refine ⟨hsends, new, hnew, hfits, ?_⟩
  rw [htrace, bytesSent_append, hsilent, List.append_nil, hbytes]

end Messages

theorem sent_allocated {heap : Heap} (hw : SentWhole before bytes w cs)
    (_ : w.heap.Unlimited → heap.Unlimited) : SentWhole before bytes { w with heap } cs :=
  ⟨hw.sends, hw.packets⟩

end Kept

/-- The kernel takes whole messages. -/
def wholeSends (before : List Packet) (bytes : List UInt8) (home : Option CString) :
    Knowledge .littleEndian where
  home
  given _ := True
  known := SentWhole before bytes
  genuine _ := True
  allows _ := True
  received := sent_received
  signalled := sent_signalled
  sent hw _ := sent_message hw
  requested := sent_request
  allocated := sent_allocated

instance wholeSends_speaks (before : List Packet) (bytes : List UInt8) (home : Option CString) :
    Speaks (wholeSends before bytes home) where
  allows _ _ := trivial

/-- What a run sends is read back packet by packet, on a host of any byte order. -/
theorem run_reads_back (calls : List ApiCall) {s s' : State} {r : Except Fault (List Outcome)}
    (hsends : s.world.sends = []) (hrun : runLive .littleEndian false calls s = (r, s')) :
    ∃ new, packets (recordedCalls s') = packets (recordedCalls s) ++ new ∧
      bytesSent s'.world.trace = bytesSent s.world.trace ++ new.flatMap Packet.bytes ∧
      ∀ (b : Build) (w : World) (rest : List UInt8), w.heap.Unlimited →
        Chunked.available w.inbox = new.flatMap Packet.bytes ++ rest →
        ∃ w', recvMany b new.length w = .ok (new.map Packet.result, w') ∧
          Chunked.available w'.inbox = rest := by
  have hnothing : SentWhole (packets (recordedCalls s)) (bytesSent s.world.trace) s.world
      (recordedCalls s) :=
    ⟨hsends, [], (List.append_nil _).symm, List.forall_mem_nil _, (List.append_nil _).symm⟩
  have hknows : Knows (wholeSends (packets (recordedCalls s)) (bytesSent s.world.trace)
      s.host.home) AnyFormat s := ⟨rfl, hnothing, trivial⟩
  obtain ⟨-, new, hnew, hfits, hbytes⟩ :=
    (runLive_knows trivial (fun _ _ => trivial) (fun call _ => anyFormat_stable call) hknows hrun).world
  refine ⟨new, hnew, hbytes, ?_⟩
  intro b w rest hheap h
  exact recvMany_packets new hfits hheap h

/-- The RIG message, the request for its answer and the acknowledgement, on a host of the
other byte order. -/
theorem run_reads_back_info : ∃ new, new.length = 3 ∧
    packets (recordedCalls (runLive .littleEndian false infoApp infoState).2) = new ∧
    ∀ (w : World) (rest : List UInt8), w.heap.Unlimited →
      Chunked.available w.inbox = new.flatMap Packet.bytes ++ rest →
      ∃ w', recvMany .bigEndian new.length w = .ok (new.map Packet.result, w') ∧
        Chunked.available w'.inbox = rest := by
  have hthree : (packets (recordedCalls
      (runLive .littleEndian false infoApp infoState).2)).length = 3 := by
    decide +kernel
  obtain ⟨new, hnew, -, hread⟩ := run_reads_back infoApp (s := infoState) rfl (Prod.eta _).symm
  have hall : packets (recordedCalls (runLive .littleEndian false infoApp infoState).2) = new := hnew
  rw [hall] at hthree
  exact ⟨new, hthree, hall, hread .bigEndian⟩

end ZdtmLoopback
