import ZdtmSync.Chunked
import ZdtmSync.Msgs

/-!
# Sending and receiving

The part of `zdtm_net.c` that moves messages over a connection. The world holds
the heap, what the peer has sent and will send, cut into the chunks in which
`recv` delivers it, the answers of `send` to come, and a trace of every byte
that crossed a socket. What is written to the log file is left out here: nothing
depends on it.
-/

namespace ZdtmNet

open LittleEndian CMemory ZdtmTypes ZdtmCommon ZdtmMsgs

inductive Sock where
  | connfd | reqfd
  deriving DecidableEq, Repr

inductive Io where
  | sent (sockfd : Sock) (byte : UInt8)
  | received (byte : UInt8)
  deriving DecidableEq, Repr

abbrev Count := { n : Nat // 0 < n }

/-- One return of `send`; after the last one every byte is accepted. -/
inductive SendEvent where
  | accepts (count : Count)
  | error
  deriving DecidableEq

structure World where
  heap : Heap
  inbox : List (Chunked.Event UInt8)
  sends : List SendEvent := []
  trace : List Io := []

abbrev Sys := StateT World (Except Fault)

section Sys

variable {α β : Type}

def mem (x : Mem α) : Sys α := fun w =>
  match x w.heap with
  | .ok (a, heap) => .ok (a, { w with heap })
  | .error f => .error f

theorem mem_ok {x : Mem α} {w : World} {a : α} {heap : Heap} (h : x w.heap = .ok (a, heap)) :
    mem x w = .ok (a, { w with heap }) := by
  simp only [mem, h]

@[simp] theorem mem_static_ok (a : α) (w : World) : mem (static (.ok a)) w = .ok (a, w) := rfl

@[simp] theorem mem_static_error (f : Fault) (w : World) :
    mem (static (.error f : Except Fault α)) w = .error f := rfl

@[simp] theorem pure_run (a : α) (w : World) : (pure a : Sys α) w = .ok (a, w) := rfl

theorem bind_ok {x : Sys α} {f : α → Sys β} {w w' : World} {a : α} (h : x w = .ok (a, w')) :
    (x >>= f) w = f a w' := by
  change (x w).bind (fun r => f r.1 r.2) = f a w'
  rw [h]
  rfl

theorem bind_error {x : Sys α} {f : α → Sys β} {w : World} {e : Fault} (h : x w = .error e) :
    (x >>= f) w = .error e := by
  change (x w).bind (fun r => f r.1 r.2) = .error e
  rw [h]
  rfl

theorem bind_inv {x : Sys α} {f : α → Sys β} {w w'' : World} {c : β}
    (h : (x >>= f) w = .ok (c, w'')) : ∃ a w', x w = .ok (a, w') ∧ f a w' = .ok (c, w'') := by
  cases hx : x w with
  | error e =>
    rw [bind_error hx] at h
    cases h
  | ok r =>
    rw [bind_ok hx] at h
    exact ⟨r.1, r.2, rfl, h⟩

theorem mem_inv {x : Mem α} {w w' : World} {a : α} (h : mem x w = .ok (a, w')) :
    ∃ heap, x w.heap = .ok (a, heap) ∧ w' = { w with heap } := by
  cases hx : x w.heap with
  | error e =>
    simp only [mem, hx] at h
    cases h
  | ok r =>
    rw [mem_ok hx] at h
    cases h
    exact ⟨r.2, rfl, rfl⟩

theorem mem_static_inv {x : Except Fault α} {w w' : World} {a : α}
    (h : mem (static x) w = .ok (a, w')) : x = .ok a ∧ w' = w := by
  cases x with
  | error f => cases h
  | ok c =>
    cases h
    exact ⟨rfl, rfl⟩

end Sys

/-- The world has the arrivals of one connection, so there is no descriptor. -/
def recv (n : Nat) : Sys (Except Chunked.Stop (List UInt8)) := fun w =>
  match Chunked.read n w.inbox with
  | (.ok chunk, inbox) =>
    .ok (.ok chunk, { w with inbox, trace := w.trace ++ chunk.map .received })
  | (.error stop, inbox) => .ok (.error stop, { w with inbox })

/-- What a read that obtains nothing makes the function return. -/
def stopCode (tot : Nat) : Chunked.Stop → Int
  | .closed => if tot = 0 then -1 else -2
  | .error => -3

/-- The loop that reads until `tot_bytes_read` is `bytes_to_read`. -/
def recvLoop (tot need : Nat) : Sys (Except Int (List UInt8)) := fun w =>
  let r := Chunked.readExact (need - tot) w.inbox
  let w' := { w with inbox := r.2, trace := w.trace ++ r.1.1.map .received }
  match r.1.2 with
  | none => .ok (.ok r.1.1, w')
  | some stop => .ok (.error (stopCode (tot + r.1.1.length) stop), w')

/-- The loop equation of the source: one `recv` for what is missing, then the
loop again. -/
theorem recvLoop_step (tot need : Nat) :
    recvLoop tot need =
      if tot < need then do
        match ← recv (need - tot) with
        | .error stop => return .error (stopCode tot stop)
        | .ok chunk =>
          match ← recvLoop (tot + chunk.length) need with
          | .ok rest => return .ok (chunk ++ rest)
          | .error code => return .error code
      else return .ok [] := by
  funext w
  by_cases hlt : tot < need
  · rw [if_pos hlt]
    have hstep := Chunked.readExact_step (need - tot) (by omega) w.inbox
    cases hread : Chunked.read (need - tot) w.inbox with
    | mk got inbox =>
      rw [hread] at hstep
      cases got with
      | error stop =>
        have hrecv : recv (need - tot) w = .ok (.error stop, { w with inbox }) := by
          simp only [recv, hread]
        rw [bind_ok hrecv]
        simp [recvLoop, hstep]
      | ok chunk =>
        have hrecv : recv (need - tot) w =
            .ok (.ok chunk, { w with inbox, trace := w.trace ++ chunk.map .received }) := by
          simp only [recv, hread]
        rw [bind_ok hrecv]
        have hsub : need - (tot + chunk.length) = need - tot - chunk.length := by omega
        cases hr : Chunked.readExact (need - tot - chunk.length) inbox with
        | mk r inbox' =>
          obtain ⟨rest, stop⟩ := r
          simp only [hr] at hstep
          have hloop : recvLoop (tot + chunk.length) need
              { w with inbox, trace := w.trace ++ chunk.map .received } =
              .ok (match stop with
                | none => .ok rest
                | some stop => .error (stopCode (tot + (chunk.length + rest.length)) stop),
                { w with
                  inbox := inbox'
                  trace := w.trace ++ chunk.map .received ++ rest.map .received }) := by
            cases stop <;> simp only [recvLoop, hsub, hr, Nat.add_assoc]
          refine Eq.trans ?_ (bind_ok hloop).symm
          cases stop <;> simp [recvLoop, hstep]
  · rw [if_neg hlt]
    have hz : need - tot = 0 := by omega
    simp [recvLoop, hz]

/-- A stream that holds what is missing gives exactly that, however it is cut,
and ends as it did. -/
theorem recvLoop_enough {tot need : Nat} {w : World} {got rest : List UInt8}
    (hlen : got.length = need - tot) (h : Chunked.available w.inbox = got ++ rest) :
    ∃ inbox, Chunked.available inbox = rest ∧ Chunked.ending inbox = Chunked.ending w.inbox ∧
      recvLoop tot need w =
        .ok (.ok got, { w with inbox, trace := w.trace ++ got.map .received }) := by
  have hle : need - tot ≤ (Chunked.available w.inbox).length := by
    rw [h, List.length_append]
    omega
  obtain ⟨hgot, havail, hending⟩ := Chunked.readExact_enough (need - tot) w.inbox hle
  rw [h, ← hlen, List.take_left'] at hgot
  · refine ⟨(Chunked.readExact (need - tot) w.inbox).2, ?_, hending, ?_⟩
    · rw [havail, h, ← hlen, List.drop_left]
    · rw [hlen] at hgot
      simp only [recvLoop, hgot]
  · rfl

theorem recvLoop_append {tot need : Nat} {w : World} {got rest : List UInt8}
    (hlen : got.length = need - tot) (h : Chunked.available w.inbox = got ++ rest) :
    ∃ inbox, Chunked.available inbox = rest ∧
      recvLoop tot need w =
        .ok (.ok got, { w with inbox, trace := w.trace ++ got.map .received }) := by
  obtain ⟨inbox, havail, -, hrun⟩ := recvLoop_enough hlen h
  exact ⟨inbox, havail, hrun⟩

/-- A stream that ends too early makes the loop return the code of its ending. -/
theorem recvLoop_short {tot need : Nat} {w : World}
    (h : (Chunked.available w.inbox).length < need - tot) :
    ∃ inbox, recvLoop tot need w =
      .ok (.error (stopCode (tot + (Chunked.available w.inbox).length)
        (Chunked.ending w.inbox)),
        { w with
          inbox, trace := w.trace ++ (Chunked.available w.inbox).map .received }) := by
  have hshort := Chunked.readExact_short (need - tot) w.inbox h
  refine ⟨(Chunked.readExact (need - tot) w.inbox).2, ?_⟩
  simp only [recvLoop, hshort]

/-- `memcpy` into an array. -/
def copyBytes (n : Nat) (src : List UInt8) : Except Fault (Bytes n) :=
  if h : n ≤ src.length then .ok ⟨src.take n, List.length_take_of_le h⟩ else .error .overread

/-- How the part of `_zdtm_recv_message` before the parsing ends: it returns,
or it has filled in everything but the parsed content. -/
inductive Framed where
  | returned (code : Int) (p : Option ZdtmMsg)
  | received (msg : ZdtmMsg)
  deriving DecidableEq

/-- From the complete frame on: the checks of the message, the copies out of the
temporary buffer and the content size. -/
def fillMessage (b : Build) (p : Option ZdtmMsg) (header buff : List UInt8) (bodySize : UInt16) :
    Sys Framed := do
  let checkSum := getShort b (buff.drop bodySize.toNat)
  match p with
  | none => return .returned (-5) none
  | some msg =>
    if msg.body.pRawContent ≠ none then return .returned (-6) p
    let header ← mem (static (copyBytes msgHdrSize header))
    let type ← mem (static (copyBytes msgTypeSize buff))
    let contSize := bodySize - UInt16.ofNat msgTypeSize
    let msg := { msg with header, bodySize, contSize, body := { msg.body with type } }
    if contSize = 0 then return .received { msg with checkSum }
    match ← mem (malloc contSize.toNat) with
    | none => return .returned retMemContent (some msg)
    | some _ =>
      let content ← mem (static (load (some (buff.drop msgTypeSize)) contSize.toNat))
      return .received { withRaw msg (some content) with checkSum }

/-- The body and the checksum, read into a temporary buffer. -/
def recvBody (b : Build) (p : Option ZdtmMsg) (header : List UInt8) : Sys Framed := do
  let bodySize := getShort b (header.drop msgHdrSize)
  match ← mem (malloc (bodySize.toNat + 2)) with
  | none => return .returned (-4) p
  | some _ =>
    match ← recvLoop 0 (bodySize.toNat + 2) with
    | .error code => return .returned code p
    | .ok buff => fillMessage b p header buff bodySize

/-- The framing part of `_zdtm_recv_message`. -/
def recvFrame (b : Build) (p : Option ZdtmMsg) : Sys Framed := do
  match ← recvLoop 0 comMsgSize with
  | .error code => return .returned code p
  | .ok first =>
    if zdtmIsAckMessage first then return .returned 1 p
    else if zdtmIsRqstMessage first then return .returned 2 p
    else if zdtmIsAbrtMessage first then return .returned 3 p
    else
      match ← recvLoop comMsgSize (msgHdrSize + 2) with
      | .error code => return .returned code p
      | .ok second => recvBody b p (first ++ second)

def zdtmRecvMessage (b : Build) (p : Option ZdtmMsg) : Sys (Int × Option ZdtmMsg) := do
  match ← recvFrame b p with
  | .returned code p => return (code, p)
  | .received msg =>
    let r ← mem (zdtmParseRawMsg b msg)
    return (if r.1 ≠ 0 then retParseRawFail else 0, some r.2)

/-- A peer that is gone is an error: the application ignores SIGPIPE. -/
def send (sockfd : Sock) (buf : List UInt8) : Sys (Option (List UInt8)) := fun w =>
  match w.sends with
  | [] => .ok (some buf, { w with trace := w.trace ++ buf.map (.sent sockfd) })
  | .error :: sends => .ok (none, { w with sends })
  | .accepts count :: sends =>
    .ok (some (buf.take count), { w with
      sends, trace := w.trace ++ (buf.take count).map (.sent sockfd) })

/-- The bytes accepted by a loop that hands the start of the buffer to every
`send`, whether the loop was completed, and the answers it left. -/
def sendPieces (buf : List UInt8) : List SendEvent → Nat → (List UInt8 × Bool) × List SendEvent
  | sends, 0 => (([], true), sends)
  | [], n + 1 => ((buf.take (n + 1), true), [])
  | .error :: sends, _ + 1 => (([], false), sends)
  | .accepts count :: sends, n + 1 =>
    let k := min count.1 (n + 1)
    let r := sendPieces buf sends (n + 1 - k)
    ((buf.take k ++ r.1.1, r.1.2), r.2)

/-- The loop that sends until `tot_bytes_sent` is `bytes_to_send`; `n` is what is
missing. -/
def sendLoop (sockfd : Sock) (buf : List UInt8) (n : Nat) : Sys Bool := fun w =>
  let r := sendPieces buf w.sends n
  .ok (r.1.2, { w with sends := r.2, trace := w.trace ++ r.1.1.map (.sent sockfd) })

@[simp] theorem sendPieces_zero (buf : List UInt8) (sends : List SendEvent) :
    sendPieces buf sends 0 = (([], true), sends) := by
  cases sends <;> rfl

/-- The loop equation of the source: every `send` starts at the buffer's first byte. -/
theorem sendLoop_step (sockfd : Sock) (buf : List UInt8) (n : Nat) (h : n ≤ buf.length) :
    sendLoop sockfd buf n =
      if 0 < n then do
        match ← send sockfd (buf.take n) with
        | none => return false
        | some chunk => sendLoop sockfd buf (n - chunk.length)
      else return true := by
  funext w
  obtain ⟨heap, inbox, sends, trace⟩ := w
  cases n with
  | zero => simp [sendLoop]
  | succ n =>
    rw [if_pos (Nat.succ_pos n)]
    have hmin : min (n + 1) buf.length = n + 1 := by omega
    cases sends with
    | nil =>
      refine Eq.trans ?_ (bind_ok rfl).symm
      simp [sendLoop, sendPieces, hmin]
    | cons e sends =>
      cases e with
      | error =>
        refine Eq.trans ?_ (bind_ok rfl).symm
        simp [sendLoop, sendPieces]
      | accepts count =>
        refine Eq.trans ?_ (bind_ok rfl).symm
        have htake : (buf.take (n + 1)).take count.1 = buf.take (min count.1 (n + 1)) :=
          List.take_take
        have hlen : (buf.take (min count.1 (n + 1))).length = min count.1 (n + 1) := by
          rw [List.length_take]
          omega
        simp only [sendLoop, sendPieces, htake, hlen, List.map_append, List.append_assoc]

def zdtmSendCommMessageTo (sockfd : Sock) (data : Bytes comMsgSize) : Sys Int := do
  if ← sendLoop sockfd data.toList comMsgSize then return 0 else return -1

def zdtmSendAckMessage : Sys Int := zdtmSendCommMessageTo .connfd CommonMsg.ack.bytes
def zdtmSendRqstMessage : Sys Int := zdtmSendCommMessageTo .connfd CommonMsg.rqst.bytes
def zdtmSendAbrtMessage : Sys Int := zdtmSendCommMessageTo .connfd CommonMsg.abrt.bytes

/-- The copies that build the wire message in its block. Body size and checksum
are copied as they lie in memory. -/
def wireMessage (b : Build) (msg : ZdtmMsg) (block : List UInt8) : Except Fault (List UInt8) := do
  let content ← load msg.body.pRawContent msg.contSize.toNat
  store block (msg.header.toList ++ hostShort b msg.bodySize ++ msg.body.type.toList ++
    content ++ hostShort b msg.checkSum)

def zdtmSendMessageTo (b : Build) (msg : ZdtmMsg) (sockfd : Sock) : Sys (Int × ZdtmMsg) := do
  let (retval, msg) ← mem (zdtmPrepareMessage b msg)
  if retval ≠ 0 then return (-1, zdtmCleanMessage msg)
  let msgSize := msgHdrSize + 2 + msg.bodySize.toNat + 2
  match ← mem (malloc msgSize) with
  | none => return (retMallocFail, zdtmCleanMessage msg)
  | some block =>
    let wire ← mem (static (wireMessage b msg block))
    if ← sendLoop sockfd wire msgSize then return (0, zdtmCleanMessage msg)
    else return (-2, zdtmCleanMessage msg)

def zdtmSendMessage (b : Build) (msg : ZdtmMsg) : Sys (Int × ZdtmMsg) :=
  zdtmSendMessageTo b msg .connfd

end ZdtmNet
