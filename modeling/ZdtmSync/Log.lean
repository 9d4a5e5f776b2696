import ZdtmSync.Decimals
import ZdtmSync.Programs

/-!
# The dump of a message

`_zdtm_dump_msg_log` writes a message to the log in a readable form: every line
is put together in a buffer of 256 characters, and the raw content is cut into
lines of fifteen bytes. The local variables of the function are part of the
state. A state also records, for the statements only, which bytes of the raw
content were read, which texts were written, and how full the buffer ever was.
-/

namespace ZdtmLog

open CMemory Programs Loops ZdtmTypes ZdtmProto ZdtmDecimals

def text (s : String) : List UInt8 := s.toList.map fun c => UInt8.ofNat c.toNat

/-- `%.{width}x` of an `unsigned int`. -/
def hexadecimal (width n : Nat) : List UInt8 :=
  ((Nat.toDigits 16 n).map fun c => UInt8.ofNat c.toNat).leftpad width 0x30

/-- `0x%.2x `. -/
def hexByte (byte : UInt8) : List UInt8 := text "0x" ++ hexadecimal 2 byte.toNat ++ text " "

/-- The bytes of the type are `unsigned char`s: `%x` prints them as they are. -/
def typeText (type : MsgType) : List UInt8 :=
  text "Type \t\t(ASCII): " ++ type.toList ++ text " \t\t(Hex):" ++
    type.toList.flatMap (fun c => text " 0x" ++ hexadecimal 1 c.toNat) ++ text "\n"

/-- `%.3d: `. -/
def label (i : Nat) : List UInt8 := decimal 3 i ++ text ": "

/-- A value with its name, in both bases. -/
def valueText (name : String) (value : UInt16) : List UInt8 :=
  text name ++ text " \t(Base 10): " ++ decimal 5 value.toNat ++ text " \t(Hex): 0x" ++
    hexadecimal 4 value.toNat ++ text "\n"

/-- How `fwrite` and `fflush` end; a short write takes only `count` bytes. -/
inductive WriteAnswer where
  | complete
  | short (count : Nat)
  | unflushed
  deriving DecidableEq

inductive LogEvent where
  | read (index : Nat)
  | wrote (text : List UInt8)
  deriving DecidableEq

/-- The way out of the function before its end. -/
inductive Exit where
  | returned (code : Int)
  | faulted (f : Fault)
  | unfinished

abbrev buffSize : Nat := 256

/-- The log, with the answers of the writes to come (after the last one they are
complete), and the local variables. -/
structure Dump where
  logfp : Option Nat
  answers : List WriteAnswer := []
  buff : Bytes buffSize
  buffBytes : Nat := 0
  i : Nat := 0
  j : Nat := 0
  events : List LogEvent := []
  peak : Nat := 0

abbrev Dumping (α : Type) := Program Dump Exit α

def leave {α : Type} (code : Int) : Dumping α := fun s => (.error (.returned code), s)

def check {α : Type} (x : Except Fault α) : Dumping α := fun s =>
  match x with
  | .ok a => (.ok a, s)
  | .error f => (.error (.faulted f), s)

def zdtmWriteLog (buff : List UInt8) (size : Nat) : Dumping Int := do
  let s ← Program.get
  if s.logfp = none then return -1
  let bytes ← check (load (some buff) size)
  match s.answers with
  | .short count :: answers =>
    Program.modify fun s => { s with answers, events := s.events ++ [.wrote (bytes.take count)] }
    if count < size then return -2
    return 0
  | .unflushed :: answers =>
    Program.modify fun s => { s with answers, events := s.events ++ [.wrote bytes] }
    return -3
  | answers =>
    Program.modify fun s =>
      { s with answers := answers.tail, events := s.events ++ [.wrote bytes] }
    return 0

/-- Put bytes into an array from `off` on. -/
def overwrite {n : Nat} (dst : Bytes n) (off : Nat) (src : List UInt8) : Except Fault (Bytes n) :=
  if h : off + src.length ≤ n then
    .ok ⟨dst.toList.take off ++ src ++ dst.toList.drop (off + src.length), by
      simp only [List.length_append, List.length_take, List.length_drop, List.Vector.toList_length]
      omega⟩
  else .error .overrun

/-- `snprintf(buff + off, size, ...)`: as much of the text as there is room for, and
a NUL. The size is negative, and then a large `size_t`, if the buffer is overfull. -/
def snprintf (off : Nat) (size : Int) (chars : List UInt8) : Dumping Int := do
  let room := (size % 2 ^ 64).toNat
  let s ← Program.get
  let buff ← check (if room = 0 then .ok s.buff
    else overwrite s.buff off (chars.take (room - 1) ++ [0]))
  Program.modify fun s => { s with buff, peak := max s.peak (off + chars.length) }
  return chars.length

/-- A call of `snprintf` with the checks behind it. Where a byte is printed, a full
buffer also gets a NUL at its end, which nothing reads any more. -/
def print (off : Nat) (chars : List UInt8) : Dumping Nat := do
  let retval ← snprintf off (buffSize - off) chars
  if retval = -1 then leave (-1)
  else if retval = buffSize then leave (-2)
  else return retval.toNat

/-- Print to the start of the buffer, from where `buff_bytes` counts. -/
def start (chars : List UInt8) : Dumping Unit := do
  let retval ← print 0 chars
  Program.modify fun s => { s with buffBytes := s.buffBytes + retval }

/-- Print behind what is in the buffer. -/
def append (chars : List UInt8) : Dumping Unit := do
  let s ← Program.get
  let retval ← print s.buffBytes chars
  Program.modify fun s => { s with buffBytes := s.buffBytes + retval }

def writeBuff (size : Nat) : Dumping Unit := do
  let s ← Program.get
  let retval ← zdtmWriteLog s.buff.toList size
  if retval ≠ 0 then leave (-3) else return ()

/-- A line of its own, which does not go through `buff_bytes`. -/
def writeLine (chars : List UInt8) : Dumping Unit := do
  let retval ← print 0 chars
  writeBuff retval

def writeFilled : Dumping Unit := do
  let s ← Program.get
  writeBuff s.buffBytes

/-- The buffer is written and is empty again. -/
def flush : Dumping Unit := do
  writeFilled
  Program.modify fun s => { s with buffBytes := 0 }

def byteAt (bytes : List UInt8) (index : Nat) : Except Fault UInt8 :=
  match bytes[index]? with
  | some byte => .ok byte
  | none => .error .overread

def readContent (p : Ptr) (index : Nat) : Dumping UInt8 := do
  Program.modify fun s => { s with events := s.events ++ [.read index] }
  check (byteAt p.target index)

/-- One pass of a loop over the raw content. -/
def dumpByte (p : Ptr) : Dumping Unit := do
  let s ← Program.get
  let byte ← readContent p s.j
  append (hexByte byte)
  Program.modify fun s => { s with j := s.j + 1 }

/-- The two branches differ only in where the line stops. -/
def dumpLine (fuel : Nat) (p : Ptr) (stop : Nat) : Dumping Unit := do
  let s ← Program.get
  append (label s.i)
  Program.modify fun s => { s with j := s.i }
  repeatWhile .unfinished (fun s => s.j < stop) (dumpByte p) fuel
  append (text "\n")
  Program.modify fun s => { s with i := s.j }

def dumpLines (fuel : Nat) (msg : ZdtmMsg) : Dumping Unit := do
  let s ← Program.get
  let contSize := msg.contSize.toNat
  if contSize - s.i ≥ 15 then dumpLine fuel msg.body.pRawContent (s.i + 15)
  else dumpLine fuel msg.body.pRawContent contSize
  flush

def dumpHeaderByte (header : Bytes msgHdrSize) : Dumping Unit := do
  let s ← Program.get
  let byte ← check (byteAt header.toList s.i)
  append (hexByte byte)
  Program.modify fun s => { s with i := s.i + 1 }

def dumpHeader (fuel : Nat) (header : Bytes msgHdrSize) : Dumping Unit := do
  start (text "Header: ")
  Program.modify fun s => { s with i := 0 }
  repeatWhile .unfinished (fun s => s.i < msgHdrSize) (dumpHeaderByte header) fuel
  append (text "\n")
  flush

def dumpContent (fuel : Nat) (msg : ZdtmMsg) : Dumping Unit := do
  writeLine (text "Content (Hex):\n")
  Program.modify fun s => { s with i := 0 }
  repeatWhile .unfinished (fun s => s.i < msg.contSize.toNat) (dumpLines fuel msg) fuel

def dumpSizes (msg : ZdtmMsg) : Dumping Unit := do
  start (valueText "Content Size" msg.contSize)
  append (valueText "Checksum" msg.checkSum)
  append (valueText "Body Size" msg.bodySize ++ text "\n")
  writeFilled

def dumpMsg (fuel : Nat) (msg : ZdtmMsg) : Dumping Int := do
  -- a buffer of its own, with nothing in it
  Program.modify fun s => { s with buffBytes := 0, peak := 0 }
  writeLine (text "== Message Dump Start ==\n")
  dumpHeader fuel msg.header
  writeLine (typeText msg.body.type)
  dumpContent fuel msg
  dumpSizes msg
  return 0

/-- The function with its early returns; `fuel` bounds the passes of each loop. -/
def zdtmDumpMsgLog (fuel : Nat) (msg : ZdtmMsg) : Dumping Int := fun s =>
  match dumpMsg fuel msg s with
  | (.error (.returned code), s') => (.ok code, s')
  | r => r

end ZdtmLog
