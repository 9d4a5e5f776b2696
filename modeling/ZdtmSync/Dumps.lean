import ZdtmSync.Log

/-!
# What a dump does

With a log that takes what is written, the dump of a message comes to its end: it
reads the raw content from the first to the last byte, one line after the other,
and never fills its buffer.
-/

namespace ZdtmDumps

open CMemory Programs Loops ZdtmTypes ZdtmProto ZdtmDecimals ZdtmLog

theorem length_newline : (text "\n").length = 1 := by decide

theorem length_hexadecimal_le {width n k : Nat} (hk : 0 < k) (hwidth : width ≤ k)
    (h : n < 16 ^ k) : (hexadecimal width n).length ≤ k := by
  have hle : (Nat.toDigits 16 n).length ≤ k := (Nat.length_toDigits_le_iff (by decide) hk).mpr h
  simp [hexadecimal, List.leftpad]
  omega

theorem length_hexByte (byte : UInt8) : (hexByte byte).length ≤ 5 := by
  have hlen : (hexadecimal 2 byte.toNat).length ≤ 2 :=
    length_hexadecimal_le (by decide) (by decide) byte.toNat_lt
  simp [hexByte, text]
  omega

theorem length_hexBytes (bytes : List UInt8) :
    (bytes.flatMap hexByte).length ≤ 5 * bytes.length := by
  induction bytes with
  | nil => simp
  | cons byte bytes ih =>
    have hlen := length_hexByte byte
    simp only [List.flatMap_cons, List.length_append, List.length_cons]
    omega

theorem length_typeBytes (type : List UInt8) :
    (type.flatMap fun c => text " 0x" ++ hexadecimal 1 c.toNat).length ≤ 5 * type.length := by
  induction type with
  | nil => simp
  | cons c type ih =>
    have hlen : (hexadecimal 1 c.toNat).length ≤ 2 :=
      length_hexadecimal_le (by decide) (by decide) c.toNat_lt
    simp only [List.flatMap_cons, List.length_append, List.length_cons]
    have htext : (text " 0x").length = 3 := by decide
    omega

theorem length_typeText (type : MsgType) : (typeText type).length ≤ 45 := by
  have hlen := length_typeBytes type.toList
  have htype := type.toList_length
  simp only [typeText, List.length_append]
  have h₁ : (text "Type \t\t(ASCII): ").length = 16 := by decide
  have h₂ : (text " \t\t(Hex):").length = 9 := by decide
  have h₃ := length_newline
  simp only [msgTypeSize] at *
  omega

theorem length_label {i : Nat} (h : i < 65536) : (label i).length ≤ 7 := by
  have hlen : (decimal 3 (i : Int)).length ≤ 5 :=
    length_decimal_le (by decide) (by decide) (by omega) (by omega)
  simp [label, text]
  omega

theorem length_valueText (name : String) (value : UInt16) :
    (valueText name value).length ≤ (text name).length + 38 := by
  have hlt := value.toNat_lt
  have hdecimal : (decimal 5 (value.toNat : Int)).length ≤ 5 :=
    length_decimal_le (by decide) (by decide) (by omega) (by omega)
  have hhex : (hexadecimal 4 value.toNat).length ≤ 4 :=
    length_hexadecimal_le (by decide) (by decide) hlt
  have h₁ : (text " \t(Base 10): ").length = 13 := by decide
  have h₂ : (text " \t(Hex): 0x").length = 11 := by decide
  have h₃ := length_newline
  simp only [valueText, List.length_append]
  omega

def lineText (content : List UInt8) (i : Nat) : List UInt8 :=
  label i ++ ((content.drop i).take 15).flatMap hexByte ++ text "\n"

def headerText (header : Bytes msgHdrSize) : List UInt8 :=
  text "Header: " ++ header.toList.flatMap hexByte ++ text "\n"

def sizesText (msg : ZdtmMsg) : List UInt8 :=
  valueText "Content Size" msg.contSize ++ valueText "Checksum" msg.checkSum ++
    (valueText "Body Size" msg.bodySize ++ text "\n")

/-- The offsets at which the lines of `n` bytes start. -/
def offsets (n : Nat) : List Nat := (List.range ((n + 14) / 15)).map (15 * ·)

/-- A line is read byte by byte and then written, with the offset of its first byte. -/
def lineEvents (content : List UInt8) (i : Nat) : List LogEvent :=
  (List.range' i (min 15 (content.length - i))).map .read ++ [.wrote (lineText content i)]

def contentEvents (content : List UInt8) : List LogEvent :=
  (offsets content.length).flatMap (lineEvents content)

def dumpEvents (msg : ZdtmMsg) : List LogEvent :=
  [.wrote (text "== Message Dump Start ==\n"), .wrote (headerText msg.header),
    .wrote (typeText msg.body.type), .wrote (text "Content (Hex):\n")] ++
    contentEvents msg.body.pRawContent.target ++ [.wrote (sizesText msg)]

def readIndex : LogEvent → Option Nat
  | .read index => some index
  | .wrote _ => none

def reads (events : List LogEvent) : List Nat := events.filterMap readIndex

/-- The text begins with a decimal number and a colon, and that number is `i`. -/
def Numbered (i : Nat) (chars : List UInt8) : Prop :=
  ∃ front back, chars = front ++ 0x3a :: back ∧ front ≠ [] ∧ (∀ c ∈ front, IsDigit c) ∧
    atoi front = i

/-- Whatever bytes are read, a text is written for them that is numbered with the offset
of the first of them; `first` is what was read first since the last text. -/
def Labelled : (first : Option Nat) → List LogEvent → Prop
  | none, [] => True
  | some _, [] => False
  | first, .read index :: events => Labelled (first.or (some index)) events
  | none, .wrote _ :: events => Labelled none events
  | some i, .wrote chars :: events => Numbered i chars ∧ Labelled none events

/-- The log takes what is written, and the buffer holds `chars` and was never full. -/
structure Ready (chars : List UInt8) (s : Dump) : Prop where
  opened : s.logfp ≠ none
  complete : ∀ answer ∈ s.answers, answer = .complete
  peak : s.peak ≤ 255
  fill : s.buffBytes = chars.length
  held : s.buff.toList.take chars.length = chars

/-- Only the log and the buffer matter. -/
theorem Ready.moved {chars : List UInt8} {s : Dump} (hs : Ready chars s) (i j : Nat)
    (events : List LogEvent) : Ready chars { s with i, j, events } :=
  ⟨hs.opened, hs.complete, hs.peak, hs.fill, hs.held⟩

/-- A write takes an answer away. -/
theorem Ready.written {chars : List UInt8} {s : Dump} (hs : Ready chars s)
    (events : List LogEvent) : Ready chars { s with answers := s.answers.tail, events } :=
  ⟨hs.opened, fun a ha => hs.complete a (List.mem_of_mem_tail ha), hs.peak, hs.fill, hs.held⟩

theorem overwrite_ok {n off : Nat} (dst : Bytes n) {src : List UInt8} (h : off + src.length ≤ n) :
    ∃ buff, overwrite dst off src = .ok buff ∧
      buff.toList = dst.toList.take off ++ src ++ dst.toList.drop (off + src.length) := by
  rw [overwrite, dif_pos h]
  exact ⟨_, rfl, rfl⟩

theorem ends_check {α : Type} {x : Except Fault α} {a : α} {s : Dump} {P : α → Dump → Prop}
    (hx : x = .ok a) (h : P a s) : Ends (check x) s P := by
  subst hx
  exact ⟨a, s, rfl, h⟩

section Print

variable {chars new : List UInt8} {s : Dump}

/-- What is left of the buffer, as a `size_t`. -/
theorem room_of_le {off : Nat} (h : off ≤ 255) :
    (((buffSize : Int) - off) % 2 ^ 64).toNat = 256 - off := by
  change ((256 - off : Int) % 2 ^ 64).toNat = 256 - off
  rw [Int.emod_eq_of_lt (by omega) (by omega)]
  omega

/-- A text that fits is printed behind what the buffer holds. -/
theorem snprintf_ends (hheld : s.buff.toList.take chars.length = chars)
    (hfits : chars.length + new.length ≤ 255) :
    Ends (snprintf chars.length (buffSize - chars.length) new) s fun retval s' =>
      retval = new.length ∧ ∃ buff : Bytes buffSize,
        s' = { s with buff, peak := max s.peak (chars.length + new.length) } ∧
        buff.toList.take (chars ++ new).length = chars ++ new := by
  have htake : new.take (256 - chars.length - 1) = new := List.take_of_length_le (by omega)
  have hsize : chars.length + (new ++ [0]).length ≤ buffSize := by
    change _ ≤ 256
    simp only [List.length_append, List.length_singleton]
    omega
  obtain ⟨buff, hbuff, htext⟩ := overwrite_ok s.buff hsize
  unfold snprintf
  apply ends_get
  apply ends_bind
  · apply ends_check (a := buff) (P := fun a s' => a = buff ∧ s' = s)
    · rw [room_of_le (by omega), if_neg (by omega), htake, hbuff]
    · exact ⟨rfl, rfl⟩
  · intro a s' h
    obtain ⟨rfl, rfl⟩ := h
    apply ends_bind (ends_modify (P := fun _ s'' => s'' = _) rfl)
    intro _ s'' h
    subst h
    apply ends_pure
    refine ⟨rfl, a, rfl, ?_⟩
    rw [hheld, ← List.append_assoc, List.append_assoc] at htext
    rw [htext]
    exact List.take_left' rfl

theorem print_ends (hheld : s.buff.toList.take chars.length = chars)
    (hfits : chars.length + new.length ≤ 255) :
    Ends (print chars.length new) s fun retval s' => retval = new.length ∧
      ∃ buff : Bytes buffSize,
        s' = { s with buff, peak := max s.peak (chars.length + new.length) } ∧
        buff.toList.take (chars ++ new).length = chars ++ new := by
  apply ends_bind (snprintf_ends hheld hfits)
  intro retval s' h
  obtain ⟨rfl, hbuff⟩ := h
  have hpos : ¬ (new.length : Int) = -1 := by omega
  have hfull : ¬ (new.length : Int) = (buffSize : Nat) := by
    change ¬ (new.length : Int) = (256 : Nat)
    omega
  rw [if_neg hpos, if_neg hfull]
  exact ends_pure ⟨Int.toNat_natCast _, hbuff⟩

/-- Nothing but the buffer and its record changes. -/
theorem append_ends (hs : Ready chars s) (hfits : chars.length + new.length ≤ 255) :
    Ends (append new) s fun _ s' => Ready (chars ++ new) s' ∧
      s'.i = s.i ∧ s'.j = s.j ∧ s'.events = s.events := by
  have hprint := print_ends hs.held hfits
  rw [← hs.fill] at hprint
  apply ends_get
  apply ends_bind hprint
  intro retval s' h
  obtain ⟨rfl, buff, rfl, hheld⟩ := h
  apply ends_modify
  refine ⟨⟨hs.opened, hs.complete, ?_, ?_, hheld⟩, rfl, rfl, rfl⟩
  · have hpeak := hs.peak
    simp only [hs.fill]
    omega
  · simp only [hs.fill, List.length_append]

/-- At the start of the buffer `buff_bytes` is 0. -/
theorem start_ends (hs : Ready [] s) (hfits : new.length ≤ 255) :
    Ends (start new) s fun _ s' => Ready new s' ∧ s'.i = s.i ∧ s'.events = s.events := by
  have hstart : start new s = append new s := by
    change start new s = (print s.buffBytes new >>= _) s
    rw [hs.fill]
    rfl
  obtain ⟨u, s', hrun, hready, hi, -, hevents⟩ := append_ends hs (show _ + new.length ≤ 255 by simpa)
  exact ⟨u, s', hstart.trans hrun, hready, hi, hevents⟩

/-- A complete write takes what the buffer holds. -/
theorem writeBuff_ends (hopened : s.logfp ≠ none) (hcomplete : ∀ a ∈ s.answers, a = .complete)
    {size : Nat} (hsize : size ≤ 255) :
    Ends (writeBuff size) s fun _ s' => s' = { s with
      answers := s.answers.tail, events := s.events ++ [.wrote (s.buff.toList.take size)] } := by
  have hload : load (some s.buff.toList) size = .ok (s.buff.toList.take size) := by
    apply load_of_le
    rw [Ptr.target_some, List.Vector.toList_length]
    change size ≤ 256
    omega
  have hwrite : zdtmWriteLog s.buff.toList size s = (.ok 0, { s with
      answers := s.answers.tail, events := s.events ++ [.wrote (s.buff.toList.take size)] }) := by
    change ((if s.logfp = none then pure (-1) else _ : Dumping Int)) s = _
    rw [if_neg hopened, hload]
    cases hanswers : s.answers with
    | nil => simp [check, Bind.bind, Program.modify, pure]
    | cons answer answers =>
      have hanswer : answer = .complete := hcomplete answer (by simp [hanswers])
      subst hanswer
      simp [check, Bind.bind, Program.modify, pure]
  apply ends_get
  apply ends_bind (P := fun retval s' => retval = 0 ∧ s' = _) ⟨_, _, hwrite, rfl, rfl⟩
  intro retval s' h
  obtain ⟨rfl, rfl⟩ := h
  exact ends_pure rfl

theorem writeFilled_ends (hs : Ready chars s) (hfits : chars.length ≤ 255) :
    Ends writeFilled s fun _ s' => Ready chars s' ∧ s'.i = s.i ∧
      s'.events = s.events ++ [.wrote chars] := by
  have hwrite := writeBuff_ends hs.opened hs.complete hfits
  rw [hs.held, ← hs.fill] at hwrite
  apply ends_get
  apply hwrite.mono
  intro u s' h
  subst h
  exact ⟨hs.written _, rfl, rfl⟩

theorem flush_ends (hs : Ready chars s) (hfits : chars.length ≤ 255) :
    Ends flush s fun _ s' => Ready [] s' ∧ s'.i = s.i ∧
      s'.events = s.events ++ [.wrote chars] := by
  apply ends_bind (writeFilled_ends hs hfits)
  intro u s' h
  obtain ⟨hs', hi, hevents⟩ := h
  apply ends_modify
  exact ⟨⟨hs'.opened, hs'.complete, hs'.peak, rfl, rfl⟩, hi, hevents⟩

/-- A line of its own leaves the fill count alone. -/
theorem writeLine_ends (hs : Ready [] s) (hfits : new.length ≤ 255) :
    Ends (writeLine new) s fun _ s' => Ready [] s' ∧ s'.events = s.events ++ [.wrote new] := by
  have hprint := print_ends hs.held (show _ + new.length ≤ 255 by simpa)
  rw [List.length_nil] at hprint
  apply ends_bind hprint
  intro retval s₁ h
  obtain ⟨rfl, buff, heq, hheld⟩ := h
  rw [List.nil_append] at hheld
  have hs₁ : Ready [] s₁ := by
    have hpeak := hs.peak
    subst heq
    refine ⟨hs.opened, hs.complete, ?_, hs.fill, rfl⟩
    change max s.peak (0 + new.length) ≤ 255
    omega
  have hevents : s₁.events = s.events := by rw [heq]
  have hbuff : s₁.buff = buff := by rw [heq]
  apply (writeBuff_ends hs₁.opened hs₁.complete hfits).mono
  intro u s₂ h
  subst h
  refine ⟨hs₁.written _, ?_⟩
  simp only [hevents, hbuff, hheld]

end Print

section Bytes

variable {chars : List UInt8} {s s' : Dump}

theorem byteAt_some {bytes : List UInt8} {index : Nat} (h : index < bytes.length) :
    byteAt bytes index = .ok bytes[index] := by
  simp [byteAt, h]

/-- One more byte of a list, printed behind the bytes before it. -/
theorem hexBytes_succ (bytes : List UInt8) (k : Nat) (h : k < bytes.length) :
    (bytes.take (k + 1)).flatMap hexByte = (bytes.take k).flatMap hexByte ++ hexByte bytes[k] := by
  rw [List.take_succ_eq_append_getElem h, List.flatMap_append, List.flatMap_singleton]

/-- A pass reads the next byte and prints it. -/
theorem dumpByte_ends {p : Ptr} (hs : Ready chars s) (hj : s.j < p.target.length)
    (hfits : chars.length + 5 ≤ 255) :
    Ends (dumpByte p) s fun _ s' => Ready (chars ++ hexByte p.target[s.j]) s' ∧
      s'.i = s.i ∧ s'.j = s.j + 1 ∧ s'.events = s.events ++ [.read s.j] := by
  have hbyte := length_hexByte p.target[s.j]
  have hread : readContent p s.j s = (.ok p.target[s.j], { s with
      events := s.events ++ [.read s.j] }) := by
    change check (byteAt p.target s.j) _ = _
    rw [byteAt_some hj]
    rfl
  have hs' : Ready chars { s with events := s.events ++ [.read s.j] } := hs.moved _ _ _
  apply ends_get
  apply ends_bind (P := fun byte s' => byte = p.target[s.j] ∧ s' = _) ⟨_, _, hread, rfl, rfl⟩
  intro byte s₁ h
  obtain ⟨rfl, rfl⟩ := h
  apply ends_bind (append_ends hs' (by omega))
  intro u s₂ h
  obtain ⟨hs₂, hi, hj, hevents⟩ := h
  apply ends_modify
  refine ⟨hs₂.moved _ _ _, hi, ?_, hevents⟩
  simp only [hj]

/-- The state after `k` bytes of a line that began in `s`. -/
structure Dumped (content chars : List UInt8) (s : Dump) (k : Nat) (s' : Dump) : Prop where
  ready : Ready (chars ++ ((content.drop s.i).take k).flatMap hexByte) s'
  i : s'.i = s.i
  j : s'.j = s.i + k
  events : s'.events = s.events ++ (List.range' s.i k).map .read

theorem dumped_step {p : Ptr} {k : Nat} {s' : Dump} (h : Dumped p.target chars s k s')
    (hk : s.i + k < p.target.length) (hfits : chars.length + 5 * (k + 1) ≤ 255) :
    Ends (dumpByte p) s' fun _ s'' => Dumped p.target chars s (k + 1) s'' := by
  have hj : s'.j < p.target.length := by
    rw [h.j]
    exact hk
  have hbytes := length_hexBytes ((p.target.drop s.i).take k)
  rw [List.length_take] at hbytes
  have hroom : (chars ++ ((p.target.drop s.i).take k).flatMap hexByte).length + 5 ≤ 255 := by
    rw [List.length_append]
    omega
  apply (dumpByte_ends h.ready hj hroom).mono
  intro u s'' hpass
  obtain ⟨hready, hi, hj', hevents⟩ := hpass
  have hlt : k < (p.target.drop s.i).length := by
    rw [List.length_drop]
    omega
  have hnext : (p.target.drop s.i)[k] = p.target[s'.j] := by
    simp only [List.getElem_drop, h.j]
  refine ⟨?_, hi.trans h.i, ?_, ?_⟩
  · rw [hexBytes_succ _ k hlt, hnext, ← List.append_assoc]
    exact hready
  · rw [hj', h.j, Nat.add_assoc]
  · rw [hevents, h.events, h.j, List.range'_concat]
    simp

/-- The loop reads and prints the bytes up to where the line stops. -/
theorem dumpBytes_ends {p : Ptr} {count fuel : Nat} (hs : Dumped p.target chars s 0 s')
    (hcount : s.i + count ≤ p.target.length) (hfits : chars.length + 5 * count ≤ 255)
    (hfuel : count ≤ fuel) :
    Ends (repeatWhile .unfinished (fun s' => s'.j < s.i + count) (dumpByte p) fuel) s'
      fun _ s'' => Dumped p.target chars s count s'' := by
  have hpass : ∀ s₁, (∃ k ≤ count, Dumped p.target chars s k s₁) → s₁.j < s.i + count →
      Ends (dumpByte p) s₁ fun _ s₂ =>
        (∃ k ≤ count, Dumped p.target chars s k s₂) ∧ s₁.j < s₂.j := by
    intro s₁ h hlt
    obtain ⟨k, hk, h⟩ := h
    have hj := h.j
    apply (dumped_step h (by omega) (by omega)).mono
    intro u s₂ h'
    have hj' := h'.j
    exact ⟨⟨k + 1, by omega, h'⟩, by omega⟩
  have hstart := hs.j
  apply (ends_count hpass ⟨0, Nat.zero_le _, hs⟩ (by omega)).mono
  intro u s₂ h
  obtain ⟨⟨k, hk, h⟩, hge⟩ := h
  have hj := h.j
  have hall : k = count := by omega
  rwa [← hall]

/-- A line from its label to its end, of which `count` bytes are read. -/
theorem dumpLine_ends {p : Ptr} {count fuel : Nat} (hs : Ready [] s)
    (hcount : s.i + count ≤ p.target.length) (hline : count ≤ 15) (hi : s.i < 65536)
    (hfuel : count ≤ fuel) :
    Ends (dumpLine fuel p (s.i + count)) s fun _ s' =>
      Ready (label s.i ++ ((p.target.drop s.i).take count).flatMap hexByte ++ text "\n") s' ∧
        s'.i = s.i + count ∧ s'.events = s.events ++ (List.range' s.i count).map .read := by
  have hlabel := length_label hi
  have hbytes := length_hexBytes ((p.target.drop s.i).take count)
  rw [List.length_take] at hbytes
  have hnewline := length_newline
  apply ends_get
  apply ends_bind (append_ends hs (show _ + (label s.i).length ≤ 255 by simp; omega))
  intro u s₁ h
  obtain ⟨hs₁, hi₁, -, hevents₁⟩ := h
  rw [List.nil_append] at hs₁
  apply ends_bind (ends_modify (P := fun _ s₂ => Dumped p.target (label s.i) s 0 s₂) ?_)
  · intro u s₂ hs₂
    apply ends_bind (dumpBytes_ends hs₂ hcount (by omega) hfuel)
    intro u s₃ hs₃
    apply ends_bind (append_ends hs₃.ready (by rw [List.length_append]; omega))
    intro u s₄ h
    obtain ⟨hs₄, -, hj, hevents⟩ := h
    apply ends_modify
    refine ⟨hs₄.moved _ _ _, ?_, ?_⟩
    · exact hj.trans hs₃.j
    · exact hevents.trans hs₃.events
  · refine ⟨?_, hi₁, hi₁, ?_⟩
    · rw [List.take_zero, List.flatMap_nil, List.append_nil]
      exact hs₁.moved _ _ _
    · simpa using hevents₁

end Bytes

section Content

variable {n i : Nat}

theorem offsets_zero : offsets 0 = [] := rfl

/-- A line that starts at `i` and ends at `n`, with at most fifteen bytes. -/
theorem offsets_next (hi : 15 ∣ i) (hlt : i < n) (hle : n ≤ i + 15) :
    offsets n = offsets i ++ [i] := by
  obtain ⟨q, rfl⟩ := hi
  have hbefore : (15 * q + 14) / 15 = q := by omega
  have hafter : (n + 14) / 15 = q + 1 := by omega
  simp [offsets, hbefore, hafter, List.range_succ]

/-- Every line has a first byte. -/
theorem lt_of_mem_offsets (h : i ∈ offsets n) : i < n := by
  simp only [offsets, List.mem_map, List.mem_range] at h
  obtain ⟨q, hq, rfl⟩ := h
  omega

@[simp] theorem reads_append (events events' : List LogEvent) :
    reads (events ++ events') = reads events ++ reads events' := List.filterMap_append

@[simp] theorem reads_nil : reads [] = [] := rfl

@[simp] theorem reads_wrote (chars : List UInt8) (events : List LogEvent) :
    reads (.wrote chars :: events) = reads events := rfl

theorem reads_lineEvents (content : List UInt8) (i : Nat) :
    reads (lineEvents content i) = List.range' i (min 15 (content.length - i)) := by
  simp [reads, lineEvents, List.filterMap_map, Function.comp_def, readIndex]

/-- The label of a line reads as its offset. -/
theorem numbered_label (i : Nat) (chars : List UInt8) : Numbered i (label i ++ chars) := by
  have hnonneg : (0 : Int) ≤ i := Int.natCast_nonneg i
  have hlen : 0 < (decimal 3 (i : Int)).length := by
    simp only [decimal, List.length_append, List.length_leftpad]
    omega
  refine ⟨decimal 3 i, 0x20 :: chars, ?_, List.ne_nil_of_length_pos hlen,
    decimal_isDigit hnonneg, atoi_decimal hnonneg⟩
  simp [label, text]

/-- More reads do not change which one was the first. -/
theorem labelled_reads (i : Nat) (indices : List Nat) (events : List LogEvent) :
    Labelled (some i) (indices.map .read ++ events) ↔ Labelled (some i) events := by
  induction indices with
  | nil => rfl
  | cons index indices ih => simpa [Labelled] using ih

theorem labelled_line {content : List UInt8} {events : List LogEvent} (hi : i < content.length)
    (h : Labelled none events) : Labelled none (lineEvents content i ++ events) := by
  obtain ⟨count, hcount⟩ : ∃ count, min 15 (content.length - i) = count + 1 :=
    ⟨min 15 (content.length - i) - 1, by omega⟩
  simp only [lineEvents, hcount, List.range'_succ, List.map_cons, List.cons_append,
    List.append_assoc, List.nil_append]
  change Labelled (some i) _
  rw [labelled_reads]
  refine ⟨?_, h⟩
  rw [lineText, List.append_assoc]
  exact numbered_label i _

theorem labelled_lines {content : List UInt8} {lines : List Nat} {events : List LogEvent}
    (hlines : ∀ i ∈ lines, i < content.length) (h : Labelled none events) :
    Labelled none (lines.flatMap (lineEvents content) ++ events) := by
  induction lines with
  | nil => exact h
  | cons i lines ih =>
    rw [List.flatMap_cons, List.append_assoc]
    apply labelled_line (hlines i List.mem_cons_self)
    exact ih fun i hi => hlines i (List.mem_cons_of_mem _ hi)

/-- The first `q` lines read the bytes up to where the next line starts, or all of them. -/
theorem reads_lines (content : List UInt8) (q : Nat) :
    reads (((List.range q).map (15 * ·)).flatMap (lineEvents content)) =
      List.range (min (15 * q) content.length) := by
  induction q with
  | zero => simp [reads]
  | succ q ih =>
    have hline := reads_lineEvents content (15 * q)
    rw [List.range_succ, List.map_append, List.flatMap_append, reads_append, ih]
    simp only [List.map_singleton, List.flatMap_singleton, hline]
    by_cases hle : 15 * q ≤ content.length
    · have hnext : min (15 * (q + 1)) content.length =
          15 * q + min 15 (content.length - 15 * q) := by omega
      rw [Nat.min_eq_left hle, hnext, List.range_add, List.range'_eq_map_range]
    · have hnone : min 15 (content.length - 15 * q) = 0 := by omega
      have hsame : min (15 * (q + 1)) content.length = min (15 * q) content.length := by omega
      rw [hnone, hsame]
      simp

/-- Each byte of the content is read once, in order. -/
theorem reads_contentEvents (content : List UInt8) :
    reads (contentEvents content) = List.range content.length := by
  have hall : min (15 * ((content.length + 14) / 15)) content.length = content.length := by omega
  rw [contentEvents, offsets, reads_lines, hall]

/-- The lines up to `s.i` were dumped, and that is where a line starts or the end. -/
structure Lines (content : List UInt8) (s₀ s : Dump) : Prop where
  ready : Ready [] s
  le : s.i ≤ content.length
  aligned : 15 ∣ s.i ∨ s.i = content.length
  events : s.events = s₀.events ++ (offsets s.i).flatMap (lineEvents content)

/-- The next line is put together, wherever the content ends. -/
theorem dumpLine_next {p : Ptr} {fuel : Nat} {s₀ s : Dump} (h : Lines p.target s₀ s)
    (hlt : s.i < p.target.length) (hmax : p.target.length < 65536)
    (hfuel : p.target.length ≤ fuel) :
    Ends (do dumpLine fuel p (s.i + min 15 (p.target.length - s.i)); flush) s fun _ s' =>
      Lines p.target s₀ s' ∧ s.i < s'.i := by
  have haligned : 15 ∣ s.i := h.aligned.resolve_right (by omega)
  have hcount : s.i + min 15 (p.target.length - s.i) ≤ p.target.length := by omega
  have htake : (p.target.drop s.i).take (min 15 (p.target.length - s.i)) =
      (p.target.drop s.i).take 15 := by
    rw [← List.length_drop]
    exact List.take_eq_take_min.symm
  apply ends_bind (dumpLine_ends h.ready hcount (by omega) (by omega) (by omega))
  intro u s₁ hline
  obtain ⟨hs₁, hi₁, hevents₁⟩ := hline
  rw [htake] at hs₁
  have hfits : (lineText p.target s.i).length ≤ 255 := by
    have hlabel := length_label (i := s.i) (by omega)
    have hbytes := length_hexBytes ((p.target.drop s.i).take 15)
    rw [List.length_take] at hbytes
    have hnewline := length_newline
    simp only [lineText, List.length_append]
    omega
  apply (flush_ends hs₁ hfits).mono
  intro u s₂ hflushed
  obtain ⟨hs₂, hi₂, hevents₂⟩ := hflushed
  have hi : s₂.i = s.i + min 15 (p.target.length - s.i) := hi₂.trans hi₁
  have hoffsets : offsets s₂.i = offsets s.i ++ [s.i] :=
    offsets_next haligned (by omega) (by omega)
  refine ⟨⟨hs₂, by omega, by omega, ?_⟩, by omega⟩
  rw [hevents₂, hevents₁, h.events, hoffsets]
  simp [lineEvents, lineText]

theorem dumpLines_ends {msg : ZdtmMsg} {fuel : Nat} {s₀ s : Dump}
    (hcontent : msg.body.pRawContent.target.length = msg.contSize.toNat)
    (h : Lines msg.body.pRawContent.target s₀ s) (hlt : s.i < msg.contSize.toNat)
    (hfuel : msg.contSize.toNat ≤ fuel) :
    Ends (dumpLines fuel msg) s fun _ s' =>
      Lines msg.body.pRawContent.target s₀ s' ∧ s.i < s'.i := by
  have hmax := msg.contSize.toNat_lt
  have hnext := dumpLine_next h (by omega) (by omega)
    (show msg.body.pRawContent.target.length ≤ fuel by omega)
  apply ends_get
  by_cases hfull : 15 ≤ msg.contSize.toNat - s.i
  · rw [if_pos hfull]
    rwa [hcontent, Nat.min_eq_left hfull] at hnext
  · rw [if_neg hfull]
    rwa [hcontent, Nat.min_eq_right (by omega), Nat.add_sub_cancel' (by omega)] at hnext

/-- The content is dumped whole: each pass of the loop moves on by a line. -/
theorem dumpContentLines_ends {msg : ZdtmMsg} {fuel : Nat} {s : Dump}
    (hcontent : msg.body.pRawContent.target.length = msg.contSize.toNat)
    (hs : Ready [] s) (hi : s.i = 0) (hfuel : msg.contSize.toNat ≤ fuel) :
    Ends (repeatWhile .unfinished (fun s => s.i < msg.contSize.toNat) (dumpLines fuel msg) fuel) s
      fun _ s' => Ready [] s' ∧
        s'.events = s.events ++ contentEvents msg.body.pRawContent.target := by
  have hstart : Lines msg.body.pRawContent.target s s := by
    refine ⟨hs, by omega, Or.inl (by omega), ?_⟩
    simp [hi, offsets_zero]
  have hpass : ∀ s₁, Lines msg.body.pRawContent.target s s₁ → s₁.i < msg.contSize.toNat →
      Ends (dumpLines fuel msg) s₁ fun _ s₂ =>
        Lines msg.body.pRawContent.target s s₂ ∧ s₁.i < s₂.i :=
    fun s₁ h hlt => dumpLines_ends hcontent h hlt hfuel
  apply (ends_count hpass hstart (by omega)).mono
  intro u s₂ h
  obtain ⟨h, hge⟩ := h
  have hle := h.le
  have hend : s₂.i = msg.body.pRawContent.target.length := by omega
  have hevents := h.events
  rw [hend] at hevents
  exact ⟨h.ready, hevents⟩

end Content

section Header

variable {header : Bytes msgHdrSize} {s₀ s : Dump}

theorem length_headerText (header : Bytes msgHdrSize) : (headerText header).length ≤ 74 := by
  have hbytes := length_hexBytes header.toList
  rw [List.Vector.toList_length] at hbytes
  change _ ≤ 5 * 13 at hbytes
  have h₁ : (text "Header: ").length = 8 := by decide
  have h₂ := length_newline
  simp only [headerText, List.length_append]
  omega

/-- The state after the first `s.i` bytes of the header. -/
structure HeaderDumped (header : Bytes msgHdrSize) (s₀ s : Dump) : Prop where
  ready : Ready (text "Header: " ++ (header.toList.take s.i).flatMap hexByte) s
  le : s.i ≤ msgHdrSize
  events : s.events = s₀.events

theorem headerDumped_start (hs : Ready (text "Header: ") s) :
    HeaderDumped header s { s with i := 0 } where
  ready := by
    rw [List.take_zero, List.flatMap_nil, List.append_nil]
    exact hs.moved _ _ _
  le := Nat.zero_le _
  events := rfl

theorem dumpHeaderByte_ends (h : HeaderDumped header s₀ s) (hi : s.i < msgHdrSize) :
    Ends (dumpHeaderByte header) s fun _ s' => HeaderDumped header s₀ s' ∧ s'.i = s.i + 1 := by
  have hlt : s.i < header.toList.length := by rwa [List.Vector.toList_length]
  have hbyte := length_hexByte header.toList[s.i]
  have hbytes := length_hexBytes (header.toList.take s.i)
  rw [List.length_take] at hbytes
  have htext : (text "Header: ").length = 8 := by decide
  have hfits : (text "Header: " ++ (header.toList.take s.i).flatMap hexByte).length +
      (hexByte header.toList[s.i]).length ≤ 255 := by
    change s.i < 13 at hi
    rw [List.length_append]
    omega
  apply ends_get
  apply ends_bind (ends_check (P := fun byte s' => byte = header.toList[s.i] ∧ s' = s)
    (byteAt_some hlt) ⟨rfl, rfl⟩)
  intro byte s₁ h₁
  obtain ⟨rfl, rfl⟩ := h₁
  apply ends_bind (append_ends h.ready hfits)
  intro u s₂ h₂
  obtain ⟨hs₂, hi₂, -, hevents₂⟩ := h₂
  apply ends_modify
  have hnext : s₂.i + 1 = s₁.i + 1 := by rw [hi₂]
  refine ⟨⟨?_, ?_, hevents₂.trans h.events⟩, hnext⟩
  · simp only [hnext]
    rw [hexBytes_succ _ _ hlt, ← List.append_assoc]
    exact hs₂.moved _ _ _
  · simp only [hnext]
    omega

theorem dumpHeaderBytes_ends {fuel : Nat} (h : HeaderDumped header s₀ s) (hfuel : msgHdrSize ≤ fuel) :
    Ends (repeatWhile .unfinished (fun s => s.i < msgHdrSize) (dumpHeaderByte header) fuel) s
      fun _ s' => Ready (text "Header: " ++ header.toList.flatMap hexByte) s' ∧
        s'.events = s₀.events := by
  have hpass : ∀ s₁, HeaderDumped header s₀ s₁ → s₁.i < msgHdrSize →
      Ends (dumpHeaderByte header) s₁ fun _ s₂ => HeaderDumped header s₀ s₂ ∧ s₁.i < s₂.i := by
    intro s₁ h₁ hlt
    apply (dumpHeaderByte_ends h₁ hlt).mono
    intro u s₂ h₂
    have hi := h₂.2
    exact ⟨h₂.1, by omega⟩
  apply (ends_count hpass h (by omega)).mono
  intro u s₂ h₂
  obtain ⟨h₂, hge⟩ := h₂
  have hready := h₂.ready
  rw [List.take_of_length_le (by rw [List.Vector.toList_length]; omega)] at hready
  exact ⟨hready, h₂.events⟩

theorem dumpHeader_ends {fuel : Nat} (hs : Ready [] s) (hfuel : msgHdrSize ≤ fuel) :
    Ends (dumpHeader fuel header) s fun _ s' =>
      Ready [] s' ∧ s'.events = s.events ++ [.wrote (headerText header)] := by
  have hlen := length_headerText header
  have hfits : (headerText header).length ≤ 255 := by omega
  apply ends_bind (start_ends hs (by decide))
  intro u s₁ h
  obtain ⟨hs₁, -, hevents₁⟩ := h
  apply ends_bind (ends_modify (P := fun _ s' => HeaderDumped header s₁ s')
    (headerDumped_start hs₁))
  intro u s₂ hs₂
  apply ends_bind (dumpHeaderBytes_ends hs₂ hfuel)
  intro u s₃ h
  obtain ⟨hs₃, hevents₃⟩ := h
  apply ends_bind (append_ends hs₃ (by rwa [← List.length_append]))
  intro u s₄ h
  obtain ⟨hs₄, -, -, hevents₄⟩ := h
  apply (flush_ends hs₄ hfits).mono
  intro u s₅ h
  obtain ⟨hs₅, -, hevents₅⟩ := h
  refine ⟨hs₅, ?_⟩
  rw [hevents₅, hevents₄, hevents₃, hevents₁, headerText]

end Header

section Whole

variable {msg : ZdtmMsg} {fuel : Nat} {s : Dump}

theorem dumpContent_ends (hcontent : msg.body.pRawContent.target.length = msg.contSize.toNat)
    (hs : Ready [] s) (hfuel : msg.contSize.toNat ≤ fuel) :
    Ends (dumpContent fuel msg) s fun _ s' => Ready [] s' ∧ s'.events = s.events ++
      (.wrote (text "Content (Hex):\n") :: contentEvents msg.body.pRawContent.target) := by
  apply ends_bind (writeLine_ends hs (by decide))
  intro u s₁ h
  obtain ⟨hs₁, hevents₁⟩ := h
  apply ends_bind (ends_modify (P := fun _ s' => Ready [] s' ∧ s'.i = 0 ∧ s'.events = s₁.events)
    ⟨hs₁.moved _ _ _, rfl, rfl⟩)
  intro u s₂ h
  obtain ⟨hs₂, hi, hevents₂⟩ := h
  apply (dumpContentLines_ends hcontent hs₂ hi hfuel).mono
  intro u s₃ h
  obtain ⟨hs₃, hevents₃⟩ := h
  refine ⟨hs₃, ?_⟩
  rw [hevents₃, hevents₂, hevents₁]
  simp

theorem dumpSizes_ends (hs : Ready [] s) :
    Ends (dumpSizes msg) s fun _ s' =>
      s'.peak ≤ 255 ∧ s'.events = s.events ++ [.wrote (sizesText msg)] := by
  have hcont := length_valueText "Content Size" msg.contSize
  have hcheck := length_valueText "Checksum" msg.checkSum
  have hbody := length_valueText "Body Size" msg.bodySize
  have h₁ : (text "Content Size").length = 12 := by decide
  have h₂ : (text "Checksum").length = 8 := by decide
  have h₃ : (text "Body Size").length = 9 := by decide
  have h₄ := length_newline
  apply ends_bind (start_ends hs (by omega))
  intro u s₁ h
  obtain ⟨hs₁, -, hevents₁⟩ := h
  apply ends_bind (append_ends hs₁ (by omega))
  intro u s₂ h
  obtain ⟨hs₂, -, -, hevents₂⟩ := h
  apply ends_bind (append_ends hs₂ (by simp only [List.length_append]; omega))
  intro u s₃ h
  obtain ⟨hs₃, -, -, hevents₃⟩ := h
  apply (writeFilled_ends hs₃ (by simp only [List.length_append]; omega)).mono
  intro u s₄ h
  obtain ⟨hs₄, -, hevents₄⟩ := h
  refine ⟨hs₄.peak, ?_⟩
  rw [hevents₄, hevents₃, hevents₂, hevents₁, sizesText]

theorem dumpMsg_ends (hcontent : msg.body.pRawContent.target.length = msg.contSize.toNat)
    (hopened : s.logfp ≠ none) (hcomplete : ∀ a ∈ s.answers, a = .complete)
    (hheader : msgHdrSize ≤ fuel) (hfuel : msg.contSize.toNat ≤ fuel) :
    Ends (dumpMsg fuel msg) s fun code s' =>
      code = 0 ∧ s'.peak ≤ 255 ∧ s'.events = s.events ++ dumpEvents msg := by
  apply ends_bind (ends_modify (P := fun _ s' => Ready [] s' ∧ s'.events = s.events)
    ⟨⟨hopened, hcomplete, Nat.zero_le _, rfl, rfl⟩, rfl⟩)
  intro u s₁ h
  obtain ⟨hs₁, hevents₁⟩ := h
  apply ends_bind (writeLine_ends hs₁ (by decide))
  intro u s₂ h
  obtain ⟨hs₂, hevents₂⟩ := h
  apply ends_bind (dumpHeader_ends hs₂ hheader)
  intro u s₃ h
  obtain ⟨hs₃, hevents₃⟩ := h
  have htype := length_typeText msg.body.type
  apply ends_bind (writeLine_ends hs₃ (by omega))
  intro u s₄ h
  obtain ⟨hs₄, hevents₄⟩ := h
  apply ends_bind (dumpContent_ends hcontent hs₄ hfuel)
  intro u s₅ h
  obtain ⟨hs₅, hevents₅⟩ := h
  apply ends_bind (dumpSizes_ends hs₅)
  intro u s₆ h
  obtain ⟨hpeak₆, hevents₆⟩ := h
  refine ends_pure ⟨rfl, hpeak₆, ?_⟩
  rw [hevents₆, hevents₅, hevents₄, hevents₃, hevents₂, hevents₁]
  simp [dumpEvents]

theorem dumpMsgLog_ends (hcontent : msg.body.pRawContent.target.length = msg.contSize.toNat)
    (hopened : s.logfp ≠ none) (hcomplete : ∀ a ∈ s.answers, a = .complete)
    (hfuel : max msgHdrSize msg.contSize.toNat ≤ fuel) :
    Ends (zdtmDumpMsgLog fuel msg) s fun code s' =>
      code = 0 ∧ s'.peak ≤ 255 ∧ s'.events = s.events ++ dumpEvents msg := by
  obtain ⟨code, s', hrun, hend⟩ := dumpMsg_ends hcontent hopened hcomplete
    (Nat.le_trans (Nat.le_max_left _ _) hfuel) (Nat.le_trans (Nat.le_max_right _ _) hfuel)
  refine ⟨code, s', ?_, hend⟩
  simp only [zdtmDumpMsgLog, hrun]

theorem reads_dumpEvents (hcontent : msg.body.pRawContent.target.length = msg.contSize.toNat) :
    reads (dumpEvents msg) = List.range msg.contSize.toNat := by
  simp [dumpEvents, reads_contentEvents, hcontent]

theorem labelled_dumpEvents (msg : ZdtmMsg) : Labelled none (dumpEvents msg) := by
  have hlines : Labelled none
      (contentEvents msg.body.pRawContent.target ++ [.wrote (sizesText msg)]) :=
    labelled_lines (fun i hi => lt_of_mem_offsets hi) trivial
  rw [dumpEvents, List.append_assoc]
  exact hlines

end Whole

/-- With writes that succeed and fuel for the header and the content, the dump
returns 0: it reads every byte of the content once and in order, labels each line
with the offset of its first byte, and never has more than 255 characters in its
buffer. -/
theorem dump_completes (msg : ZdtmMsg) (s : Dump) (fuel : Nat)
    (hcontent : msg.body.pRawContent.target.length = msg.contSize.toNat)
    (hopened : s.logfp ≠ none) (hcomplete : ∀ answer ∈ s.answers, answer = .complete)
    (hfuel : max msgHdrSize msg.contSize.toNat ≤ fuel) :
    ∃ s', zdtmDumpMsgLog fuel msg s = (.ok 0, s') ∧ s'.events = s.events ++ dumpEvents msg ∧
      reads (dumpEvents msg) = List.range msg.contSize.toNat ∧
      Labelled none (dumpEvents msg) ∧ s'.peak ≤ 255 := by
  obtain ⟨code, s', hrun, rfl, hpeak, hevents⟩ :=
    dumpMsgLog_ends hcontent hopened hcomplete hfuel
  exact ⟨s', hrun, hevents, reads_dumpEvents hcontent, labelled_dumpEvents msg, hpeak⟩

/-- A message with a full line and a part of one. -/
def twoLines : ZdtmMsg where
  contSize := 17
  body := { pRawContent := some ((List.range 17).map UInt8.ofNat) }

theorem dump_completes_two : ∃ s' : Dump, s'.peak ≤ 255 ∧
    zdtmDumpMsgLog 17 twoLines { logfp := some 3, buff := zeros 256 } = (.ok 0, s') ∧
      reads s'.events = List.range 17 := by
  obtain ⟨s', hrun, hevents, hreads, -, hpeak⟩ := dump_completes twoLines
    { logfp := some 3, buff := zeros 256 } 17 (by decide) nofun nofun (by decide)
  refine ⟨s', hpeak, hrun, ?_⟩
  rw [hevents]
  exact hreads

section Received

open ZdtmNet ZdtmReceiving

variable {b : Build} {msg : ZdtmMsg} {w w' : World}

theorem frame_content (f : Frame b) :
    f.msg.body.pRawContent.target.length = f.msg.contSize.toNat := by
  have hsize : f.framed.contSize.toNat = f.content.length :=
    ZdtmFraming.toNat_length f.toNat_bodySize
  change f.framed.body.pRawContent.target.length = f.framed.contSize.toNat
  rw [f.framed_target, hsize]

/-- A received message has as much content as its size says. -/
theorem received_content (h : zdtmRecvMessage b (some {}) w = .ok ((0, some msg), w')) :
    msg.body.pRawContent.target.length = msg.contSize.toNat := by
  obtain ⟨got, -, hreceived⟩ := recv_takes h
  generalize hcode : (0 : Int) = code at hreceived
  generalize hmsg : some msg = p at hreceived
  cases hreceived with
  | common m htook hstream => cases m <;> cases hcode
  | general f htook hstream =>
    cases hmsg
    exact frame_content f
  | failed code p hneg => omega

/-- So every received message can be dumped. -/
theorem received_dumps (h : zdtmRecvMessage b (some {}) w = .ok ((0, some msg), w'))
    {fuel : Nat} {s : Dump} (hopened : s.logfp ≠ none)
    (hcomplete : ∀ a ∈ s.answers, a = .complete)
    (hfuel : max msgHdrSize msg.contSize.toNat ≤ fuel) :
    Ends (zdtmDumpMsgLog fuel msg) s fun code s' =>
      code = 0 ∧ s'.peak ≤ 255 ∧ s'.events = s.events ++ dumpEvents msg :=
  dumpMsgLog_ends (received_content h) hopened hcomplete hfuel

end Received

end ZdtmDumps
