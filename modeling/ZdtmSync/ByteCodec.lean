import Mathlib.Data.Vector.Basic
import ZdtmSync.LittleEndian

/-!
# Self-delimiting byte codecs

A codec lays values out as bytes such that a decoder finds the value and the
bytes that follow it again, and accepts nothing but such layouts. Fixed-width
integers, blocks of bytes, pairs, values whose layout depends on an earlier
one, and counted repetitions are codecs, so a record that is built from them
is recovered from its bytes by construction.
-/

namespace ByteCodec

open LittleEndian

variable {α β : Type}

/-- A decoder takes one value off the front of the bytes. -/
abbrev Decoder (α : Type) := StateT (List UInt8) Option α

namespace Decoder

/-- Exactly `n` bytes. -/
def raw (n : Nat) : Decoder (List.Vector UInt8 n) := fun s =>
  if h : n ≤ s.length then some (⟨s.take n, List.length_take_of_le h⟩, s.drop n) else none

def u8 : Decoder UInt8 := do
  let v ← raw 1
  return v.head

def u16 : Decoder UInt16 := do
  let v ← raw 2
  return UInt16.ofNat (value v.toList)

def u32 : Decoder UInt32 := do
  let v ← raw 4
  return UInt32.ofNat (value v.toList)

/-- The same decoder `n` times over. -/
def times : Nat → Decoder α → Decoder (List α)
  | 0, _ => pure []
  | n + 1, d => do
    let a ← d
    let as ← times n d
    return a :: as

@[simp] theorem pure_run (a : α) (s : List UInt8) : (pure a : Decoder α) s = some (a, s) := rfl

theorem bind_run (d : Decoder α) (f : α → Decoder β) (s : List UInt8) :
    (d >>= f) s = (d s).bind fun r => f r.1 r.2 := rfl

theorem raw_run {n : Nat} {s : List UInt8} (h : n ≤ s.length) :
    raw n s = some (⟨s.take n, List.length_take_of_le h⟩, s.drop n) := dif_pos h

theorem raw_append {n : Nat} (v : List.Vector UInt8 n) (rest : List UInt8) :
    raw n (v.toList ++ rest) = some (v, rest) := by
  have hlen : n ≤ (v.toList ++ rest).length := by simp
  rw [raw_run hlen]
  congr 2
  · exact Subtype.ext (List.take_left' v.toList_length)
  · exact List.drop_left' v.toList_length

theorem raw_some {n : Nat} {s rest : List UInt8} {v : List.Vector UInt8 n}
    (h : raw n s = some (v, rest)) : v.toList ++ rest = s := by
  unfold raw at h
  split at h
  · cases h
    exact List.take_append_drop n s
  · cases h

theorem bind_some {d : Decoder α} {f : α → Decoder β} {s rest : List UInt8} {b : β}
    (h : (d >>= f) s = some (b, rest)) :
    ∃ a s', d s = some (a, s') ∧ f a s' = some (b, rest) := by
  obtain ⟨⟨a, s'⟩, hd, hf⟩ := Option.bind_eq_some_iff.mp h
  exact ⟨a, s', hd, hf⟩

theorem bind_append {d : Decoder α} {f : α → Decoder β} {s s' : List UInt8} {a : α}
    (h : d s = some (a, s')) : (d >>= f) s = f a s' := by
  rw [bind_run, h]
  rfl

/-- Fields laid out in a row are decoded in a row. -/
theorem times_append {d : Decoder α} {encode : β → List UInt8} {g : β → α}
    (h : ∀ b rest, d (encode b ++ rest) = some (g b, rest)) (bs : List β) (rest : List UInt8) :
    times bs.length d (bs.flatMap encode ++ rest) = some (bs.map g, rest) := by
  induction bs with
  | nil => rfl
  | cons b bs ih =>
    rw [List.flatMap_cons, List.append_assoc]
    apply (bind_append (h b _)).trans
    exact (bind_append ih).trans rfl

end Decoder

/-- Layouts of values together with the decoder that inverts them on both sides. -/
structure Codec (α : Type) where
  encode : α → List UInt8
  decode : Decoder α
  decode_encode : ∀ a rest, decode (encode a ++ rest) = some (a, rest)
  encode_decode : ∀ s a rest, decode s = some (a, rest) → encode a ++ rest = s

namespace Codec

/-- A layout determines its value and where it ends, whatever follows it. -/
theorem encode_append_inj (c : Codec α) {a b : α} {r s : List UInt8}
    (h : c.encode a ++ r = c.encode b ++ s) : a = b ∧ r = s := by
  have he := congrArg c.decode h
  rw [c.decode_encode, c.decode_encode] at he
  simpa using he

theorem encode_injective (c : Codec α) : Function.Injective c.encode := by
  intro a b h
  exact (c.encode_append_inj (r := []) (s := []) (by rw [h])).1

def raw (n : Nat) : Codec (List.Vector UInt8 n) where
  encode v := v.toList
  decode := Decoder.raw n
  decode_encode := Decoder.raw_append
  encode_decode _ _ _ h := Decoder.raw_some h

def u8 : Codec UInt8 where
  encode b := [b]
  decode := Decoder.u8
  decode_encode b rest := Decoder.bind_append (Decoder.raw_append ⟨[b], List.length_singleton⟩ rest)
  encode_decode s b rest h := by
    obtain ⟨v, s', hv, hp⟩ := Decoder.bind_some h
    have hs := Decoder.raw_some hv
    cases hp
    rw [← hs]
    obtain ⟨l, hl⟩ := v
    obtain ⟨x, rfl⟩ := List.length_eq_one_iff.mp hl
    rfl

def u16 : Codec UInt16 where
  encode x := bytes 2 x.toNat
  decode := Decoder.u16
  decode_encode x rest := by
    apply (Decoder.bind_append (Decoder.raw_append ⟨bytes 2 x.toNat, by simp⟩ rest)).trans
    have hv : value (bytes 2 x.toNat) = x.toNat := value_bytes_of_lt x.toNat_lt
    simp [hv]
  encode_decode s x rest h := by
    obtain ⟨v, s', hv, hp⟩ := Decoder.bind_some h
    have hs := Decoder.raw_some hv
    cases hp
    rw [← hs]
    congr 1
    have hlt : value v.toList < 2 ^ 16 := by simpa using value_lt v.toList
    have hback := bytes_value v.toList
    rw [List.Vector.toList_length] at hback
    rw [UInt16.toNat_ofNat_of_lt' hlt, hback]

def u32 : Codec UInt32 where
  encode x := bytes 4 x.toNat
  decode := Decoder.u32
  decode_encode x rest := by
    apply (Decoder.bind_append (Decoder.raw_append ⟨bytes 4 x.toNat, by simp⟩ rest)).trans
    have hv : value (bytes 4 x.toNat) = x.toNat := value_bytes_of_lt x.toNat_lt
    simp [hv]
  encode_decode s x rest h := by
    obtain ⟨v, s', hv, hp⟩ := Decoder.bind_some h
    have hs := Decoder.raw_some hv
    cases hp
    rw [← hs]
    congr 1
    have hlt : value v.toList < 2 ^ 32 := by simpa using value_lt v.toList
    have hback := bytes_value v.toList
    rw [List.Vector.toList_length] at hback
    rw [UInt32.toNat_ofNat_of_lt' hlt, hback]

/-- One layout after another. -/
def pair (c : Codec α) (d : Codec β) : Codec (α × β) where
  encode p := c.encode p.1 ++ d.encode p.2
  decode := do
    let a ← c.decode
    let b ← d.decode
    return (a, b)
  decode_encode p rest := by
    rw [List.append_assoc, Decoder.bind_append (c.decode_encode p.1 _),
      Decoder.bind_append (d.decode_encode p.2 _)]
    rfl
  encode_decode s p rest h := by
    obtain ⟨a, s', ha, h⟩ := Decoder.bind_some h
    obtain ⟨b, s'', hb, hp⟩ := Decoder.bind_some h
    cases hp
    rw [List.append_assoc, d.encode_decode _ _ _ hb, c.encode_decode _ _ _ ha]

/-- A layout whose second part depends on the value of the first. -/
def dep {γ : α → Type} (c : Codec α) (d : (a : α) → Codec (γ a)) : Codec (Σ a, γ a) where
  encode p := c.encode p.1 ++ (d p.1).encode p.2
  decode := do
    let a ← c.decode
    let b ← (d a).decode
    return ⟨a, b⟩
  decode_encode p rest := by
    rw [List.append_assoc, Decoder.bind_append (c.decode_encode p.1 _),
      Decoder.bind_append ((d p.1).decode_encode p.2 _)]
    rfl
  encode_decode s p rest h := by
    obtain ⟨a, s', ha, h⟩ := Decoder.bind_some h
    obtain ⟨b, s'', hb, hp⟩ := Decoder.bind_some h
    cases hp
    rw [List.append_assoc, (d a).encode_decode _ _ _ hb, c.encode_decode _ _ _ ha]

/-- A block of bytes behind its own 32-bit length. -/
def blob32 : Codec (Σ n : UInt32, List.Vector UInt8 n.toNat) := u32.dep fun n => raw n.toNat

theorem times_encode (c : Codec α) (as : List α) (rest : List UInt8) :
    Decoder.times as.length c.decode (as.flatMap c.encode ++ rest) = some (as, rest) := by
  rw [Decoder.times_append c.decode_encode as rest, List.map_id']

theorem times_some (c : Codec α) {n : Nat} {s rest : List UInt8} {as : List α}
    (h : Decoder.times n c.decode s = some (as, rest)) :
    as.length = n ∧ as.flatMap c.encode ++ rest = s := by
  induction n generalizing s as with
  | zero => cases h; exact ⟨rfl, rfl⟩
  | succ n ih =>
    obtain ⟨a, s', ha, h⟩ := Decoder.bind_some h
    obtain ⟨as', s'', has, hp⟩ := Decoder.bind_some h
    cases hp
    obtain ⟨hlen, hs⟩ := ih has
    refine ⟨by simp [hlen], ?_⟩
    rw [List.flatMap_cons, List.append_assoc, hs, c.encode_decode _ _ _ ha]

theorem u16_value {s rest : List UInt8} {n : UInt16} (h : Decoder.u16 s = some (n, rest)) :
    n.toNat = value (s.take 2) := by
  have hs : bytes 2 n.toNat ++ rest = s := u16.encode_decode s n rest h
  have hv : value (bytes 2 n.toNat) = n.toNat := value_bytes_of_lt n.toNat_lt
  rw [← hs, List.take_left' (length_bytes 2 _), hv]

theorem u32_value {s rest : List UInt8} {n : UInt32} (h : Decoder.u32 s = some (n, rest)) :
    n.toNat = value (s.take 4) := by
  have hs : bytes 4 n.toNat ++ rest = s := u32.encode_decode s n rest h
  have hv : value (bytes 4 n.toNat) = n.toNat := value_bytes_of_lt n.toNat_lt
  rw [← hs, List.take_left' (length_bytes 4 _), hv]

end Codec

namespace Decoder

theorem isSome_bind {d : Decoder α} {f : α → Decoder β} {s : List UInt8} :
    ((d >>= f) s).isSome ↔ ∃ a s', d s = some (a, s') ∧ (f a s').isSome := by
  rw [bind_run]
  cases d s with
  | none => simp
  | some r =>
    obtain ⟨a, s'⟩ := r
    simp

theorem isSome_bind_pure {d : Decoder α} {g : α → β} {s : List UInt8} :
    ((d >>= fun a => pure (g a)) s).isSome ↔ (d s).isSome := by
  rw [bind_run]
  cases d s <;> rfl

/-- Accepts exactly the buffers that are as long as their own bytes say, and
consumes that many bytes. -/
structure Sized (d : Decoder α) (size : List UInt8 → Nat) : Prop where
  isSome_iff : ∀ s, (d s).isSome ↔ size s ≤ s.length
  rest : ∀ {s a s'}, d s = some (a, s') → s' = s.drop (size s)

/-- Accepts exactly the buffers of at least `k` bytes, and consumes `k` of them. -/
abbrev FixedWidth (d : Decoder α) (k : Nat) : Prop := Sized d fun _ => k

theorem fixedWidth_pure (a : α) : FixedWidth (pure a) 0 where
  isSome_iff s := by simp
  rest h := by cases h; rfl

theorem fixedWidth_raw (n : Nat) : FixedWidth (raw n) n where
  isSome_iff s := by
    unfold raw
    split <;> simp_all
  rest {s v s'} h := by
    have hs := raw_some h
    rw [← hs]
    exact (List.drop_left' v.toList_length).symm

theorem Sized.exists_some {d : Decoder α} {size : List UInt8 → Nat} (hd : Sized d size)
    {s : List UInt8} (h : size s ≤ s.length) : ∃ a, d s = some (a, s.drop (size s)) := by
  obtain ⟨⟨a, s'⟩, ha⟩ := Option.isSome_iff_exists.mp ((hd.isSome_iff s).mpr h)
  exact ⟨a, by rw [ha, hd.rest ha]⟩

/-- The rest of the buffer is all that matters after a sized field that nothing depends on. -/
theorem isSome_sized_bind {d : Decoder α} {f : α → Decoder β} {size : List UInt8 → Nat}
    {P : List UInt8 → Prop} {s : List UInt8} (hd : Sized d size)
    (hf : ∀ a s, (f a s).isSome ↔ P s) :
    ((d >>= f) s).isSome ↔ size s ≤ s.length ∧ P (s.drop (size s)) := by
  rw [isSome_bind]
  constructor
  · intro hsome
    obtain ⟨a, s', ha, hb⟩ := hsome
    have hk := (hd.isSome_iff s).mp (by rw [ha]; rfl)
    rw [hd.rest ha] at hb
    exact ⟨hk, (hf a _).mp hb⟩
  · rintro ⟨hk, hp⟩
    obtain ⟨a, ha⟩ := hd.exists_some hk
    exact ⟨a, _, ha, (hf a _).mpr hp⟩

/-- One sized field after another. -/
theorem sized_bind {d : Decoder α} {f : α → Decoder β} {size size' : List UInt8 → Nat}
    (hd : Sized d size) (hf : ∀ a, Sized (f a) size') :
    Sized (d >>= f) fun s => size s + size' (s.drop (size s)) where
  isSome_iff s := by
    have hiff := isSome_sized_bind (s := s) hd fun a r => (hf a).isSome_iff r
    rw [hiff, List.length_drop]
    omega
  rest {s b s''} h := by
    obtain ⟨a, s', ha, hb⟩ := bind_some h
    rw [(hf a).rest hb, hd.rest ha, List.drop_drop]

theorem fixedWidth_u8 : FixedWidth u8 1 :=
  sized_bind (fixedWidth_raw 1) fun _ => fixedWidth_pure _

theorem fixedWidth_u16 : FixedWidth u16 2 :=
  sized_bind (fixedWidth_raw 2) fun _ => fixedWidth_pure _

theorem fixedWidth_u32 : FixedWidth u32 4 :=
  sized_bind (fixedWidth_raw 4) fun _ => fixedWidth_pure _

section Number

variable {ν : Type} {d : Decoder ν} {w : Nat} {toNat : ν → Nat}

/-- After a little-endian number of `w` bytes the rest may depend on its value. -/
theorem isSome_number_bind (hd : FixedWidth d w)
    (hv : ∀ {s n rest}, d s = some (n, rest) → toNat n = value (s.take w))
    {f : ν → Decoder β} {Q : Nat → List UInt8 → Prop} {s : List UInt8}
    (hf : ∀ n s, (f n s).isSome ↔ Q (toNat n) s) :
    ((d >>= f) s).isSome ↔ w ≤ s.length ∧ Q (value (s.take w)) (s.drop w) := by
  rw [isSome_bind]
  constructor
  · intro hsome
    obtain ⟨n, s', hn, hb⟩ := hsome
    have hlen := (hd.isSome_iff s).mp (by rw [hn]; rfl)
    rw [hd.rest hn, hf, hv hn] at hb
    exact ⟨hlen, hb⟩
  · rintro ⟨hlen, hq⟩
    obtain ⟨n, hn⟩ := hd.exists_some hlen
    rw [← hv hn] at hq
    exact ⟨n, _, hn, (hf n _).mpr hq⟩

/-- A number and a field whose size its value decides. -/
theorem sized_number_bind (hd : FixedWidth d w)
    (hv : ∀ {s n rest}, d s = some (n, rest) → toNat n = value (s.take w))
    {f : ν → Decoder β} {g : Nat → Nat} (hf : ∀ n, FixedWidth (f n) (g (toNat n))) :
    Sized (d >>= f) fun s => w + g (value (s.take w)) where
  isSome_iff s := by
    have hiff : ((d >>= f) s).isSome ↔
        w ≤ s.length ∧ g (value (s.take w)) ≤ (s.drop w).length :=
      isSome_number_bind (Q := fun v r => g v ≤ r.length) hd hv fun n r => (hf n).isSome_iff r
    rw [hiff, List.length_drop]
    omega
  rest {s b s''} h := by
    obtain ⟨n, s', hn, hb⟩ := bind_some h
    rw [(hf n).rest hb, hd.rest hn, hv hn, List.drop_drop]

end Number

theorem sized_u16_bind {f : UInt16 → Decoder β} {g : Nat → Nat}
    (hf : ∀ n, FixedWidth (f n) (g n.toNat)) : Sized (u16 >>= f) fun s => 2 + g (value (s.take 2)) :=
  sized_number_bind fixedWidth_u16 Codec.u16_value hf

theorem sized_u32_bind {f : UInt32 → Decoder β} {g : Nat → Nat}
    (hf : ∀ n, FixedWidth (f n) (g n.toNat)) : Sized (u32 >>= f) fun s => 4 + g (value (s.take 4)) :=
  sized_number_bind fixedWidth_u32 Codec.u32_value hf

theorem fixedWidth_times {d : Decoder α} {k : Nat} (hd : FixedWidth d k) (n : Nat) :
    FixedWidth (times n d) (n * k) := by
  induction n with
  | zero =>
    rw [Nat.zero_mul]
    exact fixedWidth_pure []
  | succ n ih =>
    have hwidth : (n + 1) * k = k + (n * k + 0) := by
      rw [Nat.succ_mul]
      omega
    rw [hwidth]
    exact sized_bind hd fun a => sized_bind ih fun as => fixedWidth_pure _

/-- The buffer holds `n` fields in a row, each of the size its own bytes say. -/
def Holds (size : List UInt8 → Nat) : Nat → List UInt8 → Prop
  | 0, _ => True
  | n + 1, s => size s ≤ s.length ∧ Holds size n (s.drop (size s))

theorem isSome_times {d : Decoder α} {size : List UInt8 → Nat} (hd : Sized d size) (n : Nat)
    (s : List UInt8) : (times n d s).isSome ↔ Holds size n s := by
  induction n generalizing s with
  | zero => simp [times, Holds]
  | succ n ih =>
    apply isSome_sized_bind hd
    intro a r
    rw [isSome_bind_pure]
    exact ih r

end Decoder

end ByteCodec
