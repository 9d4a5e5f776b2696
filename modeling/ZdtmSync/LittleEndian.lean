import Mathlib.Data.Nat.Digits.Defs

/-!
# Fixed-width little-endian bytes

A natural number is laid out in exactly `w` bytes, least significant first,
and a list of bytes spells a natural number. The two maps are inverse to each
other below `256 ^ w`, and every fixed-width list of bytes is the layout of
the number it spells.
-/

namespace LittleEndian

/-- The `w` low bytes of `n`, least significant first. -/
def bytes : Nat → Nat → List UInt8
  | 0, _ => []
  | w + 1, n => UInt8.ofNat n :: bytes w (n / 256)

/-- The number a list of bytes spells, least significant byte first. -/
def value (bs : List UInt8) : Nat := Nat.ofDigits 256 (bs.map UInt8.toNat)

@[simp] theorem bytes_zero (n : Nat) : bytes 0 n = [] := rfl
@[simp] theorem value_nil : value [] = 0 := rfl

theorem bytes_succ (w n : Nat) : bytes (w + 1) n = UInt8.ofNat n :: bytes w (n / 256) := rfl

@[simp] theorem length_bytes (w n : Nat) : (bytes w n).length = w := by
  induction w generalizing n with
  | zero => rfl
  | succ w ih => simp [bytes, ih]

theorem value_cons (b : UInt8) (bs : List UInt8) :
    value (b :: bs) = b.toNat + 256 * value bs := by
  simp [value, Nat.ofDigits_cons]

theorem value_lt (bs : List UInt8) : value bs < 256 ^ bs.length := by
  have h := Nat.ofDigits_lt_base_pow_length (b := 256) (l := bs.map UInt8.toNat) (by decide)
    (by
      intro x hx
      obtain ⟨b, -, rfl⟩ := List.mem_map.mp hx
      exact b.toNat_lt)
  simpa [value] using h

/-- Reading back a layout keeps exactly the digits that fit. -/
theorem value_bytes (w n : Nat) : value (bytes w n) = n % 256 ^ w := by
  induction w generalizing n with
  | zero => simp [Nat.mod_one]
  | succ w ih =>
    rw [bytes_succ, value_cons, ih, pow_succ', Nat.mod_mul]
    simp

theorem value_bytes_of_lt {w n : Nat} (h : n < 256 ^ w) : value (bytes w n) = n := by
  rw [value_bytes, Nat.mod_eq_of_lt h]

/-- Every list of bytes is the layout of the number it spells. -/
theorem bytes_value (bs : List UInt8) : bytes bs.length (value bs) = bs := by
  induction bs with
  | nil => rfl
  | cons b bs ih =>
    have hb : b.toNat < 256 := b.toNat_lt
    rw [List.length_cons, bytes_succ, value_cons]
    have hlow : UInt8.ofNat (b.toNat + 256 * value bs) = b := by
      apply UInt8.toNat_inj.mp
      simp
    have hhigh : (b.toNat + 256 * value bs) / 256 = value bs := by omega
    rw [hlow, hhigh, ih]

theorem bytes_inj_of_lt {w m n : Nat} (hm : m < 256 ^ w) (hn : n < 256 ^ w)
    (h : bytes w m = bytes w n) : m = n := by
  have he := congrArg value h
  rwa [value_bytes_of_lt hm, value_bytes_of_lt hn] at he

theorem bytes_two (n : Nat) : bytes 2 n = [UInt8.ofNat n, UInt8.ofNat (n / 256)] := rfl

end LittleEndian
