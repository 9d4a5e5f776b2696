import ZdtmSync.Proto

/-!
# Decimal numbers in fixed columns

`%.{width}d` and `atoi`. A number that is not negative and not too large for its
column is written in as many digits as the column has, and read back.
-/

namespace ZdtmDecimals

open ZdtmProto

def IsDigit (c : UInt8) : Prop := 0x30 ≤ c ∧ c ≤ 0x39

instance (c : UInt8) : Decidable (IsDigit c) := inferInstanceAs (Decidable (_ ∧ _))

theorem digits_append {n : Nat} {s : List UInt8} (h : ∀ c ∈ s, IsDigit c) (s' : List UInt8) :
    digits n (s ++ s') = digits (digits n s) s' := by
  induction s generalizing n with
  | nil => rfl
  | cons c s ih =>
    have hc : 0x30 ≤ c ∧ c ≤ 0x39 := h c List.mem_cons_self
    simp only [List.cons_append, digits, if_pos hc]
    exact ih fun c hmem => h c (List.mem_cons_of_mem _ hmem)

theorem digits_zeros (k : Nat) (s : List UInt8) :
    digits 0 (List.replicate k 0x30 ++ s) = digits 0 s := by
  induction k with
  | zero => rfl
  | succ k ih => simpa [List.replicate_succ, digits] using ih

/-- A string of digits starts neither with a space nor with a sign. -/
theorem atoi_digits {s : List UInt8} (h : ∀ c ∈ s, IsDigit c) : atoi s = digits 0 s := by
  cases s with
  | nil => rfl
  | cons c s =>
    obtain ⟨hlow, hhigh⟩ := h c List.mem_cons_self
    rw [UInt8.le_iff_toNat_le] at hlow hhigh
    have hspace : isSpace c = false := by
      simp only [isSpace, decide_eq_false_iff_not, UInt8.le_iff_toNat_le, ← UInt8.toNat_inj]
      change 48 ≤ c.toNat at hlow
      change ¬ (c.toNat = 32 ∨ 9 ≤ c.toNat ∧ c.toNat ≤ 13)
      omega
    have hminus : c ≠ 0x2d := by
      rintro rfl
      exact absurd hlow (by decide)
    have hplus : c ≠ 0x2b := by
      rintro rfl
      exact absurd hlow (by decide)
    simp only [atoi, List.dropWhile_cons, hspace, Bool.false_eq_true, if_false]
    split
    · next hcons =>
      exact absurd (List.cons.inj hcons).1 hminus
    · next hcons =>
      exact absurd (List.cons.inj hcons).1 hplus
    · rfl

/-- The characters of a number. -/
def numeral (n : Nat) : List UInt8 := (Nat.toDigits 10 n).map fun c => UInt8.ofNat c.toNat

theorem digitChar_byte {d : Nat} (h : d < 10) :
    UInt8.ofNat (Nat.digitChar d).toNat = UInt8.ofNat (0x30 + d) := by
  rw [Nat.toNat_digitChar_of_lt_ten h]

theorem isDigit_ofNat {d : Nat} (h : d < 10) : IsDigit (UInt8.ofNat (0x30 + d)) := by
  have hbyte : (UInt8.ofNat (0x30 + d)).toNat = 0x30 + d :=
    UInt8.toNat_ofNat_of_lt' (by change 0x30 + d < 256; omega)
  simp only [IsDigit, UInt8.le_iff_toNat_le, hbyte]
  change 48 ≤ 48 + d ∧ 48 + d ≤ 57
  omega

/-- The last digit comes off the end. -/
theorem numeral_eq (n : Nat) :
    numeral n = (if n < 10 then [] else numeral (n / 10)) ++ [UInt8.ofNat (0x30 + n % 10)] := by
  simp only [numeral]
  rw [Nat.toDigits_eq_if (by decide)]
  split
  · next hlt => simp [digitChar_byte hlt, Nat.mod_eq_of_lt hlt]
  · simp [digitChar_byte (Nat.mod_lt n (by decide : 0 < 10))]

theorem numeral_isDigit (n : Nat) : ∀ c ∈ numeral n, IsDigit c := by
  induction n using Nat.strongRecOn with
  | ind n ih =>
    intro c hc
    rw [numeral_eq, List.mem_append, List.mem_singleton] at hc
    obtain hfront | rfl := hc
    · by_cases hlt : n < 10
      · simp [hlt] at hfront
      · rw [if_neg hlt] at hfront
        exact ih (n / 10) (by omega) c hfront
    · exact isDigit_ofNat (Nat.mod_lt n (by decide))

theorem digits_numeral (n : Nat) : digits 0 (numeral n) = n := by
  induction n using Nat.strongRecOn with
  | ind n ih =>
    have hmod : n % 10 < 10 := Nat.mod_lt n (by decide)
    have hbyte : (UInt8.ofNat (0x30 + n % 10)).toNat = 0x30 + n % 10 :=
      UInt8.toNat_ofNat_of_lt' (by change 0x30 + n % 10 < 256; omega)
    have hdigit : 0x30 ≤ UInt8.ofNat (0x30 + n % 10) ∧ UInt8.ofNat (0x30 + n % 10) ≤ 0x39 :=
      isDigit_ofNat hmod
    rw [numeral_eq]
    by_cases hlt : n < 10
    · simp only [if_pos hlt, List.nil_append, digits, if_pos hdigit, hbyte]
      omega
    · rw [if_neg hlt, digits_append (numeral_isDigit (n / 10)), ih (n / 10) (by omega)]
      simp only [digits, if_pos hdigit, hbyte]
      omega

theorem length_numeral {n width : Nat} (hwidth : 0 < width) (h : n < 10 ^ width) :
    (numeral n).length ≤ width := by
  rw [numeral, List.length_map]
  exact (Nat.length_toDigits_le_iff (by decide) hwidth).mpr h

section Column

variable {width : Nat} {n : Int}

theorem decimal_nonneg (h : 0 ≤ n) :
    decimal width n = List.replicate (width - (numeral n.toNat).length) 0x30 ++ numeral n.toNat := by
  have hneg : ¬ n < 0 := Int.not_lt.mpr h
  have habs : n.natAbs = n.toNat := by omega
  simp only [decimal, if_neg hneg, List.nil_append, habs, List.leftpad, numeral]

theorem decimal_isDigit (h : 0 ≤ n) : ∀ c ∈ decimal width n, IsDigit c := by
  intro c hc
  rw [decimal_nonneg h, List.mem_append] at hc
  obtain hzero | hdigit := hc
  · rw [List.eq_of_mem_replicate hzero]
    decide
  · exact numeral_isDigit _ c hdigit

/-- A number that is too large for its column takes as many digits as it has. -/
theorem length_decimal_le {k : Nat} (hk : 0 < k) (hwidth : width ≤ k) (h : 0 ≤ n)
    (hlt : n < 10 ^ k) : (decimal width n).length ≤ k := by
  have hnat : n.toNat < 10 ^ k := by
    rw [Int.toNat_lt h]
    exact_mod_cast hlt
  have hle := length_numeral hk hnat
  rw [decimal_nonneg h, List.length_append, List.length_replicate]
  omega

theorem length_decimal (hwidth : 0 < width) (h : 0 ≤ n) (hlt : n < 10 ^ width) :
    (decimal width n).length = width := by
  have hle := length_decimal_le hwidth (Nat.le_refl width) h hlt
  rw [decimal_nonneg h, List.length_append, List.length_replicate] at hle ⊢
  omega

/-- What was written into a column is read back. -/
theorem atoi_decimal (h : 0 ≤ n) : atoi (decimal width n) = n := by
  rw [atoi_digits (decimal_isDigit h), decimal_nonneg h, digits_zeros, digits_numeral]
  omega

end Column

end ZdtmDecimals
