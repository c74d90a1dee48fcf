import Mathlib.Tactic

/-!
Hexadecimal text: the digits that `%x` prints and the numbers they stand for.
-/

namespace DynamicGre

def hexDigit (n : Nat) : UInt8 := UInt8.ofNat (if n < 10 then 48 + n else 87 + n)

/-- `%08x`. -/
def hex08 (x : UInt32) : List UInt8 :=
  [28, 24, 20, 16, 12, 8, 4, 0].map fun shift => hexDigit (x.toNat / 2 ^ shift % 16)

/-- `%0*x` with a positive width. -/
def hexPad (width n : Nat) : List UInt8 :=
  let digits := (Nat.digits 16 n).reverse.map hexDigit
  List.replicate (width - digits.length) 48 ++ digits

/-- The number that a digit stands for. -/
def hexValue (c : UInt8) : Option Nat :=
  if 48 ≤ c.toNat ∧ c.toNat ≤ 57 then some (c.toNat - 48)
  else if 97 ≤ c.toNat ∧ c.toNat ≤ 102 then some (c.toNat - 87)
  else none

variable {m n : Nat}

theorem toNat_hexDigit (h : n < 16) :
    (hexDigit n).toNat = if n < 10 then 48 + n else 87 + n := by
  rw [hexDigit, UInt8.toNat_ofNat']
  apply Nat.mod_eq_of_lt
  split <;> omega

theorem hexValue_hexDigit (h : n < 16) : hexValue (hexDigit n) = some n := by
  rw [hexValue, toNat_hexDigit h]
  grind

theorem hexDigit_inj (hm : m < 16) (hn : n < 16) : hexDigit m = hexDigit n ↔ m = n := by
  constructor
  · intro h
    have hvalue := congrArg hexValue h
    rw [hexValue_hexDigit hm, hexValue_hexDigit hn] at hvalue
    exact Option.some.inj hvalue
  · exact congrArg hexDigit

theorem hexDigit_ne_zero {n : Nat} (h : n < 16) : hexDigit n ≠ 0 := by
  intro hzero
  have hnat : (if n < 10 then 48 + n else 87 + n) % 256 = 0 := by
    rw [← UInt8.toNat_ofNat']
    exact congrArg UInt8.toNat hzero
  split at hnat <;> omega

/-! ### Eight digits -/

theorem zero_notMem_hex08 (x : UInt32) : 0 ∉ hex08 x := by
  intro h
  obtain ⟨shift, -, hdigit⟩ := List.mem_map.mp h
  exact hexDigit_ne_zero (Nat.mod_lt _ (by decide)) hdigit

/-- The lowest digits make up the remainder. -/
theorem mod_pow_eq_of_digits {k : Nat} (h : ∀ i < k, m / 16 ^ i % 16 = n / 16 ^ i % 16) :
    m % 16 ^ k = n % 16 ^ k := by
  induction k with
  | zero => rw [Nat.pow_zero, Nat.mod_one, Nat.mod_one]
  | succ k ih =>
      have hlow := ih fun i hi => h i (Nat.lt_succ_of_lt hi)
      rw [Nat.mod_pow_succ, Nat.mod_pow_succ, hlow, h k (Nat.lt_succ_self k)]

/-- Eight digits hold every bit of the word. -/
theorem hex08_inj {x y : UInt32} : hex08 x = hex08 y ↔ x = y := by
  constructor
  · intro h
    have hdigits : ∀ i < 8, x.toNat / 16 ^ i % 16 = y.toNat / 16 ^ i % 16 := by
      intro i hi
      have hshift : 4 * i ∈ [28, 24, 20, 16, 12, 8, 4, 0] := by
        simp
        omega
      have hpow : 2 ^ (4 * i) = 16 ^ i := Nat.pow_mul 2 4 i
      rw [← hpow]
      apply (hexDigit_inj (Nat.mod_lt _ (by decide)) (Nat.mod_lt _ (by decide))).mp
      exact List.map_inj_left.mp h (4 * i) hshift
    have hmod : x.toNat % 2 ^ 32 = y.toNat % 2 ^ 32 := mod_pow_eq_of_digits hdigits
    rw [Nat.mod_eq_of_lt x.toNat_lt, Nat.mod_eq_of_lt y.toNat_lt] at hmod
    exact UInt32.toNat_inj.mp hmod
  · exact congrArg hex08

/-! ### Padded digits -/

/-- The last digit is printed after the others. -/
theorem hexPad_of_pos (width : Nat) (h : 0 < n) :
    hexPad width n = hexPad (width - 1) (n / 16) ++ [hexDigit (n % 16)] := by
  have hdigits : Nat.digits 16 n = n % 16 :: Nat.digits 16 (n / 16) :=
    Nat.digits_def' (by decide) h
  have hlength : width - ((Nat.digits 16 (n / 16)).length + 1) =
      width - 1 - (Nat.digits 16 (n / 16)).length := by omega
  simp [hexPad, hdigits, hlength]

theorem hexPad_zero (width : Nat) : hexPad width 0 = List.replicate width 48 := by
  simp [hexPad]

/-- A byte is printed as two digits. -/
theorem hexPad_two (h : n < 256) : hexPad 2 n = [hexDigit (n / 16), hexDigit (n % 16)] := by
  cases Nat.eq_zero_or_pos n with
  | inl hzero =>
      subst hzero
      exact hexPad_zero 2
  | inr hpos =>
      rw [hexPad_of_pos 2 hpos]
      cases Nat.eq_zero_or_pos (n / 16) with
      | inl hzero =>
          rw [hzero, hexPad_zero]
          rfl
      | inr hhigh =>
          have hsmall : n / 16 / 16 = 0 := by omega
          have hdigit : n / 16 % 16 = n / 16 := by omega
          rw [hexPad_of_pos 1 hhigh, hsmall, hdigit, hexPad_zero]
          rfl

/-- What is not a digit does not occur among the digits. -/
theorem notMem_hexPad {c : UInt8} (hc : hexValue c = none) (width n : Nat) :
    c ∉ hexPad width n := by
  have hdigit (d : Nat) (hd : d < 16) : c ≠ hexDigit d := by
    rintro rfl
    rw [hexValue_hexDigit hd] at hc
    cases hc
  intro h
  rcases List.mem_append.mp h with hpad | hmem
  · exact hdigit 0 (by decide) (List.eq_of_mem_replicate hpad)
  · obtain ⟨d, hd, heq⟩ := List.mem_map.mp hmem
    exact hdigit d (Nat.digits_lt_base (by decide) (List.mem_reverse.mp hd)) heq.symm

/-- The number that a row of digits stands for. -/
def hexNat (digits : List UInt8) : Option Nat :=
  digits.foldlM (fun value c => (hexValue c).map (16 * value + ·)) 0

theorem hexNat_append {digits : List UInt8} (h : hexNat digits = some m) (hn : n < 16) :
    hexNat (digits ++ [hexDigit n]) = some (16 * m + n) := by
  unfold hexNat at h ⊢
  rw [List.foldlM_append, h]
  simp [hexValue_hexDigit hn]

theorem hexNat_replicate (width : Nat) : hexNat (List.replicate width 48) = some 0 := by
  induction width with
  | zero => rfl
  | succ width ih =>
      rw [List.replicate_succ']
      exact hexNat_append (n := 0) ih (by decide)

/-- Whatever the width, the printed number is read back. -/
theorem hexNat_hexPad (width n : Nat) : hexNat (hexPad width n) = some n := by
  induction n using Nat.strong_induction_on generalizing width with
  | h n ih =>
      cases Nat.eq_zero_or_pos n with
      | inl hzero =>
          rw [hzero, hexPad_zero]
          exact hexNat_replicate width
      | inr hpos =>
          have hrest : hexNat (hexPad (width - 1) (n / 16)) = some (n / 16) :=
            ih _ (by omega) _
          have hlast : n % 16 < 16 := Nat.mod_lt _ (by decide)
          rw [hexPad_of_pos width hpos, hexNat_append hrest hlast, Nat.div_add_mod]

end DynamicGre
