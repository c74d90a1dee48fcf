import Mathlib.Data.List.TakeWhile
import Mathlib.Tactic

/-!
`strtoul` with base 10 in the C locale, and the integers that decimal numerals
stand for. A numeral that fits its result is read as the integer modulo the
width of `unsigned long`.
-/

namespace DynamicGre

/-- `isspace`. -/
def isSpace (c : UInt8) : Bool := c.toNat = 32 ∨ (9 ≤ c.toNat ∧ c.toNat ≤ 13)

-- decides the characters of the list, not all 256 of them
instance (chars : List UInt8) : Decidable (∀ c ∈ chars, isSpace c = false) :=
  List.decidableBAll _ chars

def isDigit (c : UInt8) : Bool := 48 ≤ c.toNat ∧ c.toNat ≤ 57

def ULONG_MAX : Nat := 2 ^ 64 - 1

/-- Whether a minus sign is there, and what follows the sign. -/
def splitSign : List UInt8 → Bool × List UInt8
  | [] => (false, [])
  | c :: rest =>
      if c = '-'.toUInt8 then (true, rest)
      else if c = '+'.toUInt8 then (false, rest)
      else (false, c :: rest)

def digitsValue (digits : List UInt8) : Nat :=
  digits.foldl (fun value c => 10 * value + (c.toNat - 48)) 0

/-- `strtoul(s, &endptr, 10)`: the value and the characters from `endptr` on. -/
def strtoul10 (s : List UInt8) : Nat × List UInt8 :=
  let signed := splitSign (s.dropWhile isSpace)
  let digits := signed.2.takeWhile isDigit
  if digits = [] then (0, s)
  else
    let value := digitsValue digits
    let ret :=
      if ULONG_MAX < value then ULONG_MAX
      else if signed.1 then (2 ^ 64 - value) % 2 ^ 64
      else value
    (ret, signed.2.dropWhile isDigit)

/-- The integer that an optional sign and decimal digits stand for. -/
def numeral (s : List UInt8) : Option Int :=
  let signed := splitSign s
  if signed.2 ≠ [] ∧ signed.2.all isDigit then
    some (if signed.1 then -digitsValue signed.2 else digitsValue signed.2)
  else none

section Digits

variable {digits : List UInt8}

theorem digitsValue_lt (h : digits.all isDigit = true) :
    digitsValue digits < 10 ^ digits.length := by
  induction digits using List.reverseRecOn with
  | nil => exact Nat.one_pos
  | append_singleton digits c ih =>
      rw [List.all_append, Bool.and_eq_true] at h
      have hrest := ih h.1
      have hdigit : 48 ≤ c.toNat ∧ c.toNat ≤ 57 := by simpa [isDigit] using h.2
      have hvalue : digitsValue (digits ++ [c]) = 10 * digitsValue digits + (c.toNat - 48) := by
        rw [digitsValue, List.foldl_append]
        rfl
      rw [hvalue, List.length_append, List.length_singleton, Nat.pow_succ]
      omega

theorem takeWhile_of_all (h : digits.all isDigit = true) : digits.takeWhile isDigit = digits :=
  List.takeWhile_eq_self_iff.mpr (List.all_eq_true.mp h)

theorem dropWhile_eq_nil_iff_all : digits.dropWhile isDigit = [] ↔ digits.all isDigit = true := by
  rw [List.dropWhile_eq_nil_iff, List.all_eq_true]

end Digits

section Strtoul

variable {s : List UInt8}

theorem length_splitSign (s : List UInt8) : (splitSign s).2.length ≤ s.length := by
  cases s with
  | nil => exact Nat.le_refl 0
  | cons c rest =>
      rw [splitSign]
      split
      · exact Nat.le_succ rest.length
      · split
        · exact Nat.le_succ rest.length
        · exact Nat.le_refl _

/-- A numeral is read to its end, and its value modulo the width is returned. -/
theorem strtoul10_of_numeral (hspace : s.dropWhile isSpace = s) (hlen : s.length ≤ 19) {v : Int}
    (h : numeral s = some v) : ((strtoul10 s).1 : Int) = v % 2 ^ 64 ∧ (strtoul10 s).2 = [] := by
  have hshort := length_splitSign s
  unfold numeral at h
  rw [strtoul10, hspace]
  generalize splitSign s = signed at h hshort ⊢
  obtain ⟨negative, digits⟩ := signed
  dsimp only at h hshort ⊢
  split at h
  · rename_i hdigits
    obtain ⟨hne, hall⟩ := hdigits
    have hvalue := digitsValue_lt hall
    have hbound : digitsValue digits < 10 ^ 19 :=
      lt_of_lt_of_le hvalue (Nat.pow_le_pow_right (by decide) (by omega))
    have hfits : ¬ULONG_MAX < digitsValue digits := by
      unfold ULONG_MAX
      omega
    rw [takeWhile_of_all hall, if_neg hne, if_neg hfits, ← Option.some.inj h]
    refine ⟨?_, dropWhile_eq_nil_iff_all.mpr hall⟩
    cases negative <;> simp <;> omega
  · cases h

/-- What is no numeral is not read to its end. -/
theorem strtoul10_of_not_numeral (hspace : s.dropWhile isSpace = s) (hne : s ≠ [])
    (h : numeral s = none) : (strtoul10 s).2 ≠ [] := by
  unfold numeral at h
  rw [strtoul10, hspace]
  generalize splitSign s = signed at h ⊢
  obtain ⟨negative, digits⟩ := signed
  dsimp only at h ⊢
  split at h
  · cases h
  · rename_i hdigits
    split
    · exact hne
    · rename_i htake
      intro hdrop
      apply hdigits
      refine ⟨?_, dropWhile_eq_nil_iff_all.mp hdrop⟩
      rintro rfl
      exact htake rfl

end Strtoul

end DynamicGre
