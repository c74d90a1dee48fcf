import DynamicGre.FirstMatch
import DynamicGre.Prompt.Strtoul

/-!
The words that the two prompts read, and what a word says as a number. The
prompts store the result of `strtoul` in an `unsigned`.
-/

namespace DynamicGre

/-- What one `scanf("%15s", buf)` stores in `buf`. -/
structure Token where
  chars : List UInt8
  nonempty : chars ≠ []
  short : chars.length ≤ 15
  noSpace : ∀ c ∈ chars, isSpace c = false
  nulFree : 0 ∉ chars

/-- The conversion of an integer to `unsigned`. -/
def asUnsigned (v : Int) : Nat := (v % 2 ^ 32).toNat

/-- The conversion of an `unsigned` to `int`. -/
def asInt (id : Nat) : Int := if id < 2 ^ 31 then id else id - 2 ^ 32

theorem asUnsigned_eq_iff {a v : Int} : asUnsigned a = asUnsigned v ↔ (v - a) % 2 ^ 32 = 0 := by
  unfold asUnsigned
  omega

theorem asInt_asUnsigned {a : Int} (hlow : 0 ≤ a) (hhigh : a < 2 ^ 31) :
    asInt (asUnsigned a) = a := by
  unfold asInt asUnsigned
  split <;> omega

/-- `id`, when `*buf != '\0' && *endptr == '\0'`. -/
def readNumber (buf : List UInt8) : Option Nat :=
  let read := strtoul10 buf
  if buf ≠ [] ∧ read.2 = [] then some (read.1 % 2 ^ 32) else none

/-- A word is taken for a number when it is a numeral, and then for its value
modulo the width of `unsigned`. -/
theorem readNumber_token (tok : Token) :
    readNumber tok.chars = (numeral tok.chars).map asUnsigned := by
  have hspace : tok.chars.dropWhile isSpace = tok.chars := by
    obtain ⟨c, rest, hchars⟩ := List.exists_cons_of_ne_nil tok.nonempty
    have hc := tok.noSpace c (hchars ▸ List.mem_cons_self)
    rw [hchars, List.dropWhile_cons_of_neg (by simp [hc])]
  have hshort := tok.short
  unfold readNumber
  cases hnum : numeral tok.chars with
  | none =>
      have hend := strtoul10_of_not_numeral hspace tok.nonempty hnum
      exact if_neg fun h => hend h.2
  | some v =>
      obtain ⟨hvalue, hend⟩ := strtoul10_of_numeral hspace (by omega) hnum
      have hid : (strtoul10 tok.chars).1 % 2 ^ 32 = asUnsigned v := by
        unfold asUnsigned
        omega
      rw [if_pos ⟨tok.nonempty, hend⟩, hid]
      rfl

end DynamicGre
