import DynamicGre.Bytes
import DynamicGre.Prompt.Strtoul

/-!
Decimal text: the digits that `%d` prints, numbers of a bounded width read back
from them, and IPv4 addresses as four such numbers.
-/

namespace DynamicGre

open Bytes

/-- The bytes of a string literal. -/
def ascii (s : String) : List UInt8 := s.toList.map Char.toUInt8

/-- `%u`. -/
def decimal (n : Nat) : List UInt8 := (Nat.toDigits 10 n).map Char.toUInt8

/-- The number below `bound` that a word spells. -/
def readDecimal (bound : Nat) (word : List UInt8) : Option Nat :=
  if word ≠ [] ∧ word.all isDigit ∧ digitsValue word < bound then some (digitsValue word) else none

/-- `inet_ntop(AF_INET, ...)`: the bytes of the address as they lie in memory. -/
def inetNtop (addr : UInt32) : List UInt8 :=
  List.intercalate (ascii ".") ((bytes32 addr).map fun b => decimal b.toNat)

/-- The address that four numbers with dots between them spell. -/
def readAddr (word : List UInt8) : Option UInt32 :=
  match (word.splitOn 46).mapM (readDecimal 256) with
  | some [b0, b1, b2, b3] =>
      some (le32 (UInt8.ofNat b0) (UInt8.ofNat b1) (UInt8.ofNat b2) (UInt8.ofNat b3))
  | _ => none

variable {n bound : Nat} {c : UInt8}

/-! ### Digits -/

theorem toNat_digitChar (h : n < 10) : n.digitChar.toUInt8.toNat = 48 + n := by
  have hchar : ∀ n : Fin 10, n.val.digitChar.toUInt8.toNat = 48 + n.val := by decide
  exact hchar ⟨n, h⟩

theorem decimal_of_lt (h : n < 10) : decimal n = [n.digitChar.toUInt8] := by
  rw [decimal, Nat.toDigits_of_lt_base h]
  rfl

theorem decimal_of_le (h : 10 ≤ n) :
    decimal n = decimal (n / 10) ++ [(n % 10).digitChar.toUInt8] := by
  rw [decimal, Nat.toDigits_of_base_le (by decide) h, List.map_append]
  rfl

theorem decimal_ne_nil (n : Nat) : decimal n ≠ [] := by
  by_cases h : n < 10
  · rw [decimal_of_lt h]
    exact List.cons_ne_nil _ _
  · rw [decimal_of_le (not_lt.mp h)]
    exact List.append_ne_nil_of_right_ne_nil _ (List.cons_ne_nil _ _)

theorem isDigit_of_mem_decimal (h : c ∈ decimal n) : isDigit c = true := by
  have hdigit {d : Nat} (hd : d < 10) : isDigit d.digitChar.toUInt8 = true := by
    have hvalue := toNat_digitChar hd
    unfold isDigit
    rw [decide_eq_true_eq]
    omega
  induction n using Nat.strong_induction_on with
  | h n ih =>
      by_cases hn : n < 10
      · rw [decimal_of_lt hn, List.mem_singleton] at h
        rw [h]
        exact hdigit hn
      · rw [decimal_of_le (not_lt.mp hn), List.mem_append, List.mem_singleton] at h
        rcases h with hrest | rfl
        · exact ih (n / 10) (by omega) hrest
        · exact hdigit (Nat.mod_lt _ (by decide))

theorem digitsValue_append (digits : List UInt8) (h : n < 10) :
    digitsValue (digits ++ [n.digitChar.toUInt8]) = 10 * digitsValue digits + n := by
  have hvalue := toNat_digitChar h
  rw [digitsValue, List.foldl_append]
  change 10 * digitsValue digits + (n.digitChar.toUInt8.toNat - 48) = _
  omega

/-- The printed digits stand for the number. -/
theorem digitsValue_decimal (n : Nat) : digitsValue (decimal n) = n := by
  induction n using Nat.strong_induction_on with
  | h n ih =>
      by_cases hn : n < 10
      · rw [decimal_of_lt hn]
        have hsingle := digitsValue_append [] hn
        rw [List.nil_append] at hsingle
        rw [hsingle]
        exact Nat.zero_add n
      · rw [decimal_of_le (not_lt.mp hn), digitsValue_append _ (Nat.mod_lt _ (by decide)),
          ih (n / 10) (by omega)]
        omega

theorem readDecimal_decimal (h : n < bound) : readDecimal bound (decimal n) = some n := by
  have hall : (decimal n).all isDigit = true :=
    List.all_eq_true.mpr fun c hc => isDigit_of_mem_decimal hc
  unfold readDecimal
  rw [digitsValue_decimal]
  exact if_pos ⟨decimal_ne_nil n, hall, h⟩

theorem notMem_decimal (hc : isDigit c = false) : c ∉ decimal n := by
  intro h
  rw [isDigit_of_mem_decimal h] at hc
  cases hc

theorem length_decimal_byte (b : UInt8) : (decimal b.toNat).length ≤ 3 := by
  have hb := b.toNat_lt
  have hone {m : Nat} (h : m < 10) : (decimal m).length = 1 := by
    rw [decimal_of_lt h]
    rfl
  have hmore {m : Nat} (h : 10 ≤ m) : (decimal m).length = (decimal (m / 10)).length + 1 := by
    rw [decimal_of_le h, List.length_append]
    rfl
  by_cases h10 : b.toNat < 10
  · rw [hone h10]
    decide
  · rw [hmore (not_lt.mp h10)]
    by_cases h100 : b.toNat / 10 < 10
    · rw [hone h100]
      decide
    · rw [hmore (not_lt.mp h100), hone (by omega)]

/-! ### Addresses -/

/-- The four numbers of an address. -/
theorem inetNtop_eq (addr : UInt32) : ∃ b0 b1 b2 b3 : UInt8, le32 b0 b1 b2 b3 = addr ∧
    inetNtop addr = decimal b0.toNat ++ 46 :: (decimal b1.toNat ++ 46 ::
      (decimal b2.toNat ++ 46 :: decimal b3.toNat)) :=
  ⟨_, _, _, _, le32_bytes32 addr, by
    have hdot : ascii "." = [46] := rfl
    simp [inetNtop, bytes32, List.intercalate, List.intersperse, hdot]⟩

/-- The text and its terminator fit a buffer of `INET_ADDRSTRLEN` bytes. -/
theorem length_inetNtop (addr : UInt32) : (inetNtop addr).length < 16 := by
  obtain ⟨b0, b1, b2, b3, -, htext⟩ := inetNtop_eq addr
  have h0 := length_decimal_byte b0
  have h1 := length_decimal_byte b1
  have h2 := length_decimal_byte b2
  have h3 := length_decimal_byte b3
  simp only [htext, List.length_append, List.length_cons]
  omega

theorem readAddr_inetNtop (addr : UInt32) : readAddr (inetNtop addr) = some addr := by
  obtain ⟨b0, b1, b2, b3, haddr, htext⟩ := inetNtop_eq addr
  have hdot (n : Nat) : (46 : UInt8) ∉ decimal n := notMem_decimal (by decide)
  have hread (b : UInt8) : readDecimal 256 (decimal b.toNat) = some b.toNat :=
    readDecimal_decimal b.toNat_lt
  rw [readAddr, htext, List.splitOn_append_cons_self_of_not_mem (hdot _),
    List.splitOn_append_cons_self_of_not_mem (hdot _),
    List.splitOn_append_cons_self_of_not_mem (hdot _), List.splitOn_eq_singleton (hdot _)]
  simp only [List.mapM_cons, List.mapM_nil, hread, Option.pure_def, Option.bind_eq_bind,
    Option.bind_some, UInt8.ofNat_toNat, haddr]

theorem mem_inetNtop {addr : UInt32} (h : c ∈ inetNtop addr) : isDigit c = true ∨ c = 46 := by
  obtain ⟨b0, b1, b2, b3, -, htext⟩ := inetNtop_eq addr
  simp only [htext, List.mem_append, List.mem_cons] at h
  have hdigit {n : Nat} (hc : c ∈ decimal n) : isDigit c = true ∨ c = 46 :=
    Or.inl (isDigit_of_mem_decimal hc)
  rcases h with h | rfl | h | rfl | h | rfl | h
  · exact hdigit h
  · exact Or.inr rfl
  · exact hdigit h
  · exact Or.inr rfl
  · exact hdigit h
  · exact Or.inr rfl
  · exact hdigit h

theorem inetNtop_ne_nil (addr : UInt32) : inetNtop addr ≠ [] := by
  obtain ⟨b0, b1, b2, b3, -, htext⟩ := inetNtop_eq addr
  rw [htext]
  exact List.append_ne_nil_of_right_ne_nil _ (List.cons_ne_nil _ _)

end DynamicGre
