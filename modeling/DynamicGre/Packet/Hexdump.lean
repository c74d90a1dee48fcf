import DynamicGre.Folds
import DynamicGre.Hex

/-!
The dump that the Project's `parse_packet` writes of each frame. One counter
runs over the bytes and the padding of the last row. The dump is read back row
by row from its two-digit groups.
-/

namespace DynamicGre

def HEXDUMP_COLS : Nat := 8

def newline : UInt8 := 10

def blank : UInt8 := 32

/-- The value of `((char *)mem)[i]`, where `char` is signed. -/
def charValue (byte : UInt8) : Int := byte.toInt8.toInt

/-- `0xFF & c`. -/
def lowByte (c : Int) : Nat := (c % 256).toNat

/-- The bound of the counter, in `size_t`. -/
def dumpBound (len : Nat) : Nat :=
  (len + if len % HEXDUMP_COLS ≠ 0 then HEXDUMP_COLS - len % HEXDUMP_COLS else 0) % 2 ^ 64

section Dump

variable (isprint : Int → Bool) (mem : List UInt8)

/-- `"0x%06zx: "` at the start of a row. -/
def dumpOffset (i : Nat) : List UInt8 :=
  ['0', 'x'].map (·.toUInt8) ++ hexPad 6 i ++ [':', ' '].map (·.toUInt8)

/-- `"%02x "`, or three blanks past the end. -/
def dumpHex (i : Nat) : List UInt8 :=
  match mem[i]? with
  | some byte => hexPad 2 (lowByte (charValue byte)) ++ [blank]
  | none => [blank, blank, blank]

def dumpAscii (j : Nat) : UInt8 :=
  match mem[j]? with
  | none => blank
  | some byte =>
      if isprint (charValue byte) then UInt8.ofNat (lowByte (charValue byte)) else '.'.toUInt8

/-- The body of the loop over `i`. -/
def dumpByte (i : Nat) : List UInt8 :=
  (if i % HEXDUMP_COLS = 0 then dumpOffset i else []) ++
    dumpHex mem i ++
    if i % HEXDUMP_COLS = HEXDUMP_COLS - 1 then
      (List.range' (i - (HEXDUMP_COLS - 1)) HEXDUMP_COLS).map (dumpAscii isprint mem) ++ [newline]
    else []

def hexdump : List UInt8 := (List.range (dumpBound mem.length)).flatMap (dumpByte isprint mem)

end Dump

/-! ### Reading a dump -/

/-- The bytes of the two-digit groups up to the first blank group. What is neither
is not a dump. -/
def readGroups : List UInt8 → Option (List UInt8)
  | [] => some []
  | high :: low :: gap :: rest =>
      if [high, low, gap] = [blank, blank, blank] then some []
      else if gap ≠ blank then none
      else do
        let h ← hexValue high
        let l ← hexValue low
        let bytes ← readGroups rest
        return UInt8.ofNat (16 * h + l) :: bytes
  | _ => none

/-- The bytes of a line, read from the 24 characters after the offset. -/
def readLine (line : List UInt8) : Option (List UInt8) :=
  readGroups (((line.dropWhile (· ≠ ':'.toUInt8)).drop 2).take (3 * HEXDUMP_COLS))

/-! ### The rows of a dump -/

section Rows

variable {isprint : Int → Bool} {mem : List UInt8}

/-- Sign extension does not reach the low byte. -/
theorem lowByte_charValue (byte : UInt8) : lowByte (charValue byte) = byte.toNat := by
  have h : charValue byte = (byte.toNat : Int).bmod 256 :=
    BitVec.toInt_eq_toNat_bmod byte.toBitVec
  have hmod : (byte.toNat : Int).bmod 256 % 256 = byte.toNat % 256 := Int.bmod_emod
  have hbyte := byte.toNat_lt
  rw [lowByte, h, hmod]
  omega

theorem dumpBound_eq {len : Nat} (h : len < 2 ^ 64 - 8) :
    dumpBound len = HEXDUMP_COLS * ((len + 7) / 8) := by
  unfold dumpBound HEXDUMP_COLS
  split <;> omega

/-- The hexadecimal column of the row at `i`. -/
def hexColumn (mem : List UInt8) (i : Nat) : List UInt8 :=
  (List.range' i HEXDUMP_COLS).flatMap (dumpHex mem)

def asciiColumn (isprint : Int → Bool) (mem : List UInt8) (i : Nat) : List UInt8 :=
  (List.range' i HEXDUMP_COLS).map (dumpAscii isprint mem)

def dumpRow (isprint : Int → Bool) (mem : List UInt8) (row : Nat) : List UInt8 :=
  dumpOffset (8 * row) ++ hexColumn mem (8 * row) ++ asciiColumn isprint mem (8 * row)

theorem lastColumn : HEXDUMP_COLS - 1 = 7 := rfl

theorem dumpByte_first (row : Nat) : dumpByte isprint mem (8 * row) =
    dumpOffset (8 * row) ++ dumpHex mem (8 * row) := by
  have hmod : 8 * row % HEXDUMP_COLS = 0 := Nat.mul_mod_right 8 row
  rw [dumpByte, if_pos hmod, hmod, if_neg (by decide), List.append_nil]

theorem dumpByte_inner {row c : Nat} (h0 : 0 < c) (h7 : c < 7) :
    dumpByte isprint mem (8 * row + c) = dumpHex mem (8 * row + c) := by
  have hmod : (8 * row + c) % HEXDUMP_COLS = c := by
    unfold HEXDUMP_COLS
    omega
  rw [dumpByte, hmod, lastColumn, if_neg h0.ne', if_neg h7.ne, List.append_nil, List.nil_append]

theorem dumpByte_last (row : Nat) : dumpByte isprint mem (8 * row + 7) =
    dumpHex mem (8 * row + 7) ++ (asciiColumn isprint mem (8 * row) ++ [newline]) := by
  have hmod : (8 * row + 7) % HEXDUMP_COLS = 7 := by
    unfold HEXDUMP_COLS
    omega
  rw [dumpByte, hmod, if_neg (by decide), if_pos lastColumn.symm, List.nil_append]
  rfl

theorem dumpByte_row (row : Nat) :
    (List.range' (8 * row) HEXDUMP_COLS).flatMap (dumpByte isprint mem) =
      dumpRow isprint mem row ++ [newline] := by
  have hcols : List.range' (8 * row) HEXDUMP_COLS =
      8 * row :: (List.range' (8 * row + 1) 6 ++ [8 * row + 7]) := rfl
  have hinner : (List.range' (8 * row + 1) 6).flatMap (dumpByte isprint mem) =
      (List.range' (8 * row + 1) 6).flatMap (dumpHex mem) := by
    apply List.flatMap_congr
    intro i hi
    obtain ⟨hlow, hhigh⟩ := List.mem_range'_1.mp hi
    have hcol := @dumpByte_inner isprint mem row (i - 8 * row) (by omega) (by omega)
    rwa [Nat.add_sub_cancel' (by omega)] at hcol
  simp only [dumpRow, hexColumn, hcols, List.flatMap_cons, List.flatMap_append, List.flatMap_nil,
    dumpByte_first, hinner, dumpByte_last, List.append_assoc, List.append_nil]

theorem flatMap_range_mul {α : Type} (f : Nat → List α) (n : Nat) :
    (List.range (HEXDUMP_COLS * n)).flatMap f =
      (List.range n).flatMap fun row => (List.range' (8 * row) HEXDUMP_COLS).flatMap f := by
  induction n with
  | zero => rfl
  | succ n ih =>
      rw [Nat.mul_succ, List.range_add, List.flatMap_append, ih, List.range_succ,
        List.flatMap_append]
      congr 1
      simp [List.range'_eq_map_range, HEXDUMP_COLS]

/-- The dump is its rows, each ended by a newline. -/
theorem hexdump_eq_rows (h : mem.length < 2 ^ 64 - 8) :
    hexdump isprint mem = (List.range ((mem.length + 7) / 8)).flatMap
      fun row => dumpRow isprint mem row ++ [newline] := by
  rw [hexdump, dumpBound_eq h, flatMap_range_mul]
  simp only [dumpByte_row]

/-! ### A row is read back -/

theorem dumpHex_of_lt {i : Nat} (h : i < mem.length) : dumpHex mem i =
    [hexDigit (mem[i].toNat / 16), hexDigit (mem[i].toNat % 16), blank] := by
  rw [dumpHex, List.getElem?_eq_getElem h]
  dsimp only
  rw [lowByte_charValue, hexPad_two mem[i].toNat_lt]
  rfl

theorem dumpHex_of_le {i : Nat} (h : mem.length ≤ i) : dumpHex mem i = [blank, blank, blank] := by
  rw [dumpHex, List.getElem?_eq_none h]

theorem length_dumpHex (i : Nat) : (dumpHex mem i).length = 3 := by
  cases Nat.lt_or_ge i mem.length with
  | inl hlt => rw [dumpHex_of_lt hlt]; rfl
  | inr hle => rw [dumpHex_of_le hle]; rfl

theorem length_hexColumn (i : Nat) : (hexColumn mem i).length = 24 := by
  rw [hexColumn, List.length_flatMap, funext length_dumpHex]
  rfl

/-- Each group stands in three characters of its own. -/
theorem group_dumpHex {c n : Nat} (h : c < n) (i : Nat) :
    (((List.range' i n).flatMap (dumpHex mem)).drop (3 * c)).take 3 = dumpHex mem (i + c) := by
  induction c generalizing i n with
  | zero =>
      obtain ⟨n, rfl⟩ := Nat.exists_eq_add_of_lt h
      rw [Nat.zero_add, List.range'_succ, List.flatMap_cons]
      exact List.take_left' (length_dumpHex i)
  | succ c ih =>
      obtain ⟨n, rfl⟩ := Nat.exists_eq_succ_of_ne_zero (Nat.ne_zero_of_lt h)
      have hnext : i + (c + 1) = i + 1 + c := by omega
      rw [List.range'_succ, List.flatMap_cons, Nat.mul_succ, Nat.add_comm, ← List.drop_drop,
        List.drop_left' (length_dumpHex i), hnext]
      exact ih (Nat.lt_of_succ_lt_succ h) (i + 1)

theorem hexDigit_ne_blank {d : Nat} (h : d < 16) : hexDigit d ≠ blank := by
  intro heq
  have hvalue := hexValue_hexDigit h
  rw [heq] at hvalue
  exact absurd hvalue (by simp [show hexValue blank = none by decide])

/-- The groups of a column end with the buffer. -/
theorem readGroups_dumpHex (i n : Nat) :
    readGroups ((List.range' i n).flatMap (dumpHex mem)) = some ((mem.drop i).take n) := by
  induction n generalizing i with
  | zero => rfl
  | succ n ih =>
      rw [List.range'_succ, List.flatMap_cons]
      cases Nat.lt_or_ge i mem.length with
      | inl hlt =>
          have hhigh : mem[i].toNat / 16 < 16 := by
            have hbyte := mem[i].toNat_lt
            omega
          have hlow : mem[i].toNat % 16 < 16 := Nat.mod_lt _ (by decide)
          have hbyte : UInt8.ofNat (16 * (mem[i].toNat / 16) + mem[i].toNat % 16) = mem[i] := by
            rw [Nat.div_add_mod, UInt8.ofNat_toNat]
          rw [dumpHex_of_lt hlt, List.drop_eq_getElem_cons hlt, List.take_succ_cons]
          simp [readGroups, ih, hexDigit_ne_blank hhigh, hexValue_hexDigit hhigh,
            hexValue_hexDigit hlow, -UInt8.ofNat_add, hbyte]
      | inr hle =>
          rw [dumpHex_of_le hle, List.drop_eq_nil_of_le hle]
          rfl

theorem readLine_dumpRow (row : Nat) :
    readLine (dumpRow isprint mem row) = some ((mem.drop (8 * row)).take HEXDUMP_COLS) := by
  have hcolon : ∀ c ∈ ['0', 'x'].map (·.toUInt8) ++ hexPad 6 (8 * row),
      decide (c ≠ ':'.toUInt8) = true := by
    intro c hc
    rw [decide_eq_true_iff]
    rintro rfl
    rcases List.mem_append.mp hc with hprefix | hdigit
    · exact absurd hprefix (by decide)
    · exact notMem_hexPad (by decide) _ _ hdigit
  have hlength : 3 * HEXDUMP_COLS = (hexColumn mem (8 * row)).length :=
    (length_hexColumn _).symm
  have hdrop : (dumpRow isprint mem row).dropWhile (· ≠ ':'.toUInt8) =
      [':', ' '].map (·.toUInt8) ++ (hexColumn mem (8 * row) ++
        asciiColumn isprint mem (8 * row)) := by
    rw [dumpRow, dumpOffset, List.append_assoc, List.append_assoc,
      List.dropWhile_append_of_pos hcolon]
    rfl
  have hdigits : (([':', ' '].map (·.toUInt8) ++ (hexColumn mem (8 * row) ++
      asciiColumn isprint mem (8 * row))).drop 2).take (3 * HEXDUMP_COLS) =
        hexColumn mem (8 * row) := by
    rw [hlength]
    exact List.take_left
  rw [readLine, hdrop, hdigits]
  exact readGroups_dumpHex _ _

theorem dumpAscii_ne_newline (h : isprint 10 = false) (j : Nat) :
    dumpAscii isprint mem j ≠ newline := by
  unfold dumpAscii
  split
  · decide
  · rename_i byte _
    split
    · rename_i hprint
      rw [lowByte_charValue, UInt8.ofNat_toNat]
      rintro rfl
      exact absurd hprint (Bool.eq_false_iff.mp h)
    · decide

theorem newline_notMem_asciiColumn (h : isprint 10 = false) (i : Nat) :
    newline ∉ asciiColumn isprint mem i := by
  intro hmem
  obtain ⟨j, -, hj⟩ := List.mem_map.mp hmem
  exact dumpAscii_ne_newline h j hj

theorem newline_notMem_dumpRow (h : isprint 10 = false) (row : Nat) :
    newline ∉ dumpRow isprint mem row := by
  have hdigit : hexValue newline = none := by decide
  have hoffset : newline ∉ dumpOffset (8 * row) := by
    simp only [dumpOffset, List.mem_append, notMem_hexPad hdigit, or_false, not_or]
    exact ⟨by decide, by decide⟩
  have hhex : newline ∉ hexColumn mem (8 * row) := by
    intro hmem
    obtain ⟨i, -, hi⟩ := List.mem_flatMap.mp hmem
    cases Nat.lt_or_ge i mem.length with
    | inl hlt =>
        rw [dumpHex, List.getElem?_eq_getElem hlt] at hi
        rcases List.mem_append.mp hi with hpad | hblank
        · exact notMem_hexPad hdigit _ _ hpad
        · exact absurd hblank (by decide)
    | inr hle =>
        rw [dumpHex_of_le hle] at hi
        exact absurd hi (by decide)
  simp only [dumpRow, List.mem_append, not_or]
  exact ⟨⟨hoffset, hhex⟩, newline_notMem_asciiColumn h _⟩

/-! ### The whole dump -/

/-- Lines without a newline are told apart by the newlines after them. -/
theorem splitOn_lines {lines : List (List UInt8)} (h : ∀ line ∈ lines, newline ∉ line) :
    (lines.flatMap (· ++ [newline])).splitOn newline = lines ++ [[]] := by
  induction lines with
  | nil => rfl
  | cons line lines ih =>
      have hline : newline ∉ line := h line List.mem_cons_self
      have hrest := ih fun l hl => h l (List.mem_cons_of_mem _ hl)
      rw [List.flatMap_cons, List.append_assoc, List.singleton_append,
        List.splitOn_append_cons_self_of_not_mem hline, hrest]
      rfl

theorem flatMap_take_drop {α : Type} (l : List α) (n : Nat) :
    ((List.range n).flatMap fun row => (l.drop (8 * row)).take HEXDUMP_COLS) =
      l.take (8 * n) := by
  induction n with
  | zero => rfl
  | succ n ih =>
      rw [List.range_succ, List.flatMap_append, ih, Nat.mul_succ, List.take_add]
      simp [HEXDUMP_COLS]

/-- The dump has one line for each eight bytes, with the offset of the first of
them, blank groups past the end and an ASCII column of its own, and the bytes are
read back from it. -/
theorem hexdump_lossless (hprint : isprint 10 = false) (hlen : mem.length < 2 ^ 64 - 8) :
    ∃ lines : List (List UInt8),
      (hexdump isprint mem).splitOn newline = lines ++ [[]] ∧
      lines.length = (mem.length + 7) / 8 ∧
      (∀ n (h : n < lines.length), ∃ column ascii,
        lines[n] = ['0', 'x'].map (·.toUInt8) ++ hexPad 6 (8 * n) ++
          [':', ' '].map (·.toUInt8) ++ column ++ ascii ∧
        hexNat (hexPad 6 (8 * n)) = some (8 * n) ∧
        column.length = 24 ∧ readGroups column = some ((mem.drop (8 * n)).take 8) ∧
        (∀ c < 8, mem.length ≤ 8 * n + c →
          (column.drop (3 * c)).take 3 = [blank, blank, blank]) ∧
        ascii.length = 8 ∧ newline ∉ ascii) ∧
      (lines.mapM readLine).map List.flatten = some mem := by
  refine ⟨(List.range ((mem.length + 7) / 8)).map (dumpRow isprint mem), ?_, ?_, ?_, ?_⟩
  · have hrows : hexdump isprint mem = ((List.range ((mem.length + 7) / 8)).map
        (dumpRow isprint mem)).flatMap (· ++ [newline]) := by
      rw [hexdump_eq_rows hlen, List.flatMap_map]
    rw [hrows]
    apply splitOn_lines
    intro line hline
    obtain ⟨row, -, rfl⟩ := List.mem_map.mp hline
    exact newline_notMem_dumpRow hprint row
  · rw [List.length_map, List.length_range]
  · intro n hn
    refine ⟨hexColumn mem (8 * n), asciiColumn isprint mem (8 * n), ?_, hexNat_hexPad _ _,
      length_hexColumn _, readGroups_dumpHex _ _, ?_, ?_, newline_notMem_asciiColumn hprint _⟩
    · rw [List.getElem_map, List.getElem_range]
      rfl
    · intro c hc hend
      rw [← dumpHex_of_le hend]
      exact group_dumpHex hc (8 * n)
    · rw [asciiColumn, List.length_map, List.length_range']
      rfl
  · have hall : mem.length ≤ 8 * ((mem.length + 7) / 8) := by omega
    have hread : ((List.range ((mem.length + 7) / 8)).map (dumpRow isprint mem)).mapM readLine =
        some ((List.range ((mem.length + 7) / 8)).map fun row =>
          (mem.drop (8 * row)).take HEXDUMP_COLS) := by
      apply Folds.mapM_of_forall₂
      rw [List.forall₂_map_left_iff, List.forall₂_map_right_iff, List.forall₂_same]
      exact fun row _ => readLine_dumpRow row
    rw [hread, Option.map_some, ← List.flatMap_def, flatMap_take_drop,
      List.take_of_length_le hall]

/-- A dump of ten bytes, in two lines; the second line shows two bytes and six
blank groups. -/
theorem hexdump_lossless_ten : ∃ lines : List (List UInt8),
    (hexdump (fun c => 32 ≤ c ∧ c < 127) [1, 2, 255, 10, 65, 66, 58, 0, 128, 97]).splitOn newline =
      lines ++ [[]] ∧
    lines.length = 2 ∧
    (∃ column ascii, lines[1]? = some (['0', 'x'].map (·.toUInt8) ++ hexPad 6 8 ++
      [':', ' '].map (·.toUInt8) ++ column ++ ascii) ∧ readGroups column = some [128, 97] ∧
      (column.drop 6).take 3 = [blank, blank, blank]) ∧
    (lines.mapM readLine).map List.flatten = some [1, 2, 255, 10, 65, 66, 58, 0, 128, 97] := by
  obtain ⟨lines, hsplit, hlength, hlines, hread⟩ :=
    @hexdump_lossless (fun c => 32 ≤ c ∧ c < 127) [1, 2, 255, 10, 65, 66, 58, 0, 128, 97]
      (by decide) (by decide)
  have htwo : 1 < lines.length := hlength ▸ by decide
  obtain ⟨column, ascii, hline, -, -, hgroups, hpad, -⟩ := hlines 1 htwo
  refine ⟨lines, hsplit, hlength, ⟨column, ascii, ?_, hgroups, hpad 2 (by decide) (by decide)⟩,
    hread⟩
  rw [List.getElem?_eq_getElem htwo, hline]

end Rows

end DynamicGre
