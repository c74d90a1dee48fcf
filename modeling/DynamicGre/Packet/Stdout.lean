import DynamicGre.Decimal
import DynamicGre.Folds
import DynamicGre.Packet.Headers
import DynamicGre.Packet.Hexdump

/-!
What `parse_packet` writes to the standard output: the dump of the frame between
two rulers, then one labelled line for each field of the headers it has read. A
log of many calls is read back into the frames and the fields of each.
-/

namespace DynamicGre

/-! ### Values -/

def colon : UInt8 := 58

/-- `print_macaddr`. -/
def macaddr (a : Vector UInt8 6) : List UInt8 :=
  hexPad 2 a[0].toNat ++ colon :: (hexPad 2 a[1].toNat ++ colon :: (hexPad 2 a[2].toNat ++
    colon :: (hexPad 2 a[3].toNat ++ colon :: (hexPad 2 a[4].toNat ++
      colon :: hexPad 2 a[5].toNat))))

def strIpproto (ipproto : UInt8) : List UInt8 :=
  if ipproto = 6 then ascii "TCP"
  else if ipproto = IPPROTO_UDP then ascii "UDP"
  else if ipproto = IPPROTO_GRE then ascii "GRE"
  else if ipproto = 1 then ascii "ICMP"
  else ascii "Unknown"

def strEthtype (ethtype : UInt16) : List UInt8 :=
  if ethtype = ETHERTYPE_IP then ascii "IPv4"
  else if ethtype = 0x0806 then ascii "ARP"
  else if ethtype = 0x8035 then ascii "RARP"
  else if ethtype = 0x86dd then ascii "IPv6"
  else if ethtype = ETHERTYPE_ETHERNET then ascii "Transparent Ethernet Bridging"
  else ascii "Unknown"

/-- `"0x%04hx %s"` or `"0x%02hhx %s"`: a number and its name. -/
def numbered (width n : Nat) (name : List UInt8) : List UInt8 :=
  ascii "0x" ++ (hexPad width n ++ blank :: name)

/-- Six two-digit numbers with colons between them. -/
def readMacaddr (word : List UInt8) : Option (Vector UInt8 6) :=
  match (word.splitOn colon).mapM hexNat with
  | some [a, b, c, d, e, f] => some (#v[a, b, c, d, e, f].map UInt8.ofNat)
  | _ => none

/-- The number in front of a name. -/
def readNumbered (word : List UInt8) : Option Nat := hexNat ((word.drop 2).takeWhile (· ≠ blank))

theorem readMacaddr_macaddr (a : Vector UInt8 6) : readMacaddr (macaddr a) = some a := by
  have hcolon (n : Nat) : colon ∉ hexPad 2 n := notMem_hexPad (by decide) _ _
  have hread (b : UInt8) : hexNat (hexPad 2 b.toNat) = some b.toNat := hexNat_hexPad _ _
  have hwords : ((macaddr a).splitOn colon).mapM hexNat = some [a[0].toNat, a[1].toNat, a[2].toNat,
      a[3].toNat, a[4].toNat, a[5].toNat] := by
    rw [macaddr, List.splitOn_append_cons_self_of_not_mem (hcolon _),
      List.splitOn_append_cons_self_of_not_mem (hcolon _),
      List.splitOn_append_cons_self_of_not_mem (hcolon _),
      List.splitOn_append_cons_self_of_not_mem (hcolon _),
      List.splitOn_append_cons_self_of_not_mem (hcolon _), List.splitOn_eq_singleton (hcolon _)]
    simp only [List.mapM_cons, List.mapM_nil, hread, Option.pure_def, Option.bind_eq_bind,
      Option.bind_some]
  rw [readMacaddr, hwords]
  dsimp only
  congr 1
  ext i hi
  interval_cases i <;> simp

theorem readNumbered_numbered (width n : Nat) (name : List UInt8) :
    readNumbered (numbered width n name) = some n := by
  have hdigits : ∀ c ∈ hexPad width n, decide (c ≠ blank) = true := by
    intro c hc
    rw [decide_eq_true_iff]
    rintro rfl
    exact notMem_hexPad (by decide) _ _ hc
  have hdrop : (numbered width n name).drop 2 = hexPad width n ++ blank :: name := rfl
  rw [readNumbered, hdrop, List.takeWhile_append_of_pos hdigits, List.takeWhile_cons]
  simp [hexNat_hexPad]

theorem newline_notMem_macaddr (a : Vector UInt8 6) : newline ∉ macaddr a := by
  have hdigit (n : Nat) : newline ∉ hexPad 2 n := notMem_hexPad (by decide) _ _
  have hcolon : newline ≠ colon := by decide
  simp [macaddr, hdigit, hcolon]

theorem newline_notMem_numbered {name : List UInt8} (hname : newline ∉ name) (width n : Nat) :
    newline ∉ numbered width n name := by
  have hdigit : newline ∉ hexPad width n := notMem_hexPad (by decide) _ _
  have hzero : newline ∉ ascii "0x" := by decide
  have hblank : newline ≠ blank := by decide
  simp [numbered, hdigit, hzero, hblank, hname]

theorem newline_notMem_strIpproto (ipproto : UInt8) : newline ∉ strIpproto ipproto := by
  unfold strIpproto
  repeat' split
  all_goals decide

theorem newline_notMem_strEthtype (ethtype : UInt16) : newline ∉ strEthtype ethtype := by
  unfold strEthtype
  repeat' split
  all_goals decide

theorem newline_notMem_inetNtop (addr : UInt32) : newline ∉ inetNtop addr := by
  intro h
  rcases mem_inetNtop h with hdigit | hdot
  · exact absurd hdigit (by decide)
  · exact absurd hdot (by decide)

/-! ### Lines -/

/-- What a line is about, of the outer or the inner headers. -/
inductive Label where
  | mac (inner dest : Bool)
  | etherType (inner : Bool)
  | address (inner dest : Bool)
  | protocol (inner : Bool)
  | port (dest : Bool)
  | greType
deriving DecidableEq

namespace Label

def text : Label → List UInt8
  | .mac false false => ascii "Source MAC"
  | .mac false true => ascii "Destination MAC"
  | .mac true false => ascii "Inner Source MAC"
  | .mac true true => ascii "Inner Destination MAC"
  | .etherType false => ascii "Ethernet Type"
  | .etherType true => ascii "Inner Ethernet Type"
  | .address false false => ascii "Source IP"
  | .address false true => ascii "Destination IP"
  | .address true false => ascii "Inner Source IP"
  | .address true true => ascii "Inner Destination IP"
  | .protocol false => ascii "Protocol"
  | .protocol true => ascii "Inner Protocol"
  | .port false => ascii "Source Port"
  | .port true => ascii "Destination Port"
  | .greType => ascii "GRE Protocol Type"

def all : List Label :=
  let sides := [false, true]
  sides.flatMap (fun inner => sides.map (.mac inner)) ++ sides.map .etherType ++
    sides.flatMap (fun inner => sides.map (.address inner)) ++ sides.map .protocol ++
    sides.map .port ++ [.greType]

theorem mem_all (l : Label) : l ∈ all := by
  rcases l with ⟨_ | _, _ | _⟩ | ⟨_ | _⟩ | ⟨_ | _, _ | _⟩ | ⟨_ | _⟩ | ⟨_ | _⟩ | _ <;> decide

/-- The label of a word. -/
def ofText (word : List UInt8) : Option Label := all.find? (·.text = word)

theorem ofText_text (l : Label) : ofText l.text = some l := by
  have hall : ∀ l ∈ all, ofText l.text = some l := by decide
  exact hall l (mem_all l)

/-- No label starts like a ruler or a row of the dump. -/
theorem text_start (l : Label) : ∃ c rest, l.text = c :: rest ∧ c ≠ 45 ∧ c ≠ 48 := by
  have hall : ∀ l ∈ all, l.text.headD 45 ≠ 45 ∧ l.text.headD 45 ≠ 48 := by decide
  have hstart := hall l (mem_all l)
  cases htext : l.text with
  | nil =>
      rw [htext] at hstart
      exact absurd rfl hstart.1
  | cons c rest =>
      rw [htext] at hstart
      exact ⟨c, rest, rfl, hstart⟩

theorem colon_notMem_text (l : Label) : colon ∉ l.text := by
  have hall : ∀ l ∈ all, colon ∉ l.text := by decide
  exact hall l (mem_all l)

theorem newline_notMem_text (l : Label) : newline ∉ l.text := by
  have hall : ∀ l ∈ all, newline ∉ l.text := by decide
  exact hall l (mem_all l)

end Label

/-- A line about the headers, with the value it shows. -/
inductive Detail where
  | mac (inner dest : Bool) (a : Vector UInt8 6)
  | etherType (inner : Bool) (ethtype : UInt16)
  | address (inner dest : Bool) (addr : UInt32)
  | protocol (inner : Bool) (ipproto : UInt8)
  | port (dest : Bool) (value : UInt16)
  | greType (greproto : UInt16)
deriving DecidableEq

namespace Detail

def label : Detail → Label
  | .mac inner dest _ => .mac inner dest
  | .etherType inner _ => .etherType inner
  | .address inner dest _ => .address inner dest
  | .protocol inner _ => .protocol inner
  | .port dest _ => .port dest
  | .greType _ => .greType

def value : Detail → List UInt8
  | .mac _ _ a => macaddr a
  | .etherType _ ethtype => numbered 4 ethtype.toNat (strEthtype ethtype)
  | .address _ _ addr => inetNtop addr
  | .protocol _ ipproto => numbered 2 ipproto.toNat (strIpproto ipproto)
  | .port _ value => decimal value.toNat
  | .greType greproto => numbered 4 greproto.toNat (strEthtype greproto)

def text (d : Detail) : List UInt8 := d.label.text ++ colon :: blank :: d.value

/-- The value that stands after a label. -/
def read (word : List UInt8) : Label → Option Detail
  | .mac inner dest => (readMacaddr word).map (.mac inner dest)
  | .etherType inner => (readNumbered word).map fun n => .etherType inner (UInt16.ofNat n)
  | .address inner dest => (readAddr word).map (.address inner dest)
  | .protocol inner => (readNumbered word).map fun n => .protocol inner (UInt8.ofNat n)
  | .port dest => (readDecimal 65536 word).map fun n => .port dest (UInt16.ofNat n)
  | .greType => (readNumbered word).map fun n => .greType (UInt16.ofNat n)

def ofText (line : List UInt8) : Option Detail :=
  (Label.ofText (line.takeWhile (· ≠ colon))).bind (read ((line.dropWhile (· ≠ colon)).drop 2))

variable (d : Detail)

theorem read_value : read d.value d.label = some d := by
  cases d with
  | mac inner dest a => simp [read, value, label, readMacaddr_macaddr]
  | etherType inner ethtype => simp [read, value, label, readNumbered_numbered]
  | address inner dest addr => simp [read, value, label, readAddr_inetNtop]
  | protocol inner ipproto => simp [read, value, label, readNumbered_numbered]
  | port dest n => simp [read, value, label, readDecimal_decimal n.toNat_lt]
  | greType greproto => simp [read, value, label, readNumbered_numbered]

theorem ofText_text : ofText d.text = some d := by
  have hlabel : ∀ c ∈ d.label.text, decide (c ≠ colon) = true := by
    intro c hc
    rw [decide_eq_true_iff]
    rintro rfl
    exact d.label.colon_notMem_text hc
  rw [ofText, text, List.takeWhile_append_of_pos hlabel, List.dropWhile_append_of_pos hlabel]
  simp [Label.ofText_text, read_value]

theorem newline_notMem_text : newline ∉ d.text := by
  have hvalue : newline ∉ d.value := by
    cases d with
    | mac inner dest a => exact newline_notMem_macaddr a
    | etherType inner ethtype =>
        exact newline_notMem_numbered (newline_notMem_strEthtype ethtype) _ _
    | address inner dest addr => exact newline_notMem_inetNtop addr
    | protocol inner ipproto =>
        exact newline_notMem_numbered (newline_notMem_strIpproto ipproto) _ _
    | port dest n => exact notMem_decimal (by decide)
    | greType greproto => exact newline_notMem_numbered (newline_notMem_strEthtype greproto) _ _
  have hcolon : newline ≠ colon := by decide
  have hblank : newline ≠ blank := by decide
  simp [text, d.label.newline_notMem_text, hcolon, hblank, hvalue]

end Detail

/-! ### The output of one call -/

def dumpOpening : List UInt8 := ascii "-------- [Packet Dump] --------"

def dumpClosing : List UInt8 := ascii "-------- [    End    ] --------"

/-- What one call shows: the bytes of the frame and the lines about its headers. -/
structure Entry where
  mem : List UInt8
  details : List Detail

/-- A line of the output. -/
inductive LogLine where
  | opening
  | row (mem : List UInt8)
  | closing
  | detail (d : Detail)

def LogLine.ofText (line : List UInt8) : Option LogLine :=
  if line = dumpOpening then some .opening
  else if line = dumpClosing then some .closing
  else if (ascii "0x").isPrefixOf line then (readLine line).map .row
  else (Detail.ofText line).map .detail

/-- The entry that the lines after the one in front belong to, and those after it. -/
def LogLine.prepend (line : LogLine) (rest : Entry × List Entry) : Entry × List Entry :=
  match line with
  | .opening => (⟨[], []⟩, rest.1 :: rest.2)
  | .row mem => ({ rest.1 with mem := mem ++ rest.1.mem }, rest.2)
  | .closing => rest
  | .detail d => ({ rest.1 with details := d :: rest.1.details }, rest.2)

/-- The calls that an output tells of, in their order. -/
def readLog (text : List UInt8) : Option (List Entry) :=
  ((text.splitOn newline).dropLast.mapM LogLine.ofText).map fun lines =>
    (lines.foldr LogLine.prepend (⟨[], []⟩, [])).2

namespace Entry

/-- What `parse_packet` writes for the entry. -/
def text (isprint : Int → Bool) (e : Entry) : List UInt8 :=
  dumpOpening ++ [newline] ++ hexdump isprint e.mem ++ (dumpClosing ++ [newline]) ++
    e.details.flatMap fun d => d.text ++ [newline]

/-- The rows of the dump, with the bytes each of them shows. -/
def rows (mem : List UInt8) : List (List UInt8) :=
  (List.range ((mem.length + 7) / 8)).map fun row => (mem.drop (8 * row)).take HEXDUMP_COLS

def lines (e : Entry) : List LogLine :=
  .opening :: ((rows e.mem).map .row ++ .closing :: e.details.map .detail)

def lineTexts (isprint : Int → Bool) (e : Entry) : List (List UInt8) :=
  dumpOpening :: ((List.range ((e.mem.length + 7) / 8)).map (dumpRow isprint e.mem) ++
    dumpClosing :: e.details.map Detail.text)

variable {isprint : Int → Bool} (e : Entry)

theorem text_eq (hlen : e.mem.length < 2 ^ 64 - 8) :
    e.text isprint = (e.lineTexts isprint).flatMap (· ++ [newline]) := by
  simp [text, lineTexts, hexdump_eq_rows hlen, List.flatMap_map]

theorem newline_notMem_lineTexts (hprint : isprint 10 = false) :
    ∀ line ∈ e.lineTexts isprint, newline ∉ line := by
  intro line hline
  simp only [lineTexts, List.mem_cons, List.mem_append, List.mem_map] at hline
  rcases hline with rfl | ⟨row, -, rfl⟩ | rfl | ⟨d, -, rfl⟩
  · decide
  · exact newline_notMem_dumpRow hprint row
  · decide
  · exact d.newline_notMem_text

theorem ofText_dumpRow (row : Nat) : LogLine.ofText (dumpRow isprint e.mem row) =
    some (.row ((e.mem.drop (8 * row)).take HEXDUMP_COLS)) := by
  have hstart : dumpRow isprint e.mem row =
      48 :: 120 :: (dumpRow isprint e.mem row).drop 2 := rfl
  have hruler : (48 : UInt8) ≠ '-'.toUInt8 := by decide
  have hopening : dumpRow isprint e.mem row ≠ dumpOpening := by
    rw [hstart]
    intro heq
    exact hruler (List.cons.inj heq).1
  have hclosing : dumpRow isprint e.mem row ≠ dumpClosing := by
    rw [hstart]
    intro heq
    exact hruler (List.cons.inj heq).1
  have hdump : (ascii "0x").isPrefixOf (dumpRow isprint e.mem row) = true := by
    rw [hstart]
    rfl
  rw [LogLine.ofText, if_neg hopening, if_neg hclosing, if_pos hdump, readLine_dumpRow]
  rfl

theorem ofText_detail (d : Detail) : LogLine.ofText d.text = some (.detail d) := by
  obtain ⟨c, rest, htext, hruler, hrow⟩ := d.label.text_start
  have hstart : d.text = c :: (rest ++ colon :: blank :: d.value) := by
    rw [Detail.text, htext]
    rfl
  have hopening : d.text ≠ dumpOpening := by
    rw [hstart]
    intro heq
    exact hruler (List.cons.inj heq).1
  have hclosing : d.text ≠ dumpClosing := by
    rw [hstart]
    intro heq
    exact hruler (List.cons.inj heq).1
  have hdump : ¬(ascii "0x").isPrefixOf d.text = true := by
    rw [hstart]
    intro hzero
    rw [List.isPrefixOf_iff_prefix] at hzero
    obtain ⟨tail, htail⟩ := hzero
    exact hrow (List.cons.inj htail).1.symm
  rw [LogLine.ofText, if_neg hopening, if_neg hclosing, if_neg hdump, Detail.ofText_text]
  rfl

theorem ofText_lineTexts : List.Forall₂ (fun text line => LogLine.ofText text = some line)
    (e.lineTexts isprint) e.lines := by
  have hrows : List.Forall₂ (fun text line => LogLine.ofText text = some line)
      ((List.range ((e.mem.length + 7) / 8)).map (dumpRow isprint e.mem))
      ((rows e.mem).map .row) := by
    rw [rows, List.map_map, List.forall₂_map_left_iff, List.forall₂_map_right_iff,
      List.forall₂_same]
    exact fun row _ => e.ofText_dumpRow row
  have hdetails : List.Forall₂ (fun text line => LogLine.ofText text = some line)
      (e.details.map Detail.text) (e.details.map .detail) := by
    rw [List.forall₂_map_left_iff, List.forall₂_map_right_iff, List.forall₂_same]
    exact fun d _ => ofText_detail d
  exact .cons rfl (List.rel_append hrows (.cons rfl hdetails))

/-- The rows hold the whole frame. -/
theorem flatten_rows (mem : List UInt8) : (rows mem).flatten = mem := by
  have hall : mem.length ≤ 8 * ((mem.length + 7) / 8) := by omega
  have hrows : (rows mem).flatten = mem.take (8 * ((mem.length + 7) / 8)) := by
    rw [← flatMap_take_drop]
    exact List.flatMap_def.symm
  rw [hrows, List.take_of_length_le hall]

theorem foldr_details (details : List Detail) (rest : Entry × List Entry) :
    (details.map .detail).foldr LogLine.prepend rest =
      ({ rest.1 with details := details ++ rest.1.details }, rest.2) := by
  induction details with
  | nil => rfl
  | cons d details ih =>
      rw [List.map_cons, List.foldr_cons, ih]
      rfl

theorem foldr_rows (blocks : List (List UInt8)) (rest : Entry × List Entry) :
    (blocks.map .row).foldr LogLine.prepend rest =
      ({ rest.1 with mem := blocks.flatten ++ rest.1.mem }, rest.2) := by
  induction blocks with
  | nil => rfl
  | cons mem blocks ih =>
      rw [List.map_cons, List.foldr_cons, ih, List.flatten_cons, List.append_assoc]
      rfl

/-- The lines of an entry are put together to that entry. -/
theorem foldr_lines (later : List Entry) :
    e.lines.foldr LogLine.prepend (⟨[], []⟩, later) = (⟨[], []⟩, e :: later) := by
  rw [lines, List.foldr_cons, List.foldr_append, foldr_rows, List.foldr_cons, foldr_details]
  simp [LogLine.prepend, flatten_rows]

theorem ofText_entries (entries : List Entry) :
    List.Forall₂ (fun text line => LogLine.ofText text = some line)
      (entries.flatMap (lineTexts isprint)) (entries.flatMap lines) := by
  induction entries with
  | nil => exact .nil
  | cons e entries ih => exact List.rel_append e.ofText_lineTexts ih

theorem foldr_entries (entries : List Entry) :
    (entries.flatMap lines).foldr LogLine.prepend (⟨[], []⟩, []) = (⟨[], []⟩, entries) := by
  induction entries with
  | nil => rfl
  | cons e entries ih => rw [List.flatMap_cons, List.foldr_append, ih, e.foldr_lines]

end Entry

/-- The output of any calls is read back into what each of them has shown. -/
theorem readLog_texts {isprint : Int → Bool} {entries : List Entry} (hprint : isprint 10 = false)
    (hlen : ∀ e ∈ entries, e.mem.length < 2 ^ 64 - 8) :
    readLog (entries.flatMap (Entry.text isprint)) = some entries := by
  have htexts : entries.flatMap (Entry.text isprint) =
      (entries.flatMap (Entry.lineTexts isprint)).flatMap (· ++ [newline]) := by
    rw [List.flatMap_assoc]
    exact List.flatMap_congr fun e he => e.text_eq (hlen e he)
  have hlines : ∀ line ∈ entries.flatMap (Entry.lineTexts isprint), newline ∉ line := by
    intro line hline
    obtain ⟨e, -, hmem⟩ := List.mem_flatMap.mp hline
    exact e.newline_notMem_lineTexts hprint line hmem
  rw [readLog, htexts, splitOn_lines hlines, List.dropLast_concat,
    Folds.mapM_of_forall₂ (Entry.ofText_entries entries), Option.map_some, Entry.foldr_entries]

/-- `isprint` of the C locale. -/
def isprintAscii (c : Int) : Bool := 32 ≤ c ∧ c < 127

end DynamicGre
