import DynamicGre.Decimal
import DynamicGre.PcapFilter

/-!
Filter expressions as text. `not` binds tighter than `and`, which groups to the
left; parentheses are words of their own. libpcap's reader is only known by these
rules. One that follows them takes one word or operator after the other and keeps
what is still open on a stack, so that printed expressions are read back by
induction on the expression alone.
-/

namespace DynamicGre.Pcap

/-! ### Printing -/

def protocolText (protocol : UInt8) : List UInt8 :=
  if protocol = 47 then ascii "gre" else decimal protocol.toNat

/-- The text of an expression. What is `inner` to a `not`, or on the right of an
`and`, has its own `and` in parentheses. -/
def Expr.print (inner : Bool) : Expr → List UInt8
  | .inbound => ascii "inbound"
  | .ipProto protocol => ascii "ip proto " ++ protocolText protocol
  | .udpDstPort port => ascii "udp dst port " ++ decimal port.toNat
  | .udpSrcPort port => ascii "udp src port " ++ decimal port.toNat
  | .srcHost addr => ascii "src host " ++ inetNtop addr
  | .and a b =>
      let text := a.print false ++ ascii " and " ++ b.print true
      if inner then ascii "(" ++ text ++ ascii ")" else text
  | .not a => ascii "not " ++ a.print true

/-! ### Words -/

abbrev Word := List UInt8

def lexWord (word : Word) : List Word := if word = [] then [] else [word]

/-- The words of a text, after the characters of a word already begun. -/
def lexFrom (word : Word) : List UInt8 → List Word
  | [] => lexWord word
  | c :: cs =>
      if c = 32 then lexWord word ++ lexFrom [] cs
      else if c = 40 ∨ c = 41 then lexWord word ++ [c] :: lexFrom [] cs
      else lexFrom (word ++ [c]) cs

def lex (text : List UInt8) : List Word := lexFrom [] text

inductive Item where
  | prim (e : Expr)
  | and
  | not
  | opening
  | closing
deriving DecidableEq

def readProtocol (word : Word) : Option UInt8 :=
  if word = ascii "gre" then some 47 else (readDecimal 256 word).map UInt8.ofNat

def readPort (word : Word) : Option UInt16 := (readDecimal 65536 word).map UInt16.ofNat

/-- The primitives that consist of a qualifier and two words. -/
def readPair (w w' arg : Word) : Option Expr :=
  if w = ascii "ip" ∧ w' = ascii "proto" then (readProtocol arg).map .ipProto
  else if w = ascii "src" ∧ w' = ascii "host" then (readAddr arg).map .srcHost
  else none

def readTriple (w w' w'' arg : Word) : Option Expr :=
  if w = ascii "udp" ∧ w'' = ascii "port" then
    if w' = ascii "dst" then (readPort arg).map .udpDstPort
    else if w' = ascii "src" then (readPort arg).map .udpSrcPort
    else none
  else none

def readSingle (w : Word) : Option Item :=
  if w = ascii "and" then some .and
  else if w = ascii "not" then some .not
  else if w = ascii "(" then some .opening
  else if w = ascii ")" then some .closing
  else if w = ascii "inbound" then some (.prim .inbound)
  else none

/-- The operators and primitives that the words make up. -/
def itemize : List Word → Option (List Item)
  | [] => some []
  | w :: rest =>
      match readSingle w with
      | some item => (itemize rest).map (item :: ·)
      | none =>
          match rest with
          | w' :: arg :: rest =>
              match readPair w w' arg with
              | some e => (itemize rest).map (.prim e :: ·)
              | none =>
                  match rest with
                  | arg' :: rest =>
                      match readTriple w w' arg arg' with
                      | some e => (itemize rest).map (.prim e :: ·)
                      | none => none
                  | [] => none
          | _ => none

/-! ### Reading -/

/-- What waits for an operand: the left side of an `and`, if there is one, and a
number of `not`s. -/
structure Pending where
  left : Option Expr
  nots : Nat

/-- Whether an operand comes next, or an operator after the one that was read.
`opened` holds what waits in front of each open parenthesis. -/
inductive Reading where
  | operand (pending : Pending) (opened : List Pending)
  | operator (e : Expr) (opened : List Pending)

def applyNots : Nat → Expr → Expr
  | 0, e => e
  | n + 1, e => applyNots n (.not e)

def Pending.complete (p : Pending) (e : Expr) : Expr :=
  p.left.elim (applyNots p.nots e) fun a => .and a (applyNots p.nots e)

def nextReading : Reading → Item → Option Reading
  | .operand p opened, .prim e => some (.operator (p.complete e) opened)
  | .operand p opened, .not => some (.operand { p with nots := p.nots + 1 } opened)
  | .operand p opened, .opening => some (.operand ⟨none, 0⟩ (p :: opened))
  | .operator e opened, .and => some (.operand ⟨some e, 0⟩ opened)
  | .operator e (p :: opened), .closing => some (.operator (p.complete e) opened)
  | _, _ => none

/-- The expression that a text spells. -/
def readExpr (text : List UInt8) : Option Expr := do
  let items ← itemize (lex text)
  match ← items.foldlM nextReading (.operand ⟨none, 0⟩ []) with
  | .operator e [] => some e
  | _ => none

/-! ### Printed expressions are read back -/

namespace Expr

def words (inner : Bool) : Expr → List Word
  | .inbound => [ascii "inbound"]
  | .ipProto protocol => [ascii "ip", ascii "proto", protocolText protocol]
  | .udpDstPort port => [ascii "udp", ascii "dst", ascii "port", decimal port.toNat]
  | .udpSrcPort port => [ascii "udp", ascii "src", ascii "port", decimal port.toNat]
  | .srcHost addr => [ascii "src", ascii "host", inetNtop addr]
  | .and a b =>
      let text := a.words false ++ ascii "and" :: b.words true
      if inner then ascii "(" :: (text ++ [ascii ")"]) else text
  | .not a => ascii "not" :: a.words true

def items (inner : Bool) : Expr → List Item
  | .and a b =>
      let text := a.items false ++ .and :: b.items true
      if inner then .opening :: (text ++ [.closing]) else text
  | .not a => .not :: a.items true
  | e => [.prim e]

end Expr

section Lex

variable {w : Word}

/-- Neither a space nor a parenthesis is in it. -/
def Plain (w : Word) : Prop := w ≠ [] ∧ w.all (fun c => c ≠ 32 ∧ c ≠ 40 ∧ c ≠ 41) = true

instance (w : Word) : Decidable (Plain w) := inferInstanceAs (Decidable (_ ∧ _))

theorem plain_of_forall (hne : w ≠ []) (h : ∀ c ∈ w, c ≠ 32 ∧ c ≠ 40 ∧ c ≠ 41) : Plain w :=
  ⟨hne, List.all_eq_true.mpr fun c hc => decide_eq_true (h c hc)⟩

theorem lexFrom_plain (w : Word) {v : Word}
    (h : v.all (fun c => c ≠ 32 ∧ c ≠ 40 ∧ c ≠ 41) = true) :
    lexFrom w v = lexWord (w ++ v) := by
  induction v generalizing w with
  | nil => rw [lexFrom, List.append_nil]
  | cons c v ih =>
      rw [List.all_cons, Bool.and_eq_true, decide_eq_true_eq] at h
      obtain ⟨⟨hspace, hopen, hclose⟩, hrest⟩ := h
      rw [lexFrom, if_neg hspace, if_neg (not_or.mpr ⟨hopen, hclose⟩), ih _ hrest,
        List.append_assoc]
      rfl

theorem lex_plain (h : Plain w) : lex w = [w] := by
  rw [lex, lexFrom_plain [] h.2, List.nil_append, lexWord, if_neg h.1]

theorem lexFrom_space (w : Word) (a b : List UInt8) :
    lexFrom w (a ++ 32 :: b) = lexFrom w a ++ lex b := by
  induction a generalizing w with
  | nil => rfl
  | cons c a ih =>
      rw [List.cons_append, lexFrom, lexFrom]
      split
      · rw [ih, List.append_assoc]
      · split
        · rw [ih, List.append_assoc, List.cons_append]
        · exact ih _

theorem lexFrom_closing (w : Word) (a : List UInt8) :
    lexFrom w (a ++ [41]) = lexFrom w a ++ [[41]] := by
  induction a generalizing w with
  | nil => rfl
  | cons c a ih =>
      rw [List.cons_append, lexFrom, lexFrom]
      split
      · rw [ih, List.append_assoc]
      · split
        · rw [ih, List.append_assoc, List.cons_append]
        · exact ih _

/-- A word and the rest after a space. -/
theorem lex_plain_space (h : Plain w) (b : List UInt8) : lex (w ++ 32 :: b) = w :: lex b := by
  rw [lex, lexFrom_space, ← lex, lex_plain h]
  rfl

theorem plain_decimal (n : Nat) : Plain (decimal n) := by
  refine plain_of_forall (decimal_ne_nil n) fun c hc => ?_
  have hdigit := isDigit_of_mem_decimal hc
  refine ⟨?_, ?_, ?_⟩ <;> rintro rfl <;> cases hdigit

theorem plain_inetNtop (addr : UInt32) : Plain (inetNtop addr) := by
  refine plain_of_forall (inetNtop_ne_nil addr) fun c hc => ?_
  have hchar := mem_inetNtop hc
  refine ⟨?_, ?_, ?_⟩ <;> rintro rfl <;> exact absurd hchar (by decide)

theorem plain_protocolText (protocol : UInt8) : Plain (protocolText protocol) := by
  unfold protocolText
  split
  · decide
  · exact plain_decimal _

theorem plain_ascii : Plain (ascii "inbound") ∧ Plain (ascii "ip") ∧ Plain (ascii "proto") ∧
    Plain (ascii "udp") ∧ Plain (ascii "dst") ∧ Plain (ascii "src") ∧ Plain (ascii "port") ∧
    Plain (ascii "host") ∧ Plain (ascii "and") ∧ Plain (ascii "not") := by
  decide

/-- The words of a printed expression. -/
theorem lex_print (inner : Bool) (e : Expr) : lex (e.print inner) = e.words inner := by
  obtain ⟨hinbound, hip, hproto, hudp, hdst, hsrc, hport, hhost, hand, hnot⟩ := plain_ascii
  induction e generalizing inner with
  | inbound => exact lex_plain hinbound
  | ipProto protocol =>
      have htext : Expr.print inner (.ipProto protocol) =
          ascii "ip" ++ 32 :: (ascii "proto" ++ 32 :: protocolText protocol) := rfl
      rw [htext, lex_plain_space hip, lex_plain_space hproto, lex_plain (plain_protocolText _)]
      rfl
  | udpDstPort port =>
      have htext : Expr.print inner (.udpDstPort port) = ascii "udp" ++ 32 ::
          (ascii "dst" ++ 32 :: (ascii "port" ++ 32 :: decimal port.toNat)) := rfl
      rw [htext, lex_plain_space hudp, lex_plain_space hdst, lex_plain_space hport,
        lex_plain (plain_decimal _)]
      rfl
  | udpSrcPort port =>
      have htext : Expr.print inner (.udpSrcPort port) = ascii "udp" ++ 32 ::
          (ascii "src" ++ 32 :: (ascii "port" ++ 32 :: decimal port.toNat)) := rfl
      rw [htext, lex_plain_space hudp, lex_plain_space hsrc, lex_plain_space hport,
        lex_plain (plain_decimal _)]
      rfl
  | srcHost addr =>
      have htext : Expr.print inner (.srcHost addr) =
          ascii "src" ++ 32 :: (ascii "host" ++ 32 :: inetNtop addr) := rfl
      rw [htext, lex_plain_space hsrc, lex_plain_space hhost, lex_plain (plain_inetNtop _)]
      rfl
  | and a b iha ihb =>
      have htext : a.print false ++ ascii " and " ++ b.print true =
          a.print false ++ 32 :: (ascii "and" ++ 32 :: b.print true) := List.append_assoc _ _ _
      have hwords : lex (a.print false ++ ascii " and " ++ b.print true) =
          a.words false ++ ascii "and" :: b.words true := by
        rw [htext, lex, lexFrom_space, ← lex, iha, lex_plain_space hand, ihb]
      cases inner with
      | false => exact hwords
      | true =>
          have hparens : Expr.print true (.and a b) =
              40 :: ((a.print false ++ ascii " and " ++ b.print true) ++ [41]) := rfl
          have hopening (text : List UInt8) : lex (40 :: text) = ascii "(" :: lex text := rfl
          rw [hparens, hopening, lex, lexFrom_closing, ← lex, hwords]
          rfl
  | not a ih =>
      have htext : Expr.print inner (.not a) = ascii "not" ++ 32 :: a.print true := rfl
      rw [htext, lex_plain_space hnot, ih]
      rfl

end Lex

section Itemize

variable {rest : List Word}

theorem readProtocol_protocolText (protocol : UInt8) :
    readProtocol (protocolText protocol) = some protocol := by
  unfold protocolText
  split
  · rename_i hgre
    rw [hgre]
    rfl
  · have hne : decimal protocol.toNat ≠ ascii "gre" := by
      intro heq
      have hg : (103 : UInt8) ∈ decimal protocol.toNat := heq ▸ List.mem_cons_self
      exact absurd (isDigit_of_mem_decimal hg) (by decide)
    rw [readProtocol, if_neg hne, readDecimal_decimal protocol.toNat_lt, Option.map_some,
      UInt8.ofNat_toNat]

theorem readPort_decimal (port : UInt16) : readPort (decimal port.toNat) = some port := by
  rw [readPort, readDecimal_decimal port.toNat_lt, Option.map_some, UInt16.ofNat_toNat]

theorem itemize_single {w : Word} {item : Item} (h : readSingle w = some item) :
    itemize (w :: rest) = (itemize rest).map (item :: ·) := by
  simp only [itemize.eq_def (w :: rest), h]

theorem itemize_pair {w w' arg : Word} {e : Expr} (hw : readSingle w = none)
    (h : readPair w w' arg = some e) :
    itemize (w :: w' :: arg :: rest) = (itemize rest).map (.prim e :: ·) := by
  simp only [itemize.eq_def (w :: _), hw, h]

theorem itemize_triple {w w' w'' arg : Word} {e : Expr} (hw : readSingle w = none)
    (hpair : readPair w w' w'' = none) (h : readTriple w w' w'' arg = some e) :
    itemize (w :: w' :: w'' :: arg :: rest) = (itemize rest).map (.prim e :: ·) := by
  simp only [itemize.eq_def (w :: _), hw, hpair, h]

/-- The items of a printed expression. -/
theorem itemize_words (inner : Bool) (e : Expr) (rest : List Word) :
    itemize (e.words inner ++ rest) = (itemize rest).map (e.items inner ++ ·) := by
  induction e generalizing inner rest with
  | inbound => exact itemize_single (by decide)
  | ipProto protocol =>
      have hread : readPair (ascii "ip") (ascii "proto") (protocolText protocol) =
          some (.ipProto protocol) := by
        rw [readPair, if_pos ⟨rfl, rfl⟩, readProtocol_protocolText]
        rfl
      exact itemize_pair (by decide) hread
  | udpDstPort port =>
      have hread : readTriple (ascii "udp") (ascii "dst") (ascii "port") (decimal port.toNat) =
          some (.udpDstPort port) := by
        rw [readTriple, if_pos ⟨rfl, rfl⟩, if_pos rfl, readPort_decimal]
        rfl
      exact itemize_triple (by decide) (by decide) hread
  | udpSrcPort port =>
      have hread : readTriple (ascii "udp") (ascii "src") (ascii "port") (decimal port.toNat) =
          some (.udpSrcPort port) := by
        rw [readTriple, if_pos ⟨rfl, rfl⟩, if_neg (by decide), if_pos rfl, readPort_decimal]
        rfl
      exact itemize_triple (by decide) (by decide) hread
  | srcHost addr =>
      have hread : readPair (ascii "src") (ascii "host") (inetNtop addr) =
          some (.srcHost addr) := by
        rw [readPair, if_neg (by decide), if_pos ⟨rfl, rfl⟩, readAddr_inetNtop]
        rfl
      exact itemize_pair (by decide) hread
  | and a b iha ihb =>
      have hand : readSingle (ascii "and") = some .and := by decide
      have htext (rest : List Word) :
          itemize ((a.words false ++ ascii "and" :: b.words true) ++ rest) =
            (itemize rest).map ((a.items false ++ .and :: b.items true) ++ ·) := by
        rw [List.append_assoc, List.cons_append, iha, itemize_single hand, ihb]
        simp only [Option.map_map, Function.comp_def, List.append_assoc, List.cons_append]
      cases inner with
      | false => exact htext rest
      | true =>
          have hparens : Expr.words true (.and a b) ++ rest = ascii "(" ::
              ((a.words false ++ ascii "and" :: b.words true) ++ ascii ")" :: rest) := by
            simp [Expr.words]
          have hopening : readSingle (ascii "(") = some .opening := by decide
          have hclosing : readSingle (ascii ")") = some .closing := by decide
          rw [hparens, itemize_single hopening, htext, itemize_single hclosing]
          simp [Expr.items, Function.comp_def]
  | not a ih =>
      have hnot : readSingle (ascii "not") = some .not := by decide
      rw [Expr.words, List.cons_append, itemize_single hnot, ih]
      simp [Expr.items, Function.comp_def]

end Itemize

/-- The reader makes an operand of the items of an expression, wherever they
stand. -/
theorem foldlM_items (e : Expr) :
    (∀ p opened, (e.items true).foldlM nextReading (.operand p opened) =
      some (.operator (p.complete e) opened)) ∧
    ∀ opened, (e.items false).foldlM nextReading (.operand ⟨none, 0⟩ opened) =
      some (.operator e opened) := by
  induction e with
  | and a b iha ihb =>
      have htext (opened : List Pending) : (a.items false ++ .and :: b.items true).foldlM
          nextReading (.operand ⟨none, 0⟩ opened) = some (.operator (.and a b) opened) := by
        rw [List.foldlM_append, iha.2, Option.bind_eq_bind, Option.bind_some, List.foldlM_cons]
        exact ihb.1 ⟨some a, 0⟩ opened
      refine ⟨fun p opened => ?_, htext⟩
      have hitems : Expr.items true (.and a b) =
          .opening :: ((a.items false ++ .and :: b.items true) ++ [.closing]) := rfl
      rw [hitems, List.foldlM_cons, nextReading, Option.bind_eq_bind, Option.bind_some,
        List.foldlM_append, htext]
      rfl
  | not a ih =>
      refine ⟨fun p opened => ?_, fun opened => ?_⟩
      · exact ih.1 { p with nots := p.nots + 1 } opened
      · exact ih.1 ⟨none, 1⟩ opened
  | _ => exact ⟨fun _ _ => rfl, fun _ => rfl⟩

/-- What is printed is read back. -/
theorem readExpr_print (e : Expr) : readExpr (e.print false) = some e := by
  have hitems : itemize (e.words false) = some (e.items false) := by
    have h := itemize_words false e []
    rwa [List.append_nil, itemize, Option.map_some, List.append_nil] at h
  rw [readExpr, lex_print, hitems, Option.bind_eq_bind, Option.bind_some, (foldlM_items e).2]
  rfl

/-- How libpcap reads a filter expression. A text is read as the expression whose
text it is, where `not` binds tighter than `and`, `and` groups to the left, and
parentheses set an operand apart. Of other texts nothing is known. -/
structure Grammar where
  read : List UInt8 → Option Expr
  read_print : ∀ e : Expr, read (e.print false) = some e

/-- The reader above, which knows no other primitives, follows the rules. -/
def Grammar.plain : Grammar where
  read := readExpr
  read_print := readExpr_print

example : readExpr (ascii "not (inbound and not src host 10.0.0.1) and udp dst port 53") =
    some (.and (.not (.and .inbound (.not (.srcHost 0x0100000a)))) (.udpDstPort 53)) := by
  decide

end DynamicGre.Pcap
