/-
# Printing with as few parentheses as possible

A tree is printed as a row of pieces: words, numbers and signs. Every node has a level, from 0
for assignments, the loosest, to 16 for what needs no parentheses, and stands in parentheses
where something tighter is required:

| level | nodes                     | left or only part | right part |
|-------|---------------------------|-------------------|------------|
| 0     | `=`                       | 1                 | 0          |
| 1     | `? :`                     | 2                 | 1, 1       |
| 2–10  | the levels of operators   | the same          | one more   |
| 11    | `*`, `/`, `%`             | 11                | 12         |
| 12    | `\`                       | 12                | 13         |
| 13    | `+`, `-`, `'` in front    | 13                |            |
| 14    | `^`                       | 15                | 13         |
| 15    | `!`                       | 15                |            |
| 16    | names, numbers, calls     |                   |            |

Infix operators have a space on either side, and arguments a separator between them.

**Main statement.** `scan_print`: the printed text scans to its own pieces.
-/

import QuantityCalculus.Proofs.Expr.Cut
import QuantityCalculus.Expr.Basic

namespace QuantityCalculus

/-- A token of a printed text; infix operators are spaced. -/
structure Piece where
  kind : TokenKind
  content : String
  spaced : Bool
deriving DecidableEq

namespace Piece

/-- The characters of a piece. -/
def chars (p : Piece) : List Char :=
  if p.spaced then ' ' :: (p.content.toList ++ [' ']) else p.content.toList

/-- A piece as the scanner sees it. -/
def lexeme (p : Piece) : TokenKind × String := (p.kind, p.content)

/-- An operator with spaces around it. -/
def between (kind : TokenKind) (content : String) : Piece := ⟨kind, content, true⟩

/-- A piece without spaces. -/
def bare (kind : TokenKind) (content : String) : Piece := ⟨kind, content, false⟩

end Piece

/-- The sign of an operator with one operand. -/
def UnaryOp.piece : UnaryOp → Piece
  | plus => .bare .plus "+"
  | minus => .bare .minus "-"
  | removeUnits => .bare .quote "'"
  | factorial => .bare .factorial "!"

/-- The sign of an operator with two operands. -/
def BinaryOp.piece : BinaryOp → Piece
  | assign => .between .assign "="
  | inUnit => .between .word "in"
  | logicalOr => .between .logicalOr "||"
  | logicalAnd => .between .logicalAnd "&&"
  | bitwiseOr => .between .bitwiseOr "|"
  | bitwiseAnd => .between .bitwiseAnd "&"
  | equal => .between .equal "=="
  | notEqual => .between .notEqual "!="
  | less => .between .less "<"
  | lessEqual => .between .lessEqual "<="
  | greater => .between .greater ">"
  | greaterEqual => .between .greaterEqual ">="
  | shiftLeft => .between .shiftLeft "<<"
  | shiftRight => .between .shiftRight ">>"
  | add => .between .plus "+"
  | subtract => .between .minus "-"
  | multiply => .between .multiply "*"
  | divide => .between .divide "/"
  | modulo => .between .modulo "%"
  | intDivide => .between .intDivide "\\"
  | power => .between .power "^"

/-- The level of an operator with one operand, and of its operand. -/
def UnaryOp.level : UnaryOp → Nat
  | factorial => 15
  | _ => 13

/-- The level of an operator with two operands. -/
def BinaryOp.level : BinaryOp → Nat
  | assign => 0
  | logicalOr => 2
  | logicalAnd => 3
  | inUnit => 4
  | bitwiseOr => 5
  | bitwiseAnd => 6
  | equal | notEqual => 7
  | less | lessEqual | greater | greaterEqual => 8
  | shiftLeft | shiftRight => 9
  | add | subtract => 10
  | multiply | divide | modulo => 11
  | intDivide => 12
  | power => 14

/-- The level that the left operand needs. -/
def BinaryOp.leftLevel : BinaryOp → Nat
  | assign => 1
  | power => 15
  | op => op.level

/-- The level that the right operand needs. -/
def BinaryOp.rightLevel : BinaryOp → Nat
  | assign => 0
  | power => 13
  | op => op.level + 1

namespace Expr

/-- The level of a node. -/
def level : Expr → Nat
  | unary op _ _ => op.level
  | binary op _ _ _ => op.level
  | conditional .. => 1
  | scalar _ | name _ | unit _ | call .. => 16

/-- The pieces of a node where a level is required. -/
def enclose (required : Nat) (e : Expr) (pieces : List Piece) : List Piece :=
  if e.level < required then
    .bare .leftParen "(" :: (pieces ++ [.bare .rightParen ")"])
  else pieces

mutual

/-- The pieces of a node, without parentheses around it. -/
def body : Expr → List Piece
  | scalar c => [.bare .scalar c]
  | name c | unit c => [.bare .word c]
  | unary .factorial a _ => enclose 15 a (body a) ++ [UnaryOp.factorial.piece]
  | unary op a _ => op.piece :: enclose op.level a (body a)
  | binary op a b _ =>
    enclose op.leftLevel a (body a) ++ op.piece :: enclose op.rightLevel b (body b)
  | conditional c y n _ =>
    enclose 2 c (body c) ++ .between .question "?" ::
      (enclose 1 y (body y) ++ .between .colon ":" :: enclose 1 n (body n))
  | call f as _ => .bare .word f :: .bare .leftParen "(" :: (bodies as ++ [.bare .rightParen ")"])

/-- The pieces of arguments. An argument needs no parentheses. -/
def bodies : List Expr → List Piece
  | [] => []
  | [a] => body a
  | a :: b :: as => body a ++ .bare .separator "," :: bodies (b :: as)

end

/-- The text of a tree with as few parentheses as possible. -/
def print (e : Expr) : String := String.ofList (e.body.flatMap Piece.chars)

mutual

/-- A tree without the contents of its composite nodes. -/
def erase : Expr → Expr
  | scalar c => scalar c
  | name c => name c
  | unit c => unit c
  | unary op a _ => unary op (erase a) ""
  | binary op a b _ => binary op (erase a) (erase b) ""
  | conditional c y n _ => conditional (erase c) (erase y) (erase n) ""
  | call f as _ => call f (eraseAll as) ""

/-- Trees without contents. -/
def eraseAll : List Expr → List Expr
  | [] => []
  | a :: as => erase a :: eraseAll as

end

/-- A text that the scanner reads as a single token of some kind. -/
def IsLexeme (kind : TokenKind) (text : String) : Prop :=
  ∃ last, Token.scan .standard text = [⟨kind, text, 0, false⟩, last]

mutual

/-- A tree that can be written down: numbers, words and unit words are single tokens. -/
def Printable (isUnit : String → Bool) : Expr → Prop
  | scalar c => IsLexeme .scalar c
  | name c => IsLexeme .word c ∧ isUnit c = false
  | unit c => IsLexeme .word c ∧ isUnit c = true
  | unary _ a _ => Printable isUnit a
  | binary _ a b _ => Printable isUnit a ∧ Printable isUnit b
  | conditional c y n _ => Printable isUnit c ∧ Printable isUnit y ∧ Printable isUnit n
  | call f as _ => IsLexeme .word f ∧ AllPrintable isUnit as

/-- Trees that can be written down. -/
def AllPrintable (isUnit : String → Bool) : List Expr → Prop
  | [] => True
  | a :: as => Printable isUnit a ∧ AllPrintable isUnit as

end

end Expr

/-! ### The scanner on printed texts -/

namespace Token

/-- What the scanner sees of a token, apart from its place. -/
def lexeme (t : Token) : TokenKind × String := (t.kind, t.content)

/-- The tokens of some characters in whatever column, apart from their places. -/
def Lexes (cs : List Char) (lexemes : List (TokenKind × String)) : Prop :=
  ∀ column, ∃ ts, Scans .standard column cs ts ∧ ts.map lexeme = lexemes

/-- A token that the scanner takes off in front of other characters. -/
def Fits (kind : TokenKind) (word follow : List Char) : Prop :=
  ∃ c cs, word = c :: cs ∧ isGap c = false ∧
    split .standard c (cs ++ follow) = (kind, word, follow)

variable {kind : TokenKind} {word follow : List Char} {lexemes : List (TokenKind × String)}

theorem lexes_nil : Lexes [] [(.endOfLine, "")] :=
  fun column => ⟨_, Scans.stop (by simp [IsGap]), rfl⟩

/-- In front of characters there may be a gap. -/
theorem Lexes.gap {gap : List Char} (hg : IsGap gap) (h : Lexes follow lexemes) :
    Lexes (gap ++ follow) lexemes := by
  intro column
  obtain ⟨ts, hs, rfl⟩ := h (column + gap.length)
  obtain ⟨t, ts, rfl⟩ := List.exists_cons_of_ne_nil hs.ne_nil
  have happend {gap' : List Char} (hg' : IsGap gap') : IsGap (gap ++ gap') := fun c hc =>
    (List.mem_append.1 hc).elim (hg c) (hg' c)
  rcases hs.uncons with ⟨rfl, hg', rfl⟩ | ⟨gap', c, rest, rfl, hg', hc, rfl, hrest⟩
  · exact ⟨_, Scans.stop (happend hg'), rfl⟩
  · rw [Nat.add_assoc column, ← List.length_append] at hrest
    rw [← List.append_assoc]
    exact ⟨_, Scans.token (happend hg') hc hrest, rfl⟩

theorem Lexes.space (h : Lexes follow lexemes) : Lexes (' ' :: follow) lexemes := by
  have hspace : IsGap [' '] := by simp [IsGap, isGap]
  exact h.gap hspace

theorem Lexes.token (hw : Fits kind word follow) (h : Lexes follow lexemes) :
    Lexes (word ++ follow) ((kind, String.ofList word) :: lexemes) := by
  intro column
  obtain ⟨c, cs, rfl, hc, hs⟩ := hw
  obtain ⟨ts, hts, rfl⟩ := h (column + 0 + (c :: cs).length)
  have hgap : IsGap [] := by simp [IsGap]
  exact ⟨_, Scans.token_of_split hgap hc hs hts, rfl⟩

/-- Characters that end a word and a number, and no operator of one character becomes longer in
front of them. -/
def inertChars : List Char := [' ', '(', ')', ',', '!', '/', '^']

/-- What follows starts with such a character, if with any. -/
def Inert (follow : List Char) : Prop := ∀ c ∈ follow.head?, c ∈ inertChars

theorem inert_nil : Inert [] := fun c hc => by cases hc

/-- What is decided of one inert character after the other. -/
theorem forall_inert {P : Char → Prop} [DecidablePred P]
    (h : inertChars.all (fun c => decide (P c)) = true) : ∀ c ∈ inertChars, P c :=
  fun c hc => of_decide_eq_true (List.all_eq_true.1 h c hc)

theorem inert_cons {c : Char} (h : c ∈ inertChars) : Inert (c :: follow) := by
  intro d hd
  obtain rfl : c = d := by simpa using hd
  exact h

/-- What follows starts with a character that ends a word and a number, if with any. -/
structure Breaks (follow : List Char) : Prop where
  isWordChar : ∀ c ∈ follow.head?, Token.isWordChar c = false
  sign : ∀ c ∈ follow.head?, ¬(c = '+' ∨ c = '-')
  decimal : ∀ c ∈ follow.head?, Marks.standard.decimal ≠ some c

theorem Breaks.isDigit (h : Breaks follow) : ∀ c ∈ follow.head?, Text.isDigit c = false := by
  intro c hc
  have hword := h.isWordChar c hc
  simp only [Token.isWordChar, Bool.or_eq_false_iff] at hword
  exact hword.1.2

theorem Breaks.ne_letter (h : Breaks follow) : ∀ c ∈ follow.head?, ¬(c = 'e' ∨ c = 'E') := by
  intro c hc he
  have hword := h.isWordChar c hc
  rcases he with rfl | rfl <;> revert hword <;> decide

theorem Inert.breaks (h : Inert follow) : Breaks follow where
  isWordChar := by
    have key : ∀ c ∈ inertChars, Token.isWordChar c = false := forall_inert (by decide)
    exact fun c hc => key c (h c hc)
  sign := by
    have key : ∀ c ∈ inertChars, ¬(c = '+' ∨ c = '-') := forall_inert (by decide)
    exact fun c hc => key c (h c hc)
  decimal := by
    have key : ∀ c ∈ inertChars, Marks.standard.decimal ≠ some c := forall_inert (by decide)
    exact fun c hc => key c (h c hc)

/-- A space or a tab ends every token. -/
theorem breaks_of_gap (h : ∀ c ∈ follow.head?, isGap c = true) : Breaks follow := by
  have hgap {c : Char} (hc : c ∈ follow.head?) : c = ' ' ∨ c = '\t' := by
    simpa [isGap] using h c hc
  refine ⟨fun c hc => ?_, fun c hc => ?_, fun c hc => ?_⟩
  all_goals rcases hgap hc with rfl | rfl <;> decide

/-- A run ends in front of a character of another class. -/
theorem takeRun_append_of_head {p : Char → Bool} (cs : List Char)
    (h : ∀ c ∈ follow.head?, p c = false) :
    takeRun p (cs ++ follow) = ((takeRun p cs).1, (takeRun p cs).2 ++ follow) := by
  induction cs with
  | nil =>
    cases follow with
    | nil => rfl
    | cons c follow => simp [takeRun, h c rfl]
  | cons c cs ih =>
    simp only [takeRun, Prod.mk.injEq] at ih
    cases hc : p c with
    | true => simp [takeRun, hc, ih]
    | false => simp [takeRun, hc]

theorem takeFraction_append_of_breaks (cs : List Char) (h : Breaks follow) :
    takeFraction .standard (cs ++ follow) =
      ((takeFraction .standard cs).1, (takeFraction .standard cs).2 ++ follow) := by
  cases cs with
  | nil =>
    cases follow with
    | nil => rfl
    | cons c follow => simp [takeFraction, h.decimal c rfl]
  | cons c cs =>
    by_cases hc : Marks.standard.decimal = some c
    · simp [takeFraction, hc, takeRun_append_of_head cs h.isDigit]
    · simp [takeFraction, hc]

theorem takeExponent_append_of_breaks (cs : List Char) (h : Breaks follow) :
    takeExponent (cs ++ follow) = ((takeExponent cs).1, (takeExponent cs).2 ++ follow) := by
  rcases takeExponent_cases cs with
    ⟨c, s, d, rest, rfl, hc, hs, hd⟩ | ⟨c, d, rest, rfl, hc, hd⟩ | hn
  · simp only [List.cons_append]
    rw [takeExponent_signed hc hs hd, takeExponent_signed hc hs hd,
      takeRun_append_of_head rest h.isDigit]
  · simp only [List.cons_append]
    rw [takeExponent_unsigned hc hd, takeExponent_unsigned hc hd,
      takeRun_append_of_head rest h.isDigit]
  · -- what follows completes no exponent
    rw [hn]
    rcases takeExponent_cases (cs ++ follow) with
      ⟨c, s, d, rest, heq, hc, hs, hd⟩ | ⟨c, d, rest, heq, hc, hd⟩ | hn'
    · rcases cs with _ | ⟨c', _ | ⟨s', _ | ⟨d', cs⟩⟩⟩
      · exact absurd hc (h.ne_letter c (by simp [show follow = _ from heq]))
      · obtain ⟨-, rfl⟩ := List.cons.inj heq
        exact absurd hs (h.sign s rfl)
      · obtain ⟨-, heq⟩ := List.cons.inj heq
        obtain ⟨-, rfl⟩ := List.cons.inj heq
        rw [h.isDigit d rfl] at hd
        cases hd
      · simp only [List.cons_append, List.cons.injEq] at heq
        obtain ⟨rfl, rfl, rfl, -⟩ := heq
        rw [takeExponent_signed hc hs hd] at hn
        cases hn
    · rcases cs with _ | ⟨c', _ | ⟨d', cs⟩⟩
      · exact absurd hc (h.ne_letter c (by simp [show follow = _ from heq]))
      · obtain ⟨-, rfl⟩ := List.cons.inj heq
        rw [h.isDigit d rfl] at hd
        cases hd
      · simp only [List.cons_append, List.cons.injEq] at heq
        obtain ⟨rfl, rfl, -⟩ := heq
        rw [takeExponent_unsigned hc hd] at hn
        cases hn
    · exact hn'

theorem takeNumber_append_of_breaks (cs : List Char) (h : Breaks follow) :
    takeNumber .standard (cs ++ follow) =
      ((takeNumber .standard cs).1, (takeNumber .standard cs).2 ++ follow) := by
  simp only [takeNumber, takeRun_append_of_head cs h.isDigit, takeFraction_append_of_breaks _ h,
    takeExponent_append_of_breaks _ h]

/-- **A token is the same in front of a gap.** -/
theorem split_append_of_gap (c : Char) (rest : List Char)
    (h : ∀ d ∈ follow.head?, isGap d = true) :
    split .standard c (rest ++ follow) = ((split .standard c rest).1,
      (split .standard c rest).2.1, (split .standard c rest).2.2 ++ follow) := by
  have hb := breaks_of_gap h
  by_cases hs : Marks.standard.separator = some c
  · rw [split_separator hs, split_separator hs]
  cases hl : Text.isLetter c with
  | true => rw [split_letter hs hl, split_letter hs hl, takeRun_append_of_head rest hb.isWordChar]
  | false =>
    cases hd : Text.isDigit c with
    | true =>
      rw [split_digit hs hl hd, split_digit hs hl hd, ← List.cons_append,
        takeNumber_append_of_breaks _ hb]
    | false =>
      cases ho : single? c with
      | none => rw [split_unknown hs hl hd ho, split_unknown hs hl hd ho]
      | some k =>
        have hgap {d : Char} (hd : isGap d = true) : double? c d = none := by
          have hd : d = ' ' ∨ d = '\t' := by simpa [isGap] using hd
          rcases hd with rfl | rfl <;> simp [double?]
        rcases split_operator rest hs hl hd ho with ⟨d, long, tail, rfl, h2, heq⟩ | ⟨h2, heq⟩
        · rw [heq, List.cons_append, split_long hs hl hd ho h2]
        · rw [heq]
          refine split_short hs hl hd ho fun d hd' => ?_
          cases rest with
          | nil => exact hgap (h d hd')
          | cons d' rest => exact h2 d hd'

theorem single?_kind {c : Char} (h : single? c = some kind) : kind ≠ .word ∧ kind ≠ .scalar := by
  refine ⟨?_, ?_⟩
  all_goals rintro rfl
  all_goals unfold single? at h
  all_goals split at h
  all_goals cases h

theorem double?_kind {c d : Char} (h : double? c d = some kind) :
    kind ≠ .word ∧ kind ≠ .scalar := by
  refine ⟨?_, ?_⟩
  all_goals rintro rfl
  all_goals unfold double? at h
  all_goals split at h
  all_goals cases h

/-- A word or a number that makes up its text is taken off in front of inert characters. -/
theorem split_append_of_inert {c : Char} {rest : List Char} (h : Inert follow)
    (hk : kind = .word ∨ kind = .scalar)
    (hs : split .standard c rest = (kind, c :: rest, [])) :
    split .standard c (rest ++ follow) = (kind, c :: rest, follow) := by
  by_cases hsep : Marks.standard.separator = some c
  · rw [split_separator hsep] at hs
    simp only [Prod.mk.injEq] at hs
    rcases hk with rfl | rfl <;> cases hs.1
  cases hl : Text.isLetter c with
  | true =>
    rw [split_letter hsep hl] at hs ⊢
    simp only [Prod.mk.injEq, List.cons.injEq, true_and] at hs
    rw [takeRun_append_of_head rest h.breaks.isWordChar, hs.1, hs.2.1, hs.2.2, List.nil_append]
  | false =>
    cases hd : Text.isDigit c with
    | true =>
      rw [split_digit hsep hl hd] at hs ⊢
      simp only [Prod.mk.injEq] at hs
      rw [← List.cons_append, takeNumber_append_of_breaks _ h.breaks, hs.1, hs.2]
      rfl
    | false =>
      cases ho : single? c with
      | none =>
        rw [split_unknown hsep hl hd ho] at hs
        simp only [Prod.mk.injEq] at hs
        rcases hk with rfl | rfl <;> cases hs.1
      | some k =>
        rcases split_operator rest hsep hl hd ho with ⟨d, long, tail, rfl, h2, heq⟩ | ⟨-, heq⟩
        · rw [heq] at hs
          simp only [Prod.mk.injEq] at hs
          have := double?_kind h2
          rcases hk with rfl | rfl <;> simp_all
        · rw [heq] at hs
          simp only [Prod.mk.injEq] at hs
          have := single?_kind ho
          rcases hk with rfl | rfl <;> simp_all

/-- A text that is a single word or number is taken off in front of inert characters. -/
theorem fits_of_isLexeme {text : String} (h : Expr.IsLexeme kind text)
    (hk : kind = .word ∨ kind = .scalar) (hi : Inert follow) : Fits kind text.toList follow := by
  obtain ⟨last, hscan⟩ := h
  rcases (scan_eq_iff.1 hscan).uncons with ⟨hnil, -, -⟩ | ⟨gap, c, rest, htext, -, hc, ht, -⟩
  · cases hnil
  · simp only [Token.mk.injEq, Nat.zero_add] at ht
    obtain ⟨hkind, hcontent, hgap, -⟩ := ht
    obtain rfl : gap = [] := List.length_eq_zero_iff.1 hgap.symm
    rw [List.nil_append] at htext
    have hword : (split .standard c rest).2.1 = c :: rest := by
      rw [← htext, hcontent, String.toList_ofList]
    have hafter : (split .standard c rest).2.2 = [] := by
      have happend := split_append .standard c rest
      rw [hword] at happend
      simpa using happend
    have hsplit : split .standard c rest = (kind, c :: rest, []) := by
      rw [← hword, ← hafter, hkind]
    rw [htext]
    exact ⟨c, rest, rfl, hc, split_append_of_inert hi hk hsplit⟩

end Token

open Token

variable {follow : List Char} {lexemes : List (TokenKind × String)}

/-- The reserved word is a single word. -/
theorem isLexeme_reserved : Expr.IsLexeme .word "in" :=
  ⟨⟨.endOfLine, "", 2, false⟩, by decide +kernel⟩

/-- An operator with two operands is taken off in front of a space. -/
theorem BinaryOp.fits (op : BinaryOp) :
    Fits op.piece.kind op.piece.content.toList (' ' :: follow) := by
  cases op
  case inUnit => exact fits_of_isLexeme isLexeme_reserved (.inl rfl) (inert_cons (by decide))
  all_goals
    refine ⟨_, _, rfl, rfl, ?_⟩
    first
    | exact split_short (by decide) (by decide) (by decide) rfl (by simp; decide)
    | exact split_long (by decide) (by decide) (by decide) rfl rfl

/-- A sign in front of its operand is taken off in front of anything. -/
theorem UnaryOp.fits (op : UnaryOp) (h : op ≠ .factorial) :
    Fits op.piece.kind op.piece.content.toList follow := by
  have hnone : ∀ c ∈ ['+', '-', '\''], ∀ d, double? c d = none := by
    intro c hc d
    simp only [List.mem_cons, List.not_mem_nil, or_false] at hc
    rcases hc with rfl | rfl | rfl <;> simp [double?]
  cases op
  case factorial => exact absurd rfl h
  all_goals
    refine ⟨_, _, rfl, rfl, ?_⟩
    exact split_short (by decide) (by decide) (by decide) rfl
      fun d _ => hnone _ (by decide) d

/-- Parentheses are taken off in front of anything. -/
theorem fits_paren {kind : TokenKind} {c : Char}
    (h : (kind, c) = (.leftParen, '(') ∨ (kind, c) = (.rightParen, ')')) :
    Fits kind [c] follow := by
  rcases h with h | h <;> cases h
  all_goals
    refine ⟨_, _, rfl, rfl, ?_⟩
    exact split_short (by decide) (by decide) (by decide) rfl fun d _ => by simp [double?]

theorem fits_separator : Fits .separator [','] follow := ⟨_, _, rfl, rfl, split_separator rfl⟩

theorem fits_factorial (h : Inert follow) : Fits .factorial ['!'] follow := by
  have key : ∀ c ∈ inertChars, double? '!' c = none := forall_inert (by decide)
  exact ⟨_, _, rfl, rfl,
    split_short (by decide) (by decide) (by decide) rfl fun d hd => key d (h d hd)⟩

theorem fits_question : Fits .question ['?'] (' ' :: follow) :=
  ⟨_, _, rfl, rfl, split_short (by decide) (by decide) (by decide) rfl (by simp; decide)⟩

theorem fits_colon : Fits .colon [':'] (' ' :: follow) :=
  ⟨_, _, rfl, rfl, split_short (by decide) (by decide) (by decide) rfl (by simp; decide)⟩

theorem BinaryOp.piece_spaced (op : BinaryOp) : op.piece.spaced = true := by
  cases op <;> rfl

/-- The characters of some pieces scan to these pieces. -/
def Spells (ps : List Piece) : Prop :=
  ∀ follow lexemes, Inert follow → Lexes follow lexemes →
    Lexes (ps.flatMap Piece.chars ++ follow) (ps.map Piece.lexeme ++ lexemes)

namespace Expr

theorem spells_enclose {required : Nat} {e : Expr} {ps : List Piece} (h : Spells ps) :
    Spells (e.enclose required ps) := by
  unfold enclose
  split
  · intro follow lexemes hi hf
    have hclose : Lexes (')' :: follow) ((.rightParen, ")") :: lexemes) :=
      Lexes.token (fits_paren (.inr rfl)) hf
    have hopen := Lexes.token (fits_paren (.inl rfl)) (h _ _ (inert_cons (by decide)) hclose)
    simpa [Piece.chars, Piece.bare, Piece.lexeme] using hopen
  · exact h

/-- Pieces with a spaced operator between them. -/
theorem spells_between {ps qs : List Piece} {op : Piece} (hspaced : op.spaced = true)
    (hop : ∀ follow, Fits op.kind op.content.toList (' ' :: follow)) (hp : Spells ps)
    (hq : Spells qs) : Spells (ps ++ op :: qs) := by
  intro follow lexemes hi hf
  have hright := Lexes.space (hq _ _ hi hf)
  have hsign := Lexes.space (Lexes.token (hop _) hright)
  have hleft := hp _ _ (inert_cons (by decide)) hsign
  simpa [Piece.chars, hspaced, Piece.lexeme] using hleft

/-- A sign in front of its operand. -/
theorem spells_sign {op : UnaryOp} {a : Expr} {content : String} (hop : op ≠ .factorial)
    (ha : Spells (body a)) : Spells (body (unary op a content)) := by
  intro follow lexemes hi hf
  have hoperand : Spells (a.enclose 13 (body a)) := spells_enclose ha
  have := Lexes.token (op.fits hop) (hoperand _ _ hi hf)
  cases op with
  | factorial => exact absurd rfl hop
  | plus | minus | removeUnits =>
    simpa [body, UnaryOp.level, Piece.chars, UnaryOp.piece, Piece.bare, Piece.lexeme] using this

mutual

/-- **The printed text of a tree scans to its own pieces.** -/
theorem spells_body {isUnit : String → Bool} : (t : Expr) → Printable isUnit t → Spells (body t)
  | scalar c, ht => by
    intro follow lexemes hi hf
    have := Lexes.token (fits_of_isLexeme ht (.inr rfl) hi) hf
    simpa [body, Piece.chars, Piece.bare, Piece.lexeme] using this
  | name c, ht | unit c, ht => by
    intro follow lexemes hi hf
    have := Lexes.token (fits_of_isLexeme ht.1 (.inl rfl) hi) hf
    simpa [body, Piece.chars, Piece.bare, Piece.lexeme] using this
  | unary .factorial a _, ht => by
    intro follow lexemes hi hf
    have ha : Spells (a.enclose 15 (body a)) := spells_enclose (spells_body a ht)
    have hsign := Lexes.token (fits_factorial hi) hf
    have := ha _ _ (inert_cons (by decide)) hsign
    simpa [body, Piece.chars, UnaryOp.piece, Piece.bare, Piece.lexeme] using this
  | unary .plus a _, ht => spells_sign (by decide) (spells_body a ht)
  | unary .minus a _, ht => spells_sign (by decide) (spells_body a ht)
  | unary .removeUnits a _, ht => spells_sign (by decide) (spells_body a ht)
  | binary op a b _, ht =>
    spells_between op.piece_spaced (fun _ => op.fits) (spells_enclose (spells_body a ht.1))
      (spells_enclose (spells_body b ht.2))
  | conditional c y n _, ht =>
    spells_between rfl (fun _ => fits_question) (spells_enclose (spells_body c ht.1))
      (spells_between rfl (fun _ => fits_colon) (spells_enclose (spells_body y ht.2.1))
        (spells_enclose (spells_body n ht.2.2)))
  | call f as _, ht => by
    intro follow lexemes hi hf
    have hclose : Lexes (')' :: follow) ((.rightParen, ")") :: lexemes) :=
      Lexes.token (fits_paren (.inr rfl)) hf
    have hopen := Lexes.token (fits_paren (.inl rfl))
      (spells_bodies as ht.2 _ _ (inert_cons (by decide)) hclose)
    have := Lexes.token (fits_of_isLexeme ht.1 (.inl rfl) (inert_cons (by decide))) hopen
    simpa [body, Piece.chars, Piece.bare, Piece.lexeme] using this

/-- The printed text of arguments scans to their pieces. -/
theorem spells_bodies {isUnit : String → Bool} :
    (ts : List Expr) → AllPrintable isUnit ts → Spells (bodies ts)
  | [], _ => fun _ _ _ hf => hf
  | [a], ht => by
    rw [bodies]
    exact spells_body a ht.1
  | a :: b :: as, ht => by
    intro follow lexemes hi hf
    have hrest := Lexes.token fits_separator (spells_bodies (b :: as) ht.2 _ _ hi hf)
    have := spells_body a ht.1 _ _ (inert_cons (by decide)) hrest
    simpa [bodies, Piece.chars, Piece.bare, Piece.lexeme] using this

end

/-- The tokens of a printed text are its pieces and the end. -/
theorem scan_print {isUnit : String → Bool} {t : Expr} (ht : Printable isUnit t) :
    (Token.scan .standard t.print).map Token.lexeme =
      t.body.map Piece.lexeme ++ [(.endOfLine, "")] := by
  obtain ⟨ts, hs, hl⟩ := spells_body t ht [] _ inert_nil lexes_nil 0
  rw [List.append_nil] at hs
  have hscan : Token.scan .standard t.print = ts :=
    scan_eq_iff.2 (by rw [print, String.toList_ofList]; exact hs)
  rw [hscan, hl]

end Expr
end QuantityCalculus
