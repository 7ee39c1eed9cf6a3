/-
# Displayed units are read back

The text of a unit is read as the product of its factors, grouped to the left in the order they
are printed in. It works because an exponent takes no unit words: behind `m^2` the next word is a
factor of the whole product, not of the exponent. With a number in front, the unit words belong to
the number, so that the text is a single operand: behind `*`, `/` or `%` all of it is the right
operand.

A factor is read in front of the end or of the word of the next factor (`reads_factor`). From
there both products, the one of unit words and the one behind a number, go by one induction over
the factors (`reads_factors`).

**Main statement.** `text_reads_back`.
-/

import QuantityCalculus.Proofs.Expr.Front
import QuantityCalculus.Proofs.Units.Printed

namespace QuantityCalculus
namespace Units

open Expr Token

variable {src : Source} {d : Nat} {w : Bool} {t : Token} {ts all rest : List Token} {a e : Expr}
  {f : String × Rat} {fs : List (String × Rat)} {isUnit : String → Bool} {u : Units}

/-! ### Reading factors -/

/-- A number, where no unit word follows that it takes. -/
theorem reads_number (ht : t.kind = .scalar) (hstop : w = true → Row.units.Stops src rest) :
    Reads src d (.operand w) (t :: rest) (.scalar t.content) rest := by
  cases w with
  | false => exact .bareNumber (.scalar ht)
  | true => exact .numberWithUnits (.whole (.first (.scalar ht)) (hstop rfl))

/-- An operand that nothing goes on with is a signed one. -/
theorem Reads.signed_of_operand (h : Reads src d (.operand w) ts e rest)
    (hf : kindOf rest ≠ .factorial) (hp : kindOf rest ≠ .power) :
    Reads src d (.signed w) ts e rest :=
  .unsigned (h.no_sign rfl) (.noExponent (.noFactorial h) hf hp)

/-- What is signed is a quotient where no integer division follows. -/
theorem Reads.quotient_of_signed (h : Reads src d (.signed true) ts e rest)
    (hd : kindOf rest ≠ .intDivide) : Reads src d (.row .quotient) ts e rest := by
  refine .whole (.first h) ?_
  cases rest with
  | nil => exact Row.stops_nil _
  | cons t rest => simpa [Row.stops_cons, Row.goesOn] using hd

theorem reads_integer {n : Int} (hs : Spelled ts (integerPieces n))
    (hf : kindOf rest ≠ .factorial) (hp : kindOf rest ≠ .power)
    (hstop : w = true → Row.units.Stops src rest) :
    ReadsAs src (d + 1) (.signed w) (ts ++ rest) (integerExpr n) rest := by
  have hnumber {k ts} (hs : Spelled ts [.bare .scalar (toString n.natAbs)]) :
      Reads src k (.signed w) (ts ++ rest) (.scalar (toString n.natAbs)) rest := by
    obtain ⟨t, us, rfl, hk, hc, hus⟩ := hs.cons
    obtain rfl := hus.nil
    have hc : t.content = toString n.natAbs := hc
    rw [← hc]
    exact Reads.signed_of_operand (reads_number hk hstop) hf hp
  unfold integerPieces at hs
  unfold integerExpr
  split
  · rename_i hn
    rw [if_pos hn] at hs
    obtain ⟨t, us, rfl, hk, -, hus⟩ := hs.cons
    have hminus : leadingOperator? t.kind = some .minus := by rw [hk]; rfl
    exact ⟨_, .sign hminus (hnumber hus), rfl⟩
  · rename_i hn
    rw [if_neg hn] at hs
    exact ⟨_, hnumber hs, rfl⟩

/-- What comes behind a factor: the end, or the word of the next factor. -/
def Ends (ts : List Token) : Prop := kindOf ts = .endOfLine ∨ kindOf ts = .word

theorem Ends.kindOf_ne {k : TokenKind} (h : Ends ts) (hk : k ≠ .endOfLine) (hk' : k ≠ .word) :
    kindOf ts ≠ k := by
  rcases h with h | h <;> rw [h]
  · exact hk.symm
  · exact hk'.symm

/-- The quotient of an exponent, up to the parenthesis behind it. -/
theorem reads_quotient {n : Int} {m : Nat} {q : Token} (hq : q.kind = .rightParen)
    (hs : Spelled ts (integerPieces n ++ [.bare .divide "/", .bare .scalar (toString m)])) :
    ReadsAs src (d + 1) .assignment (ts ++ q :: rest)
      (.binary .divide (integerExpr n) (.scalar (toString m)) "") (q :: rest) := by
  obtain ⟨ns, us, rfl, hns, hus⟩ := hs.append
  obtain ⟨t, us, rfl, ht, -, hus⟩ := hus.cons
  obtain ⟨b, us, rfl, hb, hc, hus⟩ := hus.cons
  obtain rfl := hus.nil
  have ht : t.kind = .divide := ht
  have hc : b.content = toString m := hc
  have hslash {k : TokenKind} (hk : .divide ≠ k) : kindOf (t :: b :: q :: rest) ≠ k := by
    rwa [kindOf_cons, ht]
  have hclose {k : TokenKind} (hk : .rightParen ≠ k) : kindOf (q :: rest) ≠ k := by
    rwa [kindOf_cons, hq]
  obtain ⟨n', hn, hne⟩ : ReadsAs src (d + 1) (.signed true) (ns ++ t :: b :: q :: rest)
      (integerExpr n) (t :: b :: q :: rest) :=
    reads_integer hns (hslash (by decide)) (hslash (by decide))
      fun _ => Row.stops_cons.2 (by simp [Row.goesOn, ht])
  have hm : Reads src (d + 1) (.row .quotient) (b :: q :: rest) (.scalar (toString m))
      (q :: rest) := by
    have hnumber : Reads src (d + 1) (.operand true) (b :: q :: rest) (.scalar b.content)
        (q :: rest) := reads_number hb fun _ => Row.stops_cons.2 (by simp [Row.goesOn, hq])
    rw [← hc]
    exact Reads.quotient_of_signed
      (Reads.signed_of_operand hnumber (hclose (by decide)) (hclose (by decide)))
      (hclose (by decide))
  have hdivide : factorOperator? t = some .divide := by simp [factorOperator?, ht]
  have hproduct : Reads src (d + 1) (.stage true 11) (ns ++ t :: b :: q :: rest) _ (q :: rest) :=
    .more (.first (Reads.quotient_of_signed hn (hslash (by decide)))) (.nextFactor hdivide hm)
  have hbind : bindingOf (q :: rest) = 0 := bindingOf_closing hq (by decide) rfl
  have hread := hproduct.stage_of_le (Nat.zero_le _) (by omega) (fun _ => rfl) (by omega)
  rw [List.append_assoc, List.cons_append, List.cons_append, List.nil_append]
  exact ⟨_, hread, by simp only [erase, hne]⟩

/-- **An exponent** is read in front of the end and of a word. -/
theorem reads_exponent {q : Rat} (hs : Spelled ts (exponentPieces q)) (hrest : Ends rest) :
    ReadsAs src (d + 2) (.signed false) (ts ++ rest) (exponentExpr q) rest := by
  have hf := hrest.kindOf_ne (k := .factorial) (by decide) (by decide)
  have hp := hrest.kindOf_ne (k := .power) (by decide) (by decide)
  unfold exponentPieces at hs
  unfold exponentExpr
  split
  · rename_i hq
    rw [if_pos hq] at hs
    exact reads_integer hs hf hp fun h => nomatch h
  · rename_i hq
    rw [if_neg hq] at hs
    obtain ⟨t, us, rfl, ht, -, hus⟩ := hs.cons
    have hus : Spelled us ((integerPieces q.num ++
        [.bare .divide "/", .bare .scalar (toString q.den)]) ++ [.bare .rightParen ")"]) := by
      simpa using hus
    obtain ⟨ns, vs, rfl, hns, hvs⟩ := hus.append
    obtain ⟨c, vs, rfl, hc, -, hvs⟩ := hvs.cons
    obtain rfl := hvs.nil
    obtain ⟨e, he, hee⟩ : ReadsAs src (d + 1) .assignment (ns ++ c :: rest) _ (c :: rest) :=
      reads_quotient hc hns
    refine ⟨e, ?_, hee⟩
    have hread : Reads src (d + 2) (.operand false) (t :: (ns ++ c :: rest)) e rest :=
      .paren ht he hc
    simpa using Reads.signed_of_operand hread hf hp

/-- **A factor** is read in front of the end and of a word. -/
theorem reads_factor (hs : Spelled ts (factorPieces f)) (hu : src.isUnit f.1 = true)
    (hrest : Ends rest) : ReadsAs src (d + 3) (.power w) (ts ++ rest) (factorExpr f) rest := by
  unfold factorPieces at hs
  obtain ⟨t, us, rfl, ht, hc, hus⟩ := hs.cons
  have hc : t.content = f.1 := hc
  have hu : src.isUnit t.content = true := hc ▸ hu
  unfold factorExpr
  split
  · rename_i hone
    rw [if_pos hone] at hus
    obtain rfl := hus.nil
    have hread : Reads src (d + 3) (.operand w) (t :: rest) (.unit t.content) rest :=
      .unit ht (hrest.kindOf_ne (by decide) (by decide)) hu
    exact ⟨_, .noExponent (.noFactorial hread) (hrest.kindOf_ne (by decide) (by decide))
      (hrest.kindOf_ne (by decide) (by decide)), by rw [hc]⟩
  · rename_i hone
    rw [if_neg hone] at hus
    obtain ⟨p, us, rfl, hp, -, hus⟩ := hus.cons
    have hp : p.kind = .power := hp
    obtain ⟨x, hx, hxe⟩ : ReadsAs src (d + 2) (.signed false) (us ++ rest) (exponentExpr f.2) rest :=
      reads_exponent hus hrest
    have hbase : Reads src (d + 3) (.operand w) (t :: p :: (us ++ rest)) (.unit t.content)
        (p :: (us ++ rest)) := .unit ht (by simp [hp]) hu
    exact ⟨_, .exponent (.noFactorial hbase) hp hx, by simp [erase, hxe, hc]⟩

/-- The pieces of a factor start with its word. -/
theorem Spelled.factor_cons (hs : Spelled ts (factorPieces f)) :
    ∃ t us, ts = t :: us ∧ t.kind = .word ∧ t.content = f.1 := by
  obtain ⟨t, us, rfl, hk, hc, -⟩ := Spelled.cons hs
  exact ⟨t, us, rfl, hk, hc⟩

/-- What comes behind a factor, if it is the end or other factors. -/
theorem ends_of_spelled (hs : Spelled ts (fs.flatMap factorPieces))
    (hend : kindOf rest = .endOfLine) : Ends (ts ++ rest) := by
  cases fs with
  | nil =>
    obtain rfl := hs.nil
    exact .inl hend
  | cons f fs =>
    obtain ⟨us, vs, rfl, hus, -⟩ := hs.append
    obtain ⟨t, us, rfl, hk, -⟩ := Spelled.factor_cons hus
    exact .inr hk

/-- **Factors behind a part of a row** are multiplied onto it, one after the other. -/
theorem reads_factors {r : Row}
    (hnext : ∀ f ∈ fs, ∀ ts rest, Spelled ts (factorPieces f) → Ends rest →
      ReadsAs src d (.next r .multiply) (ts ++ rest) (factorExpr f) rest)
    (h : ReadsAs src d (.rowPart r) all a (ts ++ rest))
    (hs : Spelled ts (fs.flatMap factorPieces)) (hend : kindOf rest = .endOfLine) :
    ReadsAs src d (.rowPart r) all (productOnto a fs) rest := by
  induction fs generalizing a ts with
  | nil =>
    obtain rfl := hs.nil
    exact h
  | cons f fs ih =>
    obtain ⟨us, vs, rfl, hus, hvs⟩ := hs.append
    obtain ⟨l, hl, hle⟩ := h
    obtain ⟨x, hx, hxe⟩ := hnext f (List.mem_cons_self ..) us (vs ++ rest) hus
      (ends_of_spelled hvs hend)
    rw [List.append_assoc] at hl
    have hmore : ReadsAs src d (.rowPart r) all (.binary .multiply a (factorExpr f) "")
        (vs ++ rest) := ⟨_, .more hl hx, by rw [erase, erase, hle, hxe]⟩
    exact ih (fun g hg => hnext g (List.mem_cons_of_mem _ hg)) hmore hvs

/-! ### Units that are registered -/

/-- The symbols of a unit are words other than the reserved one, and all of them are units. -/
def Registered (isUnit : String → Bool) (u : Units) : Prop :=
  ∀ f ∈ u.factors, IsLexeme .word f.1 ∧ f.1 ≠ Name.reserved ∧ isUnit f.1 = true

theorem mem_written : f ∈ u.written ↔ f ∈ u.factors := by
  simp only [written, List.mem_append, List.mem_filter]
  cases decide (f.2 < 0) <;> simp

/-- The tokens of a text, by what its characters scan to. -/
theorem scan_of_lexes {text : String} {lexemes : List (TokenKind × String)}
    (h : Lexes text.toList lexemes) : (Token.scan .standard text).map Token.lexeme = lexemes := by
  obtain ⟨ts, hs, rfl⟩ := h 0
  rw [scan_eq_iff.2 hs]

/-- The tokens of some pieces and the end. -/
theorem exists_of_spelled_end {ps : List Piece}
    (h : ts.map Token.lexeme = ps.map Piece.lexeme ++ [(.endOfLine, "")]) :
    ∃ us last, ts = us ++ [last] ∧ Spelled us ps ∧ last.kind = .endOfLine := by
  obtain ⟨us, vs, rfl, hus, hvs⟩ := List.map_eq_append_iff.1 h
  obtain ⟨last, vs, rfl, hlast, hnil⟩ := List.map_eq_cons_iff.1 hvs
  obtain rfl := List.map_eq_nil_iff.1 hnil
  exact ⟨us, last, rfl, hus, congrArg Prod.fst hlast⟩

/-- A phrase that is read from all tokens of a text is what the text stands for. -/
theorem read_of_readsAs {text : String} {g : Phrase} {last : Token} (hg : g.IsNode)
    (h : ReadsAs ⟨text.toList, isUnit⟩ (deepest - 1) g (Token.scan .standard text) a [last])
    (hend : last.kind = .endOfLine) :
    ∃ e, read .standard isUnit text = .ok e ∧ e.erase = a.erase := by
  obtain ⟨e, he, hee⟩ := h
  exact ⟨e, ofTokens_eq_ok_iff.2 ⟨_, [last], rfl, he.toAssignment hg hend, hend⟩, hee⟩

/-- The product of a unit is read from its tokens. -/
theorem reads_product (src : Source) {last : Token}
    (hu : ∀ g ∈ f :: fs, g.1 ≠ Name.reserved ∧ src.isUnit g.1 = true)
    (hs : Spelled ts ((f :: fs).flatMap factorPieces)) (hend : last.kind = .endOfLine) :
    ReadsAs src (d + 3) (.rowPart .product) (ts ++ [last]) (productOnto (factorExpr f) fs) [last] := by
  obtain ⟨us, vs, rfl, hus, hvs⟩ := hs.append
  have hends : Ends (vs ++ [last]) := ends_of_spelled hvs hend
  obtain ⟨x, hx, hxe⟩ := reads_factor (d := d) (w := true) hus (hu f (List.mem_cons_self ..)).2 hends
  have hfirst : ReadsAs src (d + 3) (.rowPart .product) (us ++ vs ++ [last]) (factorExpr f)
      (vs ++ [last]) := by
    rw [List.append_assoc]
    exact ⟨x, .first (Reads.quotient_of_signed (.unsigned (hx.no_sign rfl) hx)
      (hends.kindOf_ne (by decide) (by decide))), hxe⟩
  refine reads_factors (fun g hg ts rest hs hrest => ?_) hfirst hvs hend
  obtain ⟨hne, hunit⟩ := hu g (List.mem_cons_of_mem _ hg)
  obtain ⟨t, us, rfl, hk, hc⟩ := Spelled.factor_cons hs
  obtain ⟨y, hy, hye⟩ := reads_factor (d := d) (w := true) hs hunit hrest
  exact ⟨y, .factorUnit hk (hc ▸ hne) (hc ▸ hunit) hy, hye⟩

/-- The operators of products. -/
def IsFactorOperator (op : BinaryOp) : Prop := op = .multiply ∨ op = .divide ∨ op = .modulo

theorem IsFactorOperator.factorOperator? {op : BinaryOp} (h : IsFactorOperator op)
    (ht : t.kind = op.piece.kind) : Expr.factorOperator? t = some op := by
  rcases h with rfl | rfl | rfl <;> simp [Expr.factorOperator?, ht] <;> rfl

section Main

variable (hr : u.Registered isUnit)

include hr

theorem Registered.lexemes (hw : u.written = f :: fs) : ∀ g ∈ f :: fs, IsLexeme .word g.1 :=
  fun g hg => (hr g (mem_written.1 (hw ▸ hg))).1

theorem Registered.units (hw : u.written = f :: fs) :
    ∀ g ∈ f :: fs, g.1 ≠ Name.reserved ∧ isUnit g.1 = true :=
  fun g hg => (hr g (mem_written.1 (hw ▸ hg))).2

/-- **The text of a unit** is read as the product of its factors. -/
theorem Registered.read_text (hw : u.written = f :: fs) :
    ∃ e, read .standard isUnit u.text = .ok e ∧ e.erase = productOnto (factorExpr f) fs := by
  have hlex := hr.lexemes hw
  have hlexes := spells_factor (hlex f (List.mem_cons_self ..)) _ _ (inert_spacedFactors fs)
    (lexes_factors fun g hg => hlex g (List.mem_cons_of_mem _ hg))
  rw [← toList_text hw] at hlexes
  have hscan := scan_of_lexes hlexes
  rw [← List.append_assoc, ← List.map_append, ← List.flatMap_cons] at hscan
  obtain ⟨us, last, heq, hus, hend⟩ := exists_of_spelled_end hscan
  have hread := reads_product (d := deepest - 4) ⟨u.text.toList, isUnit⟩ (hr.units hw) hus hend
  rw [← heq] at hread
  have := read_of_readsAs (show (Phrase.rowPart .product).IsNode from trivial) hread hend
  rwa [erase_productOnto, erase_factorExpr] at this

end Main

end Units
end QuantityCalculus
