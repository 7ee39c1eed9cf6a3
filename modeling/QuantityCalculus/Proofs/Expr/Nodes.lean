/-
# Where the nodes of an expression come from

Every node of an expression that is read was read itself: it is the expression of a phrase that
lies within the tokens of the whole, and its content is the text of that phrase. A phrase that
stands in front of the end is an assignment as well, because nothing can go on behind it. This
holds for exponents too: where no unit word follows, numbers that take no unit words are read
like those that do.

**Main statements.**

* `Reads.origin`: every node is a single token or the expression of a phrase.
* `Reads.toAssignment`: a phrase in front of the end is an assignment.
-/

import QuantityCalculus.Proofs.Expr.Reads

namespace QuantityCalculus
namespace Expr

variable {src : Source} {d : Nat} {g : Phrase} {ts rest : List Token} {e n : Expr}

/-! ### Phrases in front of the end -/

/-- At the end no row goes on. -/
theorem Row.stops_of_end (r : Row) (h : kindOf ts = .endOfLine) : r.Stops src ts := by
  cases ts with
  | nil => exact r.stops_nil
  | cons t ts =>
    rw [kindOf_cons] at h
    refine stops_cons.2 ?_
    cases r with
    | level l _ => cases l <;> simp [goesOn, Level.operator?, h]
    | product => simp [goesOn, factorOperator?, h]
    | quotient | units => simp [goesOn, h]

theorem Reads.operand_ordinary {u : Bool} (h : Reads src d (.operand u) ts e rest)
    (hs : Row.units.Stops src rest) : Reads src d (.operand true) ts e rest := by
  cases h with
  | paren ht ha hp => exact .paren ht ha hp
  | bareNumber hn => exact .numberWithUnits (.whole (.first hn) hs)
  | numberWithUnits hn => exact .numberWithUnits hn
  | unit ht hk hu => exact .unit ht hk hu
  | name ht hk hu => exact .name ht hk hu
  | emptyCall ht hp hq => exact .emptyCall ht hp hq
  | call hc hp => exact .call hc hp

/-- A token of another kind than a word is no unit word. -/
theorem Row.units_stops_of_kind {t : Token} (h : t.kind ≠ .word) :
    Row.units.Stops src (t :: ts) :=
  stops_cons.2 (by simp [goesOn, h])

theorem Reads.factorials_ordinary {u : Bool} (h : Reads src d (.factorials u) ts e rest)
    (hs : Row.units.Stops src rest) : Reads src d (.factorials true) ts e rest := by
  generalize hg : Phrase.factorials u = g at h
  induction h with
  | noFactorial h _ =>
    cases hg
    exact .noFactorial (h.operand_ordinary hs)
  | factorial _ ht ih =>
    cases hg
    exact .factorial (ih (Row.units_stops_of_kind (by simp [ht])) rfl) ht
  | _ => cases hg

theorem Reads.power_ordinary {u : Bool} (h : Reads src d (.power u) ts e rest)
    (hs : Row.units.Stops src rest) : Reads src d (.power true) ts e rest := by
  cases h with
  | noExponent h hf hp => exact .noExponent (h.factorials_ordinary hs) hf hp
  | exponent h ht he =>
    exact .exponent (h.factorials_ordinary (Row.units_stops_of_kind (by simp [ht]))) ht he

/-- **An exponent is an ordinary operand,** where no unit word follows. -/
theorem Reads.signed_ordinary {u : Bool} (h : Reads src d (.signed u) ts e rest)
    (hs : Row.units.Stops src rest) : Reads src d (.signed true) ts e rest := by
  generalize hg : Phrase.signed u = g at h
  induction h with
  | unsigned hk h _ =>
    cases hg
    exact .unsigned hk (h.power_ordinary hs)
  | sign ht _ ih =>
    cases hg
    exact .sign ht (ih hs rfl)
  | _ => cases hg

theorem Reads.levels_of_suffix {ls ls' : List Level} (hl : ls' <:+ ls)
    (h : Reads src d (.levels ls') ts e rest) (hend : kindOf rest = .endOfLine) :
    Reads src d (.levels ls) ts e rest := by
  obtain ⟨pre, rfl⟩ := hl
  induction pre with
  | nil => exact h
  | cons l pre ih => exact .whole (.first ih) (Row.stops_of_end _ hend)

/-- The levels of a row are the last of those that there are. -/
def Row.InLevels : Row → Prop
  | level l tighter => l :: tighter <:+ Level.all
  | _ => True

/-- The phrases that a node may be read as. -/
def Phrase.IsNode : Phrase → Prop
  | rowPart r => r.InLevels
  | assignment | condition | signed _ | power _ | factorials _ | operand _ => True
  | _ => False

/-- **A phrase in front of the end is an assignment.** -/
theorem Reads.toAssignment (h : Reads src d g ts e rest) (hg : g.IsNode)
    (hend : kindOf rest = .endOfLine) : Reads src d .assignment ts e rest := by
  have hstops : ∀ r : Row, r.Stops src rest := fun r => r.stops_of_end hend
  -- from the tightest phrases to the loosest
  have ofCondition {e} (h : Reads src d .condition ts e rest) :
      Reads src d .assignment ts e rest := .plainCondition h (by simp [hend])
  have ofLevels {e ls} (hl : ls <:+ Level.all) (h : Reads src d (.levels ls) ts e rest) :
      Reads src d .assignment ts e rest :=
    ofCondition (.plainOperation (h.levels_of_suffix hl hend) (by simp [hend]))
  have ofProduct {e} (h : Reads src d (.rowPart .product) ts e rest) :
      Reads src d .assignment ts e rest :=
    ofLevels (show [] <:+ Level.all from List.nil_suffix ..) (.whole h (hstops _))
  have ofQuotient {e} (h : Reads src d (.rowPart .quotient) ts e rest) :
      Reads src d .assignment ts e rest := ofProduct (.first (.whole h (hstops _)))
  have ofSigned {e} (h : Reads src d (.signed true) ts e rest) :
      Reads src d .assignment ts e rest := ofQuotient (.first h)
  have ofPower {e} (h : Reads src d (.power true) ts e rest) :
      Reads src d .assignment ts e rest := ofSigned (.unsigned (h.no_sign rfl) h)
  have ofFactorials {e} (h : Reads src d (.factorials true) ts e rest) :
      Reads src d .assignment ts e rest :=
    ofPower (.noExponent h (by simp [hend]) (by simp [hend]))
  cases g with
  | assignment => exact h
  | condition => exact ofCondition h
  | rowPart r =>
    cases r with
    | level l tighter => exact ofLevels hg (.whole h (hstops _))
    | product => exact ofProduct h
    | quotient => exact ofQuotient h
    | units => exact ofFactorials (.noFactorial (.numberWithUnits (.whole h (hstops _))))
  | signed u => exact ofSigned (h.signed_ordinary (hstops _))
  | power u => exact ofPower (h.power_ordinary (hstops _))
  | factorials u => exact ofFactorials (h.factorials_ordinary (hstops _))
  | operand u => exact ofFactorials (.noFactorial (h.operand_ordinary (hstops _)))
  | row _ | next _ _ | number | openCall => exact hg.elim

/-! ### The nodes -/

/-- A node that is one token. -/
def Leaf (src : Source) (t : Token) (n : Expr) : Prop :=
  (t.kind = .scalar ∧ n = .scalar t.content) ∨
  (t.kind = .word ∧ src.isUnit t.content = true ∧ n = .unit t.content) ∨
  (t.kind = .word ∧ src.isUnit t.content = false ∧ n = .name t.content)

/-- Where a node comes from, within tokens that are read up to `rest`. -/
inductive Origin (src : Source) (d : Nat) (ts rest : List Token) (n : Expr) : Prop
  | leaf {t after} : Leaf src t n → t :: after <:+ ts → rest <:+ after → Origin src d ts rest n
  | phrase {g start stop} : Reads src d g start n stop → g.IsNode →
    n.content = src.upTo (columnOf start) stop → start <:+ ts → rest <:+ stop →
      Origin src d ts rest n

theorem Origin.mono {d' : Nat} {ts' rest' : List Token} (h : Origin src d ts rest n)
    (hd : d ≤ d') (hts : ts <:+ ts') (hrest : rest' <:+ rest) : Origin src d' ts' rest' n := by
  cases h with
  | leaf hl h₁ h₂ => exact .leaf hl (h₁.trans hts) (hrest.trans h₂)
  | phrase h hg hc h₁ h₂ => exact .phrase (h.mono hd) hg hc (h₁.trans hts) (hrest.trans h₂)

/-- A phrase is its own origin. -/
theorem Reads.itself (h : Reads src d g ts e rest) (hg : g.IsNode)
    (hc : e.content = src.upTo (columnOf ts) rest) : Origin src d ts rest e :=
  .phrase h hg hc (List.suffix_refl _) (List.suffix_refl _)

/-- The nodes of a phrase: those of its expression, and of the arguments of an open call. -/
def Phrase.nodes : Phrase → Expr → List Expr
  | openCall, .call _ es _ => walkAll es
  | _, e => e.walk

theorem walkAll_append (as bs : List Expr) : walkAll (as ++ bs) = walkAll as ++ walkAll bs := by
  induction as with
  | nil => rfl
  | cons a as ih => simp [walkAll, ih]

theorem Phrase.nodes_levels (ls : List Level) (e : Expr) : (Phrase.levels ls).nodes e = e.walk := by
  cases ls <;> rfl

theorem Row.nodes_operand (r : Row) (e : Expr) : r.operand.nodes e = e.walk := by
  cases r with
  | level l tighter => exact Phrase.nodes_levels tighter e
  | product | quotient | units => rfl

/-- The row of a phrase, if it is about one, has its levels among those that there are. -/
def Phrase.InLevels : Phrase → Prop
  | row r | rowPart r | next r _ => r.InLevels
  | _ => True

theorem Phrase.inLevels_levels {ls : List Level} (h : ls <:+ Level.all) :
    (Phrase.levels ls).InLevels := by
  cases ls with
  | nil => trivial
  | cons l ls => exact h

theorem Row.inLevels_operand {r : Row} (h : r.InLevels) : r.operand.InLevels := by
  cases r with
  | level l tighter => exact Phrase.inLevels_levels ((List.suffix_cons l tighter).trans h)
  | product | quotient | units => trivial

theorem Reads.suffix_cons {t : Token} (h : Reads src d g ts e rest) : rest <:+ t :: ts :=
  h.consumed.isSuffix.trans (List.suffix_cons t ts)

/-- **Every node was read itself:** it is a single token, or the expression of a phrase within the
tokens, with the text of that phrase. -/
theorem Reads.origin (h : Reads src d g ts e rest) (hg : g.InLevels) :
    ∀ n ∈ g.nodes e, Origin src d ts rest n := by
  induction h with
  | plainCondition _ _ ih | unsigned _ _ ih | noExponent _ _ _ ih | noFactorial _ ih
  | bareNumber _ ih | numberWithUnits _ ih => exact fun n hn => ih trivial n hn
  | whole _ _ ih => exact fun n hn => ih hg n hn
  | plainOperation _ _ ih =>
    intro n hn
    exact ih (Phrase.inLevels_levels (List.suffix_refl _)) n hn
  | @first _ r _ e _ _ ih =>
    intro n hn
    exact ih (Row.inLevels_operand hg) n (by rw [Row.nodes_operand]; exact hn)
  | @nextLevel _ l tighter t _ ts e _ _ _ ih =>
    intro n hn
    have hg := (List.suffix_cons l tighter).trans hg
    have hn : n ∈ (Phrase.levels tighter).nodes e := by rw [Phrase.nodes_levels]; exact hn
    exact (ih (Phrase.inLevels_levels hg) n hn).mono (Nat.le_refl _) (List.suffix_cons t ts)
      (List.suffix_refl _)
  | @nextQuotient _ t ts _ _ _ _ ih | @nextFactor _ t _ ts _ _ _ _ ih =>
    intro n hn
    exact (ih trivial n hn).mono (Nat.le_refl _) (List.suffix_cons t ts) (List.suffix_refl _)
  | factorUnit _ _ _ _ ih => exact fun n hn => ih trivial n hn
  | nextUnit _ _ _ ih =>
    intro n hn
    exact (ih trivial n hn).mono (Nat.le_succ _) (List.suffix_refl _) (List.suffix_refl _)
  | @factorParen _ t ts _ p rest _ _ _ ih | @paren _ _ t ts _ p rest _ _ _ ih =>
    intro n hn
    exact (ih trivial n hn).mono (Nat.le_succ _) (List.suffix_cons t ts) (List.suffix_cons p rest)
  | @factorName _ t rest ht _ hu | @name _ _ t rest ht _ hu =>
    intro n hn
    obtain rfl : n = .name t.content := by simpa [Phrase.nodes, walk] using hn
    exact .leaf (.inr (.inr ⟨ht, hu, rfl⟩)) (List.suffix_refl _) (List.suffix_refl _)
  | @unit _ _ t rest ht _ hu =>
    intro n hn
    obtain rfl : n = .unit t.content := by simpa [Phrase.nodes, walk] using hn
    exact .leaf (.inr (.inl ⟨ht, hu, rfl⟩)) (List.suffix_refl _) (List.suffix_refl _)
  | @scalar _ t rest ht =>
    intro n hn
    obtain rfl : n = .scalar t.content := by simpa [Phrase.nodes, walk] using hn
    exact .leaf (.inl ⟨ht, rfl⟩) (List.suffix_refl _) (List.suffix_refl _)
  -- nodes with parts: the node itself, and then the parts
  | @assign d ts target t mid value rest h₁ ht h₂ ih₁ ih₂ =>
    intro n hn
    simp only [Phrase.nodes, walk, List.mem_cons, List.mem_append] at hn
    have hmid : mid <:+ ts := (List.suffix_cons t mid).trans h₁.consumed.isSuffix
    rcases hn with rfl | hn | hn
    · exact (Reads.assign h₁ ht h₂).itself trivial rfl
    · exact (ih₁ trivial n hn).mono (Nat.le_refl _) (List.suffix_refl _) h₂.suffix_cons
    · exact (ih₂ trivial n hn).mono (Nat.le_succ _) hmid (List.suffix_refl _)
  | @conditional d ts c t₁ mid₁ yes t₂ mid₂ no rest h₁ ht₁ h₂ ht₂ h₃ ih₁ ih₂ ih₃ =>
    intro n hn
    simp only [Phrase.nodes, walk, List.mem_cons, List.mem_append] at hn
    have hmid₁ : mid₁ <:+ ts := (List.suffix_cons t₁ mid₁).trans h₁.consumed.isSuffix
    have hmid₂ : mid₂ <:+ ts := 
      ((List.suffix_cons t₂ mid₂).trans h₂.consumed.isSuffix).trans hmid₁
    rcases hn with rfl | hn | hn | hn
    · exact (Reads.conditional h₁ ht₁ h₂ ht₂ h₃).itself trivial rfl
    · have hall : Phrase.operation.InLevels := Phrase.inLevels_levels (List.suffix_refl _)
      refine (ih₁ hall n hn).mono (Nat.le_refl _) (List.suffix_refl _) ?_
      exact (h₃.suffix_cons.trans h₂.consumed.isSuffix).trans (List.suffix_cons t₁ mid₁)
    · exact (ih₂ trivial n hn).mono (Nat.le_succ _) hmid₁ h₃.suffix_cons
    · exact (ih₃ trivial n hn).mono (Nat.le_succ _) hmid₂ (List.suffix_refl _)
  | @more d r ts left mid op right rest h₁ h₂ ih₁ ih₂ =>
    intro n hn
    simp only [Phrase.nodes, walk, List.mem_cons, List.mem_append] at hn
    rcases hn with rfl | hn | hn
    · exact (Reads.more h₁ h₂).itself hg rfl
    · exact (ih₁ hg n hn).mono (Nat.le_refl _) (List.suffix_refl _) h₂.consumed.isSuffix
    · exact (ih₂ hg n hn).mono (Nat.le_refl _) h₁.consumed.isSuffix (List.suffix_refl _)
  | @exponent d u ts base t mid e rest h₁ ht h₂ ih₁ ih₂ =>
    intro n hn
    simp only [Phrase.nodes, walk, List.mem_cons, List.mem_append] at hn
    have hmid : mid <:+ ts := (List.suffix_cons t mid).trans h₁.consumed.isSuffix
    rcases hn with rfl | hn | hn
    · exact (Reads.exponent h₁ ht h₂).itself trivial rfl
    · exact (ih₁ trivial n hn).mono (Nat.le_refl _) (List.suffix_refl _) h₂.suffix_cons
    · exact (ih₂ trivial n hn).mono (Nat.le_succ _) hmid (List.suffix_refl _)
  | @sign d u t op ts e rest ht h ih =>
    intro n hn
    simp only [Phrase.nodes, walk, List.mem_cons] at hn
    rcases hn with rfl | hn
    · exact (Reads.sign ht h).itself trivial rfl
    · exact (ih trivial n hn).mono (Nat.le_succ _) (List.suffix_cons t ts) (List.suffix_refl _)
  | @factorial d u ts e t rest h ht ih =>
    intro n hn
    simp only [Phrase.nodes, walk, List.mem_cons] at hn
    rcases hn with rfl | hn
    · exact (Reads.factorial h ht).itself trivial rfl
    · exact (ih trivial n hn).mono (Nat.le_refl _) (List.suffix_refl _) (List.suffix_cons t rest)
  | @emptyCall d u t p q rest ht hp hq =>
    intro n hn
    obtain rfl : n = .call t.content [] (src.upTo t.column rest) := by
      simpa [Phrase.nodes, walk, walkAll] using hn
    exact (Reads.emptyCall (u := u) ht hp hq).itself trivial rfl
  | @call d u ts f es p rest h hp ih =>
    intro n hn
    simp only [Phrase.nodes, walk, List.mem_cons] at hn
    rcases hn with rfl | hn
    · exact (Reads.call (u := u) h hp).itself trivial rfl
    · exact (ih trivial n hn).mono (Nat.le_refl _) (List.suffix_refl _) (List.suffix_cons p rest)
  | @firstArgument d t p ts e rest ht hp h ih =>
    intro n hn
    have hn : n ∈ e.walk := by simpa [Phrase.nodes, walkAll] using hn
    have hts : ts <:+ t :: p :: ts := (List.suffix_cons p ts).trans (List.suffix_cons t _)
    exact (ih trivial n hn).mono (Nat.le_succ _) hts (List.suffix_refl _)
  | @nextArgument d ts f es t mid e rest h₁ ht h₂ ih₁ ih₂ =>
    intro n hn
    have hn : n ∈ walkAll es ∨ n ∈ e.walk := by
      simpa [Phrase.nodes, walkAll_append, walkAll] using hn
    have hmid : mid <:+ ts := (List.suffix_cons t mid).trans h₁.consumed.isSuffix
    rcases hn with hn | hn
    · exact (ih₁ trivial n hn).mono (Nat.le_refl _) (List.suffix_refl _) h₂.suffix_cons
    · exact (ih₂ trivial n hn).mono (Nat.le_succ _) hmid (List.suffix_refl _)

end Expr
end QuantityCalculus
