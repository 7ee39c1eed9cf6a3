/-
# Two readings side by side

A reader looks at the kinds and the contents of tokens, and asks of words whether they are units.
The columns of the tokens and the text that they were taken from only end up in what it gives: in
the contents of composite nodes, and in the column of an error. So where two rows of tokens have the
same kinds and contents, and their words are units in both or in neither, reading them ends alike.

How much alike depends on whether places count. If they do, the tokens and the texts are the same,
and so are the trees and the errors: that is reading with other units. If they do not, trees are the
same but for the contents of composite nodes, and errors but for their columns.

Each reader is followed through both rows, with one lemma for each of them.

**Main statement.** `paired_ofTokens`.
-/

import QuantityCalculus.Proofs.Expr.Prompt

namespace QuantityCalculus

/-- The error, found in another column. -/
def SyntaxError.at : SyntaxError → Nat → SyntaxError
  | nothing, _ => nothing
  | unrecognized _, c => unrecognized c
  | unclosed _, c => unclosed c
  | missingColon _, c => missingColon c
  | tooDeep, _ => tooDeep

namespace Expr

variable {places : Prop} {src src' : Source} {ts ts' rest rest' : List Token} {t t' : Token}
  {start start' fuel d : Nat} {e e' a a' b b' : Expr} {as as' : List Expr} {c c' : String}

/-! ### What goes along -/

/-- Tokens with the same kinds and contents, whose words are units in both readings or in neither.
If places count, the tokens and the texts that they are from are the same. -/
structure Paired (places : Prop) (src src' : Source) (ts ts' : List Token) : Prop where
  lexemes : SameLexemes ts ts'
  units : ∀ t ∈ ts, t.kind = .word → src'.isUnit t.content = src.isUnit t.content
  tokens : places → ts' = ts
  text : places → src'.text = src.text

/-- Trees that are the same but for the contents of composite nodes; if places count, altogether. -/
structure Resembles (places : Prop) (e e' : Expr) : Prop where
  erase : e'.erase = e.erase
  same : places → e' = e

/-- The same for rows of trees. -/
structure AllResemble (places : Prop) (as as' : List Expr) : Prop where
  erase : eraseAll as' = eraseAll as
  same : places → as' = as

/-- Two readings that end alike: with values that go along, or with the same error. -/
inductive BothEnd (places : Prop) {β : Type} (P : β → β → Prop) :
    Except SyntaxError β → Except SyntaxError β → Prop
  | ok {b b' : β} : P b b' → BothEnd places P (.ok b) (.ok b')
  | error {s s' : SyntaxError} : s'.at 0 = s.at 0 → (places → s' = s) →
    BothEnd places P (.error s) (.error s')

/-- What is read goes along, and so do the tokens that are left. -/
abbrev PairedRead (places : Prop) (src src' : Source) {β : Type} (P : β → β → Prop) :
    Except SyntaxError (β × List Token) → Except SyntaxError (β × List Token) → Prop :=
  BothEnd places fun p p' => P p.1 p'.1 ∧ Paired places src src' p.2 p'.2

/-- Two readers read tokens alike that go along. -/
def PairedReader (places : Prop) (src src' : Source) (r r' : Reader) : Prop :=
  ∀ ts ts', Paired places src src' ts ts' →
    PairedRead places src src' (Resembles places) (r ts) (r' ts')

/-- An operator and its right operand in both readings, or in neither. -/
inductive NextResembles (places : Prop) (src src' : Source) :
    Option (BinaryOp × Expr × List Token) → Option (BinaryOp × Expr × List Token) → Prop
  | none : NextResembles places src src' none none
  | some {op e e' ts ts'} : Resembles places e e' → Paired places src src' ts ts' →
    NextResembles places src src' (some (op, e, ts)) (some (op, e', ts'))

/-- Two readers of an operator and its right operand read tokens alike that go along. -/
def PairedNext (places : Prop) (src src' : Source) (next next' : Next) : Prop :=
  ∀ ts ts', Paired places src src' ts ts' →
    BothEnd places (NextResembles places src src') (next ts) (next' ts')

/-- The readers of what may stand inside an expression read tokens alike that go along. -/
structure PairedReaders (places : Prop) (src src' : Source) (inner inner' : Readers) : Prop where
  assignment : PairedReader places src src' inner.assignment inner'.assignment
  condition : PairedReader places src src' inner.condition inner'.condition
  signed : PairedReader places src src' inner.signed inner'.signed
  exponent : PairedReader places src src' inner.exponent inner'.exponent
  power : PairedReader places src src' inner.power inner'.power

/-! ### Results -/

protected theorem BothEnd.bind {β γ : Type} {P : β → β → Prop} {Q : γ → γ → Prop}
    {x y : Except SyntaxError β} {f g : β → Except SyntaxError γ} (hxy : BothEnd places P x y)
    (hfg : ∀ b b', P b b' → BothEnd places Q (f b) (g b')) :
    BothEnd places Q (x >>= f) (y >>= g) := by
  cases hxy with
  | ok h => exact hfg _ _ h
  | error h hsame => exact .error h hsame

/-- A failure that stands at no token. -/
theorem BothEnd.throw {β : Type} {P : β → β → Prop} (s : SyntaxError) :
    BothEnd places P (.error s) (.error s) :=
  .error rfl fun _ => rfl

/-! ### Trees -/

theorem Resembles.refl (places : Prop) (e : Expr) : Resembles places e e := ⟨rfl, fun _ => rfl⟩

theorem Resembles.unary (op : UnaryOp) (ha : Resembles places a a') (hc : places → c' = c) :
    Resembles places (.unary op a c) (.unary op a' c') where
  erase := by simp only [Expr.erase, ha.erase]
  same h := by rw [ha.same h, hc h]

theorem Resembles.binary (op : BinaryOp) (ha : Resembles places a a') (hb : Resembles places b b')
    (hc : places → c' = c) : Resembles places (.binary op a b c) (.binary op a' b' c') where
  erase := by simp only [Expr.erase, ha.erase, hb.erase]
  same h := by rw [ha.same h, hb.same h, hc h]

theorem Resembles.conditional (he : Resembles places e e') (ha : Resembles places a a')
    (hb : Resembles places b b') (hc : places → c' = c) :
    Resembles places (.conditional e a b c) (.conditional e' a' b' c') where
  erase := by simp only [Expr.erase, he.erase, ha.erase, hb.erase]
  same h := by rw [he.same h, ha.same h, hb.same h, hc h]

theorem Resembles.call (f : String) (has : AllResemble places as as') (hc : places → c' = c) :
    Resembles places (.call f as c) (.call f as' c') where
  erase := by simp only [Expr.erase, has.erase]
  same h := by rw [has.same h, hc h]

theorem allResemble_nil : AllResemble places [] [] := ⟨rfl, fun _ => rfl⟩

theorem AllResemble.cons (ha : Resembles places a a') (has : AllResemble places as as') :
    AllResemble places (a :: as) (a' :: as') where
  erase := by simp only [eraseAll, ha.erase, has.erase]
  same h := by rw [ha.same h, has.same h]

/-- Where places count, two readings end with the same. -/
theorem BothEnd.eq_of_places {x y : Except SyntaxError Expr}
    (h : BothEnd True (Resembles True) x y) : y = x := by
  cases h with
  | ok h => rw [h.same trivial]
  | error _ hsame => rw [hsame trivial]

/-! ### Tokens -/

namespace Paired

/-- The first tokens go along, and so do the tokens behind them. -/
theorem exists_cons (h : Paired places src src' (t :: ts) ts') :
    ∃ t' us, ts' = t' :: us ∧ t'.kind = t.kind ∧ t'.content = t.content ∧
      (places → t' = t) ∧
      (t.kind = .word → src'.isUnit t.content = src.isUnit t.content) ∧
      Paired places src src' ts us := by
  obtain ⟨t', us, rfl, ht, hus⟩ := h.lexemes.exists_cons
  refine ⟨t', us, rfl, kind_of_lexeme ht, content_of_lexeme ht, fun hp => ?_,
    h.units t (List.mem_cons_self ..), hus,
    fun u hu => h.units u (List.mem_cons_of_mem t hu), fun hp => ?_, h.text⟩
  · exact (List.cons.inj (h.tokens hp)).1
  · exact (List.cons.inj (h.tokens hp)).2

theorem nil_left (h : Paired places src src' [] ts') : ts' = [] := sameLexemes_nil.1 h.lexemes

theorem tail (h : Paired places src src' ts ts') : Paired places src src' ts.tail ts'.tail := by
  cases ts with
  | nil =>
    obtain rfl := h.nil_left
    exact h
  | cons t ts =>
    obtain ⟨t', us, rfl, -, -, -, -, hus⟩ := h.exists_cons
    exact hus

theorem kindOf (h : Paired places src src' ts ts') : Expr.kindOf ts' = Expr.kindOf ts :=
  h.lexemes.same_start.kindOf

theorem columnOf (h : Paired places src src' ts ts') (hp : places) :
    Expr.columnOf ts' = Expr.columnOf ts := by
  rw [h.tokens hp]

theorem length (h : Paired places src src' ts ts') : ts'.length = ts.length := by
  simpa using congrArg List.length h.lexemes

theorem upTo (h : Paired places src src' ts ts') (hstart : places → start' = start)
    (hp : places) : src'.upTo start' ts' = src.upTo start ts := by
  rw [Source.upTo, Source.upTo, h.columnOf hp, h.text hp, hstart hp]

/-- The same error, each at the first of the tokens. -/
theorem error {β : Type} {P : β → β → Prop} (h : Paired places src src' ts ts')
    (s : SyntaxError) :
    BothEnd places P (.error (s.at (Expr.columnOf ts))) (.error (s.at (Expr.columnOf ts'))) :=
  .error (by cases s <;> rfl) fun hp => by rw [h.columnOf hp]

end Paired

/-! ### Operators and operands -/

theorem paired_closing (h : Paired places src src' ts ts') :
    BothEnd places (Paired places src src') (closing ts) (closing ts') := by
  unfold closing
  rw [h.kindOf]
  split
  · exact .ok h.tail
  · exact h.error (.unclosed 0)

theorem paired_groupLeft {next next' : Next} (hnext : PairedNext places src src' next next')
    (hstart : places → start' = start) (he : Resembles places e e')
    (h : Paired places src src' ts ts') :
    PairedRead places src src' (Resembles places) (groupLeft src next start fuel e ts)
      (groupLeft src' next' start' fuel e' ts') := by
  induction fuel generalizing e e' ts ts' with
  | zero => exact .ok ⟨he, h⟩
  | succ fuel ih =>
    refine (hnext ts ts' h).bind fun o o' ho => ?_
    cases ho with
    | none => exact .ok ⟨he, h⟩
    | some hright hrest => exact ih (he.binary _ hright (hrest.upTo hstart)) hrest

/-- A right operand, behind an operator. -/
theorem paired_right {r r' : Except SyntaxError (Expr × List Token)} (op : BinaryOp)
    (h : PairedRead places src src' (Resembles places) r r') :
    BothEnd places (NextResembles places src src') (r >>= fun p => .ok (some (op, p.1, p.2)))
      (r' >>= fun p => .ok (some (op, p.1, p.2))) :=
  h.bind fun _ _ hp => .ok (.some hp.1 hp.2)

theorem paired_nextOperand {operator? : Token → Option BinaryOp}
    (hoperator : ∀ t t' : Token, t'.kind = t.kind → t'.content = t.content →
      operator? t' = operator? t)
    {operand operand' : Reader} (hoperand : PairedReader places src src' operand operand') :
    PairedNext places src src' (nextOperand operator? operand)
      (nextOperand operator? operand') := by
  intro ts ts' h
  cases ts with
  | nil =>
    obtain rfl := h.nil_left
    exact .ok .none
  | cons t ts =>
    obtain ⟨t', us, rfl, hk, hc, -, -, hus⟩ := h.exists_cons
    dsimp only [nextOperand]
    rw [hoperator t t' hk hc]
    split
    · exact .ok .none
    · exact paired_right _ (hoperand ts us hus)

theorem paired_chain {operator? : Token → Option BinaryOp}
    (hoperator : ∀ t t' : Token, t'.kind = t.kind → t'.content = t.content →
      operator? t' = operator? t)
    {operand operand' : Reader} (hoperand : PairedReader places src src' operand operand') :
    PairedReader places src src' (chain src operator? operand)
      (chain src' operator? operand') := by
  intro ts ts' h
  refine (hoperand ts ts' h).bind fun p p' hp => ?_
  dsimp only
  rw [hp.2.length]
  exact paired_groupLeft (paired_nextOperand hoperator hoperand) h.columnOf hp.1 hp.2

section

variable {inner inner' : Readers} (hinner : PairedReaders places src src' inner inner')
include hinner

/-! ### Operands -/

theorem paired_parenthesised :
    PairedReader places src src' (parenthesised inner) (parenthesised inner') :=
  fun ts ts' h => (hinner.assignment ts ts' h).bind fun _ _ hp =>
    (paired_closing hp.2).bind fun _ _ hrest => .ok ⟨hp.1, hrest⟩

theorem paired_arguments (h : Paired places src src' ts ts') :
    PairedRead places src src' (AllResemble places) (arguments inner fuel ts)
      (arguments inner' fuel ts') := by
  induction fuel generalizing ts ts' with
  | zero => exact h.error (.unrecognized 0)
  | succ fuel ih =>
    refine (hinner.assignment ts ts' h).bind fun p p' hp => ?_
    dsimp only
    rw [hp.2.kindOf]
    split
    · exact (ih hp.2.tail).bind fun _ _ hq => .ok ⟨.cons hp.1 hq.1, hq.2⟩
    · exact .ok ⟨.cons hp.1 allResemble_nil, hp.2⟩

theorem paired_callOf (function : String) (hstart : places → start' = start) :
    PairedReader places src src' (callOf src inner start function)
      (callOf src' inner' start' function) := by
  intro ts ts' h
  unfold callOf
  rw [h.tail.kindOf, h.length]
  split
  · exact .ok ⟨.call function allResemble_nil (h.tail.tail.upTo hstart), h.tail.tail⟩
  · exact (paired_arguments hinner h.tail).bind fun _ _ hp =>
      (paired_closing hp.2).bind fun _ _ hrest =>
        .ok ⟨.call function hp.1 (hrest.upTo hstart), hrest⟩

theorem paired_nextUnit :
    PairedNext places src src' (nextUnit src inner) (nextUnit src' inner') := by
  intro ts ts' h
  cases ts with
  | nil =>
    obtain rfl := h.nil_left
    exact .ok .none
  | cons t ts =>
    obtain ⟨t', us, rfl, hk, hc, -, hunit, -⟩ := h.exists_cons
    have hiff : (t'.kind = .word ∧ src'.isUnit t'.content) ↔
        (t.kind = .word ∧ src.isUnit t.content) := by
      rw [hk, hc]
      exact and_congr_right fun ht => by rw [hunit ht]
    dsimp only [nextUnit]
    simp only [hiff]
    split
    · exact paired_right _ (hinner.power _ _ h)
    · exact .ok .none

theorem paired_elementary (withUnits : Bool) :
    PairedReader places src src' (elementary src inner withUnits)
      (elementary src' inner' withUnits) := by
  intro ts ts' h
  cases ts with
  | nil =>
    obtain rfl := h.nil_left
    exact .throw (.unrecognized 0)
  | cons t rest =>
    have hall := h
    obtain ⟨t', rest', rfl, hk, hc, hplace, hunit, hrest⟩ := h.exists_cons
    have hstart (hp : places) : t'.column = t.column := by rw [hplace hp]
    dsimp only [elementary]
    rw [hk, hc]
    split
    · exact paired_parenthesised hinner rest rest' hrest
    · split
      · rw [hrest.length]
        exact paired_groupLeft (paired_nextUnit hinner) hstart (.refl ..) hrest
      · exact .ok ⟨.refl .., hrest⟩
    · rename_i ht
      rw [hrest.kindOf, hunit ht]
      split
      · exact paired_callOf hinner _ hstart rest rest' hrest
      · split <;> exact .ok ⟨.refl .., hrest⟩
    · exact hall.error (.unrecognized 0)

omit hinner in
theorem paired_factorials (hstart : places → start' = start) (he : Resembles places e e')
    (h : Paired places src src' ts ts') :
    Resembles places (factorials src start e ts).1 (factorials src' start' e' ts').1 ∧
      Paired places src src' (factorials src start e ts).2 (factorials src' start' e' ts').2 := by
  induction ts generalizing e e' ts' with
  | nil =>
    obtain rfl := h.nil_left
    exact ⟨he, h⟩
  | cons t ts ih =>
    have hall := h
    obtain ⟨t', us, rfl, hk, -, -, -, hus⟩ := h.exists_cons
    unfold factorials
    rw [hk]
    split
    · exact ih (he.unary .factorial (hus.upTo hstart)) hus
    · exact ⟨he, hall⟩

theorem paired_power (withUnits : Bool) :
    PairedReader places src src' (power src inner withUnits)
      (power src' inner' withUnits) := by
  intro ts ts' h
  refine (paired_elementary hinner withUnits ts ts' h).bind fun p p' hp => ?_
  obtain ⟨hbase, hrest⟩ := paired_factorials h.columnOf hp.1 hp.2
  dsimp only
  rw [hrest.kindOf]
  split
  · exact (hinner.exponent _ _ hrest.tail).bind fun _ _ hq =>
      .ok ⟨hbase.binary _ hq.1 (hq.2.upTo h.columnOf), hq.2⟩
  · exact .ok ⟨hbase, hrest⟩

omit hinner in
theorem paired_leading {nested nested' plain plain' : Reader}
    (hnested : PairedReader places src src' nested nested')
    (hplain : PairedReader places src src' plain plain') :
    PairedReader places src src' (leading src nested plain) (leading src' nested' plain') := by
  intro ts ts' h
  unfold leading
  rw [h.kindOf]
  split
  · exact hplain ts ts' h
  · exact (hnested _ _ h.tail).bind fun _ _ hp =>
      .ok ⟨hp.1.unary _ (hp.2.upTo h.columnOf), hp.2⟩

theorem paired_signed :
    PairedReader places src src' (signed src inner) (signed src' inner') :=
  paired_leading hinner.signed (paired_power hinner true)

theorem paired_exponent :
    PairedReader places src src' (exponent src inner) (exponent src' inner') :=
  paired_leading hinner.exponent (paired_power hinner false)

/-! ### Products and looser operators -/

theorem paired_quotient :
    PairedReader places src src' (quotient src inner) (quotient src' inner') :=
  paired_chain (fun t t' hk _ => by simp only [quotientOperator?, hk]) (paired_signed hinner)

theorem paired_nextFactor {operand operand' : Reader}
    (hoperand : PairedReader places src src' operand operand') :
    PairedNext places src src' (nextFactor src inner operand)
      (nextFactor src' inner' operand') := by
  intro ts ts' h
  cases ts with
  | nil =>
    obtain rfl := h.nil_left
    exact .ok .none
  | cons t rest =>
    have hall := h
    obtain ⟨t', rest', rfl, hk, hc, -, hunit, hrest⟩ := h.exists_cons
    have hoperator : factorOperator? t' = factorOperator? t := by simp only [factorOperator?, hk]
    dsimp only [nextFactor]
    rw [hoperator, hk, hc]
    split
    · exact paired_right _ (hoperand rest rest' hrest)
    · split
      · rename_i ht
        rw [hunit ht.1]
        split
        · exact paired_right _ (paired_power hinner true _ _ hall)
        · exact .ok (.some (.refl ..) hrest)
      · split
        · exact paired_right _ (paired_parenthesised hinner rest rest' hrest)
        · exact .ok .none

theorem paired_product :
    PairedReader places src src' (product src inner) (product src' inner') := by
  intro ts ts' h
  refine (paired_quotient hinner ts ts' h).bind fun p p' hp => ?_
  dsimp only
  rw [hp.2.length]
  exact paired_groupLeft (paired_nextFactor hinner (paired_quotient hinner)) h.columnOf hp.1 hp.2

theorem paired_operation :
    PairedReader places src src' (operation src inner) (operation src' inner') := by
  unfold operation
  induction Level.all with
  | nil => exact paired_product hinner
  | cons l ls ih =>
    exact paired_chain (fun t t' hk hc => by simp only [Level.operator?, hk, hc]) ih

theorem paired_condition :
    PairedReader places src src' (condition src inner) (condition src' inner') := by
  intro ts ts' h
  refine (paired_operation hinner ts ts' h).bind fun p p' hp => ?_
  dsimp only
  rw [hp.2.kindOf]
  split
  · refine (hinner.condition _ _ hp.2.tail).bind fun q q' hq => ?_
    rw [hq.2.kindOf]
    split
    · exact (hinner.condition _ _ hq.2.tail).bind fun _ _ hr =>
        .ok ⟨hp.1.conditional hq.1 hr.1 (hr.2.upTo h.columnOf), hr.2⟩
    · exact hq.2.error (.missingColon 0)
  · exact .ok hp

theorem paired_assignment :
    PairedReader places src src' (assignment src inner) (assignment src' inner') := by
  intro ts ts' h
  refine (paired_condition hinner ts ts' h).bind fun p p' hp => ?_
  dsimp only
  rw [hp.2.kindOf]
  split
  · exact (hinner.assignment _ _ hp.2.tail).bind fun _ _ hq =>
      .ok ⟨hp.1.binary _ hq.1 (hq.2.upTo h.columnOf), hq.2⟩
  · exact .ok hp

end

/-! ### Rows of tokens -/

theorem paired_readers (places : Prop) (src src' : Source) (d : Nat) :
    PairedReaders places src src' (readers src d) (readers src' d) := by
  induction d with
  | zero =>
    have hdeep : PairedReader places src src' (fun _ => .error .tooDeep)
        fun _ => .error .tooDeep :=
      fun _ _ _ => .throw .tooDeep
    exact ⟨hdeep, hdeep, hdeep, hdeep, hdeep⟩
  | succ d ih =>
    exact ⟨paired_assignment ih, paired_condition ih, paired_signed ih, paired_exponent ih,
      paired_power ih true⟩

/-- **Tokens that go along are read alike:** as alike expressions, or with the same error, in
another column if places do not count. -/
theorem paired_ofTokens (h : Paired places src src' ts ts') :
    BothEnd places (Resembles places) (ofTokens src d ts) (ofTokens src' d ts') := by
  unfold ofTokens
  rw [h.kindOf]
  split
  · exact .throw .nothing
  · refine ((paired_readers places src src' d).assignment ts ts' h).bind fun p p' hp => ?_
    dsimp only
    rw [hp.2.kindOf]
    split
    · exact .ok hp.1
    · exact hp.2.error (.unrecognized 0)

end Expr
end QuantityCalculus
