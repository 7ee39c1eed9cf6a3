/-
# Reading undoes printing

A tree that is printed with as few parentheses as possible is read back, up to the contents of
composite nodes. The levels of printing are stages of reading: what is printed at a level is read
at its stage, if what follows goes on with no tighter stage, and what is read at a stage is read
at every looser one.

**Main statement.** `read_print`: from some depth of nesting on, the tree is read from its text.
-/

import QuantityCalculus.Proofs.Expr.Print
import QuantityCalculus.Proofs.Expr.Readers

namespace QuantityCalculus
namespace Expr

open Token

/-! ### What follows, by the stage that it goes on with -/

/-- How tight the stage is that a token goes on with; 0 for what closes. -/
def binding : TokenKind → Nat
  | .endOfLine | .rightParen | .separator | .colon => 0
  | .assign => 1
  | .question => 2
  | .logicalOr => 3
  | .logicalAnd => 4
  | .bitwiseOr => 6
  | .bitwiseAnd => 7
  | .equal | .notEqual => 8
  | .less | .lessEqual | .greater | .greaterEqual => 9
  | .shiftLeft | .shiftRight => 10
  | .plus | .minus => 11
  | .multiply | .divide | .modulo => 12
  | .intDivide => 13
  | .power => 15
  | .factorial => 16
  | _ => 17

/-- How tight the stage is that the first of the tokens goes on with. -/
def bindingOf (ts : List Token) : Nat :=
  if ts.head?.map Token.lexeme = some (.word, Name.reserved) then 5 else binding (kindOf ts)

/-- The row of a level of printing. -/
def Row.ofLevel (p : Nat) : Row :=
  if p = 12 then quotient else ofLevels (Level.all.drop (p - 2))

/-- The phrase of a level of printing: a row up to one of its operands, and an operand up to one
of its factorial signs. -/
def Phrase.stage (u : Bool) : Nat → Phrase
  | 0 => assignment
  | 1 => condition
  | 13 => signed u
  | 14 => power u
  | 15 => factorials u
  | 16 => operand u
  | p => rowPart (Row.ofLevel p)

/-- What may follow at a stage: a row and an operand may be gone on with. -/
def allowed (p : Nat) : Nat :=
  if p ≤ 1 then p else if p ≤ 12 then p + 1 else if p ≤ 14 then 14 else 16

theorem allowed_mono {p q : Nat} (h : p ≤ q) : allowed p ≤ allowed q := by
  unfold allowed
  repeat' split
  all_goals omega

theorem allowed_row {p : Nat} (hp : 2 ≤ p) (hp' : p ≤ 12) : allowed p = p + 1 := by
  rw [allowed, if_neg (by omega), if_pos hp']

variable {src : Source} {d p q : Nat} {u : Bool} {ts rest : List Token} {t : Token} {e a : Expr}

theorem bindingOf_of_kind (h : kindOf ts ≠ .word) : bindingOf ts = binding (kindOf ts) := by
  refine if_neg fun hw => h ?_
  cases ts with
  | nil => cases hw
  | cons t ts => simpa [lexeme] using (Prod.mk.inj (Option.some.inj hw)).1

/-- What goes on with tighter stages only is of no looser kind. -/
theorem kindOf_ne {k : TokenKind} (hk : k ≠ .word) (h : bindingOf ts < binding k) :
    kindOf ts ≠ k := by
  rintro rfl
  rw [bindingOf_of_kind hk] at h
  omega

/-- A word that follows is the reserved one. -/
theorem content_of_word (ht : t.kind = .word) (h : bindingOf (t :: ts) ≤ 16) :
    t.content = Name.reserved := by
  unfold bindingOf at h
  split at h
  · rename_i hw
    exact (Prod.mk.inj (Option.some.inj hw)).2
  · simp [ht, binding] at h

/-- The place of a level among all of them. -/
def Level.position : Level → Nat
  | logicalOr => 0
  | logicalAnd => 1
  | conversion => 2
  | bitwiseOr => 3
  | bitwiseAnd => 4
  | equality => 5
  | comparison => 6
  | shift => 7
  | sum => 8

theorem Level.bindingOf {l : Level} {op : BinaryOp} (h : l.operator? t = some op) :
    bindingOf (t :: ts) = l.position + 3 := by
  cases hk : t.kind
  case word =>
    have hr : t.content = Name.reserved ∧ l = .conversion := by
      cases l <;> simp_all [operator?]
    rw [Expr.bindingOf, if_pos (by simp [lexeme, hk, hr]), hr.2]
    rfl
  all_goals
    rw [bindingOf_of_kind (by simp [hk]), kindOf_cons, hk]
    cases l <;> simp_all [operator?, binding, position]

theorem Row.ofLevel_position (l : Level) :
    Row.ofLevel (l.position + 2) = .level l (Level.all.drop (l.position + 1)) := by
  cases l <;> rfl

/-- The levels of rows: those of operators, products, and integer quotients. -/
theorem exists_position (hp : 2 ≤ p) (hp' : p ≤ 12) :
    (∃ l : Level, p = l.position + 2) ∨ p = 11 ∨ p = 12 := by
  by_cases h : p ≤ 10
  · have hlt : p - 2 < Level.all.length := by
      simp only [Level.all, List.length_cons, List.length_nil]
      omega
    refine .inl ⟨Level.all[p - 2], ?_⟩
    have key : ∀ k, ∀ h : k < Level.all.length, Level.all[k].position = k := by decide
    rw [key]
    omega
  · omega

/-- A row stops in front of what goes on with looser stages only. -/
theorem Row.stops_of_bindingOf (hp : 2 ≤ p) (hp' : p ≤ 12) (h : Expr.bindingOf ts ≤ p) :
    (Row.ofLevel p).Stops src ts := by
  cases ts with
  | nil => exact Row.stops_nil _
  | cons t ts =>
    refine stops_cons.2 ?_
    rcases exists_position hp hp' with ⟨l, rfl⟩ | rfl | rfl
    · rw [ofLevel_position, goesOn, Option.isSome_eq_false_iff, Option.isNone_iff_eq_none]
      cases ho : l.operator? t with
      | none => rfl
      | some op =>
        have : Expr.bindingOf (t :: ts) = l.position + 3 := Level.bindingOf ho
        omega
    · have ne {k : TokenKind} (hk : k ≠ .word) (hb : 12 ≤ binding k) : t.kind ≠ k := by
        have hlt : Expr.bindingOf (t :: ts) < binding k := by omega
        exact kindOf_ne hk hlt
      have h₁ := ne (k := .multiply) (by decide) (by decide)
      have h₂ := ne (k := .divide) (by decide) (by decide)
      have h₃ := ne (k := .modulo) (by decide) (by decide)
      have h₄ := ne (k := .leftParen) (by decide) (by decide)
      have hf : factorOperator? t = none := by
        cases hk : t.kind <;> simp_all [factorOperator?]
      have hw : t.kind = .word → t.content = Name.reserved := fun ht =>
        content_of_word ht (Nat.le_trans h (by omega))
      show goesOn src .product t = false
      simpa [goesOn, hf, h₄] using hw
    · have hlt : Expr.bindingOf (t :: ts) < binding .intDivide := by
        simp only [binding]
        omega
      have hk : t.kind ≠ .intDivide := kindOf_ne (by decide) hlt
      show goesOn src .quotient t = false
      simpa [goesOn] using hk

/-- No unit word follows at a stage. -/
theorem Row.units_stops_of_bindingOf (hin : src.isUnit Name.reserved = false)
    (h : Expr.bindingOf ts ≤ 16) : Row.units.Stops src ts := by
  cases ts with
  | nil => exact Row.stops_nil _
  | cons t ts =>
    refine stops_cons.2 ?_
    cases hu : src.isUnit t.content with
    | false => simp [goesOn, hu]
    | true =>
      have hw : t.kind ≠ .word := fun ht => by
        rw [content_of_word ht h, hin] at hu
        cases hu
      simp [goesOn, hw]

/-! ### From tight stages to loose ones -/

/-- A phrase is read as a tree, up to contents. -/
def ReadsAs (src : Source) (d : Nat) (g : Phrase) (ts : List Token) (a : Expr)
    (rest : List Token) : Prop :=
  ∃ e, Reads src d g ts e rest ∧ e.erase = a.erase

theorem ReadsAs.imp {d' : Nat} {g g' : Phrase} {ts' rest' : List Token}
    (h : ReadsAs src d g ts a rest)
    (hr : ∀ {e}, Reads src d g ts e rest → Reads src d' g' ts' e rest') :
    ReadsAs src d' g' ts' a rest' := by
  obtain ⟨e, h, he⟩ := h
  exact ⟨e, hr h, he⟩

theorem stage_row (hp : 2 ≤ p) (hp' : p ≤ 12) :
    Phrase.stage u p = .rowPart (Row.ofLevel p) := by
  rcases exists_position hp hp' with ⟨l, rfl⟩ | rfl | rfl
  · cases l <;> rfl
  · rfl
  · rfl

/-- The operand of a row is the next stage, read to its end. -/
theorem Reads.operand_of_stage (hp : 2 ≤ p) (hp' : p ≤ 12) (hb : bindingOf rest ≤ p + 1)
    (h : Reads src d (.stage true (p + 1)) ts e rest) :
    Reads src d (Row.ofLevel p).operand ts e rest := by
  by_cases h12 : p = 12
  · subst h12
    exact h
  · rw [stage_row (by omega) (by omega)] at h
    have h := Reads.whole h (Row.stops_of_bindingOf (by omega) (by omega) hb)
    rcases exists_position hp hp' with ⟨l, rfl⟩ | rfl | rfl
    · rw [Row.ofLevel_position]
      show Reads src d (.levels _) ts e rest
      rw [Phrase.levels_eq]
      cases l <;> exact h
    · exact h
    · exact absurd rfl h12

/-- **What is read at a stage is read at the next looser one,** if what follows allows it. -/
theorem Reads.stage_succ (hp : p ≤ 15) (hu : p ≤ 12 → u = true) (hb : bindingOf rest ≤ allowed p)
    (h : Reads src d (.stage u (p + 1)) ts e rest) : Reads src d (.stage u p) ts e rest := by
  by_cases hrow : 2 ≤ p ∧ p ≤ 12
  · obtain rfl := hu hrow.2
    rw [stage_row hrow.1 hrow.2]
    rw [allowed_row hrow.1 hrow.2] at hb
    exact .first (h.operand_of_stage hrow.1 hrow.2 hb)
  · obtain rfl | rfl | rfl | rfl | rfl : p = 0 ∨ p = 1 ∨ p = 13 ∨ p = 14 ∨ p = 15 := by omega
    · have : bindingOf rest < binding .assign := by simpa [allowed, binding] using hb
      exact .plainCondition h (kindOf_ne (by decide) (by omega))
    · obtain rfl := hu (by omega)
      have hb : bindingOf rest ≤ 1 := by simpa [allowed] using hb
      have hlt : bindingOf rest < binding .question := by
        simp only [binding]
        omega
      have h := Reads.whole h (Row.stops_of_bindingOf (p := 2) (by omega) (by omega) (by omega))
      exact .plainOperation h (kindOf_ne (by decide) hlt)
    · exact .unsigned (h.no_sign rfl) h
    · have hb : bindingOf rest ≤ 14 := by simpa [allowed] using hb
      have hf : bindingOf rest < binding .factorial := by
        simp only [binding]
        omega
      have hp : bindingOf rest < binding .power := by
        simp only [binding]
        omega
      exact .noExponent h (kindOf_ne (by decide) hf) (kindOf_ne (by decide) hp)
    · exact .noFactorial h

/-- **What is read at a stage is read at every looser one.** -/
theorem Reads.stage_of_le (hpq : p ≤ q) (hq : q ≤ 16) (hu : p ≤ 12 → u = true)
    (hb : bindingOf rest ≤ allowed p) (h : Reads src d (.stage u q) ts e rest) :
    Reads src d (.stage u p) ts e rest := by
  induction hpq with
  | refl => exact h
  | @step q hpq ih =>
    have hpq : p ≤ q := hpq
    have hle : allowed p ≤ allowed q := allowed_mono hpq
    exact ih (by omega) (h.stage_succ (by omega) (fun h => hu (by omega)) (by omega))

/-! ### Trees in parentheses and without -/

/-- How deep a tree is nested where a level is required. -/
def depthAt (required : Nat) (a : Expr) (depth : Nat) : Nat :=
  if a.level < required then depth + 1 else depth

/-- The right operand of an assignment and of a power is nested. -/
def BinaryOp.deepens : BinaryOp → Nat
  | .assign | .power => 1
  | _ => 0

mutual

/-- How deep the printed text of a tree is nested. -/
def nesting : Expr → Nat
  | scalar _ | name _ | unit _ => 0
  | unary .factorial a _ => depthAt 15 a (nesting a)
  | unary op a _ => depthAt op.level a (nesting a) + 1
  | binary op a b _ =>
    max (depthAt op.leftLevel a (nesting a))
      (depthAt op.rightLevel b (nesting b) + BinaryOp.deepens op)
  | conditional c y n _ =>
    max (depthAt 2 c (nesting c)) (max (depthAt 1 y (nesting y)) (depthAt 1 n (nesting n)) + 1)
  | call _ as _ => nestings as

/-- How deep the printed texts of arguments are nested within their call. -/
def nestings : List Expr → Nat
  | [] => 0
  | a :: as => max (nesting a + 1) (nestings as)

end

/-- Tokens with the kinds and contents of some pieces. -/
def Spelled (ts : List Token) (ps : List Piece) : Prop := ts.map lexeme = ps.map Piece.lexeme

theorem Spelled.append {ps qs : List Piece} (h : Spelled ts (ps ++ qs)) :
    ∃ us vs, ts = us ++ vs ∧ Spelled us ps ∧ Spelled vs qs := by
  unfold Spelled at h
  rw [List.map_append] at h
  exact List.map_eq_append_iff.1 h

theorem Spelled.cons {q : Piece} {qs : List Piece} (h : Spelled ts (q :: qs)) :
    ∃ t us, ts = t :: us ∧ t.kind = q.kind ∧ t.content = q.content ∧ Spelled us qs := by
  obtain ⟨t, us, rfl, ht, hus⟩ := List.map_eq_cons_iff.1 h
  exact ⟨t, us, rfl, congrArg Prod.fst ht, congrArg Prod.snd ht, hus⟩

theorem Spelled.nil (h : Spelled ts []) : ts = [] := List.map_eq_nil_iff.1 h

/-- What closes goes on with nothing. -/
theorem bindingOf_closing {k : TokenKind} (ht : t.kind = k) (hk : k ≠ .word)
    (hb : binding k = 0) : bindingOf (t :: ts) = 0 := by
  rw [bindingOf_of_kind (by rwa [kindOf_cons, ht]), kindOf_cons, ht, hb]

/-- The pieces of a tree are read at its level, as that tree. -/
def BodyReads (src : Source) (a : Expr) : Prop :=
  ∀ {u d ts rest}, (a.level ≤ 12 → u = true) → a.nesting ≤ d →
    Spelled ts a.body → bindingOf rest ≤ allowed a.level →
    ReadsAs src d (.stage u a.level) (ts ++ rest) a rest

theorem level_le (a : Expr) : a.level ≤ 16 := by
  have hunary : ∀ op : UnaryOp, op.level ≤ 16 := fun op => by cases op <;> decide
  have hbinary : ∀ op : BinaryOp, op.level ≤ 16 := fun op => by cases op <;> decide
  cases a with
  | unary op _ _ => exact hunary op
  | binary op _ _ _ => exact hbinary op
  | scalar _ | name _ | unit _ | conditional _ _ _ _ | call _ _ _ => simp [level]

/-- **A tree is read where a level is required,** in parentheses if it needs them. -/
theorem BodyReads.enclosed (h : BodyReads src a) (hp : p ≤ 16) (hu : p ≤ 12 → u = true)
    (hd : depthAt p a a.nesting ≤ d)
    (hts : Spelled ts (a.enclose p a.body)) (hb : bindingOf rest ≤ allowed p) :
    ReadsAs src d (.stage u p) (ts ++ rest) a rest := by
  unfold depthAt at hd
  unfold enclose at hts
  split at hts
  · rename_i hlt
    rw [if_pos hlt] at hd
    obtain ⟨k, rfl⟩ : ∃ k, d = k + 1 := ⟨d - 1, by omega⟩
    obtain ⟨t, ts, rfl, ht, -, hts⟩ := hts.cons
    obtain ⟨ts, qs, rfl, hbody, hqs⟩ := hts.append
    obtain ⟨q, qs, rfl, hq, -, hqs⟩ := hqs.cons
    obtain rfl := hqs.nil
    have hclose : bindingOf (q :: rest) = 0 := bindingOf_closing hq (by decide) rfl
    have hinner : ReadsAs src k (.stage true a.level) (ts ++ q :: rest) a (q :: rest) :=
      h (fun _ => rfl) (by omega) hbody (by omega)
    have hread : ReadsAs src (k + 1) (.stage u 16) (t :: (ts ++ q :: rest)) a rest :=
      hinner.imp fun h =>
        .paren ht (h.stage_of_le (Nat.zero_le _) a.level_le (fun _ => rfl) (by omega)) hq
    have hread := hread.imp fun h => h.stage_of_le hp (Nat.le_refl _) hu hb
    simpa using hread
  · rename_i hle
    rw [if_neg hle] at hd
    have hle : p ≤ a.level := by omega
    have hread := h (fun h => hu (by omega)) hd hts (Nat.le_trans hb (allowed_mono hle))
    exact hread.imp fun h => h.stage_of_le hle a.level_le hu hb

/-! ### Nodes -/

/-- An operator goes on with its level. -/
theorem BinaryOp.bindingOf {op : BinaryOp} (hk : t.kind = op.piece.kind)
    (hc : t.content = op.piece.content) : Expr.bindingOf (t :: ts) = op.level + 1 := by
  cases op
  case inUnit =>
    rw [Expr.bindingOf, if_pos (by rw [List.head?_cons, Option.map_some, lexeme, hk, hc]; rfl)]
    rfl
  all_goals
    rw [bindingOf_of_kind (by rw [kindOf_cons, hk]; decide), kindOf_cons, hk]
    rfl

/-- An operator of a row and its right operand. -/
theorem Reads.next_of_stage {op : BinaryOp} (hp : 2 ≤ op.level) (hp' : op.level ≤ 12)
    (hk : t.kind = op.piece.kind) (hc : t.content = op.piece.content)
    (hb : Expr.bindingOf rest ≤ op.level + 1)
    (h : Reads src d (.stage true (op.level + 1)) ts e rest) :
    Reads src d (.next (Row.ofLevel op.level) op) (t :: ts) e rest := by
  have h := h.operand_of_stage hp hp' hb
  cases op
  case assign => cases hp
  case power => exact absurd hp' (by decide)
  case intDivide => exact .nextQuotient hk h
  case multiply | divide | modulo => exact .nextFactor (by rw [factorOperator?, hk]; rfl) h
  all_goals
    exact .nextLevel
      (by simp [Level.operator?, hk, hc, BinaryOp.piece, Piece.between, Name.reserved]) h

variable {b c : Expr} {op : BinaryOp} {s : String}

/-- A node of a row. -/
theorem BodyReads.row (hp : 2 ≤ op.level) (hp' : op.level ≤ 12) (ha : BodyReads src a)
    (hb : BodyReads src b) : BodyReads src (binary op a b s) := by
  intro u d ts rest hu hd hts hrest
  obtain rfl : u = true := hu hp'
  have hleft : op.leftLevel = op.level := by cases op <;> first | rfl | contradiction
  have hright : op.rightLevel = op.level + 1 := by cases op <;> first | rfl | contradiction
  have hallowed : allowed op.level = op.level + 1 := allowed_row hp hp'
  have hmono : allowed op.level ≤ allowed (op.level + 1) := allowed_mono (Nat.le_succ _)
  rw [level, hallowed] at hrest
  rw [nesting, hleft, hright] at hd
  rw [body, hleft, hright] at hts
  obtain ⟨ls, us, rfl, hls, hus⟩ := hts.append
  obtain ⟨t, rs, rfl, hk, hc, hrs⟩ := hus.cons
  have hbind : bindingOf (t :: (rs ++ rest)) = op.level + 1 := BinaryOp.bindingOf hk hc
  obtain ⟨l, hl, hle⟩ : ReadsAs src d (.stage true op.level) (ls ++ t :: (rs ++ rest)) a
      (t :: (rs ++ rest)) :=
    ha.enclosed (by omega) (fun _ => rfl) (by omega) hls (by omega)
  obtain ⟨r, hr, hre⟩ : ReadsAs src d (.stage true (op.level + 1)) (rs ++ rest) b rest :=
    hb.enclosed (by omega) (fun _ => rfl) (by omega) hrs (by omega)
  rw [stage_row hp hp'] at hl
  have hmore := Reads.more hl (hr.next_of_stage hp hp' hk hc hrest)
  rw [level, stage_row hp hp', List.append_assoc, List.cons_append]
  exact ⟨_, hmore, by rw [erase, erase, hle, hre]⟩

theorem BodyReads.assign (ha : BodyReads src a) (hb : BodyReads src b) :
    BodyReads src (binary .assign a b s) := by
  intro u d ts rest hu hd hts hrest
  rw [nesting] at hd
  simp only [BinaryOp.leftLevel, BinaryOp.rightLevel, BinaryOp.deepens] at hd
  obtain ⟨k, rfl⟩ : ∃ k, d = k + 1 := ⟨d - 1, by omega⟩
  obtain ⟨ls, us, rfl, hls, hus⟩ := hts.append
  obtain ⟨t, rs, rfl, hk, hc, hrs⟩ := hus.cons
  have hbind : bindingOf (t :: (rs ++ rest)) = BinaryOp.assign.level + 1 :=
    BinaryOp.bindingOf hk hc
  obtain ⟨l, hl, hle⟩ : ReadsAs src (k + 1) (.stage true 1) (ls ++ t :: (rs ++ rest)) a
      (t :: (rs ++ rest)) :=
    ha.enclosed (by omega) (fun _ => rfl) (by omega) hls (by rw [hbind]; decide)
  obtain ⟨r, hr, hre⟩ : ReadsAs src k (.stage true 0) (rs ++ rest) b rest :=
    hb.enclosed (by omega) (fun _ => rfl) (by omega) hrs hrest
  rw [List.append_assoc, List.cons_append]
  exact ⟨_, .assign hl hk hr, by rw [erase, erase, hle, hre]⟩

theorem BodyReads.power (ha : BodyReads src a) (hb : BodyReads src b) :
    BodyReads src (binary .power a b s) := by
  intro u d ts rest hu hd hts hrest
  rw [nesting] at hd
  simp only [BinaryOp.leftLevel, BinaryOp.rightLevel, BinaryOp.deepens] at hd
  obtain ⟨k, rfl⟩ : ∃ k, d = k + 1 := ⟨d - 1, by omega⟩
  obtain ⟨ls, us, rfl, hls, hus⟩ := hts.append
  obtain ⟨t, rs, rfl, hk, hc, hrs⟩ := hus.cons
  have hbind : bindingOf (t :: (rs ++ rest)) = BinaryOp.power.level + 1 :=
    BinaryOp.bindingOf hk hc
  obtain ⟨l, hl, hle⟩ : ReadsAs src (k + 1) (.stage u 15) (ls ++ t :: (rs ++ rest)) a
      (t :: (rs ++ rest)) :=
    ha.enclosed (by omega) (by omega) (by omega) hls (by rw [hbind]; decide)
  -- numbers in exponents take no unit words
  obtain ⟨r, hr, hre⟩ : ReadsAs src k (.stage false 13) (rs ++ rest) b rest :=
    hb.enclosed (by omega) (by omega) (by omega) hrs hrest
  rw [List.append_assoc, List.cons_append]
  exact ⟨_, .exponent hl hk hr, by rw [erase, erase, hle, hre]⟩

theorem BodyReads.conditional (ha : BodyReads src a) (hb : BodyReads src b)
    (hc : BodyReads src c) : BodyReads src (conditional a b c s) := by
  intro u d ts rest hu hd hts hrest
  rw [nesting] at hd
  obtain ⟨k, rfl⟩ : ∃ k, d = k + 1 := ⟨d - 1, by omega⟩
  obtain ⟨cs, us, rfl, hcs, hus⟩ := hts.append
  obtain ⟨t₁, us, rfl, h₁, -, hus⟩ := hus.cons
  obtain ⟨ys, vs, rfl, hys, hvs⟩ := hus.append
  obtain ⟨t₂, ns, rfl, h₂, -, hns⟩ := hvs.cons
  have hquestion : bindingOf (t₁ :: (ys ++ t₂ :: (ns ++ rest))) = 2 := by
    rw [bindingOf_of_kind (by rw [kindOf_cons, h₁]; decide), kindOf_cons, h₁]
    rfl
  have hcolon : bindingOf (t₂ :: (ns ++ rest)) = 0 := bindingOf_closing h₂ (by decide) rfl
  have hcondition : ReadsAs src (k + 1) (.stage true 2)
      (cs ++ t₁ :: (ys ++ t₂ :: (ns ++ rest))) a (t₁ :: (ys ++ t₂ :: (ns ++ rest))) :=
    ha.enclosed (by omega) (fun _ => rfl) (by omega) hcs (by rw [hquestion]; decide)
  obtain ⟨x, hx, hxe⟩ := hcondition.imp fun h =>
    Reads.whole h (Row.stops_of_bindingOf (p := 2) (by omega) (by omega) (by omega))
  obtain ⟨y, hy, hye⟩ : ReadsAs src k (.stage true 1) (ys ++ t₂ :: (ns ++ rest)) b
      (t₂ :: (ns ++ rest)) :=
    hb.enclosed (by omega) (fun _ => rfl) (by omega) hys (by omega)
  obtain ⟨z, hz, hze⟩ : ReadsAs src k (.stage true 1) (ns ++ rest) c rest :=
    hc.enclosed (by omega) (fun _ => rfl) (by omega) hns hrest
  simp only [List.append_assoc, List.cons_append]
  exact ⟨_, .conditional hx h₁ hy h₂ hz, by simp only [erase, hxe, hye, hze]⟩

/-- A node with a sign in front. -/
theorem BodyReads.sign {op : UnaryOp} (hop : op ≠ .factorial) (ha : BodyReads src a) :
    BodyReads src (unary op a s) := by
  intro u d ts rest hu hd hts hrest
  have hlevel : op.level = 13 := by cases op <;> first | rfl | contradiction
  have hleading : leadingOperator? op.piece.kind = some op := by
    cases op <;> first | rfl | contradiction
  have hdepth : depthAt 13 a a.nesting + 1 ≤ d := by
    cases op <;> first | exact hd | contradiction
  have hbody : Spelled ts (op.piece :: a.enclose 13 a.body) := by
    cases op <;> first | exact hts | contradiction
  obtain ⟨k, rfl⟩ : ∃ k, d = k + 1 := ⟨d - 1, by omega⟩
  obtain ⟨t, ts, rfl, hk, -, hts⟩ := hbody.cons
  rw [level, hlevel] at hrest
  obtain ⟨e, he, hee⟩ : ReadsAs src k (.stage u 13) (ts ++ rest) a rest :=
    ha.enclosed (by omega) (by omega) (by omega) hts hrest
  rw [level, hlevel]
  exact ⟨_, .sign (by rw [hk, hleading]) he, by rw [erase, erase, hee]⟩

theorem BodyReads.factorial (ha : BodyReads src a) : BodyReads src (unary .factorial a s) := by
  intro u d ts rest hu hd hts hrest
  obtain ⟨ls, us, rfl, hls, hus⟩ := hts.append
  obtain ⟨t, us, rfl, hk, -, hus⟩ := hus.cons
  obtain rfl := hus.nil
  have hbind : bindingOf (t :: rest) = 16 := by
    rw [bindingOf_of_kind (by rw [kindOf_cons, hk]; decide), kindOf_cons, hk]
    rfl
  obtain ⟨e, he, hee⟩ : ReadsAs src d (.stage u 15) (ls ++ t :: rest) a (t :: rest) :=
    ha.enclosed (by omega) (by omega) hd hls (by rw [hbind]; decide)
  rw [List.append_assoc, List.cons_append, List.nil_append]
  exact ⟨_, .factorial he hk, by rw [erase, erase, hee]⟩

theorem BodyReads.scalar (hin : src.isUnit Name.reserved = false) : BodyReads src (scalar s) := by
  intro u d ts rest hu hd hts hrest
  obtain ⟨t, us, rfl, hk, rfl, hus⟩ := Spelled.cons hts
  obtain rfl := hus.nil
  have hnumber : Reads src d .number (t :: rest) (.scalar t.content) rest := .scalar hk
  refine ⟨_, ?_, rfl⟩
  cases u with
  | false => exact .bareNumber hnumber
  | true =>
    exact .numberWithUnits (.whole (.first hnumber) (Row.units_stops_of_bindingOf hin hrest))

theorem BodyReads.name (hu : src.isUnit s = false) : BodyReads src (name s) := by
  intro u d ts rest _ hd hts hrest
  obtain ⟨t, us, rfl, hk, rfl, hus⟩ := Spelled.cons hts
  obtain rfl := hus.nil
  have hlt : bindingOf rest < binding .leftParen := Nat.lt_succ_of_le hrest
  exact ⟨_, .name hk (kindOf_ne (by decide) hlt) hu, rfl⟩

theorem BodyReads.unit (hu : src.isUnit s = true) : BodyReads src (unit s) := by
  intro u d ts rest _ hd hts hrest
  obtain ⟨t, us, rfl, hk, rfl, hus⟩ := Spelled.cons hts
  obtain rfl := hus.nil
  have hlt : bindingOf rest < binding .leftParen := Nat.lt_succ_of_le hrest
  exact ⟨_, .unit hk (kindOf_ne (by decide) hlt) hu, rfl⟩

theorem nesting_lt_of_mem {as : List Expr} (h : a ∈ as) : a.nesting < nestings as := by
  induction as with
  | nil => cases h
  | cons b as ih =>
    rw [nestings]
    rcases List.mem_cons.1 h with rfl | h
    · omega
    · have := ih h
      omega

/-- Arguments are read one after the other: if the first of them goes on with a call, all of them
do. -/
theorem arguments_read {as : List Expr} (hne : as ≠ []) (has : ∀ a ∈ as, BodyReads src a)
    (hd : ∀ a ∈ as, a.nesting ≤ d) {all : List Token} {f : String} (read : List Expr)
    (hcall : ∀ {e mid}, Reads src d .assignment (ts ++ rest) e mid →
      Reads src (d + 1) .openCall all (.call f (read ++ [e]) "") mid)
    (hts : Spelled ts (bodies as)) (hrest : bindingOf rest = 0) :
    ∃ es, Reads src (d + 1) .openCall all (.call f (read ++ es) "") rest ∧
      eraseAll es = eraseAll as := by
  induction as generalizing ts read with
  | nil => exact absurd rfl hne
  | cons a as ih =>
    -- an argument is loose, so it has no parentheses
    have harg {ts rest : List Token} (hts : Spelled ts a.body) (hrest : bindingOf rest = 0) :
        ReadsAs src d (.stage true 0) (ts ++ rest) a rest :=
      BodyReads.enclosed (has a (by simp)) (by omega) (fun _ => rfl)
        (by rw [depthAt, if_neg (by omega)]; exact hd a (by simp))
        (by rw [enclose, if_neg (by omega)]; exact hts) (by omega)
    cases as with
    | nil =>
      rw [bodies] at hts
      obtain ⟨e, he, hee⟩ := harg hts hrest
      exact ⟨[e], hcall he, by rw [eraseAll, eraseAll, hee, eraseAll, eraseAll]⟩
    | cons b as =>
      rw [bodies] at hts
      obtain ⟨us, vs, rfl, hus, hvs⟩ := hts.append
      obtain ⟨t, vs, rfl, hk, -, hvs⟩ := hvs.cons
      have hsep : bindingOf (t :: (vs ++ rest)) = 0 := bindingOf_closing hk (by decide) rfl
      obtain ⟨e, he, hee⟩ := harg hus hsep
      rw [List.append_assoc, List.cons_append] at hcall
      have hopen := hcall he
      obtain ⟨es, hes, hese⟩ := ih (by simp) (fun x hx => has x (List.mem_cons_of_mem a hx))
        (fun x hx => hd x (List.mem_cons_of_mem a hx)) (read ++ [e])
        (fun h => .nextArgument hopen hk h) hvs
      rw [List.append_assoc] at hes
      exact ⟨e :: es, hes, by rw [eraseAll, eraseAll, hee, hese]⟩

theorem BodyReads.call {f : String} {as : List Expr} (has : ∀ a ∈ as, BodyReads src a) :
    BodyReads src (call f as s) := by
  intro u d ts rest hu hd hts hrest
  obtain ⟨t, us, rfl, ht, rfl, hus⟩ := Spelled.cons hts
  obtain ⟨p, us, rfl, hp, -, hus⟩ := hus.cons
  obtain ⟨us, qs, rfl, hargs, hqs⟩ := hus.append
  obtain ⟨q, qs, rfl, hq, -, hqs⟩ := hqs.cons
  obtain rfl := hqs.nil
  cases as with
  | nil =>
    obtain rfl := hargs.nil
    exact ⟨_, .emptyCall ht hp hq, rfl⟩
  | cons a as =>
    have hlt : ∀ x ∈ a :: as, x.nesting < d := fun x hx =>
      Nat.lt_of_lt_of_le (nesting_lt_of_mem hx) hd
    obtain ⟨k, rfl⟩ : ∃ k, d = k + 1 := ⟨d - 1, by have := hlt a (by simp); omega⟩
    have hclose : bindingOf (q :: rest) = 0 := bindingOf_closing hq (by decide) rfl
    obtain ⟨es, hes, hese⟩ := arguments_read (by simp) has
      (fun x hx => Nat.le_of_lt_succ (hlt x hx)) [] (fun h => .firstArgument ht hp h) hargs hclose
    simp only [List.cons_append, List.append_assoc, List.nil_append]
    exact ⟨_, .call hes hq, by rw [erase, erase, List.nil_append, hese]⟩

/-! ### Trees -/

mutual

/-- **The pieces of a tree are read as that tree.** -/
theorem body_reads (hin : src.isUnit Name.reserved = false) :
    (t : Expr) → Printable src.isUnit t → BodyReads src t
  | scalar _, _ => BodyReads.scalar hin
  | name _, ht => BodyReads.name ht.2
  | unit _, ht => BodyReads.unit ht.2
  | unary .factorial a _, ht => BodyReads.factorial (body_reads hin a ht)
  | unary .plus a _, ht | unary .minus a _, ht | unary .removeUnits a _, ht =>
    BodyReads.sign (by decide) (body_reads hin a ht)
  | binary .assign a b _, ht =>
    BodyReads.assign (body_reads hin a ht.1) (body_reads hin b ht.2)
  | binary .power a b _, ht =>
    BodyReads.power (body_reads hin a ht.1) (body_reads hin b ht.2)
  | binary .inUnit a b _, ht | binary .logicalOr a b _, ht | binary .logicalAnd a b _, ht
  | binary .bitwiseOr a b _, ht | binary .bitwiseAnd a b _, ht | binary .equal a b _, ht
  | binary .notEqual a b _, ht | binary .less a b _, ht | binary .lessEqual a b _, ht
  | binary .greater a b _, ht | binary .greaterEqual a b _, ht | binary .shiftLeft a b _, ht
  | binary .shiftRight a b _, ht | binary .add a b _, ht | binary .subtract a b _, ht
  | binary .multiply a b _, ht | binary .divide a b _, ht | binary .modulo a b _, ht
  | binary .intDivide a b _, ht =>
    BodyReads.row (by decide) (by decide) (body_reads hin a ht.1) (body_reads hin b ht.2)
  | conditional c y n _, ht =>
    BodyReads.conditional (body_reads hin c ht.1) (body_reads hin y ht.2.1)
      (body_reads hin n ht.2.2)
  | call _ as _, ht => BodyReads.call (bodies_read hin as ht.2)

theorem bodies_read (hin : src.isUnit Name.reserved = false) :
    (ts : List Expr) → AllPrintable src.isUnit ts → ∀ a ∈ ts, BodyReads src a
  | [], _ => fun _ h => by cases h
  | t :: ts, ht => fun a h => by
    rcases List.mem_cons.1 h with h | h
    · rw [h]
      exact body_reads hin t ht.1
    · exact bodies_read hin ts ht.2 a h

end

/-- **Reading undoes printing.** A tree that is printed with as few parentheses as possible is
read back, up to the contents of composite nodes, at every depth beyond its nesting. -/
theorem read_print {isUnit : String → Bool} (hin : isUnit Name.reserved = false) {t : Expr}
    (ht : Printable isUnit t) {depth : Nat} (hd : t.nesting < depth) :
    ∃ e, readWithin depth .standard isUnit t.print = .ok e ∧ e.erase = t.erase := by
  obtain ⟨ts, us, hscan, hts, hus⟩ := List.map_eq_append_iff.1 (scan_print ht)
  obtain ⟨last, us, rfl, hlast, hnil⟩ := List.map_eq_cons_iff.1 hus
  obtain rfl := List.map_eq_nil_iff.1 hnil
  have hend : last.kind = .endOfLine := congrArg Prod.fst hlast
  have hbind : bindingOf [last] = 0 := bindingOf_closing hend (by decide) rfl
  obtain ⟨k, rfl⟩ : ∃ k, depth = k + 1 := ⟨depth - 1, by omega⟩
  have hbody : BodyReads ⟨t.print.toList, isUnit⟩ t := body_reads hin t ht
  obtain ⟨e, he, hee⟩ : ReadsAs ⟨t.print.toList, isUnit⟩ k (.stage true t.level) (ts ++ [last]) t
      [last] :=
    hbody (fun _ => rfl) (Nat.le_of_lt_succ hd) hts (by omega)
  have he := he.stage_of_le (Nat.zero_le _) t.level_le (fun _ => rfl) (by omega)
  refine ⟨e, ?_, hee⟩
  rw [readWithin, hscan]
  exact ofTokens_eq_ok_iff.2 ⟨k, [last], rfl, he, hend⟩

/-- A sum in parentheses with a negative exponent. -/
theorem read_print_power :
    let t : Expr :=
      .binary .power (.binary .add (.scalar "1") (.name "x") "") (.unary .minus (.unit "m") "") ""
    t.print = "(1 + x) ^ -m" ∧
      ∃ e, readWithin 3 .standard (· == "m") t.print = .ok e ∧ e.erase = t.erase := by
  intro t
  have hscalar : IsLexeme .scalar "1" := ⟨⟨.endOfLine, "", 1, false⟩, by decide +kernel⟩
  have hname : IsLexeme .word "x" := ⟨⟨.endOfLine, "", 1, false⟩, by decide +kernel⟩
  have hunit : IsLexeme .word "m" := ⟨⟨.endOfLine, "", 1, false⟩, by decide +kernel⟩
  have ht : Printable (· == "m") t := by
    simp only [t, Printable]
    exact ⟨⟨hscalar, hname, by decide⟩, hunit, by decide⟩
  exact ⟨by decide +kernel, read_print (by decide) ht (by decide)⟩

/-! ### What is not read back -/

/-- Calls of a function with calls of it as arguments. -/
def nestedCalls : Nat → Expr
  | 0 => .name "x"
  | n + 1 => .call "f" [nestedCalls n] ""

theorem printable_nestedCalls (n : Nat) : Printable (fun _ => false) (nestedCalls n) := by
  induction n with
  | zero => exact ⟨⟨⟨.endOfLine, "", 1, false⟩, by decide +kernel⟩, rfl⟩
  | succ n ih => exact ⟨⟨⟨.endOfLine, "", 1, false⟩, by decide +kernel⟩, ih, trivial⟩

theorem print_nestedCalls (n : Nat) : (nestedCalls n).print =
    String.ofList ((List.replicate n ['f', '(']).flatten ++ 'x' :: List.replicate n ')') := by
  have hf : Piece.chars (.bare .word "f") = ['f'] := rfl
  have hopen : Piece.chars (.bare .leftParen "(") = ['('] := rfl
  have hclose : Piece.chars (.bare .rightParen ")") = [')'] := rfl
  refine congrArg String.ofList ?_
  induction n with
  | zero => rfl
  | succ n ih =>
    simp [nestedCalls, body, bodies, hf, hopen, hclose, ih, List.replicate_succ,
      ← List.replicate_succ']

/-- **A name that the scanner does not take for a word is not read,** though a unit may have it;
nor is what is nested too deep. -/
theorem print_not_read :
    (Name.check "_x" .unit = .ok () ∧
      read .standard (· == "_x") (print (.unit "_x")) = .error (.unrecognized 0)) ∧
    (Printable (fun _ => false) (nestedCalls 300) ∧
      read .standard (fun _ => false) (nestedCalls 300).print = .error .tooDeep) := by
  refine ⟨⟨by decide +kernel, by decide +kernel⟩, printable_nestedCalls 300, ?_⟩
  rw [print_nestedCalls, read, readWithin, Token.scan, String.toList_ofList]
  decide +kernel

end Expr
end QuantityCalculus
