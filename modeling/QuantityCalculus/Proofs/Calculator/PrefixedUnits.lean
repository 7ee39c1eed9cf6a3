/-
# Prefixed units

The factor of a prefixed unit is a product of decimal numbers that is handed over as text. The text
is read as an expression, without units and with the usual marks: in each of its forms it is one
number, with a minus sign in front of it if the factor was negative, and this number is the product
rounded to 28 digits. The value of the number is then read with the decimal mark of the calculator.
A mark that is a digit, a sign or the letter `E` spoils some of the texts; with any other mark, the
units are registered with the doubles nearest to the products, up to the first name that is not
valid.

**Main statements.** `scaled_of_roundsTo` and `isNumber_text`: the texts; `outcome_given_text`:
their values; `registerPrefixed_registers`: which marks let every prefixed unit be registered.
-/

import Mathlib
import QuantityCalculus.Proofs.Calculator.Numbers
import QuantityCalculus.Proofs.Number.Written
import QuantityCalculus.Proofs.Snapshot.Overlay

namespace QuantityCalculus
namespace UnitSet

open Number Calculator
open Number.Scientific hiding text read? mul

variable {x y r : ℚ} {mark : Char}

/-! ### Texts of factors -/

/-- A prefix and the number that its multiple stands for. -/
def IsPrefix (p : String) (y : ℚ) : Prop :=
  ∃ multiple, (p, multiple) ∈ prefixes ∧ StandsFor multiple y

/-- A text that is read, without any units, as one number or as the negative of one, and as nothing
besides. -/
def IsNumber (text : String) : Prop :=
  Expr.read .standard (fun _ => false) text = .ok (.scalar text) ∨
    ∃ number, text = "-" ++ number ∧ Expr.read .standard (fun _ => false) text =
      .ok (.unary .minus (.scalar number) text)

/-- The text of a decimal number without its sign. -/
def magnitudeText (c : ℕ) (e : ℤ) : String := String.ofList (magnitude c e)

theorem text_eq (negative : Bool) (c : ℕ) (e : ℤ) : (Scientific.finite negative c e).text =
    if negative then "-" ++ magnitudeText c e else magnitudeText c e := by
  rw [← String.toList_inj, Scientific.text, signed, magnitudeText]
  cases negative <;> simp

theorem numeral_magnitudeText (c : ℕ) (e : ℤ) : Numeral '.' (magnitudeText c e).toList := by
  rw [magnitudeText, String.toList_ofList]
  exact (written_magnitude c e).numeral

/-- How the text of a decimal number is read. -/
theorem read_text (negative : Bool) (c : ℕ) (e : ℤ) :
    Expr.read .standard (fun _ => false) (Scientific.finite negative c e).text =
      .ok (if negative then .unary .minus (.scalar (magnitudeText c e)) ("-" ++ magnitudeText c e)
        else .scalar (magnitudeText c e)) := by
  have hnumeral := numeral_magnitudeText c e
  rw [text_eq]
  cases negative with
  | false => exact Expr.read_of_numeral hnumeral _
  | true => exact Expr.read_minus_of_numeral hnumeral _

/-- **The text of a decimal number is a number** and nothing besides. -/
theorem isNumber_text (negative : Bool) (c : ℕ) (e : ℤ) :
    IsNumber (Scientific.finite negative c e).text := by
  have hread := read_text negative c e
  rw [text_eq] at hread ⊢
  cases negative with
  | false => exact .inl hread
  | true => exact .inr ⟨_, rfl, hread⟩

/-- **The text of a product** is that of the product rounded to 28 digits, if this is in range. -/
theorem scaled_of_roundsTo {multiple factor : String} (hy : StandsFor multiple y)
    (hx : StandsFor factor x) (hr : RoundsTo precision (y * x) r) (hrange : InRange r) :
    ∃ negative c e, scaled multiple factor = .ok (Scientific.finite negative c e).text ∧
      (Scientific.finite negative c e).value? = some r := by
  obtain ⟨a, hmultiple, ha⟩ := hy
  obtain ⟨b, hfactor, hb⟩ := hx
  obtain ⟨negative, c, e, hmul, hvalue⟩ := mul_of_roundsTo ha hb hr hrange
  exact ⟨negative, c, e, by simp only [scaled, hmultiple, hfactor, hmul], hvalue⟩

/-- The multiples of the prefixes are powers of ten. -/
theorem exists_multiple {p multiple : String} (h : (p, multiple) ∈ prefixes) :
    ∃ k ∈ [-18, -15, -12, -9, -6, -3, -2, 0, 3, 6, 9, 12, (15 : ℤ)],
      Scientific.read? multiple = some (.finite false 1 k) := by
  have key : ∀ entry ∈ prefixes, ∃ k ∈ [-18, -15, -12, -9, -6, -3, -2, 0, 3, 6, 9, 12, (15 : ℤ)],
      Scientific.read? entry.2 = some (.finite false 1 k) := by
    decide +kernel
  exact key (p, multiple) h

/-- **Every factor that is in range is a number,** and this is the product of prefix and factor
rounded to 28 digits. -/
theorem exists_scaled {multiple factor : String} (hy : StandsFor multiple y)
    (hx : StandsFor factor x) : ∃ r, RoundsTo precision (y * x) r ∧ (InRange r →
      ∃ text, scaled multiple factor = .ok text ∧ IsNumber text ∧ StandsFor text r) := by
  obtain ⟨a, -, ha⟩ := id hy
  obtain ⟨b, -, hb⟩ := id hx
  obtain ⟨r, hr⟩ := exists_roundsTo_mul ha hb precision
  refine ⟨r, hr, fun hrange => ?_⟩
  obtain ⟨negative, c, e, hscaled, hvalue⟩ := scaled_of_roundsTo hy hx hr hrange
  exact ⟨_, hscaled, isNumber_text negative c e, _, read?_text negative c e, hvalue⟩

/-! ### Values of factors -/

/-- The characters of numbers that are written with an exponent, but for the point. -/
def numberChars : List Char :=
  ['0', '1', '2', '3', '4', '5', '6', '7', '8', '9', 'E', '+', '-']

variable {α : Type} [Scalar α] {c : Calculator α}

/-- A scalar that is the double nearest to a number, or is the negative of the double nearest to the
negative of the number. -/
def IsNearest (r : ℚ) (s : α) : Prop :=
  (0 ≤ r ∧ s = Scalar.ofReal (ofRat r)) ∨ (r ≤ 0 ∧ s = Scalar.neg (Scalar.ofReal (ofRat (-r))))

theorem mem_numberChars {d : Char} (h : d.isDigit = true ∨ d ∈ ['.', 'E', '+', '-']) :
    d = '.' ∨ d ∈ numberChars := by
  rcases h with h | h
  · right
    have key : ∀ n < 10, Char.ofNat (48 + n) ∈ numberChars := by decide
    obtain ⟨hvalue, hchar⟩ := ofNat_of_isDigit h
    exact hchar ▸ key _ hvalue
  · simp only [List.mem_cons, List.not_mem_nil, or_false] at h
    rcases h with rfl | rfl | rfl | rfl
    · exact .inl rfl
    · exact .inr (by decide)
    · exact .inr (by decide)
    · exact .inr (by decide)

/-- A mark that is no character of numbers spoils none of them. -/
theorem map_pointFor_magnitude (hmark : mark ∉ numberChars) (n : ℕ) (e : ℤ) :
    (magnitude n e).map (pointFor mark) = magnitude n e := by
  have hsame : ∀ d ∈ magnitude n e, pointFor mark d = d := by
    intro d hd
    by_cases heq : d = mark
    · subst heq
      obtain rfl := (mem_numberChars ((written_magnitude n e).mem hd)).resolve_right hmark
      rfl
    · exact pointFor_of_ne heq
  rw [List.map_congr_left hsame, List.map_id']

theorem valueOfScalar_magnitudeText {settings : Settings} (hdecimal : settings.HasDecimal mark)
    (hmark : mark ∉ numberChars) (n : ℕ) (e : ℤ) :
    (Expr.valueOfScalar settings (magnitudeText n e) : Except Fault (Quantity α)) =
      .ok (.pure (Scalar.ofReal (ofRat (n * 10 ^ e)))) := by
  rw [Expr.valueOfScalar_eq hdecimal, magnitudeText, String.toList_ofList,
    map_pointFor_magnitude hmark, (written_magnitude n e).read?]

/-- A text that is read as an expression has the value of the expression. -/
theorem outcome_given_of_read {text : String} {e : Expr} {s : α}
    (hread : Expr.read .standard (fun _ => false) text = .ok e)
    (hvalue : outcome (valueOf e) c = (.ok (.pure s), c)) (base : Units) :
    outcome (given text base) c = (.ok ⟨s, base⟩, c) := by
  have htext : outcome (valueOfText text) c = (.ok s, c) := by
    rw [valueOfText, hread]
    exact (outcome_bind_ok rfl).trans ((outcome_bind_ok hvalue).trans rfl)
  exact (outcome_bind_ok htext).trans rfl

/-- A text whose expression has no value has none either. -/
theorem outcome_given_of_fault {text : String} {e : Expr} {fault : Fault}
    (hread : Expr.read .standard (fun _ => false) text = .ok e)
    (hvalue : outcome (valueOf e : Step α (Quantity α)) c = (.error fault, c)) (base : Units) :
    outcome (given text base : Step α (Quantity α)) c = (.error fault, c) := by
  have htext : outcome (valueOfText text : Step α α) c = (.error fault, c) := by
    rw [valueOfText, hread]
    exact (outcome_bind_ok rfl).trans (outcome_bind_error hvalue)
  exact outcome_bind_error htext

/-- **The text of a decimal number has its value:** the nearest double. -/
theorem outcome_given_text (hroom : c.room = some 850) (hdecimal : c.settings.HasDecimal mark)
    (hmark : mark ∉ numberChars) {negative : Bool} {n : ℕ} {e : ℤ}
    (hvalue : (Scientific.finite negative n e).value? = some r) (base : Units) :
    ∃ s : α, IsNearest r s ∧
      outcome (given (Scientific.finite negative n e).text base) c = (.ok ⟨s, base⟩, c) := by
  have hnumber := valueOfScalar_magnitudeText (α := α) hdecimal hmark n e
  have hread := read_text negative n e
  have hnonneg : (0 : ℚ) ≤ n * 10 ^ e := by positivity
  obtain rfl := Option.some.inj hvalue
  cases negative with
  | false =>
    exact ⟨_, .inl ⟨hnonneg, rfl⟩,
      outcome_given_of_read hread (outcome_valueOf_scalar hnumber) base⟩
  | true =>
    have hspend : c.room.spend 2 = .ok (some 848) := by
      rw [hroom]
      rfl
    have hnegative := outcome_given_of_read hread (outcome_valueOf_minus hspend hnumber) base
    refine ⟨_, .inr ⟨?_, ?_⟩, hnegative⟩
    · simpa [withSign] using hnonneg
    · rw [withSign, if_pos rfl, neg_neg]
      rfl

/-! ### Registrations -/

/-- What the names of prefixed units are refused with, if one of them is. -/
def checkNames (name : String) (chosen : List String) : Except Fault Unit :=
  chosen.forM fun p => (Name.check (p ++ name) .unit).mapError fun e => .error (.invalid e)

theorem checkNames_cons (name p : String) (chosen : List String) :
    checkNames name (p :: chosen) =
      (Name.check (p ++ name) .unit).mapError (fun e => Fault.error (.invalid e)) >>= fun _ =>
        checkNames name chosen := rfl

/-- Whether a name with a prefix in front of it can be registered. -/
def hasName (name p : String) : Bool := (Name.check (p ++ name) .unit).isOk

/-- An input unit for a prefix: its name, and the product of prefix and factor rounded to 28 digits,
as a scalar in base units. -/
structure IsPrefixed (name : String) (base : Units) (x : ℚ) (p : String)
    (entry : String × Quantity α) : Prop where
  name : entry.1 = p ++ name
  units : entry.2.units = base
  scalar : ∃ y r, IsPrefix p y ∧ RoundsTo precision (y * x) r ∧ IsNearest r entry.2.scalar

/-- The registration for one prefix. -/
def registerOne (name : String) (base : Units) (factor p : String) : Step α Unit := do
  match prefixes.find? fun entry => entry.1 = p with
  | none => throw .unknownKey
  | some (_, multiple) =>
    let text ← scaled multiple factor
    discard <| registerInputUnit (p ++ name) (given text base)

theorem registerPrefixed_eq (name : String) (base : Units) (chosen : List String)
    (factor : String) : (registerPrefixed name base chosen factor : Step α Unit) =
      chosen.forM (registerOne name base factor) := rfl

/-- A prefix that fails is the last one. -/
theorem outcome_registerPrefixed_cons_error {name p factor : String} {base : Units} {fault : Fault}
    {c' : Calculator α} (h : outcome (registerOne name base factor p) c = (.error fault, c'))
    (chosen : List String) :
    outcome (registerPrefixed name base (p :: chosen) factor) c = (.error fault, c') :=
  outcome_bind_error h

/-- The multiple of a prefix is the one that is found. -/
theorem find?_prefixes {p multiple : String} (h : (p, multiple) ∈ prefixes) :
    (prefixes.find? fun entry => entry.1 = p) = some (p, multiple) := by
  have key : ∀ entry ∈ prefixes, (prefixes.find? fun e => e.1 = entry.1) = some entry := by
    decide +kernel
  exact key (p, multiple) h

/-- The unit that is registered for a prefix. -/
theorem outcome_registerOne_eq {p multiple factor text : String} (hmem : (p, multiple) ∈ prefixes)
    (hscaled : scaled multiple factor = .ok text) (name : String) (base : Units) :
    outcome (registerOne name base factor p) c =
      outcome (discard (registerInputUnit (p ++ name) (given text base)) : Step α Unit) c := by
  unfold registerOne
  rw [find?_prefixes hmem]
  dsimp only
  rw [hscaled]
  exact outcome_bind_ok rfl

omit [Scalar α] in
theorem outcome_checkName_of_error {name : String} {role : NameRole} {invalid : Invalid}
    (h : Name.check name role = .error invalid) :
    outcome (checkName name role : Step α Unit) c = (.error (.error (.invalid invalid)), c) := by
  rw [checkName, h]
  rfl

/-- **One prefix:** its unit is registered if the name is valid. -/
theorem outcome_registerOne (hroom : c.room = some 850) (hdecimal : c.settings.HasDecimal mark)
    (hmark : mark ∉ numberChars) {p factor : String} (hp : IsPrefix p y) (hx : StandsFor factor x)
    (hr : RoundsTo precision (y * x) r) (hrange : InRange r) (name : String) (base : Units) :
    (∃ invalid, Name.check (p ++ name) .unit = .error invalid ∧
      outcome (registerOne name base factor p) c = (.error (.error (.invalid invalid)), c)) ∨
    (Name.check (p ++ name) .unit = .ok () ∧ ∃ entry journal, IsPrefixed name base x p entry ∧
      outcome (registerOne name base factor p) c =
        (.ok (), { c with inputUnits := c.inputUnits.insert entry.1 entry.2, journal })) := by
  obtain ⟨multiple, hmem, hy⟩ := hp
  obtain ⟨negative, n, e, hscaled, hvalue⟩ := scaled_of_roundsTo hy hx hr hrange
  obtain ⟨s, hs, hgiven⟩ := outcome_given_text (α := α) hroom hdecimal hmark hvalue base
  rw [outcome_registerOne_eq hmem hscaled]
  cases hcheck : Name.check (p ++ name) .unit with
  | error invalid =>
    exact .inl ⟨invalid, rfl,
      outcome_bind_error (outcome_bind_error (outcome_checkName_of_error hcheck))⟩
  | ok _ =>
    obtain ⟨journal, hregister⟩ :=
      Snapshot.outcome_registerInputUnit_again hcheck hgiven
    refine .inr ⟨rfl, (p ++ name, ⟨s, base⟩), journal, ⟨rfl, rfl, ?_⟩, outcome_discard hregister⟩
    exact ⟨y, r, ⟨multiple, hmem, hy⟩, hr, hs⟩

/-- **All prefixes,** up to the first with which the name is refused. -/
theorem outcome_registerPrefixed (hroom : c.room = some 850)
    (hdecimal : c.settings.HasDecimal mark) (hmark : mark ∉ numberChars) {factor : String}
    (hx : StandsFor factor x) (name : String) (base : Units) {chosen : List String}
    (hchosen : ∀ p ∈ chosen, ∃ y r, IsPrefix p y ∧ RoundsTo precision (y * x) r ∧ InRange r) :
    ∃ entries journal, outcome (registerPrefixed name base chosen factor) c =
        (checkNames name chosen,
          { c with inputUnits := c.inputUnits.insertAll entries, journal }) ∧
      List.Forall₂ (IsPrefixed name base x) (chosen.takeWhile (hasName name)) entries := by
  rw [registerPrefixed_eq]
  induction chosen generalizing c with
  | nil => exact ⟨[], c.journal, rfl, .nil⟩
  | cons p chosen ih =>
    obtain ⟨y, r, hp, hr, hrange⟩ := hchosen p (List.mem_cons_self ..)
    rcases outcome_registerOne hroom hdecimal hmark hp hx hr hrange name base with
      ⟨invalid, hcheck, hone⟩ | ⟨hcheck, entry, journal, hentry, hone⟩
    · have hstop : ¬ hasName name p = true := by simp [hasName, hcheck, Except.isOk, Except.toBool]
      have hrefused : checkNames name (p :: chosen) = .error (.error (.invalid invalid)) := by
        rw [checkNames_cons, hcheck]
        rfl
      refine ⟨[], c.journal, ?_, ?_⟩
      · rw [hrefused]
        exact outcome_bind_error hone
      · rw [List.takeWhile_cons_of_neg hstop]
        exact .nil
    · have hgoes : hasName name p = true := by simp [hasName, hcheck, Except.isOk, Except.toBool]
      have hvalid : checkNames name (p :: chosen) = checkNames name chosen := by
        rw [checkNames_cons, hcheck]
        rfl
      obtain ⟨entries, journal', hrest, hentries⟩ := ih
        (c := { c with inputUnits := c.inputUnits.insert entry.1 entry.2, journal }) hroom hdecimal
        fun q hq => hchosen q (List.mem_cons_of_mem p hq)
      refine ⟨entry :: entries, journal', ?_, ?_⟩
      · rw [hvalid]
        exact (outcome_bind_ok hone).trans hrest
      · rw [List.takeWhile_cons_of_pos hgoes]
        exact .cons hentry hentries

/-! ### Marks that spoil factors -/

/-- A factor that cannot be read with the mark of the calculator is refused. -/
theorem outcome_registerOne_of_unreadable (hdecimal : c.settings.HasDecimal mark)
    {p multiple factor name : String} {n : ℕ} {e : ℤ} (hmem : (p, multiple) ∈ prefixes)
    (hcheck : Name.check (p ++ name) .unit = .ok ())
    (hscaled : scaled multiple factor = .ok (Scientific.finite false n e).text)
    (hread : Number.read? ((magnitude n e).map (pointFor mark)) = none) (base : Units) :
    outcome (registerOne name base factor p) c =
      (.error (.error (.invalid (.scalarText (magnitudeText n e)))), c) := by
  have hvalue : (Expr.valueOfScalar c.settings (magnitudeText n e) : Except Fault (Quantity α)) =
      .error (.error (.invalid (.scalarText (magnitudeText n e)))) := by
    rw [Expr.valueOfScalar_eq hdecimal, magnitudeText, String.toList_ofList, hread]
  have hgiven := outcome_given_of_fault (read_text false n e) (outcome_valueOf_scalar hvalue) base
  rw [outcome_registerOne_eq hmem hscaled]
  refine outcome_bind_error ((outcome_bind_ok (Snapshot.outcome_checkName hcheck c)).trans ?_)
  exact outcome_bind_error hgiven

/-- A prefix with its multiple, and the coefficient and the exponent of a product that a mark
spoils. -/
def spoiled (mark : Char) : (String × String) × ℕ × ℤ :=
  if mark = 'E' ∨ mark = '+' then (("k", "1e3"), 1, 3)
  else if mark = '-' then (("n", "1e-9"), 1, -9)
  else (("", "1"), mark.toNat - 48, 0)

/-- The prefix has this multiple, a unit `x` may have it, the product with the coefficient is in
range, and its text cannot be read with the mark. -/
@[mk_iff]
structure Spoils (mark : Char) (entry : String × String) (n : ℕ) (k : ℤ) : Prop where
  mem : entry ∈ prefixes
  check : Name.check (entry.1 ++ "x") .unit = .ok ()
  multiple : Scientific.read? entry.2 = some (.finite false 1 k)
  factor : Scientific.read? (toString n) = some (.finite false n 0)
  product : (Scientific.finite false 1 k).mul (.finite false n 0) = .ok (.finite false n k)
  short : (decimal (1 * n)).length ≤ precision
  low : least ≤ k + 0
  high : precision + (k + 0) ≤ greatest + 1
  unreadable : (Number.read? ((magnitude n k).map (pointFor mark))).isNone = true

instance (mark : Char) (entry : String × String) (n : ℕ) (k : ℤ) :
    Decidable (Spoils mark entry n k) :=
  decidable_of_iff _ (spoils_iff mark entry n k).symm

/-- For each character of numbers there is a factor that it spoils. -/
theorem spoils_spoiled (h : mark ∈ numberChars) :
    Spoils mark (spoiled mark).1 (spoiled mark).2.1 (spoiled mark).2.2 := by
  have key : (numberChars.all fun mark => decide (
      Spoils mark (spoiled mark).1 (spoiled mark).2.1 (spoiled mark).2.2)) = true := by
    decide +kernel
  exact of_decide_eq_true (List.all_eq_true.1 key mark h)

/-- A spoiled product keeps its unit from being registered. -/
theorem Spoils.not_registered (hdecimal : c.settings.HasDecimal mark) {p multiple : String} {n : ℕ}
    {k : ℤ} (h : Spoils mark (p, multiple) n k) :
    ∃ p factor x, StandsFor factor x ∧
      (∃ y r, IsPrefix p y ∧ RoundsTo precision (y * x) r ∧ InRange r) ∧
      checkNames "x" [p] = .ok () ∧
      ∀ base : Units, (outcome (registerPrefixed "x" base [p] factor) c).1 ≠ .ok () := by
  have hy : StandsFor multiple ((1 : ℕ) * 10 ^ k) := ⟨_, h.multiple, rfl⟩
  have hx : StandsFor (toString n) (n * 10 ^ (0 : ℤ)) := ⟨_, h.factor, rfl⟩
  obtain ⟨hround, hrange⟩ := roundsTo_mul_of_short h.short h.low h.high
  have hscaled : scaled multiple (toString n) = .ok (Scientific.finite false n k).text := by
    simp only [scaled, h.multiple, h.factor, h.product]
  refine ⟨p, toString n, _, hx, ⟨_, _, ⟨multiple, h.mem, hy⟩, hround, hrange⟩, ?_,
    fun base hok => ?_⟩
  · rw [checkNames_cons, h.check]
    rfl
  · have hone := outcome_registerOne_of_unreadable (c := c) hdecimal h.mem h.check hscaled
      (Option.isNone_iff_eq_none.1 h.unreadable) base
    rw [outcome_registerPrefixed_cons_error hone] at hok
    cases hok

/-- **The texts of prefixed factors can be read, and prefixed units are registered.** For every
prefix and every text that is a decimal number, the product of both, rounded to 28 digits, is handed
over as a text that is read as one number or as the negative of one, and this is the product
exactly. In a calculator with a decimal mark that is no character of numbers, and with no other
mark, this lets all prefixes that are in range be registered with these products, for every name: no
valid name is refused, and a name that is not valid is the first thing that is complained of. -/
theorem registerPrefixed_registers (hc : c.Reachable) (hdecimal : c.settings.HasDecimal mark) :
    (∀ p multiple, (p, multiple) ∈ prefixes → ∃ y, StandsFor multiple y ∧
      ∀ factor x, StandsFor factor x → ∃ r, RoundsTo precision (y * x) r ∧ (InRange r →
        ∃ text, scaled multiple factor = .ok text ∧ IsNumber text ∧ StandsFor text r)) ∧
    (mark ∉ numberChars ↔ ∀ name base chosen factor x, StandsFor factor x →
      (∀ p ∈ chosen, ∃ y r, IsPrefix p y ∧ RoundsTo precision (y * x) r ∧ InRange r) →
      ∃ entries journal, outcome (registerPrefixed name base chosen factor) c =
          (checkNames name chosen,
            { c with inputUnits := c.inputUnits.insertAll entries, journal }) ∧
        List.Forall₂ (IsPrefixed name base x) (chosen.takeWhile (hasName name)) entries) := by
  refine ⟨fun p multiple hmem => ?_, fun hmark name base chosen factor x hx hchosen => ?_,
    fun h hmark => ?_⟩
  · obtain ⟨k, -, hmultiple⟩ := exists_multiple hmem
    exact ⟨_, ⟨_, hmultiple, rfl⟩, fun factor x hx => exists_scaled ⟨_, hmultiple, rfl⟩ hx⟩
  · exact outcome_registerPrefixed hc.room_eq hdecimal hmark hx name base hchosen
  · obtain ⟨p, factor, x, hx, hp, hcheck, hrefused⟩ :=
      (spoils_spoiled hmark).not_registered hdecimal
    obtain ⟨entries, journal, hregistered, -⟩ :=
      h "x" .none [p] factor x hx fun q hq => List.mem_singleton.1 hq ▸ hp
    exact hrefused .none (by rw [hregistered, hcheck])

/-- In a new calculator, the electronvolt is registered with prefixes for a thousand and a
million. -/
theorem registerPrefixed_registers_electronvolts :
    StandsFor "1.602176634e-19" ((1602176634 : ℕ) * 10 ^ (-28 : ℤ)) ∧
    ∃ entries journal,
      outcome (registerPrefixed "eV" (.ofSymbol "J") ["k", "M"] "1.602176634e-19")
          ({} : Calculator Float) =
        (.ok (), { ({} : Calculator Float) with
          inputUnits := Table.empty.insertAll entries, journal }) ∧
      List.Forall₂ (IsPrefixed "eV" (.ofSymbol "J") ((1602176634 : ℕ) * 10 ^ (-28 : ℤ)))
        ["k", "M"] entries := by
  have hfactor : Scientific.read? "1.602176634e-19" = some (.finite false 1602176634 (-28)) := by
    decide +kernel
  have hx : StandsFor "1.602176634e-19" ((1602176634 : ℕ) * 10 ^ (-28 : ℤ)) :=
    ⟨_, hfactor, rfl⟩
  have hcreate : Calculator.create {} = .ok ({} : Calculator Float) := rfl
  have hdecimal : ({} : Calculator Float).settings.HasDecimal '.' := rfl
  have hproduct (k : ℤ) (hk : k = 3 ∨ k = 6) :
      RoundsTo precision ((1 : ℕ) * 10 ^ k * ((1602176634 : ℕ) * 10 ^ (-28 : ℤ)))
        ((1 : ℕ) * 10 ^ k * ((1602176634 : ℕ) * 10 ^ (-28 : ℤ))) ∧
      InRange ((1 : ℕ) * 10 ^ k * ((1602176634 : ℕ) * 10 ^ (-28 : ℤ))) := by
    rcases hk with rfl | rfl
    · exact roundsTo_mul_of_short (by decide) (by decide) (by decide)
    · exact roundsTo_mul_of_short (by decide) (by decide) (by decide)
  have hk : StandsFor "1e3" ((1 : ℕ) * 10 ^ (3 : ℤ)) := ⟨.finite false 1 3, by decide +kernel, rfl⟩
  have hM : StandsFor "1e6" ((1 : ℕ) * 10 ^ (6 : ℤ)) := ⟨.finite false 1 6, by decide +kernel, rfl⟩
  have hregisters := (registerPrefixed_registers (.create hcreate) hdecimal).2.1 (by decide) "eV"
    (.ofSymbol "J") ["k", "M"] "1.602176634e-19" _ hx fun p hp => by
      simp only [List.mem_cons, List.not_mem_nil, or_false] at hp
      rcases hp with rfl | rfl
      · exact ⟨_, _, ⟨"1e3", by decide, hk⟩, hproduct 3 (.inl rfl)⟩
      · exact ⟨_, _, ⟨"1e6", by decide, hM⟩, hproduct 6 (.inr rfl)⟩
  exact ⟨hx, hregisters⟩

/-- A calculator with the letter `E` before fractions. -/
def letterMarked : Calculator Float := { settings := { decimal := .str "E" } }

/-- There, a unit of a thousand is refused: its factor has the letter as an exponent, and the point
is put in its place. -/
theorem not_registered_letterMarked :
    Calculator.create letterMarked.settings = .ok letterMarked ∧
    Name.check "km" .unit = .ok () ∧ StandsFor "1" 1 ∧ scaled "1e3" "1" = .ok "1E+3" ∧
    outcome (registerPrefixed "m" (.ofSymbol "m") ["k"]) letterMarked =
      (.error (.error (.invalid (.scalarText "1E+3"))), letterMarked) := by
  have hone : StandsFor "1" 1 := ⟨.finite false 1 0, by decide +kernel, by simp [value?, withSign]⟩
  have hcheck : Name.check ("k" ++ "m") .unit = .ok () := by decide +kernel
  have hread : Number.read? ((magnitude 1 3).map (pointFor 'E')) = none := by
    rw [← Option.isNone_iff_eq_none]
    decide +kernel
  have hdecimal : letterMarked.settings.HasDecimal 'E' := rfl
  have hscaled : scaled "1e3" "1" = .ok (Scientific.finite false 1 3).text := rfl
  refine ⟨rfl, hcheck, hone, rfl, ?_⟩
  have hrefused := outcome_registerOne_of_unreadable (c := letterMarked) hdecimal
    (p := "k") (by decide) hcheck hscaled hread (.ofSymbol "m")
  exact outcome_registerPrefixed_cons_error hrefused []

end UnitSet
end QuantityCalculus
