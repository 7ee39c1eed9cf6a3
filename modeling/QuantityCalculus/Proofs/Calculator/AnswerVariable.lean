/-
# The answer variable

An evaluation that succeeds gives its result to the answer variable, in base units: not the value
that is shown in an output unit, and of a conversion at the top not the value that is shown in the
target, but the value in front of it. A word that is no unit is read as a variable, so evaluating
the name of the answer variable gives this result again and leaves the calculator as it is.

An evaluation that fails, or that defines a function, has nothing to do with the answer variable.
What it leaves of the variables is what the expression has assigned until it ended.

**Main statements.** `outcome_evaluate`: what comes of a text is what comes of its expression, with
the result bound to the answer variable; `Sound.outcome_evaluate_name`: the answer, asked for by its
name; `rebound_takeValues`: what an expression assigns; `answer_variable_kept`: all of it together.
-/

import QuantityCalculus.Proofs.Calculator.OutputUnits
import QuantityCalculus.Proofs.Expr.UsableNames
import QuantityCalculus.Proofs.Machine.Writes

namespace QuantityCalculus

/-- The expressions whose values an evaluation takes, one behind the other: both sides of a
conversion at the top that does not drop the unit, or the expression itself. The result in base
units is the first of these values. -/
def Expr.valued (e : Expr) : List Expr :=
  match e.strippedConversion?, e.conversion? with
  | none, some (value, target) => [value, target]
  | _, _ => [e]

theorem Expr.walk_valued {e a : Expr} (h : a ∈ e.valued) : a.walk ⊆ e.walk := by
  unfold valued at h
  split at h
  · rename_i value target _ hconversion
    obtain ⟨hv, ht⟩ := walk_conversion hconversion
    rcases List.mem_pair.1 h with rfl | rfl
    · exact hv
    · exact ht
  · rw [List.mem_singleton.1 h]
    exact List.Subset.refl _

namespace Calculator

variable {α : Type} [Scalar α] {c : Calculator α} {a text : String} {e : Expr}

/-! ### What an evaluation leaves alone -/

/-- A calculator reads texts like another one. -/
structure ReadsAs (c₀ c : Calculator α) : Prop where
  settings : c.settings = c₀.settings
  inputUnits : c.inputUnits = c₀.inputUnits

omit [Scalar α] in
theorem ReadsAs.read {c₀ : Calculator α} (h : ReadsAs c₀ c) (text : String) :
    c.read text = c₀.read text := by
  have hunits : c.isUnit = c₀.isUnit := by
    funext word
    rw [isUnit, isUnit, h.inputUnits]
  rw [Calculator.read, Calculator.read, h.settings, hunits]

theorem ReadsAs.evaluates (c₀ : Calculator α) : Evaluates (fun _ => True) (ReadsAs c₀) where
  part _ _ := trivial
  valueOf _ c hc := by
    rw [outcome_valueOf]
    exact ⟨{ hc with }, fun _ _ => trivial⟩
  keepAnswer q := keeps_keepAnswer q (fun _ hc => { hc with }) fun _ hc => { hc with }
  failed _ hc := { hc with }

theorem readsAs_resolve (c : Calculator α) (e : Expr) : ReadsAs c (outcome (resolve e) c).2 :=
  ((ReadsAs.evaluates c).resolve trivial c ⟨rfl, rfl⟩).1

theorem readsAs_evaluate (c : Calculator α) (text : String) :
    ReadsAs c (outcome (evaluate text) c).2 :=
  ((ReadsAs.evaluates c).evaluate (fun _ _ => trivial) text c ⟨rfl, rfl⟩).1

/-! ### Results and the answer variable -/

/-- A result that is bound to the answer variable, where the expression defines no function. -/
def answering (a : String) (e : Expr) :
    Except Fault (Outcome α) × Calculator α → Except Fault (Outcome α) × Calculator α
  | (.ok (.success base shown), c) =>
    (.ok (.success base shown),
      if e.definesFunction then c else { c with globals := c.globals.insert a ⟨base, none⟩ })
  | ended => ended

/-- **What comes of a text** is what comes of its expression, with the result bound to the answer
variable. -/
theorem outcome_evaluate (hread : c.read text = .ok e)
    (hanswer : c.settings.answerVariable = .str a) (ha : a ≠ "") :
    outcome (evaluate text) c = answering a e (outcome (resolve e) c) := by
  have hsettings := (readsAs_resolve c e).settings
  unfold evaluate
  rw [outcome_bind_ok (outcome_get c), hread]
  dsimp only
  rw [outcome_bind]
  revert hsettings
  cases outcome (resolve e) c with
  | mk r c' =>
    intro (hsettings : c'.settings = c.settings)
    rcases r with fault | ⟨base, shown⟩ | message
    · rfl
    · have hpresent : c'.settings.answerVariable.isPresent = true := by
        rw [hsettings, hanswer]
        simpa [Json.isPresent] using ha
      dsimp only [answering]
      rw [outcome_bind_ok (outcome_get c'), hpresent, Bool.true_and]
      cases e.definesFunction with
      | true => rfl
      | false =>
        have hkeep : outcome (keepAnswer base) c' =
            (.ok (), { c' with globals := c'.globals.insert a ⟨base, none⟩ }) := by
          unfold keepAnswer
          rw [outcome_bind_ok (outcome_get c'), hsettings, hanswer]
          rfl
        exact outcome_bind_ok hkeep
    · rfl

section Answering

variable {ended : Except Fault (Outcome α) × Calculator α}

omit [Scalar α] in
theorem fst_answering (a : String) (e : Expr)
    (ended : Except Fault (Outcome α) × Calculator α) : (answering a e ended).1 = ended.1 := by
  unfold answering
  split <;> rfl

omit [Scalar α] in
theorem answering_success {base : Quantity α} {shown : Option (Quantity α)}
    (h : ended.1 = .ok (.success base shown)) (he : e.definesFunction = false) :
    (answering a e ended).2 =
      { ended.2 with globals := ended.2.globals.insert a ⟨base, none⟩ } := by
  obtain ⟨r, c⟩ := ended
  cases h
  rw [answering, he]
  rfl

omit [Scalar α] in
/-- Nothing is bound without a result, or by a definition. -/
theorem answering_of_none
    (h : (∀ base shown, ended.1 ≠ .ok (.success base shown)) ∨ e.definesFunction = true) :
    (answering a e ended).2 = ended.2 := by
  unfold answering
  split
  · rename_i base shown c
    rw [if_pos (h.resolve_left fun hnone => hnone base shown rfl)]
  · rfl

end Answering

omit [Scalar α] in
/-- The answer variable is a word, so it has a name. -/
theorem ne_empty_of_isWord {m : Marks} (h : Token.IsWord m a) : a ≠ "" := by
  rintro rfl
  obtain ⟨c, rest, hname, -⟩ := Token.isWord_iff.1 h
  cases hname

/-! ### Asking for the answer -/

/-- A variable outside of any call has its value, and nothing is changed. -/
theorem outcome_valueOf_name {v : Variable α} (h : c.globals.get? a = some v) :
    outcome (valueOf (.name a)) c = (.ok v.value, c) := by
  have hresolve : c.machine.resolve c.room (.name a) = (.ok v.value, c.machine) := by
    have hlookup : lookupScopes (c.globals :: [c.constants]) a = some v := by
      rw [lookupScopes, List.findSome?_cons, h]
    have hvalue : Expr.valueOfName (c.globals :: [c.constants]) a = .ok v.value := by
      rw [Expr.valueOfName, hlookup]
    unfold Machine.resolve
    rw [Expr.value, outcome_bind_ok (outcome_get _)]
    show (Except.mapError _ (Expr.valueOfName (c.globals :: [c.constants]) a), _) = _
    rw [hvalue]
    rfl
  rw [outcome_valueOf, hresolve]
  rfl

section Answer

variable [Scalar.Divides α] {m : Marks}

/-- The result of a variable is its value, shown in an output unit perhaps. -/
theorem Sound.outcome_resolve_name (hc : c.Sound) {v : Variable α}
    (h : c.globals.get? a = some v) :
    ∃ shown, outcome (resolve (.name a)) c = (.ok (.success v.value shown), c) := by
  have hresult : ∃ shown, outcome (result (.name a)) c = (.ok (.success v.value shown), c) := by
    unfold result
    rw [outcome_bind_ok (outcome_valueOf_name h), outcome_bind_ok (outcome_get c)]
    split
    · obtain ⟨shown, hshown⟩ := hc.exists_inOutputUnit? v.value
      rw [hshown]
      exact ⟨shown, rfl⟩
    · exact ⟨none, rfl⟩
  obtain ⟨shown, hshown⟩ := hresult
  refine ⟨shown, ?_⟩
  unfold resolve
  refine (outcome_tryCatch _ _ c).trans ?_
  dsimp only [Expr.strippedConversion?, Expr.conversion?]
  rw [hshown]

/-- **The answer, asked for by its name,** is what is bound to it, and nothing is changed. -/
theorem Sound.outcome_evaluate_name (hc : c.Sound) (hmarks : c.settings.marks = .ok m)
    (hanswer : c.settings.answerVariable = .str a) (hword : Token.IsWord m a)
    (hunit : c.isUnit a = false) {base : Quantity α} (h : c.globals.get? a = some ⟨base, none⟩) :
    ∃ shown, outcome (evaluate a) c = (.ok (.success base shown), c) := by
  have hread : c.read a = .ok (.name a) := by
    refine read_eq_ok_iff.2 ⟨m, hmarks, ?_⟩
    rw [Expr.read_of_isWord hword, if_neg (by rw [hunit]; exact Bool.false_ne_true)]
  obtain ⟨shown, hshown⟩ := hc.outcome_resolve_name h
  refine ⟨shown, ?_⟩
  rw [outcome_evaluate hread hanswer (ne_empty_of_isWord hword), hshown]
  -- the answer is bound to itself once more
  show (_, { c with globals := c.globals.insert a ⟨base, none⟩ }) = (_, c)
  rw [Table.insert_of_get? h]

end Answer

/-! ### What an expression assigns -/

/-- The values that an evaluation takes, up to the first one that there is not. -/
def takeValues (e : Expr) : Step α (List (Quantity α)) := e.valued.mapM valueOf

/-- What a step ends with is made of values that another one takes: nothing else is changed, and a
result in base units is the first of the values. -/
def MadeOf (made : Except Fault (Outcome α) × Calculator α)
    (taken : Except Fault (List (Quantity α)) × Calculator α) : Prop :=
  made.2 = taken.2 ∧ ∀ base shown, made.1 = .ok (.success base shown) →
    ∃ others, taken.1 = .ok (base :: others)

theorem madeOf_convert (c : Calculator α) (value target : Expr) :
    MadeOf (outcome (convert value target) c) (outcome ([value, target].mapM valueOf) c) := by
  have htaken : ([value, target].mapM valueOf : Step α (List (Quantity α))) =
      (valueOf value >>= fun x => valueOf target >>= fun y => pure [x, y]) := by
    simp
  rw [htaken, convert, outcome_bind, outcome_bind]
  rcases outcome (valueOf value) c with ⟨_ | x, c'⟩
  · exact ⟨rfl, nofun⟩
  dsimp only
  rw [outcome_bind, outcome_bind]
  rcases outcome (valueOf target) c' with ⟨_ | y, c''⟩
  · exact ⟨rfl, nofun⟩
  dsimp only
  cases Quantity.ratio .base x y with
  | error cause => exact ⟨rfl, nofun⟩
  | ok factor =>
    refine ⟨rfl, ?_⟩
    rintro base shown ⟨⟩
    exact ⟨[y], rfl⟩

theorem madeOf_result (c : Calculator α) (e : Expr) :
    MadeOf (outcome (result e) c) (outcome ([e].mapM valueOf) c) := by
  have htaken : ([e].mapM valueOf : Step α (List (Quantity α))) =
      (valueOf e >>= fun x => pure [x]) := by
    simp
  rw [htaken, result, outcome_bind, outcome_bind]
  rcases outcome (valueOf e) c with ⟨_ | x, c'⟩
  · exact ⟨rfl, nofun⟩
  dsimp only
  rw [outcome_bind_ok (outcome_get c')]
  split
  · cases c'.inOutputUnit? x with
    | error cause => exact ⟨rfl, nofun⟩
    | ok shown =>
      refine ⟨rfl, ?_⟩
      rintro base shown ⟨⟩
      exact ⟨[], rfl⟩
  · refine ⟨rfl, ?_⟩
    rintro base shown ⟨⟩
    exact ⟨[], rfl⟩

/-- What becomes of an attempt whose faults are turned into failures or thrown again. -/
theorem globals_resolve (c : Calculator α) (e : Expr) :
    (outcome (resolve e) c).2.globals = (outcome (takeValues e) c).2.globals ∧
      ∀ base shown, (outcome (resolve e) c).1 = .ok (.success base shown) →
        ∃ others, (outcome (takeValues e) c).1 = .ok (base :: others) := by
  have hmade : MadeOf (outcome (match e.strippedConversion?, e.conversion? with
      | none, some (value, target) => convert value target
      | _, _ => result e) c) (outcome (takeValues e) c) := by
    unfold takeValues Expr.valued
    split
    · exact madeOf_convert c _ _
    · exact madeOf_result c e
  obtain ⟨hafter, hbase⟩ := hmade
  unfold resolve
  rw [← hafter, outcome_tryCatch]
  revert hbase
  generalize outcome (match e.strippedConversion?, e.conversion? with
      | none, some (value, target) => convert value target
      | _, _ => result e) c = attempted
  intro hbase
  rcases attempted with ⟨fault | o, c'⟩
  · cases fault <;> exact ⟨rfl, nofun⟩
  · exact ⟨rfl, hbase⟩

/-- **What taking the values writes** to the variables is what the expression assigns. -/
theorem rebound_takeValues (hroom : c.room.isSome = true) (e : Expr) :
    c.globals.Rebound (Assignment e.Assigns) (outcome (takeValues e) c).2.globals := by
  let P (s : Calculator α) : Prop :=
    s.room.isSome = true ∧ c.globals.Rebound (Assignment e.Assigns) s.globals
  have hkeeps : Keeps P (fun _ => True) (takeValues e : Step α (List (Quantity α))) := by
    refine Keeps.mapM fun a ha s hs => ?_
    have hwritten := (logged_valueOf hs.1 a).scope.mono (Q := Assignment e.Assigns) fun b hb =>
      ⟨hb.1.of_subset (Expr.walk_valued ha), hb.2⟩
    refine ⟨⟨?_, hs.2.trans hwritten⟩, fun _ _ => trivial⟩
    rw [outcome_valueOf]
    exact hs.1
  exact (hkeeps c ⟨hroom, .refl⟩).1.2

/-- A definition assigns nothing, whatever its body does. -/
theorem globals_takeValues_of_defines (h : e.definesFunction = true) (c : Calculator α) :
    (outcome (takeValues e) c).2.globals = c.globals := by
  unfold Expr.definesFunction at h
  split at h
  · rename_i f parameters content body content'
    have hvalue : (outcome (valueOf
        (.binary .assign (.call f parameters content) body content')) c).2.globals = c.globals := by
      rw [outcome_valueOf]
      unfold Machine.resolve
      rw [Expr.value, Machine.define_eq]
      cases Expr.definition f parameters body <;> rfl
    have htaken : (takeValues (.binary .assign (.call f parameters content) body content') :
        Step α (List (Quantity α))) =
        (valueOf (.binary .assign (.call f parameters content) body content') >>=
          fun x => pure [x]) := by
      unfold takeValues
      simp [Expr.valued, Expr.strippedConversion?, Expr.conversion?]
    rw [htaken, snd_outcome_bind_pure _ fun x => [x], hvalue]
  · cases h

/-- What an evaluation leaves of the variables when it keeps no answer: what taking the values has
left, by assignments that the expression itself makes; a definition makes none. -/
structure OwnAssignments (c : Calculator α) (e : Expr) (globals : Scope α) : Prop where
  taken : globals = (outcome (takeValues e) c).2.globals
  assigned : c.globals.Rebound (Assignment e.Assigns) globals
  defines : e.definesFunction = true → globals = c.globals

/-- What an evaluation of an expression ends with, and what the answer variable has then. -/
structure KeepsAnswer (c : Calculator α) (a : String) (e : Expr)
    (ended : Except Fault (Outcome α) × Calculator α) : Prop where
  /-- the result is the first of the values, and the answer is the result, as often as it is
  asked for by its name -/
  kept : ∀ base shown, ended.1 = .ok (.success base shown) → e.definesFunction = false →
    (∃ others, (outcome (takeValues e) c).1 = .ok (base :: others)) ∧
    ended.2.globals = (outcome (takeValues e) c).2.globals.insert a ⟨base, none⟩ ∧
    ∃ shown', outcome (evaluate a) ended.2 = (.ok (.success base shown'), ended.2)
  /-- without a result, and in a definition, there are the assignments only -/
  unkept : (∀ base shown, ended.1 ≠ .ok (.success base shown)) ∨ e.definesFunction = true →
    OwnAssignments c e ended.2.globals

/-- **The answer variable names the last result** in base units, for every calculator that can be
reached, if the variable is a word that is no unit. After a result that is no definition, evaluating
its name gives the same result in base units and changes nothing at all; after a failure or a
definition, the variables are what the assignments of the expression have made of them; and a text
that cannot be read leaves them as they are. -/
theorem answer_variable_kept [Scalar.Divides α] (hc : c.Reachable) {m : Marks}
    (hmarks : c.settings.marks = .ok m) (hanswer : c.settings.answerVariable = .str a)
    (hword : Token.IsWord m a) (hunit : c.isUnit a = false) (text : String) :
    (∀ e, c.read text = .ok e → KeepsAnswer c a e (outcome (evaluate text) c)) ∧
    ∀ fault, c.read text = .error fault → (outcome (evaluate text) c).2.globals = c.globals := by
  constructor
  · intro e hread
    have hended := outcome_evaluate hread hanswer (ne_empty_of_isWord hword)
    obtain ⟨hglobals, hbase⟩ := globals_resolve c e
    constructor
    · intro base shown hresult hdefines
      rw [hended, fst_answering] at hresult
      have hafter : (outcome (evaluate text) c).2.globals =
          (outcome (takeValues e) c).2.globals.insert a ⟨base, none⟩ := by
        rw [hended, answering_success hresult hdefines, ← hglobals]
      refine ⟨hbase base shown hresult, hafter, ?_⟩
      have hsound : (outcome (evaluate text) c).2.Sound :=
        snd_outcome_discard (evaluate text) c ▸ (hc.step (.evaluate text)).sound
      have hreads := readsAs_evaluate c text
      refine hsound.outcome_evaluate_name (m := m) ?_ ?_ hword ?_ ?_
      · rw [hreads.settings, hmarks]
      · rw [hreads.settings, hanswer]
      · rw [isUnit, hreads.inputUnits, ← isUnit, hunit]
      · rw [hafter, Table.get?_insert, if_pos rfl]
    · intro hnone
      rw [hended, fst_answering] at hnone
      rw [hended, answering_of_none hnone]
      refine ⟨hglobals, hglobals ▸ rebound_takeValues hc.room e, fun hdefines => ?_⟩
      rw [hglobals, globals_takeValues_of_defines hdefines]
  · intro fault hread
    unfold evaluate
    rw [outcome_bind_ok (outcome_get c), hread]
    dsimp only
    split
    · rfl
    · rfl
    · rename_i heq
      cases heq

/-- A calculator with metres and kilometres that keeps its answers. -/
def metric : Calculator Float := fresh.after [
  .adjust { answerVariable := .str "ans" },
  .registerInputUnit "m" ⟨.real 1.0, .ofSymbol "m"⟩,
  .registerInputUnit "km" ⟨.real 1000.0, .ofSymbol "m"⟩]

/-- What is shown in kilometres is kept in metres. -/
theorem answer_variable_kept_metres : ∃ base shown shown',
    (outcome (evaluate "1500 m in km") metric).1 = .ok (.success base shown) ∧
    base.scalar = 1500.0 ∧ (Outcome.success base shown).quantity.scalar = 1.5 ∧
    outcome (evaluate "ans") (outcome (evaluate "1500 m in km") metric).2 =
      (.ok (.success base shown'), (outcome (evaluate "1500 m in km") metric).2) := by
  have hreachable : metric.Reachable := built_fresh.reachable.after _
  have hword : Token.IsWord .standard "ans" := by decide +kernel
  obtain ⟨hanswers, -⟩ := answer_variable_kept hreachable (a := "ans") (m := .standard) rfl rfl
    hword rfl "1500 m in km"
  have hread : ((metric.read "1500 m in km").map Expr.definesFunction).toOption = some false := by
    decide +kernel
  have hresult : ((outcome (evaluate "1500 m in km") metric).1.map fun o =>
      (o.base?.map Quantity.scalar, o.quantity.scalar)).toOption = some (some 1500.0, 1.5) := by
    decide +kernel
  cases he : metric.read "1500 m in km" with
  | error fault =>
    rw [he] at hread
    cases hread
  | ok e =>
    rw [he] at hread
    have hdefines : e.definesFunction = false := Option.some.inj hread
    have hkept := (hanswers e he).kept
    revert hresult hkept
    cases (outcome (evaluate "1500 m in km") metric).1 with
    | error fault => exact fun h => by cases h
    | ok o =>
      cases o with
      | failure message => exact fun h => by cases h
      | success base shown =>
        intro hresult hkept
        obtain ⟨hbase, hshown⟩ := Prod.mk.inj (Option.some.inj hresult)
        obtain ⟨-, -, shown', hanswer⟩ := hkept base shown rfl hdefines
        exact ⟨base, shown, shown', rfl, Option.some.inj hbase, hshown, hanswer⟩

end Calculator
end QuantityCalculus
