/-
# Functions come back as their texts stand for

A snapshot has the text of a function's body and not the body, so a function that is loaded has
the body that its text stands for with the units that there are, while it was defined with the
units that there were. Its name and parameters come back as they were. The body does as well if
every word of the text is a unit exactly if it was one when the text was read; and if the bodies
of all functions come back that a call may reach, the call gives what it gave before.

**Main statement.** `load_returns`: what a snapshot gives back of the functions.
-/

import QuantityCalculus.Proofs.Calculator.Texts
import QuantityCalculus.Proofs.Expr.Words
import QuantityCalculus.Proofs.Scopes.Visible
import QuantityCalculus.Proofs.Snapshot.Loadable

namespace QuantityCalculus

variable {α : Type}

/-! ### What comes back -/

/-- A variable as a snapshot gives it back: an empty description is left out. -/
def Variable.returned [Scalar α] (v : Variable α) : Variable α :=
  ⟨v.value.reloaded, if v.description = some "" then none else v.description⟩

/-- A function with the body that its text stands for now, if it stands for any. -/
def Function.again (c : Calculator α) (f : Function) : Function :=
  match c.read f.bodyText with
  | .ok body => { f with body, bodyText := Text.trimmed f.bodyText }
  | .error _ => f

@[simp] theorem Function.again_name (c : Calculator α) (f : Function) :
    (f.again c).name = f.name := by
  unfold again
  split <;> rfl

@[simp] theorem Function.again_parameters (c : Calculator α) (f : Function) :
    (f.again c).parameters = f.parameters := by
  unfold again
  split <;> rfl

namespace Calculator

/-- What a snapshot gives back of a calculator that can be loaded. -/
def returned [Scalar α] (c : Calculator α) : Calculator α :=
  { c.emptied with
    constants := c.constants.mapValues Variable.returned
    globals := c.globals.mapValues Variable.returned
    inputUnits := c.inputUnits.mapValues Quantity.reloaded
    outputUnits := c.outputUnits.mapValues OutputUnit.reloaded
    functions := c.functions.mapValues (Function.again c) }

end Calculator

namespace Snapshot

open Calculator

variable [Scalar α] {c : Calculator α}

theorem toVariable_returned [Portable α] (v : Variable α) :
    toVariable (ofVariable v) = .ok v.returned := by
  by_cases h : v.description = some ""
  · have hleft : ofVariable v = ofVariable ⟨v.value, none⟩ := by
      simp [ofVariable, h]
    have hnone : (⟨v.value, none⟩ : Variable α).description ≠ some "" := by simp
    rw [hleft, toVariable_ofVariable hnone, Variable.returned, if_pos h]
    rfl
  · rw [toVariable_ofVariable h, Variable.returned, if_neg h]
    rfl

omit [Scalar α] in
theorem again_of_read {f : Function} {body : Expr} (h : c.read f.bodyText = .ok body) :
    f.again c = { f with body, bodyText := Text.trimmed f.bodyText } := by
  rw [Function.again, h]

omit [Scalar α] in
/-- A function is registered again with the body that its text stands for. -/
theorem outcome_loadFunction_again {f : Function} (hf : f.Sound) {s : Calculator α}
    (hs : s.read = c.read) {body : Expr} (h : c.read f.bodyText = .ok body) :
    outcome (loadFunction (ofFunction f)) s =
      (.ok (), { s with functions := s.functions.define (f.again c) }) := by
  have hregister := outcome_registerFunction_text hf s
  rw [hs, h] at hregister
  rw [again_of_read h]
  exact outcome_discard hregister

variable [Portable α]

/-- **The definitions of a snapshot load** into a calculator that has them all. -/
theorem outcome_loadDefinitions (hc : c.Sound)
    (hnames : ∀ e ∈ c.globals.toList, Name.check e.1 .variable = .ok ())
    (hbodies : ∀ e ∈ c.functions.toList, ∃ body, c.read e.2.bodyText = .ok body) :
    outcome (loadDefinitions c) (withUnits c) = (.ok (), c.returned) := by
  let c₁ : Calculator α :=
    { withUnits c with constants := c.constants.mapValues Variable.returned }
  let c₂ : Calculator α := { c₁ with globals := c.globals.mapValues Variable.returned }
  have hconstants : outcome ((c.constants.toList.map fun e => (e.1, ofVariable e.2)).forM
      fun e => loadConstant e.1 e.2) (withUnits c) = (.ok (), c₁) := by
    refine outcome_forM_table (fun t => { withUnits c with constants := t }) fun e he t _ => ?_
    rw [loadConstant, toVariable_returned]
    exact outcome_setConstant (hc.constants e he) _ _
  have hvariables : outcome ((c.globals.toList.map fun e => (e.1, ofVariable e.2)).forM
      fun e => loadVariable e.1 e.2) c₁ = (.ok (), c₂) := by
    refine outcome_forM_table (fun t => { c₁ with globals := t }) fun e he t _ => ?_
    rw [loadVariable, toVariable_returned]
    exact outcome_setVariable (hnames e he) _ _
  have hfunctions : outcome ((c.functions.toList.map fun e => ofFunction e.2).forM loadFunction)
      c₂ = (.ok (), c.returned) := by
    refine outcome_forM_table (fun t => { c₂ with functions := t }) fun e he t _ => ?_
    obtain ⟨hkey, hf⟩ := hc.functions e he
    obtain ⟨body, hread⟩ := hbodies e he
    have hreads : Calculator.read { c₂ with functions := t } = c.read := readsAs_withUnits c
    have hdefine : Functions.define t (e.2.again c) = t.insert e.1 (e.2.again c) := by
      rw [again_of_read hread, hkey]
      rfl
    rw [← hdefine]
    exact outcome_loadFunction_again hf hreads hread
  exact (outcome_bind_ok hconstants).trans ((outcome_bind_ok hvariables).trans hfunctions)

/-- **A calculator that can be loaded again** comes back as its snapshot says. -/
theorem loadNew_returned (h : c.Built) (hl : c.Loadable) :
    loadNew ⟨bodyOf c, Scalar.kind α, c.settings.toMembers⟩ = .ok c.returned := by
  have hn := h.named
  have hc := h.reachable.sound
  have hnames := (names_iff hn).2 ⟨hl.reserved, hl.answerVariable⟩
  have hparts : outcome (loadParts (bodyOf c)) c.emptied = (.ok (), c.returned) :=
    (outcome_loadParts_units hc hn.answers).trans (outcome_loadDefinitions hc hnames hl.bodies)
  have hbody : (loadBody (bodyOf c)).run.run c.emptied = (.ok (), c.returned) := by
    show outcome (loadBody (bodyOf c)) c.emptied = _
    rw [loadBody, outcome_tryCatch, hparts]
  refine Except.bind_eq_ok_iff.2
    ⟨c.emptied, Except.mapError_eq_ok_iff.2 (start_toMembers hn.settings), ?_⟩
  dsimp only
  rw [hbody]
  rfl

end Snapshot

/-! ### Functions and calls -/

namespace Calculator

variable [Scalar α]

/-- The scalars of variables, constants and units come back from JSON. -/
structure Exact (c : Calculator α) : Prop where
  globals : ∀ e ∈ c.globals.toList, e.2.value.reloaded = e.2.value
  constants : ∀ e ∈ c.constants.toList, e.2.value.reloaded = e.2.value
  inputUnits : ∀ e ∈ c.inputUnits.toList, e.2.reloaded = e.2

/-- Real scalars come back from JSON. -/
theorem exact_real (c : Calculator Float) : c.Exact :=
  ⟨fun _ _ => rfl, fun _ _ => rfl, fun _ _ => rfl⟩

/-- How the functions of a calculator with a history come back. -/
structure FunctionsReturn (past : List (Calculator α)) (c c' : Calculator α) : Prop where
  /-- no function is lost, none is new, and they are in the same order -/
  keys : c'.functions.keys = c.functions.keys
  /-- a function has its name and parameters, and the body that its text stands for now -/
  functions : ∀ k f, c.functions.get? k = some f → ∃ f', c'.functions.get? k = some f' ∧
    f'.name = f.name ∧ f'.parameters = f.parameters ∧ c.read f.bodyText = .ok f'.body
  /-- the body is the same if each word of the text is a unit as it was when the text was read -/
  bodies : ∀ k f f', c.functions.get? k = some f → c'.functions.get? k = some f' →
    ∃ m isUnit, readings past m isUnit ∧ (Token.Inked m →
      Expr.read m isUnit f.bodyText = .ok f.body ∧
        (c.settings.marks = .ok m → (∀ w ∈ Expr.words m f.bodyText, c.isUnit w = isUnit w) →
          f'.body = f.body))
  /-- a call gives what it gave if the bodies are the same of all functions that it may reach, and
  complex scalars come back -/
  calls : (Scalar.kind α = .complex → c.Exact) → ∀ K : Common, c.functions.Alike K c.functions →
    (∀ k f f', K.keys k → c.functions.get? k = some f → c'.functions.get? k = some f' →
      f'.body = f.body) →
    ∀ left room name arguments frames, K.keys (name, arguments.length) →
      c'.callFrom left room name arguments frames = c.callFrom left room name arguments frames

theorem get?_returned {c : Calculator α} {k : String × Nat} {f f' : Function}
    (h : c.functions.get? k = some f) (h' : c.returned.functions.get? k = some f') :
    f' = f.again c := by
  rw [returned, Table.get?_mapValues, h] at h'
  cases h'
  rfl

/-- The values of names are those that they had. -/
theorem valueIn_returned {c : Calculator α} (hexact : c.Exact) (frames : List (Scope α))
    (n : String) : valueIn (frames ++ c.returned.scopes) n = valueIn (frames ++ c.scopes) n := by
  have hscope {t : Scope α} (ht : ∀ e ∈ t.toList, e.2.value.reloaded = e.2.value) :
      ((t.mapValues Variable.returned).get? n).map Variable.value =
        (t.get? n).map Variable.value := by
    rw [Table.get?_mapValues, Option.map_map]
    cases hv : t.get? n with
    | none => rfl
    | some v => exact congrArg some (ht _ (Table.get?_eq_some_iff.1 hv))
  refine valueIn_append_congr ?_
  rw [scopes, scopes, returned, valueIn_cons, valueIn_cons, hscope hexact.globals, valueIn_cons,
    valueIn_cons, hscope hexact.constants]

/-- Functions whose bodies come back are alike. -/
theorem alike_returned {c : Calculator α} {K : Common} (hK : c.functions.Alike K c.functions)
    (hbodies : ∀ k f f', K.keys k → c.functions.get? k = some f →
      c.returned.functions.get? k = some f' → f'.body = f.body) :
    c.functions.Alike K c.returned.functions := by
  intro k hk
  have hget : c.returned.functions.get? k = (c.functions.get? k).map (Function.again c) :=
    Table.get?_mapValues _ _ k
  rcases hK k hk with ⟨hnone, -⟩ | ⟨f, g, hf, hg, harity, halike⟩
  · exact .inl ⟨hnone, by rw [hget, hnone]; rfl⟩
  · obtain rfl : f = g := Option.some.inj (hf.symm.trans hg)
    have hagain : c.returned.functions.get? k = some (f.again c) := by rw [hget, hf]; rfl
    have hbody := hbodies k f _ hk hf hagain
    obtain ⟨-, ρ, hρ, hparameters, halike⟩ := halike
    refine .inr ⟨f, f.again c, hf, hagain, harity, f.again_name c, ρ, hρ, ?_, ?_⟩
    · rw [Function.again_parameters]
      exact hparameters
    · rw [hbody]
      exact halike

theorem sameTools_returned {c : Calculator α} (h : c.Built) (hexact : c.Exact) :
    Expr.SameTools c.context c.returned.context where
  units := Table.ext_entries <| by
    have hentry : ∀ e ∈ c.inputUnits.entries, (e.1, e.2.reloaded) = id e := fun e he =>
      Prod.ext rfl (hexact.inputUnits e he)
    exact (List.map_congr_left hentry).trans (List.map_id _)
  builtins := h.builtins.symm
  settings := rfl

/-- **The functions of a calculator with a history return** if it can be loaded. -/
theorem functionsReturn_returned {past : List (Calculator α)} {c : Calculator α}
    (h : Told past c) (hl : c.Loadable) (hreal : Scalar.kind α = .real → c.Exact) :
    FunctionsReturn past c c.returned where
  keys := Table.keys_mapValues _ _
  functions k f hf := by
    obtain ⟨body, hread⟩ := hl.bodies _ (Table.get?_eq_some_iff.1 hf)
    refine ⟨f.again c, ?_, f.again_name c, f.again_parameters c, ?_⟩
    · rw [returned, Table.get?_mapValues, hf]
      rfl
    · rw [Snapshot.again_of_read hread]
      exact hread
  bodies k f f' hf hf' := by
    obtain ⟨m, isUnit, hm, hread⟩ := h.functions _ (Table.get?_eq_some_iff.1 hf)
    refine ⟨m, isUnit, hm, fun hink => ⟨hread hink, fun hmarks hwords => ?_⟩⟩
    have hnow : c.read f.bodyText = .ok f.body :=
      read_eq_ok_iff.2 ⟨m, hmarks, (Expr.read_of_words hwords).trans (hread hink)⟩
    rw [get?_returned hf hf', Snapshot.again_of_read hnow]
  calls hcomplex K hK hbodies left room name arguments frames hkey := by
    have hexact : c.Exact := by
      cases hkind : Scalar.kind α with
      | real => exact hreal hkind
      | complex => exact hcomplex hkind
    have hbound : ∀ n, K.names n →
        valueIn (frames ++ c.scopes) n = valueIn (frames ++ c.returned.scopes) n :=
      fun n _ => (valueIn_returned hexact frames n).symm
    exact (callFrom_agree (sameTools_returned h.built hexact) (alike_returned hK hbodies) hkey
      hbound).symm

end Calculator

/-! ### Calculators of either kind -/

/-- Two calculators of the same kind are in a relation. -/
def AnyCalculator.Both (R : {α : Type} → [Scalar α] → Calculator α → Calculator α → Prop) :
    AnyCalculator → AnyCalculator → Prop
  | real c, real c' => R c c'
  | complex c, complex c' => R c c'
  | _, _ => False

namespace Snapshot

open Calculator

theorem load_real (c : Calculator Float) : load (ofCalculator c) =
    loadNew ⟨bodyOf c, .real, c.settings.toMembers⟩ >>= fun c' => .ok (.real c') := by
  rw [load, header_ofCalculator]
  rfl

theorem load_complex (c : Calculator Complex) : load (ofCalculator c) =
    loadNew ⟨bodyOf c, .complex, c.settings.toMembers⟩ >>= fun c' => .ok (.complex c') := by
  rw [load, header_ofCalculator]
  rfl

/-- A snapshot that loads is that of a calculator that can be loaded, and it gives what it says. -/
theorem load_eq_returned {α : Type} [Scalar α] [Portable α] {c : Calculator α} (hc : c.Built)
    {wrap : Calculator α → AnyCalculator}
    (hwrap : load (ofCalculator c) =
      loadNew ⟨bodyOf c, Scalar.kind α, c.settings.toMembers⟩ >>= fun c' => .ok (wrap c'))
    {w : AnyCalculator} (h : load (ofCalculator c) = .ok w) :
    c.Loadable ∧ w = wrap c.returned := by
  have hl : c.Loadable := (exists_load_iff hc hwrap).1 ⟨w, h⟩
  rw [hwrap, loadNew_returned hc hl] at h
  exact ⟨hl, (Except.ok.inj h).symm⟩

/-- The body `x m` before `m` is a unit. -/
def namedBody : Expr := .binary .multiply (.name "x") (.name "m") "x m"

/-- The body `x m` where `m` is a unit. -/
def unitBody : Expr := .binary .multiply (.name "x") (.unit "m") "x m"

/-- The function `f(x) = x m`, defined before `m` was a unit. -/
def early : Function := ⟨"f", [.name "x"], namedBody, "x m"⟩

/-- A calculator with that function and the unit. -/
def drifted : Calculator Float where
  inputUnits := Table.empty.insert "m" ⟨1, .ofSymbol "m"⟩
  functions := Functions.define .empty early
  builtins := Builtin.ofKind .real

theorem told_drifted : ∃ past, Told past drifted := by
  have hf : early.Sound :=
    { check := by decide +kernel
      parameters := fun p hp => by
        obtain rfl := List.mem_singleton.1 hp
        rfl
      bodyText := .inr rfl }
  have hread : fresh.read "x m" = .ok namedBody :=
    read_eq_ok_iff.2 ⟨.standard, by decide +kernel, by decide +kernel⟩
  have hfunction := outcome_registerFunction hf (by decide +kernel) hread
  have hbuild : UnitSet.build {} [] = .ok fresh := by rfl
  have hnew : Told [] fresh := .build rfl hbuild
  have hdefined := Told.after (.registerFunction (.str "f") (.arr [.str "x"]) "x m") trivial hnew
    (outcome_discard hfunction)
  exact ⟨_, Told.after (.registerInputUnit "m" ⟨.real 1, .ofSymbol "m"⟩) trivial hdefined
    (outcome_discard (outcome_registerInputUnit (by decide +kernel) rfl _))⟩

theorem read_drifted : drifted.read "x m" = .ok unitBody := by
  have hunit : drifted.isUnit = fun word => decide ("m" = word) := by
    funext word
    rw [isUnit, drifted, Table.contains, Table.get?_insert]
    by_cases h : "m" = word
    · simp [h]
    · simp [h]
  rw [read_eq_ok_iff, hunit]
  exact ⟨.standard, by decide +kernel, by decide +kernel⟩

theorem load_drifted : load (ofCalculator drifted) = .ok (.real drifted.returned) := by
  have hl : drifted.Loadable :=
    { reserved := rfl
      answerVariable := fun _ _ hbound => by cases hbound
      bodies := fun e he => by
        obtain rfl := List.mem_singleton.1 he
        exact ⟨unitBody, read_drifted⟩ }
  have hnew : loadNew ⟨bodyOf drifted, .real, drifted.settings.toMembers⟩ = .ok drifted.returned :=
    loadNew_returned told_drifted.choose_spec.built hl
  rw [load_real, hnew]
  rfl

/-- **What a snapshot gives back of the functions.** If the snapshot of a calculator whose functions
were defined by texts can be loaded, the functions return. -/
theorem load_returns (w w' : AnyCalculator) (h : w.get fun c => ∃ past, Told past c)
    (hload : load (w.get ofCalculator) = .ok w') :
    w.Both (fun c c' => ∀ past, Told past c → FunctionsReturn past c c') w' := by
  cases w with
  | real c =>
    obtain ⟨past, hc⟩ : ∃ past, Told past c := h
    obtain ⟨hl, rfl⟩ := load_eq_returned hc.built (load_real c) hload
    exact fun past hc => functionsReturn_returned hc hl fun _ => exact_real c
  | complex c =>
    obtain ⟨past, hc⟩ : ∃ past, Told past c := h
    obtain ⟨hl, rfl⟩ := load_eq_returned hc.built (load_complex c) hload
    exact fun past hc => functionsReturn_returned hc hl fun hkind => by cases hkind

/-- The function returns, with the body that its text stands for now. -/
theorem drifted_returns : ∃ past, Told past drifted ∧
    FunctionsReturn past drifted drifted.returned := by
  obtain ⟨past, h⟩ := told_drifted
  exact ⟨past, h, load_returns (.real drifted) (.real drifted.returned) ⟨past, h⟩ load_drifted
    past h⟩

/-- Its body is not the one that it had. -/
theorem drifted_body : ∃ past c', Told past drifted ∧
    load (ofCalculator drifted) = .ok (.real c') ∧
    ∃ f f', drifted.functions.get? ("f", 1) = some f ∧ c'.functions.get? ("f", 1) = some f' ∧
      f'.body ≠ f.body := by
  obtain ⟨past, h⟩ := told_drifted
  have hget : drifted.functions.get? ("f", 1) = some early := rfl
  have hagain : drifted.returned.functions.get? ("f", 1) = some (early.again drifted) := by
    rw [returned, Table.get?_mapValues, hget]
    rfl
  refine ⟨past, drifted.returned, h, load_drifted, early, _, hget, hagain, ?_⟩
  have hbody : (early.again drifted).body = unitBody := by
    rw [again_of_read (f := early) read_drifted]
  rw [hbody]
  decide

end Snapshot
end QuantityCalculus
