/-
# What is saved can be loaded again, and when not

Whatever was done to a calculator, its units and constants pass the checks of their registration
once more. Its variables need not: an assignment looks at no name, and neither does the answer
variable, while a snapshot binds its variables like anything else. Nor need its functions: their
texts are read with the units that are there when the snapshot is taken, and these may be others
than those that were there when the functions were defined.

**Main statement.** `load_iff_loadable`: a calculator that is built can be loaded again exactly if
no variable has the reserved name, the answer variable has a valid name if it is bound, and the
texts of all functions can be read.
-/

import QuantityCalculus.Proofs.Calculator.Built
import QuantityCalculus.Proofs.Snapshot.Load

namespace QuantityCalculus

variable {α : Type}

/-- A calculator that comes back from its snapshot. -/
structure Calculator.Loadable (c : Calculator α) : Prop where
  /-- the reserved word was assigned by no expression, or its variable was removed again -/
  reserved : c.globals.contains Name.reserved = false
  /-- the answer variable has a valid name, unless no answer was kept in it -/
  answerVariable : ∀ name, c.settings.answerVariable = .str name →
    c.globals.contains name = true → Name.isWellFormed name = true
  /-- the texts of the functions can be read with the units that there are -/
  bodies : ∀ e ∈ c.functions.toList, ∃ body, c.read e.2.bodyText = .ok body

/-- The calculator that a snapshot of a calculator is loaded into. -/
def Calculator.emptied [Scalar α] (c : Calculator α) : Calculator α :=
  { settings := c.settings, builtins := Builtin.ofKind (Scalar.kind α) }

namespace Snapshot

open Calculator

variable [Scalar α] {c : Calculator α}

/-! ### Entries -/

/-- Calculators that read texts as a given one does. -/
def ReadsAs (c s : Calculator α) : Prop := s.read = c.read

/-- A constant can always be bound again under its name. -/
theorem decides_loadConstant [Portable α] {name : String} (hn : Name.check name .constant = .ok ())
    (v : Variable α) :
    Decides (ReadsAs c) True (loadConstant name (ofVariable v) : Step α Unit) := by
  intro s hs
  obtain ⟨w, hw⟩ := exists_toVariable v
  have hset := outcome_setConstant (c := s) hn w.value w.description
  rw [loadConstant, hw]
  show ReadsAs c (outcome (setConstant name (pure w.value) w.description) s).2 ∧
    ((outcome (setConstant name (pure w.value) w.description) s).1 = .ok () ↔ True)
  rw [hset]
  exact ⟨hs, by simp⟩

/-- A variable can be bound again under a valid name only. -/
theorem decides_loadVariable [Portable α] (name : String) (v : Variable α) :
    Decides (ReadsAs c) (Name.check name .variable = .ok ())
      (loadVariable name (ofVariable v) : Step α Unit) := by
  intro s hs
  obtain ⟨w, hw⟩ := exists_toVariable v
  rw [loadVariable, hw]
  show ReadsAs c (outcome (setVariable name (pure w.value) w.description) s).2 ∧
    ((outcome (setVariable name (pure w.value) w.description) s).1 = .ok () ↔
      Name.check name .variable = .ok ())
  constructor
  · have hkeeps : Keeps (ReadsAs c) (fun _ => True)
        (setVariable name (pure w.value) w.description : Step α Unit) :=
      (checkName_lift name .variable).bind fun _ _ =>
        (Keeps.pure (R := fun _ => True) trivial).bind fun _ _ => Keeps.modify fun _ hs => hs
    exact (hkeeps s hs).1
  · constructor
    · intro hok
      obtain ⟨_, hchecked, -⟩ := ok_bind_iff.1 hok
      exact (checkName_lift (P := fun _ => True) name .variable s trivial).2 _ hchecked
    · intro hn
      rw [outcome_setVariable hn]

omit [Scalar α] in
/-- A function can be registered again if its text can be read. -/
theorem decides_loadFunction {f : Function} (hf : f.Sound) :
    Decides (ReadsAs c) (∃ body, c.read f.bodyText = .ok body)
      (loadFunction (ofFunction f) : Step α Unit) := by
  intro s hs
  have hload : outcome (loadFunction (ofFunction f)) s =
      outcome (discard (registerFunction (.str f.name)
        (.arr (f.parameters.map Parameter.toJson)) f.bodyText)) s := rfl
  have hregister := outcome_registerFunction_text hf s
  have hread : s.read f.bodyText = c.read f.bodyText := congrFun hs _
  rw [hread] at hregister
  rw [hload]
  cases hbody : c.read f.bodyText with
  | error fault =>
    rw [hbody] at hregister
    have hdiscard : outcome (discard (registerFunction (.str f.name)
        (.arr (f.parameters.map Parameter.toJson)) f.bodyText)) s = (.error fault, s) := by
      refine (outcome_bind _ _ _).trans ?_
      rw [hregister]
    rw [hdiscard]
    exact ⟨hs, by simp⟩
  | ok body =>
    rw [hbody] at hregister
    rw [outcome_discard hregister]
    exact ⟨hs, by simp⟩

/-! ### Parts -/

variable [Portable α]

/-- What is loaded behind the units, where every variable is kept under a name. -/
def loadDefinitions (c : Calculator α) : Step α Unit := do
  (c.constants.toList.map fun e => (e.1, ofVariable e.2)).forM fun e => loadConstant e.1 e.2
  (c.globals.toList.map fun e => (e.1, ofVariable e.2)).forM fun e => loadVariable e.1 e.2
  (c.functions.toList.map fun e => ofFunction e.2).forM loadFunction

/-- The calculator with the units of a snapshot. -/
def withUnits (c : Calculator α) : Calculator α :=
  { c.emptied with
    inputUnits := c.inputUnits.mapValues Quantity.reloaded
    outputUnits := c.outputUnits.mapValues OutputUnit.reloaded }

/-- The units of a snapshot load. -/
theorem outcome_loadParts_units (hc : c.Sound) (hanswers : c.answers = []) :
    outcome (loadParts (bodyOf c)) c.emptied = outcome (loadDefinitions c) (withUnits c) := by
  have hvariables : (c.namedVariables.map fun e => (memberName e.1, ofVariable e.2)) =
      c.globals.toList.map fun e => (e.1, ofVariable e.2) := by
    rw [namedVariables, hanswers, List.append_nil, List.map_map]
    rfl
  have hfunctions : c.functions.values.map ofFunction =
      c.functions.toList.map fun e => ofFunction e.2 := by
    rw [Table.values, List.map_map]
    rfl
  have hinputs := outcome_inputUnits c.emptied hc
  have houtputs := outcome_outputUnits (withUnits c) hc
  rw [loadParts, bodyOf, hvariables, hfunctions]
  refine (outcome_bind_ok rfl).trans ((outcome_bind_ok hinputs).trans ?_)
  exact (outcome_bind_ok rfl).trans ((outcome_bind_ok houtputs).trans rfl)

omit [Portable α] in
theorem readsAs_withUnits (c : Calculator α) : ReadsAs c (withUnits c) := by
  have hunit : (withUnits c).isUnit = c.isUnit :=
    funext fun word => Table.contains_mapValues _ _ word
  funext text
  rw [Calculator.read, hunit]
  rfl

/-- **The definitions of a snapshot load** exactly if all names of variables are valid and the texts
of all functions can be read. -/
theorem decides_loadDefinitions (hc : c.Sound) :
    Decides (ReadsAs c)
      ((∀ e ∈ c.globals.toList, Name.check e.1 .variable = .ok ()) ∧
        ∀ e ∈ c.functions.toList, ∃ body, c.read e.2.bodyText = .ok body)
      (loadDefinitions c) := by
  have hconstants : Decides (ReadsAs c) (∀ e ∈ c.constants.toList, True)
      ((c.constants.toList.map fun e => (e.1, ofVariable e.2)).forM
        fun e => loadConstant e.1 e.2 : Step α Unit) :=
    Decides.forM fun e he => decides_loadConstant (hc.constants e he) e.2
  have hvariables : Decides (ReadsAs c)
      (∀ e ∈ c.globals.toList, Name.check e.1 .variable = .ok ())
      ((c.globals.toList.map fun e => (e.1, ofVariable e.2)).forM
        fun e => loadVariable e.1 e.2 : Step α Unit) :=
    Decides.forM fun e _ => decides_loadVariable e.1 e.2
  have hfunctions : Decides (ReadsAs c)
      (∀ e ∈ c.functions.toList, ∃ body, c.read e.2.bodyText = .ok body)
      ((c.functions.toList.map fun e => ofFunction e.2).forM loadFunction : Step α Unit) :=
    Decides.forM fun e he => decides_loadFunction (hc.functions e he).2
  intro s hs
  obtain ⟨hkept, hok⟩ := hconstants.bind (hvariables.bind hfunctions) s hs
  exact ⟨hkept, hok.trans (and_iff_right fun _ _ => trivial)⟩

omit [Portable α] in
/-- Nothing but its parts decides whether a snapshot loads, if the settings are accepted. -/
theorem exists_loadNew_iff (hs : c.settings.check = .ok ()) :
    (∃ c' : Calculator α, loadNew ⟨bodyOf c, Scalar.kind α, c.settings.toMembers⟩ = .ok c') ↔
      (outcome (loadParts (bodyOf c)) c.emptied).1 = .ok () := by
  have hstart : (start c.settings.toMembers : Except SnapshotError (Calculator α)) =
      .ok c.emptied :=
    start_toMembers hs
  have hnew : (loadNew ⟨bodyOf c, Scalar.kind α, c.settings.toMembers⟩ :
      Except Fault (Calculator α)) =
        (outcome (loadBody (bodyOf c)) c.emptied).1 >>= fun _ =>
          .ok (outcome (loadBody (bodyOf c)) c.emptied).2 := by
    rw [loadNew, hstart]
    rfl
  rw [hnew, loadBody, outcome_tryCatch]
  cases outcome (loadParts (bodyOf c)) c.emptied with
  | mk r c' =>
    cases r with
    | ok _ => exact ⟨fun _ => rfl, fun _ => ⟨c', rfl⟩⟩
    | error fault =>
      constructor
      · rintro ⟨_, h⟩
        cases h
      · intro h
        cases h

/-! ### Calculators -/

omit [Scalar α] [Portable α] in
/-- The names of the variables that make a difference are the reserved one and that of the answer
variable. -/
theorem names_iff (hn : c.Named) :
    (∀ e ∈ c.globals.toList, Name.check e.1 .variable = .ok ()) ↔
      c.globals.contains Name.reserved = false ∧
        ∀ name, c.settings.answerVariable = .str name → c.globals.contains name = true →
          Name.isWellFormed name = true := by
  constructor
  · intro h
    have hcheck (name : String) (hname : c.globals.contains name = true) :
        Name.check name .variable = .ok () := by
      obtain ⟨e, he, rfl⟩ := List.mem_map.1 (Table.mem_keys_iff.2 hname)
      exact h e he
    constructor
    · refine Bool.eq_false_iff.2 fun hreserved => ?_
      have hrefused : Name.check Name.reserved .variable ≠ .ok () := by decide +kernel
      exact hrefused (hcheck _ hreserved)
    · intro name _ hname
      exact (Name.check_eq_ok_iff.1 (hcheck name hname)).1
  · rintro ⟨hreserved, hanswer⟩ e he
    have hbound : c.globals.contains e.1 = true :=
      Table.mem_keys_iff.1 (List.mem_map.2 ⟨e, he, rfl⟩)
    have hne : e.1 ≠ Name.reserved := by
      intro heq
      rw [heq, hreserved] at hbound
      cases hbound
    rcases hn.globals e he with (hchecked | heq) | hname
    · exact hchecked
    · exact absurd heq hne
    · exact Name.check_eq_ok_iff.2 ⟨hanswer _ hname hbound, hne⟩

/-- A calculator that is built loads exactly if it is loadable, whatever its scalars are. -/
theorem exists_load_iff {wrap : Calculator α → AnyCalculator} (h : c.Built)
    (hload : load (ofCalculator c) =
      loadNew ⟨bodyOf c, Scalar.kind α, c.settings.toMembers⟩ >>= fun c' => .ok (wrap c')) :
    (∃ w', load (ofCalculator c) = .ok w') ↔ c.Loadable := by
  have hn := h.named
  have hc := h.reachable.sound
  have hdefinitions := (decides_loadDefinitions hc _ (readsAs_withUnits c)).2
  calc (∃ w', load (ofCalculator c) = .ok w')
      ↔ (outcome (loadParts (bodyOf c)) c.emptied).1 = .ok () := by
        rw [hload, Except.exists_bind_ok_iff, exists_loadNew_iff hn.settings]
    _ ↔ (∀ e ∈ c.globals.toList, Name.check e.1 .variable = .ok ()) ∧
          ∀ e ∈ c.functions.toList, ∃ body, c.read e.2.bodyText = .ok body := by
        rw [outcome_loadParts_units hc hn.answers, hdefinitions]
    _ ↔ c.Loadable := by
        rw [names_iff hn]
        exact ⟨fun ⟨⟨hr, ha⟩, hb⟩ => ⟨hr, ha, hb⟩,
          fun hl => ⟨⟨hl.reserved, hl.answerVariable⟩, hl.bodies⟩⟩

/-- **A calculator that is built can be loaded from its snapshot** exactly if no variable has the
reserved name, the answer variable has a valid name if it is bound, and the texts of all functions
can be read with the units that there are. -/
theorem load_iff_loadable (w : AnyCalculator) (h : w.get fun c => c.Built) :
    (∃ w', load (w.get ofCalculator) = .ok w') ↔ w.get fun c => c.Loadable := by
  cases w with
  | real c =>
    have hload : load (ofCalculator c) =
        loadNew ⟨bodyOf c, .real, c.settings.toMembers⟩ >>= fun c' => .ok (.real c') := by
      rw [load, header_ofCalculator]
      rfl
    exact exists_load_iff h hload
  | complex c =>
    have hload : load (ofCalculator c) =
        loadNew ⟨bodyOf c, .complex, c.settings.toMembers⟩ >>= fun c' => .ok (.complex c') := by
      rw [load, header_ofCalculator]
      rfl
    exact exists_load_iff h hload

/-- The lengths can be loaded again: their function is read with the unit that is still there. -/
theorem load_lengths_again :
    ∃ w', load (AnyCalculator.get (.real (lengths 2.5)) ofCalculator) = .ok w' := by
  have hloadable : (lengths 2.5).Loadable :=
    { reserved := by decide +kernel
      answerVariable := fun name hname hbound => by
        cases hname
        have hunbound : (lengths 2.5).globals.contains "" = false := by decide +kernel
        rw [hunbound] at hbound
        cases hbound
      bodies := fun e he => by
        obtain rfl := List.mem_singleton.1 he
        exact ⟨areaBody, read_area rfl rfl⟩ }
  exact (load_iff_loadable (.real (lengths 2.5)) (built_lengths 2.5)).2 hloadable

/-- A calculator in which the reserved word was assigned to is built, but it cannot be loaded. -/
theorem not_loaded_reserved :
    ∃ c : Calculator Float, c.Built ∧ c = (outcome (Operation.evaluate "in = 5").step fresh).2 ∧
      ∀ w', load (ofCalculator c) ≠ .ok w' := by
  refine ⟨_, .step (.evaluate "in = 5") trivial built_fresh, rfl, fun w' h => ?_⟩
  have hfails : (load (ofCalculator (outcome (Operation.evaluate "in = 5").step fresh).2)).toBool =
      false := by
    decide +kernel
  rw [h] at hfails
  cases hfails

end Snapshot
end QuantityCalculus
