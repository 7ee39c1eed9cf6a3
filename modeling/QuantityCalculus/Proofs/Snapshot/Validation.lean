/-
# What loading refuses

Loading checks what it is given, and a snapshot that is not well formed is refused with a fault of
the snapshot. Three things get past the checks. An integer that no double can hold overflows as a
scalar. Parameters that are no list of texts are not recognized as malformed: what cannot be gone
through, or holds lists or objects, ends as a value of the wrong type, and other values become
parameters that nothing can refer to. And a setting is taken with any value that the calculator
can work with, not only with one of the type of the setting.

**Main statement.** `load_refuses_or_validates`: apart from these, loading refuses with a fault of
the snapshot or gives a well-formed calculator.
-/

import QuantityCalculus.Proofs.Calculator.Answers
import QuantityCalculus.Proofs.Calculator.Built
import QuantityCalculus.Proofs.Snapshot.Faults

namespace QuantityCalculus

/-! ### Well-formed settings -/

namespace Settings

/-- Settings as they are meant to be: two different characters, a text, a positive integer and a
truth value. -/
structure WellFormed (s : Settings) : Prop where
  marks : ∃ a b : Char, a ≠ b ∧ s.separator = .str a.toString ∧ s.decimal = .str b.toString
  answerVariable : ∃ name, s.answerVariable = .str name
  maxCallDepth : ∃ n, s.maxCallDepth = .int n ∧ 1 ≤ n
  resolveOutputUnits : ∃ b, s.resolveOutputUnits = .bool b

/-- Whether a value is of the type of a setting. -/
def fits (name : String) (value : Json) : Bool :=
  match name, value with
  | "separator", .str _ | "decimal", .str _ | "answer_variable", .str _ => true
  | "max_call_depth", .int _ | "resolve_output_units", .bool _ => true
  | _, _ => false

/-- Settings of the right types. -/
structure Typed (s : Settings) : Prop where
  separator : ∃ t, s.separator = .str t
  decimal : ∃ t, s.decimal = .str t
  answerVariable : ∃ t, s.answerVariable = .str t
  maxCallDepth : ∃ n, s.maxCallDepth = .int n
  resolveOutputUnits : ∃ b, s.resolveOutputUnits = .bool b

theorem typed_default : ({} : Settings).Typed := ⟨⟨_, rfl⟩, ⟨_, rfl⟩, ⟨_, rfl⟩, ⟨_, rfl⟩, ⟨_, rfl⟩⟩

variable {s s' : Settings}

theorem Typed.set? (hs : s.Typed) {name : String} {value : Json} (hv : fits name value = true)
    (h : s.set? name value = some s') : s'.Typed := by
  unfold fits at hv
  split at hv
  · cases h
    exact { hs with separator := ⟨_, rfl⟩ }
  · cases h
    exact { hs with decimal := ⟨_, rfl⟩ }
  · cases h
    exact { hs with answerVariable := ⟨_, rfl⟩ }
  · cases h
    exact { hs with maxCallDepth := ⟨_, rfl⟩ }
  · cases h
    exact { hs with resolveOutputUnits := ⟨_, rfl⟩ }
  · cases hv

/-- Members of the right types make settings of the right types. -/
theorem typed_of_members {members : List (String × Json)}
    (hm : ∀ m ∈ members, fits m.1 m.2 = true) (h : ofMembers? members = some s) : s.Typed := by
  have key : ∀ (members : List (String × Json)) (s₀ : Settings), s₀.Typed →
      (∀ m ∈ members, fits m.1 m.2 = true) →
      members.foldlM (fun s m => s.set? m.1 m.2) s₀ = some s → s.Typed := by
    intro members
    induction members with
    | nil =>
      intro s₀ hs _ h
      cases h
      exact hs
    | cons m rest ih =>
      intro s₀ hs hm h
      rw [List.foldlM_cons] at h
      obtain ⟨s₁, hset, h⟩ := Option.bind_eq_some_iff.1 h
      exact ih s₁ (hs.set? (hm m (List.mem_cons_self ..)) hset)
        (fun d hd => hm d (List.mem_cons_of_mem m hd)) h
  exact key members {} typed_default hm h

theorem exists_char {t : String} (h : t.length = 1) : ∃ a : Char, t = a.toString := by
  obtain ⟨a, ha⟩ : ∃ a, t.toList = [a] := List.length_eq_one_iff.1 h
  exact ⟨a, String.ext_iff.2 (by simpa using ha)⟩

/-- **Settings of the right types that pass the check** are well formed. -/
theorem Typed.wellFormed (hs : s.Typed) (h : s.check = .ok ()) : s.WellFormed := by
  obtain ⟨hseparator, hdecimal, hsame, hbelow⟩ := parts_of_check h
  obtain ⟨⟨t, ht⟩, ⟨u, hu⟩, ha, ⟨n, hn⟩, hb⟩ := hs
  rw [ht] at hseparator hsame
  rw [hu] at hdecimal hsame
  rw [hn] at hbelow
  obtain ⟨a, rfl⟩ := exists_char (Except.ok.inj hseparator)
  obtain ⟨b, rfl⟩ := exists_char (Except.ok.inj hdecimal)
  refine ⟨⟨a, b, ?_, ht, hu⟩, ha, ⟨n, hn, ?_⟩, hb⟩
  · rintro rfl
    rw [Json.same_str_iff.2 rfl] at hsame
    cases hsame
  · exact Int.not_lt.1 (of_decide_eq_false (Except.ok.inj hbelow))

end Settings

namespace Snapshot

open Calculator

/-! ### Functions of the snapshot -/

/-- Parameters as they are meant to be: different texts. -/
def Plain (ps : List Parameter) : Prop := ∃ names : List String, names.Nodup ∧ ps = names.map .name

theorem nodup_of_distinct {names : List String}
    (h : Parameter.distinct (names.map .name) = true) : names.Nodup := by
  induction names with
  | nil => exact List.nodup_nil
  | cons n rest ih =>
    rw [List.map_cons, Parameter.distinct, Bool.and_eq_true] at h
    refine List.nodup_cons.2 ⟨fun hn => ?_, ih h.2⟩
    have hany : (rest.map Parameter.name).any (fun q => (Json.str n).same q.toJson) = true :=
      List.any_eq_true.2 ⟨.name n, List.mem_map_of_mem hn, Json.same_str_iff.2 rfl⟩
    rw [Parameter.toJson, hany] at h
    exact absurd h.1 (by decide)

/-- Parameters that pass the check are distinct. -/
theorem distinct_of_check {name : String} {ps : List Parameter}
    (h : Function.check name ps = .ok ()) : Parameter.distinct ps = true := by
  obtain ⟨-, -, hdistinct⟩ := Except.bind_eq_ok_iff.1 h
  cases hd : Parameter.distinct ps with
  | true => rfl
  | false =>
    rw [hd] at hdistinct
    cases hdistinct

theorem exists_names {ps : List Parameter} (h : ∀ p ∈ ps, ∃ n, p = .name n) :
    ∃ names : List String, ps = names.map .name := by
  induction ps with
  | nil => exact ⟨[], rfl⟩
  | cons p ps ih =>
    obtain ⟨n, rfl⟩ := h p (List.mem_cons_self ..)
    obtain ⟨names, rfl⟩ := ih fun q hq => h q (List.mem_cons_of_mem _ hq)
    exact ⟨n :: names, rfl⟩

/-- Parameters that are listed as texts are names. -/
theorem names_of_parametersOf {raw : Json} {ps : List Parameter} (h : parametersOf raw = .ok ps)
    (ht : listsTexts raw = true) : ∃ names : List String, ps = names.map .name := by
  cases raw with
  | str s =>
    cases h
    exact ⟨s.toList.map Char.toString, by simp⟩
  | obj members =>
    cases h
    exact ⟨members.map Prod.fst, by simp⟩
  | arr items =>
    refine exists_names fun p hp => ?_
    obtain ⟨v, hv, hp⟩ := Except.mem_of_mapM h p hp
    have htext := List.all_eq_true.1 ht v hv
    cases v with
    | str s =>
      cases hp
      exact ⟨s, rfl⟩
    | _ => cases htext
  | _ => cases h

variable {α : Type}

/-- A property of all defined functions. -/
def AllFunctions (Q : Function → Prop) (c : Calculator α) : Prop :=
  ∀ e ∈ c.functions.toList, Q e.2

variable {Q : Function → Prop}

/-- A function enters with the parameters that it is given, which have passed the check. -/
theorem keeps_loadFunction {raw : Json}
    (hQ : ∀ f : Function, parametersOf ((raw.get? "arg").getD (.arr [])) = .ok f.parameters →
      Parameter.distinct f.parameters = true → Q f) :
    Keeps (AllFunctions Q) (fun _ => True) (loadFunction raw : Step α Unit) := by
  unfold loadFunction
  split
  · refine (keeps_registerFunction fun {c s f} _ hf hs => ?_).discard
    exact Table.forall_insert hs (hQ f hf.parameters (distinct_of_check hf.check))
  · exact Keeps.throw _

variable [Scalar α]

theorem accepts_allFunctions : Accepts (AllFunctions (α := α) Q) where
  variableSet _ _ hc := hc
  constantSet _ _ hc := hc
  inputUnitSet _ _ hc := hc
  outputUnitSet _ hc := hc
  recorded _ hc := hc

/-- Only the part with functions adds functions. -/
theorem keeps_loadParts {body : List (String × Json)}
    (hQ : ∀ raw ∈ itemsOf body "user_functions", ∀ f : Function,
      parametersOf ((raw.get? "arg").getD (.arr [])) = .ok f.parameters →
        Parameter.distinct f.parameters = true → Q f) :
    Keeps (AllFunctions Q) (fun _ => True) (loadParts body : Step α Unit) :=
  accepts_allFunctions.loadParts fun _ hitems raw hraw =>
    keeps_loadFunction (hQ raw (listPart_eq_ok hitems ▸ hraw))

/-! ### Whole snapshots -/

/-- What is well formed about a calculator from a snapshot with such a body: its settings pass the
check, and no function has two parameters that are the same; the settings are of their types if
the members are, and the parameters are texts if texts are listed. -/
structure Validated (body : List (String × Json)) (settings : Settings) (functions : Functions) :
    Prop where
  check : settings.check = .ok ()
  settings : (∀ m ∈ membersOf body "settings", Settings.fits m.1 m.2 = true) → settings.WellFormed
  distinct : ∀ e ∈ functions.toList, Parameter.distinct e.2.parameters = true
  parameters : (∀ v ∈ parametersIn body, listsTexts v = true) →
    ∀ e ∈ functions.toList, Plain e.2.parameters

/-- A refusal with a fault of the snapshot, or one of the two faults that get past it. -/
def RefusedOr (body : List (String × Json)) (fault : Fault) : Prop :=
  (∃ cause, fault = .error (.snapshot cause)) ∨
    (fault = .overflow ∧ ∃ v ∈ scalarsIn body, scalarTooLarge v = true) ∨
    ∃ why, fault = .wrongType why ∧ ∃ v ∈ parametersIn body, unlistable v = true

theorem header_eq_ok {data : Json} {h : Header} (hh : header data = .ok h) :
    h.body = bodyMembers data ∧ h.settings = membersOf h.body "settings" := by
  unfold header at hh
  split at hh
  · rename_i body hbody
    obtain ⟨kind, -, hh⟩ := Except.bind_eq_ok_iff.1 hh
    obtain ⟨settings, hsettings, hh⟩ := Except.bind_eq_ok_iff.1 hh
    split at hh
    · cases hh
      refine ⟨?_, objectPart_eq_ok hsettings⟩
      rw [bodyMembers, hbody]
    · cases hh
  · cases hh

theorem start_eq_ok {members : List (String × Json)} {c : Calculator α}
    (h : start members = .ok c) :
    ((Settings.ofMembers? members).getD {}).check = .ok () ∧
      c = Calculator.withBuiltins { settings := (Settings.ofMembers? members).getD {} } := by
  unfold start at h
  split at h
  · rename_i c₀ hcreate
    obtain ⟨hcheck, rfl⟩ := Calculator.create_eq_ok hcreate
    cases h
    exact ⟨hcheck, rfl⟩
  · cases h

theorem loadNew_eq_ok {h : Header} {c : Calculator α} (hload : loadNew h = .ok c) :
    ∃ c₀, start h.settings = .ok c₀ ∧ outcome (loadBody h.body) c₀ = (.ok (), c) := by
  obtain ⟨c₀, hc₀, hload⟩ := Except.bind_eq_ok_iff.1 hload
  refine ⟨c₀, Except.mapError_eq_ok_iff.1 hc₀, ?_⟩
  unfold outcome
  generalize (loadBody h.body).run.run c₀ = ended at hload ⊢
  obtain ⟨r, after⟩ := ended
  obtain ⟨_, hr, hload⟩ := Except.bind_eq_ok_iff.1 hload
  cases hload
  rw [hr]

/-- A listed parameter of a function, or the empty list where it has none. -/
theorem listsTexts_arg {body : List (String × Json)} {raw : Json}
    (hraw : raw ∈ itemsOf body "user_functions")
    (ht : ∀ v ∈ parametersIn body, listsTexts v = true) :
    listsTexts ((raw.get? "arg").getD (.arr [])) = true := by
  cases harg : raw.get? "arg" with
  | none => rfl
  | some v => exact ht v (List.mem_filterMap.2 ⟨raw, hraw, harg⟩)

/-- **A calculator that was loaded is well formed,** as far as the snapshot is of the right
types. -/
theorem validated_of_loadNew {h : Header} (hs : h.settings = membersOf h.body "settings")
    {c : Calculator α} (hload : loadNew h = .ok c) : Validated h.body c.settings c.functions := by
  obtain ⟨c₀, hc₀, hbody⟩ := loadNew_eq_ok hload
  obtain ⟨hcheck, rfl⟩ := start_eq_ok hc₀
  generalize hsettings : (Settings.ofMembers? h.settings).getD {} = settings at hcheck hbody
  have same : Stable (fun _ => True) fun c : Calculator α => c.settings = settings :=
    ⟨fun _ _ => trivial, fun hchange hc => hchange.settings.trans hc⟩
  have hkept : c.settings = settings := by
    have hkept := (same.loadBody h.body (Calculator.withBuiltins { settings }) rfl).1
    rwa [hbody] at hkept
  have hparts : Keeps (AllFunctions fun f => Parameter.distinct f.parameters = true ∧
      ((∀ v ∈ parametersIn h.body, listsTexts v = true) → Plain f.parameters))
      (fun _ => True) (loadParts h.body : Step α Unit) := by
    refine keeps_loadParts fun raw hraw f hps hdistinct => ⟨hdistinct, fun ht => ?_⟩
    obtain ⟨names, hnames⟩ := names_of_parametersOf hps (listsTexts_arg hraw ht)
    rw [hnames] at hdistinct
    exact ⟨names, nodup_of_distinct hdistinct, hnames⟩
  have hloaded := (Keeps.tryCatch hparts (fun fault => Keeps.throw (asSnapshotFault fault))
    (Calculator.withBuiltins { settings }) Table.forall_empty).1
  rw [← loadBody, hbody] at hloaded
  have hfunctions : ∀ e ∈ c.functions.toList, _ := hloaded
  refine ⟨hkept ▸ hcheck, fun hfits => ?_, fun e he => (hfunctions e he).1,
    fun ht e he => (hfunctions e he).2 ht⟩
  rw [hkept]
  refine Settings.Typed.wellFormed ?_ hcheck
  rw [← hsettings]
  cases hm : Settings.ofMembers? h.settings with
  | none => exact Settings.typed_default
  | some s => exact Settings.typed_of_members (hs ▸ hfits) hm

variable [Checked α] {fault : Fault}

theorem refusedOr_of_loadBody {body : List (String × Json)} {c : Calculator α} (hc : Marked c)
    (h : (outcome (loadBody body) c).1 = .error fault) : RefusedOr body fault := by
  unfold loadBody at h
  rw [outcome_tryCatch] at h
  cases ho : outcome (loadParts body) c with
  | mk r c' =>
    rw [ho] at h
    cases r with
    | ok _ => cases h
    | error e =>
      have he : LoadFault body e := failsWith_loadParts body c hc e (by rw [ho])
      cases h
      rcases he with ⟨cause, rfl⟩ | ⟨rfl, hover⟩ | ⟨why, rfl, htype⟩
      · refine .inl ?_
        cases cause <;> exact ⟨_, rfl⟩
      · exact .inr (.inl ⟨rfl, hover⟩)
      · exact .inr (.inr ⟨why, rfl, htype⟩)

theorem refusedOr_of_loadNew {h : Header} (hload : (loadNew h : Except Fault (Calculator α)) =
    .error fault) : RefusedOr h.body fault := by
  rcases Except.bind_eq_error hload with hload | ⟨c, hc, hload⟩
  · obtain ⟨_, -, rfl⟩ := Except.mapError_eq_error_iff.1 hload
    exact .inl ⟨_, rfl⟩
  · obtain ⟨hcheck, rfl⟩ := start_eq_ok (Except.mapError_eq_ok_iff.1 hc)
    have hmarked : Marked (α := α) (Calculator.withBuiltins
        { settings := (Settings.ofMembers? h.settings).getD {} }) := (Settings.of_check hcheck).1
    refine refusedOr_of_loadBody hmarked ?_
    rcases Except.bind_eq_error hload with hload | ⟨_, -, hload⟩
    · exact hload
    · cases hload

end Snapshot

open Snapshot

/-- **Loading refuses or validates.** For every JSON value, loading fails with a fault of the
snapshot, overflows at an integer that no double can hold, or ends at parameters that cannot be
listed; or it gives a calculator that is well formed as far as the snapshot is of the right
types. -/
theorem load_refuses_or_validates (data : Json) :
    (∀ fault, load data = .error fault → RefusedOr (bodyMembers data) fault) ∧
      ∀ w : AnyCalculator, load data = .ok w →
        Validated (bodyMembers data) (w.get fun c => c.settings) (w.get fun c => c.functions) := by
  unfold load
  cases hh : header data with
  | error cause =>
    refine ⟨fun fault h => ?_, fun w h => by cases h⟩
    cases h
    exact .inl ⟨_, rfl⟩
  | ok h =>
    obtain ⟨hbody, hsettings⟩ := header_eq_ok hh
    rw [← hbody]
    refine ⟨fun fault hload => ?_, fun w hload => ?_⟩
    · rcases Except.bind_eq_error hload with hload | ⟨h', hh', hload⟩
      · obtain ⟨_, hload, -⟩ := Except.mapError_eq_error_iff.1 hload
        cases hload
      · cases hh'
        split at hload
        · rcases Except.bind_eq_error hload with hload | ⟨_, -, hload⟩
          · exact refusedOr_of_loadNew hload
          · cases hload
        · rcases Except.bind_eq_error hload with hload | ⟨_, -, hload⟩
          · exact refusedOr_of_loadNew hload
          · cases hload
    · obtain ⟨h', hh', hload⟩ := Except.bind_eq_ok_iff.1 hload
      cases hh'
      split at hload
      · obtain ⟨c, hc, hload⟩ := Except.bind_eq_ok_iff.1 hload
        cases hload
        exact validated_of_loadNew hsettings hc
      · obtain ⟨c, hc, hload⟩ := Except.bind_eq_ok_iff.1 hload
        cases hload
        exact validated_of_loadNew hsettings hc

/-- A snapshot with nothing but one part. -/
def withPart (name : String) (part : Json) : Json := .obj [("workspace", .obj [(name, part)])]

theorem header_withPart {name : String} {part : Json} (hname : name ≠ "settings") :
    header (withPart name part) = .ok ⟨[(name, part)], .real, []⟩ := by
  simp [header, withPart, Json.get?, Json.member?, kindOf, objectPart, unknownSettings, hname]

theorem header_withSetting {name : String} {value : Json}
    (hname : (({} : Settings).set? name .null).isNone = false) :
    header (withPart "settings" (.obj [(name, value)])) =
      .ok ⟨[("settings", .obj [(name, value)])], .real, [(name, value)]⟩ := by
  simp [header, withPart, Json.get?, Json.member?, kindOf, objectPart, unknownSettings, hname]

/-- The settings of a snapshot that only has a call depth are well formed. -/
theorem load_validates_depth :
    ∃ w, load (withPart "settings" (.obj [("max_call_depth", .int 2)])) = .ok w ∧
      (w.get fun c => c.settings).WellFormed := by
  let settings : Settings := { maxCallDepth := .int 2 }
  let w : AnyCalculator := .real (Calculator.withBuiltins { settings })
  have hload : load (withPart "settings" (.obj [("max_call_depth", .int 2)])) = .ok w := by
    rw [load, header_withSetting rfl]
    rfl
  refine ⟨w, hload, ((load_refuses_or_validates _).2 w hload).settings fun m hm => ?_⟩
  cases List.mem_singleton.1 hm
  rfl

/-- A function whose parameters are a number. -/
def countedParameters : Json :=
  withPart "user_functions" (.arr [.obj [("n", .str "f"), ("arg", .int 5), ("b", .str "1")]])

/-- **Some malformed snapshots are not refused:** parameters that are a number end as a value of
the wrong type, and a number is taken as the name of the answer variable. -/
theorem load_malformed :
    load countedParameters = .error (.wrongType "the parameters must be a list") ∧
      ∃ w, load (withPart "settings" (.obj [("answer_variable", .int 5)])) = .ok w ∧
        ¬ (w.get fun c => c.settings).WellFormed := by
  let w : AnyCalculator :=
    .real (Calculator.withBuiltins { settings := { answerVariable := .int 5 } })
  refine ⟨?_, w, ?_, fun h => ?_⟩
  · rw [load, countedParameters, header_withPart (by decide)]
    rfl
  · rw [load, header_withSetting rfl]
    rfl
  · obtain ⟨name, hname⟩ := h.answerVariable
    cases hname

end QuantityCalculus
