/-
# Faults of loading

What the parts of a snapshot hold is given by arbitrary JSON values, and the values of one part are
refused one by one: a quantity without a scalar, a name that is not valid, a text that cannot be
read. All of these are calculation errors. Only two things end otherwise: a scalar that is an
integer too large for a double, and parameters that cannot be listed.

**Main statement.** `failsWith_loadParts`: the faults of loading the parts of a snapshot.
-/

import QuantityCalculus.Proofs.Calculator.Reachable
import QuantityCalculus.Proofs.Except

namespace QuantityCalculus

namespace Snapshot

open Calculator

/-! ### What a snapshot holds -/

/-- The body of a snapshot. -/
def bodyMembers (data : Json) : List (String × Json) :=
  match data.get? "workspace" with
  | some (.obj body) => body
  | _ => []

/-- The members of a part that is an object. -/
def membersOf (body : List (String × Json)) (part : String) : List (String × Json) :=
  match Json.member? part body with
  | some (.obj members) => members
  | _ => []

/-- The items of a part that is a list. -/
def itemsOf (body : List (String × Json)) (part : String) : List Json :=
  match Json.member? part body with
  | some (.arr items) => items
  | _ => []

/-- The scalar of a quantity. -/
def scalarIn (raw : Json) : Option Json := raw.get? "s"

/-- The scalars of units, constants and variables. -/
def scalarsIn (body : List (String × Json)) : List Json :=
  ((membersOf body "input_units").map Prod.snd ++ itemsOf body "output_units").filterMap scalarIn ++
    ((membersOf body "constants" ++ membersOf body "variables").map Prod.snd).filterMap fun v =>
      (v.get? "q").bind scalarIn

/-- The parameters of functions. -/
def parametersIn (body : List (String × Json)) : List Json :=
  (itemsOf body "user_functions").filterMap fun raw => raw.get? "arg"

/-- An integer that no double can hold. -/
def tooLarge : Json → Bool
  | .int n => (Number.ofInt? n).isNone
  | _ => false

/-- A scalar with such an integer as a part. -/
def scalarTooLarge : Json → Bool
  | .arr [a, b] => tooLarge a || tooLarge b
  | v => tooLarge v

/-- Parameters that cannot be gone through, or that hold lists or objects. -/
def unlistable : Json → Bool
  | .str _ | .obj _ => false
  | .arr items => items.any fun
    | .arr _ | .obj _ => true
    | _ => false
  | _ => true

/-- Parameters that are texts. -/
def listsTexts : Json → Bool
  | .arr items => items.all fun
    | .str _ => true
    | _ => false
  | _ => true

theorem objectPart_eq_ok {body members : List (String × Json)} {part : String}
    (h : objectPart body part = .ok members) : members = membersOf body part := by
  unfold objectPart at h
  unfold membersOf
  split at h
  · rename_i hp
    cases h
    rw [hp]
  · rename_i hp
    cases h
    rw [hp]
  · cases h

theorem listPart_eq_ok {body : List (String × Json)} {items : List Json} {part : String}
    (h : listPart body part = .ok items) : items = itemsOf body part := by
  unfold listPart at h
  unfold itemsOf
  split at h
  · rename_i hp
    cases h
    rw [hp]
  · rename_i hp
    cases h
    rw [hp]
  · cases h

/-! ### Faults of values -/

/-- The faults of a scalar: it is refused, or it is too large. -/
def ScalarFault (raw : Json) (fault : Fault) : Prop :=
  (∃ cause, fault = .error cause) ∨ fault = .overflow ∧ scalarTooLarge raw = true

/-- Kinds of scalars that JSON values are refused for or too large for. -/
class Checked (α : Type) [Scalar α] : Prop where
  fault_ofJson : ∀ raw fault, (Scalar.ofJson raw : Except Fault α) = .error fault →
    ScalarFault raw fault

theorem doubleOfJson_fault {raw : Json} {fault : Fault}
    (h : doubleOfJson? raw = some (.error fault)) : fault = .overflow ∧ tooLarge raw = true := by
  cases raw with
  | int n =>
    simp only [doubleOfJson?] at h
    split at h
    · cases h
    · rename_i hn
      cases h
      exact ⟨rfl, by rw [tooLarge, hn]; rfl⟩
  | _ => cases h

theorem scalarTooLarge_of_tooLarge {raw : Json} (h : tooLarge raw = true) :
    scalarTooLarge raw = true := by
  cases raw with
  | int n => exact h
  | _ => cases h

instance : Checked Float where
  fault_ofJson raw fault h := by
    have h : (doubleOfJson? raw).getD (.error (CalcError.scalar (.real raw))) = .error fault := h
    cases hd : doubleOfJson? raw with
    | none =>
      rw [hd] at h
      cases h
      exact .inl ⟨_, rfl⟩
    | some x =>
      rw [hd] at h
      obtain rfl : x = .error fault := h
      obtain ⟨rfl, hlarge⟩ := doubleOfJson_fault hd
      exact .inr ⟨rfl, scalarTooLarge_of_tooLarge hlarge⟩

instance : Checked Complex where
  fault_ofJson raw fault h := by
    have h : complexOfJson raw = .error fault := h
    unfold complexOfJson at h
    dsimp only at h
    split at h
    · rename_i a b
      split at h
      · rename_i x y hx hy
        rcases Except.bind_eq_error h with h | ⟨_, -, h⟩
        · subst h
          obtain ⟨rfl, hlarge⟩ := doubleOfJson_fault hx
          exact .inr ⟨rfl, by rw [scalarTooLarge, hlarge, Bool.true_or]⟩
        · rcases Except.bind_eq_error h with h | ⟨_, -, h⟩
          · subst h
            obtain ⟨rfl, hlarge⟩ := doubleOfJson_fault hy
            exact .inr ⟨rfl, by rw [scalarTooLarge, hlarge, Bool.or_true]⟩
          · cases h
      · cases h
        exact .inl ⟨_, rfl⟩
    · split at h
      · rename_i x hx
        cases x with
        | error e =>
          cases h
          obtain ⟨rfl, hlarge⟩ := doubleOfJson_fault hx
          exact .inr ⟨rfl, scalarTooLarge_of_tooLarge hlarge⟩
        | ok x => cases h
      · cases h
        exact .inl ⟨_, rfl⟩

variable {raw : Json} {fault : Fault}

section

variable {α : Type} [Scalar α] [Checked α]

theorem fault_toScalar (h : (toScalar raw : Except Fault α) = .error fault) :
    ScalarFault raw fault := by
  unfold toScalar at h
  split at h
  · cases h
    exact .inl ⟨_, rfl⟩
  · exact Checked.fault_ofJson raw fault h

/-- The faults of a value whose scalar may be there. -/
def ValueFault (scalar? : Option Json) (fault : Fault) : Prop :=
  (∃ cause, fault = .error cause) ∨
    fault = .overflow ∧ ∃ v, scalar? = some v ∧ scalarTooLarge v = true

theorem fault_toQuantity (h : (toQuantity raw : Except Fault (Quantity α)) = .error fault) :
    ValueFault (scalarIn raw) fault := by
  unfold toQuantity at h
  split at h
  · cases h
    exact .inl ⟨_, rfl⟩
  · rename_i v hv
    rcases Except.bind_eq_error h with h | ⟨_, -, h⟩
    · exact (fault_toScalar h).imp_right fun ⟨hover, hlarge⟩ => ⟨hover, v, hv, hlarge⟩
    · rcases Except.bind_eq_error h with h | ⟨_, -, h⟩
      · obtain ⟨_, -, rfl⟩ := Except.mapError_eq_error_iff.1 h
        exact .inl ⟨_, rfl⟩
      · cases h

theorem fault_toVariable (h : (toVariable raw : Except Fault (Variable α)) = .error fault) :
    ValueFault ((raw.get? "q").bind scalarIn) fault := by
  unfold toVariable at h
  split at h
  · cases h
    exact .inl ⟨_, rfl⟩
  · rename_i q hq
    rw [hq, Option.bind_some]
    rcases Except.bind_eq_error h with h | ⟨_, -, h⟩
    · obtain ⟨_, -, rfl⟩ := Except.mapError_eq_error_iff.1 h
      exact .inl ⟨_, rfl⟩
    · rcases Except.bind_eq_error h with h | ⟨_, -, h⟩
      · exact fault_toQuantity h
      · cases h

end

theorem fault_parametersOf (h : parametersOf raw = .error fault) :
    ∃ why, fault = .wrongType why ∧ unlistable raw = true := by
  unfold parametersOf at h
  split at h
  · cases h
  · rename_i items
    obtain ⟨v, hv, h⟩ := Except.mapM_eq_error h
    unfold parameterOf at h
    split at h
    · cases h
    · cases h
      exact ⟨_, rfl, List.any_eq_true.2 ⟨_, hv, rfl⟩⟩
    · cases h
      exact ⟨_, rfl, List.any_eq_true.2 ⟨_, hv, rfl⟩⟩
    · cases h
  · cases h
  · rename_i hstr harr hobj
    cases h
    refine ⟨_, rfl, ?_⟩
    cases raw with
    | str s => exact absurd rfl (hstr s)
    | arr items => exact absurd rfl (harr items)
    | obj members => exact absurd rfl (hobj members)
    | _ => rfl

/-! ### Faults of entries -/

/-- The faults of loading entries from the body of a snapshot. -/
def LoadFault (body : List (String × Json)) (fault : Fault) : Prop :=
  (∃ cause, fault = .error cause) ∨
    (fault = .overflow ∧ ∃ v ∈ scalarsIn body, scalarTooLarge v = true) ∨
    ∃ why, fault = .wrongType why ∧ ∃ v ∈ parametersIn body, unlistable v = true

variable {α : Type} {P : Calculator α → Prop} {E : Fault → Prop}

/-- Calculators whose settings have marks to read with. -/
def Marked (c : Calculator α) : Prop := ∃ marks, c.settings.marks = .ok marks

theorem ValueFault.imp {scalar? : Option Json} (h : ValueFault scalar? fault)
    (hE : ∀ cause, E (.error cause))
    (hover : ∀ v, scalar? = some v → scalarTooLarge v = true → E .overflow) : E fault := by
  rcases h with ⟨cause, rfl⟩ | ⟨rfl, v, hv, hlarge⟩
  · exact hE cause
  · exact hover v hv hlarge

theorem failsWith_checkName (hE : ∀ cause, E (.error cause)) (name : String) (role : NameRole) :
    FailsWith P E (checkName name role : Step α Unit) :=
  FailsWith.lift_mapError fun _ => hE _

theorem failsWith_registerInputUnit (hE : ∀ cause, E (.error cause)) (name : String)
    (q : Quantity α) : FailsWith P E (registerInputUnit name (pure q)) :=
  (failsWith_checkName hE name .unit).next fun _ => (FailsWith.pure q).next fun _ =>
    (FailsWith.modify _).next fun _ => FailsWith.pure _

theorem failsWith_setConstant (hE : ∀ cause, E (.error cause)) (name : String) (q : Quantity α)
    (description : Option String) : FailsWith P E (setConstant name (pure q) description) :=
  (failsWith_checkName hE name .constant).next fun _ => (FailsWith.pure q).next fun _ =>
    FailsWith.modify _

theorem failsWith_setVariable (hE : ∀ cause, E (.error cause)) (name : String) (q : Quantity α)
    (description : Option String) : FailsWith P E (setVariable name (pure q) description) :=
  (failsWith_checkName hE name .variable).next fun _ => (FailsWith.pure q).next fun _ =>
    FailsWith.modify _

theorem failsWith_read (hE : ∀ cause, E (.error cause)) {c : Calculator α} (hc : Marked c)
    {body : String} (h : c.read body = .error fault) : E fault := by
  obtain ⟨marks, hmarks⟩ := hc
  rcases Except.bind_eq_error h with h | ⟨_, -, h⟩
  · obtain ⟨_, h, -⟩ := Except.mapError_eq_error_iff.1 h
    rw [hmarks] at h
    cases h
  · obtain ⟨_, -, rfl⟩ := Except.mapError_eq_error_iff.1 h
    exact hE _

theorem failsWith_registerFunction (hE : ∀ cause, E (.error cause)) (name : Json)
    (body : String) (hparameters : ∀ fault, parametersOf raw = .error fault → E fault) :
    FailsWith Marked E (registerFunction name raw body : Step α Function) := by
  refine (FailsWith.lift_mapError fun _ => hE _).bind (Keeps.untouched _) fun n _ => ?_
  refine (FailsWith.lift hparameters).bind (Keeps.untouched _) fun ps _ => ?_
  refine (FailsWith.lift_mapError fun _ => hE _).bind (Keeps.untouched _) fun _ _ => ?_
  refine FailsWith.get.bind Keeps.get fun c hc => ?_
  refine (FailsWith.lift fun fault h => failsWith_read hE hc h).next fun e => ?_
  exact (FailsWith.modify _).next fun _ => FailsWith.pure _

theorem failsWith_loadFunction (hE : ∀ cause, E (.error cause))
    (htype : ∀ why v, raw.get? "arg" = some v → unlistable v = true → E (.wrongType why)) :
    FailsWith Marked E (loadFunction raw : Step α Unit) := by
  unfold loadFunction
  split
  · refine (failsWith_registerFunction hE _ _ fun fault h => ?_).discard
    obtain ⟨why, rfl, hlist⟩ := fault_parametersOf h
    cases harg : raw.get? "arg" with
    | none =>
      rw [harg] at hlist
      cases hlist
    | some v =>
      rw [harg] at hlist
      exact htype why v harg hlist
  · exact FailsWith.throw (hE _)

theorem failsWith_objectPart (hE : ∀ cause, E (.error cause)) (body : List (String × Json))
    (part : String) : FailsWith P E (objectPart body part : Step α (List (String × Json))) :=
  FailsWith.lift_mapError fun _ => hE _

theorem failsWith_listPart (hE : ∀ cause, E (.error cause)) (body : List (String × Json))
    (part : String) : FailsWith P E (listPart body part : Step α (List Json)) :=
  FailsWith.lift_mapError fun _ => hE _

theorem keeps_objectPart (body : List (String × Json)) (part : String) :
    Keeps P (· = membersOf body part) (objectPart body part : Step α (List (String × Json))) :=
  (Keeps.lift _).imp fun _ h =>
    objectPart_eq_ok (Except.mapError_eq_ok_iff.1 (Except.mapError_eq_ok_iff.1 h))

theorem keeps_listPart (body : List (String × Json)) (part : String) :
    Keeps P (· = itemsOf body part) (listPart body part : Step α (List Json)) :=
  (Keeps.lift _).imp fun _ h =>
    listPart_eq_ok (Except.mapError_eq_ok_iff.1 (Except.mapError_eq_ok_iff.1 h))

variable [Scalar α]

theorem marked_stable : Stable (fun _ => True) (Marked (α := α)) := by
  refine ⟨fun _ _ => trivial, fun h hc => ?_⟩
  unfold Marked
  rw [h.settings]
  exact hc

theorem failsWith_registerOutputUnit (hE : ∀ cause, E (.error cause)) (display : Units)
    (q : Quantity α) : FailsWith P E (registerOutputUnit display (pure q)) := by
  refine (FailsWith.pure q).next fun q => ?_
  dsimp only
  split
  · exact FailsWith.throw_bind (hE _) _
  split
  · exact FailsWith.throw_bind (hE _) _
  exact (FailsWith.modify _).next fun _ => FailsWith.pure _

variable [Checked α]

theorem failsWith_loadInputUnit (hE : ∀ cause, E (.error cause))
    (hover : ∀ v, scalarIn raw = some v → scalarTooLarge v = true → E .overflow) (name : String) :
    FailsWith P E (loadInputUnit name raw : Step α Unit) :=
  (FailsWith.lift fun _ h => (fault_toQuantity h).imp hE hover).next fun q =>
    (failsWith_registerInputUnit hE name q).discard

theorem failsWith_loadConstant (hE : ∀ cause, E (.error cause))
    (hover : ∀ v, (raw.get? "q").bind scalarIn = some v → scalarTooLarge v = true → E .overflow)
    (name : String) : FailsWith P E (loadConstant name raw : Step α Unit) :=
  (FailsWith.lift fun _ h => (fault_toVariable h).imp hE hover).next fun v =>
    failsWith_setConstant hE name v.value v.description

theorem failsWith_loadVariable (hE : ∀ cause, E (.error cause))
    (hover : ∀ v, (raw.get? "q").bind scalarIn = some v → scalarTooLarge v = true → E .overflow)
    (name : String) : FailsWith P E (loadVariable name raw : Step α Unit) :=
  (FailsWith.lift fun _ h => (fault_toVariable h).imp hE hover).next fun v =>
    failsWith_setVariable hE name v.value v.description

theorem failsWith_loadOutputUnit (hE : ∀ cause, E (.error cause))
    (hover : ∀ v, scalarIn raw = some v → scalarTooLarge v = true → E .overflow) :
    FailsWith P E (loadOutputUnit raw : Step α Unit) := by
  unfold loadOutputUnit
  split
  · rename_i s _ _ hs
    refine (FailsWith.lift fun fault h => ?_).next fun factor => ?_
    · rcases fault_toScalar h with ⟨cause, rfl⟩ | ⟨rfl, hlarge⟩
      · exact hE cause
      · exact hover s hs hlarge
    refine (FailsWith.lift_mapError fun _ => hE _).next fun display => ?_
    refine (FailsWith.lift_mapError fun _ => hE _).next fun base => ?_
    exact (failsWith_registerOutputUnit hE display ⟨factor, base⟩).discard
  · exact FailsWith.throw (hE _)

/-- **Loading the parts** fails with calculation errors, or for one of two more reasons. -/
theorem failsWith_loadParts (body : List (String × Json)) :
    FailsWith Marked (LoadFault body) (loadParts body : Step α Unit) := by
  have hE : ∀ cause, LoadFault body (.error cause) := fun cause => .inl ⟨cause, rfl⟩
  have hover : ∀ v ∈ scalarsIn body, scalarTooLarge v = true → LoadFault body .overflow :=
    fun v hv hlarge => .inr (.inl ⟨rfl, v, hv, hlarge⟩)
  have hquantity {raw v : Json} (hraw : raw ∈ (membersOf body "input_units").map Prod.snd ++
      itemsOf body "output_units") (hv : scalarIn raw = some v) : v ∈ scalarsIn body :=
    List.mem_append_left _ (List.mem_filterMap.2 ⟨raw, hraw, hv⟩)
  have hvariable {e : String × Json} {v : Json}
      (he : e ∈ membersOf body "constants" ++ membersOf body "variables")
      (hv : (e.2.get? "q").bind scalarIn = some v) : v ∈ scalarsIn body :=
    List.mem_append_right _ (List.mem_filterMap.2 ⟨e.2, List.mem_map_of_mem he, hv⟩)
  have hkeep := (marked_stable (α := α)).accepts
  unfold loadParts
  refine (failsWith_objectPart hE _ _).bind (keeps_objectPart _ _) ?_
  rintro _ rfl
  refine (FailsWith.forM (fun e _ => hkeep.loadInputUnit e.1 e.2) fun e he =>
    failsWith_loadInputUnit hE (fun v hv => hover v (hquantity
      (List.mem_append_left _ (List.mem_map_of_mem he)) hv)) e.1).bind
    (Keeps.forM fun e _ => hkeep.loadInputUnit e.1 e.2) fun _ _ => ?_
  refine (failsWith_listPart hE _ _).bind (keeps_listPart _ _) ?_
  rintro _ rfl
  refine (FailsWith.forM (fun raw _ => hkeep.loadOutputUnit raw) fun raw hraw =>
    failsWith_loadOutputUnit hE fun v hv => hover v (hquantity
      (List.mem_append_right _ hraw) hv)).bind
    (Keeps.forM fun raw _ => hkeep.loadOutputUnit raw) fun _ _ => ?_
  refine (failsWith_objectPart hE _ _).bind (keeps_objectPart _ _) ?_
  rintro _ rfl
  refine (FailsWith.forM (fun e _ => hkeep.loadConstant e.1 e.2) fun e he =>
    failsWith_loadConstant hE (fun v hv => hover v (hvariable
      (List.mem_append_left _ he) hv)) e.1).bind
    (Keeps.forM fun e _ => hkeep.loadConstant e.1 e.2) fun _ _ => ?_
  refine (failsWith_objectPart hE _ _).bind (keeps_objectPart _ _) ?_
  rintro _ rfl
  refine (FailsWith.forM (fun e _ => hkeep.loadVariable e.1 e.2) fun e he =>
    failsWith_loadVariable hE (fun v hv => hover v (hvariable
      (List.mem_append_right _ he) hv)) e.1).bind
    (Keeps.forM fun e _ => hkeep.loadVariable e.1 e.2) fun _ _ => ?_
  refine (failsWith_listPart hE _ _).bind (keeps_listPart _ _) ?_
  rintro _ rfl
  refine FailsWith.forM (fun raw _ => marked_stable.loadFunction raw) fun raw hraw => ?_
  exact failsWith_loadFunction hE fun why v hv hlist =>
    .inr (.inr ⟨why, rfl, v, List.mem_filterMap.2 ⟨raw, hraw, hv⟩, hlist⟩)

end Snapshot
end QuantityCalculus
