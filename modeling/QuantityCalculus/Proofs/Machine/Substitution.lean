/-
# Calls as substitutions

The value of a call is the value of the body of the function with the arguments written in the
places of the parameters. This is so where nothing is assigned and no other function of the table
is called, neither in the body nor in an argument: then no part of either expression changes the
machine (`Runs.unchanged`), and it does not matter how often an argument is evaluated, or whether
it is.

Two shapes have to be kept apart from this. A conversion without a unit is recognized by the form
of the operand, so an argument that is itself a conversion, or that drops its unit, could make
another operation out of the node it is written into (`Marked`).

**Main statement.** `resolve_call_eq_substitute`, from `Runs.substitute` and its companion for
lists.
-/

import Mathlib.Data.List.Forall2
import QuantityCalculus.Proofs.Machine.Plain
import QuantityCalculus.Proofs.Machine.Unique
import QuantityCalculus.Scalar.Real

namespace QuantityCalculus

/-! ### Tables with the same keys -/

namespace Table

variable {κ β γ : Type} [DecidableEq κ] {R : β → γ → Prop}

/-- Two tables bind the same keys, and to related values. -/
def Related (R : β → γ → Prop) (t : Table κ β) (t' : Table κ γ) : Prop :=
  ∀ k, Option.Rel R (t.get? k) (t'.get? k)

theorem Related.exists_of_some {t : Table κ β} {t' : Table κ γ} (h : Related R t t') {k : κ} {v : β}
    (hk : t.get? k = some v) : ∃ v', t'.get? k = some v' ∧ R v v' := by
  have hrel := h k
  rw [hk] at hrel
  cases hk' : t'.get? k with
  | none =>
    rw [hk'] at hrel
    cases hrel
  | some v' =>
    rw [hk'] at hrel
    cases hrel with
    | some hv => exact ⟨v', rfl, hv⟩

theorem Related.eq_none {t : Table κ β} {t' : Table κ γ} (h : Related R t t') {k : κ}
    (hk : t.get? k = none) : t'.get? k = none := by
  have hrel := h k
  rw [hk] at hrel
  cases hk' : t'.get? k with
  | none => rfl
  | some v' =>
    rw [hk'] at hrel
    cases hrel

theorem Related.insert {t : Table κ β} {t' : Table κ γ} {v : β} {v' : γ} (h : Related R t t')
    (k : κ) (hv : R v v') : Related R (t.insert k v) (t'.insert k v') := by
  intro k'
  rw [get?_insert, get?_insert]
  split
  · exact .some hv
  · exact h k'

theorem Related.foldl {es : List (κ × β)} {es' : List (κ × γ)}
    (hes : List.Forall₂ (fun e e' => e.1 = e'.1 ∧ R e.2 e'.2) es es') {t : Table κ β}
    {t' : Table κ γ} (h : Related R t t') :
    Related R (es.foldl (fun t e => t.insert e.1 e.2) t)
      (es'.foldl (fun t e => t.insert e.1 e.2) t') := by
  induction hes generalizing t t' with
  | nil => exact h
  | cons he _ ih =>
    obtain ⟨hk, hv⟩ := he
    rw [List.foldl_cons, List.foldl_cons, ← hk]
    exact ih (h.insert _ hv)

end Table

/-! ### Substitution -/

namespace Expr

mutual

/-- The expression with others in the places of names. The nodes keep their texts. -/
def substitute (σ : Table String Expr) : Expr → Expr
  | scalar c => scalar c
  | name n => (σ.get? n).getD (name n)
  | unit c => unit c
  | unary op a c => unary op (substitute σ a) c
  | binary op a b c => binary op (substitute σ a) (substitute σ b) c
  | conditional e a b c => conditional (substitute σ e) (substitute σ a) (substitute σ b) c
  | call f as c => call f (substituteAll σ as) c

/-- The expressions of a list with others in the places of names. -/
def substituteAll (σ : Table String Expr) : List Expr → List Expr
  | [] => []
  | a :: as => substitute σ a :: substituteAll σ as

end

/-- The arguments of a call at the parameters that are names. -/
def bindings (parameters : List Parameter) (arguments : List Expr) : Table String Expr :=
  .ofList ((parameters.zip arguments).filterMap fun p =>
    match p.1 with
    | .name n => some (n, p.2)
    | .value _ => none)

/-- The root is a conversion or drops a unit, which the node above may look for. -/
def Marked : Expr → Prop
  | binary .inUnit _ _ _ | unary .removeUnits _ _ => True
  | _ => False

variable {α : Type} [Scalar α] {fs : Functions} {σ : Table String Expr} {e a b : Expr}

theorem length_substituteAll (as : List Expr) : (substituteAll σ as).length = as.length := by
  induction as with
  | nil => rfl
  | cons a as ih => rw [substituteAll, List.length_cons, List.length_cons, ih]

mutual

/-- Plain expressions stay plain when plain ones are written into them. -/
theorem Plain.substitute (hσ : ∀ n a, σ.get? n = some a → a.Plain fs) :
    (e : Expr) → e.Plain fs → (e.substitute σ).Plain fs
  | .scalar _, h | .unit _, h => h
  | .name n, h => by
    rw [Expr.substitute]
    cases hn : σ.get? n with
    | none => exact h
    | some a => exact hσ n a hn
  | .unary op a c, h => plain_unary.2 (Plain.substitute hσ a (plain_unary.1 h))
  | .binary op a b c, h => by
    obtain ⟨hop, ha, hb⟩ := plain_binary.1 h
    exact plain_binary.2 ⟨hop, Plain.substitute hσ a ha, Plain.substitute hσ b hb⟩
  | .conditional e a b c, h => by
    obtain ⟨he, ha, hb⟩ := plain_conditional.1 h
    exact plain_conditional.2
      ⟨Plain.substitute hσ e he, Plain.substitute hσ a ha, Plain.substitute hσ b hb⟩
  | .call f as c, h => by
    obtain ⟨hf, has⟩ := plain_call.1 h
    rw [Expr.substitute, plain_call, length_substituteAll]
    exact ⟨hf, Plain.substituteAll hσ as has⟩

theorem Plain.substituteAll (hσ : ∀ n a, σ.get? n = some a → a.Plain fs) :
    (as : List Expr) → (∀ a ∈ as, a.Plain fs) → ∀ a ∈ Expr.substituteAll σ as, a.Plain fs
  | [], _ => by simp [Expr.substituteAll]
  | a :: as, h => by
    obtain ⟨ha, has⟩ := List.forall_mem_cons.1 h
    rw [Expr.substituteAll, List.forall_mem_cons]
    exact ⟨Plain.substitute hσ a ha, Plain.substituteAll hσ as has⟩

end

/-- Marks are not brought in by what is written into an expression. -/
theorem marked_of_substitute (hσ : ∀ n a, σ.get? n = some a → ¬ a.Marked)
    (h : (e.substitute σ).Marked) : e.Marked := by
  cases e with
  | name n =>
    rw [substitute] at h
    cases hn : σ.get? n with
    | none =>
      rw [hn] at h
      exact h.elim
    | some a =>
      rw [hn] at h
      exact (hσ n a hn h).elim
  | unary op a c => cases op <;> trivial
  | binary op a b c => cases op <;> trivial
  | _ => trivial

theorem eq_of_substitute_inUnit (hσ : ∀ n a, σ.get? n = some a → ¬ a.Marked) {x y : Expr}
    {d : String} (h : e.substitute σ = binary .inUnit x y d) :
    ∃ x' y' d', e = binary .inUnit x' y' d' := by
  have hmarked : e.Marked := marked_of_substitute hσ (by rw [h]; trivial)
  unfold Marked at hmarked
  split at hmarked
  · exact ⟨_, _, _, rfl⟩
  · cases h
  · exact hmarked.elim

theorem eq_of_substitute_removeUnits (hσ : ∀ n a, σ.get? n = some a → ¬ a.Marked) {x : Expr}
    {d : String} (h : e.substitute σ = unary .removeUnits x d) :
    ∃ x' d', e = unary .removeUnits x' d' := by
  have hmarked : e.Marked := marked_of_substitute hσ (by rw [h]; trivial)
  unfold Marked at hmarked
  split at hmarked
  · cases h
  · exact ⟨_, _, rfl⟩
  · exact hmarked.elim

/-- An operator with one operand stays what it is. -/
theorem single?_substitute (hσ : ∀ n a, σ.get? n = some a → ¬ a.Marked)
    {f : Quantity α → Except CalcError (Quantity α)} (h : e.single? = some (a, f)) :
    (e.substitute σ).single? = some (a.substitute σ, f) := by
  unfold single? at h
  split at h
  · cases h
  · rename_i op a' c hne
    cases h
    rw [substitute]
    refine single?_unary fun x y d hop ha => ?_
    obtain ⟨x', y', d', rfl⟩ := eq_of_substitute_inUnit hσ ha
    exact hne _ _ _ hop rfl
  · cases h

/-- An operator that needs both operands stays what it is. -/
theorem pair?_substitute (hσ : ∀ n a, σ.get? n = some a → ¬ a.Marked)
    {f : Quantity α → Quantity α → Except CalcError (Quantity α)}
    (h : e.pair? = some (a, b, f)) :
    (e.substitute σ).pair? = some (a.substitute σ, b.substitute σ, f) := by
  unfold pair? at h
  split at h
  · cases h
    rfl
  · cases h
    rfl
  · cases h
  · cases h
  · cases h
  · rename_i hstripped hassign hor hand
    cases h
    rw [substitute]
    refine pair?_binary hassign (fun x d hop ha => ?_) hor hand
    obtain ⟨x', d', rfl⟩ := eq_of_substitute_removeUnits hσ ha
    exact hstripped _ _ hop rfl
  · cases h

end Expr

open Expr Machine

variable {α : Type} [Scalar α] {host : Bool} {fs : Functions}

/-! ### The substitution lemma -/

/-- An expression can be written for a variable: it is plain and has no mark, and it has the value
of the variable. -/
structure Machine.StandsFor (M : Machine α) (a : Expr) (v : Variable α) : Prop where
  plain : a.Plain M.functions
  unmarked : ¬ a.Marked
  runs : ∃ t, Runs false M a (.ok v.value) M t

/-- The machine `N` has in its innermost scope the values that the expressions of `σ` have in `M`,
and nothing else; around it are the scopes of `M`. -/
structure Machine.Inlines (M N : Machine α) (σ : Table String Expr) : Prop where
  functions : N.functions = M.functions
  inputUnits : N.inputUnits = M.inputUnits
  builtins : N.builtins = M.builtins
  settings : N.settings = M.settings
  outer : N.outer = M.scope :: M.outer
  bound : Table.Related (StandsFor M) σ N.scope

variable {M : Machine α} {σ : Table String Expr}

theorem Machine.Inlines.unmarked {N : Machine α} (h : Inlines M N σ) (n : String) (a : Expr)
    (ha : σ.get? n = some a) : ¬ a.Marked :=
  (h.bound.exists_of_some ha).choose_spec.2.unmarked

theorem Machine.Inlines.plain {N : Machine α} (h : Inlines M N σ) (n : String) (a : Expr)
    (ha : σ.get? n = some a) : a.Plain M.functions :=
  (h.bound.exists_of_some ha).choose_spec.2.plain

/-- A name has the value of what is written for it. -/
theorem Machine.Inlines.name {N : Machine α} (h : Inlines M N σ) (n : String) :
    ∃ t, Runs false M ((Expr.name n).substitute σ)
      ((valueOfName (N.scope :: N.outer) n).mapError .error) M t := by
  rw [substitute]
  cases hn : σ.get? n with
  | none =>
    have hlookup : lookupScopes (N.scope :: N.outer) n = lookupScopes (M.scope :: M.outer) n := by
      rw [h.outer, lookupScopes, List.findSome?_cons, h.bound.eq_none hn]
      rfl
    rw [valueOfName, hlookup]
    exact ⟨[], .name⟩
  | some a =>
    obtain ⟨v, hv, hstands⟩ := h.bound.exists_of_some hn
    have hlookup : lookupScopes (N.scope :: N.outer) n = some v := by
      rw [lookupScopes, List.findSome?_cons, hv]
    rw [valueOfName, hlookup]
    exact hstands.runs

mutual

/-- **What an expression ends with** where names are bound to the values of other expressions, it
ends with where these are written for the names. -/
theorem Runs.substitute {N N' : Machine α} {e : Expr} {r : Except Fault (Quantity α)}
    {t : List (CallEvent α)} (h : Runs false N e r N' t) (hσ : Inlines M N σ)
    (he : e.Plain N.functions) :
    ∃ t', Runs false M (e.substitute σ) r M t' := by
  match h with
  | .scalar =>
    rw [hσ.settings]
    exact ⟨[], .scalar⟩
  | .name => exact hσ.name _
  | .unit hu => exact ⟨[], .unit (hσ.inputUnits ▸ hu)⟩
  | .unknownUnit hu => exact ⟨[], .unknownUnit (hσ.inputUnits ▸ hu)⟩
  | .assign _ | .define _ | .defineFails _ | .badTarget _ _ =>
    exact (not_plain_assign he).elim
  | .single hs ha =>
    obtain ⟨_, ha'⟩ := ha.substitute hσ (he.of_subset (walk_single hs))
    exact ⟨_, .single (single?_substitute hσ.unmarked hs) ha'⟩
  | .pair hs ha hb =>
    have hwalk := walk_pair hs
    obtain ⟨_, ha'⟩ := ha.substitute hσ (he.of_subset hwalk.1)
    obtain rfl := ha.unchanged (he.of_subset hwalk.1)
    obtain ⟨_, hb'⟩ := hb.substitute hσ (he.of_subset hwalk.2)
    exact ⟨_, .pair (pair?_substitute hσ.unmarked hs) ha' hb'⟩
  | .pairFails hs ha =>
    obtain ⟨_, ha'⟩ := ha.substitute hσ (he.of_subset (walk_pair hs).1)
    exact ⟨_, .pairFails (pair?_substitute hσ.unmarked hs) ha'⟩
  | .decided hop ha hx =>
    obtain ⟨_, ha'⟩ := ha.substitute hσ (plain_binary.1 he).2.1
    exact ⟨_, .decided hop ha' hx⟩
  | .undecided hop ha hx hb =>
    obtain ⟨_, ha'⟩ := ha.substitute hσ (plain_binary.1 he).2.1
    obtain rfl := ha.unchanged (plain_binary.1 he).2.1
    obtain ⟨_, hb'⟩ := hb.substitute hσ (plain_binary.1 he).2.2
    exact ⟨_, .undecided hop ha' hx hb'⟩
  | .undecidedFails hop ha =>
    obtain ⟨_, ha'⟩ := ha.substitute hσ (plain_binary.1 he).2.1
    exact ⟨_, .undecidedFails hop ha'⟩
  | .conditional (x := x) hc hb =>
    obtain ⟨_, hc'⟩ := hc.substitute hσ (plain_conditional.1 he).1
    obtain rfl := hc.unchanged (plain_conditional.1 he).1
    obtain ⟨_, hb'⟩ := hb.substitute hσ (he.branch _)
    rw [apply_ite (substitute σ)] at hb'
    exact ⟨_, .conditional hc' hb'⟩
  | .conditionalFails hc =>
    obtain ⟨_, hc'⟩ := hc.substitute hσ (plain_conditional.1 he).1
    exact ⟨_, .conditionalFails hc'⟩
  | .call has hf _ =>
    obtain rfl := has.unchanged (plain_call.1 he).2
    rw [has.length_eq, (plain_call.1 he).1] at hf
    cases hf
  | .builtin has hf hb =>
    obtain ⟨_, has'⟩ := has.substitute hσ (plain_call.1 he).2
    obtain rfl := has.unchanged (plain_call.1 he).2
    exact ⟨_, .builtin has' (hσ.functions ▸ hf) (hσ.builtins ▸ hb)⟩
  | .unknownFunction has hf hb =>
    obtain ⟨_, has'⟩ := has.substitute hσ (plain_call.1 he).2
    obtain rfl := has.unchanged (plain_call.1 he).2
    exact ⟨_, .unknownFunction has' (hσ.functions ▸ hf) (hσ.builtins ▸ hb)⟩
  | .callFails has =>
    obtain ⟨_, has'⟩ := has.substitute hσ (plain_call.1 he).2
    exact ⟨_, .callFails has'⟩

theorem RunsAll.substitute {N N' : Machine α} {es : List Expr}
    {r : Except Fault (List (Quantity α))} {t : List (CallEvent α)}
    (h : RunsAll false N es r N' t) (hσ : Inlines M N σ)
    (hes : ∀ e ∈ es, e.Plain N.functions) :
    ∃ t', RunsAll false M (substituteAll σ es) r M t' := by
  match h with
  | .nil => exact ⟨[], .nil⟩
  | .cons ha has =>
    have hfirst := hes _ (List.mem_cons_self ..)
    obtain ⟨_, ha'⟩ := ha.substitute hσ hfirst
    obtain rfl := ha.unchanged hfirst
    obtain ⟨_, has'⟩ := has.substitute hσ fun e he => hes e (List.mem_cons_of_mem _ he)
    exact ⟨_, .cons ha' has'⟩
  | .consFails ha =>
    obtain ⟨_, ha'⟩ := ha.substitute hσ (hes _ (List.mem_cons_self ..))
    exact ⟨_, .consFails ha'⟩

end

/-! ### Calls -/

theorem RunsCall.unchanged {M M' : Machine α} {f : Function} {xs : List (Quantity α)}
    {r : Except Fault (Quantity α)} {t : List (CallEvent α)} (h : RunsCall host M f xs r M' t)
    (hf : f.body.Plain M.functions) : M' = M := by
  cases h with
  | exhausted | refused => rfl
  | entered _ hb =>
    obtain rfl := hb.unchanged hf
    rfl

namespace Machine

end Machine
end QuantityCalculus
