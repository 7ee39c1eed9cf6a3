/-
# Expressions that are alike

Scopes are dynamic: a body looks a name up in the scope of its call, then in the scope of the
caller, and so on to the variables and constants. So what a call gives depends on bindings of the
names that the bodies of the called functions have in common, while the name of a parameter that
only its own body mentions does not matter.

Here two expressions are compared up to the names of parameters. Some names are common to all
bodies and stay as they are; the parameters of the function at hand may be renamed, in a way that
keeps names apart. What an expression calls or defines is the same on both sides, and no body goes
beyond the common names, its own parameters and the common functions.

**Main statements.** `Linked.assign`, `Functions.Alike.define` and `linked_arguments`: what keeps
two states in step.
-/

import QuantityCalculus.Expr.Value
import QuantityCalculus.Proofs.Steps
import QuantityCalculus.Proofs.Table

namespace QuantityCalculus

/-- What the bodies of functions have in common: names, and functions by name and number of
arguments. -/
structure Common where
  names : String → Prop
  keys : String × Nat → Prop

/-- The names among parameters. -/
def Parameter.Binds (ps : List Parameter) (n : String) : Prop := Parameter.name n ∈ ps

/-- A parameter under another name. -/
def Parameter.rename (ρ : String → String) : Parameter → Parameter
  | name n => name (ρ n)
  | value v => value v

/-- A way to rename the names in `own` that leaves the common names as they are and keeps names
apart. -/
structure Renames (K : Common) (own : String → Prop) (ρ : String → String) : Prop where
  fixes : ∀ n, K.names n → ρ n = n
  apart : ∀ m n, K.names m ∨ own m → K.names n ∨ own n → ρ m = ρ n → m = n

namespace Expr

mutual

/-- Two expressions are the same but for the names in `own`, which are renamed, and for their
contents. They mention no other names than these and the common ones. -/
inductive Alike (K : Common) : (String → Prop) → (String → String) → Expr → Expr → Prop
  | scalar {own : String → Prop} {ρ : String → String} (text : String) :
    Alike K own ρ (.scalar text) (.scalar text)
  | name {own : String → Prop} {ρ : String → String} {n : String} (hn : K.names n ∨ own n) :
    Alike K own ρ (.name n) (.name (ρ n))
  | unit {own : String → Prop} {ρ : String → String} (word : String) :
    Alike K own ρ (.unit word) (.unit word)
  | unary {own : String → Prop} {ρ : String → String} {op : UnaryOp} {a a' : Expr}
    {s s' : String} (ha : Alike K own ρ a a') : Alike K own ρ (.unary op a s) (.unary op a' s')
  | binary {own : String → Prop} {ρ : String → String} {op : BinaryOp} {a a' b b' : Expr}
    {s s' : String} (hop : op ≠ .assign) (ha : Alike K own ρ a a') (hb : Alike K own ρ b b') :
    Alike K own ρ (.binary op a b s) (.binary op a' b' s')
  | assign {own : String → Prop} {ρ : String → String} {n : String} {b b' : Expr} {s s' : String}
    (hn : K.names n ∨ own n) (hb : Alike K own ρ b b') :
    Alike K own ρ (.binary .assign (.name n) b s) (.binary .assign (.name (ρ n)) b' s')
  | define {own : String → Prop} {ρ : String → String} {f : String} {parameters : List Expr}
    {body : Expr} {s s' t t' : String}
    (hbody : K.keys (f, parameters.length) → ∀ names, parameterNames parameters = .ok names →
      Alike K (Parameter.Binds names) id body body) :
    Alike K own ρ (.binary .assign (.call f parameters s) body t)
      (.binary .assign (.call f parameters s') body t')
  | badTarget {own : String → Prop} {ρ : String → String} {a a' b b' : Expr} {s s' : String}
    (hname : ∀ n, a ≠ .name n) (hcall : ∀ f as t, a ≠ .call f as t)
    (hname' : ∀ n, a' ≠ .name n) (hcall' : ∀ f as t, a' ≠ .call f as t) :
    Alike K own ρ (.binary .assign a b s) (.binary .assign a' b' s')
  | conditional {own : String → Prop} {ρ : String → String} {c c' a a' b b' : Expr}
    {s s' : String} (hc : Alike K own ρ c c') (ha : Alike K own ρ a a')
    (hb : Alike K own ρ b b') : Alike K own ρ (.conditional c a b s) (.conditional c' a' b' s')
  | call {own : String → Prop} {ρ : String → String} {f : String} {as as' : List Expr}
    {s s' : String} (hf : K.keys (f, as.length)) (has : AlikeAll K own ρ as as') :
    Alike K own ρ (.call f as s) (.call f as' s')

/-- Two lists of such expressions. -/
inductive AlikeAll (K : Common) : (String → Prop) → (String → String) → List Expr → List Expr → Prop
  | nil {own : String → Prop} {ρ : String → String} : AlikeAll K own ρ [] []
  | cons {own : String → Prop} {ρ : String → String} {a a' : Expr} {as as' : List Expr}
    (ha : Alike K own ρ a a') (has : AlikeAll K own ρ as as') :
    AlikeAll K own ρ (a :: as) (a' :: as')

end

end Expr

/-- Two functions of one name whose parameters were renamed consistently. -/
structure Function.Alike (K : Common) (f f' : Function) : Prop where
  name : f'.name = f.name
  renamed : ∃ ρ, Renames K (Parameter.Binds f.parameters) ρ ∧
    f'.parameters = f.parameters.map (Parameter.rename ρ) ∧
    f.body.Alike K (Parameter.Binds f.parameters) ρ f'.body

/-- Two tables of functions, the common ones of which are alike and are under the number of their
arguments. -/
def Functions.Alike (K : Common) (fs fs' : Functions) : Prop :=
  ∀ k, K.keys k → (fs.get? k = none ∧ fs'.get? k = none) ∨
    ∃ f f', fs.get? k = some f ∧ fs'.get? k = some f' ∧ f.arity = k.2 ∧ f.Alike K f'

variable {α : Type}

/-- The value that is bound to a name in the first scope that has one. -/
def valueIn (scopes : List (Scope α)) (n : String) : Option (Quantity α) :=
  (lookupScopes scopes n).map Variable.value

theorem valueIn_cons (s : Scope α) (scopes : List (Scope α)) (n : String) :
    valueIn (s :: scopes) n = ((s.get? n).map Variable.value).or (valueIn scopes n) := by
  unfold valueIn lookupScopes
  rw [List.findSome?_cons]
  cases s.get? n <;> rfl

/-- Frames that do not bind a name are passed over. -/
theorem valueIn_append {frames scopes : List (Scope α)} {n : String}
    (h : ∀ frame ∈ frames, frame.get? n = none) :
    valueIn (frames ++ scopes) n = valueIn scopes n := by
  induction frames with
  | nil => rfl
  | cons frame frames ih =>
    rw [List.cons_append, valueIn_cons, h frame (List.mem_cons_self ..), Option.map_none,
      Option.none_or]
    exact ih fun frame' hmem => h frame' (List.mem_cons_of_mem frame hmem)

/-- Behind the same frames a name has the same value if it has in the scopes behind them. -/
theorem valueIn_append_congr {frames scopes scopes' : List (Scope α)} {n : String}
    (h : valueIn scopes n = valueIn scopes' n) :
    valueIn (frames ++ scopes) n = valueIn (frames ++ scopes') n := by
  induction frames with
  | nil => exact h
  | cons frame frames ih =>
    rw [List.cons_append, List.cons_append, valueIn_cons, valueIn_cons, ih]

/-- Two stores inside scopes that are in step: the functions are alike, common names have the same
value, and the names in `own` are bound to the same values as what they are renamed to. -/
structure Linked (K : Common) (outer outer' : List (Scope α)) (own : String → Prop)
    (ρ : String → String) (st st' : Store α) : Prop where
  functions : st.functions.Alike K st'.functions
  common : ∀ n, K.names n → valueIn (st.scope :: outer) n = valueIn (st'.scope :: outer') n
  own : ∀ n, own n → ∃ v v', st.scope.get? n = some v ∧ st'.scope.get? (ρ n) = some v' ∧
    v.value = v'.value

variable {K : Common} {outer outer' : List (Scope α)} {own : String → Prop} {ρ : String → String}
  {st st' : Store α}

/-- **Binding a name and what it is renamed to** keeps two stores in step. -/
theorem Linked.assign (h : Linked K outer outer' own ρ st st') (hρ : Renames K own ρ) {n : String}
    (hn : K.names n ∨ own n) (v : Variable α) :
    Linked K outer outer' own ρ { st with scope := st.scope.insert n v }
      { st' with scope := st'.scope.insert (ρ n) v } := by
  refine ⟨h.functions, fun m hm => ?_, fun m hm => ?_⟩
  · have hcommon := h.common m hm
    rw [valueIn_cons, valueIn_cons] at hcommon ⊢
    rw [Table.get?_insert, Table.get?_insert]
    by_cases hnm : n = m
    · subst hnm
      rw [if_pos rfl, if_pos (hρ.fixes n hm)]
      rfl
    · have hρnm : ρ n ≠ m := fun he =>
        hnm (hρ.apart n m hn (.inl hm) (he.trans (hρ.fixes m hm).symm))
      rwa [if_neg hnm, if_neg hρnm]
  · simp only [Table.get?_insert]
    by_cases hnm : n = m
    · subst hnm
      exact ⟨v, v, if_pos rfl, if_pos rfl, rfl⟩
    · have hρnm : ρ n ≠ ρ m := fun he => hnm (hρ.apart n m hn (.inr hm) he)
      obtain ⟨w, w', hw, hw', hval⟩ := h.own m hm
      exact ⟨w, w', by rw [if_neg hnm, hw], by rw [if_neg hρnm, hw'], hval⟩

/-- The identity renames nothing. -/
theorem renames_id (K : Common) (own : String → Prop) : Renames K own id :=
  ⟨fun _ _ => rfl, fun _ _ _ _ h => h⟩

theorem map_rename_id (ps : List Parameter) : ps.map (Parameter.rename id) = ps :=
  (List.map_congr_left fun p _ => by cases p <;> rfl).trans (List.map_id ps)

theorem Expr.length_parameterNames {es : List Expr} {ps : List Parameter}
    (h : parameterNames es = .ok ps) : ps.length = es.length := by
  induction es generalizing ps with
  | nil =>
    cases h
    rfl
  | cons e es ih =>
    cases e with
    | name n =>
      rw [parameterNames] at h
      cases hn : parameterNames es with
      | error e => rw [hn] at h; cases h
      | ok qs =>
        rw [hn] at h
        cases h
        rw [List.length_cons, List.length_cons, ih hn]
    | _ => cases h

/-- A function is like itself if its body keeps within what is common. -/
theorem Function.alike_self {f : Function}
    (h : f.body.Alike K (Parameter.Binds f.parameters) id f.body) : f.Alike K f :=
  ⟨rfl, id, renames_id K _, (map_rename_id f.parameters).symm, h⟩

/-- **Entering functions that are alike** keeps two tables alike. A function that is no common one
need not be. -/
theorem Functions.Alike.define {fs fs' : Functions} (h : fs.Alike K fs') {f f' : Function}
    (hname : f'.name = f.name) (harity : f'.arity = f.arity)
    (hf : K.keys (f.name, f.arity) → f.Alike K f') : (fs.define f).Alike K (fs'.define f') := by
  intro k hk
  unfold Functions.define
  rw [Table.get?_insert, Table.get?_insert, hname, harity]
  by_cases he : (f.name, f.arity) = k
  · subst he
    exact .inr ⟨f, f', if_pos rfl, if_pos rfl, rfl, hf hk⟩
  · rw [if_neg he, if_neg he]
    exact h k hk

/-! ### Arguments -/

section

variable {β : Type}

theorem get?_foldl_insert_map {n : String} {es : List (String × β)} (t t' : Table String β)
    (ht : t'.get? (ρ n) = t.get? n) (hes : ∀ e ∈ es, ρ e.1 = ρ n → e.1 = n) :
    ((es.map fun e => (ρ e.1, e.2)).foldl (fun t e => t.insert e.1 e.2) t').get? (ρ n) =
      (es.foldl (fun t e => t.insert e.1 e.2) t).get? n := by
  induction es generalizing t t' with
  | nil => exact ht
  | cons e rest ih =>
    rw [List.map_cons, List.foldl_cons, List.foldl_cons]
    refine ih _ _ ?_ fun d hd => hes d (List.mem_cons_of_mem e hd)
    rw [Table.get?_insert, Table.get?_insert]
    by_cases he : e.1 = n
    · rw [if_pos he, if_pos (congrArg ρ he)]
    · rw [if_neg he, if_neg fun h => he (hes e (List.mem_cons_self ..) h), ht]

theorem isSome_foldl_insert {n : String} {es : List (String × β)} (t : Table String β)
    (h : (t.get? n).isSome = true ∨ n ∈ es.map Prod.fst) :
    ((es.foldl (fun t e => t.insert e.1 e.2) t).get? n).isSome = true := by
  induction es generalizing t with
  | nil => exact h.resolve_right List.not_mem_nil
  | cons e rest ih =>
    rw [List.foldl_cons]
    refine ih _ ?_
    rw [Table.get?_insert]
    by_cases he : e.1 = n
    · rw [if_pos he]
      exact .inl rfl
    · rw [if_neg he]
      exact h.imp_right fun hn => (List.mem_cons.1 hn).resolve_left (Ne.symm he)

end

/-- The bindings of parameters to arguments, in order. -/
def bindings (ps : List Parameter) (arguments : List (Quantity α)) :
    List (String × Variable α) :=
  (ps.zip arguments).filterMap fun p =>
    match p.1 with
    | .name n => some (n, ⟨p.2, none⟩)
    | .value _ => none

theorem bindings_rename (ρ : String → String) (ps : List Parameter)
    (arguments : List (Quantity α)) :
    bindings (ps.map (Parameter.rename ρ)) arguments =
      (bindings ps arguments).map fun e => (ρ e.1, e.2) := by
  unfold bindings
  rw [List.zip_map_left, List.filterMap_map, List.map_filterMap]
  refine congrArg (fun g => List.filterMap g (ps.zip arguments)) (funext fun p => ?_)
  obtain ⟨p, q⟩ := p
  cases p <;> rfl

theorem binds_of_mem_bindings {ps : List Parameter} {arguments : List (Quantity α)}
    {e : String × Variable α} (h : e ∈ bindings ps arguments) : Parameter.Binds ps e.1 := by
  obtain ⟨⟨p, q⟩, hp, he⟩ := List.mem_filterMap.1 h
  cases p with
  | name n =>
    cases he
    exact (List.of_mem_zip hp).1
  | value v => cases he

theorem mem_bindings_of_binds {ps : List Parameter} {arguments : List (Quantity α)}
    (hlen : ps.length = arguments.length) {n : String} (h : Parameter.Binds ps n) :
    n ∈ (bindings ps arguments).map Prod.fst := by
  induction ps generalizing arguments with
  | nil => cases h
  | cons p rest ih =>
    cases arguments with
    | nil => cases hlen
    | cons q qs =>
      rcases List.mem_cons.1 h with rfl | h
      · exact List.mem_cons_self ..
      · have hrest := ih (Nat.succ.inj hlen) h
        cases p with
        | name m => exact List.mem_cons_of_mem m hrest
        | value v => exact hrest

/-- **The scopes of a call** of two functions that are alike are in step, inside scopes in which
the common names have the same values. -/
theorem linked_arguments {fs fs' : Functions} (hfs : fs.Alike K fs')
    (hcommon : ∀ n, K.names n → valueIn outer n = valueIn outer' n) {ps : List Parameter}
    (hρ : Renames K (Parameter.Binds ps) ρ) {arguments : List (Quantity α)}
    (hlen : ps.length = arguments.length) :
    Linked K outer outer' (Parameter.Binds ps) ρ ⟨.ofArguments ps arguments, fs⟩
      ⟨.ofArguments (ps.map (Parameter.rename ρ)) arguments, fs'⟩ := by
  have hget : ∀ n, K.names n ∨ Parameter.Binds ps n →
      (Scope.ofArguments (ps.map (Parameter.rename ρ)) arguments).get? (ρ n) =
        (Scope.ofArguments ps arguments).get? n := by
    intro n hn
    show (Table.ofList (bindings (ps.map (Parameter.rename ρ)) arguments)).get? (ρ n) =
      (Table.ofList (bindings ps arguments)).get? n
    rw [bindings_rename]
    exact get?_foldl_insert_map _ _ rfl fun e he h =>
      hρ.apart e.1 n (.inr (binds_of_mem_bindings he)) hn h
  refine ⟨hfs, fun n hn => ?_, fun n hn => ?_⟩
  · have hn' := hget n (.inl hn)
    rw [hρ.fixes n hn] at hn'
    rw [valueIn_cons, valueIn_cons, hn', hcommon n hn]
  · have hsome : ((Scope.ofArguments ps arguments).get? n).isSome = true :=
      isSome_foldl_insert _ (.inr (mem_bindings_of_binds hlen hn))
    obtain ⟨v, hv⟩ := Option.isSome_iff_exists.1 hsome
    exact ⟨v, v, hv, (hget n (.inr hn)).trans hv, rfl⟩

end QuantityCalculus
