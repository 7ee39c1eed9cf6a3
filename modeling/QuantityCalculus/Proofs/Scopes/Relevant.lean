/-
# Unrelated definitions

What an expression mentions are names in it: of variables, units and functions. A function that is
called mentions the names in its body. So an evaluation depends only on what is bound to the words
of its text and to the names that are reached from there through the bodies of functions. What is
defined under other names never matters, whether the evaluation succeeds or fails, and functions
that it defines on its way mention no other names either.

Two calculators that agree on these names are followed side by side.

**Main statements.** `agree_evaluate`: evaluations in two calculators that agree on a set of names
to which the bodies of its functions keep; `evaluate_eq_of_relevant`: the smallest such set.
-/

import QuantityCalculus.Calculator.Outcome
import QuantityCalculus.Proofs.Calculator.Operations
import QuantityCalculus.Proofs.Expr.Names
import QuantityCalculus.Proofs.Scopes.SideBySide
import QuantityCalculus.Scalar.Real

namespace QuantityCalculus

/-- The names that matter to some words: the words themselves, and with the name of a function the
names of its parameters and the names in its body. -/
inductive Relevant (fs : Functions) (ws : List String) : String → Prop
  | word {n : String} : n ∈ ws → Relevant fs ws n
  | parameter {n m : String} {k : Nat} {f : Function} : Relevant fs ws n →
    fs.get? (n, k) = some f → Parameter.name m ∈ f.parameters → Relevant fs ws m
  | body {n m : String} {k : Nat} {f : Function} : Relevant fs ws n →
    fs.get? (n, k) = some f → m ∈ f.body.names → Relevant fs ws m

/-- The functions with names in a set mention only names in the set. -/
def Functions.Within (N : String → Prop) (fs : Functions) : Prop :=
  ∀ n k f, N n → fs.get? (n, k) = some f → ∀ m ∈ f.body.names, N m

/-- Two tables have the same functions under the names in a set. -/
def Functions.AgreeOn (N : String → Prop) (fs fs' : Functions) : Prop :=
  ∀ n k, N n → fs'.get? (n, k) = fs.get? (n, k)

variable {N : String → Prop} {fs fs' : Functions} {ws : List String}

theorem within_relevant : fs.Within (Relevant fs ws) :=
  fun _ _ _ hn hf _ hm => .body hn hf hm

/-- **Tables that agree on what matters** have the same names that matter. -/
theorem relevant_iff_of_agreeOn (h : fs.AgreeOn (Relevant fs ws) fs') (n : String) :
    Relevant fs' ws n ↔ Relevant fs ws n := by
  constructor
  · intro hn
    induction hn with
    | word hn => exact .word hn
    | @parameter n _ k _ _ hf hm ih => exact .parameter ih ((h n k ih).symm.trans hf) hm
    | @body n _ k _ _ hf hm ih => exact .body ih ((h n k ih).symm.trans hf) hm
  · intro hn
    induction hn with
    | word hn => exact .word hn
    | @parameter n _ k _ hn hf hm ih => exact .parameter ih ((h n k hn).trans hf) hm
    | @body n _ k _ hn hf hm ih => exact .body ih ((h n k hn).trans hf) hm

/-- Entering a function leaves tables that agree on a set in agreement. -/
theorem Functions.AgreeOn.define (h : fs.AgreeOn N fs') (f : Function) :
    (fs.define f).AgreeOn N (fs'.define f) := by
  intro n k hn
  unfold Functions.define
  rw [Table.get?_insert, Table.get?_insert, h n k hn]

/-- Entering a function that mentions only names in a set keeps to the set. -/
theorem Functions.Within.define (h : fs.Within N) {f : Function} (hf : ∀ m ∈ f.body.names, N m) :
    (fs.define f).Within N := by
  intro n k g hn hg
  unfold Functions.define at hg
  rw [Table.get?_insert] at hg
  split at hg
  · cases hg
    exact hf
  · exact h n k g hn hg

variable {α : Type}

/-- Binding a name alike leaves scopes that agree on a set in agreement. -/
theorem get?_insert_congr {β : Type} {t t' : Table String β}
    (h : ∀ n, N n → t'.get? n = t.get? n) (m : String) (v : β) :
    ∀ n, N n → (t'.insert m v).get? n = (t.insert m v).get? n := by
  intro n hn
  rw [Table.get?_insert, Table.get?_insert, h n hn]

theorem lookupScopes_cons (s : Scope α) (scopes : List (Scope α)) (n : String) :
    lookupScopes (s :: scopes) n = (s.get? n).or (lookupScopes scopes n) := by
  unfold lookupScopes
  rw [List.findSome?_cons]
  cases s.get? n <;> rfl

/-! ### Expressions -/

/-- Two contexts have the same tools, and the same bound to the names in a set. -/
structure Context.AgreesOn (N : String → Prop) (ctx ctx' : Context α) : Prop where
  outer : ∀ n, N n → lookupScopes ctx'.outer n = lookupScopes ctx.outer n
  units : ∀ n, N n → ctx'.units.get? n = ctx.units.get? n
  builtins : ctx'.builtins = ctx.builtins
  settings : ctx'.settings = ctx.settings

/-- Two stores have the same bound to the names in a set, and functions that keep to it. -/
structure Store.AgreesOn (N : String → Prop) (st st' : Store α) : Prop where
  scope : ∀ n, N n → st'.scope.get? n = st.scope.get? n
  functions : st.functions.AgreeOn N st'.functions
  within : st.functions.Within N

namespace Expr

variable [Scalar α] {ctx ctx' : Context α} {call call' : Caller α}

/-- Steps that agree on stores that agree on the names in a set. -/
abbrev AgreeOn (N : String → Prop) {β : Type} (x y : Eval α β) : Prop :=
  Agree (Store.AgreesOn N) x y

/-- What may be mentioned: the names in a set. -/
def mentionableIn (N : String → Prop) : Mentionable where
  names n n' := n' = n ∧ N n
  units := N
  keys k := N k.1
  definitions f _ body := N f ∧ ∀ m ∈ body.names, N m

/-- An expression with names in a set, as compared with itself. -/
def SameIn (N : String → Prop) (e e' : Expr) : Prop := e' = e ∧ ∀ m ∈ e.names, N m

theorem SameIn.part {a e e' : Expr} (h : SameIn N e e') (ha : a ∈ e.walk) : SameIn N a a :=
  ⟨rfl, fun m hm => h.2 m (names_subset ha hm)⟩

theorem SameIn.itself {e e' : Expr} {n : String} (h : SameIn N e e') (hn : e.name? = some n) :
    N n :=
  h.2 n (mem_names_iff.2 ⟨e, self_mem_walk e, hn⟩)

theorem SameIn.sameNode {e e' : Expr} (h : SameIn N e e') :
    SameNode (mentionableIn N) (SameIn N) e e' := by
  obtain rfl := h.1
  cases e' with
  | scalar text => exact .scalar text
  | name n => exact .name ⟨rfl, h.itself rfl⟩
  | unit word => exact .unit (h.itself rfl)
  | unary op a s => exact .unary (h.part (by simp [walk, self_mem_walk]))
  | conditional c a b s =>
    exact .conditional (h.part (by simp [walk, self_mem_walk]))
      (h.part (by simp [walk, self_mem_walk])) (h.part (by simp [walk, self_mem_walk]))
  | call f as s =>
    refine .call (h.itself rfl) (List.forall₂_same.2 fun a ha => h.part ?_)
    exact List.mem_cons_of_mem _ (walk_subset_walkAll ha (self_mem_walk a))
  | binary op a b s =>
    have ha : SameIn N a a := h.part (by simp [walk, self_mem_walk])
    have hb : SameIn N b b := h.part (by simp [walk, self_mem_walk])
    by_cases hop : op = .assign
    · subst hop
      cases a with
      | name n => exact .assign ⟨rfl, ha.itself rfl⟩ hb
      | call f parameters t => exact .define ⟨ha.itself rfl, hb.2⟩
      | _ => exact .badTarget nofun nofun nofun nofun
    · exact .binary hop ha hb

/-- Calls of functions that mention only names in a set agree. -/
def CallsAgreeOn (N : String → Prop) (call call' : Caller α) : Prop :=
  ∀ room (f : Function) (arguments : List (Quantity α)), (∀ m ∈ f.body.names, N m) →
    AgreeOn N (call room f arguments) (call' room f arguments)

theorem agrees_mentionableIn (hctx : ctx.AgreesOn N ctx') (hcall : CallsAgreeOn N call call') :
    (mentionableIn N).Agrees (Store.AgreesOn N) ctx ctx' call call' where
  settings := hctx.settings
  name := by
    rintro n _ ⟨rfl, hn⟩ st st' h
    unfold valueOfName
    rw [lookupScopes_cons, lookupScopes_cons, h.scope _ hn, hctx.outer _ hn]
  unit hw := hctx.units _ hw
  assign := by
    rintro n _ ⟨rfl, -⟩ x
    exact Agree.modify fun st st' h =>
      ⟨get?_insert_congr h.scope _ _, h.functions, h.within⟩
  define := by
    rintro f parameters body ⟨-, hbody⟩
    refine (Agree.lift _).bind fun names => (Agree.lift _).bind fun _ => Agree.modify ?_
    exact fun st st' h => ⟨h.scope, h.functions.define _, h.within.define hbody⟩
  apply := by
    intro f xs hkey room
    refine Agree.get_bind fun st st' h => ?_
    rw [h.functions f xs.length hkey, hctx.builtins]
    cases hf : st.functions.get? (f, xs.length) with
    | none =>
      dsimp only
      split
      · exact ⟨rfl, h⟩
      · exact ⟨rfl, h⟩
    | some g => exact hcall room g xs (h.within f xs.length g hkey hf) st st' h

/-- **An expression has the same value** in stores that agree on its names, and leaves them in
agreement, if calls do. -/
theorem agreeOn_value (hctx : ctx.AgreesOn N ctx') (hcall : CallsAgreeOn N call call')
    (room : Room) {e : Expr} (he : ∀ m ∈ e.names, N m) :
    AgreeOn N (value ctx call room e) (value ctx' call' room e) :=
  (agree_value (agrees_mentionableIn hctx hcall) fun _ _ => SameIn.sameNode).1 room e e ⟨rfl, he⟩

/-- **Calls of functions agree** in contexts that agree on the names in their bodies. -/
theorem callsAgreeOn_callWithin (left : Nat) (hctx : ctx.AgreesOn N ctx') :
    CallsAgreeOn N (callWithin left ctx) (callWithin left ctx') := by
  induction left generalizing ctx ctx' with
  | zero =>
    intro room f arguments _
    show Agree _ (throw _) (throw _)
    rw [hctx.settings]
    exact Agree.throw _
  | succ left ih =>
    intro room f arguments hf
    refine (Agree.lift (room.spend 3)).bind fun inner => Agree.get_bind fun st st' h => ?_
    -- the scope of the caller is one of the scopes around the call
    have hinside : Context.AgreesOn N { ctx with outer := st.scope :: ctx.outer }
        { ctx' with outer := st'.scope :: ctx'.outer } := by
      refine ⟨fun n hn => ?_, hctx.units, hctx.builtins, hctx.settings⟩
      rw [lookupScopes_cons, lookupScopes_cons, h.scope n hn, hctx.outer n hn]
    obtain ⟨hresult, hafter⟩ := agreeOn_value hinside (ih hinside) inner hf
      ⟨.ofArguments f.parameters arguments, st.functions⟩
      ⟨.ofArguments f.parameters arguments, st'.functions⟩
      ⟨fun _ _ => rfl, h.functions, h.within⟩
    exact ⟨hresult, h.scope, hafter.functions, hafter.within⟩

theorem agreeOn_evaluate (hctx : ctx.AgreesOn N ctx') (room : Room) {e : Expr}
    (he : ∀ m ∈ e.names, N m) : AgreeOn N (evaluate ctx room e) (evaluate ctx' room e) := by
  refine agreeOn_value hctx ?_ room he
  unfold caller
  rw [hctx.settings]
  split
  · exact callsAgreeOn_callWithin _ hctx
  · exact callsAgreeOn_callWithin _ hctx
  · exact fun _ _ _ _ => Agree.throw _

end Expr

/-! ### Calculators -/

namespace Calculator

/-- The words of a text, with the marks of a calculator. -/
def wordsOf (c : Calculator α) (text : String) : List String :=
  match c.settings.marks with
  | .ok m => Expr.words m text
  | .error _ => []

/-- The names that matter to a text. -/
def relevant (c : Calculator α) (text : String) : String → Prop :=
  Relevant c.functions (c.wordsOf text)

/-- Two calculators have the same settings, output units and built-in functions, may use as many
frames of the host, and have the same variables, constants, input units and functions under the
names in a set. -/
structure AgreesOn (N : String → Prop) (c c' : Calculator α) : Prop where
  settings : c'.settings = c.settings
  outputUnits : ∀ u, c'.outputUnits.get? u = c.outputUnits.get? u
  builtins : c'.builtins = c.builtins
  room : c'.room = c.room
  globals : ∀ n, N n → c'.globals.get? n = c.globals.get? n
  constants : ∀ n, N n → c'.constants.get? n = c.constants.get? n
  inputUnits : ∀ n, N n → c'.inputUnits.get? n = c.inputUnits.get? n
  functions : c.functions.AgreeOn N c'.functions

/-- Two calculators that agree on a set of names, with functions that keep to it. -/
def AgreeWithin (N : String → Prop) (c c' : Calculator α) : Prop :=
  c.AgreesOn N c' ∧ c.functions.Within N

theorem AgreesOn.context {c c' : Calculator α} (h : c.AgreesOn N c') :
    c.context.AgreesOn N c'.context where
  outer n hn := by
    show lookupScopes [c'.constants] n = lookupScopes [c.constants] n
    rw [lookupScopes_cons, lookupScopes_cons, h.constants n hn]
  units := h.inputUnits
  builtins := h.builtins
  settings := h.settings

/-- **Calculators that agree on the words of a text** read it alike. -/
theorem AgreesOn.read {c c' : Calculator α} (h : c.AgreesOn N c') {text : String}
    (hwords : ∀ w ∈ c.wordsOf text, N w) : c'.read text = c.read text := by
  unfold wordsOf at hwords
  unfold Calculator.read
  rw [h.settings]
  cases hm : c.settings.marks with
  | error e =>
    show (Except.error e.toFault : Except Fault Expr) = .error e.toFault
    rfl
  | ok m =>
    rw [hm] at hwords
    have hread : Expr.read m c'.isUnit text = Expr.read m c.isUnit text := by
      refine Expr.read_of_words fun w hw => ?_
      unfold isUnit Table.contains
      rw [h.inputUnits w (hwords w hw)]
    show Except.mapError _ _ = Except.mapError _ _
    rw [hread]

/-- The names of what is read are words of the text. -/
theorem names_of_read {c : Calculator α} {text : String} {e : Expr} (h : c.read text = .ok e) :
    ∀ m ∈ e.names, m ∈ c.wordsOf text := by
  obtain ⟨marks, hmarks, hread⟩ := read_eq_ok_iff.1 h
  unfold wordsOf
  rw [hmarks]
  exact Expr.names_subset_words hread

theorem agree_fail (message : String) :
    Agree (AgreeWithin N) (fail message : Step α (Outcome α)) (fail message) :=
  (Agree.modify fun _ _ h => ⟨{ h.1 with }, h.2⟩).bind fun _ => Agree.pure _

variable [Scalar α]

theorem agree_valueOf {e : Expr} (he : ∀ m ∈ e.names, N m) :
    Agree (AgreeWithin N) (valueOf e : Step α (Quantity α)) (valueOf e) := by
  refine Agree.get_bind fun c c' h => ?_
  have hrun : Expr.AgreeOn N (Expr.evaluate c.context c.room e)
      (Expr.evaluate c'.context c'.room e) := by
    rw [h.1.room]
    exact Expr.agreeOn_evaluate h.1.context c.room he
  obtain ⟨hresult, hafter⟩ := hrun ⟨c.globals, c.functions⟩ ⟨c'.globals, c'.functions⟩
    ⟨h.1.globals, h.1.functions, h.2⟩
  exact ⟨hresult, { h.1 with globals := hafter.scope, functions := hafter.functions },
    hafter.within⟩

theorem agree_convert {value target : Expr} (hvalue : ∀ m ∈ value.names, N m)
    (htarget : ∀ m ∈ target.names, N m) :
    Agree (AgreeWithin N) (convert value target : Step α (Outcome α)) (convert value target) :=
  (agree_valueOf hvalue).bind fun _ => (agree_valueOf htarget).bind fun _ =>
    (Agree.lift _).bind fun _ => Agree.pure _

theorem agree_result {e : Expr} (he : ∀ m ∈ e.names, N m) :
    Agree (AgreeWithin N) (result e : Step α (Outcome α)) (result e) := by
  refine (agree_valueOf he).bind fun base => Agree.get_bind fun c c' h => ?_
  have hshown : c'.inOutputUnit? base = c.inOutputUnit? base := by
    unfold inOutputUnit?
    rw [h.1.outputUnits]
  rw [h.1.settings, hshown]
  split
  · exact (Agree.lift _).bind (fun _ => Agree.pure _) c c' h
  · exact Agree.pure _ c c' h

/-- **The outcome of an expression** is the same in calculators that agree on its names. -/
theorem agree_resolve {e : Expr} (he : ∀ m ∈ e.names, N m) :
    Agree (AgreeWithin N) (resolve e : Step α (Outcome α)) (resolve e) := by
  refine Agree.tryCatch ?_ fun fault => ?_
  · split
    · rename_i value target _ hconversion
      have hnames : value.names ⊆ e.names ∧ target.names ⊆ e.names := by
        cases e with
        | binary op a b s =>
          cases op with
          | inUnit =>
            cases hconversion
            exact ⟨Expr.names_subset (by simp [Expr.walk, Expr.self_mem_walk]),
              Expr.names_subset (by simp [Expr.walk, Expr.self_mem_walk])⟩
          | _ => cases hconversion
        | _ => cases hconversion
      exact agree_convert (fun m hm => he m (hnames.1 hm)) fun m hm => he m (hnames.2 hm)
    · exact agree_result he
  · split
    · exact agree_fail _
    · exact agree_fail _
    · exact Agree.throw _

omit [Scalar α] in
theorem agree_keepAnswer (q : Quantity α) :
    Agree (AgreeWithin N) (keepAnswer q : Step α Unit) (keepAnswer q) := by
  refine Agree.get_bind fun c c' h => ?_
  have hname : c'.settings.answerVariable = c.settings.answerVariable := by rw [h.1.settings]
  rw [hname]
  split
  · exact ⟨rfl, { h.1 with globals := get?_insert_congr h.1.globals _ _ }, h.2⟩
  · exact ⟨rfl, h⟩
  · exact ⟨rfl, h⟩
  · exact ⟨rfl, { h.1 with }, h.2⟩

/-- **The outcome of a text** is the same in calculators that agree on a set of names with its
words, to which the functions keep, and the calculators agree on the set again. -/
theorem agree_evaluate {text : String} {c c' : Calculator α} (h : AgreeWithin N c c')
    (hwords : ∀ w ∈ c.wordsOf text, N w) :
    (outcome (evaluate text) c).1 = (outcome (evaluate text) c').1 ∧
      AgreeWithin N (outcome (evaluate text) c).2 (outcome (evaluate text) c').2 := by
  unfold evaluate
  rw [outcome_bind_ok (outcome_get c), outcome_bind_ok (outcome_get c'), h.1.read hwords]
  split
  · exact agree_fail _ c c' h
  · exact ⟨rfl, h⟩
  · rename_i e hread
    have he : ∀ m ∈ e.names, N m := fun m hm => hwords m (names_of_read hread m hm)
    refine ((agree_resolve he).bind fun o => ?_) c c' h
    cases o with
    | failure message => exact Agree.pure _
    | success base shown =>
      refine Agree.get_bind fun d d' hd => ?_
      rw [hd.1.settings]
      split
      · exact ((agree_keepAnswer base).bind fun _ => Agree.pure _) d d' hd
      · exact Agree.pure _ d d' hd

/-- **Unrelated definitions never change a result.** Two calculators that agree on the names that
matter to a text give the same for it, and agree on these names afterwards. -/
theorem evaluate_eq_of_relevant (text : String) (c c' : Calculator α)
    (h : c.AgreesOn (c.relevant text) c') :
    (outcome (evaluate text) c).1 = (outcome (evaluate text) c').1 ∧
      (outcome (evaluate text) c).2.AgreesOn (c.relevant text) (outcome (evaluate text) c').2 := by
  obtain ⟨hresult, hafter, -⟩ := agree_evaluate ⟨h, within_relevant⟩ fun w hw => .word hw
  exact ⟨hresult, hafter⟩

/-- The function `f(x) = x * k`. -/
def scaled : Function :=
  ⟨"f", [.name "x"], .binary .multiply (.name "x") (.name "k") "x * k", "x * k"⟩

/-- A calculator with this function and a value of `k`. -/
def scaling : Calculator Float :=
  { globals := Table.empty.insert "k" ⟨.pure 3, none⟩
    functions := Functions.define .empty scaled }

/-- The same calculator with a variable, a constant, a unit and a function more. -/
def scalingAmongOthers : Calculator Float :=
  { globals := scaling.globals.insert "y" ⟨.pure 5, none⟩
    constants := Table.empty.insert "c" ⟨.pure 7, none⟩
    inputUnits := Table.empty.insert "m" (.pure 1)
    functions := scaling.functions.define ⟨"g", [.name "x"], .name "y", "y"⟩ }

theorem relevant_scaling {n : String} (h : scaling.relevant "f(2)" n) : n ∈ ["f", "x", "k"] := by
  have honly {n k f} (hf : scaling.functions.get? (n, k) = some f) : f = scaled := by
    unfold scaling Functions.define at hf
    rw [Table.get?_insert] at hf
    split at hf
    · exact (Option.some.inj hf).symm
    · cases hf
  induction h with
  | word hn =>
    have hwords : scaling.wordsOf "f(2)" = ["f"] := by decide +kernel
    rw [hwords] at hn
    simp [List.mem_singleton.1 hn]
  | parameter _ hf hm _ =>
    rw [honly hf] at hm
    cases List.mem_singleton.1 hm
    decide
  | body _ hf hm _ =>
    rw [honly hf] at hm
    have hnames : scaled.body.names = ["x", "k"] := by decide
    rw [hnames] at hm
    exact List.mem_cons_of_mem _ hm

/-- Calls of the function are the same among others. -/
theorem evaluate_scaling_eq :
    (outcome (evaluate "f(2)") scaling).1 = (outcome (evaluate "f(2)") scalingAmongOthers).1 ∧
      (outcome (evaluate "f(2)") scaling).2.AgreesOn (scaling.relevant "f(2)")
        (outcome (evaluate "f(2)") scalingAmongOthers).2 := by
  have hne {n : String} (hn : scaling.relevant "f(2)" n) :
      n ≠ "y" ∧ n ≠ "c" ∧ n ≠ "m" ∧ n ≠ "g" := by
    have hmem := relevant_scaling hn
    revert hmem
    simp only [List.mem_cons, List.not_mem_nil, or_false]
    rintro (rfl | rfl | rfl) <;> decide
  refine evaluate_eq_of_relevant "f(2)" scaling scalingAmongOthers
    { settings := rfl, outputUnits := fun _ => rfl, builtins := rfl, room := rfl
      globals := fun n hn => ?_, constants := fun n hn => ?_, inputUnits := fun n hn => ?_
      functions := fun n k hn => ?_ }
  · exact (Table.get?_insert ..).trans (if_neg (hne hn).1.symm)
  · exact (Table.get?_insert ..).trans (if_neg (hne hn).2.1.symm)
  · exact (Table.get?_insert ..).trans (if_neg (hne hn).2.2.1.symm)
  · refine (Table.get?_insert ..).trans (if_neg fun h => ?_)
    exact (hne hn).2.2.2 (congrArg Prod.fst h).symm

end Calculator
end QuantityCalculus
