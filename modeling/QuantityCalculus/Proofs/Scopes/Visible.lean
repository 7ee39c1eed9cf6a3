/-
# What a call sees of its callers

A name that a body mentions besides its own parameters is looked up along the chain of calling
frames before the variables and constants. So the callers' bindings of such names decide, and no
others: frames that bind none of them might as well not be there, and parameters may be renamed
as long as no other body mentions their old or new names.

**Main statement.** `callFrom_eq_of_bindings`: calls from two chains of frames.
-/

import QuantityCalculus.Proofs.Calculator.Built
import QuantityCalculus.Proofs.Calculator.Definitions
import QuantityCalculus.Proofs.Scopes.Calls

namespace QuantityCalculus

namespace Expr

mutual

/-- An expression reads or assigns the name, which is none of its `own`. A function that it
defines brings its own parameters. -/
def Mentions (n : String) : (String → Prop) → Expr → Prop
  | _, scalar _ | _, unit _ => False
  | own, name m => m = n ∧ ¬own m
  | own, unary _ a _ => Mentions n own a
  | _, binary .assign (call _ parameters _) body _ =>
    ∃ names, parameterNames parameters = .ok names ∧ Mentions n (Parameter.Binds names) body
  | own, binary _ a b _ => Mentions n own a ∨ Mentions n own b
  | own, conditional c a b _ => Mentions n own c ∨ Mentions n own a ∨ Mentions n own b
  | own, call _ as _ => MentionsAny n own as

/-- One of the expressions mentions the name. -/
def MentionsAny (n : String) : (String → Prop) → List Expr → Prop
  | _, [] => False
  | own, a :: as => Mentions n own a ∨ MentionsAny n own as

end

theorem names_or_own {K : Common} {own : String → Prop} {m : String}
    (h : ∀ n, m = n ∧ ¬own m → K.names n) : K.names m ∨ own m :=
  (Classical.em (own m)).symm.imp_left fun hm => h m ⟨rfl, hm⟩

mutual

/-- An expression is like itself as long as what it mentions is common. -/
theorem alike_self {K : Common} (hkeys : ∀ k, K.keys k) : (own : String → Prop) → (e : Expr) →
    (∀ n, e.Mentions n own → K.names n) → e.Alike K own id e
  | _, .scalar text, _ => .scalar text
  | _, .unit word, _ => .unit word
  | _, .name _, h => .name (names_or_own h)
  | own, .unary _ a _, h => .unary (alike_self hkeys own a h)
  | own, .binary op a b _, h => by
    by_cases hop : op = .assign
    · subst hop
      cases a with
      | name m =>
        exact .assign (names_or_own fun n hn => h n (.inl hn))
          (alike_self hkeys own b fun n hn => h n (.inr hn))
      | call f parameters s =>
        exact .define fun _ names hnames => alike_self hkeys _ b fun n hn => h n ⟨names, hnames, hn⟩
      | _ => exact .badTarget nofun nofun nofun nofun
    · have hsides : ∀ n, a.Mentions n own ∨ b.Mentions n own → K.names n := by
        intro n hn
        refine h n ?_
        rw [Mentions]
        · exact hn
        · exact fun _ _ _ h _ => hop h
      exact .binary hop (alike_self hkeys own a fun n hn => hsides n (.inl hn))
        (alike_self hkeys own b fun n hn => hsides n (.inr hn))
  | own, .conditional c a b _, h =>
    .conditional (alike_self hkeys own c fun n hn => h n (.inl hn))
      (alike_self hkeys own a fun n hn => h n (.inr (.inl hn)))
      (alike_self hkeys own b fun n hn => h n (.inr (.inr hn)))
  | own, .call _ as _, h => .call (hkeys _) (alikeAll_self hkeys own as h)

/-- Expressions are like themselves as long as what they mention is common. -/
theorem alikeAll_self {K : Common} (hkeys : ∀ k, K.keys k) : (own : String → Prop) →
    (es : List Expr) → (∀ n, MentionsAny n own es → K.names n) → AlikeAll K own id es es
  | _, [], _ => .nil
  | own, a :: as, h => .cons (alike_self hkeys own a fun n hn => h n (.inl hn))
      (alikeAll_self hkeys own as fun n hn => h n (.inr hn))

end

end Expr

/-- What the bodies of a table have in common at most: all names that one of them mentions besides
its parameters. -/
def Functions.common (fs : Functions) : Common where
  names n := ∃ e ∈ fs.toList, e.2.body.Mentions n (Parameter.Binds e.2.parameters)
  keys _ := True

/-- A table is like itself. -/
theorem Functions.Sound.alike_self {fs : Functions} (h : fs.Sound) : fs.Alike fs.common fs := by
  intro k _
  cases hf : fs.get? k with
  | none => exact .inl ⟨rfl, rfl⟩
  | some f =>
    have hmem : (k, f) ∈ fs.toList := Table.get?_eq_some_iff.1 hf
    refine .inr ⟨f, f, rfl, rfl, congrArg Prod.snd (h _ hmem).1.symm, rfl, id, renames_id _ _,
      (map_rename_id f.parameters).symm, ?_⟩
    exact Expr.alike_self (fun _ => trivial) _ f.body fun n hn => ⟨(k, f), hmem, hn⟩

namespace Calculator

variable {α : Type} [Scalar α]

/-- The result of a call inside the given frames, the innermost first, when so many more calls may
be opened. -/
def callFrom (c : Calculator α) (left : Nat) (room : Room) (name : String)
    (arguments : List (Quantity α)) : List (Scope α) → Except Fault (Quantity α)
  | [] =>
    (outcome (Expr.applyFunction c.context (Expr.callWithin left c.context) room name arguments)
      ⟨c.globals, c.functions⟩).1
  | scope :: frames =>
    let inside := { c.context with outer := frames ++ c.scopes }
    (outcome (Expr.applyFunction inside (Expr.callWithin left inside) room name arguments)
      ⟨scope, c.functions⟩).1

/-- A call is made in the innermost of the frames, the variables and the constants. -/
theorem callFrom_eq (c : Calculator α) (left : Nat) (room : Room) (name : String)
    (arguments : List (Quantity α)) (frames : List (Scope α)) :
    ∃ scope outer, scope :: outer = frames ++ c.scopes ∧
      c.callFrom left room name arguments frames =
        (outcome (Expr.applyFunction { c.context with outer }
          (Expr.callWithin left { c.context with outer }) room name arguments)
          ⟨scope, c.functions⟩).1 := by
  cases frames with
  | nil => exact ⟨c.globals, [c.constants], rfl, rfl⟩
  | cons scope frames => exact ⟨scope, frames ++ c.scopes, rfl, rfl⟩

/-- Calls from two chains of frames give the same if the frames bind what is common alike. -/
theorem callFrom_agree {K : Common} {c c' : Calculator α}
    (htools : Expr.SameTools c.context c'.context) (hfs : c.functions.Alike K c'.functions)
    {left : Nat} {room : Room} {name : String} {arguments : List (Quantity α)}
    (hkey : K.keys (name, arguments.length)) {frames frames' : List (Scope α)}
    (hbound : ∀ n, K.names n → valueIn (frames ++ c.scopes) n = valueIn (frames' ++ c'.scopes) n) :
    c.callFrom left room name arguments frames = c'.callFrom left room name arguments frames' := by
  obtain ⟨scope, outer, hscopes, hcall⟩ := callFrom_eq c left room name arguments frames
  obtain ⟨scope', outer', hscopes', hcall'⟩ := callFrom_eq c' left room name arguments frames'
  have htools' : Expr.SameTools { c.context with outer } { c'.context with outer := outer' } :=
    ⟨htools.units, htools.builtins, htools.settings⟩
  have hlinked : Linked K outer outer' (fun _ => False) id ⟨scope, c.functions⟩
      ⟨scope', c'.functions⟩ :=
    ⟨hfs, fun n hn => by rw [hscopes, hscopes', hbound n hn], fun _ hn => hn.elim⟩
  rw [hcall, hcall']
  exact (Expr.agree_applyFunction htools' (Expr.callsAgree_callWithin left htools' _ id) room name
    arguments hkey _ _ hlinked).1

/-- A calculator with `y = 2` and the function `g`, which gives `y` whatever its argument. -/
def outside (parameter : String) : Calculator Float where
  globals := Table.empty.insert "y" ⟨.pure 2, none⟩
  functions := Functions.define .empty ⟨"g", [.name parameter], .name "y", "y"⟩
  builtins := Builtin.ofKind .real

theorem reachable_outside : (outside "x").Reachable := by
  have hdefined : Built { outside "x" with globals := .empty } :=
    .step (.registerTree (.str "g") (.arr [.str "x"]) (.name "y")) trivial built_fresh
  have hbound : Built (outside "x") :=
    .step (.assignVariable "y" (.pure 2)) (.inl (by decide +kernel)) hdefined
  exact hbound.reachable

/-- Only `y` is common, so the parameter of `g` may be renamed. -/
theorem alike_outside : (outside "x").functions.Alike ⟨(· = "y"), fun _ => True⟩
    (outside "z").functions := by
  let ρ : String → String := fun n => if n = "x" then "z" else n
  have hnames : ∀ n, n = "y" ∨ Parameter.Binds [.name "x"] n → n = "y" ∨ n = "x" := fun n hn =>
    hn.imp_right fun h => Parameter.name.inj (List.mem_singleton.1 h)
  have hρ : Renames ⟨(· = "y"), fun _ => True⟩ (Parameter.Binds [.name "x"]) ρ := by
    refine ⟨fun n hn => ?_, fun m n hm hn heq => ?_⟩
    · cases hn
      rfl
    · rcases hnames m hm with rfl | rfl <;> rcases hnames n hn with rfl | rfl
      · rfl
      · exact absurd heq (by decide)
      · exact absurd heq (by decide)
      · rfl
  refine Functions.Alike.define (fun _ _ => .inl ⟨rfl, rfl⟩) rfl rfl fun _ => ?_
  exact ⟨rfl, ρ, hρ, rfl, .name (.inl rfl)⟩

/-- **What a call gives depends on its callers by the names that bodies mention.** Calls from two
chains of frames give the same if each name that a body mentions besides its parameters means the
same in both; frames that bind no such name make no difference; and with other functions, which may
have their parameters renamed, calls give the same if each name that is common to the bodies at
hand means the same. -/
theorem callFrom_eq_of_bindings {c : Calculator α} (hc : c.Reachable) (left : Nat) (room : Room)
    (name : String) (arguments : List (Quantity α)) :
    (∀ frames frames', (∀ n, c.functions.common.names n →
        valueIn (frames ++ c.scopes) n = valueIn (frames' ++ c.scopes) n) →
      c.callFrom left room name arguments frames = c.callFrom left room name arguments frames') ∧
    (∀ frames, (∀ frame ∈ frames, ∀ n, c.functions.common.names n → frame.get? n = none) →
      c.callFrom left room name arguments frames = c.callFrom left room name arguments []) ∧
    ∀ (K : Common) (c' : Calculator α), Expr.SameTools c.context c'.context →
      c.functions.Alike K c'.functions → K.keys (name, arguments.length) →
      ∀ frames frames',
        (∀ n, K.names n → valueIn (frames ++ c.scopes) n = valueIn (frames' ++ c'.scopes) n) →
        c.callFrom left room name arguments frames =
          c'.callFrom left room name arguments frames' := by
  have hself : c.functions.Alike c.functions.common c.functions := hc.sound.functions.alike_self
  refine ⟨fun frames frames' hbound => callFrom_agree ⟨rfl, rfl, rfl⟩ hself trivial hbound,
    fun frames hframes => ?_,
    fun K c' htools hfs hkey frames frames' hbound => callFrom_agree htools hfs hkey hbound⟩
  refine callFrom_agree ⟨rfl, rfl, rfl⟩ hself trivial fun n hn => ?_
  exact valueIn_append fun frame hframe => hframes frame hframe n hn

/-- A call of `g` from within a call with the parameter `x` gives what `g` with its parameter
renamed gives from within a call with the parameter `z`, and what it gives outside of any call. -/
theorem callFrom_outside :
    (outside "x").callFrom 1 none "g" [.pure 3] [Table.empty.insert "x" ⟨.pure 5, none⟩] =
        (outside "z").callFrom 1 none "g" [.pure 3] [Table.empty.insert "z" ⟨.pure 7, none⟩] ∧
      (outside "x").callFrom 1 none "g" [.pure 3] [Table.empty.insert "x" ⟨.pure 5, none⟩] =
        (outside "x").callFrom 1 none "g" [.pure 3] [] := by
  have h := callFrom_eq_of_bindings reachable_outside 1 none "g" [.pure 3]
  refine ⟨h.2.2 _ (outside "z") ⟨rfl, rfl, rfl⟩ alike_outside trivial _ _ fun n hn => ?_,
    h.2.1 _ fun frame hframe n hn => ?_⟩
  · cases hn
    rfl
  · obtain rfl := List.mem_singleton.1 hframe
    obtain ⟨e, he, hmentions⟩ := hn
    obtain rfl := List.mem_singleton.1 he
    obtain ⟨rfl, -⟩ := hmentions
    rfl

/-- A call of `g` from within a call with the parameter `y` gives the argument of that call. -/
theorem callFrom_outside_ne :
    (outside "x").callFrom 1 none "g" [.pure 3]
        [Table.empty.insert "y" ⟨⟨5, .ofSymbol "m"⟩, none⟩] ≠
      (outside "x").callFrom 1 none "g" [.pure 3] [] := by
  intro h
  have hunits := congrArg (fun r => r.toOption.map Quantity.units) h
  revert hunits
  decide +kernel

end Calculator
end QuantityCalculus
