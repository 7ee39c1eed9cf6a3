/-
# Expressions

The tree of an expression. Each node keeps the text that it was read from.
-/

namespace QuantityCalculus

/-- Operators with one operand. -/
inductive UnaryOp where
  | plus
  | minus
  | factorial
  | removeUnits
deriving Repr, DecidableEq

/-- Operators with two operands. -/
inductive BinaryOp where
  | assign
  | inUnit
  | logicalOr
  | logicalAnd
  | bitwiseOr
  | bitwiseAnd
  | equal
  | notEqual
  | less
  | lessEqual
  | greater
  | greaterEqual
  | shiftLeft
  | shiftRight
  | add
  | subtract
  | multiply
  | divide
  | modulo
  | intDivide
  | power
deriving Repr, DecidableEq

/-- An expression. -/
inductive Expr where
  | scalar (content : String)
  | name (content : String)
  | unit (content : String)
  | unary (op : UnaryOp) (operand : Expr) (content : String)
  | binary (op : BinaryOp) (left right : Expr) (content : String)
  | conditional (condition yes no : Expr) (content : String)
  | call (function : String) (arguments : List Expr) (content : String)
deriving Inhabited

namespace Expr

mutual

/-- Whether two expressions are the same, with all contents inside them. -/
def same : Expr → Expr → Bool
  | scalar a, scalar b | name a, name b | unit a, unit b => a == b
  | unary o a s, unary o' a' s' => o == o' && (same a a' && s == s')
  | binary o a b s, binary o' a' b' s' => o == o' && (same a a' && (same b b' && s == s'))
  | conditional a b c s, conditional a' b' c' s' =>
    same a a' && (same b b' && (same c c' && s == s'))
  | call f as s, call f' as' s' => f == f' && (sameAll as as' && s == s')
  | _, _ => false

/-- Whether two lists of expressions are the same. -/
def sameAll : List Expr → List Expr → Bool
  | [], [] => true
  | a :: as, b :: bs => same a b && sameAll as bs
  | _, _ => false

end

mutual

theorem same_iff : (a b : Expr) → (same a b = true ↔ a = b)
  | scalar _, b | name _, b | unit _, b => by cases b <;> simp [same]
  | unary o a s, b => by cases b <;> simp [same, same_iff a]
  | binary o a a' s, b => by cases b <;> simp [same, same_iff a, same_iff a']
  | conditional a a' a'' s, b => by
    cases b <;> simp [same, same_iff a, same_iff a', same_iff a'']
  | call f as s, b => by cases b <;> simp [same, sameAll_iff as]

theorem sameAll_iff : (as bs : List Expr) → (sameAll as bs = true ↔ as = bs)
  | [], bs => by cases bs <;> simp [sameAll]
  | a :: as, bs => by cases bs <;> simp [sameAll, same_iff a, sameAll_iff as]

end

instance : DecidableEq Expr := fun a b => decidable_of_iff (same a b = true) (same_iff a b)

/-- The text that a node was read from. -/
def content : Expr → String
  | scalar c | name c | unit c => c
  | unary _ _ c | binary _ _ _ c | conditional _ _ _ c | call _ _ c => c

mutual

/-- A node and all below it, each before its parts. -/
def walk : Expr → List Expr
  | e@(unary _ a _) => e :: walk a
  | e@(binary _ a b _) => e :: (walk a ++ walk b)
  | e@(conditional a b c _) => e :: (walk a ++ (walk b ++ walk c))
  | e@(call _ as _) => e :: walkAll as
  | e => [e]

/-- The nodes of a list of expressions. -/
def walkAll : List Expr → List Expr
  | [] => []
  | a :: as => walk a ++ walkAll as

end

/-- The two sides of a conversion `value in target`. -/
def conversion? : Expr → Option (Expr × Expr)
  | binary .inUnit a b _ => some (a, b)
  | _ => none

/-- The two sides of a conversion that drops the unit, `'value in target`. -/
def strippedConversion? : Expr → Option (Expr × Expr)
  | binary .inUnit (unary .removeUnits a _) b _ => some (a, b)
  | _ => none

/-- Whether an expression defines a function, `f(x) = …`. -/
def definesFunction : Expr → Bool
  | binary .assign (call ..) _ _ => true
  | _ => false

end Expr
end QuantityCalculus
