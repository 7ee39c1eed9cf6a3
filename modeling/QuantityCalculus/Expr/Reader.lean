/-
# Reading expressions

The grammar of expressions, loosest first:

* an assignment `a = b`, grouped to the right, over conditions `a ? b : c`;
* nine levels of operators grouped to the left: `||`, `&&`, `in`, `|`, `&`, equality,
  comparison, shifts, sums;
* products: the operators `*`, `/`, `%`, a word that follows without operator (a unit word
  with its own power) and a parenthesis that follows;
* integer quotients, signs and the stripping quote, powers, factorials;
* numbers with the unit words after them, names, units, calls and parentheses.

A reader takes tokens from the front and leaves the rest. What may stand inside itself (an
operand after a sign, an exponent, a branch, an argument, a parenthesis) is read by the
readers of the next depth, so reading is a recursion on the depth of nesting.
-/

import QuantityCalculus.Error
import QuantityCalculus.Expr.Basic
import QuantityCalculus.Expr.Token
import QuantityCalculus.Name

namespace QuantityCalculus
namespace Expr

/-- What reading depends on besides the tokens: the text they were taken from, and which
words are units. -/
structure Source where
  text : List Char
  isUnit : String → Bool

/-- An expression at the front of the tokens, and the tokens after it. -/
abbrev Reader := List Token → Except SyntaxError (Expr × List Token)

/-- The kind of the first token. -/
def kindOf (ts : List Token) : TokenKind := (ts.head?.map Token.kind).getD .endOfLine

/-- The column of the first token. -/
def columnOf (ts : List Token) : Nat := (ts.head?.map Token.column).getD 0

@[simp] theorem kindOf_nil : kindOf [] = .endOfLine := rfl

@[simp] theorem kindOf_cons (t : Token) (ts : List Token) : kindOf (t :: ts) = t.kind := rfl

@[simp] theorem columnOf_cons (t : Token) (ts : List Token) : columnOf (t :: ts) = t.column := rfl

/-- The text from a column up to the first of the tokens. -/
def Source.upTo (src : Source) (start : Nat) (ts : List Token) : String :=
  slice src.text start (columnOf ts)

/-- Levels of operators that are grouped to the left, above products. -/
inductive Level where
  | logicalOr
  | logicalAnd
  | conversion
  | bitwiseOr
  | bitwiseAnd
  | equality
  | comparison
  | shift
  | sum
deriving Repr, DecidableEq

/-- The levels, loosest first. -/
def Level.all : List Level :=
  [.logicalOr, .logicalAnd, .conversion, .bitwiseOr, .bitwiseAnd, .equality, .comparison, .shift,
    .sum]

/-- The operator of a level that a token stands for. -/
def Level.operator? (l : Level) (t : Token) : Option BinaryOp :=
  match l, t.kind with
  | logicalOr, .logicalOr => some .logicalOr
  | logicalAnd, .logicalAnd => some .logicalAnd
  | conversion, .word => if t.content = Name.reserved then some .inUnit else none
  | bitwiseOr, .bitwiseOr => some .bitwiseOr
  | bitwiseAnd, .bitwiseAnd => some .bitwiseAnd
  | equality, .equal => some .equal
  | equality, .notEqual => some .notEqual
  | comparison, .less => some .less
  | comparison, .lessEqual => some .lessEqual
  | comparison, .greater => some .greater
  | comparison, .greaterEqual => some .greaterEqual
  | shift, .shiftLeft => some .shiftLeft
  | shift, .shiftRight => some .shiftRight
  | sum, .plus => some .add
  | sum, .minus => some .subtract
  | _, _ => none

/-- The operator of a product that a token stands for. -/
def factorOperator? (t : Token) : Option BinaryOp :=
  match t.kind with
  | .multiply => some .multiply
  | .divide => some .divide
  | .modulo => some .modulo
  | _ => none

/-- The operator of integer quotients. -/
def quotientOperator? (t : Token) : Option BinaryOp :=
  if t.kind = .intDivide then some .intDivide else none

/-- The operator that a token stands for in front of its operand. -/
def leadingOperator? (k : TokenKind) : Option UnaryOp :=
  match k with
  | .plus => some .plus
  | .minus => some .minus
  | .quote => some .removeUnits
  | _ => none

/-- A closing parenthesis, and the tokens after it. -/
def closing (ts : List Token) : Except SyntaxError (List Token) :=
  if kindOf ts = .rightParen then .ok ts.tail else .error (.unclosed (columnOf ts))

/-- One operator and its right operand, if they follow, and the tokens after them. -/
abbrev Next := List Token → Except SyntaxError (Option (BinaryOp × Expr × List Token))

/-- Groups operators and right operands to the left as long as they follow. `fuel` bounds
their number and need not exceed the number of tokens. -/
def groupLeft (src : Source) (next : Next) (start : Nat) : Nat → Expr → Reader
  | 0, left, ts => .ok (left, ts)
  | fuel + 1, left, ts => do
    match ← next ts with
    | none => return (left, ts)
    | some (op, right, rest) =>
      groupLeft src next start fuel (.binary op left right (src.upTo start rest)) rest

/-- An operator and an operand of the next level. -/
def nextOperand (operator? : Token → Option BinaryOp) (operand : Reader) : Next := fun ts =>
  match ts with
  | [] => .ok none
  | t :: rest =>
    match operator? t with
    | none => .ok none
    | some op => do
      let (right, after) ← operand rest
      return some (op, right, after)

/-- One level of operators grouped to the left. -/
def chain (src : Source) (operator? : Token → Option BinaryOp) (operand : Reader) : Reader :=
  fun ts => do
    let (left, rest) ← operand ts
    groupLeft src (nextOperand operator? operand) (columnOf ts) rest.length left rest

/-- The readers of what may stand inside an expression again. -/
structure Readers where
  assignment : Reader
  condition : Reader
  signed : Reader
  exponent : Reader
  power : Reader

/-- An expression after an opening parenthesis, with the closing one. -/
def parenthesised (inner : Readers) : Reader := fun ts => do
  let (e, rest) ← inner.assignment ts
  return (e, ← closing rest)

/-- Arguments with separators between them. `fuel` bounds their number. -/
def arguments (inner : Readers) :
    Nat → List Token → Except SyntaxError (List Expr × List Token)
  | 0, ts => .error (.unrecognized (columnOf ts))
  | fuel + 1, ts => do
    let (e, rest) ← inner.assignment ts
    if kindOf rest = .separator then
      let (es, rest) ← arguments inner fuel rest.tail
      return (e :: es, rest)
    else return ([e], rest)

/-- A call from its opening parenthesis on. -/
def callOf (src : Source) (inner : Readers) (start : Nat) (function : String) : Reader :=
  fun ts => do
    if kindOf ts.tail = .rightParen then
      let rest := ts.tail.tail
      return (.call function [] (src.upTo start rest), rest)
    else
      let (args, rest) ← arguments inner ts.length ts.tail
      let rest ← closing rest
      return (.call function args (src.upTo start rest), rest)

/-- A unit word after a number, with its power. -/
def nextUnit (src : Source) (inner : Readers) : Next := fun ts =>
  match ts with
  | [] => .ok none
  | t :: _ =>
    if t.kind = .word ∧ src.isUnit t.content then do
      let (right, after) ← inner.power ts
      return some (.multiply, right, after)
    else .ok none

/-- A number, a name, a unit, a call or a parenthesis. The unit words after a number belong
to it unless it stands in an exponent. -/
def elementary (src : Source) (inner : Readers) (withUnits : Bool) : Reader := fun ts =>
  match ts with
  | [] => .error (.unrecognized 0)
  | t :: rest =>
    match t.kind with
    | .leftParen => parenthesised inner rest
    | .scalar =>
      if withUnits then
        groupLeft src (nextUnit src inner) t.column rest.length (.scalar t.content) rest
      else .ok (.scalar t.content, rest)
    | .word =>
      if kindOf rest = .leftParen then callOf src inner t.column t.content rest
      else if src.isUnit t.content then .ok (.unit t.content, rest)
      else .ok (.name t.content, rest)
    | _ => .error (.unrecognized t.column)

/-- The factorial signs that follow an operand. -/
def factorials (src : Source) (start : Nat) : Expr → List Token → Expr × List Token
  | e, [] => (e, [])
  | e, t :: rest =>
    if t.kind = .factorial then
      factorials src start (.unary .factorial e (src.upTo start rest)) rest
    else (e, t :: rest)

/-- An operand with its factorial signs and at most one exponent. -/
def power (src : Source) (inner : Readers) (withUnits : Bool) : Reader := fun ts => do
  let start := columnOf ts
  let (operand, rest) ← elementary src inner withUnits ts
  let (base, rest) := factorials src start operand rest
  if kindOf rest = .power then
    let (exponent, rest) ← inner.exponent rest.tail
    return (.binary .power base exponent (src.upTo start rest), rest)
  else return (base, rest)

/-- An operator in front of a nested operand, or a plain operand. -/
def leading (src : Source) (nested plain : Reader) : Reader := fun ts =>
  match leadingOperator? (kindOf ts) with
  | none => plain ts
  | some op => do
    let (e, rest) ← nested ts.tail
    return (.unary op e (src.upTo (columnOf ts) rest), rest)

/-- The next factor of a product: after an operator, a word or a parenthesis. -/
def nextFactor (src : Source) (inner : Readers) (quotient : Reader) : Next := fun ts =>
  match ts with
  | [] => .ok none
  | t :: rest =>
    match factorOperator? t with
    | some op => do
      let (right, after) ← quotient rest
      return some (op, right, after)
    | none =>
      if t.kind = .word ∧ t.content ≠ Name.reserved then
        if src.isUnit t.content then do
          let (right, after) ← power src inner true ts
          return some (.multiply, right, after)
        else .ok (some (.multiply, .name t.content, rest))
      else if t.kind = .leftParen then do
        let (right, after) ← parenthesised inner rest
        return some (.multiply, right, after)
      else .ok none

/-- An operand with the signs in front of it. -/
def signed (src : Source) (inner : Readers) : Reader :=
  leading src inner.signed (power src inner true)

/-- An exponent: signs, and a power whose numbers take no unit words. -/
def exponent (src : Source) (inner : Readers) : Reader :=
  leading src inner.exponent (power src inner false)

/-- Integer quotients of signed operands. -/
def quotient (src : Source) (inner : Readers) : Reader :=
  chain src quotientOperator? (signed src inner)

/-- Products. -/
def product (src : Source) (inner : Readers) : Reader := fun ts => do
  let (left, rest) ← quotient src inner ts
  groupLeft src (nextFactor src inner (quotient src inner)) (columnOf ts) rest.length left rest

/-- The levels of operators over products. -/
def operation (src : Source) (inner : Readers) : Reader :=
  Level.all.foldr (fun l operand => chain src l.operator? operand) (product src inner)

/-- A condition with its branches, or a plain operation. -/
def condition (src : Source) (inner : Readers) : Reader := fun ts => do
  let (e, rest) ← operation src inner ts
  if kindOf rest = .question then
    let (yes, rest) ← inner.condition rest.tail
    if kindOf rest = .colon then
      let (no, rest) ← inner.condition rest.tail
      return (.conditional e yes no (src.upTo (columnOf ts) rest), rest)
    else .error (.missingColon (columnOf rest))
  else return (e, rest)

/-- An assignment, or a plain condition. -/
def assignment (src : Source) (inner : Readers) : Reader := fun ts => do
  let (target, rest) ← condition src inner ts
  if kindOf rest = .assign then
    let (value, rest) ← inner.assignment rest.tail
    return (.binary .assign target value (src.upTo (columnOf ts) rest), rest)
  else return (target, rest)

/-- The readers for a depth of nesting; below the last depth nothing is read. -/
def readers (src : Source) : Nat → Readers
  | 0 =>
    let deep : Reader := fun _ => .error .tooDeep
    ⟨deep, deep, deep, deep, deep⟩
  | depth + 1 =>
    let inner := readers src depth
    ⟨assignment src inner, condition src inner, signed src inner, exponent src inner,
      power src inner true⟩

/-- The expression that the tokens up to the end stand for, nested at most `depth` deep. -/
def ofTokens (src : Source) (depth : Nat) (ts : List Token) : Except SyntaxError Expr :=
  if kindOf ts = .endOfLine then .error .nothing
  else do
    let (e, rest) ← (readers src depth).assignment ts
    if kindOf rest = .endOfLine then return e else throw (.unrecognized (columnOf rest))

/-- The expression that a text stands for, nested at most `depth` deep, given its marks and the
words that are units. -/
def readWithin (depth : Nat) (marks : Marks) (isUnit : String → Bool) (text : String) :
    Except SyntaxError Expr :=
  ofTokens ⟨text.toList, isUnit⟩ depth (Token.scan marks text)

/-- The deepest nesting that is read. -/
def deepest : Nat := 250

/-- The expression that a text stands for, given its marks and the words that are units. -/
def read (marks : Marks) (isUnit : String → Bool) (text : String) : Except SyntaxError Expr :=
  readWithin deepest marks isUnit text

end Expr
end QuantityCalculus
