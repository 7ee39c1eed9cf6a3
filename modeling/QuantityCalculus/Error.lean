/-
# What can go wrong

A calculation fails with a cause; each cause belongs to one kind and has one wording.
Where a caller breaks a condition that is not part of the calculator's language (a
setting of the wrong type, a number too large for a double), the operation ends in a
`Fault` that is not a calculation error.
-/

import QuantityCalculus.Json.Read
import QuantityCalculus.Json.Shown

namespace QuantityCalculus

/-- The kinds of calculation errors. -/
inductive ErrorKind where
  | calculation
  | syntaxError
  | unitMismatch
  | lookup
  | invalidOperation
  | recursionLimit
  | snapshot
deriving Repr, DecidableEq

/-- Why a text is no expression; columns count from zero. -/
inductive SyntaxError where
  | nothing
  | unrecognized (column : Nat)
  | unclosed (column : Nat)
  | missingColon (column : Nat)
  | tooDeep
deriving Repr, DecidableEq

/-- An error that stands at a column, counted from one. -/
def atColumn (text : String) (column : Nat) : String :=
  text ++ " at column " ++ toString (column + 1) ++ "."

/-- The wording of a syntax error. -/
def SyntaxError.message : SyntaxError → String
  | nothing => "Nothing to evaluate."
  | unrecognized c => atColumn "Unrecognized token" c
  | unclosed c => atColumn "Bracket mismatch. Closing parenthesis expected" c
  | missingColon c => atColumn "Expected a colon" c
  | tooDeep => "Expression is nested too deeply."

/-- What units have to agree on, and do not. -/
inductive Mismatch where
  | addition
  | subtraction
  | factorial
  | exponent
  | bitwiseOr
  | bitwiseAnd
  | shift
  | comparison
  | conversion
  | base
  | notDimensionless (function : String)
  | notAngle (function : String)
  | notSame (function : String)
  | scalarText (text : String)
  | stated (message : String)
deriving Repr, DecidableEq

/-- The wording of a mismatch. -/
def Mismatch.message : Mismatch → String
  | addition => "Units do not match for addition."
  | subtraction => "Units do not match for subtraction."
  | factorial => "Cannot take the factorial of a quantity with units."
  | exponent => "Cannot raise to a power where the exponent contains units."
  | bitwiseOr => "Cannot take a bitwise OR of quantities with units."
  | bitwiseAnd => "Cannot take a bitwise AND of quantities with units."
  | shift => "Cannot shift quantities with units."
  | comparison => "Cannot compare quantities with different units."
  | conversion => "Cannot convert units as they don't match."
  | base => "Base units do not match."
  | notDimensionless f => "The argument of " ++ f ++ "() must be dimensionless."
  | notAngle f => "The argument of " ++ f ++ "() must be an angle or dimensionless."
  | notSame f => "The arguments of " ++ f ++ "() must have the same units."
  | scalarText t => "The scalar '" ++ t ++ "' must be dimensionless."
  | stated m => m

/-- A name that is not bound. -/
inductive Missing where
  | variable (name : String)
  | unit (name : String)
  | function (name : String) (arity : Nat)
  | customaryUnit (expression : String)
  | baseUnit (dimension expression : String)
deriving Repr, DecidableEq

/-- The wording of a failed look-up. -/
def Missing.message : Missing → String
  | .variable n => "Could not find a variable with the name '" ++ n ++ "'."
  | unit n => "Could not recognize unit '" ++ n ++ "'."
  | function n k =>
    "Could not find a function with the name '" ++ n ++ "' and " ++ toString k ++ " argument(s)."
  | customaryUnit e => "Pint does not know the unit '" ++ e ++ "'."
  | baseUnit d e => "The dimension " ++ d ++ " of '" ++ e ++ "' has no base unit."

/-- What a name is registered as. -/
inductive NameRole where
  | variable
  | constant
  | unit
  | function
deriving Repr, DecidableEq

/-- The word for a role. -/
def NameRole.word : NameRole → String
  | .variable => "variable"
  | constant => "constant"
  | unit => "unit"
  | function => "function"

/-- An operation that is not defined for its operands. -/
inductive Invalid where
  | divisionByZero
  | tooLarge
  | undefined
  | notFinite
  | fractionalPower
  | complexExponent
  | awkwardExponent
  | factorial
  | argument (function : String)
  | result (function : String)
  | squareRoot
  | roundingPlaces
  | scalarText (text : String)
  | notReal
  | assignmentTarget
  | parameter
  | name (text : String) (role : NameRole)
  | reservedName (word : String) (role : NameRole)
  | duplicateParameters (function : String)
  | outputDimension
  | outputZero
deriving Repr, DecidableEq

/-- The wording of an invalid operation. -/
def Invalid.message : Invalid → String
  | divisionByZero => "Division by zero."
  | tooLarge => "The result is too large to represent."
  | undefined => "The operation is not defined for these values."
  | notFinite => "Cannot convert a non-finite value to an integer."
  | fractionalPower =>
    "Cannot raise a negative number to a fractional power. Use the complex domain."
  | complexExponent => "Cannot raise units to a complex power."
  | awkwardExponent => "Cannot raise units to a power that is too complex."
  | factorial => "The factorial is not defined for negative integers."
  | argument f => "The argument of " ++ f ++ "() is outside its domain."
  | result f => "The result of " ++ f ++ "() is too large to represent."
  | squareRoot =>
    "Cannot calculate the square root of a negative number. " ++
      "If this was intended, please use the complex domain."
  | roundingPlaces => "The number of digits for round() must be finite."
  | scalarText t => "Could not evaluate the scalar '" ++ t ++ "'."
  | notReal => "The result is not a real number. Use the complex domain."
  | assignmentTarget => "Can only assign to variables or user functions."
  | parameter => "Function argument has to be a simple variable."
  | name t role => "'" ++ t ++ "' is not a valid " ++ role.word ++ " name."
  | reservedName w role =>
    "'" ++ w ++ "' is reserved and cannot be used as a " ++ role.word ++ " name."
  | duplicateParameters f => "Function '" ++ f ++ "' has duplicate argument names."
  | outputDimension => "Output units need a unit with dimensions."
  | outputZero => "The conversion factor of an output unit cannot be zero."

/-- A scalar in a snapshot that is not of the right shape. -/
inductive ScalarShape where
  | real (got : Json)
  | complex (got : Json)

/-- The wording of a scalar of the wrong shape. -/
def ScalarShape.message : ScalarShape → String
  | real got => "Expected a number, got " ++ got.shown ++ "."
  | complex got => "Expected a number or a [real, imaginary] pair, got " ++ got.shown ++ "."

/-- Why a value is no snapshot of a calculator. -/
inductive SnapshotError where
  | notJson (cause : Json.ReadError)
  | noWorkspace
  | scalarKind (got : Json)
  | otherKind (snapshot calculator : String)
  | part (name : String)
  | unknownSettings (names : List String)
  | settings (explanation : String)
  | unit (got : Json)
  | dimension (got : Json)
  | dimensionSize
  | exponents (got : Json)
  | zeroDenominator (symbol : String)
  | quantity (got : Json)
  | variable (got : Json)
  | description
  | outputUnit (got : Json)
  | function (got : Json)
  | entry (message : String)

/-- The wording of a refused snapshot. -/
def SnapshotError.message : SnapshotError → String
  | notJson cause => "The snapshot is not valid JSON: " ++ cause.message ++ "."
  | noWorkspace => "A snapshot needs a 'workspace' object."
  | scalarKind got => "Unknown scalar type " ++ got.shown ++ "."
  | otherKind snapshot calculator =>
    "The snapshot uses the " ++ snapshot ++ " domain but the workspace uses " ++ calculator ++ "."
  | part name => "The '" ++ name ++ "' section of the snapshot is malformed."
  | unknownSettings names => "Unknown workspace settings: " ++ String.intercalate ", " names ++ "."
  | settings explanation => "Invalid workspace settings: " ++ explanation
  | unit got => "Unrecognized unit " ++ got.shown ++ "."
  | dimension got => "Unrecognized unit dimension " ++ got.shown ++ "."
  | dimensionSize => "Expected up to 3 elements for a unit dimension."
  | exponents got => "Unit exponents must be integers, got " ++ got.shown ++ "."
  | zeroDenominator symbol => "The exponent of '" ++ symbol ++ "' has a zero denominator."
  | quantity got => "Expected a quantity object with an 's' field, got " ++ got.shown ++ "."
  | .variable got => "Expected a variable object with a 'q' field, got " ++ got.shown ++ "."
  | description => "A variable description must be text."
  | outputUnit got => "Malformed output unit " ++ got.shown ++ "."
  | function got => "Malformed user function " ++ got.shown ++ "."
  | entry message => message

/-- Why a calculation failed. -/
inductive CalcError where
  | scalar (shape : ScalarShape)
  | text (cause : SyntaxError)
  | units (cause : Mismatch)
  | missing (cause : Missing)
  | invalid (cause : Invalid)
  | callDepth (limit function : String)
  | snapshot (cause : SnapshotError)

/-- The kind of an error. -/
def CalcError.kind : CalcError → ErrorKind
  | scalar _ => .calculation
  | text _ => .syntaxError
  | units _ => .unitMismatch
  | missing _ => .lookup
  | invalid _ => .invalidOperation
  | callDepth .. => .recursionLimit
  | snapshot _ => .snapshot

/-- The wording of an error. -/
def CalcError.message : CalcError → String
  | scalar s => s.message
  | text s => s.message
  | units m => m.message
  | missing m => m.message
  | invalid i => i.message
  | callDepth limit function =>
    "Maximum function call depth of " ++ limit ++ " exceeded while calling '" ++ function ++ "'."
  | snapshot s => s.message

/-- A value that a caller may not pass. -/
inductive Misuse where
  | separatorLength
  | separatorsEqual
  | separators
  | callDepth
  | scalarKind (name : String)
  | unitSet (name : String)
  | logLevel (name : String)
  | noCapacity
  | noPrecision
  | precisionText (text : String)
  | precisionTooLong
  | precisionTooLarge
  | zeroDenominator
  | notANumber
  | undecodable
  | stated (message : String)
deriving Repr, DecidableEq

/-- The wording of a misuse. -/
def Misuse.message : Misuse → String
  | separatorLength => "separator and decimal must be single characters"
  | separatorsEqual => "separator and decimal must differ"
  | separators => "separator and decimal must be two different single characters"
  | callDepth => "max_call_depth must be at least 1"
  | scalarKind n => "Unknown domain '" ++ n ++ "'. Expected one of: real, complex"
  | unitSet n => "Unknown unit set '" ++ n ++ "'. Expected one of: common, electronics"
  | logLevel n => "Unknown log level '" ++ n ++ "'"
  | noCapacity => "min() arg is an empty sequence"
  | noPrecision => "Format specifier missing precision"
  | precisionText t => "Invalid format specifier '." ++ t ++ "g' for object of type 'float'"
  | precisionTooLong => "Too many decimal digits in format string"
  | precisionTooLarge => "precision too big"
  | zeroDenominator => "a denominator cannot be zero"
  | notANumber => "cannot convert float NaN to integer"
  | undecodable => "the bytes are no text"
  | stated m => m

/-- Why an operation ended without a result: a calculation error, or a condition outside
the calculator's language. -/
inductive Fault where
  | error (cause : CalcError)
  | misuse (cause : Misuse)
  | wrongType (explanation : String)
  | notObject
  | unknownKey
  | overflow
  | stackExhausted
  | malformedDecimal
  | decimalOverflow

instance : Coe CalcError Fault := ⟨Fault.error⟩
instance : Coe Misuse Fault := ⟨Fault.misuse⟩

/-! A step that fails with a narrower cause stands in a computation with a wider one. -/

instance : MonadLift (Except Mismatch) (Except CalcError) := ⟨Except.mapError CalcError.units⟩
instance : MonadLift (Except Missing) (Except CalcError) := ⟨Except.mapError CalcError.missing⟩
instance : MonadLift (Except Invalid) (Except CalcError) := ⟨Except.mapError CalcError.invalid⟩
instance : MonadLift (Except SyntaxError) (Except CalcError) := ⟨Except.mapError CalcError.text⟩
instance : MonadLift (Except SnapshotError) (Except CalcError) :=
  ⟨Except.mapError CalcError.snapshot⟩
instance : MonadLift (Except CalcError) (Except Fault) := ⟨Except.mapError Fault.error⟩
instance : MonadLift (Except Misuse) (Except Fault) := ⟨Except.mapError Fault.misuse⟩

end QuantityCalculus
