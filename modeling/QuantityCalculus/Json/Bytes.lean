/-
# JSON from bytes

The first two characters of a JSON text are ASCII, or it has only one. The zero bytes among
the first four therefore tell how wide its code units are and which end of a unit comes
first. A byte order mark of UTF-8 is passed over.

**Main statement.** Bytes without a zero are read as UTF-8
(`Encoding.ofBytes_of_no_zero`).
-/

import QuantityCalculus.Json.Read

namespace QuantityCalculus
namespace Json

/-- Which end of a code unit comes first. -/
inductive ByteOrder where
  | big
  | little
deriving Repr, DecidableEq

/-- How a text is kept in bytes. -/
inductive Encoding where
  | utf8
  | utf16 (order : ByteOrder)
  | utf32 (order : ByteOrder)
deriving Repr, DecidableEq

/-- The encoding that the first bytes of a JSON text tell. -/
def Encoding.ofBytes : List UInt8 → Encoding
  | [a, b] => if a = 0 then .utf16 .big else if b = 0 then .utf16 .little else .utf8
  | a :: b :: c :: d :: _ =>
    if a = 0 then if b = 0 then .utf32 .big else .utf16 .big
    else if b = 0 then if c = 0 ∧ d = 0 then .utf32 .little else .utf16 .little
    else .utf8
  | _ => .utf8

/-- The number of two bytes. -/
def ByteOrder.pair : ByteOrder → UInt8 → UInt8 → Nat
  | big, a, b => 256 * a.toNat + b.toNat
  | little, a, b => 256 * b.toNat + a.toNat

/-- The number of two pairs of bytes. -/
def ByteOrder.quad (o : ByteOrder) (a b c d : UInt8) : Nat :=
  match o with
  | big => 65536 * o.pair a b + o.pair c d
  | little => 65536 * o.pair c d + o.pair a b

/-- The characters of units of two bytes, before whose first the unit `high` stands that may
be the first of a pair. -/
def charsOfPairs (o : ByteOrder) : Option Nat → List UInt8 → Option (List Char)
  | high, [] => some (high.toList.map unitChar)
  | _, [_] => none
  | high, a :: b :: rest =>
    let n := o.pair a b
    match high with
    | some h =>
      if isLow n then (charsOfPairs o none rest).map (pairChar h n :: ·)
      else if isHigh n then (charsOfPairs o (some n) rest).map (unitChar h :: ·)
      else (charsOfPairs o none rest).map fun cs => unitChar h :: unitChar n :: cs
    | none =>
      if isHigh n then charsOfPairs o (some n) rest
      else (charsOfPairs o none rest).map (unitChar n :: ·)

/-- The characters of units of four bytes. -/
def charsOfQuads (o : ByteOrder) : List UInt8 → Option (List Char)
  | [] => some []
  | a :: b :: c :: d :: rest =>
    let n := o.quad a b c d
    if n < 0x110000 then (charsOfQuads o rest).map (unitChar n :: ·) else none
  | _ => none

/-- The characters that some bytes are read as. -/
def decode? (bytes : ByteArray) : Option (List Char) :=
  match Encoding.ofBytes bytes.toList with
  | .utf8 => (String.fromUTF8? bytes).map fun s =>
    match s.toList with
    | '\uFEFF' :: rest => rest
    | cs => cs
  | .utf16 o => charsOfPairs o none bytes.toList
  | .utf32 o => charsOfQuads o bytes.toList

/-- The value that some bytes stand for. -/
def readBytes (bytes : ByteArray) : Except ReadError Json :=
  match decode? bytes with
  | some cs => readCharacters cs
  | none => .error .undecodable

/-- **Bytes without a zero** are read as UTF-8. -/
theorem Encoding.ofBytes_of_no_zero {bytes : List UInt8} (h : 0 ∉ bytes) :
    Encoding.ofBytes bytes = .utf8 := by
  unfold Encoding.ofBytes
  split <;> simp_all [eq_comm]

end Json
end QuantityCalculus
