/-
# Text from bytes

Bytes are read as UTF-8. The replacement character stands for bytes that start a character
and do not finish it, and for a byte that starts none.

**Main statement.** Bytes of ASCII are the characters of their values
(`charsFrom_ascii`).
-/

namespace QuantityCalculus
namespace Text

/-- The start of a character: how many bytes are missing, between which bounds the next one
lies, and the value of those before. -/
structure Pending where
  missing : Nat
  least : Nat
  most : Nat
  value : Nat
deriving Repr, DecidableEq

/-- What the first byte of several starts. The bounds of the second byte leave out overlong
forms, halves of surrogate pairs and values beyond the last code point. -/
def Pending.ofFirst? (b : Nat) : Option Pending :=
  if 0xC2 ≤ b ∧ b ≤ 0xDF then some ⟨1, 0x80, 0xBF, b - 0xC0⟩
  else if 0xE0 ≤ b ∧ b ≤ 0xEF then
    some ⟨2, if b = 0xE0 then 0xA0 else 0x80, if b = 0xED then 0x9F else 0xBF, b - 0xE0⟩
  else if 0xF0 ≤ b ∧ b ≤ 0xF4 then
    some ⟨3, if b = 0xF0 then 0x90 else 0x80, if b = 0xF4 then 0x8F else 0xBF, b - 0xF0⟩
  else none

/-- The characters that a byte completes where nothing is pending, and what it starts. -/
def start (b : Nat) : List Char × Option Pending :=
  if b < 0x80 then ([Char.ofNat b], none)
  else match Pending.ofFirst? b with
    | some p => ([], some p)
    | none => (['\uFFFD'], none)

/-- The characters that a byte completes, and what is pending after it. -/
def Pending.next (p : Pending) (b : Nat) : List Char × Option Pending :=
  if p.least ≤ b ∧ b ≤ p.most then
    let value := 64 * p.value + (b - 0x80)
    if p.missing = 1 then ([Char.ofNat value], none)
    else ([], some ⟨p.missing - 1, 0x80, 0xBF, value⟩)
  else ('\uFFFD' :: (start b).1, (start b).2)

/-- The characters of some bytes, after what is pending. -/
def charsFrom : Option Pending → List UInt8 → List Char
  | none, [] => []
  | some _, [] => ['\uFFFD']
  | none, b :: rest => (start b.toNat).1 ++ charsFrom (start b.toNat).2 rest
  | some p, b :: rest => (p.next b.toNat).1 ++ charsFrom (p.next b.toNat).2 rest

/-- The text of some bytes. -/
def ofBytes (bytes : List UInt8) : String := String.ofList (charsFrom none bytes)

/-- **Bytes of ASCII** are the characters of their values. -/
theorem charsFrom_ascii {bytes : List UInt8} (h : ∀ b ∈ bytes, b.toNat < 0x80) :
    charsFrom none bytes = bytes.map fun b => Char.ofNat b.toNat := by
  induction bytes with
  | nil => rfl
  | cons b rest ih =>
    have hb : b.toNat < 0x80 := h b (by simp)
    have hrest := ih fun c hc => h c (by simp [hc])
    simp [charsFrom, start, hb, hrest]

end Text
end QuantityCalculus
