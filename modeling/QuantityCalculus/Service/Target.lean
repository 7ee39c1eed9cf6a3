/-
# Targets

A request is directed at a target, a URL of which only the path counts: what stands after
the scheme and the authority and before a question mark or a number sign. Control
characters and spaces in front and line breaks and tabs anywhere are no part of it. A
path that is itself written like a URL counts as one. In the path percent escapes stand
for the bytes of a text.

**Main statement.** A path without an escape is read as it is written
(`decodedBytes_of_no_percent`).
-/

import QuantityCalculus.Json.Read
import QuantityCalculus.Text.Bytes

namespace QuantityCalculus
namespace Target

/-- A URL without what is no part of it. -/
def cleaned (url : List Char) : List Char :=
  (url.dropWhile fun c => c.toNat ≤ 0x20).filter fun c => c ≠ '\t' ∧ c ≠ '\n' ∧ c ≠ '\r'

/-- Whether a character may stand in a scheme. -/
def isSchemeChar (c : Char) : Bool := c.isAlphanum || c == '+' || c == '-' || c == '.'

/-- A URL without its scheme. -/
def afterScheme (url : List Char) : List Char :=
  let scheme := url.takeWhile (· ≠ ':')
  match url.dropWhile (· ≠ ':') with
  | _ :: rest =>
    if (scheme.head?.elim false Char.isAlpha) && scheme.all isSchemeChar then rest else url
  | [] => url

/-- Whether a character ends an authority. -/
def endsAuthority (c : Char) : Bool := c == '/' || c == '?' || c == '#'

/-- A URL, which has no scheme, without its authority. -/
def afterAuthority : List Char → List Char
  | '/' :: '/' :: rest => rest.dropWhile fun c => !endsAuthority c
  | url => url

/-- The path of a URL. -/
def path (url : List Char) : List Char :=
  (afterAuthority (afterScheme (cleaned url))).takeWhile fun c => c ≠ '?' ∧ c ≠ '#'

/-- Percent escapes as the bytes they stand for, among the bytes of the other characters. -/
def decodedBytes : List Char → List UInt8
  | [] => []
  | '%' :: a :: b :: rest =>
    match Json.hexValue? a, Json.hexValue? b with
    | some m, some n => UInt8.ofNat (16 * m + n) :: decodedBytes rest
    | _, _ => 37 :: decodedBytes (a :: b :: rest)
  | c :: rest => (String.singleton c).toUTF8.toList ++ decodedBytes rest
termination_by cs => cs.length

/-- **A path without an escape** is read as it is written. -/
theorem decodedBytes_of_no_percent {cs : List Char} (h : '%' ∉ cs) :
    decodedBytes cs = cs.flatMap fun c => (String.singleton c).toUTF8.toList := by
  induction cs with
  | nil => simp [decodedBytes]
  | cons c rest ih =>
    have hc : c ≠ '%' := fun e => h (by simp [e])
    have hrest := ih fun m => h (by simp [m])
    rw [decodedBytes, hrest, List.flatMap_cons]
    exact fun _ _ _ e => absurd e hc

/-- The segments of the path of a target; slashes in front of the first count once, and an
empty path has none. -/
def segments (target : String) : List String :=
  match (Text.ofBytes (decodedBytes (path (path target.toList)))).toList with
  | [] => []
  | cs => ((cs.dropWhile (· = '/')).splitOn '/').map String.ofList

end Target
end QuantityCalculus
