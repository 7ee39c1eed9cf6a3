/-
# Logs

The logs form a tree below the log `unitcalc`, which all of them report to. That log has
a level, a number or one of the words for a number; words may be written in any case.

**Main statements.** A full name is full already (`fullName_fullName`), and every word for
a level is known by its upper case (`levelOfWord?_words`).
-/

import QuantityCalculus.Error

namespace QuantityCalculus
namespace Log

/-- The name of the log that all others report to. -/
def root : String := "unitcalc"

/-- Whether a name stands in the tree of logs. -/
def isFull (name : String) : Bool :=
  name == root || (root ++ ".").toList.isPrefixOf name.toList

/-- The name of a log in the tree. -/
def fullName (name : String) : String := if isFull name then name else root ++ "." ++ name

/-- A full name stands in the tree. -/
theorem isFull_fullName (name : String) : isFull (fullName name) = true := by
  unfold fullName
  split
  · assumption
  · have h : (root ++ ".").toList <+: (root ++ "." ++ name).toList :=
      ⟨name.toList, String.toList_append.symm⟩
    exact Bool.or_eq_true_iff.2 (.inr (List.isPrefixOf_iff_prefix.2 h))

/-- A full name is full already. -/
theorem fullName_fullName (name : String) : fullName (fullName name) = fullName name := by
  rw [fullName, isFull_fullName]; rfl

/-- The words for levels. -/
def words : List (String × Int) :=
  [("CRITICAL", 50), ("FATAL", 50), ("ERROR", 40), ("WARN", 30), ("WARNING", 30), ("INFO", 20),
    ("DEBUG", 10), ("NOTSET", 0)]

/-- The upper case of a letter, where it is an ASCII letter: the dotless i and the long s
have one. -/
def upper (c : Char) : Char :=
  if c = '\u0131' then 'I' else if c = '\u017F' then 'S' else c.toUpper

/-- The level of a word in any case. -/
def levelOfWord? (word : String) : Option Int :=
  (words.find? fun w => w.1.toList = word.toList.map upper).map Prod.snd

/-- Every word is found as it is written. -/
theorem levelOfWord?_words : ∀ w ∈ words, levelOfWord? w.1 = some w.2 := by decide

/-- A level from a value: a word for one, or a number, which a truth value is too. -/
def level : Json → Except Fault Json
  | .str word =>
    match levelOfWord? word with
    | some n => .ok (.int n)
    | none => .error (.misuse (.logLevel word))
  | .int n => .ok (.int n)
  | .bool b => .ok (.bool b)
  | _ => .error (.wrongType "a level must be a word or a number")

/-- The level of logs that nothing else is said about. -/
def defaultLevel : Json := .str "INFO"

end Log
end QuantityCalculus
