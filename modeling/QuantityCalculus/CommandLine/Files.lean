/-
# Files

A folder for temporary work holds texts by their paths below it, and the folders in it are
those that lead to a text. A path may leave it, by two dots or by a slash in front. Outside
are the folders that every system has and the null device, and nothing else that can be read.

**Main statement.** A text that was written inside the folder can be read (`read_write`).
-/

import QuantityCalculus.Table

namespace QuantityCalculus

/-- Why a file cannot be read or written. -/
inductive FileTrouble where
  | missing
  | isFolder
  | throughFile
  | tooLong
  /-- a path with a character that ends every path -/
  | zeroCharacter
  | other (explanation : String)
deriving Repr, DecidableEq

/-- The wording of a trouble with a file. -/
def FileTrouble.message : FileTrouble → String
  | missing => "No such file or directory"
  | isFolder => "Is a directory"
  | throughFile => "Not a directory"
  | tooLong => "File name too long"
  | zeroCharacter => "embedded null byte"
  | other explanation => explanation

/-- Where a path leads. -/
inductive Place where
  /-- by steps from the folder -/
  | inside (steps : List String)
  /-- by steps from the root of the file system -/
  | outside (steps : List String)
deriving Repr, DecidableEq

namespace Place

/-- The folders outside. -/
def systemFolders : List (List String) :=
  [[], ["bin"], ["dev"], ["etc"], ["home"], ["lib"], ["opt"], ["proc"], ["root"], ["run"],
    ["sbin"], ["srv"], ["sys"], ["tmp"], ["usr"], ["usr", "bin"], ["usr", "lib"], ["var"],
    ["var", "tmp"]]

/-- The device that reads as an empty text and takes any text. -/
def nullDevice : List String := ["dev", "null"]

/-- One step on from a place; two dots step back, from the folder to the one that it is in. -/
def step : Place → String → Place
  | inside [], ".." => outside ["tmp"]
  | inside p, ".." => inside p.dropLast
  | outside p, ".." => outside p.dropLast
  | inside p, s => inside (p ++ [s])
  | outside p, s => outside (p ++ [s])

end Place

/-- Texts by the steps of their paths. -/
structure Files where
  texts : Table (List String) String

namespace Files

/-- The steps of a path; the folder itself and doubled slashes are no steps. -/
def steps (path : String) : List String := (path.splitOn "/").filter fun s => s ≠ "" ∧ s ≠ "."

/-- The files of a folder, by path. -/
def ofList (texts : List (String × String)) : Files :=
  ⟨Table.ofList (texts.map fun t => (steps t.1, t.2))⟩

/-- Whether a place is a folder: the folder itself, one that leads to a text, or one outside. -/
def isFolder (f : Files) : Place → Bool
  | .inside p => p.isEmpty || f.texts.keys.any fun k => p.length < k.length && p.isPrefixOf k
  | .outside p => Place.systemFolders.contains p

/-- Whether a place holds a text. -/
def isText (f : Files) : Place → Bool
  | .inside p => f.texts.contains p
  | .outside p => p == Place.nullDevice

/-- The most bytes of a step. -/
def longestStep : Nat := 255

/-- The most bytes of a path. -/
def longestPath : Nat := 4095

/-- One step on from a folder. -/
def step (f : Files) (p : Place) (s : String) : Except FileTrouble Place :=
  if f.isFolder p then
    if longestStep < s.utf8ByteSize then .error .tooLong else .ok (p.step s)
  else .error (if f.isText p then .throughFile else .missing)

/-- Where some steps from a place lead. -/
def walk (f : Files) (p : Place) : List String → Except FileTrouble Place
  | [] => .ok p
  | s :: rest =>
    match f.step p s with
    | .ok q => f.walk q rest
    | .error trouble => .error trouble

/-- Where a path leads; all but its last step are folders. -/
def locate (f : Files) (path : String) : Except FileTrouble Place :=
  if path.toList.contains '\x00' then .error .zeroCharacter
  else if longestPath < path.utf8ByteSize then .error .tooLong
  else f.walk (if path.startsWith "/" then .outside [] else .inside []) (steps path)

/-- The text at a place. -/
def readAt (f : Files) (p : Place) : Except FileTrouble String :=
  match p with
  | .inside q =>
    match f.texts.get? q with
    | some t => .ok t
    | none => .error (if f.isFolder p then .isFolder else .missing)
  | .outside _ =>
    if f.isText p then .ok "" else .error (if f.isFolder p then .isFolder else .missing)

/-- The text at a path. -/
def read (f : Files) (path : String) : Except FileTrouble String :=
  match f.locate path with
  | .ok p => f.readAt p
  | .error trouble => .error trouble

/-- The files with a text at a place; what is written outside leaves them as they are. -/
def writeAt (f : Files) (p : Place) (text : String) : Except FileTrouble Files :=
  if f.isFolder p then .error .isFolder
  else match p with
    | .inside q => .ok ⟨f.texts.insert q text⟩
    | .outside _ => .ok f

/-- Writes a text to a path. -/
def write (f : Files) (path text : String) : Except FileTrouble Files :=
  match f.locate path with
  | .ok p => f.writeAt p text
  | .error trouble => .error trouble

/-- The files that are new or have another text than before, by path. -/
def changes (before after : Files) : List (String × String) :=
  (after.texts.toList.filter fun e => before.texts.get? e.1 ≠ some e.2).map fun e =>
    (String.intercalate "/" e.1, e.2)

/-- One more text takes away no folder. -/
theorem isFolder_insert {f : Files} {p : Place} (h : f.isFolder p = true) (q : List String)
    (text : String) : (⟨f.texts.insert q text⟩ : Files).isFolder p = true := by
  cases p with
  | outside p => exact h
  | inside p =>
    simp only [isFolder, Bool.or_eq_true, List.any_eq_true] at h ⊢
    refine h.imp_right fun ⟨k, hk, hp⟩ => ⟨k, ?_, hp⟩
    by_cases hq : q ∈ f.texts.keys
    · rwa [Table.keys_insert_of_mem hq]
    · rw [Table.keys_insert_of_not_mem hq]
      simp [hk]

/-- One more text leaves a walk that succeeds as it is. -/
theorem walk_insert {f : Files} {p r : Place} {path : List String} (h : f.walk p path = .ok r)
    (q : List String) (text : String) :
    (⟨f.texts.insert q text⟩ : Files).walk p path = .ok r := by
  induction path generalizing p with
  | nil => exact h
  | cons s rest ih =>
    unfold walk step at h ⊢
    by_cases folder : f.isFolder p = true
    · by_cases long : longestStep < s.utf8ByteSize
      · simp [folder, long] at h
      · simp only [folder, long, if_true, if_false] at h
        simp only [isFolder_insert folder, long, if_true, if_false]
        exact ih h
    · simp [folder] at h

/-- **What was written** inside the folder is read. -/
theorem read_write {f g : Files} {path text : String} {q : List String}
    (place : f.locate path = .ok (.inside q)) (h : f.write path text = .ok g) :
    g.read path = .ok text := by
  unfold write writeAt at h
  rw [place] at h
  by_cases folder : f.isFolder (.inside q) = true
  · simp [folder] at h
  · simp only [folder] at h
    injection h with h
    subst h
    have same : (⟨f.texts.insert q text⟩ : Files).locate path = .ok (.inside q) := by
      unfold locate at place ⊢
      by_cases zero : path.toList.contains '\x00' = true
      · rw [if_pos zero] at place
        cases place
      · by_cases long : longestPath < path.utf8ByteSize
        · rw [if_neg zero, if_pos long] at place
          cases place
        · rw [if_neg zero, if_neg long] at place ⊢
          exact walk_insert place q text
    simp [read, readAt, same, Table.get?_insert]

end Files
end QuantityCalculus
