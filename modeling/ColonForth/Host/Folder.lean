import ColonForth.Host.Files

/-!
# A folder of given files

A name is a path.  Its parts between slashes are walked from left to right, starting in the
working folder, or at the top if the path begins with a slash.  An empty part and a single dot
stay where they are and a double dot goes up, but none of them leads out of a file: a path that
goes on behind a file, were it by a slash only, is refused.  Only what is in the working folder is
known, so outside of it there are folders to pass through and nothing else.
-/

namespace ColonForth.Host.Folder

/-- Where a path has led to. -/
inductive Place where
  /-- The folder that the given steps lead to from the working folder. -/
  | inside (steps : List Text)
  /-- A folder that is not in the working folder. -/
  | outside
  /-- A file. -/
  | file (source : Source)
deriving DecidableEq, Repr

/-- The folder above the one that the given steps lead to. -/
def Place.above (steps : List Text) : Place :=
  if steps.isEmpty then .outside else .inside steps.dropLast

/-- The number of bytes that a text takes in a name. -/
def nameBytes : Text → Nat
  | [] => 0
  | c :: rest => c.utf8Size + nameBytes rest

/-- The greatest number of bytes in one part of a path. -/
def maxPartBytes : Nat := 255

/-- The greatest number of bytes in a path. -/
def maxPathBytes : Nat := 4095

/-- Whether a part of a path stays where it is. -/
def isIdle (part : Text) : Bool := part == [] || part == ['.']

/-- The steps that lead to a given file. -/
def stepsTo (name : Text) : List Text := (Text.splitOn '/' name).filter fun part => !isIdle part

/-- What the given steps lead to from the working folder. -/
def find? (files : List (Text × Source)) (steps : List Text) : Option Place :=
  match files.find? fun file => stepsTo file.1 == steps with
  | some (_, source) => some (.file source)
  | none =>
    if files.any fun file => steps.isPrefixOf (stepsTo file.1) then some (.inside steps) else none

/-- One part of a path. -/
def walkPart (files : List (Text × Source)) (place : Place) (part : Text) :
    Except OpenError Place :=
  match place with
  | .file _ => .error .notFolder
  | .outside =>
    if isIdle part || part == ['.', '.'] then .ok .outside
    else if maxPartBytes < nameBytes part then .error .nameTooLong
    else .error .absent
  | .inside steps =>
    if isIdle part then .ok (.inside steps)
    else if part == ['.', '.'] then .ok (.above steps)
    else if maxPartBytes < nameBytes part then .error .nameTooLong
    else
      match find? files (steps ++ [part]) with
      | some found => .ok found
      | none => .error .absent

/-- The parts of a path, one after the other. -/
def walk (files : List (Text × Source)) : Place → List Text → Except OpenError Place
  | place, [] => .ok place
  | place, part :: rest =>
    match walkPart files place part with
    | .ok next => walk files next rest
    | .error e => .error e

/-- Where a path starts. -/
def startOf (name : Text) : Place := if name.head? = some '/' then .outside else .inside []

/-- The folder that holds exactly the given files. -/
def ofFiles (files : List (Text × Source)) : Folder := fun name =>
  if name.contains (Char.ofNat 0) then .error .zeroInName
  else if name.isEmpty then .error .absent
  else if maxPathBytes < nameBytes name then .error .nameTooLong
  else
    match walk files (startOf name) (Text.splitOn '/' name) with
    | .ok (.file source) => .ok source
    | .ok _ => .error .isFolder
    | .error e => .error e

end ColonForth.Host.Folder
