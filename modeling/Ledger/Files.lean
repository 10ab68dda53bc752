
/-!
# The files and environment of a command

A command sees the files of its working directory by relative path and may see others by
absolute path; reading a path walks it one component at a time, as the system does. Its
environment holds only variables that could be set: a name that is not empty and holds
neither `=` nor NUL, and a value without NUL.
-/

namespace Ledger

namespace Files

/-- Where a walk stands: inside the working directory (its components, innermost first),
some levels above it, or at a name that is not there. -/
inductive Position where
  | inside (stack : List String)
  | above (levels : Nat)
  | nowhere
  deriving DecidableEq, Repr, Inhabited

/-- What a position names. -/
inductive Entry where
  | file
  | directory
  | missing
  deriving DecidableEq, Repr, Inhabited

/-- Why a path cannot be read. -/
inductive ReadError where
  | missing
  | notDirectory
  | isDirectory
  deriving DecidableEq, Repr, Inhabited

/-- The message of a failed read of `path`, as the system words it. -/
def ReadError.message (path : String) : ReadError → String
  | .missing => "open " ++ path ++ ": no such file or directory"
  | .notDirectory => "open " ++ path ++ ": not a directory"
  | .isDirectory => "read " ++ path ++ ": is a directory"

/-- The relative path of the components of a position inside. -/
def pathOf (stack : List String) : String := "/".intercalate stack.reverse

/-- What a position names among `files`. -/
def entryOf (files : List (String × α)) : Position → Entry
  | .inside [] => .directory
  | .inside stack =>
    let p := pathOf stack
    if files.any (·.1 == p) then .file
    else if files.any (·.1.startsWith (p ++ "/")) then .directory
    else .missing
  | .above _ => .directory
  | .nowhere => .missing

/-- One step of a walk from a directory. -/
def step (pos : Position) (part : String) : Position :=
  if part.isEmpty || part == "." then pos
  else if part == ".." then
    match pos with
    | .inside [] => .above 1
    | .inside (_ :: rest) => .inside rest
    | .above n => .above (n + 1)
    | .nowhere => .nowhere
  else
    match pos with
    | .inside stack => .inside (part :: stack)
    | _ => .nowhere

/-- Walks the components of a path from a directory. -/
def walk (files : List (String × α)) : Position → List String → Except ReadError Position
  | pos, [] => .ok pos
  | pos, part :: rest =>
    let next := step pos part
    match entryOf files next with
    | .missing => .error .missing
    | .file => if rest.isEmpty then .ok next else .error .notDirectory
    | .directory => walk files next rest

/-- The content of the file a path names, or why it cannot be read. -/
def locate (files : List (String × α)) (path : String) : Except ReadError α :=
  if path.isEmpty then .error .missing
  else if path.startsWith "/" then
    match files.find? (·.1 == path) with
    | some (_, content) => .ok content
    | none => if path.all (· == '/') then .error .isDirectory else .error .missing
  else
    match walk files (.inside []) (path.splitOn "/") with
    | .error e => .error e
    | .ok (.inside stack) =>
      match files.find? (·.1 == pathOf stack) with
      | some (_, content) => .ok content
      | none => .error .isDirectory
    | .ok _ => .error .isDirectory

/-- Reads the file a path names; a failure is given as its message. -/
def read (files : List (String × α)) (path : String) : Except String α :=
  (locate files path).mapError (·.message path)

/-- The path of the working directory's file that a relative path names without going
above it, with empty components, `.` and `..` resolved. -/
def clean (path : String) : Option String :=
  if path.startsWith "/" then none
  else match (path.splitOn "/").foldl step (.inside []) with
    | .inside stack@(_ :: _) => some (pathOf stack)
    | _ => none

end Files

end Ledger

/-! ## Environment variables -/

namespace Ledger.Environment

/-- Whether a variable with this name and value can be set. -/
def settable (name value : String) : Bool :=
  !name.isEmpty && !name.contains '=' && !name.contains '\x00' && !value.contains '\x00'

/-- The value of a variable among those given, the first of its name that can be set. -/
def lookup (vars : List (String × String)) (name : String) : Option String :=
  ((vars.filter fun (n, v) => settable n v).find? (·.1 == name)).map (·.2)


end Ledger.Environment
