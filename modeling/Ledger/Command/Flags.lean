import Ledger.Text.Quoted
/-!
# Command-line flags

Text flags read from the left, as `-name value`, `--name value` or `-name=value`, up to the
first argument that is not a flag. Bad syntax and undeclared names are refused, `-h` asks
for the usage text, and a later value replaces an earlier one.
-/

namespace Ledger.Command

/-- A text flag. -/
structure Flag where
  name : String
  usage : String
  default : String
  deriving Repr, Inhabited

/-- Why the flags could not be read. -/
inductive FlagError where
  /-- The usage text was asked for. -/
  | help
  | badSyntax (arg : String)
  | undefined (name : String)
  | missingValue (name : String)
  deriving Repr, Inhabited

/-- The message of a refusal; none when help was asked for. -/
def FlagError.message? : FlagError → Option String
  | .help => none
  | .badSyntax arg => some ("bad flag syntax: " ++ arg)
  | .undefined name => some ("flag provided but not defined: -" ++ name)
  | .missingValue name => some ("flag needs an argument: -" ++ name)

/-- The flags as read: the value of every flag, and the arguments after them. -/
structure Flags where
  values : List (String × String)
  rest : List String
  deriving Repr, Inhabited

/-- The value of a flag. -/
def Flags.get (f : Flags) (name : String) : String := (f.values.lookup name).getD ""

/-- Sets a flag. -/
def setValue (values : List (String × String)) (name value : String) : List (String × String) :=
  values.map fun (k, v) => if k == name then (k, value) else (k, v)

/-- Reads the arguments against the declared flags; the values start at the defaults. -/
def readFlags (flags : List Flag) (args : List String) : Except FlagError Flags :=
  go args.length args (flags.map fun f => (f.name, f.default))
where
  /-- Reads the flags left; `fuel` bounds the arguments left. -/
  go : Nat → List String → List (String × String) → Except FlagError Flags
    | 0, args, values => .ok ⟨values, args⟩
    | fuel + 1, args, values =>
      match args with
      | [] => .ok ⟨values, []⟩
      | arg :: more =>
        match arg.toList with
        | '-' :: '-' :: [] => .ok ⟨values, more⟩
        | '-' :: c :: cs =>
          let name := if c == '-' then cs else c :: cs
          match name with
          | [] | '-' :: _ | '=' :: _ => .error (.badSyntax arg)
          | n :: ns =>
            let (key, value?) := match ns.findIdx? (· == '=') with
              | some i => (String.ofList (n :: ns.take i), some (String.ofList (ns.drop (i + 1))))
              | none => (String.ofList (n :: ns), none)
            if !flags.any (·.name == key) then
              .error (if key == "h" || key == "help" then .help else .undefined key)
            else match value?, more with
              | some v, _ => go fuel more (setValue values key v)
              | none, v :: more' => go fuel more' (setValue values key v)
              | none, [] => .error (.missingValue key)
        | _ => .ok ⟨values, args⟩

/-- The usage text of a command and its flags. -/
def usageText (command : String) (flags : List Flag) : String :=
  let sorted := flags.mergeSort fun a b => decide (a.name ≤ b.name)
  let entry (f : Flag) : String :=
    "  -" ++ f.name ++ " string\n    \t" ++ f.usage ++
      (if f.default.isEmpty then "" else " (default " ++ Text.quoteString f.default ++ ")") ++ "\n"
  "Usage of " ++ command ++ ":\n" ++ String.join (sorted.map entry)

end Ledger.Command
