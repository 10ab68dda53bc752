import Ledger.Text.Bytes
/-!
# Settings files

Lines `NAME=value` of a settings file, optionally after `export`, with comments, single and
double quotes and expansion of names defined earlier in the file. A bad name or a quote that
is never closed makes the whole file unreadable.
-/

namespace Ledger.EnvFile

/-- The blanks allowed inside a line: tab, vertical tab, form feed, carriage return,
space, U+0085 and U+00A0. -/
def isInlineBlank (c : Char) : Bool :=
  c == '\t' || c == '\x0b' || c == '\x0c' || c == '\r' || c == ' ' ||
    c.toNat == 0x85 || c.toNat == 0xA0

/-- Whether a byte may stand in a name, read as a Latin-1 character: a letter, a digit
or number sign, `_`, `.`, or an inline blank. -/
def nameByteOk (b : UInt8) : Bool :=
  let n := b.toNat
  (48 ≤ n && n ≤ 57) || (65 ≤ n && n ≤ 90) || (97 ≤ n && n ≤ 122) || n == 95 || n == 46 ||
    n == 9 || n == 11 || n == 12 || n == 13 || n == 32 || n == 0x85 || n == 0xA0 ||
    n == 0xAA || n == 0xB5 || n == 0xBA || n == 0xB2 || n == 0xB3 || n == 0xB9 ||
    (0xBC ≤ n && n ≤ 0xBE) || (0xC0 ≤ n && n ≤ 0xD6) || (0xD8 ≤ n && n ≤ 0xF6) || 0xF8 ≤ n

/-- Splits a statement at the first `=` or `:` into the name and the rest. A text with
neither has an empty name and is all value; `none` when a name character is not allowed. -/
def splitName (src : List Char) : Option (List Char × List Char) :=
  go [] src
where
  /-- Walks the name, keeping what was read in reverse. -/
  go (acc : List Char) : List Char → Option (List Char × List Char)
    | [] => some ([], src)
    | c :: rest =>
      if c == '=' || c == ':' then some (acc.reverse, rest)
      else if (Bytes.encodeChar c).all nameByteOk then go (c :: acc) rest
      else none

/-- Drops a leading `export` that a blank follows. -/
def dropExport (src : List Char) : List Char :=
  let rest := src.drop 6
  if src.take 6 == "export".toList && (rest.head?.map isInlineBlank).getD false then
    rest.dropWhile isInlineBlank
  else src

/-- Whether a character may stand in a referenced name. -/
def isRefChar (c : Char) : Bool := ('A' ≤ c && c ≤ 'Z') || c.isDigit || c == '_'

/-- The parts of a reference after its `$`: an optional `(`, an optional `{`, a name and
an optional `}`. Gives the number of characters they span and the name. -/
def referenceSpan (cs : List Char) : Nat × List Char :=
  let p := if cs.head? == some '(' then 1 else 0
  let cs1 := cs.drop p
  let b := if cs1.head? == some '{' then 1 else 0
  let cs2 := cs1.drop b
  let name := cs2.takeWhile isRefChar
  let e := if (cs2.drop name.length).head? == some '}' then 1 else 0
  (p + b + name.length + e, name)

/-- Expands references with `lookup`; an unknown name expands to nothing, a reference
without a name stays as written, and `\$` keeps the reference after it unexpanded. -/
def expand (lookup : String → Option String) : List Char → List Char
  | [] => []
  | '\\' :: '$' :: rest =>
    let k := (referenceSpan rest).1
    '$' :: rest.take k ++ expand lookup (rest.drop k)
  | '$' :: rest =>
    let (k, name) := referenceSpan rest
    if name.isEmpty then '$' :: rest.take k ++ expand lookup (rest.drop k)
    else ((lookup (String.ofList name)).getD "").toList ++ expand lookup (rest.drop k)
  | c :: rest => c :: expand lookup rest
termination_by cs => cs.length
decreasing_by all_goals (simp only [List.length_drop, List.length_cons]; omega)

/-- Turns `\n` and `\r` into line breaks; other escapes stay. -/
def lineBreaks : List Char → List Char
  | '\\' :: c :: rest =>
    if c == 'n' then '\n' :: lineBreaks rest
    else if c == 'r' then '\r' :: lineBreaks rest
    else if c == '\n' then '\\' :: lineBreaks (c :: rest)
    else '\\' :: c :: lineBreaks rest
  | c :: rest => c :: lineBreaks rest
  | [] => []

/-- Drops a backslash before any character but `$`. -/
def dropEscapes : List Char → List Char
  | '\\' :: c :: rest =>
    if c == '$' then '\\' :: dropEscapes (c :: rest) else c :: dropEscapes rest
  | c :: rest => c :: dropEscapes rest
  | [] => []

/-- The position where a trailing comment starts: the last `#` that follows an inline
blank, or the end of the line. -/
def commentCut (line : List Char) : Nat :=
  go 0 none line line.length
where
  /-- Walks the line with the position and the character before. -/
  go (i : Nat) (prev : Option Char) : List Char → Nat → Nat
    | [], best => best
    | c :: rest, best =>
      go (i + 1) (some c) rest
        (if c == '#' && (prev.map isInlineBlank).getD false then i else best)

/-- The position of the quote that closes a value: the first `q` not preceded by a
backslash. -/
def closingQuote (q : Char) : Nat → Char → List Char → Option Nat
  | _, _, [] => none
  | i, prev, c :: rest => if c == q && prev != '\\' then some i else closingQuote q (i + 1) c rest

/-- Removes `q` from both ends. -/
def trimQuote (q : Char) (cs : List Char) : List Char :=
  ((cs.dropWhile (· == q)).reverse.dropWhile (· == q)).reverse

/-- Reads a value and gives the rest of the text; `none` for a quote never closed. -/
def readValue (lookup : String → Option String) (src : List Char) :
    Option (List Char × List Char) :=
  match src with
  | q :: body =>
    if q == '"' || q == '\'' then
      match closingQuote q 1 q body with
      | none => none
      | some i =>
        let inner := trimQuote q (src.take i)
        let value := if q == '"' then expand lookup (dropEscapes (lineBreaks inner)) else inner
        some (value, src.drop (i + 1))
    else
      let line := src.takeWhile (fun c => c != '\n' && c != '\r')
      let kept := (line.take (commentCut line)).dropWhile isInlineBlank
      let kept := (kept.reverse.dropWhile isInlineBlank).reverse
      some (expand lookup kept, src.drop line.length)
  | [] => some ([], [])

/-- Sets a name, replacing an earlier value. -/
def assign (vars : List (String × String)) (name value : String) : List (String × String) :=
  (name, value) :: vars.filter (·.1 != name)

/-- Reads the statements of a file; every statement uses up at least one character, so
`fuel` above the length suffices. -/
def statements :
    Nat → List Char → List (String × String) → Option (List (String × String))
  | 0, _, vars => some vars
  | fuel + 1, src, vars =>
    match src.dropWhile Text.isBlank with
    | [] => some vars
    | '#' :: rest => statements fuel (rest.dropWhile (· != '\n')) vars
    | start =>
      match splitName (dropExport start) with
      | none => none
      | some (name, rest) =>
        let name := String.ofList (name.reverse.dropWhile Text.isBlank).reverse
        let lookup (n : String) : Option String := (vars.find? (·.1 == n)).map (·.2)
        match readValue lookup (rest.dropWhile isInlineBlank) with
        | none => none
        | some (value, rest) =>
          statements fuel rest (assign vars name (String.ofList value))

/-- Replaces every CR LF pair by a line feed. -/
def joinLineEnds : List Char → List Char
  | '\r' :: '\n' :: rest => '\n' :: joinLineEnds rest
  | c :: rest => c :: joinLineEnds rest
  | [] => []

/-- The variables a settings file defines, the latest value of each; `none` when the
file cannot be read. -/
def parse (text : String) : Option (List (String × String)) :=
  let cs := joinLineEnds text.toList
  statements (cs.length + 1) cs []

end Ledger.EnvFile
