/-
  Reading TOML documents, version 1.1.

  A document is a list of lines, each blank, a comment, a header or a key with
  its value.  Keys belong to the table of the last header and have at most
  eighty parts.  Arrays and tables in braces may span lines and may end with a
  comma; they may nest eighty deep.

  * `Document.read` gives the entries of the top table, or the first fault.
-/
import EnergyQuery.Toml.Text

namespace EnergyQuery.Toml

/-- Reads from the front of a text. -/
abbrev Grammar := StateT (List Char) (Except Fault)

namespace Grammar

/-- A fault at the text that is left. -/
def fail {α : Type} : Grammar α := fun s => .error (.malformed s)

/-- A fault of what the text defines. -/
def require {α : Type} (r : Except Fault α) : Grammar α := fun s => r.map (·, s)

/-- The next character, which is not read. -/
def peek? : Grammar (Option Char) := fun s => .ok (s.head?, s)

/-- Reads what `f` makes of the text, which must be something. -/
def scan {α : Type} (f : List Char → Option (α × List Char)) : Grammar α := fun s =>
  match f s with
  | some r => .ok r
  | none => .error (.malformed s)

/-- Reads the longest run of characters with the property `p`. -/
def longest (p : Char → Bool) : Grammar (List Char) := fun s => .ok (s.takeWhile p, s.dropWhile p)

/-- Reads `c` if it stands here, and tells whether it did. -/
def skip (c : Char) : Grammar Bool := fun s =>
  match s with
  | d :: rest => if c = d then .ok (true, rest) else .ok (false, s)
  | [] => .ok (false, [])

/-- Reads `c`, which must stand here. -/
def expect (c : Char) : Grammar Unit := do
  unless ← skip c do fail

/-- Reads blanks, but no line end. -/
def spaces : Grammar Unit := do
  let _ ← longest isSpace

/-- Reads blanks, line ends and comments. -/
def blanks : Grammar Unit := scan fun s => (skipBlank? false s).map ((), ·)

/-- Reads the end of a line, which may hold a comment. -/
def endLine : Grammar Unit := do
  spaces
  if ← skip '#' then
    let _ ← longest isText
  fun
    | [] => .ok ((), [])
    | '\n' :: s => .ok ((), s)
    | '\r' :: '\n' :: s => .ok ((), s)
    | s => .error (.malformed s)

/-! ## Keys -/

/-- A character of a key without quotes. -/
def isKeyChar (c : Char) : Bool :=
  c.isAlphanum || c == '_' || c == '-'

/-- Reads a part of a key: in quotes, which make no difference, or without. -/
def keyPart : Grammar String := do
  match ← peek? with
  | some '"' => expect '"'; return String.ofList (← scan (lineString? '"'))
  | some '\x27' => expect '\x27'; return String.ofList (← scan (lineString? '\x27'))
  | _ =>
    let name ← longest isKeyChar
    if name.isEmpty then fail else return String.ofList name

/-- How many parts a key may have. -/
def maxParts : Nat := 80

/-- The parts of a dotted key but the last, and the last; the key has at most `n` parts. -/
def key : (n : Nat) → Grammar (List String × String)
  | 0 => fail
  | n + 1 => do
    let part ← keyPart
    spaces
    if ← skip '.' then
      spaces
      let (path, last) ← key n
      return (part :: path, last)
    else return ([], part)

/-! ## Values -/

/-- How deep arrays and tables in braces may nest. -/
def maxDepth : Nat := 80

/-- A character that ends a value: punctuation, the start of a comment or a line end. -/
def isDelimiter (c : Char) : Bool :=
  c == '=' || c == ',' || c == '[' || c == ']' || c == '\x7b' || c == '\x7d' || c == '#' ||
    c == '\r' || c == '\n'

/-- A character that goes on with a scalar after a blank. -/
def resumesScalar (c : Char) : Bool :=
  !isDelimiter c && c != '.' && c != '"' && c != '\x27'

/-- A run of characters without delimiters, and the text after it; blanks at its end do not belong
    to it. -/
def scalarRun : List Char → List Char × List Char
  | [] => ([], [])
  | c :: s =>
    if isDelimiter c || (isSpace c && !(s.dropWhile isSpace).head?.any resumesScalar) then
      ([], c :: s)
    else
      let (run, rest) := scalarRun s
      (c :: run, rest)

/-- Reads a boolean, a number or a date, whichever the run of characters is. -/
def scalar : Grammar Value := scan fun s => do
  let (run, rest) := scalarRun s
  return (← scalarOf? run, rest)

mutual

/-- A value inside `depth` arrays and tables in braces. -/
def value (depth : Nat) : Nat → Grammar Value
  | 0 => fail
  | fuel + 1 => do
    match ← peek? with
    | some '"' => expect '"'; return .string (String.ofList (← scan (quotedString? '"')))
    | some '\x27' => expect '\x27'; return .string (String.ofList (← scan (quotedString? '\x27')))
    | some '[' =>
      expect '['
      if depth < maxDepth then return .array false (← items (depth + 1) fuel) else fail
    | some '\x7b' =>
      expect '\x7b'
      if depth < maxDepth then return .table .braces (← pairs (depth + 1) fuel []) else fail
    | _ => scalar

/-- The items of an array, up to its end. -/
def items (depth : Nat) : Nat → Grammar (List Value)
  | 0 => fail
  | fuel + 1 => do
    blanks
    if ← skip ']' then return []
    else
      let v ← value depth fuel
      blanks
      if ← skip ',' then return v :: (← items depth fuel)
      else
        expect ']'
        return [v]

/-- The entries of a table in braces after those in `es`, up to its end. -/
def pairs (depth : Nat) : Nat → Entries → Grammar Entries
  | 0, _ => fail
  | fuel + 1, es => do
    blanks
    if ← skip '\x7d' then return es
    else
      let (path, last) ← key maxParts
      blanks
      expect '='
      blanks
      let v ← value depth fuel
      let es ← require (es.defineAt path last v .braces)
      blanks
      if ← skip ',' then pairs depth fuel es
      else
        expect '\x7d'
        return es

end

/-! ## Documents -/

/-- Reads a header: the table or the item that it opens becomes the current table. -/
def header (es : Entries) : Grammar (List String × Entries) := do
  expect '['
  let isItem ← skip '['
  spaces
  let (path, last) ← key maxParts
  expect ']'
  if isItem then expect ']'
  let es ← require (if isItem then es.openItem path last else es.openTable path last)
  return (path ++ [last], es)

/-- Reads a key and its value into the current table. -/
def pair (fuel : Nat) (current : List String) (es : Entries) : Grammar Entries := do
  let (path, last) ← key maxParts
  expect '='
  spaces
  let v ← value 0 fuel
  require (es.atHeader (fun o es => es.defineAt path last v o) current .header)

/-- Reads the lines after `es`, the table at `current` being the one that keys belong to. -/
def lines : Nat → List String → Entries → Grammar Entries
  | 0, _, _ => fail
  | fuel + 1, current, es => do
    blanks
    match ← peek? with
    | none => return es
    | some '[' =>
      let (current, es) ← header es
      endLine
      lines fuel current es
    | some _ =>
      let es ← pair fuel current es
      endLine
      lines fuel current es

end Grammar

/-- The text without a byte order mark at its start. -/
def afterByteOrderMark : List Char → List Char
  | '\ufeff' :: s => s
  | s => s

/-- The entries of the top table of a document. -/
def Document.read (text : String) : Except Fault Entries := do
  let s := afterByteOrderMark text.toList
  return (← StateT.run (Grammar.lines (2 * s.length + 2) [] []) s).1

end EnergyQuery.Toml
