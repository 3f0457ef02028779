/-
  Strings and the text between the values of a document.

  * `basic?` reads the rest of a string in double quotes, with escapes;
    `literal?` one in single quotes, without.  Either may span lines when it
    opens with three quotes; its first line may then be empty and does not
    count, up to two quotes may stand before the closing three, and line ends
    are kept as they are.  A backslash at the end of a line skips all blanks and
    line ends that follow;
  * `skipBlank?` skips blanks, line ends and comments.
-/
import EnergyQuery.Toml.Scalar

namespace EnergyQuery.Toml

/-- A character that may stand in strings and comments: a tab, or no control character. -/
def isText (c : Char) : Bool :=
  c == '\t' || (0x20 ≤ c.toNat && c.toNat != 0x7F)

/-- A blank inside a line. -/
def isSpace (c : Char) : Bool :=
  c == ' ' || c == '\t'

/-- What is read of a string, and the text after it. -/
abbrev Scanned := Option (List Char × List Char)

/-- The same with one more character before it. -/
def Scanned.emit (c : Char) (r : Scanned) : Scanned :=
  r.map fun (cs, rest) => (c :: cs, rest)

/-- Two quotes that, after a third, close a string; up to two quotes more belong to the string. -/
def closing? (q : Char) : List Char → Scanned
  | a :: b :: s =>
    if a = q && b = q then
      let extra := (s.take 2).takeWhile (· = q)
      some (extra, s.drop extra.length)
    else none
  | _ => none

/-- The character that a backslash and a letter stand for. -/
def escapedChar? (c : Char) : Option Char :=
  match c with
  | 'b' => some '\x08'
  | 't' => some '\t'
  | 'n' => some '\n'
  | 'f' => some '\x0c'
  | 'r' => some '\r'
  | 'e' => some '\x1b'
  | '"' => some '"'
  | '\\' => some '\\'
  | _ => none

/-- The number of hexadecimal digits after the letter of an escape. -/
def hexLength? (c : Char) : Option Nat :=
  match c with
  | 'x' => some 2
  | 'u' => some 4
  | 'U' => some 8
  | _ => none

/-- The character with a code point, if there is one. -/
def charOf? (n : Nat) : Option Char :=
  if n.isValidChar then some (Char.ofNat n) else none

/-- Where the reading of a basic string stands. -/
inductive Mode where
  | plain
  | escaped
  /-- In an escape, with `left` digits to come after the next one. -/
  | hex (left value : Nat)
  /-- After a backslash that ends a line, once the line end is seen. -/
  | folding (lineEnded : Bool)
  deriving DecidableEq, Repr

/-- The rest of a string in double quotes, over several lines if `multi`. -/
def basic? (multi : Bool) : Mode → List Char → Scanned
  | _, [] => none
  | .plain, c :: s =>
    if c = '"' then
      if multi then (closing? '"' s).or (Scanned.emit c (basic? multi .plain s)) else some ([], s)
    else if c = '\\' then basic? multi .escaped s
    else if c = '\r' && multi then
      match s with
      | '\n' :: s => Scanned.emit c (Scanned.emit '\n' (basic? multi .plain s))
      | _ => none
    else if isText c || (c = '\n' && multi) then Scanned.emit c (basic? multi .plain s)
    else none
  | .escaped, c :: s =>
    match escapedChar? c, hexLength? c with
    | some e, _ => Scanned.emit e (basic? multi .plain s)
    | none, some n => basic? multi (.hex (n - 1) 0) s
    | none, none =>
      if !multi then none
      else if isSpace c then basic? multi (.folding false) s
      else if c = '\n' then basic? multi (.folding true) s
      else if c = '\r' then
        match s with
        | '\n' :: s => basic? multi (.folding true) s
        | _ => none
      else none
  | .hex left value, c :: s =>
    match hexValue? c, left with
    | none, _ => none
    | some d, left + 1 => basic? multi (.hex left (16 * value + d)) s
    | some d, 0 =>
      match charOf? (16 * value + d) with
      | none => none
      | some e => Scanned.emit e (basic? multi .plain s)
  | .folding lineEnded, c :: s =>
    if isSpace c then basic? multi (.folding lineEnded) s
    else if c = '\n' then basic? multi (.folding true) s
    else if c = '\r' then
      match s with
      | '\n' :: s => basic? multi (.folding true) s
      | _ => none
    else if lineEnded then basic? multi .plain (c :: s)
    else none
termination_by m s => (s.length, if m = .plain then 0 else 1)

/-- The rest of a string in single quotes, over several lines if `multi`. -/
def literal? (multi : Bool) : List Char → Scanned
  | [] => none
  | '\r' :: '\n' :: s =>
    if multi then Scanned.emit '\r' (Scanned.emit '\n' (literal? multi s)) else none
  | c :: s =>
    if c = '\x27' then
      if multi then (closing? c s).or (Scanned.emit c (literal? multi s)) else some ([], s)
    else if isText c || (c = '\n' && multi) then Scanned.emit c (literal? multi s)
    else none

/-- The text after a line end at its start, if there is one. -/
def afterLineEnd : List Char → List Char
  | '\n' :: s => s
  | '\r' :: '\n' :: s => s
  | s => s

/-- A string in quotes `q`, on one line. -/
def lineString? (q : Char) (s : List Char) : Scanned :=
  if q = '"' then basic? false .plain s else literal? false s

/-- A string in quotes `q`, the first of which is read already. -/
def quotedString? (q : Char) (s : List Char) : Scanned :=
  match s with
  | a :: b :: s' =>
    if a = q && b = q then
      if q = '"' then basic? true .plain (afterLineEnd s') else literal? true (afterLineEnd s')
    else lineString? q s
  | _ => lineString? q s

/-- The text after blanks, line ends and comments; `inComment` tells where it starts. -/
def skipBlank? (inComment : Bool) : List Char → Option (List Char)
  | [] => some []
  | '\n' :: s => skipBlank? false s
  | '\r' :: '\n' :: s => skipBlank? false s
  | c :: s =>
    if inComment then if isText c then skipBlank? true s else none
    else if isSpace c then skipBlank? false s
    else if c = '#' then skipBlank? true s
    else some (c :: s)

end EnergyQuery.Toml
