/-
  The environment, and texts that refer to its variables.

    ${name}   a variable; the name ends at the first closing brace, or with the text
    $name     a variable; the name is the longest run of alphanumeric characters
              and underscores, and not empty
    $         a dollar sign, where neither follows

  * `Segment.ofChars` takes a text apart, `Segment.value` is what a segment
    stands for;
  * `Environment.expand` puts the values together.  Values are inserted as they
    are; the leftmost reference without a value is the fault.
-/
import EnergyQuery.Text.Alphanumeric

namespace EnergyQuery

/-- The variables of an environment; of equal names the first one counts. -/
structure Environment where
  bindings : List (String × String) := []

/-- A variable that a text refers to, and that has no value. -/
structure MissingVariable where
  name : String
  deriving DecidableEq, Repr

/-- A name that a variable can have: it is not empty and holds no NUL. -/
def isVariableName (s : String) : Bool :=
  !s.isEmpty && !s.toList.contains '\x00'

/-- The value of a variable; what cannot be a name has none. -/
def Environment.get? (env : Environment) (name : String) : Option String :=
  if isVariableName name then env.bindings.lookup name else none

/-! ## Texts with references -/

/-- A part of a text with references. -/
inductive Segment where
  | literal (text : List Char)
  | reference (name : List Char)
  /-- A dollar sign that starts no reference. -/
  | dollar
  deriving DecidableEq, Repr

/-- A character of a name without braces. -/
def isNameChar (c : Char) : Bool :=
  Text.isAlphanumeric c || c == '_'

namespace Segment

/-- The segments of a text, from left to right. -/
def ofChars : List Char → List Segment
  | [] => []
  | c :: s =>
    if c ≠ '$' then literal (c :: s.takeWhile (· ≠ '$')) :: ofChars (s.dropWhile (· ≠ '$'))
    else if s.head? = some '{' then
      reference (s.tail.takeWhile (· ≠ '}')) :: ofChars (s.tail.dropWhile (· ≠ '}')).tail
    else if (s.takeWhile isNameChar).isEmpty then dollar :: ofChars s
    else reference (s.takeWhile isNameChar) :: ofChars (s.dropWhile isNameChar)
termination_by s => s.length
decreasing_by
  · have := (List.dropWhile_suffix (l := s) fun c => decide (c ≠ '$')).length_le
    simp only [List.length_cons]; omega
  · have := (List.dropWhile_suffix (l := s.tail) fun c => decide (c ≠ '}')).length_le
    simp only [List.length_cons, List.length_tail] at *; omega
  · simp
  · have := (List.dropWhile_suffix (l := s) isNameChar).length_le
    simp only [List.length_cons]; omega

/-- The name of the variable that a segment refers to. -/
def name? : Segment → Option String
  | reference name => some (String.ofList name)
  | _ => none

/-- The text that a segment stands for. -/
def value (env : Environment) : Segment → Except MissingVariable (List Char)
  | literal text => .ok text
  | dollar => .ok ['$']
  | reference name =>
    match env.get? (String.ofList name) with
    | some v => .ok v.toList
    | none => .error ⟨String.ofList name⟩

/-- The values of segments one after the other, or the first missing one. -/
def values (env : Environment) : List Segment → Except MissingVariable (List Char)
  | [] => .ok []
  | s :: more => do return (← s.value env) ++ (← values env more)

end Segment

/-- The text with every reference replaced by the value of its variable. -/
def Environment.expand (env : Environment) (s : String) : Except MissingVariable String := do
  return String.ofList (← Segment.values env (Segment.ofChars s.toList))

/-- The names of the variables that a text refers to, from left to right. -/
def referencedNames (s : String) : List String :=
  (Segment.ofChars s.toList).filterMap Segment.name?

end EnergyQuery
