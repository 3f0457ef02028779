/-
  TOML documents as values, and how tables grow.

  Each table remembers how it came to be (`Origin`), for a document may define
  a table once only:

  * a header opens a new table, or one that so far exists only because a
    header named something inside it;
  * a dotted key reaches through tables that dotted keys made, never into a
    table that a header or braces made;
  * a header reaches through all tables but those in braces, and into the last
    table of an array of tables.
-/

namespace EnergyQuery.Toml

/-- How a table came to be. -/
inductive Origin where
  | header
  /-- By a header that names something inside it. -/
  | implied
  | dotted
  | braces
  deriving DecidableEq, Repr

/-- A value in a document, as far as settings can tell values apart. -/
inductive Value where
  | string (text : String)
  | integer (n : Int)
  /-- A numeral that has its place in a document, but no value. -/
  | valueless
  /-- A float, `finite` unless its literal exceeds every finite binary64 number. -/
  | float (finite : Bool)
  | boolean (b : Bool)
  | date
  /-- An array; `ofTables` if headers made it. -/
  | array (ofTables : Bool) (items : List Value)
  | table (origin : Origin) (entries : List (String × Value))
  deriving Repr

/-- Why a text is no TOML document. -/
inductive Fault where
  | malformed (rest : List Char)
  /-- A key or table is defined twice, or extended where it must not be. -/
  | redefined (key : String)
  deriving DecidableEq, Repr

/-- What is reported of a text that is no TOML document. -/
def Fault.message : Fault → String
  | malformed rest => "malformed text before '" ++ String.ofList (rest.takeWhile (· ≠ '\n')) ++ "'"
  | redefined key => "key '" ++ key ++ "' is defined twice"

/-- The keys of a table with their values, in the order in which they are defined. -/
abbrev Entries := List (String × Value)

/-- The entries with the value under `key` replaced by `f` of it; a new key goes to the end. -/
def Entries.alter (key : String) (f : Option Value → Except Fault Value) :
    Entries → Except Fault Entries
  | [] => do return [(key, ← f none)]
  | (k, v) :: more =>
    if k == key then do return (k, ← f (some v)) :: more
    else do return (k, v) :: (← alter key f more)

/-- The list with its last member replaced. -/
def alterLast (f : Value → Except Fault Value) : List Value → Except Fault (List Value)
  | [] => .ok []
  | [v] => do return [← f v]
  | v :: more => do return v :: (← alterLast f more)

namespace Value

/-- Applies `f` to the origin and entries of a table. -/
def alterTable (key : String) (f : Origin → Entries → Except Fault Entries) :
    Value → Except Fault Value
  | table o es => do return table o (← f o es)
  | _ => .error (.redefined key)

end Value

namespace Entries

/-- Applies `f` to the table that headers reach by a path, making the tables that are missing. -/
def atHeader (f : Origin → Entries → Except Fault Entries) :
    List String → Origin → Entries → Except Fault Entries
  | [], o, es => f o es
  | key :: path, _, es =>
    let enter (o : Origin) (es : Entries) : Except Fault Entries :=
      if o = .braces then .error (.redefined key) else atHeader f path o es
    es.alter key fun
      | none => do return .table .implied (← atHeader f path .implied [])
      | some (.array true items) => do
        return .array true (← alterLast (Value.alterTable key enter) items)
      | some v => v.alterTable key enter

/-- Applies `f` to the table that a dotted key reaches, making the tables that are missing. -/
def atDotted (f : Origin → Entries → Except Fault Entries) :
    List String → Origin → Entries → Except Fault Entries
  | [], o, es => f o es
  | key :: path, _, es =>
    let enter (o : Origin) (es : Entries) : Except Fault Entries :=
      if o = .implied || o = .dotted then atDotted f path o es else .error (.redefined key)
    es.alter key fun
      | none => do return .table .dotted (← atDotted f path .dotted [])
      | some (.array true items) => do
        return .array true (← alterLast (Value.alterTable key (atDotted f path)) items)
      | some v => v.alterTable key enter

/-- A new key with its value. -/
def define (key : String) (v : Value) (es : Entries) : Except Fault Entries :=
  es.alter key fun
    | none => .ok v
    | some _ => .error (.redefined key)

/-- A new key with its value, in the table that the dotted `path` before it reaches. -/
def defineAt (path : List String) (key : String) (v : Value) (o : Origin) (es : Entries) :
    Except Fault Entries :=
  es.atDotted (fun o es =>
    if !path.isEmpty && o != .dotted then .error (.redefined key) else es.define key v) path o

/-- A table opened by its header. -/
def openTable (path : List String) (key : String) (es : Entries) : Except Fault Entries :=
  es.atHeader (fun _ es => es.alter key fun
    | none => .ok (.table .header [])
    | some (.table .implied inner) => .ok (.table .header inner)
    | some _ => .error (.redefined key)) path .header

/-- One more table of an array of tables, opened by its header. -/
def openItem (path : List String) (key : String) (es : Entries) : Except Fault Entries :=
  es.atHeader (fun _ es => es.alter key fun
    | none => .ok (.array true [.table .header []])
    | some (.array true items) => .ok (.array true (items ++ [.table .header []]))
    | some _ => .error (.redefined key)) path .header

end Entries

end EnergyQuery.Toml
