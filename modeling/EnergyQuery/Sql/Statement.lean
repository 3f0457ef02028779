/-
  SQL statements:

    WITH a AS (..), b AS (..) SELECT f1, f2 FROM source JOIN.. WHERE c1 c2 ..

  A statement is a tree: common table expressions are statements themselves.
  The text after `WHERE` is a list of clauses, separated by blanks.

  * `Statement.tokens` and `Statement.render` write a statement; they fail
    exactly when a common table expression has no name, with the text of the
    first such expression in writing order;
  * `Window` is the time range that clauses and bucket sources refer to: the
    one selected in the dashboard, by placeholder, or a fixed one;
    `Statement.within` fixes it throughout a statement.
-/
import EnergyQuery.Sql.Field

namespace EnergyQuery.Sql

/-! ## Windows and clauses -/

/-- The time range a statement is restricted to. -/
inductive Window where
  /-- The range selected in the dashboard, written as placeholders. -/
  | selected
  /-- The range between two instants, given by their literals. -/
  | fixed (start stop : String)
  deriving DecidableEq, Repr

namespace Window

/-- The condition that the `time` column lies in the window. -/
def filter : Window → String
  | selected => "$__timeFilter(" ++ timeColumn ++ ")"
  | fixed start stop => timeColumn ++ " BETWEEN " ++ start ++ " AND " ++ stop

/-- The first instant of the window. -/
def start : Window → String
  | selected => "$__timeFrom()"
  | fixed start _ => start

/-- The last instant of the window. -/
def stop : Window → String
  | selected => "$__timeTo()"
  | fixed _ stop => stop

end Window

/-- What follows the source of a statement: conditions on its rows, the words between them, their
    grouping and their order. -/
inductive Clause where
  /-- A text from outside, written as it stands. -/
  | verbatim (text : String)
  | conjunction
  | device (id : Nat)
  | inWindow (w : Window)
  /-- The rows with a time, that of `relation` if one is named. -/
  | timePresent (relation : Option String)
  /-- The rows from the first time of `relation` on. -/
  | fromFirst (relation : String)
  /-- The rows before the last value of `edge` in `relation`, plus `margin`. -/
  | beforeLast (relation edge margin : String)
  | groupedByFirst
  | orderedByTime
  deriving DecidableEq, Repr

/-- The written form of a clause. -/
def Clause.text : Clause → String
  | verbatim t => t
  | conjunction => "AND"
  | device id => "series_id = " ++ toString id
  | inWindow w => w.filter
  | timePresent none => timeColumn ++ " IS NOT NULL"
  | timePresent (some r) => r ++ "." ++ timeColumn ++ " IS NOT NULL"
  | fromFirst r => timeColumn ++ " >= (SELECT MIN(" ++ timeColumn ++ ") FROM " ++ r ++ ")"
  | beforeLast r edge margin =>
    timeColumn ++ " < (SELECT MAX(" ++ edge ++ ") FROM " ++ r ++ ") + " ++ intervalText margin
  | groupedByFirst => "GROUP BY 1"
  | orderedByTime => "ORDER BY " ++ timeColumn

/-- The clause for the window `w`. -/
def Clause.within (w : Window) : Clause → Clause
  | inWindow _ => inWindow w
  | c => c

/-! ## Sources -/

/-- A relation, the relations joined to it, and the columns computed over a joined row. -/
structure Chain where
  fields : List Field
  anchor : String
  joins : List Join
  deriving DecidableEq, Repr

/-- What a statement selects from. -/
inductive Source where
  /-- A table, a common table expression, or a text from outside. -/
  | relation (text : String)
  /-- The columns of a joined chain, kept apart by `OFFSET 0`, under a name. -/
  | derived (chain : Chain) (name : String)
  /-- One row per calendar unit of the window, spaced by `step`, under a name. -/
  | buckets (unit : TimeUnit) (step : String) (w : Window) (name : String)
  deriving DecidableEq, Repr

/-- Everything of a statement but its common table expressions, for a source already written. -/
def selectTokens (fields : List Field) (source : Option (List Token)) (joins : List Join)
    (clauses : List Clause) : List Token :=
  [.kwSelect, .space] ++ Token.separated [.comma, .space] (fields.map Field.tokens) ++
    (match source with
      | none => []
      | some ts => [.space, .kwFrom, .space] ++ ts) ++
    joins.flatMap (fun j => .space :: j.tokens) ++
    (if clauses.isEmpty then []
      else [.space, .kwWhere] ++ clauses.flatMap fun c => [.space, .raw c.text])

/-- The tokens of a chain, as a statement of its own. -/
def Chain.tokens (c : Chain) : List Token :=
  selectTokens c.fields (some [.raw c.anchor]) c.joins []

namespace Source

/-- The tokens of a source; buckets and texts from outside are written in one. -/
def tokens : Source → List Token
  | relation t => [.raw t]
  | derived chain name =>
    [.leftParen] ++ chain.tokens ++
      [.space, .kwOffset, .space, .number 0, .rightParen, .space, .kwAs, .space, .raw name]
  | buckets unit step w name =>
    [.raw ("GENERATE_SERIES(DATE_TRUNC(" ++ unit.literal ++ ", " ++ w.start ++ "::timestamptz), " ++
      w.stop ++ "::timestamptz, " ++ intervalText step ++ ") AS " ++ name)]

/-- The written form of a source. -/
def text (s : Source) : String :=
  Token.render s.tokens

/-- The source for the window `w`; the chain of a derived table has no window. -/
def within (w : Window) : Source → Source
  | buckets unit step _ name => buckets unit step w name
  | s => s

end Source

/-! ## Statements -/

/-- An SQL statement, named when it serves as a common table expression. -/
structure Statement where
  name : Option String := none
  ctes : List Statement := []
  fields : List Field := []
  source : Option Source := none
  joins : List Join := []
  clauses : List Clause := []
  deriving Repr

/-- A common table expression without a name cannot be referred to; `text` is its written form. -/
structure UnnamedCte where
  text : String
  deriving DecidableEq, Repr

/-- What is reported of a common table expression without a name. -/
def UnnamedCte.message (f : UnnamedCte) : String :=
  "common table expression has no name: " ++ f.text

/-- A common table expression, from the tokens of its statement. -/
def cteTokens (name : String) (body : List Token) : List Token :=
  [.raw name, .space, .kwAs, .space, .leftParen] ++ body ++ [.rightParen]

/-- The common table expressions before a statement, if there are any. -/
def withTokens (ctes : List (List Token)) : List Token :=
  if ctes.isEmpty then []
  else [.kwWith, .space] ++ Token.separated [.comma, .space] ctes ++ [.space]

namespace Statement

mutual

/-- The tokens of a statement, its common table expressions first. -/
def tokens : Statement → Except UnnamedCte (List Token)
  | ⟨_, ctes, fields, source, joins, clauses⟩ => do
    let staged ← ctesTokens ctes
    return withTokens staged ++ selectTokens fields (source.map Source.tokens) joins clauses
termination_by structural s => s

/-- The tokens of each common table expression.  The content of an expression is
    written before its missing name is noticed. -/
def ctesTokens : List Statement → Except UnnamedCte (List (List Token))
  | [] => .ok []
  | s :: more => do
    let body ← s.tokens
    match s.name with
    | none => .error ⟨Token.render body⟩
    | some n => return cteTokens n body :: (← ctesTokens more)
termination_by structural l => l

end

/-- The written form of a statement. -/
def render (s : Statement) : Except UnnamedCte String :=
  s.tokens.map Token.render

mutual

/-- The statement with every window in it replaced by `w`. -/
def within (w : Window) : Statement → Statement
  | ⟨name, ctes, fields, source, joins, clauses⟩ =>
    ⟨name, ctesWithin w ctes, fields, source.map (Source.within w), joins,
      clauses.map (Clause.within w)⟩
termination_by structural s => s

/-- The common table expressions for the window `w`. -/
def ctesWithin (w : Window) : List Statement → List Statement
  | [] => []
  | s :: more => s.within w :: ctesWithin w more
termination_by structural l => l

end

mutual

/-- Part by part, the two statements are written alike. -/
def sameText : Statement → Statement → Bool
  | ⟨n₁, t₁, f₁, s₁, j₁, c₁⟩, ⟨n₂, t₂, f₂, s₂, j₂, c₂⟩ =>
    n₁ == n₂ && ctesSameText t₁ t₂ && f₁.map Field.parts == f₂.map Field.parts &&
      s₁.map Source.text == s₂.map Source.text && j₁.map Join.parts == j₂.map Join.parts &&
      c₁.map Clause.text == c₂.map Clause.text
termination_by structural s => s

/-- Both lists have the same length, and their statements are written alike in pairs. -/
def ctesSameText : List Statement → List Statement → Bool
  | [], [] => true
  | s :: more, t :: others => s.sameText t && ctesSameText more others
  | _, _ => false
termination_by structural l => l

end

/-! ### Building statements -/

/-- The statement with one more column. -/
def select (s : Statement) (f : Field) : Statement :=
  { s with fields := s.fields ++ [f] }

/-- The statement with more clauses. -/
def restrict (s : Statement) (cs : List Clause) : Statement :=
  { s with clauses := s.clauses ++ cs }

/-- The statement for the rows in the selected window, after some other condition. -/
def inWindow (s : Statement) : Statement :=
  s.restrict [.conjunction, .inWindow .selected]

/-- The statement with its rows in the order of time. -/
def ordered (s : Statement) : Statement :=
  s.restrict [.orderedByTime]

/-- The statement for the rows that have a time, as its first condition. -/
def timePresent (s : Statement) : Statement :=
  s.restrict [.timePresent none]

end Statement

end EnergyQuery.Sql
