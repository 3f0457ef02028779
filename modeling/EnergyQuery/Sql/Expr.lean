/-
  SQL expressions.

  An expression is a tree over columns, decimal literals, arithmetic,
  aggregates and the few functions that the statements of this library use.
  `verbatim` admits a text from outside, which is written as it stands and
  never parenthesised.

  * `Expr.write` is the written form.  Parentheses appear exactly where the
    tree binds looser than its place demands; a negation counts as loose as a
    sum, so no two minus signs ever meet.  `compact` marks a part that is
    written without blanks around operators and after commas;
  * `Expr.signedSum` adds and subtracts terms from left to right.
-/
import EnergyQuery.Sql.Name

namespace EnergyQuery.Sql

/-- The calendar units that instants are truncated to. -/
inductive TimeUnit where
  | hour
  | day
  | month
  deriving DecidableEq, Repr

/-- The name of a unit. -/
def TimeUnit.name : TimeUnit → String
  | hour => "hour"
  | day => "day"
  | month => "month"

/-- The name of a unit as a string literal. -/
def TimeUnit.literal (u : TimeUnit) : String :=
  Text.quoteLiteral u.name

/-- `INTERVAL '<span>'` -/
def intervalText (span : String) : String :=
  "INTERVAL " ++ Text.quoteLiteral span

/-- The expressions that statements compute their columns and conditions with. -/
inductive Expr where
  /-- A text from outside, written as it stands. -/
  | verbatim (text : String)
  /-- A column of the only relation in scope. -/
  | column (name : Name)
  /-- `relation.name` -/
  | ref (relation name : String)
  /-- The decimal literal `digits / 10 ^ places`, written with `places` places. -/
  | number (digits places : Nat)
  /-- `INTERVAL '<span>'` -/
  | interval (span : String)
  | add (l r : Expr)
  | sub (l r : Expr)
  | mul (l r : Expr)
  | div (l r : Expr)
  | neg (e : Expr)
  | max (e : Expr)
  | min (e : Expr)
  /-- `COALESCE(e, 0)` -/
  | orZero (e : Expr)
  /-- `GREATEST(e, 0)` -/
  | positivePart (e : Expr)
  /-- `NULLIF(e, 0)` -/
  | nullIfZero (e : Expr)
  /-- One where `e` exceeds `threshold`, zero elsewhere. -/
  | flagAbove (e threshold : Expr)
  /-- The first value of the column `name` that is present, in the order of the relations. -/
  | firstOf (relations : List String) (name : String)
  /-- `DATE_TRUNC('<unit>', e)` -/
  | truncated (unit : TimeUnit) (e : Expr)
  /-- `e`, written without blanks around operators and after commas. -/
  | compact (e : Expr)
  deriving DecidableEq, Repr

/-- Whether blanks stand around operators and after commas. -/
inductive Spacing where
  | wide
  | tight
  deriving DecidableEq, Repr

/-- A binary operator, as it stands between its operands. -/
def Spacing.operator : Spacing → String → String
  | wide, op => " " ++ op ++ " "
  | tight, op => op

/-- A comma, as it stands between two arguments. -/
def Spacing.comma : Spacing → String
  | wide => ", "
  | tight => ","

/-- The decimal text of `digits / 10 ^ places`: at least one digit before the
    point, exactly `places` after it, and no point when there are none. -/
def decimalText (digits places : Nat) : String :=
  if places = 0 then toString digits
  else
    let cs := (toString digits).toList
    let padded := List.replicate (places + 1 - cs.length) '0' ++ cs
    let whole := padded.length - places
    String.ofList (padded.take whole ++ '.' :: padded.drop whole)

namespace Expr

/-- How tightly an expression binds: sums and negations at `0`, products and
    quotients at `1`, all others at `2`. -/
def level : Expr → Nat
  | add _ _ | sub _ _ | neg _ => 0
  | mul _ _ | div _ _ => 1
  | compact e => e.level
  | _ => 2

/-- `text`, in parentheses unless `e` binds at least as tightly as `least`. -/
def enclose (least : Nat) (e : Expr) (text : String) : String :=
  if e.level < least then "(" ++ text ++ ")" else text

/-- The written form of an expression. -/
def write (sp : Spacing) : Expr → String
  | verbatim t => t
  | column n => n.text
  | ref r n => r ++ "." ++ n
  | number d p => decimalText d p
  | interval s => intervalText s
  | add l r => l.write sp ++ sp.operator "+" ++ r.enclose 1 (r.write sp)
  | sub l r => l.write sp ++ sp.operator "-" ++ r.enclose 1 (r.write sp)
  | mul l r => l.enclose 1 (l.write sp) ++ sp.operator "*" ++ r.enclose 2 (r.write sp)
  | div l r => l.enclose 1 (l.write sp) ++ sp.operator "/" ++ r.enclose 2 (r.write sp)
  | neg e => "-" ++ e.enclose 1 (e.write sp)
  | max e => "MAX(" ++ e.write sp ++ ")"
  | min e => "MIN(" ++ e.write sp ++ ")"
  | orZero e => "COALESCE(" ++ e.write sp ++ sp.comma ++ "0)"
  | positivePart e => "GREATEST(" ++ e.write sp ++ sp.comma ++ "0)"
  | nullIfZero e => "NULLIF(" ++ e.write sp ++ sp.comma ++ "0)"
  | flagAbove e t => "CASE WHEN " ++ e.write sp ++ " > " ++ t.write sp ++ " THEN 1 ELSE 0 END"
  | firstOf rs n => "COALESCE(" ++ sp.comma.intercalate (rs.map (· ++ "." ++ n)) ++ ")"
  | truncated u e => "DATE_TRUNC(" ++ u.literal ++ sp.comma ++ e.write sp ++ ")"
  | compact e => e.write .tight

/-- The written form of an expression that stands by itself. -/
def text (e : Expr) : String :=
  e.write .wide

end Expr

/-! ## Signed sums -/

/-- The direction in which a term enters a sum. -/
inductive Sign where
  | plus
  | minus
  deriving DecidableEq, Repr

namespace Sign

/-- The other sign. -/
def opposite : Sign → Sign
  | plus => minus
  | minus => plus

/-- The term with its sign, where it is the first one of a sum. -/
def lead : Sign → Expr → Expr
  | plus, e => e
  | minus, e => .neg e

/-- The sum `total` with one more term, behind its sign. -/
def extend : Sign → Expr → Expr → Expr
  | plus, total, e => .add total e
  | minus, total, e => .sub total e

end Sign

namespace Expr

/-- The terms added and subtracted from left to right.  Without terms nothing is written. -/
def signedSum : List (Sign × Expr) → Expr
  | [] => .verbatim ""
  | (s, e) :: more => more.foldl (fun total term => term.1.extend total term.2) (s.lead e)

/-- The terms added from left to right. -/
def sum (terms : List Expr) : Expr :=
  signedSum (terms.map (Sign.plus, ·))

/-- The largest value less the smallest one, a missing one counting as `0`, as two signed terms;
    `minus` exchanges the signs. -/
def spanTerms (s : Sign) (e : Expr) : List (Sign × Expr) :=
  [(s, .orZero (.max e)), (s.opposite, .orZero (.min e))]

/-- The signed spans of several counters, written compactly. -/
def spanSum (terms : List (Sign × Expr)) : Expr :=
  .compact (signedSum (terms.flatMap fun term => spanTerms term.1 term.2))

end Expr

end EnergyQuery.Sql
