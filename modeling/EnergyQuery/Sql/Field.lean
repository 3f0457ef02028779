/-
  Output columns and joins.

  A field is an expression with an output name.  The name is left out when it
  reads exactly as the expression does (`Field.isBare`).  A join attaches one
  relation, possibly under a second name, to the relations before it.
-/
import EnergyQuery.Sql.Token
import EnergyQuery.Sql.Expr

namespace EnergyQuery.Sql

/-! ## Fields -/

/-- An output column: an expression, and the name of its values. -/
structure Field where
  expr : Expr
  name : Name
  deriving DecidableEq, Repr

namespace Field

/-- A field that is named as its expression reads. -/
def bare (e : Expr) : Field :=
  ⟨e, .plain e.text⟩

/-- The field of `e` under `name`, bare without one. -/
def named (e : Expr) : Option Name → Field
  | none => bare e
  | some n => ⟨e, n⟩

/-- The column `n` of the only relation in scope, under its own name. -/
def ofName (n : Name) : Field :=
  ⟨.column n, n⟩

/-- The `time` column of the only relation in scope. -/
def time : Field :=
  ofName timeColumn

/-- The field under another name; without one, the field itself. -/
def rename (f : Field) : Option Name → Field
  | none => f
  | some n => { f with name := n }

/-- The name reads as the expression does, so it is left out. -/
def isBare (f : Field) : Bool :=
  f.expr.text == f.name.text

/-- `expr AS name`, or `expr` alone for a bare field. -/
def tokens (f : Field) : List Token :=
  .raw f.expr.text :: if f.isBare then [] else [.space, .kwAs, .space, .raw f.name.text]

/-- The written form of a field. -/
def text (f : Field) : String :=
  Token.render f.tokens

/-- The texts that a field is written from. -/
def parts (f : Field) : List String :=
  [f.expr.text, f.name.text]

end Field

/-! ## Joins -/

/-- Which rows without a partner a join keeps. -/
inductive JoinKind where
  | fullOuter
  | leftOuter
  | verbatim (text : String)
  deriving DecidableEq, Repr

/-- The keywords of a join. -/
def JoinKind.text : JoinKind → String
  | fullOuter => "FULL OUTER"
  | leftOuter => "LEFT OUTER"
  | verbatim t => t

/-- Which rows a join pairs. -/
inductive Condition where
  | equal (l r : Expr)
  | verbatim (text : String)
  deriving DecidableEq, Repr

/-- The written form of a condition. -/
def Condition.text : Condition → String
  | equal l r => l.text ++ " = " ++ r.text
  | verbatim t => t

/-- A relation, attached to those before it. -/
structure Join where
  kind : JoinKind
  relation : String
  /-- The second name under which the relation is in scope. -/
  alias? : Option String
  condition : Condition
  deriving DecidableEq, Repr

namespace Join

/-- `relation`, or `relation AS alias`. -/
def target (j : Join) : String :=
  match j.alias? with
  | none => j.relation
  | some a => j.relation ++ " AS " ++ a

/-- The name under which the joined relation is in scope. -/
def scopeName (j : Join) : String :=
  j.alias?.getD j.relation

/-- `kind JOIN target ON condition` -/
def tokens (j : Join) : List Token :=
  [.raw j.kind.text, .space, .kwJoin, .space, .raw j.target, .space, .kwOn, .space,
    .raw j.condition.text]

/-- The written form of a join. -/
def text (j : Join) : String :=
  Token.render j.tokens

/-- The texts that a join is written from. -/
def parts (j : Join) : List String :=
  [j.kind.text, j.target, j.condition.text]

/-- The full outer join of `relation` on equal times with `anchor`. -/
def onTime (anchor relation : String) : Join where
  kind := .fullOuter
  relation := relation
  alias? := none
  condition := .equal (.ref anchor timeColumn) (.ref relation timeColumn)

end Join

end EnergyQuery.Sql
