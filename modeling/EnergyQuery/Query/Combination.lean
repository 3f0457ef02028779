/-
  Combinations: a signed sum over devices of several families.

  Each source adds or subtracts one quantity of every one of its devices.
  Sources without devices take no part.  The first device of the first source
  that has one is the anchor; all other relations are joined to it.

  * `Combination.total` is the signed sum at every instant,
    `Combination.windowTotal` the signed sum of the totals over the window;
  * a single added device is read directly from its table.
-/
import EnergyQuery.Query.OneFamily

namespace EnergyQuery

open Sql

/-- The devices of one family inside a combination. -/
structure Contribution where
  family : Family
  ids : List Nat
  sign : Sign
  quantity : Quantity
  /-- Quantities staged beside it, for columns that the caller computes. -/
  also : List Quantity := []

namespace Contribution

/-- Stages one more quantity, once. -/
def beside (c : Contribution) (q : Quantity) : Contribution :=
  if c.also.contains q then c else { c with also := c.also ++ [q] }

/-- The staged quantities: the combined one, or its counter, before the others. -/
def staged (c : Contribution) : List Quantity :=
  c.quantity.staged :: c.also.filter (· ≠ c.quantity.staged)

/-- The relations of the devices, in their order. -/
def relations (c : Contribution) : List String :=
  c.ids.map c.family.relation

/-- The term of each device: `f` of the staged column of `q`, with the sign. -/
def terms (c : Contribution) (q : Quantity) (f : Expr → Expr) : Composed (List (Sign × Expr)) := do
  let e ← c.family.entry q
  return c.ids.map fun id => (c.sign, f (c.family.columnOf id e))

end Contribution

/-- A signed sum of contributions, whose columns start with `name`. -/
structure Combination where
  name : String
  contributions : List Contribution := []

namespace Combination

/-- One more contribution, after the others. -/
def add (c : Combination) (s : Contribution) : Combination :=
  { c with contributions := c.contributions ++ [s] }

/-- The contributions that have a device. -/
def active (c : Combination) : List Contribution :=
  c.contributions.filter (!·.ids.isEmpty)

/-- No contribution has a device. -/
def isEmpty (c : Combination) : Bool :=
  c.active.isEmpty

/-- The output name of a column of the combination. -/
def columnName (c : Combination) (label : String) : Name :=
  .quoted (c.name ++ "." ++ label)

/-- Every relation, in the order of the contributions. -/
def relations (c : Combination) : List String :=
  c.active.flatMap (·.relations)

/-- The first device of the first source that has one. -/
def anchor (c : Combination) : Composed String :=
  match c.active with
  | ⟨family, id :: _, _, _, _⟩ :: _ => .ok (family.relation id)
  | _ => .error (.noDevice c.name)

/-- The scans of all devices, in the order of the relations. -/
def stage (c : Combination) : Composed (List Statement) := do
  return (← c.active.mapM fun s => s.family.stage s.ids s.staged).flatten

/-- The joins of all devices but the first one of the first source. -/
def joins (c : Combination) : Composed (List Join) := do
  let anchor ← c.anchor
  return (c.active.mapIdx fun i s =>
    s.family.timeJoins anchor (if i = 0 then s.ids.tail else s.ids)).flatten

/-- The only device of the combination, if it has one that is added. -/
def single? (c : Combination) : Option (Contribution × Nat) :=
  match c.active with
  | [s] =>
    match s.ids, s.sign with
    | [id], .plus => some (s, id)
    | _, _ => none
  | _ => none

/-- The signed sum at an instant, a missing value counting as zero. -/
def sumField (c : Combination) (label : String) : Composed Field :=
  match c.single? with
  | some (s, id) => do return ⟨← s.family.column id s.quantity, c.columnName label⟩
  | none => do
    let terms ← c.active.mapM fun s => s.terms s.quantity .orZero
    return ⟨.signedSum terms.flatten, c.columnName label⟩

/-- The signed sum of the spans of the counters. -/
def spanField (c : Combination) (label : String) : Composed Field := do
  let terms ← c.active.mapM fun s => s.terms s.quantity.staged id
  return ⟨.spanSum terms.flatten, c.columnName label⟩

/-- The alignment of all relations, without computed columns. -/
def alignment (c : Combination) : Composed Alignment := do
  let staged ← c.stage
  let joins ← c.joins
  Alignment.ofRelations staged c.relations joins

/-- The signed sum, in the order of time. -/
def total (c : Combination) (label : String) : Composed Statement := do
  c.active.forM (·.quantity.requireInstant c.name)
  match c.single? with
  | some (s, id) =>
    let e ← s.family.entry s.quantity
    return (s.family.scan id [.time, ⟨e.expr, c.columnName label⟩]).inWindow.ordered
  | none =>
    let a ← c.alignment
    return (a.compute [← c.sumField label]).statement

/-- Every contribution must be a window total. -/
def requireWindowTotals (c : Combination) : Composed Unit :=
  c.active.forM fun s =>
    if s.quantity.isWindowTotal then .ok () else .error (.notWindowTotal (some c.name) s.quantity)

/-- The signed sum of the totals over the window. -/
def windowTotal (c : Combination) (label : String) : Composed Statement := do
  c.requireWindowTotals
  match c.single? with
  | some (s, id) =>
    let e ← s.family.entry s.quantity
    return (s.family.scan id [⟨e.expr, c.columnName label⟩]).inWindow
  | none =>
    let ctes ← c.stage
    let field ← c.spanField label
    let anchor ← c.anchor
    let joins ← c.joins
    return { ctes, fields := [field], source := some (.relation anchor), joins }

end Combination

end EnergyQuery
