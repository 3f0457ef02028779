/-
  Statements over the devices of one family.

  * `Family.labelled` and `Family.each` give each device columns of its own,
    `Family.total` one column for all;
  * `Family.windowEach` and `Family.windowTotal` do the same with totals over
    the window, which need no time.

  One device is read directly from the table; several are aligned.
-/
import EnergyQuery.Query.Combined

namespace EnergyQuery

open Sql

namespace Family

/-- Each channel of each device as a column, in the order of time. -/
def labelled (f : Family) (ids : List Nat) (channels : List Channel) : Composed Statement := do
  f.requireIds "query_labelled" ids
  channels.forM (·.quantity.requireInstant "query_labelled")
  match ids with
  | [id] =>
    let fields ← channels.mapM fun c => do
      let e ← f.entry c.quantity
      return (⟨e.expr, f.deviceName id (c.label.getD e.column)⟩ : Field)
    return (f.scan id (.time :: fields)).inWindow.ordered
  | _ => PerDevice.statement { family := f, ids := ids, channels := channels }

/-- Each quantity of each device as a column, in the order of time. -/
def each (f : Family) (ids : List Nat) (qs : List Quantity) : Composed Statement :=
  f.labelled ids (qs.map fun q => { quantity := q })

/-- The sum of a quantity over the devices, in the order of time. -/
def total (f : Family) (ids : List Nat) (q : Quantity) : Composed Statement := do
  f.requireIds "query_sum" ids
  q.requireInstant "query_sum"
  let e ← f.entry q
  match ids with
  | [id] => return (f.scan id [.time, ⟨e.expr, f.familyName e.column⟩]).inWindow.ordered
  | _ => (← Combined.sum { family := f, ids := ids } q).statement

/-- Columns over the relations of all devices, staged with `q` and joined on equal times. -/
def joined (f : Family) (ids : List Nat) (q : Quantity) (fields : List Field) :
    Composed Statement := do
  let a ← f.align ids [q]
  return { ctes := a.staged, fields, source := some (.relation a.anchor), joins := a.joins }

/-- The total of each device over the window.  Of a single device the quantity is not asked to be a
    total, as its catalog entry is taken as it is. -/
def windowEach (f : Family) (ids : List Nat) (q : Quantity) : Composed Statement := do
  f.requireIds "query_delta" ids
  let e ← f.entry q
  match ids with
  | [id] => return (f.scan id [⟨e.expr, f.deviceName id e.column⟩]).inWindow
  | _ =>
    let counter ← q.requireCounter
    let c ← f.entry counter
    f.joined ids counter (ids.map fun id => ⟨f.spanOf [id] c, f.deviceName id e.column⟩)

/-- The total of all devices over the window; a single device is treated as in `windowEach`. -/
def windowTotal (f : Family) (ids : List Nat) (q : Quantity) : Composed Statement := do
  f.requireIds "query_delta_sum" ids
  let e ← f.entry q
  match ids with
  | [id] => return (f.scan id [⟨e.expr, f.familyName e.column⟩]).inWindow
  | _ =>
    let counter ← q.requireCounter
    let c ← f.entry counter
    f.joined ids counter [⟨f.spanOf ids c, f.familyName e.column⟩]

end Family

end EnergyQuery
