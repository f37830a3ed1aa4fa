import StatusReport.Directive
import StatusReport.Schema.Basic

/-! # Visibility of the nodes of a schema

Every node of a schema has a slot, found by its number, that says whether it is shown. Slots are
filled from the root down: a node that the directive does not list is as its parent is. Below a
hidden group a listed node can be shown again.

* `Visibility.resolve`: the slots of a schema under a directive.
* `Visibility.isShown`: what the slot of a number says.
-/

namespace StatusReport

/-- Whether each node is shown, by number. -/
structure Visibility where
  slots : List Bool
deriving DecidableEq, Repr

namespace Visibility

mutual

/-- Fills the slots of a node and all below it, given whether its parent is shown. -/
def fillNode (directive : Directive) (inherited : Bool) : Node → List Bool → List Bool
  | .leaf label, slots => slots.set label.id (directive.shows label.address inherited)
  | .group label _ _ children, slots =>
    let shown := directive.shows label.address inherited
    fillNodes directive shown children (slots.set label.id shown)

def fillNodes (directive : Directive) (inherited : Bool) : List Node → List Bool → List Bool
  | [], slots => slots
  | node :: rest, slots =>
    fillNodes directive inherited rest (fillNode directive inherited node slots)

end

/-- The visibility of a schema under a directive. The root has the first slot. -/
def resolve (schema : Schema) (directive : Directive) : Visibility :=
  let shown := directive.rootDefault
  ⟨fillNodes directive shown schema.roots ((List.replicate schema.size false).set 0 shown)⟩

/-- Whether the node of a number is shown. A number without a slot is not. -/
def isShown (v : Visibility) (id : Nat) : Bool := v.slots.getD id false

end Visibility

end StatusReport
