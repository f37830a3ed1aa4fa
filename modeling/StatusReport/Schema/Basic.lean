import StatusReport.Descriptor
import StatusReport.Formatter.Registry

/-! # Schemas

A schema is the tree of what a descriptor shows: leaves, which become text, and groups. Building it
numbers the nodes depth first, the root being node 0, and checks that every formatter named on the
way exists.

Every node has two sequences of keys. Its *selector* leads from the record to its value. Its
*address*, the path of its surroundings and its own key, is what a report is told to show or hide.
A flatten group is transparent: its fields have its own path. A boxed group starts afresh.

* `Schema.build`: the schema of a descriptor.
* `Schema.leaves`: the leaves in order.
* `Schema.nodes`: all nodes below the root in order.
-/

namespace StatusReport

/-! ## Nodes -/

structure Label where
  id : Nat
  path : List String
  key : String
  selector : List String
  title : String
  defaultText : String
  formatter : Option String
deriving DecidableEq, Repr

namespace Label

/-- The dotted path that directives name. An empty key adds nothing to the path. -/
def address (l : Label) : String :=
  ".".intercalate (if l.key = "" then l.path else l.path ++ [l.key])

/-- The dotted selector that error messages name. -/
def selectorPath (l : Label) : String := ".".intercalate l.selector

end Label

inductive Node where
  | leaf (label : Label)
  | group (label : Label) (name : String) (flatten : Bool) (children : List Node)
deriving Repr

namespace Node

def label : Node → Label
  | .leaf label => label
  | .group label _ _ _ => label

def isGroup : Node → Bool
  | .leaf _ => false
  | .group .. => true

def children : Node → List Node
  | .leaf _ => []
  | .group _ _ _ children => children

mutual

def leaves : Node → List Label
  | .leaf label => [label]
  | .group _ _ _ children => leavesOf children

def leavesOf : List Node → List Label
  | [] => []
  | node :: rest => leaves node ++ leavesOf rest

end

mutual

def flat : Node → List Node
  | .leaf label => [.leaf label]
  | .group label name flatten children => .group label name flatten children :: flatAll children

def flatAll : List Node → List Node
  | [] => []
  | node :: rest => flat node ++ flatAll rest

end

end Node

/-- The tree of a record type, with the number of its nodes, the root included. -/
structure Schema where
  name : String
  roots : List Node
  size : Nat
deriving Repr

namespace Schema

def isEmpty (s : Schema) : Bool := s.roots.isEmpty

def leaves (s : Schema) : List Label := Node.leavesOf s.roots

def nodes (s : Schema) : List Node := Node.flatAll s.roots

/-! ## Building -/

def labelOf (path selector : List String) (spec : FieldSpec) (id : Nat) : Label where
  id := id
  path := path
  key := spec.key
  selector := selector ++ [spec.key]
  title := spec.displayTitle
  defaultText := spec.defaultText.getD ""
  formatter := spec.format

@[simp] theorem labelOf_id (path selector : List String) (spec : FieldSpec) (id : Nat) :
    (labelOf path selector spec id).id = id := rfl

def checkFormat (formatters : Registry) (selector : List String) (spec : FieldSpec) :
    Except SchemaError Unit :=
  match spec.format with
  | none => .ok ()
  | some id =>
    if formatters.contains id then .ok ()
    else .error (.unknownFormatter (".".intercalate (selector ++ [spec.key])) id)

mutual

/-- The node of a field, from the next free number on, and the next free number after it. The field
    is checked before its number is taken, and its number is taken before those below it. -/
def buildField (formatters : Registry) (path selector : List String) :
    Field → Nat → Except SchemaError (Node × Nat)
  | .scalar spec, next =>
    match checkFormat formatters selector spec with
    | .error e => .error e
    | .ok () => .ok (.leaf (labelOf path selector spec next), next + 1)
  | .record spec _ fields, next =>
    match checkFormat formatters selector spec with
    | .error e => .error e
    | .ok () =>
      match spec.activeGroup? with
      | none => .ok (.leaf (labelOf path selector spec next), next + 1)
      | some group =>
        match buildFields formatters (if group.flatten then path else [])
            (selector ++ [spec.key]) fields (next + 1) with
        | .error e => .error e
        | .ok (children, after) =>
          .ok (.group (labelOf path selector spec next) group.name group.flatten children, after)

def buildFields (formatters : Registry) (path selector : List String) :
    List Field → Nat → Except SchemaError (List Node × Nat)
  | [], next => .ok ([], next)
  | field :: rest, next =>
    match buildField formatters path selector field next with
    | .error e => .error e
    | .ok (node, next) =>
      match buildFields formatters path selector rest next with
      | .error e => .error e
      | .ok (nodes, after) => .ok (node :: nodes, after)

end

/-- The schema of a descriptor, its formatters checked against a registry. -/
def build (descriptor : Descriptor) (formatters : Registry) : Except SchemaError Schema :=
  match buildFields formatters [] [] descriptor.fields 1 with
  | .error e => .error e
  | .ok (nodes, size) => .ok ⟨descriptor.name, nodes, size⟩

end Schema

end StatusReport
