import StatusReport.Yaml.Token

/-! # Nodes of a YAML document

A document is a tree of scalars, lists and tables. A node may have a tag and an anchor, and a
reference stands for the node with its anchor. Where a node is missing, an empty plain scalar
stands.

* `Node.document? tokens`: the tree of a document, `none` inside for an empty one.
-/

namespace StatusReport.Yaml

/-- What may stand in front of a node. -/
structure Properties where
  anchor : Option (List Char) := none
  tag : Option (List Char) := none
deriving DecidableEq, Repr

inductive Node where
  | reference (name : List Char)
  | scalar (properties : Properties) (text : List Char) (plain : Bool)
  | list (properties : Properties) (items : List Node)
  | table (properties : Properties) (entries : List (Node × Node))
deriving Inhabited

namespace Node

def empty : Node := .scalar {} [] true

/-! ## Properties -/

/-- The properties in front, an anchor and a tag in either order, and what follows them. -/
def properties? (handles : List TagHandle) : List Token → Option (Properties × List Token)
  | .anchor name :: .tag t :: rest => (t.text? handles).map fun s => (⟨some name, some s⟩, rest)
  | .tag t :: .anchor name :: rest => (t.text? handles).map fun s => (⟨some name, some s⟩, rest)
  | .anchor name :: rest => some (⟨some name, none⟩, rest)
  | .tag t :: rest => (t.text? handles).map fun s => (⟨none, some s⟩, rest)
  | rest => some ({}, rest)

/-- The properties of a scalar: a mark alone is no tag of it. -/
def scalarProperties (p : Properties) : Properties :=
  if p.tag = some ['!'] then { p with tag := none } else p

/-! ## Where a node is missing -/

def endsItem : List Token → Bool
  | .item :: _ | .blockEnd :: _ => true
  | _ => false

def endsOpenItem : List Token → Bool
  | .item :: _ | .key :: _ | .value :: _ | .blockEnd :: _ => true
  | _ => false

def endsEntry : List Token → Bool
  | .key :: _ | .value :: _ | .blockEnd :: _ => true
  | _ => false

def endsFlowValue (close : Token) : List Token → Bool
  | t :: _ => t = .comma || t = close
  | [] => false

def endsFlowKey (close : Token) : List Token → Bool
  | .value :: _ => true
  | tokens => endsFlowValue close tokens

/-- Past the comma before an entry in brackets that is not the first. -/
def afterComma? (first : Bool) : List Token → Option (List Token)
  | .comma :: rest => some (if first then .comma :: rest else rest)
  | tokens => if first then some tokens else none

/-! ## Nodes

`steps` bounds how often the functions call each other. A call takes a token, or is followed by
one that does, so twice the number of tokens is enough. -/

mutual

/-- The node in front. `block` admits the lists and tables of indentation, and `openList` a list
    that is not indented. -/
def node? (handles : List TagHandle) (block openList : Bool) :
    Nat → List Token → Option (Node × List Token)
  | 0, _ => none
  | _ + 1, .reference name :: rest => some (.reference name, rest)
  | steps + 1, tokens =>
    match properties? handles tokens with
    | none => none
    | some (p, rest) =>
      let absent := if p = {} then none else some (scalar p [] true, rest)
      match rest with
      | .scalar text plain :: rest => some (.scalar (scalarProperties p) text plain, rest)
      | .openList :: rest =>
        (flowItems? handles true steps rest).map fun (items, rest) => (.list p items, rest)
      | .openTable :: rest =>
        (flowEntries? handles true steps rest).map fun (entries, rest) => (.table p entries, rest)
      | .item :: _ =>
        if openList then
          (openItems? handles steps rest).map fun (items, rest) => (.list p items, rest)
        else absent
      | .listStart :: rest =>
        if block then (items? handles steps rest).map fun (items, rest) => (.list p items, rest)
        else absent
      | .tableStart :: rest =>
        if block then
          (entries? handles steps rest).map fun (entries, rest) => (.table p entries, rest)
        else absent
      | _ => absent

def items? (handles : List TagHandle) : Nat → List Token → Option (List Node × List Token)
  | steps + 1, .item :: rest =>
    match
      if endsItem rest then some (empty, rest) else node? handles true false steps rest with
    | none => none
    | some (node, rest) =>
      (items? handles steps rest).map fun (nodes, rest) => (node :: nodes, rest)
  | _, .blockEnd :: rest => some ([], rest)
  | _, _ => none

def openItems? (handles : List TagHandle) : Nat → List Token → Option (List Node × List Token)
  | steps + 1, .item :: rest =>
    match
      if endsOpenItem rest then some (empty, rest) else node? handles true false steps rest with
    | none => none
    | some (node, rest) =>
      (openItems? handles steps rest).map fun (nodes, rest) => (node :: nodes, rest)
  | 0, .item :: _ => none
  | _, rest => some ([], rest)

def entries? (handles : List TagHandle) :
    Nat → List Token → Option (List (Node × Node) × List Token)
  | steps + 1, .key :: rest =>
    match
      if endsEntry rest then some (empty, rest) else node? handles true true steps rest with
    | none => none
    | some (key, rest) =>
      match
        match rest with
        | .value :: rest =>
          if endsEntry rest then some (empty, rest) else node? handles true true steps rest
        | rest => some (empty, rest) with
      | none => none
      | some (value, rest) =>
        (entries? handles steps rest).map fun (nodes, rest) => ((key, value) :: nodes, rest)
  | _, .blockEnd :: rest => some ([], rest)
  | _, _ => none

def flowValue? (handles : List TagHandle) (close : Token) :
    Nat → List Token → Option (Node × List Token)
  | steps + 1, .value :: rest =>
    if endsFlowValue close rest then some (empty, rest) else node? handles false false steps rest
  | 0, .value :: _ => none
  | _, rest => some (empty, rest)

/-- The items of a list in brackets. An announced key makes a table of one entry; where the key is
    missing, so is the token after it. -/
def flowItems? (handles : List TagHandle) (first : Bool) :
    Nat → List Token → Option (List Node × List Token)
  | 0, _ => none
  | _ + 1, .closeList :: rest => some ([], rest)
  | steps + 1, tokens =>
    match afterComma? first tokens with
    | none => none
    | some (.closeList :: rest) => some ([], rest)
    | some (.key :: rest) =>
      match
        if endsFlowKey .closeList rest then some (empty, rest.tail)
        else node? handles false false steps rest with
      | none => none
      | some (key, rest) =>
        match flowValue? handles .closeList steps rest with
        | none => none
        | some (value, rest) =>
          (flowItems? handles false steps rest).map fun (nodes, rest) =>
            (.table {} [(key, value)] :: nodes, rest)
    | some rest =>
      match node? handles false false steps rest with
      | none => none
      | some (node, rest) =>
        (flowItems? handles false steps rest).map fun (nodes, rest) => (node :: nodes, rest)

/-- The entries of a table in brackets. A key that is not announced has no value. -/
def flowEntries? (handles : List TagHandle) (first : Bool) :
    Nat → List Token → Option (List (Node × Node) × List Token)
  | 0, _ => none
  | _ + 1, .closeTable :: rest => some ([], rest)
  | steps + 1, tokens =>
    match afterComma? first tokens with
    | none => none
    | some (.closeTable :: rest) => some ([], rest)
    | some (.key :: rest) =>
      match
        if endsFlowKey .closeTable rest then some (empty, rest)
        else node? handles false false steps rest with
      | none => none
      | some (key, rest) =>
        match flowValue? handles .closeTable steps rest with
        | none => none
        | some (value, rest) =>
          (flowEntries? handles false steps rest).map fun (nodes, rest) =>
            ((key, value) :: nodes, rest)
    | some rest =>
      match node? handles false false steps rest with
      | none => none
      | some (key, rest) =>
        (flowEntries? handles false steps rest).map fun (nodes, rest) =>
          ((key, empty) :: nodes, rest)

end

/-! ## Documents -/

/-- What directives say: whether one gave a version, and what handles stand for. -/
structure Directives where
  version : Bool := false
  handles : List TagHandle := []

def isReadable (major minor : Nat) : Bool := major = 1 && (minor = 1 || minor = 2)

/-- The directives in front of a document, up to its start. None is given twice. -/
def directives? (d : Directives) : List Token → Option (Directives × List Token)
  | .version major minor :: rest =>
    if d.version || !isReadable major minor then none
    else directives? { d with version := true } rest
  | .tagHandle h :: rest =>
    if d.handles.any (·.handle = h.handle) then none
    else directives? { d with handles := h :: d.handles } rest
  | .documentStart :: rest => some (d, rest)
  | _ => none

def endsDocument : List Token → Bool
  | [] => true
  | .version .. :: _ | .tagHandle _ :: _ | .documentStart :: _ | .documentEnd :: _ => true
  | _ => false

def isFinished (tokens : List Token) : Bool := tokens.all (· = .documentEnd)

def tree? (tokens : List Token) : Option (Node × List Token) :=
  let steps := 2 * tokens.length + 2
  match tokens with
  | .version .. :: _ | .tagHandle _ :: _ | .documentStart :: _ =>
    match directives? {} tokens with
    | none => none
    | some (d, rest) =>
      if endsDocument rest then some (empty, rest) else node? d.handles true false steps rest
  | _ => node? [] true false steps tokens

/-- The tree of a document. There is only one document. -/
def document? (tokens : List Token) : Option (Option Node) :=
  if tokens.isEmpty then some none
  else
    match tree? tokens with
    | some (node, rest) => if isFinished rest then some (some node) else none
    | none => none

end Node

end StatusReport.Yaml
