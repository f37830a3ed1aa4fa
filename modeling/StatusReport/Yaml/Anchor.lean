import StatusReport.Yaml.Node

/-! # Anchors of a YAML document

The nodes with an anchor are numbered, in the order in which they start. The number of a node is
how many names there were before it, so where a name is used again two nodes can have one number;
then it means the later one. A reference takes the number that its name has where it stands.

* `LinkedNode`: a node without names.
* `LinkedNode.ofNode?`: links the references of a document.
-/

namespace StatusReport.Yaml

/-- A node whose references are numbers. -/
inductive LinkedNode where
  | reference (number : Nat)
  | scalar (tag : Option (List Char)) (text : List Char) (plain : Bool)
  | list (tag : Option (List Char)) (items : List LinkedNode)
  | table (tag : Option (List Char)) (entries : List (LinkedNode × LinkedNode))
deriving Inhabited

/-- What is known of anchors so far. Nodes with anchors are told apart by how many there were before
    them. -/
structure Anchors where
  numbers : List (List Char × Nat) := []
  /-- The nodes of each number, the latest first. -/
  places : List (Nat × Nat) := []
  count : Nat := 0
  nodes : List (Nat × LinkedNode) := []

namespace Anchors

def setNumber (name : List Char) (number : Nat) : List (List Char × Nat) → List (List Char × Nat)
  | [] => [(name, number)]
  | (n, k) :: rest =>
    if n = name then (name, number) :: rest else (n, k) :: setNumber name number rest

def start (a : Anchors) (anchor : Option (List Char)) : Anchors :=
  match anchor with
  | none => a
  | some name =>
    let number := a.numbers.length
    { a with
      numbers := setNumber name number a.numbers
      places := (number, a.count) :: a.places
      count := a.count + 1 }

/-- A node ends, of which `before` started before it. -/
def finish (a : Anchors) (anchor : Option (List Char)) (before : Nat) (node : LinkedNode) :
    Anchors :=
  match anchor with
  | none => a
  | some _ => { a with nodes := (before, node) :: a.nodes }

def node? (a : Anchors) (number : Nat) : Option LinkedNode :=
  (a.places.lookup number).bind fun place => a.nodes.lookup place

end Anchors

namespace LinkedNode

mutual

/-- Links a node, `none` where a name has no number. -/
def ofNode? : Node → Anchors → Option (LinkedNode × Anchors)
  | .reference name, a => (a.numbers.lookup name).map fun number => (.reference number, a)
  | .scalar p text plain, a =>
    let node := LinkedNode.scalar p.tag text plain
    some (node, (a.start p.anchor).finish p.anchor a.count node)
  | .list p items, a =>
    match ofItems? items (a.start p.anchor) with
    | none => none
    | some (items, after) =>
      let node := LinkedNode.list p.tag items
      some (node, after.finish p.anchor a.count node)
  | .table p entries, a =>
    match ofEntries? entries (a.start p.anchor) with
    | none => none
    | some (entries, after) =>
      let node := LinkedNode.table p.tag entries
      some (node, after.finish p.anchor a.count node)

def ofItems? : List Node → Anchors → Option (List LinkedNode × Anchors)
  | [], a => some ([], a)
  | node :: rest, a =>
    match ofNode? node a with
    | none => none
    | some (node, a) =>
      match ofItems? rest a with
      | none => none
      | some (nodes, a) => some (node :: nodes, a)

def ofEntries? :
    List (Node × Node) → Anchors → Option (List (LinkedNode × LinkedNode) × Anchors)
  | [], a => some ([], a)
  | (key, value) :: rest, a =>
    match ofNode? key a with
    | none => none
    | some (key, a) =>
      match ofNode? value a with
      | none => none
      | some (value, a) =>
        match ofEntries? rest a with
        | none => none
        | some (entries, a) => some ((key, value) :: entries, a)

end

mutual

/-- How many steps it takes to read a node without following references: one for each node, and
    one for each end of a list or table. -/
def size : LinkedNode → Nat
  | .reference _ => 1
  | .scalar .. => 1
  | .list _ items => sizeOfItems items + 2
  | .table _ entries => sizeOfEntries entries + 2

def sizeOfItems : List LinkedNode → Nat
  | [] => 0
  | node :: rest => size node + sizeOfItems rest

def sizeOfEntries : List (LinkedNode × LinkedNode) → Nat
  | [] => 0
  | (key, value) :: rest => size key + size value + sizeOfEntries rest

end

end LinkedNode

end StatusReport.Yaml
