import StatusReport.Yaml.Anchor
import StatusReport.Yaml.Scalar

/-! # Reading YAML

A document becomes plain data. The keys of a table are scalars and count as texts, whatever they
look like; of two entries with one key the later one counts. Lists and tables nest at most
`maxDepth` deep, with those that references lead to, and a document follows at most a number of
references for each of its nodes, so that no small one grows without bound.

* `read? s`: the data that a text spells, `none` where the text is no document.
-/

namespace StatusReport.Yaml

def maxDepth : Nat := 128

/-- How many references may be followed for each step that reads a document. -/
def referencesPerStep : Nat := 100

/-- A document whose references can be followed. -/
structure LinkedDocument where
  root : LinkedNode
  anchors : Anchors

namespace LinkedDocument

def maxReferences (doc : LinkedDocument) : Nat := referencesPerStep * doc.root.size

/-- The node that a node stands for, counting the references followed. -/
def follow (doc : LinkedDocument) (node : LinkedNode) (followed : Nat) :
    Option (LinkedNode × Nat) :=
  match node with
  | .reference number =>
    if followed < doc.maxReferences then
      (doc.anchors.node? number).map fun node => (node, followed + 1)
    else none
  | node => some (node, followed)

def key? (doc : LinkedDocument) (node : LinkedNode) (followed : Nat) : Option (String × Nat) :=
  match doc.follow node followed with
  | some (.scalar _ text _, followed) => some (.ofList text, followed)
  | _ => none

def items? (read? : LinkedNode → Nat → Option (Data × Nat)) :
    List LinkedNode → Nat → Option (List Data × Nat)
  | [], followed => some ([], followed)
  | node :: rest, followed =>
    match read? node followed with
    | none => none
    | some (d, followed) =>
      match items? read? rest followed with
      | none => none
      | some (items, followed) => some (d :: items, followed)

def entries? (readKey? : LinkedNode → Nat → Option (String × Nat))
    (read? : LinkedNode → Nat → Option (Data × Nat)) :
    List (LinkedNode × LinkedNode) → Entries Data → Nat → Option (Entries Data × Nat)
  | [], entries, followed => some (entries, followed)
  | (key, value) :: rest, entries, followed =>
    match readKey? key followed with
    | none => none
    | some (key, followed) =>
      match read? value followed with
      | none => none
      | some (d, followed) => entries? readKey? read? rest (Entries.insert key d entries) followed

/-- The data of a node, inside so many lists and tables at most. -/
def data? (doc : LinkedDocument) : Nat → LinkedNode → Nat → Option (Data × Nat)
  | depth, node, followed =>
    match doc.follow node followed with
    | none => none
    | some (node, followed) =>
      match node, depth with
      | .scalar tag text plain, _ => (Scalar.data? tag text plain).map fun d => (d, followed)
      | .list tag items, depth + 1 =>
        if Scalar.isOwnTag tag then none
        else (items? (doc.data? depth) items followed).map fun (items, followed) =>
          (.list items, followed)
      | .table tag entries, depth + 1 =>
        if Scalar.isOwnTag tag then none
        else (entries? doc.key? (doc.data? depth) entries [] followed).map
          fun (entries, followed) => (.table entries, followed)
      | _, _ => none

end LinkedDocument

/-- The data that characters spell. An empty document is `null`. -/
def readChars? (cs : List Char) : Option Data := do
  match ← Node.document? (← Token.read? (← document? cs)) with
  | none => return .null
  | some node =>
    let (root, anchors) ← LinkedNode.ofNode? node {}
    let (d, _) ← LinkedDocument.data? ⟨root, anchors⟩ maxDepth root 0
    return d

def read? (s : String) : Option Data := readChars? s.toList

end StatusReport.Yaml
