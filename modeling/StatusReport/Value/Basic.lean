import StatusReport.Number.Decimal
import StatusReport.Text.Quoted

/-! # Values and records

A record hands out values by key, and a value may be a record again. What a key leads to may be
wrapped in indirections (a value that is optional, or held elsewhere) and may be missing; `concrete?`
looks through the wrapping, and finds nothing where nothing is.

* `Value`, `Record`: the two sides of the interface between reports and what they report on.
* `Value.deref`, `Value.concrete?`: the value behind every indirection.
* `Value.number?`: the number that a formatter computes with.
* `Value.text`: the text of a value that no formatter is named for.
* `Value.debug`: the value as a term, with its kinds spelled out.
-/

namespace StatusReport

open Number (Binary64)

/-- A value that a record holds under a key. -/
inductive Value where
  /-- Missing, or empty on purpose. -/
  | nil
  | bool (b : Bool)
  | int (i : Int64)
  | uint (u : UInt64)
  | float (x : Binary64)
  | str (s : String)
  | list (items : List Value)
  /-- A record inside a record: what it holds under each key, and its text as a whole. -/
  | record (field : String → Value) (displayText : String)
  | ref (inner : Value)
deriving Inhabited

/-- What a report is made from: the value under each key, and a text for the whole. -/
structure Record where
  field : String → Value
  displayText : String := ""
deriving Inhabited

namespace Value

def ofRecord (r : Record) : Value := .record r.field r.displayText

/-! ## Kinds -/

inductive Kind where
  | nil
  | bool
  | int
  | uint
  | float
  | string
  | list
  | record
  | ref
deriving DecidableEq, Repr

def Kind.name : Kind → String
  | .nil => "nil"
  | .bool => "bool"
  | .int => "int"
  | .uint => "uint"
  | .float => "float"
  | .string => "string"
  | .list => "list"
  | .record => "record"
  | .ref => "ref"

def kind : Value → Kind
  | .nil => .nil
  | .bool _ => .bool
  | .int _ => .int
  | .uint _ => .uint
  | .float _ => .float
  | .str _ => .string
  | .list _ => .list
  | .record .. => .record
  | .ref _ => .ref

/-- Whether a value is missing. An indirection is not, whatever it leads to. -/
def isNil : Value → Bool
  | .nil => true
  | _ => false

/-! ## Indirection -/

def deref : Value → Value
  | .ref inner => deref inner
  | v => v

/-- The value behind every indirection, unless it is missing. -/
def concrete? : Value → Option Value
  | .nil => none
  | .ref inner => concrete? inner
  | v => some v

@[simp] theorem deref_ref (v : Value) : (ref v).deref = v.deref := rfl

@[simp] theorem concrete?_ref (v : Value) : (ref v).concrete? = v.concrete? := rfl

@[simp] theorem concrete?_nil : nil.concrete? = none := rfl

theorem deref_ne_ref (v w : Value) : v.deref ≠ .ref w := by
  induction v using deref.induct with
  | case1 inner ih => simpa using ih
  | case2 v h =>
    cases v with
    | ref u => exact absurd rfl (h u)
    | _ => simp [deref]

theorem concrete?_eq_none_iff (v : Value) : v.concrete? = none ↔ v.deref = .nil := by
  induction v using deref.induct with
  | case1 inner ih => exact ih
  | case2 v h =>
    cases v with
    | ref u => exact absurd rfl (h u)
    | _ => simp [concrete?, deref]

theorem concrete?_eq_some {v w : Value} (h : v.concrete? = some w) : w = v.deref := by
  induction v using deref.induct with
  | case1 inner ih => exact ih h
  | case2 v hv =>
    cases v with
    | ref u => exact absurd rfl (hv u)
    | nil => cases h
    | _ => exact (Option.some.inj h).symm

/-! ## Numbers -/

/-- The number behind every indirection. Machine words are rounded to doubles. -/
def number? (v : Value) : Option Binary64 :=
  match v.deref with
  | .int i => some (.ofInt i.toInt)
  | .uint u => some (.ofNat u.toNat)
  | .float x => some x
  | _ => none

/-! ## Text -/

def defaultPlaces : Nat := 2

mutual

def text : Value → String
  | .nil => ""
  | .bool b => if b then "true" else "false"
  | .int i => .ofList (Number.intText i.toInt)
  | .uint u => .ofList (Number.digits u.toNat)
  | .float x => x.fixed defaultPlaces
  | .str s => s
  | .list items => "[" ++ " ".intercalate (texts items) ++ "]"
  | .record _ displayText => displayText
  | .ref inner => text inner

def texts : List Value → List String
  | [] => []
  | v :: rest => text v :: texts rest

end

mutual

/-- The value as a term. Records are not looked into. -/
def debug : Value → String
  | .nil => "Nil"
  | .bool b => "Bool(" ++ (if b then "true" else "false") ++ ")"
  | .int i => "Int(" ++ .ofList (Number.intText i.toInt) ++ ")"
  | .uint u => "UInt(" ++ .ofList (Number.digits u.toNat) ++ ")"
  | .float x => "Float(" ++ x.plain ++ ")"
  | .str s => "Str(" ++ Text.quoted s ++ ")"
  | .list items => "[" ++ ", ".intercalate (debugs items) ++ "]"
  | .record .. => "Record(..)"
  | .ref inner => "Ref(" ++ debug inner ++ ")"

def debugs : List Value → List String
  | [] => []
  | v :: rest => debug v :: debugs rest

end

end Value

end StatusReport
