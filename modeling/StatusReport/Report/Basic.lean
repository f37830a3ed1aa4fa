import StatusReport.Extract
import StatusReport.Sink
import StatusReport.Visibility

/-! # What both kinds of report share

A report is made under options: what to show and hide, and the formatters that names mean. The text
of a leaf is made from the value its selector leads to, by its formatter or, without one, as the
text of the value itself. Empty text is replaced by the default text of the leaf, and a formatter
never sees an absent value.

* `ViewOptions`: the options.
* `ViewError`: why a report ended early.
* `leafText`: the text of a leaf for a record.
-/

namespace StatusReport

/-! ## Options -/

structure ViewOptions where
  directive : Directive := {}
  formatters : Registry := {}

namespace ViewOptions

instance : Inhabited ViewOptions := ⟨{}⟩

def addShown (o : ViewOptions) (path : String) : ViewOptions :=
  { o with directive := o.directive.addShown path }

def addHidden (o : ViewOptions) (path : String) : ViewOptions :=
  { o with directive := o.directive.addHidden path }

def hideAll (o : ViewOptions) : ViewOptions := { o with directive := o.directive.hideAll }

def addFormatter (o : ViewOptions) (id : String) (f : Formatter) : ViewOptions :=
  { o with formatters := o.formatters.insert id f }

end ViewOptions

/-! ## Errors -/

inductive ViewError where
  | schema (e : SchemaError)
  | format (selector : String) (e : FormatError)
  | sink (e : SinkError)
deriving DecidableEq

namespace ViewError

def message : ViewError → String
  | .schema e => e.message
  | .format selector e => "failed to format field '" ++ selector ++ "': " ++ e.message
  | .sink e => "failed to write report: " ++ e.message

end ViewError

/-! ## Leaves -/

/-- The text of an extracted value, before the default text. -/
def valueText (leaf : Label) (formatters : Registry) (r : Record) (v : Value) :
    Except ViewError String :=
  match leaf.formatter with
  | none => .ok v.text
  | some id =>
    match formatters.get? id with
    | none => .error (.schema (.unknownFormatter leaf.selectorPath id))
    | some f =>
      match f.apply v r with
      | .error e => .error (.format leaf.selectorPath e)
      | .ok text => .ok text

def orDefault (leaf : Label) (text : String) : String :=
  if text = "" then leaf.defaultText else text

def leafText (leaf : Label) (formatters : Registry) (r : Record) : Except ViewError String :=
  match r.extract leaf.selector with
  | none => .ok (orDefault leaf "")
  | some v => (valueText leaf formatters r v).map (orDefault leaf)

end StatusReport
