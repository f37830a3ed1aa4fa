import StatusReport.Report.Basic

/-! # Detail listings

A detail listing shows one record, a line for each visible leaf that has text. The lines of a boxed
group are indented under its header, which is there only if one of them is. The lines of a field of
the record are written when all of them are complete, so an error below a field drops all of its
lines; the fields before it stay written.

* `DetailView.ofDescriptor`: the listing of a record type under options.
* `DetailView.Line`: a line, as a header of a group or an entry of a leaf.
* `DetailView.render`: writes the lines of a record.
-/

namespace StatusReport

structure DetailView where
  roots : List Node
  visibility : Visibility
  formatters : Registry
  error : Option ViewError

namespace DetailView

/-- The listing of a record type. A schema error is kept, and the listing then has no fields. -/
def ofDescriptor (descriptor : Descriptor) (options : ViewOptions) : DetailView :=
  match Schema.build descriptor options.formatters with
  | .error e => ⟨[], ⟨[]⟩, options.formatters, some (.schema e)⟩
  | .ok schema =>
    ⟨schema.roots, .resolve schema options.directive, options.formatters, none⟩

theorem ofDescriptor_error {descriptor : Descriptor} {options : ViewOptions} {e : SchemaError}
    (built : Schema.build descriptor options.formatters = .error e) :
    ofDescriptor descriptor options = ⟨[], ⟨[]⟩, options.formatters, some (.schema e)⟩ := by
  simp only [ofDescriptor, built]

theorem ofDescriptor_ok {descriptor : Descriptor} {options : ViewOptions} {schema : Schema}
    (built : Schema.build descriptor options.formatters = .ok schema) :
    ofDescriptor descriptor options =
      ⟨schema.roots, .resolve schema options.directive, options.formatters, none⟩ := by
  simp only [ofDescriptor, built]

/-! ## Lines -/

/-- A line of a listing, below so many boxed groups. -/
inductive Line where
  | header (depth : Nat) (name : String)
  | entry (depth : Nat) (title text : String)
deriving DecidableEq, Repr

def indent (depth : Nat) : String := .ofList (List.replicate (2 * depth) ' ')

def Line.text : Line → String
  | .header depth name => indent depth ++ name ++ ":"
  | .entry depth title text => indent depth ++ title ++ ":\t" ++ text

/-- What the header of a boxed group says. A group without a name goes by its title. -/
def headerName (label : Label) (name : String) : String :=
  if name = "" then label.title else name

mutual

def linesOf (visibility : Visibility) (formatters : Registry) (r : Record) (depth : Nat) :
    Node → Except ViewError (List Line)
  | .leaf label =>
    if visibility.isShown label.id then
      match leafText label formatters r with
      | .error e => .error e
      | .ok text => .ok (if text = "" then [] else [.entry depth label.title text])
    else .ok []
  | .group label name flatten children =>
    if flatten then linesOfAll visibility formatters r depth children
    else
      match linesOfAll visibility formatters r (depth + 1) children with
      | .error e => .error e
      | .ok [] => .ok []
      | .ok (line :: rest) => .ok (Line.header depth (headerName label name) :: line :: rest)

def linesOfAll (visibility : Visibility) (formatters : Registry) (r : Record) (depth : Nat) :
    List Node → Except ViewError (List Line)
  | [] => .ok []
  | node :: rest =>
    match linesOf visibility formatters r depth node with
    | .error e => .error e
    | .ok lines =>
      match linesOfAll visibility formatters r depth rest with
      | .error e => .error e
      | .ok more => .ok (lines ++ more)

end

/-! ## Writing -/

variable {σ : Type u} [Sink σ]

/-- Writes the lines of fields, field by field, up to the first error. -/
def writeFields (visibility : Visibility) (formatters : Registry) (r : Record) (s : σ) :
    List Node → σ × Except ViewError Unit
  | [] => (s, .ok ())
  | node :: rest =>
    match linesOf visibility formatters r 0 node with
    | .error e => (s, .error e)
    | .ok lines =>
      match Sink.writeLines s (lines.map Line.text) with
      | (s, .error e) => (s, .error (.sink e))
      | (s, .ok ()) => writeFields visibility formatters r s rest

/-- Writes the lines of a record, unless an error came before. -/
def render (view : DetailView) (s : σ) (r : Record) : DetailView × σ :=
  match view.error with
  | some _ => (view, s)
  | none =>
    match writeFields view.visibility view.formatters r s view.roots with
    | (s, .ok ()) => (view, s)
    | (s, .error e) => ({ view with error := some e }, s)

def result (view : DetailView) : Except ViewError Unit :=
  match view.error with
  | some e => .error e
  | none => .ok ()

end DetailView

end StatusReport
