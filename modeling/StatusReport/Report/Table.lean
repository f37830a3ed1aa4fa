import StatusReport.Report.Column

/-! # Tables

A table shows many records, a line each, under a header. A line is written as soon as it is
complete, and the first error ends the table: the lines before it stay written, and nothing is
written after it, in this call or a later one.

* `TableView.ofDescriptor`: the table of a record type under options.
* `TableView.render`: writes the header and the lines of records.
-/

namespace StatusReport

structure TableView where
  columns : List Column
  formatters : Registry
  error : Option ViewError

namespace TableView

/-- The table of a record type. A schema error is kept, and the table then has no columns. -/
def ofDescriptor (descriptor : Descriptor) (options : ViewOptions) : TableView :=
  match Schema.build descriptor options.formatters with
  | .error e => ⟨[], options.formatters, some (.schema e)⟩
  | .ok schema =>
    ⟨StatusReport.columns schema (.resolve schema options.directive), options.formatters, none⟩

theorem ofDescriptor_error {descriptor : Descriptor} {options : ViewOptions} {e : SchemaError}
    (built : Schema.build descriptor options.formatters = .error e) :
    ofDescriptor descriptor options = ⟨[], options.formatters, some (.schema e)⟩ := by
  simp only [ofDescriptor, built]

theorem ofDescriptor_ok {descriptor : Descriptor} {options : ViewOptions} {schema : Schema}
    (built : Schema.build descriptor options.formatters = .ok schema) :
    ofDescriptor descriptor options =
      ⟨StatusReport.columns schema (.resolve schema options.directive), options.formatters,
        none⟩ := by
  simp only [ofDescriptor, built]

/-- The texts of a record, one for each column, or the error of the first column that has one. -/
def row (columns : List Column) (formatters : Registry) (r : Record) :
    Except ViewError (List String) :=
  match columns with
  | [] => .ok []
  | column :: rest =>
    match leafText column.leaf formatters r with
    | .error e => .error e
    | .ok text =>
      match row rest formatters r with
      | .error e => .error e
      | .ok texts => .ok (text :: texts)

theorem row_cons_eq_ok_iff {column : Column} {rest : List Column} {formatters : Registry}
    {r : Record} {texts : List String} :
    row (column :: rest) formatters r = .ok texts ↔
      ∃ text others, leafText column.leaf formatters r = .ok text ∧
        row rest formatters r = .ok others ∧ texts = text :: others := by
  rw [row]
  cases leafText column.leaf formatters r with
  | error e => simp
  | ok text => cases row rest formatters r <;> simp [eq_comm]

variable {σ : Type u} [Sink σ]

def writeRows (columns : List Column) (formatters : Registry) (s : σ) :
    List Record → σ × Except ViewError Unit
  | [] => (s, .ok ())
  | r :: rest =>
    match row columns formatters r with
    | .error e => (s, .error e)
    | .ok texts =>
      match Sink.writeLine s (cellLine texts) with
      | (s, .error e) => (s, .error (.sink e))
      | (s, .ok ()) => writeRows columns formatters s rest

/-- Writes a whole table. Without a column there is nothing to write. -/
def writeTable (columns : List Column) (formatters : Registry) (s : σ) (records : List Record) :
    σ × Except ViewError Unit :=
  if columns.isEmpty then (s, .ok ())
  else
    match Sink.writeLines s (headerLines columns) with
    | (s, .error e) => (s, .error (.sink e))
    | (s, .ok ()) => writeRows columns formatters s records

/-- Writes the header and the lines of records, unless an error came before. -/
def render (view : TableView) (s : σ) (records : List Record) : TableView × σ :=
  match view.error with
  | some _ => (view, s)
  | none =>
    match writeTable view.columns view.formatters s records with
    | (s, .ok ()) => (view, s)
    | (s, .error e) => ({ view with error := some e }, s)

def result (view : TableView) : Except ViewError Unit :=
  match view.error with
  | some e => .error e
  | none => .ok ()

end TableView

end StatusReport
