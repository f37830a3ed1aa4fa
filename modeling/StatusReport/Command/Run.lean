import StatusReport.Alignment
import StatusReport.Command.Basic
import StatusReport.Command.Listing
import StatusReport.Document
import StatusReport.Layout.Load
import StatusReport.Report.Detail
import StatusReport.Settings.Load

/-! # Running commands

Output goes through the aligner to a sink. A command reads everything it needs before it writes
anything, and what a report has written when it ends early is still passed on.

* `RunError`: why a command ended early.
* `Command.run`: runs a command under settings.
* `Request.run`: runs a request.
-/

namespace StatusReport

/-! ## Errors -/

inductive RunError where
  | reading (e : ReadError)
  | writing (e : SinkError)
  | settings (e : SettingsError)
  | layout (e : LayoutError)
  | input (e : InputError)
  | view (e : ViewError)
deriving DecidableEq

def RunError.message : RunError → String
  | .reading e => "IO error: " ++ e.message
  | .writing e => "IO error: " ++ e.message
  | .settings e => "Configuration error: " ++ e.message
  | .layout e => "Layout error: " ++ e.message
  | .input e => "Input error: " ++ e.message
  | .view e => e.message

def liftError (wrap : ε → RunError) : Except ε α → Except RunError α
  | .ok a => .ok a
  | .error e => .error (wrap e)

namespace Command

/-! ## Reading -/

/-- The document in a file, or on the standard input. -/
def readDocument (env : Environment) (path : Option String) : Except RunError Data := do
  match path with
  | some path =>
    if Path.isStandardInput path then readInput
    else
      let content ← liftError .reading (env.readText path)
      let extension := Path.extension? path
      liftError .input
        (Document.parse (extension = some "yaml" || extension = some "yml") content)
  | none => readInput
where
  readInput : Except RunError Data := do
    liftError .input (Document.parse false (← liftError .reading env.inputText))

/-! ## Writing -/

variable {σ : Type u} [Sink σ]

/-- Passes on what is pending, then gives the result of a report. -/
def deliver (a : TabAligner σ) (result : Except ViewError Unit) : σ × Except RunError Unit :=
  match a.flush with
  | (a, .error e) => (a.inner, .error (.writing e))
  | (a, .ok ()) => (a.inner, liftError .view result)

/-! ## Reports -/

/-- Reads all that a report on records is made from: a layout, what is selected of a document, and
    options. -/
def prepare (env : Environment) (settings : Settings) (source : Source)
    (visibility : VisibilityRequest) (select : Data → Except InputError α)
    (make : Layout → ViewOptions → α → β) : Except RunError β := do
  let layout ← liftError .layout (Layout.load env source.layout)
  let selected ← liftError .input (select (← readDocument env source.input))
  let options ← liftError .settings (settings.options visibility)
  return make layout options selected

def prepareTable (env : Environment) (settings : Settings) (source : Source)
    (visibility : VisibilityRequest) : Except RunError (TableView × List Record) :=
  prepare env settings source visibility Document.rows fun layout options rows =>
    (.ofDescriptor layout.descriptor options, rows.map .ofData)

def prepareDetail (env : Environment) (settings : Settings) (source : Source)
    (visibility : VisibilityRequest) (index : Nat) : Except RunError (DetailView × Record) :=
  prepare env settings source visibility (Document.record index) fun layout options record =>
    (.ofDescriptor layout.descriptor options, .ofData record)

def runTable (settings : Settings) (view : TableView) (records : List Record) (out : σ) :
    σ × Except RunError Unit :=
  let (view, a) :=
    view.render (TabAligner.mk out settings.output.padding #[]) records
  deliver a view.result

def runDetail (settings : Settings) (view : DetailView) (r : Record) (out : σ) :
    σ × Except RunError Unit :=
  let (view, a) := view.render (TabAligner.mk out settings.output.padding #[]) r
  deliver a view.result

/-! ## Checks -/

/-- What the check of a layout is made from: its name and its columns. -/
def prepareCheck (env : Environment) (settings : Settings) (path : String)
    (visibility : VisibilityRequest) : Except RunError (String × List Column) := do
  let layout ← liftError .layout (Layout.load env path)
  let options ← liftError .settings (settings.options visibility)
  let view := TableView.ofDescriptor layout.descriptor options
  liftError .view view.result
  return (if layout.name = "" then path else layout.name, view.columns)

def checkMark (color : Bool) : String := if color then "\x1b[1;32m✓\x1b[0m" else "✓"

def summary (settings : Settings) (color : Bool) (name : String) (columns : List Column) :
    List String :=
  [checkMark color ++ " Layout '" ++ name ++ "' is valid: " ++
      .ofList (Number.digits columns.length) ++ " visible column(s)",
    "  Available formatters: " ++
      ", ".intercalate (Registry.builtinIds ++ settings.aliases.names)]

def runCheck (settings : Settings) (color : Bool) (name : String) (columns : List Column)
    (out : σ) : σ × Except RunError Unit :=
  let (view, a) := Listing.view.render (TabAligner.mk out settings.output.padding #[])
    (columns.map Column.toRecord)
  match a.flush with
  | (a, .error e) => (a.inner, .error (.writing e))
  | (a, .ok ()) =>
    match view.result with
    | .error e => (a.inner, .error (.view e))
    | .ok () =>
      -- The aligner holds these lines back, so what becomes of them shows when it is flushed.
      let (a, _) := Sink.writeLines a (summary settings color name columns)
      deliver a (.ok ())

/-! ## Commands -/

def run (env : Environment) (settings : Settings) (command : Command) (out : σ) :
    σ × Except RunError Unit :=
  match command with
  | .table source visibility =>
    match prepareTable env settings source visibility with
    | .error e => (out, .error e)
    | .ok (view, records) => runTable settings view records out
  | .detail source visibility index =>
    match prepareDetail env settings source visibility index with
    | .error e => (out, .error e)
    | .ok (view, r) => runDetail settings view r out
  | .check path visibility =>
    match prepareCheck env settings path visibility with
    | .error e => (out, .error e)
    | .ok (name, columns) =>
      runCheck settings (env.color && settings.output.color) name columns out

end Command

/-- Runs a request: its settings are loaded first. -/
def Request.run [Sink σ] (env : Environment) (request : Request) (out : σ) :
    σ × Except RunError Unit :=
  match Settings.load env request.settings with
  | .error e => (out, .error (.settings e))
  | .ok settings => request.command.run env settings out

end StatusReport
