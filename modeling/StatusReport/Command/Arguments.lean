import StatusReport.Command.Basic
import StatusReport.Number.Decimal
import StatusReport.Text.Lines

/-! # Command lines

A command line names a command, with options before and after the name. An option is long, with two
dashes and a word, or short, with a dash and a letter; short ones can share a dash. The value of an
option follows an equals sign, for a short option also immediately, or is the next argument. After
an argument of two dashes no option follows.

Options are taken in order. A value is looked at when the next option is taken or the level ends, so
of two mistakes the one that is met first counts. What is said of the options of a command comes
before what is said of the value of the last option in front of it.

* `Level.option?`, `Level.shortOption?`: the options that can stand before and after each command.
* `Request.ofArguments`: the request that a command line spells.
-/

namespace StatusReport

/-! ## Mistakes -/

/-- Why a command line makes no request: a mistake in it, or that it asks for something else. -/
inductive UsageError where
  | unknownArgument
  | unknownCommand
  | missingArgument
  | missingCommand
  /-- A value is missing or empty. -/
  | invalidValue
  | malformedValue
  /-- An option that stands for itself is given a value. -/
  | unneededValue
  | repeatedOption
  | help
  | nothingAsked
  | version
deriving DecidableEq, Repr

/-! ## Options -/

/-- An option that stands for itself. -/
inductive Switch where
  | verbose
  | quiet
  | help
  | version
  | hideAll
deriving DecidableEq, Repr

inductive Parameter where
  | settings
  | layout
  | input
  | shown
  | hidden
  | index
deriving DecidableEq, Repr

inductive CommandOption where
  | switch (s : Switch)
  | parameter (p : Parameter)
deriving DecidableEq, Repr

/-- Where on the command line options are: in front of the command, or after it. -/
inductive Level where
  | front
  | table
  | detail
  | check
deriving DecidableEq, Repr

namespace Level

def ofName? (name : String) : Option Level :=
  if name = "table" then some .table
  else if name = "detail" then some .detail
  else if name = "check" then some .check
  else none

def helpName : String := "help"

/-- Options for every level: long name, short name, meaning. -/
def common : List (String × Option Char × CommandOption) :=
  [("config", some 'c', .parameter .settings), ("verbose", some 'v', .switch .verbose),
   ("quiet", some 'q', .switch .quiet), ("help", some 'h', .switch .help)]

def ofCommands : List (String × Option Char × CommandOption) :=
  [("layout", some 'l', .parameter .layout), ("show", none, .parameter .shown),
   ("hide", none, .parameter .hidden), ("hide-all", none, .switch .hideAll)]

def ofReports : List (String × Option Char × CommandOption) :=
  [("input", some 'i', .parameter .input)]

def options : Level → List (String × Option Char × CommandOption)
  | .front => common ++ [("version", some 'V', .switch .version)]
  | .table => common ++ ofCommands ++ ofReports
  | .detail => common ++ ofCommands ++ ofReports ++ [("index", none, .parameter .index)]
  | .check => common ++ ofCommands

def option? (level : Level) (name : String) : Option CommandOption :=
  (level.options.find? fun (long, _) => long = name).map (·.2.2)

def shortOption? (level : Level) (letter : Char) : Option CommandOption :=
  (level.options.find? fun (_, short, _) => short = some letter).map (·.2.2)

/-- What is wrong with an argument that is no option and no value. -/
def strayArgument (level : Level) (afterDashes : Bool) (arg : String) : UsageError :=
  match level with
  | .front =>
    if afterDashes && ((ofName? arg).isSome || arg = helpName) then .unknownArgument
    else .unknownCommand
  | _ => .unknownArgument

end Level

/-! ## What was read -/

/-- The option that was read last, if its value has not been looked at. -/
inductive Pending where
  | none
  | waiting (p : Parameter)
  | given (p : Parameter) (value : String)
deriving DecidableEq, Repr

structure Options where
  settings : Option String := none
  layout : Option String := none
  input : Option String := none
  visibility : VisibilityRequest := {}
  index : Option Nat := none
  quiet : Bool := false
  verbosity : Nat := 0
  pending : Pending := .none
  afterDashes : Bool := false
deriving DecidableEq, Repr

namespace Options

/-- The value of an option that names a file and is given once. -/
def path (before : Option String) (value : String) : Except UsageError (Option String) :=
  if before.isSome then .error .repeatedOption
  else if value = "" then .error .invalidValue
  else .ok (some value)

/-- A count of at most 64 bits. -/
def count? (value : String) : Option Nat :=
  let cs := match value.toList with
    | '+' :: rest => rest
    | cs => cs
  if cs.isEmpty || !cs.all fun c => (Number.digit? c).isSome then none
  else
    let n := Number.valueOfDigits cs
    if n < Nat.pow 2 64 then some n else none

def listed (value : String) : List String := (Text.splitOn ',' value.toList).map String.ofList

def store (o : Options) : Parameter → String → Except UsageError Options
  | .settings, value => (path o.settings value).map fun settings => { o with settings }
  | .layout, value => (path o.layout value).map fun layout => { o with layout }
  | .input, value => (path o.input value).map fun input => { o with input }
  | .shown, value =>
    .ok { o with visibility.shown := o.visibility.shown ++ listed value }
  | .hidden, value =>
    .ok { o with visibility.hidden := o.visibility.hidden ++ listed value }
  | .index, value =>
    if o.index.isSome then .error .repeatedOption
    else match count? value with
      | some n => .ok { o with index := some n }
      | none => .error .malformedValue

/-- Looks at the value of the last option. -/
def settle (o : Options) : Except UsageError Options :=
  match o.pending with
  | .none => .ok o
  | .waiting _ => .error .invalidValue
  | .given p value => store { o with pending := .none } p value

def takeSwitch (o : Options) (s : Switch) : Except UsageError Options :=
  match o.settle with
  | .error e => .error e
  | .ok o =>
    match s with
    | .verbose => .ok { o with verbosity := o.verbosity + 1 }
    | .quiet => if o.quiet then .error .repeatedOption else .ok { o with quiet := true }
    | .hideAll =>
      if o.visibility.hideAll then .error .repeatedOption
      else .ok { o with visibility.hideAll := true }
    | .help => .error .help
    | .version => .error .version

/-- Takes an option whose value comes next, or is attached. -/
def takeParameter (o : Options) (p : Parameter) (attached : Option String) :
    Except UsageError Options :=
  match o.settle with
  | .error e => .error e
  | .ok o =>
    match attached with
    | none => .ok { o with pending := .waiting p }
    | some value => o.store p value

def takeLong (level : Level) (o : Options) (name : String) (attached : Option String) :
    Except UsageError Options :=
  match level.option? name, attached with
  | none, _ => .error .unknownArgument
  | some (.switch _), some _ => .error .unneededValue
  | some (.switch s), none => o.takeSwitch s
  | some (.parameter p), attached => o.takeParameter p attached

/-- The value attached to a short option: what follows it, without an equals sign in front. -/
def attachedValue : List Char → Option String
  | [] => none
  | '=' :: value => some (.ofList value)
  | value => some (.ofList value)

def takeShort (level : Level) (o : Options) : List Char → Except UsageError Options
  | [] => .ok o
  | letter :: rest =>
    match level.shortOption? letter with
    | none => .error .unknownArgument
    | some (.parameter p) => o.takeParameter p (attachedValue rest)
    | some (.switch s) =>
      match o.takeSwitch s with
      | .error e => .error e
      | .ok o => takeShort level o rest

def splitLong (cs : List Char) : String × Option String :=
  match cs.span (· ≠ '=') with
  | (name, []) => (.ofList name, none)
  | (name, _ :: value) => (.ofList name, some (.ofList value))

def step (level : Level) (o : Options) (arg : String) : Except UsageError Options :=
  if o.afterDashes then .error (level.strayArgument true arg)
  else
    -- A dash alone is no option but a value.
    match arg.toList with
    | ['-', '-'] => .ok { o with afterDashes := true }
    | '-' :: '-' :: rest =>
      let (name, attached) := splitLong rest
      takeLong level o name attached
    | '-' :: letter :: rest => takeShort level o (letter :: rest)
    | _ =>
      match o.pending with
      | .waiting p => .ok { o with pending := .given p arg }
      | _ => .error (level.strayArgument false arg)

/-- All arguments of a level, up to the last value. -/
def read (level : Level) : Options → List String → Except UsageError Options
  | o, [] => o.settle
  | o, arg :: rest =>
    match step level o arg with
    | .error e => .error e
    | .ok o => read level o rest

def isWaiting (o : Options) : Bool :=
  match o.pending with
  | .waiting _ => true
  | _ => false

def isGiven (o : Options) : Bool := o.settings.isSome || o.quiet || 0 < o.verbosity

/-! ## Requests -/

/-- The command of a level, which has to name a layout. -/
def command (level : Level) (o : Options) : Except UsageError Command :=
  match o.layout, level with
  | some layout, .table => .ok (.table ⟨layout, o.input⟩ o.visibility)
  | some layout, .detail => .ok (.detail ⟨layout, o.input⟩ o.visibility (o.index.getD 0))
  | some layout, .check => .ok (.check layout o.visibility)
  | none, _ => .error .missingArgument
  | _, .front => .error .missingCommand

end Options

namespace Request

/-- The answer to asking for help like for a command, of the commands that follow. -/
def helpFor : List String → UsageError
  | [] => .help
  | [name] =>
    if (Level.ofName? name).isSome || name = Level.helpName then .help else .unknownCommand
  | _ => .unknownCommand

/-- The request of a command, given the options in front of it. A settings file that is named after
    the command counts before one that is named in front of it. -/
def ofCommand (level : Level) (front : Options) (args : List String) :
    Except UsageError Request :=
  match Options.read level {} args with
  | .error e => .error e
  | .ok o =>
    match o.command level with
    | .error e => .error e
    | .ok command => (front.settle).map fun front => ⟨o.settings.or front.settings, command⟩

def fromFront : Options → List String → Except UsageError Request
  | o, [] =>
    match o.settle with
    | .error e => .error e
    | .ok o => .error (if o.isGiven then .missingCommand else .nothingAsked)
  | o, arg :: rest =>
    let other :=
      match o.step .front arg with
      | .error e => .error e
      | .ok o => fromFront o rest
    -- The value of an option may be spelled like a command.
    if o.afterDashes || o.isWaiting then other
    else if arg = Level.helpName then .error (helpFor rest)
    else
      match Level.ofName? arg with
      | some level => ofCommand level o rest
      | none => other

/-- The request that a command line spells. -/
def ofArguments (args : List String) : Except UsageError Request := fromFront {} args

end Request

end StatusReport
