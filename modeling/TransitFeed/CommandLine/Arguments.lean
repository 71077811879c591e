import TransitFeed.Text.Split

/-! # Arguments

What is asked for on the command line. Arguments are read from the first to the last: an error ends
the reading, and so does a request for help.
-/

namespace TransitFeed.CommandLine

/-- What a run is to do. -/
structure Options where
  /-- Patterns of the archives to load. -/
  inputs : List String := []
  /-- The file of the settings. -/
  settingsFile : Option String := none
  /-- Where clean copies of the archives go. -/
  outputFolder : Option String := none
  /-- Where reports go. -/
  reportFolder : Option String := none
  /-- Whether the progress of each table is logged. -/
  showsProgress : Bool := false
  /-- Whether tables are loaded one at a time. -/
  isSequential : Bool := false
  deriving Repr, DecidableEq

/-- An option that takes a value. -/
inductive ValueOption where
  | config
  | outputDir
  | reportDir
  deriving Repr, DecidableEq

/-- An option that takes none. -/
inductive Flag where
  | progress
  | sequential
  | help
  | version
  deriving Repr, DecidableEq

namespace Options

def get? (o : Options) : ValueOption → Option String
  | .config => o.settingsFile
  | .outputDir => o.outputFolder
  | .reportDir => o.reportFolder

/-- The options with a value for one of them. -/
def set (o : Options) (option : ValueOption) (value : String) : Options :=
  match option with
  | .config => { o with settingsFile := some value }
  | .outputDir => { o with outputFolder := some value }
  | .reportDir => { o with reportFolder := some value }

end Options

/-- What is wrong with the arguments. -/
inductive UsageError where
  | unknown (argument : String)
  | withoutValue (option : String)
  | withValue (option : String)
  | repeated (option : String)
  | noInputs
  deriving Repr, DecidableEq

namespace UsageError

def message : UsageError → String
  | .unknown argument => "unexpected argument '" ++ argument ++ "'"
  | .withoutValue option => "option '" ++ option ++ "' needs a value"
  | .withValue option => "option '" ++ option ++ "' takes no value"
  | .repeated option => "option '" ++ option ++ "' is given more than once"
  | .noInputs => "no feed archives are given"

end UsageError

/-- Why a run does not take place. -/
inductive Refusal where
  | help
  | version
  | misused (error : UsageError)
  deriving Repr, DecidableEq

/-- An argument that is an option by its form. -/
inductive Argument where
  | value (option : ValueOption) (attached : Option String)
  | flag (flag : Flag) (attached : Option String)
  | unknown
  deriving Repr, DecidableEq

namespace Argument

def ofLong (name : String) (attached : Option String) : Argument :=
  match name with
  | "config" => .value .config attached
  | "output-dir" => .value .outputDir attached
  | "report-dir" => .value .reportDir attached
  | "progress" => .flag .progress attached
  | "sequential" => .flag .sequential attached
  | "help" => .flag .help attached
  | "version" => .flag .version attached
  | _ => .unknown

/-- The option that an argument is. Of several letters after one hyphen the first one decides, as
    what it asks for ends the reading. -/
def ofText (text : String) : Argument :=
  match text.toList with
  | '-' :: '-' :: rest =>
    let (name, attached) := Text.cut (· = '=') rest
    ofLong (String.ofList name) (attached.map String.ofList)
  | '-' :: 'h' :: _ => .flag .help none
  | '-' :: 'V' :: _ => .flag .version none
  | _ => .unknown

/-- Whether an argument is an option by its form. A single hyphen is not. -/
def isOption (text : String) : Bool :=
  match text.toList with
  | '-' :: _ :: _ => true
  | _ => false

end Argument

/-- How far the arguments have been read. -/
structure Reading where
  options : Options := {}
  /-- An option that waits for its value, as it was written. -/
  awaiting : Option (ValueOption × String) := none
  /-- Whether all that follows is an input. -/
  isOpen : Bool := false

namespace Reading

def input (r : Reading) (text : String) : Reading :=
  { r with options := { r.options with inputs := r.options.inputs ++ [text] } }

/-- The value of an option. It is not empty. -/
def value (r : Reading) (option : ValueOption) (name text : String) : Except Refusal Reading :=
  if text = "" then .error (.misused (.withoutValue name))
  else .ok { r with options := r.options.set option text, awaiting := none }

def flag (r : Reading) (name : String) : Flag → Except Refusal Reading
  | .help => .error .help
  | .version => .error .version
  | .progress =>
    if r.options.showsProgress then .error (.misused (.repeated name))
    else .ok { r with options := { r.options with showsProgress := true } }
  | .sequential =>
    if r.options.isSequential then .error (.misused (.repeated name))
    else .ok { r with options := { r.options with isSequential := true } }

/-- An argument that is an option by its form. -/
def option (r : Reading) (text : String) : Except Refusal Reading :=
  match Argument.ofText text with
  | .unknown => .error (.misused (.unknown text))
  | .flag flag none => r.flag text flag
  | .flag _ (some _) => .error (.misused (.withValue text))
  | .value option attached =>
    if (r.options.get? option).isSome then .error (.misused (.repeated text))
    else match attached with
      | some attached => r.value option text attached
      | none => .ok { r with awaiting := some (option, text) }

def step (r : Reading) (text : String) : Except Refusal Reading :=
  match r.awaiting with
  | some (option, name) =>
    if Argument.isOption text then .error (.misused (.withoutValue name))
    else r.value option name text
  | none =>
    if r.isOpen then .ok (r.input text)
    else if text = "--" then .ok { r with isOpen := true }
    else if Argument.isOption text then r.option text
    else .ok (r.input text)

/-- The end of the arguments. There has to be an input. -/
def finish (r : Reading) : Except Refusal Options :=
  match r.awaiting with
  | some (_, name) => .error (.misused (.withoutValue name))
  | none => if r.options.inputs.isEmpty then .error (.misused .noInputs) else .ok r.options

end Reading

def Options.ofArguments (arguments : List String) : Except Refusal Options := do
  (← arguments.foldlM Reading.step {}).finish

end TransitFeed.CommandLine
