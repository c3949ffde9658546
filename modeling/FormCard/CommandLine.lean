import FormCard.Preview
import FormCard.Card.Sample

/-!
# The command line

This is the program as it is called: the arguments name a card, values to enter and buttons to
click, and what a run leaves behind is what it printed and how it exited.  Arguments are read from
left to right, and the first that is wrong ends the run.  Otherwise settings are loaded, the card is
read, and a preview plays the events.

All that a run learns from outside comes through two functions that are given: one reads files and
one looks up variables.  The first may be in any monad, so that a run can be carried out on the
system or on files held in memory, and it is the same run.

What is printed to the error stream is left out, the wording of wrong arguments and the log
included; both go through libraries of their own.
-/

namespace FormCard.CommandLine

/-! ## 1. Arguments -/

/-- What the arguments ask for. -/
structure Options where
  /-- The card to show. -/
  schema : Option String
  /-- Whether to print JSON. -/
  json : Bool
  /-- Whether to print the text of the bundled card and do nothing else. -/
  sample : Bool
  /-- The values to enter, by the ids of their components. -/
  sets : List (String × String)
  /-- The ids of the buttons to click. -/
  clicks : List String
  deriving DecidableEq

def Options.none : Options := ⟨.none, false, false, [], []⟩

/-- What can be wrong with the arguments. -/
inductive UsageError where
  | unknownOption (argument : String)
  | missingValue (option : String)
  | repeatedFlag (option : String)
  | extraArgument (argument : String)
  | emptyArgument
  | badAssignment (argument : String)
  /-- The bundled card is asked for together with another. -/
  | conflict
  deriving DecidableEq, Repr

/-- The id and the value of an assignment, which are separated by the first equals sign. -/
def assignment? (argument : String) : Option (String × String) :=
  let cs := argument.toList
  let id := Text.trim (String.ofList (cs.takeWhile (· ≠ '=')))
  match cs.dropWhile (· ≠ '=') with
  | [] => .none
  | _ :: value => if id = "" then .none else some (id, String.ofList value)

/-- Whether an argument stands for options.  A hyphen alone does not. -/
def isDashed (argument : String) : Bool := argument.toList.head? = some '-' && argument ≠ "-"

/-- What is behind `start` in an argument that starts with it. -/
def after? (start argument : String) : Option String :=
  if start.toList.isPrefixOf argument.toList then
    some (String.ofList (argument.toList.drop start.toList.length))
  else .none

namespace Options

/-- Adds a value to enter. -/
def addSet (options : Options) (argument : String) : Except UsageError Options :=
  match assignment? argument with
  | some assignment => .ok { options with sets := options.sets ++ [assignment] }
  | .none => .error (.badAssignment argument)

/-- Adds a button to click. -/
def addClick (options : Options) (argument : String) : Options :=
  { options with clicks := options.clicks ++ [argument] }

/-- Takes an argument as the card to show. -/
def addSchema (options : Options) (argument : String) : Except UsageError Options :=
  if options.schema.isSome then .error (.extraArgument argument)
  else if argument = "" then .error .emptyArgument
  else .ok { options with schema := some argument }

/-- Reads arguments.  Behind two hyphens alone, all arguments name cards. -/
def read (options : Options) : List String → Except UsageError Options
  | [] => .ok options
  | argument :: rest =>
    if argument = "--" then rest.foldlM addSchema options
    else if argument = "--json" then
      if options.json then .error (.repeatedFlag argument)
      else read { options with json := true } rest
    else if argument = "--sample" then
      if options.sample then .error (.repeatedFlag argument)
      else read { options with sample := true } rest
    else if argument = "--set" then
      match rest with
      | [] => .error (.missingValue argument)
      | value :: rest =>
        if isDashed value then .error (.missingValue argument)
        else match options.addSet value with
          | .ok options => read options rest
          | .error e => .error e
    else if argument = "--click" then
      match rest with
      | [] => .error (.missingValue argument)
      | value :: rest =>
        if isDashed value then .error (.missingValue argument)
        else read (options.addClick value) rest
    else match after? "--set=" argument, after? "--click=" argument with
      | some value, _ =>
        match options.addSet value with
        | .ok options => read options rest
        | .error e => .error e
      | .none, some value => read (options.addClick value) rest
      | .none, .none =>
        if isDashed argument then .error (.unknownOption argument)
        else match options.addSchema argument with
          | .ok options => read options rest
          | .error e => .error e

/-- The options that arguments give. -/
def ofArguments (arguments : List String) : Except UsageError Options := do
  let options ← read .none arguments
  if options.sample && options.schema.isSome then throw .conflict
  return options

/-- The events that options ask for: all values are entered before any button is clicked. -/
def events (options : Options) : List Event :=
  options.sets.map (fun set => .change set.1 (.string set.2)) ++ options.clicks.map .click

end Options

/-! ## 2. A run -/

structure Outcome where
  exitCode : UInt8
  stdout : String
  deriving DecidableEq

variable {m : Type → Type} [Monad m]

/-- The card that a run shows: of the arguments, of the settings, or the bundled one. -/
def source? (readText : String → m (Option String)) (path : Option String) : m (Option Source) := do
  match path with
  | .none => return some Sample.source
  | some path => return (← readText path).map Source.ofText

/-- Shows a card as options and settings ask for. -/
def preview (options : Options) (settings : Settings) (source : Source) : String :=
  (Preview.play settings.primary source options.events).print
    (if options.json then .json else settings.output)

/-- Carries out options. -/
def perform (readText : String → m (Option String)) (environment : Settings.Environment)
    (options : Options) : m Outcome := do
  if options.sample then return ⟨0, Sample.pretty ++ "\n"⟩
  let settings := Settings.load (← readText Settings.fileName) environment
  match ← source? readText (options.schema.or settings.schemaPath) with
  | some source => return ⟨0, preview options settings source⟩
  | .none => return ⟨1, ""⟩

/-- Runs the program on its arguments. -/
def run (readText : String → m (Option String)) (environment : Settings.Environment)
    (arguments : List String) : m Outcome :=
  match Options.ofArguments arguments with
  | .error _ => return ⟨2, ""⟩
  | .ok options => perform readText environment options

end FormCard.CommandLine
