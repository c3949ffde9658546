import FormCard.Toml.Reader
import FormCard.Theme

/-!
# Settings

This is the configuration of the program: which card to show when the command line names none, how
to print it, the primary color of cards that name none, and whether to log every step.  Settings
come from a file and from the environment, which wins.

The file is a TOML document with three sections, each of which may be left out.  A section is a
table or an array that gives its settings in order.  Keys that are not known are passed over; a
value of the wrong type makes the whole file unusable, as does a document that is no TOML. A file
that gives no settings counts as none, so a run always has settings (`Settings.load`).  Of the
environment, values that make no sense are passed over one by one.
-/

namespace FormCard

/-! ## 1. Formats -/

/-- How a card is printed. -/
inductive OutputFormat where
  | text
  | json
  deriving DecidableEq, Repr

namespace OutputFormat

def name : OutputFormat → String
  | text => "text"
  | json => "json"

/-- The format with exactly this name. -/
def ofName? (s : String) : Option OutputFormat := [text, json].find? fun format => format.name = s

/-- The format that a user names: blanks around the name and the case of its letters do not
matter. -/
def parse? (s : String) : Option OutputFormat := ofName? ((Text.trim s).map Char.toLower)

end OutputFormat

/-! ## 2. Settings -/

/-- What can be set. -/
structure Settings where
  /-- The card to show when no other is named. -/
  schemaPath : Option String
  output : OutputFormat
  /-- The primary color of cards that name none. -/
  primary : String
  /-- Whether every step is logged. -/
  debug : Bool
  deriving DecidableEq

def Settings.default : Settings := ⟨none, .text, builtInPrimary, false⟩

/-- Why a file gives no settings. -/
inductive SettingsError where
  | unreadable
  | invalid
  deriving DecidableEq, Repr

/-- The wording of an error. -/
def SettingsError.message : SettingsError → String
  | unreadable => "Failed to read config file"
  | invalid => "Failed to parse config file"

/-! ## 3. Settings from a file -/

open Toml (Value Table)

/-- A part of the settings: members under their keys, or values in order. -/
inductive Section where
  | keyed (members : List (String × Value))
  | listed (values : List Value)

namespace Section

/-- The section that a value gives.  One that is not there is empty, and so is a date. -/
def ofValue? : Option Value → Option Section
  | none => some (keyed [])
  | some (.table _ members) => some (keyed members)
  | some (.moment _) => some (keyed [])
  | some (.array items) => some (listed items)
  | some (.tables tables) => some (listed (tables.reverse.map (.table .header)))
  | some _ => none

/-- The value of a setting, by its key or its position. -/
def get? (key : String) (position : Nat) : Section → Option Value
  | keyed members => members.lookup key
  | listed values => values[position]?

/-- Reads a setting: the default if it is not there, and nothing if `read` refuses its value. -/
def setting {α : Type} (part : Section) (key : String) (position : Nat) (default : α)
    (read : Value → Option α) : Option α :=
  match part.get? key position with
  | none => some default
  | some value => read value

end Section

/-- The string that a value is. -/
def stringOf? : Value → Option String
  | .string s => some s
  | _ => none

/-- The truth value that a value is. -/
def booleanOf? : Value → Option Bool
  | .boolean b => some b
  | _ => none

/-- Whether a value holds nothing. -/
def isVoid : Value → Bool
  | .table _ members => members.isEmpty
  | .array items => items.isEmpty
  | .tables tables => tables.isEmpty
  | _ => false

/-- The format that a value gives: its name, or its name as the only key of a table, over
nothing. -/
def formatOf? : Value → Option OutputFormat
  | .string s => OutputFormat.ofName? s
  | .table _ [(name, value)] => if isVoid value then OutputFormat.ofName? name else none
  | _ => none

namespace Settings

/-- The settings that a document gives. -/
def ofTable? (table : Table) : Option Settings := do
  let preview ← Section.ofValue? (table.get? "preview")
  let theme ← Section.ofValue? (table.get? "theme")
  let logging ← Section.ofValue? (table.get? "logging")
  return {
    schemaPath := ← preview.setting "schema_path" 0 default.schemaPath fun v =>
      (stringOf? v).map some
    output := ← preview.setting "output" 1 default.output formatOf?
    primary := ← theme.setting "primary" 0 default.primary stringOf?
    debug := ← logging.setting "debug" 0 default.debug booleanOf? }

/-- The settings in the text of a file, which may be unreadable. -/
def ofFile (text : Option String) : Except SettingsError Settings :=
  match text with
  | none => .error .unreadable
  | some text =>
    match (Toml.parse text).bind ofTable? with
    | some settings => .ok settings
    | none => .error .invalid

/-! ## 4. Settings from the environment -/

abbrev Environment := String → Option String

/-- Takes the settings of the environment over those of a file.  A format that is not known and a
blank color do not count. -/
def override (settings : Settings) (environment : Environment) : Settings where
  schemaPath := (environment "CARD_SCHEMA_PATH").or settings.schemaPath
  output := ((environment "CARD_OUTPUT").bind OutputFormat.parse?).getD settings.output
  primary :=
    ((environment "CARD_DEFAULT_PRIMARY").filter (Text.trim · ≠ "")).getD settings.primary
  debug :=
    ((environment "CARD_DEBUG").map fun s => s = "1" || Text.eqIgnoringCase s "true").getD
      settings.debug

/-- The settings of a run: a file without settings counts as none. -/
def load (file : Option String) (environment : Environment) : Settings :=
  let settings := match ofFile file with
    | .ok settings => settings
    | .error _ => default
  settings.override environment

def fileName : String := "card.toml"

def toJson (settings : Settings) : Json :=
  .object [
    ("preview", .object [
      ("schema_path", Json.ofOption (settings.schemaPath.map .string)),
      ("output", .string settings.output.name)]),
    ("theme", .object [("primary", .string settings.primary)]),
    ("logging", .object [("debug", .bool settings.debug)])]

end Settings

end FormCard
