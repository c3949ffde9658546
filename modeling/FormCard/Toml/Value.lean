/-!
# Values of a TOML document

The file of settings is a TOML document, and this module has the values that such a document is made
of.  Dates and times are of no use to the program, so they are kept as they are written, once they
are known to be valid.

A table remembers how it came about.  TOML lets a table grow while its document is read, but not any
table and not in any way, and its origin settles whether a later line may add to it.
-/

namespace FormCard.Toml

/-- How a table came about. -/
inductive Origin where
  /-- A header of its own. -/
  | header
  /-- The header of a table below it. -/
  | implied
  /-- A dotted key. -/
  | dotted
  /-- Braces in the place of a value. -/
  | inline
  deriving DecidableEq, Repr

/-- A value of a document. -/
inductive Value where
  | string (s : String)
  | integer (n : Int)
  | float (x : Float)
  | boolean (b : Bool)
  /-- A date, a time of day or both, as it is written. -/
  | moment (text : String)
  | array (items : List Value)
  | table (origin : Origin) (members : List (String × Value))
  /-- The tables of a repeated header, the last one first. -/
  | tables (tables : List (List (String × Value)))

/-- A table of a document. -/
structure Table where
  origin : Origin
  members : List (String × Value)

def Table.toValue (table : Table) : Value := .table table.origin table.members

end FormCard.Toml
