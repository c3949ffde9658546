import FormCard.Toml.Value
import FormCard.Members

/-!
# How a document grows

A TOML document is carried out statement by statement, and this module says what each statement does
to the tables read so far.  A header starts a table, and the assignments that follow belong to it; a
dotted key reaches into tables below.  No table is defined twice and no key is set twice, so each
statement may be refused, and then the whole document is.

All changes below a table go through one function, `Table.enter`, which finds or makes the tables on
a path and puts them back changed.  Whether a table may be entered depends on its origin and on what
reaches for it.  The table that is growing is kept apart from those that are complete, and is put in
its place when the next header comes.
-/

namespace FormCard.Toml

/-- What one statement of a document says. -/
inductive Statement where
  /-- The value of a key, below dotted keys. -/
  | assign (path : List String) (key : String) (value : Value)
  /-- The header of a table. -/
  | header (path : List String) (key : String)
  /-- The header of one more table of several. -/
  | repeated (path : List String) (key : String)

namespace Table

def empty (origin : Origin) : Table := ⟨origin, []⟩

def get? (table : Table) (key : String) : Option Value := table.members.lookup key

def set (table : Table) (key : String) (value : Value) : Table :=
  { table with members := Members.set key value table.members }

def erase (table : Table) (key : String) : Table :=
  { table with members := Members.erase key table.members }

/-- Changes the table at a path below, which `change` may refuse.  Tables on the way that are not
there are made.  The last of several tables stands for all of them.  A dotted key may not reach into
a table with a header, and nothing may reach into one with braces. -/
def enter {α : Type} (dotted : Bool) (change : Table → Option (α × Table)) :
    List String → Table → Option (α × Table)
  | [], table => change table
  | key :: path, table =>
    match table.get? key with
    | none => do
      let (result, below) ← enter dotted change path (empty (if dotted then .dotted else .implied))
      return (result, table.set key below.toValue)
    | some (.table origin members) =>
      if origin = .inline ∨ dotted ∧ origin = .header then none
      else do
        let (result, below) ← enter dotted change path ⟨origin, members⟩
        return (result, table.set key below.toValue)
    | some (.tables (last :: others)) => do
      let (result, below) ← enter dotted change path ⟨.header, last⟩
      return (result, table.set key (.tables (below.members :: others)))
    | some _ => none

/-- Sets a key below dotted keys, once.  A table that dotted keys reach takes keys of its own only
from dotted keys. -/
def assign (table : Table) (path : List String) (key : String) (value : Value) : Option Table :=
  let change (below : Table) : Option (Unit × Table) :=
    if (below.origin == .dotted) = path.isEmpty then none
    else if (below.get? key).isSome then none
    else some ((), below.set key value)
  (enter true change path table).map (·.2)

end Table

/-- A document that is being read: the tables that are complete, and the one that is not. -/
structure Draft where
  root : Table
  current : Table
  /-- The path of the current table and its key; there is none for the document itself. -/
  place : Option (List String × String)
  /-- Whether the current table is one of several. -/
  isRepeated : Bool

namespace Draft

/-- The document before its first statement. -/
def start : Draft := ⟨.empty .header, .empty .header, none, false⟩

/-- Puts the current table in its place. -/
def complete (draft : Draft) : Option Table :=
  match draft.place with
  | none => some draft.current
  | some (path, key) =>
    let change (parent : Table) : Option (Unit × Table) :=
      match draft.isRepeated, parent.get? key with
      | true, none => some ((), parent.set key (.tables [draft.current.members]))
      | true, some (.tables tables) =>
        some ((), parent.set key (.tables (draft.current.members :: tables)))
      | false, none => some ((), parent.set key draft.current.toValue)
      | false, some (.table .implied _) => some ((), parent.set key draft.current.toValue)
      | _, _ => none
    (draft.root.enter false change path).map (·.2)

/-- Starts the table of a header.  A table that was only implied so far keeps its members. -/
def startTable (draft : Draft) (path : List String) (key : String) : Option Draft := do
  let root ← draft.complete
  let take (parent : Table) : Option (List (String × Value) × Table) :=
    match parent.get? key with
    | none => some ([], parent)
    | some (.table .implied members) => some (members, parent.erase key)
    | some _ => none
  let (members, root) ← root.enter false take path
  return ⟨root, ⟨.header, members⟩, some (path, key), false⟩

/-- Starts one more table of several. -/
def startRepeated (draft : Draft) (path : List String) (key : String) : Option Draft := do
  let root ← draft.complete
  let check (parent : Table) : Option (Unit × Table) :=
    match parent.get? key with
    | none | some (.tables _) => some ((), parent)
    | some _ => none
  let (_, root) ← root.enter false check path
  return ⟨root, .empty .header, some (path, key), true⟩

/-- Carries out a statement. -/
def perform (draft : Draft) : Statement → Option Draft
  | .assign path key value => do
    return { draft with current := ← draft.current.assign path key value }
  | .header path key => draft.startTable path key
  | .repeated path key => draft.startRepeated path key

end Draft

/-- The table that the statements of a document make. -/
def Table.ofStatements (statements : List Statement) : Option Table := do
  (← statements.foldlM Draft.perform Draft.start).complete

/-- The table that the assignments between braces make. -/
def Table.ofAssignments (assignments : List (List String × String × Value)) : Option Table :=
  assignments.foldlM (fun table (path, key, value) => table.assign path key value)
    (Table.empty .inline)

end FormCard.Toml
