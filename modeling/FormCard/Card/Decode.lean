import FormCard.Card.Basic

/-!
# Cards in JSON

This part of the program turns a JSON value into a card and back.  Reading is lenient: what is
missing or of the wrong type is absent, and an entry that is no component at all becomes one of an
unknown kind, so that a placeholder is shown in its place.  Only the root has to be an object.
Members that the program does not know are dropped.

Writing leaves out what is empty.  Reading and writing are recursions on the value and on the card,
with one function for a component and one for a list of them.  The children of a component are
looked up and read in one go (`Node.childrenIn`), since a recursion must see that they are part of
the value; `Node.childrenIn_eq` says what that amounts to.  That writing can be undone is proved in
`FormCard.Proofs.Roundtrip`.
-/

namespace FormCard

open Json
open Members (lookup_cons)

/-! ## 1. Reading -/

namespace Kind

/-- The kind recorded for a component that names none. -/
def missing : Kind := unknown "(missing type)"

def invalid : Kind := unknown "(invalid node)"

/-- The kind that a value names: the one spelled by a string, and otherwise an unknown kind whose
name is the text of the value. -/
def ofJson : Option Json → Kind
  | some (.string name) => ofName name
  | some other => unknown other.compact
  | none => missing

end Kind

namespace Node

/-- The id that a value gives: a string or the text of a number. -/
def idOfJson : Option Json → String
  | some (.string s) => s
  | some (.number n) => n.text
  | _ => ""

/-- The members of an object; other values have none. -/
def membersOf : Option Json → List (String × Json)
  | some (.object members) => members
  | _ => []

mutual

/-- The component that a value describes. -/
def ofJson : Json → Node
  | .object members =>
    { id := idOfJson (members.lookup "id")
      kind := Kind.ofJson (members.lookup "type")
      props := ⟨membersOf (members.lookup "props")⟩
      style := (members.lookup "style").bind string?
      children := childrenIn members
      field := ((members.lookup "field").bind string?).filter (· ≠ "") }
  | _ => plain "" .invalid
termination_by structural value => value

/-- The components that an array describes; other values describe none. -/
def listOfJson : Json → List Node
  | .array items => ofItems items
  | _ => []
termination_by structural value => value

/-- One component for each item. -/
def ofItems : List Json → List Node
  | [] => []
  | item :: items => ofJson item :: ofItems items
termination_by structural items => items

/-- The components under the key for children. -/
def childrenIn : List (String × Json) → List Node
  | [] => []
  | (key, value) :: members => if key = "children" then listOfJson value else childrenIn members
termination_by structural members => members

end

end Node

namespace Palette

/-- The palette that an object describes. -/
def ofJson? : Json → Option Palette
  | .object members =>
    let color (key : String) := (members.lookup key).bind string?
    some ⟨color "primary", color "gradientFrom", color "gradientTo"⟩
  | _ => none

end Palette

namespace Card

/-- The card that an object describes. -/
def ofJson? : Json → Option Card
  | .object members =>
    some
      { title := ((members.lookup "title").bind string?).getD ""
        palette := (members.lookup "theme").bind Palette.ofJson?
        body := ((members.lookup "body").map Node.listOfJson).getD [] }
  | _ => none

end Card

/-! ## 2. Writing -/

/-- An array member that is left out when there are no items. -/
def Json.nonempty? (items : List Json) : Option Json :=
  if items.isEmpty then none else some (.array items)

namespace Node

mutual

/-- The value that describes a component. -/
def toJson : Node → Json
  | ⟨id, kind, props, style, children, field⟩ =>
    .object (
      [("id", .string id), ("type", .string kind.name)]
      ++ member? "props" (if props.members.isEmpty then none else some (.object props.members))
      ++ member? "style" (style.map .string)
      ++ member? "children" (nonempty? (toItems children))
      ++ member? "field" (field.map .string))
termination_by structural node => node

/-- The values that describe components. -/
def toItems : List Node → List Json
  | [] => []
  | node :: nodes => toJson node :: toItems nodes
termination_by structural nodes => nodes

end

end Node

def Palette.toJson (palette : Palette) : Json :=
  .object (
    member? "primary" (palette.primary.map .string)
    ++ member? "gradientFrom" (palette.gradientFrom.map .string)
    ++ member? "gradientTo" (palette.gradientTo.map .string))

def Card.toJson (card : Card) : Json :=
  .object (
    [("title", .string card.title)]
    ++ member? "theme" (card.palette.map Palette.toJson)
    ++ [("body", .array (Node.toItems card.body))])

/-! ## 3. Laws -/

/-- The children that are read are those under their key. -/
theorem Node.childrenIn_eq (members : List (String × Json)) :
    childrenIn members = ((members.lookup "children").map listOfJson).getD [] := by
  induction members with
  | nil => rfl
  | cons entry rest ih =>
    obtain ⟨key, value⟩ := entry
    by_cases h : key = "children" <;> simp [childrenIn, lookup_cons, h, ih]

/-- One component is read for each item. -/
theorem Node.ofItems_eq_map (items : List Json) : ofItems items = items.map ofJson := by
  induction items with
  | nil => rfl
  | cons item items ih => simp [ofItems, ih]

end FormCard
