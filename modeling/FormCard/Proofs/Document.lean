import FormCard.Proofs.Scope
import FormCard.View.Encode
import FormCard.Card.Source
import Mathlib.Data.List.Forall2

/-!
# The document in what is shown

A host works with a card as a JSON document and gets a tree of views.  To find its way between the
two it should not have to know how the program reads cards and renders them.  Reading a card never
fails for what an entry is, and a pass shows something for every component.  So whoever knows the
document can tell the tree of views from it without reading or rendering: an entry is one view, and
its children are the entries in its array of children if its type is one of three, and none
otherwise.

* `Mirrors` says when a view shows an entry, all the way down, in terms of the document alone: what
  its id is, its style, what it is shown as, what a placeholder names, and what is inside.
* `Node.shown_ofJson`: the components that a pass goes on to are read from the entries that the
  document has there.
* `output_mirrors_document`: the body of the output mirrors the body of the document.

The types that are shown are listed here as strings, with what they are shown as (`Entry.looks`).
The list is not derived from the vocabulary of the program, and `Kind.lookup_looks` proves that the
two agree.  Types that are spelled otherwise, and values that are no strings, are named by
placeholders.
-/

namespace FormCard

open Members

/-! ## 1. What an entry of the document asks for -/

namespace Entry

/-- The entries of an array under a key; what is no array has none. -/
def under (key : String) (members : List (String × Json)) : List Json :=
  ((members.lookup key).map Json.items).getD []

/-- The types whose entries are shown around the entries in their children. -/
def frames : List String := ["container", "columns", "formContainer"]

/-- The types that are implemented, with what they are shown as. -/
def looks : List (String × String) :=
  [("container", "region"), ("columns", "grid"), ("formContainer", "form"),
   ("title", "heading"), ("text", "paragraph"), ("divider", "rule"), ("remark", "remark"),
   ("dualText", "labeled_value"), ("chart", "chart"), ("input", "text_input"),
   ("datePicker", "date_input"), ("personPicker", "person_select"), ("button", "button")]

/-- The id of an entry: a string, or the text of a number. -/
def id : Json → String
  | .object members =>
    match members.lookup "id" with
    | some (.string s) => s
    | some (.number n) => n.text
    | _ => ""
  | _ => ""

/-- The style of an entry, if it is a string. -/
def style : Json → Option String
  | .object members => (members.lookup "style").bind Json.string?
  | _ => none

/-- The type of an entry: the string itself, the compact text of another value, or words for
none. -/
def type : Json → String
  | .object members =>
    match members.lookup "type" with
    | some (.string tag) => tag
    | some other => other.compact
    | none => "(missing type)"
  | _ => "(invalid node)"

/-- What an entry is shown as, if its type is a string that is implemented. -/
def look? : Json → Option String
  | .object members =>
    match members.lookup "type" with
    | some (.string tag) => looks.lookup tag
    | _ => none
  | _ => none

/-- The entries that are shown inside an entry. -/
def inside : Json → List Json
  | .object members =>
    match members.lookup "type" with
    | some (.string tag) => if tag ∈ frames then under "children" members else []
    | _ => []
  | _ => []

end Entry

/-! ## 2. What a view shows -/

namespace View

/-- The style hint of the component that is shown. -/
def style : View → Option String
  | leaf _ style _ => style
  | frame _ style _ _ => style

/-- The name of what is shown. -/
def name : View → String
  | leaf _ _ content => content.name
  | frame _ _ content _ => content.name

def tag? : View → Option String
  | leaf _ _ (.unsupported tag) => some tag
  | _ => none

end View

/-- A view that shows an entry: it has its id and its style, it is what the type asks for or else a
placeholder that names the type, and the views inside show the entries inside, one for each and in
their order. -/
inductive Mirrors : Json → View → Prop
  | of {entry : Json} {view : View}
    (id : view.id = Entry.id entry)
    (style : view.style = Entry.style entry)
    (name : view.name = (Entry.look? entry).getD "unsupported")
    (tag : view.tag? = if (Entry.look? entry).isSome then none else some (Entry.type entry))
    (inside : List.Forall₂ Mirrors (Entry.inside entry) view.children) : Mirrors entry view

/-! ## 3. Kinds and their looks -/

def Role.look : Role → String
  | region => "region"
  | grid => "grid"
  | form => "form"
  | display .paragraph => "paragraph"
  | display .heading => "heading"
  | display .remark => "remark"
  | display .labeledValue => "labeled_value"
  | display .rule => "rule"
  | display .chart => "chart"
  | editor .text => "text_input"
  | editor .date => "date_input"
  | editor .person => "person_select"
  | button => "button"
  | unsupported => "unsupported"

namespace Kind

/-- A spelling outside the vocabulary is not implemented. -/
theorem not_mem_looks {name : String} (other : Tag.ofName? name = none) :
    name ∉ Entry.looks.map (·.1) := by
  have all : ∀ own ∈ Entry.looks.map (·.1), (Tag.ofName? own).isSome = true := by decide
  intro mem
  have := all name mem
  simp [other] at this

/-- **A kind has the looks of its spelling,** and is unsupported without any. -/
theorem lookup_looks (name : String) :
    Entry.looks.lookup name
      = if (ofName name).role = .unsupported then none else some (ofName name).role.look := by
  unfold ofName
  cases known : Tag.ofName? name with
  | some tag =>
    obtain rfl := Tag.ofName?_eq_some_iff.1 known
    cases tag <;> rfl
  | none => exact Members.lookup_eq_none (not_mem_looks known)

/-- **A kind is shown as a frame exactly if its spelling is one of three.** -/
theorem isFrame_role_ofName (name : String) :
    (ofName name).role.isFrame = true ↔ name ∈ Entry.frames := by
  unfold ofName
  cases known : Tag.ofName? name with
  | some tag =>
    obtain rfl := Tag.ofName?_eq_some_iff.1 known
    cases tag <;> decide
  | none =>
    have subset : Entry.frames ⊆ Entry.looks.map (·.1) := by decide
    refine iff_of_false (by simp [role, Role.isFrame]) fun mem => ?_
    exact not_mem_looks known (subset mem)

end Kind

/-! ## 4. What is read from an entry -/

namespace Node

/-- **One component is read from each entry under a key.** -/
theorem read_under (key : String) (members : List (String × Json)) :
    ((members.lookup key).map listOfJson).getD [] = (Entry.under key members).map ofJson := by
  rw [Entry.under]
  cases members.lookup key with
  | none => rfl
  | some value => cases value <;> simp [listOfJson, Json.items, ofItems_eq_map]

theorem id_ofJson (entry : Json) : (ofJson entry).id = Entry.id entry := by
  cases entry <;> rfl

theorem style_ofJson (entry : Json) : (ofJson entry).style = Entry.style entry := by
  cases entry <;> rfl

/-- **The kind that is read is named as the type of the entry,** and has its looks. -/
theorem kind_ofJson (entry : Json) :
    (ofJson entry).kind.name = Entry.type entry
    ∧ Entry.look? entry = if (ofJson entry).kind.role = .unsupported then none
        else some (ofJson entry).kind.role.look := by
  cases entry with
  | object members =>
    have kind : (ofJson (.object members)).kind = Kind.ofJson (members.lookup "type") := rfl
    rw [kind, Entry.type, Entry.look?]
    cases members.lookup "type" with
    | none => exact ⟨rfl, rfl⟩
    | some value =>
      cases value with
      | string name => exact ⟨Kind.name_ofName name, Kind.lookup_looks name⟩
      | _ => exact ⟨rfl, rfl⟩
  | _ => exact ⟨rfl, rfl⟩

/-- **The components that a pass goes on to are read from the entries inside.** -/
theorem shown_ofJson (entry : Json) : (ofJson entry).shown = (Entry.inside entry).map ofJson := by
  cases entry with
  | object members =>
    have kind : (ofJson (.object members)).kind = Kind.ofJson (members.lookup "type") := rfl
    have children : (ofJson (.object members)).children = childrenIn members := rfl
    rw [shown, kind, children, Entry.inside]
    cases members.lookup "type" with
    | none => rfl
    | some value =>
      cases value with
      | string name =>
        by_cases frame : name ∈ Entry.frames
        · have role := (Kind.isFrame_role_ofName name).2 frame
          simp [Kind.ofJson, frame, role, childrenIn_eq, read_under]
        · have role := mt (Kind.isFrame_role_ofName name).1 frame
          simp [Kind.ofJson, frame, role]
      | _ => rfl
  | _ => rfl

end Node

/-! ## 5. What a pass shows -/

/-- A component is shown under its id, with its style and in the looks of its role. -/
theorem face_viewNode (theme : Theme) (scope : Option Scope) (path : String) (node : Node)
    (desk : Desk) :
    let view := (viewNode theme scope path node desk).1
    view.id = node.id ∧ view.style = node.style ∧ view.name = node.kind.role.look
    ∧ view.tag? = if node.kind.role = .unsupported then some node.kind.name else none := by
  obtain ⟨id, kind, props, style, children, field⟩ := node
  cases role : kind.role with
  | display display =>
    cases display <;>
      simp [viewNode, role, View.id, View.style, View.name, View.tag?, Leaf.ofDisplay, Leaf.name,
        Role.look]
  | editor editor =>
    cases editor <;>
      simp [viewNode, role, View.id, View.style, View.name, View.tag?, Leaf.ofEditor, Leaf.name,
        Role.look]
  | _ =>
    simp [viewNode, role, View.id, View.style, View.name, View.tag?, Leaf.ofButton, Leaf.name,
      Frame.name, Role.look]

mutual

/-- **The view of a component mirrors the entry that it was read from.** -/
theorem mirrors_viewNode (theme : Theme) :
    (node : Node) → (entry : Json) → node = Node.ofJson entry → (scope : Option Scope) →
      (path : String) → (desk : Desk) → Mirrors entry (viewNode theme scope path node desk).1
  | ⟨id, kind, props, style, children, field⟩, entry, same, scope, path, desk => by
    obtain ⟨sameId, sameStyle, sameName, sameTag⟩ :=
      face_viewNode theme scope path ⟨id, kind, props, style, children, field⟩ desk
    obtain ⟨type, look⟩ := Node.kind_ofJson entry
    obtain ⟨inner, -, below⟩ :=
      children_viewNode theme scope path ⟨id, kind, props, style, children, field⟩ desk
    have shown := Node.shown_ofJson entry
    rw [← same] at type look shown
    refine .of ?_ ?_ ?_ ?_ ?_
    · rw [sameId, same, Node.id_ofJson]
    · rw [sameStyle, same, Node.style_ofJson]
    · rw [sameName, look]
      split
      · next unsupported => rw [unsupported]; rfl
      · rfl
    · rw [sameTag, look, type]
      split <;> rfl
    · rw [below]
      by_cases frame : kind.role.isFrame = true
      · -- the children are components of the list that the induction is on
        have own : Node.shown ⟨id, kind, props, style, children, field⟩ = children := if_pos frame
        rw [own] at shown ⊢
        exact mirrors_viewAll theme children _ shown _ _ (by simp) _
      · have none : Node.shown ⟨id, kind, props, style, children, field⟩ = [] := if_neg frame
        rw [none] at shown ⊢
        rw [List.map_eq_nil_iff.1 shown.symm]
        exact .nil

/-- The views of siblings mirror the entries that they were read from. -/
theorem mirrors_viewAll (theme : Theme) :
    (nodes : List Node) → (entries : List Json) → nodes = entries.map Node.ofJson →
      (scope : Option Scope) → (paths : List String) → nodes.length = paths.length →
      (desk : Desk) → List.Forall₂ Mirrors entries (viewAll theme scope nodes paths desk).1
  | node :: nodes, entry :: entries, same, scope, path :: paths, lengths, desk => by
    obtain ⟨first, others⟩ := List.cons.inj same
    exact .cons (mirrors_viewNode theme node entry first scope path desk)
      (mirrors_viewAll theme nodes entries others scope paths (Nat.succ.inj lengths) _)
  | [], [], _, _, _, _, _ => .nil

end

/-! ## 6. Main statement -/

/-- **The output mirrors the document.**  An object is a card, whatever its members are, and a pass
over it gives a card, whatever the renderer went through.  Its body shows the entries of the body of
the document, one view for each and in their order, and so on inside. -/
theorem output_mirrors_document (renderer : Renderer) (members : List (String × Json)) :
    ∃ card title primary header body, Card.ofJson? (.object members) = some card
      ∧ (renderer.render (.ready card)).1 = .card title primary header body
      ∧ List.Forall₂ Mirrors (Entry.under "body" members) body := by
  refine ⟨_, _, _, _, _, rfl, rfl, ?_⟩
  exact mirrors_viewAll _ _ _ (Node.read_under "body" members) _ _ (by simp) _

end FormCard
