import FormCard.Form.Store
import FormCard.Theme

/-!
# What is shown

This is the output of a pass, the render tree: a host paints it in whatever way it has, and the
program prints it as JSON or as an outline.  A rendered card is a tree of views.  A frame shows the
views inside it; a leaf has none, which the type says.  Each view keeps the id and the style of the
component that it shows, and fields and buttons tell which form they belong to.

A view holds all that a host needs and nothing that it might ask the renderer for later: colors are
settled, texts of fields are filled in, and levels and columns are numbers in their range.

`View.find?` looks an id up by recursion; main statement: it finds the first view of `View.preorder`
with that id (`View.find?_eq`).  The search in a card has the same specification, and
`FormCard.Proofs.Traversal` compares the two.
-/

namespace FormCard

/-! ## 1. Parts of leaves -/

inductive Tone where
  | blue
  | red
  | green
  | orange
  | gray
  deriving DecidableEq, Repr

/-- How a chart is drawn. -/
inductive ChartKind where
  | bar
  | line
  deriving DecidableEq, Repr

/-- One value of a chart. -/
structure Point where
  name : String
  value : Float
  deriving DecidableEq

/-- Somebody who can be chosen. -/
structure Person where
  id : String
  name : String
  deriving DecidableEq

inductive Variant where
  | primary
  | secondary
  | ghost
  | danger
  deriving DecidableEq, Repr

structure Paint where
  background : String
  foreground : String
  border : Option String
  shadow : Option String
  deriving DecidableEq

/-- A field of a form. -/
structure FieldRef where
  form : FormKey
  field : String
  deriving DecidableEq

/-! ## 2. Views -/

/-- A view without views inside. -/
inductive Leaf where
  | heading (text : String) (level : UInt8)
  | paragraph (content : String)
  | remark (label content : String) (tone : Tone)
  | labeledValue (label value : String)
  | rule
  | chart (kind : ChartKind) (color : String) (points : List Point)
  | textInput (label : String) (placeholder : Option String) (multiline : Bool)
      (value accent : String) (binding : Option FieldRef)
  | dateInput (label value : String) (binding : Option FieldRef)
  | personSelect (label : String) (options : List Person) (selected : Option String)
      (binding : Option FieldRef)
  | button (label : String) (variant : Variant) (paint : Paint) (submits : Option FormKey)
      (intent : Option String)
  /-- Stands in for a component that cannot be shown. -/
  | unsupported (tag : String)
  deriving DecidableEq

/-- A view around other views. -/
inductive Frame where
  | region
  | grid (cols gap : UInt32)
  | form (scope : FormKey) (destination : Option String) (state : FormState)
  deriving DecidableEq

/-- A rendered component. -/
inductive View where
  | leaf (id : String) (style : Option String) (leaf : Leaf)
  | frame (id : String) (style : Option String) (frame : Frame) (children : List View)

/-- A rendered card, or the state shown when there is no card. -/
inductive Output where
  | card (title primary : String) (header : Header) (body : List View)
  | broken (reason : String)

namespace View

def id : View → String
  | leaf id _ _ => id
  | frame id _ _ _ => id

def children : View → List View
  | leaf _ _ _ => []
  | frame _ _ _ children => children

mutual

/-- A view and all inside it, the outer ones first. -/
def preorder : View → List View
  | leaf id style content => [leaf id style content]
  | frame id style content children => frame id style content children :: preorderAll children
termination_by structural view => view

/-- The views of a list and all inside them. -/
def preorderAll : List View → List View
  | [] => []
  | view :: views => preorder view ++ preorderAll views
termination_by structural views => views

end

mutual

/-- The first view with an id, the outer ones first. -/
def find? (wanted : String) : View → Option View
  | leaf id style content => if id = wanted then some (leaf id style content) else none
  | frame id style content children =>
    if id = wanted then some (frame id style content children) else findIn? wanted children
termination_by structural view => view

/-- The first view with an id in a list of views. -/
def findIn? (wanted : String) : List View → Option View
  | [] => none
  | view :: views => (find? wanted view).or (findIn? wanted views)
termination_by structural views => views

end

mutual

theorem find?_eq (wanted : String) :
    (view : View) → find? wanted view = view.preorder.find? fun v => v.id = wanted
  | leaf id style content => by
    by_cases h : id = wanted <;> simp [find?, preorder, View.id, h]
  | frame id style content children => by
    by_cases h : id = wanted
    · simp [find?, preorder, View.id, h]
    · simp [find?, preorder, View.id, h, findIn?_eq wanted children]

theorem findIn?_eq (wanted : String) :
    (views : List View) → findIn? wanted views = (preorderAll views).find? fun v => v.id = wanted
  | [] => rfl
  | view :: views => by
    simp [findIn?, preorderAll, List.find?_append, find?_eq wanted view, findIn?_eq wanted views]

end

end View

namespace Output

/-- The views of a card; there are none without a card. -/
def body : Output → List View
  | card _ _ _ body => body
  | broken _ => []

def isBroken : Output → Bool
  | card _ _ _ _ => false
  | broken _ => true

/-- The first view with an id. -/
def find? (output : Output) (id : String) : Option View := View.findIn? id output.body

end Output

end FormCard
