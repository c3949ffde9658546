import FormCard.Card.Kind
import FormCard.Card.Props

/-!
# Cards

This is what the program renders: a card has a title, colors, and a body of components.  Components
form trees.  Containers are meant to have children, but any component may carry them, and nothing is
asked of ids, which may be empty or shared.  Whatever the rest of the program promises has to hold
for such cards as well.

A card can be searched for a component.  The search goes through `Card.walk`, which visits the
components with an explicit stack; `Node.preorder` lists them by recursion and is easier to reason
about.  Main statement: the two agree (`Card.walk_eq_preorder`).  The proof is an induction along
the stack with all of its contents, for the list of components that are still to come is the same
for both.
-/

namespace FormCard

/-- A component with its children. -/
structure Node where
  id : String
  kind : Kind
  props : Props
  /-- A hint for the presentation, handed on as it is. -/
  style : Option String
  children : List Node
  /-- The name of the form field that the component edits. -/
  field : Option String

/-- The colors that a card asks for. -/
structure Palette where
  primary : Option String
  gradientFrom : Option String
  gradientTo : Option String
  deriving DecidableEq

/-- The palette that asks for no color. -/
def Palette.empty : Palette := ⟨none, none, none⟩

structure Card where
  title : String
  palette : Option Palette
  body : List Node

namespace Node

/-- A component without properties, style, children and field. -/
def plain (id : String) (kind : Kind) : Node := ⟨id, kind, .empty, none, [], none⟩

instance : Inhabited Node := ⟨plain "" (.unknown "")⟩

/-! ## 1. Order of the document -/

mutual

def size : Node → Nat
  | ⟨_, _, _, _, children, _⟩ => sizeAll children + 1
termination_by structural node => node

def sizeAll : List Node → Nat
  | [] => 0
  | node :: nodes => size node + sizeAll nodes
termination_by structural nodes => nodes

end

mutual

/-- A component and all below it, parents before children. -/
def preorder : Node → List Node
  | ⟨id, kind, props, style, children, field⟩ =>
    ⟨id, kind, props, style, children, field⟩ :: preorderAll children
termination_by structural node => node

/-- The components of a list of trees, in the order of the document. -/
def preorderAll : List Node → List Node
  | [] => []
  | node :: nodes => preorder node ++ preorderAll nodes
termination_by structural nodes => nodes

end

theorem size_eq (node : Node) : node.size = sizeAll node.children + 1 := by cases node; rfl

theorem preorder_eq (node : Node) : node.preorder = node :: preorderAll node.children := by
  cases node; rfl

theorem sizeAll_append (l m : List Node) : sizeAll (l ++ m) = sizeAll l + sizeAll m := by
  induction l with
  | nil => simp [sizeAll]
  | cons node nodes ih => simp [sizeAll, ih, Nat.add_assoc]

theorem preorderAll_append (l m : List Node) :
    preorderAll (l ++ m) = preorderAll l ++ preorderAll m := by
  induction l with
  | nil => simp [preorderAll]
  | cons node nodes ih => simp [preorderAll, ih]

/-- Visits the components on a stack: the top one, then its children, then the rest. -/
def walkStack : List Node → List Node
  | [] => []
  | node :: stack => node :: walkStack (node.children ++ stack)
termination_by stack => sizeAll stack
decreasing_by
  rw [sizeAll_append, sizeAll, size_eq]
  omega

/-- **The stack visits the components in the order of the document.** -/
theorem walkStack_eq_preorderAll (stack : List Node) : walkStack stack = preorderAll stack := by
  fun_induction walkStack stack with
  | case1 => rfl
  | case2 node stack ih => rw [ih, preorderAll_append, preorderAll, preorder_eq]; rfl

end Node

namespace Card

/-- The components of a card in the order of the document. -/
def walk (card : Card) : List Node := Node.walkStack card.body

/-- The first component with an id. -/
def find? (card : Card) (id : String) : Option Node := card.walk.find? fun node => node.id == id

theorem walk_eq_preorder (card : Card) : card.walk = Node.preorderAll card.body :=
  Node.walkStack_eq_preorderAll card.body

end Card

end FormCard
