import FormCard.View.Encode

/-!
# Views as an outline

This is the painter of the program: it writes an output as text for a terminal.  The outline of a
card has a line for the ornament, a line for the title, and a line for each view in the order of the
document, indented by two spaces for each frame around it.  An output without a card has three
lines, the last with the reason.

Lines are made from the leaves and frames alone, and texts go into them as they are.  A text that is
shown may itself hold line breaks, and then its line covers several rows, of which only the first is
indented.  `FormCard.Proofs.Rows` counts the rows.

Lines are computed as a list and joined in the end; the depth is handed down the tree.
-/

namespace FormCard

/-! ## 1. Parts of lines -/

/-- Numbers of an outline are written positionally and without a point where none is needed. -/
def pointLayout : Decimal.Layout := ⟨.up, none, false, "NaN", "inf", "-inf"⟩

def Point.text (point : Point) : String :=
  point.name ++ "=" ++ Decimal.render pointLayout point.value

def FormState.label : FormState → String
  | clean => "Clean"
  | edited => "Edited"

def Variant.label : Variant → String
  | primary => "Primary"
  | secondary => "Secondary"
  | ghost => "Ghost"
  | danger => "Danger"

/-- A value, or what is shown where there is none. -/
def shownOr (value placeholder : String) : String := if value = "" then placeholder else value

/-- The name of a choice: of the person with the id, or the id itself for nobody known. -/
def choiceText (options : List Person) (selected : Option String) : String :=
  match selected with
  | none => "Select a person..."
  | some id => ((options.find? fun person => person.id = id).map Person.name).getD id

def Header.line : Header → String
  | gradient start finish => "=== " ++ start ++ " -> " ++ finish ++ " ==="
  | builtIn stops => "=== " ++ " -> ".intercalate stops ++ " ==="

/-! ## 2. Lines -/

/-- A character a number of times. -/
def repeated (n : Nat) (c : Char) : String := String.ofList (List.replicate n c)

/-- The line of a leaf. -/
def Leaf.line : Leaf → String
  | heading text level => repeated (level.toNat + 1) '#' ++ " " ++ text
  | paragraph content => content
  | remark label content tone => "(" ++ tone.name ++ ") " ++ label ++ ": " ++ content
  | labeledValue label value => label ++ ": " ++ value
  | rule => repeated 40 '-'
  | chart kind color points =>
    kind.name ++ " chart " ++ color ++ ": " ++ ", ".intercalate (points.map Point.text)
  | textInput label placeholder multiline value _ _ =>
    let shown := shownOr value (placeholder.getD "")
    if multiline then label ++ " [[ " ++ shown ++ " ]]" else label ++ " [ " ++ shown ++ " ]"
  | dateInput label value _ => label ++ " [" ++ shownOr value "yyyy-mm-dd" ++ "]"
  | personSelect label options selected _ => label ++ " <" ++ choiceText options selected ++ ">"
  | button label variant _ submits _ =>
    "(" ++ label ++ ") " ++ variant.label ++ (if submits.isSome then " submit" else "")
  | unsupported tag => "?? " ++ Kind.unsupportedLabel tag

/-- The line of a frame around the component `id`. -/
def Frame.line (id : String) : Frame → String
  | region => "[" ++ id ++ "]"
  | grid cols gap =>
    "[" ++ id ++ " grid " ++ Decimal.text cols.toNat ++ "x gap " ++ Decimal.text gap.toNat ++ "]"
  | form _ destination state =>
    "<form " ++ id ++ " -> " ++ endpointText destination ++ " (" ++ state.label ++ ")>"

namespace View

mutual

/-- The lines of a view that stands inside `depth` frames. -/
def lines (depth : Nat) : View → List String
  | leaf _ _ content => [repeated (2 * depth) ' ' ++ content.line]
  | frame id _ kind children =>
    (repeated (2 * depth) ' ' ++ kind.line id) :: linesAll (depth + 1) children
termination_by structural view => view

/-- The lines of a list of views. -/
def linesAll (depth : Nat) : List View → List String
  | [] => []
  | view :: views => lines depth view ++ linesAll depth views
termination_by structural views => views

end

end View

namespace Output

/-- The lines of what is shown. -/
def lines : Output → List String
  | card title primary header body =>
    header.line :: ("# " ++ title ++ "  [primary " ++ primary ++ "]") :: View.linesAll 0 body
  | broken reason => ["!! " ++ brokenHeadline, brokenMessage, "   (" ++ reason ++ ")"]

/-- The outline of what is shown: its lines, each with a line break at its end. -/
def outline (output : Output) : String := String.join (output.lines.map (· ++ "\n"))

end Output

end FormCard
