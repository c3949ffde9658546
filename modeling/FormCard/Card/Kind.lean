/-!
# The kinds of components

A component of a card names its kind by a tag, and what becomes of the component depends on it:
whether and how it is shown, whether it opens a form, what events do to it.  This module is the
vocabulary, that is the tags with their spellings and what each is for.

The tags of the vocabulary are an enumeration, so that a choice by kind is a match that has to be
complete.  Any other tag is kept as it stands, for a card with components of an unknown kind is
still a card, and the placeholder that is shown for them names their tag.  More tags are in the
vocabulary than the program can show; `Kind.role` in `FormCard.View.Leaf` says which it can.

Main statements: a tag and its spelling determine each other (`Tag.ofName?_eq_some_iff`), and a kind
read from a spelling is spelled that way again (`Kind.name_ofName`).
-/

namespace FormCard

inductive Tag where
  | container
  | columns
  | formContainer
  | loopContainer
  | interactiveContainer
  | text
  | richText
  | title
  | divider
  | image
  | multiImage
  | person
  | personList
  | chart
  | table
  | input
  | button
  | collapseButton
  | dropdown
  | dropdownMulti
  | datePicker
  | timePicker
  | datetimePicker
  | personPicker
  | personPickerMulti
  | buttonGroup
  | remark
  | dualText
  | textButton
  | textImage
  | textDropdown
  | textPersonPicker
  | textDatetimePicker
  | textDatePicker
  | textTimePicker
  deriving DecidableEq, Repr

/-- What a component of some kind is for. -/
inductive Category where
  /-- Wraps children in a visual region. -/
  | container
  /-- Opens a form for the components inside. -/
  | formBoundary
  /-- Shows its properties. -/
  | display
  /-- Takes input or acts. -/
  | interactive
  /-- Is made of several simple components. -/
  | compound
  /-- Is outside the vocabulary. -/
  | unknown
  deriving DecidableEq, Repr

namespace Tag

/-- All tags, in the order of their declaration. -/
def all : List Tag :=
  [.container, .columns, .formContainer, .loopContainer, .interactiveContainer, .text,
   .richText, .title, .divider, .image, .multiImage, .person, .personList, .chart, .table,
   .input, .button, .collapseButton, .dropdown, .dropdownMulti, .datePicker, .timePicker,
   .datetimePicker, .personPicker, .personPickerMulti, .buttonGroup, .remark, .dualText,
   .textButton, .textImage, .textDropdown, .textPersonPicker, .textDatetimePicker,
   .textDatePicker, .textTimePicker]

/-- The spelling of a tag. -/
def name : Tag → String
  | container => "container"
  | columns => "columns"
  | formContainer => "formContainer"
  | loopContainer => "loopContainer"
  | interactiveContainer => "interactiveContainer"
  | text => "text"
  | richText => "richText"
  | title => "title"
  | divider => "divider"
  | image => "image"
  | multiImage => "multiImage"
  | person => "person"
  | personList => "personList"
  | chart => "chart"
  | table => "table"
  | input => "input"
  | button => "button"
  | collapseButton => "collapseButton"
  | dropdown => "dropdown"
  | dropdownMulti => "dropdownMulti"
  | datePicker => "datePicker"
  | timePicker => "timePicker"
  | datetimePicker => "datetimePicker"
  | personPicker => "personPicker"
  | personPickerMulti => "personPickerMulti"
  | buttonGroup => "buttonGroup"
  | remark => "remark"
  | dualText => "dualText"
  | textButton => "textButton"
  | textImage => "textImage"
  | textDropdown => "textDropdown"
  | textPersonPicker => "textPersonPicker"
  | textDatetimePicker => "textDatetimePicker"
  | textDatePicker => "textDatePicker"
  | textTimePicker => "textTimePicker"

/-- The tag with a spelling, which is matched to the letter. -/
def ofName? (s : String) : Option Tag := all.find? fun tag => tag.name == s

/-- The purpose of a tag. -/
def category : Tag → Category
  | .container | .columns | .loopContainer | .interactiveContainer => .container
  | .formContainer => .formBoundary
  | .text | .richText | .title | .divider | .image | .multiImage | .person | .personList |
    .chart | .table => .display
  | .input | .button | .collapseButton | .dropdown | .dropdownMulti | .datePicker |
    .timePicker | .datetimePicker | .personPicker | .personPickerMulti => .interactive
  | .buttonGroup | .remark | .dualText | .textButton | .textImage | .textDropdown |
    .textPersonPicker | .textDatetimePicker | .textDatePicker | .textTimePicker => .compound

/-- A tag and its spelling determine each other. -/
theorem ofName?_eq_some_iff {s : String} {tag : Tag} : ofName? s = some tag ↔ tag.name = s := by
  constructor
  · intro found
    simpa using List.find?_some found
  · rintro rfl
    cases tag <;> decide

end Tag

/-- The kind of a component: a tag of the vocabulary or the spelling of another. -/
inductive Kind where
  | known (tag : Tag)
  | unknown (name : String)
  deriving DecidableEq, Repr

namespace Kind

/-- The kind that a spelling names. -/
def ofName (s : String) : Kind :=
  match Tag.ofName? s with
  | some tag => known tag
  | none => unknown s

/-- The spelling of a kind. -/
def name : Kind → String
  | known tag => tag.name
  | unknown s => s

def isKnown : Kind → Bool
  | known _ => true
  | unknown _ => false

/-- The purpose of a kind. -/
def category : Kind → Category
  | known tag => tag.category
  | unknown _ => .unknown

/-- Whether components of this kind may have children. -/
def acceptsChildren (kind : Kind) : Bool :=
  match kind.category with
  | .container | .formBoundary | .compound => true
  | .display | .interactive | .unknown => false

/-- What a placeholder for a component of this kind says. -/
def unsupportedLabel (name : String) : String := "Unsupported component: " ++ name

@[simp] theorem name_ofName (s : String) : (ofName s).name = s := by
  unfold ofName
  split
  · next tag h => exact Tag.ofName?_eq_some_iff.1 h
  · rfl

end Kind

def Category.name : Category → String
  | container => "Container"
  | formBoundary => "FormBoundary"
  | display => "Display"
  | interactive => "Interactive"
  | compound => "Compound"
  | unknown => "Unknown"

end FormCard
