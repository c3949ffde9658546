import FormCard.View.Basic
import FormCard.Form.Submission

/-!
# Views in JSON

The output that other programs read is a JSON value, and this part of the program makes it.  A view
is an object with its id, its style, the name of what it shows under the key `primitive`, the fields
of that, and the views inside at the end.  Names and fields are fixed, down to the words of the
state that is shown without a card, for hosts rely on them.

The fields of what is shown are members of the same object as the id and the style, and options that
are absent have no member.  So it is not obvious that nothing gets lost or mixed up;
`FormCard.Proofs.Lossless` shows that nothing does.  Submissions, receipts and themes have values of
their own.
-/

namespace FormCard

open Json

/-! ## 1. Names -/

def Tone.name : Tone → String
  | blue => "blue"
  | red => "red"
  | green => "green"
  | orange => "orange"
  | gray => "gray"

/-- The name of a way to draw a chart. -/
def ChartKind.name : ChartKind → String
  | bar => "bar"
  | line => "line"

def Variant.name : Variant → String
  | primary => "primary"
  | secondary => "secondary"
  | ghost => "ghost"
  | danger => "danger"

def Leaf.name : Leaf → String
  | heading .. => "heading"
  | paragraph .. => "paragraph"
  | remark .. => "remark"
  | labeledValue .. => "labeled_value"
  | rule => "rule"
  | chart .. => "chart"
  | textInput .. => "text_input"
  | dateInput .. => "date_input"
  | personSelect .. => "person_select"
  | button .. => "button"
  | unsupported .. => "unsupported"

def Frame.name : Frame → String
  | region => "region"
  | grid .. => "grid"
  | form .. => "form"

/-! ## 2. Parts -/

/-- A string member. -/
def textMember (key value : String) : String × Json := (key, .string value)

/-- A string member that may be absent. -/
def textMember? (key : String) (value : Option String) : List (String × Json) :=
  member? key (value.map .string)

/-- A point of a chart. -/
def Point.toJson (point : Point) : Json :=
  .object [textMember "name" point.name, ("value", .number (.float point.value))]

/-- Somebody who can be chosen. -/
def Person.toJson (person : Person) : Json :=
  .object [textMember "id" person.id, textMember "name" person.name]

/-- The colors of a button. -/
def Paint.toJson (paint : Paint) : Json :=
  .object ([textMember "background" paint.background, textMember "foreground" paint.foreground]
    ++ textMember? "border" paint.border ++ textMember? "shadow" paint.shadow)

/-- The field that a leaf is bound to. -/
def FieldRef.toJson (binding : FieldRef) : Json :=
  .object [textMember "form" binding.form, textMember "field" binding.field]

/-- The ornament above a card. -/
def Header.toJson : Header → Json
  | gradient start finish =>
    .object [textMember "kind" "custom", textMember "from" start, textMember "to" finish]
  | builtIn stops =>
    .object [textMember "kind" "default", ("stops", .array (stops.map .string))]

/-! ## 3. Views -/

/-- The fields of a leaf. -/
def Leaf.members : Leaf → List (String × Json)
  | heading text level => [textMember "text" text, ("level", .ofNat level.toNat)]
  | paragraph content => [textMember "content" content]
  | remark label content tone =>
    [textMember "label" label, textMember "content" content, textMember "tone" tone.name]
  | labeledValue label value => [textMember "label" label, textMember "value" value]
  | rule => []
  | chart kind color points =>
    [textMember "kind" kind.name, textMember "color" color,
      ("points", .array (points.map Point.toJson))]
  | textInput label placeholder multiline value accent binding =>
    [textMember "label" label] ++ textMember? "placeholder" placeholder
      ++ [("multiline", .bool multiline), textMember "value" value, textMember "accent" accent]
      ++ member? "binding" (binding.map FieldRef.toJson)
  | dateInput label value binding =>
    [textMember "label" label, textMember "value" value]
      ++ member? "binding" (binding.map FieldRef.toJson)
  | personSelect label options selected binding =>
    [textMember "label" label, ("options", .array (options.map Person.toJson))]
      ++ textMember? "selected" selected ++ member? "binding" (binding.map FieldRef.toJson)
  | button label variant paint submits intent =>
    [textMember "label" label, textMember "variant" variant.name, ("paint", paint.toJson)]
      ++ textMember? "submits" submits ++ textMember? "intent" intent
  | unsupported tag => [textMember "tag" tag]

/-- The fields of a frame, without the views inside. -/
def Frame.members : Frame → List (String × Json)
  | region => []
  | grid cols gap => [("cols", .ofNat cols.toNat), ("gap", .ofNat gap.toNat)]
  | form scope destination state =>
    [textMember "scope" scope] ++ textMember? "destination" destination
      ++ [textMember "state" state.name]

/-- A leaf by itself: its name and its fields. -/
def Leaf.toJson (leaf : Leaf) : Json := .object (textMember "primitive" leaf.name :: leaf.members)

namespace View

/-- What views of both sorts start with. -/
def headMembers (id : String) (style : Option String) (name : String) : List (String × Json) :=
  textMember "id" id :: textMember? "style" style ++ [textMember "primitive" name]

mutual

/-- The value that describes a view. -/
def toJson : View → Json
  | leaf id style content => .object (headMembers id style content.name ++ content.members)
  | frame id style kind children =>
    .object (headMembers id style kind.name ++ kind.members
      ++ [("children", .array (toItems children))])
termination_by structural view => view

def toItems : List View → List Json
  | [] => []
  | view :: views => toJson view :: toItems views
termination_by structural views => views

end

end View

/-- The headline of the state without a card. -/
def brokenHeadline : String := "Broken Schema"

/-- The advice shown in the state without a card. -/
def brokenMessage : String :=
  "Please fix the JSON errors in the editor to resume live preview."

/-- The value that describes what is shown. -/
def Output.toJson : Output → Json
  | card title primary header body =>
    .object [textMember "state" "card", textMember "title" title, textMember "primary" primary,
      ("header", header.toJson), ("body", .array (View.toItems body))]
  | broken reason =>
    .object [textMember "state" "broken", textMember "headline" brokenHeadline,
      textMember "message" brokenMessage, textMember "reason" reason]

/-! ## 4. Forms and themes -/

/-- The values of a form, in the order of their fields. -/
def FieldValues.toJson (values : FieldValues) : Json := .object values.entries

def Submission.toJson (submission : Submission) : Json :=
  .object [("destination", ofOption (submission.destination.map .string)),
    ("values", FieldValues.toJson submission.values)]

def Receipt.toJson (receipt : Receipt) : Json :=
  .object [("destination", ofOption (receipt.destination.map .string)),
    textMember "message" receipt.message]

def Theme.toJson (theme : Theme) : Json :=
  .object (textMember "primary" theme.primary
    :: member? "gradient" (theme.gradient.map fun ends => .array [.string ends.1, .string ends.2]))

end FormCard
