import FormCard.View.Basic
import FormCard.Card.Basic
import FormCard.Decimal.Reading

/-!
# Leaves

This is where components become views, one builder for each sort of leaf: headings, texts, remarks,
labeled values, rules, charts, fields and buttons.  A leaf is made from the properties of a
component and the colors of the pass.  A leaf for a field also takes what the form holds, which is
the text to show and the field to write to, and a button the form that it submits.  Builders see
neither the renderer nor the rest of the card.

Whether and how a kind of component is shown is its role.  The role is all that the pass looks at,
so kinds that are shown alike are treated alike everywhere.

Defaults stand with the builders: the first level for a heading without a valid one, blue for a
remark of an unknown color, zero for a point of a chart without a number.
-/

namespace FormCard

/-! ## 1. Roles -/

inductive Display where
  | paragraph
  | heading
  | remark
  | labeledValue
  | rule
  | chart
  deriving DecidableEq, Repr

/-- The leaves that edit a field of a form. -/
inductive Editor where
  | text
  | date
  | person
  deriving DecidableEq, Repr

/-- How components of a kind are shown. -/
inductive Role where
  | region
  | grid
  | form
  | display (display : Display)
  | editor (editor : Editor)
  | button
  | unsupported
  deriving DecidableEq, Repr

def Role.name : Role → String
  | region => "region"
  | grid => "grid"
  | form => "form"
  | display _ => "display"
  | editor _ => "field"
  | button => "button"
  | unsupported => "unsupported"

/-- The role of a kind.  Most tags of the vocabulary have no looks of their own yet, and share the
placeholder of unknown kinds. -/
def Kind.role : Kind → Role
  | known .container => .region
  | known .columns => .grid
  | known .formContainer => .form
  | known .text => .display .paragraph
  | known .title => .display .heading
  | known .remark => .display .remark
  | known .dualText => .display .labeledValue
  | known .divider => .display .rule
  | known .chart => .display .chart
  | known .input => .editor .text
  | known .datePicker => .editor .date
  | known .personPicker => .editor .person
  | known .button => .button
  | _ => .unsupported

/-! ## 2. Headings and remarks -/

/-- The highest level of a heading. -/
def maxLevel : UInt32 := 4

/-- The level of a heading: the one it names, if it exists, and the first otherwise. -/
def headingLevel (props : Props) : UInt8 :=
  let level := props.positiveOr "level" 1
  if level ≤ maxLevel then level.toUInt8 else 1

/-- The tone with a name, blue for other names. -/
def Tone.ofName : String → Tone
  | "red" => red
  | "green" => green
  | "orange" => orange
  | "gray" => gray
  | _ => blue

/-! ## 3. Charts -/

def Number.toFloat : Number → Float
  | natural n => n.toFloat
  | negative n => n.toFloat
  | float x => x

/-- The number that a value gives for a chart: a number, or a string that writes one. -/
def chartNumber? : Json → Option Float
  | .number n => some n.toFloat
  | .string s => Decimal.float? (Text.trim s).toList
  | _ => none

/-- The value of a point, zero if there is none or it is not finite. -/
def chartValue (value : Option Json) : Float :=
  ((value.bind chartNumber?).filter Float.isFinite).getD 0

/-- The point that an object gives; other values give none. -/
def Point.ofJson? : Json → Option Point
  | .object members =>
    let name := match members.lookup "name" with
      | some (.string s) => s
      | some (.number n) => n.text
      | _ => ""
    some ⟨name, chartValue (members.lookup "value")⟩
  | _ => none

/-- How a chart asks to be drawn, under one of two keys. -/
def chartKind (props : Props) : ChartKind :=
  if (props.string? "chartType").or (props.string? "type") = some "line" then .line else .bar

/-! ## 4. Displays -/

/-- The leaf of a component that only shows its properties. -/
def Leaf.ofDisplay (display : Display) (props : Props) (theme : Theme) : Leaf :=
  match display with
  | .paragraph => .paragraph (props.text "content")
  | .heading => .heading (props.text "text") (headingLevel props)
  | .remark =>
    .remark (props.text "label") (props.text "content")
      (((props.string? "color").map Tone.ofName).getD .blue)
  | .labeledValue => .labeledValue (props.text "label") (props.text "value")
  | .rule => .rule
  | .chart => .chart (chartKind props) theme.primary ((props.items "data").filterMap Point.ofJson?)

/-! ## 5. Fields -/

/-- What a field shows and what it writes to. -/
structure Slot where
  value : String
  binding : Option FieldRef

/-- The people that can be chosen. -/
def people : List Person :=
  [⟨"user_1", "Alice Freeman"⟩, ⟨"user_2", "Bob Robertson"⟩, ⟨"user_3", "Charlie Davis"⟩]

/-- The leaf of a component that edits a field. -/
def Leaf.ofEditor (editor : Editor) (props : Props) (theme : Theme) (slot : Slot) : Leaf :=
  match editor with
  | .text =>
    .textInput (props.text "label") (props.string? "placeholder") (props.flag "multiline")
      slot.value theme.primary slot.binding
  | .date => .dateInput (props.text "label") slot.value slot.binding
  | .person =>
    .personSelect (props.text "label") people
      (if slot.value = "" then none else some slot.value) slot.binding

/-! ## 6. Buttons -/

/-- The variant that a value names: primary without a value, and ghost for what names none. -/
def Variant.ofJson : Option Json → Variant
  | none => primary
  | some (.string "primary") => primary
  | some (.string "secondary") => secondary
  | some (.string "danger") => danger
  | some _ => ghost

/-- The part of a shadow in front of its color. -/
def shadowOffset : String := "0 10px 15px -3px "

/-- The colors of a variant.  Only the primary one takes the color of the pass. -/
def Paint.ofVariant (variant : Variant) (theme : Theme) : Paint :=
  match variant with
  | .primary => ⟨theme.primary, "#ffffff", none, some (shadowOffset ++ theme.primary ++ "20")⟩
  | .secondary => ⟨"#ffffff", "#334155", some "#e2e8f0", none⟩
  | .danger => ⟨"#fef2f2", "#dc2626", some "#fee2e2", none⟩
  | .ghost => ⟨"transparent", "#64748b", none, none⟩

def isSubmit (props : Props) : Bool := props.flag "isSubmit"

/-- What a click on a button asks the host to do. -/
def clickIntent (props : Props) : Option String :=
  ((props.string? "onClick").map Text.trim).filter (· ≠ "")

/-- The leaf of a button that submits a form, or none. -/
def Leaf.ofButton (props : Props) (theme : Theme) (submits : Option FormKey) : Leaf :=
  let variant := Variant.ofJson (props.get? "variant")
  .button (props.text "label") variant (Paint.ofVariant variant theme) submits (clickIntent props)

end FormCard
