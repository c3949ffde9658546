import FormCard.Proofs.Alike
import FormCard.Proofs.Tint

/-!
# What the JSON value of an output keeps

Rendered cards are handed on as JSON values, and whoever reads one has nothing else.  So the value
should tell everything.  That is less obvious than it looks.  The value of a view is one flat object
for its id, its style and all that is shown, what is absent has no member, and the reader of JSON
that is used at the other end may not keep members in order.

* `Output.alike_toJson`: the values of two outputs say the same exactly if the outputs are the same,
  up to values of charts that count as the same number.
* `Output.keyed_toJson`: no object inside has a key twice, so none of its members hides another one.
* `serialization_loses_nothing` says so of rendered outputs, whose charts have finite values only.
  Other values would all be written as null.

Each writer has its own lemma, in the form of an iff, and they are put together as the writers are.
Leaves are told apart by their names first, which are different for different sorts
(`Leaf.name_ne_name`); then their members are compared one by one.  Numbers are compared by a
parameter, since a value of a chart is written as a decimal and may be read in several ways; what is
asked of the comparison is that it tells natural numbers apart.
-/

namespace FormCard

open Json Members

variable {comparison : Comparison}

/-! ## 1. Outputs that are the same -/

/-- Two points are the same, up to how their values are compared. -/
def Point.Alike (comparison : Comparison) (point other : Point) : Prop :=
  point.name = other.name ∧ comparison.Same (.float point.value) (.float other.value)

/-- Two leaves are the same, up to how the values of charts are compared. -/
def Leaf.Alike (comparison : Comparison) : Leaf → Leaf → Prop
  | chart kind color points, chart kind' color' points' =>
    kind = kind' ∧ color = color' ∧ List.Forall₂ (Point.Alike comparison) points points'
  | leaf, other => leaf = other

namespace View

mutual

/-- Two views are the same, up to how the values of charts are compared. -/
def Alike (comparison : Comparison) : View → View → Prop
  | leaf id style content, leaf id' style' content' =>
    id = id' ∧ style = style' ∧ content.Alike comparison content'
  | frame id style content children, frame id' style' content' children' =>
    id = id' ∧ style = style' ∧ content = content' ∧ AlikeAll comparison children children'
  | _, _ => False
termination_by structural view => view

/-- Two lists of views are the same, up to how the values of charts are compared. -/
def AlikeAll (comparison : Comparison) : List View → List View → Prop
  | [], [] => True
  | view :: views, other :: others => Alike comparison view other ∧ AlikeAll comparison views others
  | _, _ => False
termination_by structural views => views

end

end View

/-- Two outputs are the same, up to how the values of charts are compared. -/
def Output.Alike (comparison : Comparison) : Output → Output → Prop
  | card title primary header body, card title' primary' header' body' =>
    title = title' ∧ primary = primary' ∧ header = header' ∧ View.AlikeAll comparison body body'
  | broken reason, broken reason' => reason = reason'
  | _, _ => False

/-! ## 2. Parts -/

theorem Tone.name_injective : Function.Injective Tone.name := by
  intro tone other same
  cases tone <;> cases other <;> first | rfl | simp [name] at same

theorem ChartKind.name_injective : Function.Injective ChartKind.name := by
  intro kind other same
  cases kind <;> cases other <;> first | rfl | simp [name] at same

theorem Variant.name_injective : Function.Injective Variant.name := by
  intro variant other same
  cases variant <;> cases other <;> first | rfl | simp [name] at same

theorem FormState.name_injective : Function.Injective FormState.name := by
  intro state other same
  cases state <;> cases other <;> first | rfl | simp [name] at same

theorem Point.alike_toJson {point other : Point} :
    Json.Alike comparison point.toJson other.toJson ↔ point.Alike comparison other := by
  simp [toJson, textMember, Alike]

theorem Person.telling : Telling Person.toJson := by
  rintro comparison ⟨id, name⟩ ⟨id', name'⟩
  simp [toJson, textMember]

theorem FieldRef.telling : Telling FieldRef.toJson := by
  rintro comparison ⟨form, field⟩ ⟨form', field'⟩
  simp [toJson, textMember]

theorem Paint.telling : Telling Paint.toJson := by
  rintro comparison ⟨background, foreground, border, shadow⟩
    ⟨background', foreground', border', shadow'⟩
  simp [toJson, textMember, textMember?, Telling.text.option]

theorem Header.telling : Telling Header.toJson := by
  -- both sorts of headers name themselves under the same key
  rintro comparison (⟨start, finish⟩ | stops) (⟨start', finish'⟩ | stops')
  all_goals simp [toJson, textMember]

/-- A level is written as the number that it is. -/
theorem telling_level : Telling fun level : UInt8 => .ofNat level.toNat := by
  intro comparison level other
  have small (n : UInt8) : n.toNat < UInt64.size := Nat.lt_trans n.toNat_lt (by decide)
  rw [alike_ofNat (small level) (small other), UInt8.toNat_inj]

/-- A measure is written as the number that it is. -/
theorem telling_measure : Telling fun measure : UInt32 => .ofNat measure.toNat := by
  intro comparison measure other
  have small (n : UInt32) : n.toNat < UInt64.size := Nat.lt_trans n.toNat_lt (by decide)
  rw [alike_ofNat (small measure) (small other), UInt32.toNat_inj]

/-! ## 3. Leaves and frames -/

namespace Leaf

/-- **The fields of leaves with the same name tell them apart.** -/
theorem alike_members {leaf other : Leaf} (same : leaf.name = other.name) :
    Json.Alike comparison (.object leaf.members) (.object other.members)
      ↔ leaf.Alike comparison other := by
  -- a leaf of another sort has another name, so only one case of the other leaf is left
  cases leaf with
  | heading text level =>
    cases other <;> simp [name] at same
    simp [members, textMember, telling_level comparison _ _, Alike]
  | paragraph content =>
    cases other <;> simp [name] at same
    simp [members, textMember, Alike]
  | remark label content tone =>
    cases other <;> simp [name] at same
    simp [members, textMember, Tone.name_injective.eq_iff, Alike]
  | labeledValue label value =>
    cases other <;> simp [name] at same
    simp [members, textMember, Alike]
  | rule =>
    cases other <;> simp [name] at same
    simp [members, Alike]
  | chart kind color points =>
    cases other <;> simp [name] at same
    simp [members, textMember, ChartKind.name_injective.eq_iff, Point.alike_toJson, Alike]
  | textInput label placeholder multiline value accent binding =>
    cases other <;> simp [name] at same
    simp [members, textMember, textMember?, Telling.text.option, FieldRef.telling.option, Alike]
  | dateInput label value binding =>
    cases other <;> simp [name] at same
    simp [members, textMember, FieldRef.telling.option, Alike]
  | personSelect label options selected binding =>
    cases other <;> simp [name] at same
    simp [members, textMember, textMember?, Telling.text.option, FieldRef.telling.option,
      Person.telling comparison _ _, Alike]
  | button label variant paint submits intent =>
    cases other <;> simp [name] at same
    simp [members, textMember, textMember?, Variant.name_injective.eq_iff, Telling.text.option,
      Paint.telling comparison _ _, Alike]
  | unsupported tag =>
    cases other <;> simp [name] at same
    simp [members, textMember, Alike]

/-- Leaves that are the same have the same name. -/
theorem Alike.name_eq {leaf other : Leaf} (same : leaf.Alike comparison other) :
    leaf.name = other.name := by
  unfold Alike at same
  split at same
  · rfl
  · exact congrArg name same

/-- **The name and the fields of a leaf tell all that it shows.** -/
theorem alike_named {leaf other : Leaf} :
    leaf.name = other.name ∧ Json.Alike comparison (.object leaf.members) (.object other.members)
      ↔ leaf.Alike comparison other := by
  constructor
  · rintro ⟨name, members⟩
    exact (alike_members name).1 members
  · intro same
    exact ⟨same.name_eq, (alike_members same.name_eq).2 same⟩

theorem alike_exact {leaf other : Leaf} : leaf.Alike .exact other ↔ leaf = other := by
  unfold Alike
  split
  · rename_i kind color points kind' color' points'
    have same : Point.Alike .exact = Eq := by
      funext point other
      cases point
      cases other
      simp [Point.Alike, Comparison.exact]
    rw [same, List.forall₂_eq_eq_eq, chart.injEq]
  · rfl

/-- No field of a leaf has the key of a member that all views have. -/
theorem not_mem_keys (leaf : Leaf) : ∀ key ∈ ["id", "style", "primitive"],
    key ∉ leaf.members.map Prod.fst := by
  cases leaf <;> simp [members, textMember, textMember?]

end Leaf

namespace Frame

variable {children children' : Json}

/-- **The fields of frames with the same name tell them and the views inside apart.** -/
theorem alike_members {frame other : Frame} (same : frame.name = other.name) :
    Json.Alike comparison (.object (frame.members ++ [("children", children)]))
        (.object (other.members ++ [("children", children')]))
      ↔ frame = other ∧ Json.Alike comparison children children' := by
  cases frame with
  | region =>
    cases other <;> simp [name] at same
    simp [members]
  | grid cols gap =>
    cases other <;> simp [name] at same
    simp [members, telling_measure comparison _ _, and_assoc]
  | form scope destination state =>
    cases other <;> simp [name] at same
    simp [members, textMember, textMember?, Telling.text.option, FormState.name_injective.eq_iff,
      and_assoc]

/-- **The name and the fields of a frame tell the frame and the views inside.** -/
theorem alike_named {frame other : Frame} :
    frame.name = other.name
        ∧ Json.Alike comparison (.object (frame.members ++ [("children", children)]))
          (.object (other.members ++ [("children", children')]))
      ↔ frame = other ∧ Json.Alike comparison children children' := by
  constructor
  · rintro ⟨name, members⟩
    exact (alike_members name).1 members
  · rintro ⟨rfl, inside⟩
    exact ⟨rfl, (alike_members rfl).2 ⟨rfl, inside⟩⟩

theorem not_mem_keys (frame : Frame) : ∀ key ∈ ["id", "style", "primitive"],
    key ∉ (frame.members ++ [("children", children)]).map Prod.fst := by
  cases frame <;> simp [members, textMember, textMember?]

end Frame

/-- A leaf never has the name of a frame. -/
theorem Leaf.name_ne_name (leaf : Leaf) (frame : Frame) : leaf.name ≠ frame.name := by
  cases leaf <;> cases frame <;> simp [name, Frame.name]

/-! ## 4. Views and outputs -/

namespace View

/-- **What all views have is told apart from what a view shows:** the members for the one do not
have the keys of the others. -/
theorem alike_headMembers {id id' name name' : String} {style style' : Option String}
    {members others : List (String × Json)}
    (free : ∀ key ∈ ["id", "style", "primitive"], key ∉ members.map Prod.fst)
    (free' : ∀ key ∈ ["id", "style", "primitive"], key ∉ others.map Prod.fst) :
    Json.Alike comparison (.object (headMembers id style name ++ members))
        (.object (headMembers id' style' name' ++ others))
      ↔ id = id' ∧ style = style' ∧ name = name'
        ∧ Json.Alike comparison (.object members) (.object others) := by
  simp only [List.forall_mem_cons] at free free'
  simp [headMembers, textMember, textMember?, Telling.text.option, free, free']

mutual

/-- **The values of two views say the same exactly if the views are the same.** -/
theorem alike_toJson : (view other : View) →
    (Json.Alike comparison view.toJson other.toJson ↔ view.Alike comparison other)
  | leaf id style content, leaf id' style' content' => by
    rw [toJson, toJson, alike_headMembers content.not_mem_keys content'.not_mem_keys, Alike]
    rw [Leaf.alike_named]
  | leaf id style content, frame id' style' content' children' => by
    rw [toJson, toJson, List.append_assoc,
      alike_headMembers content.not_mem_keys content'.not_mem_keys]
    simp [content.name_ne_name content', Alike]
  | frame id style content children, leaf id' style' content' => by
    rw [toJson, toJson, List.append_assoc,
      alike_headMembers content.not_mem_keys content'.not_mem_keys]
    simp [(content'.name_ne_name content).symm, Alike]
  | frame id style content children, frame id' style' content' children' => by
    rw [toJson, toJson, List.append_assoc, List.append_assoc,
      alike_headMembers content.not_mem_keys content'.not_mem_keys, Alike]
    rw [Frame.alike_named, alike_array, alike_toItems children children']

theorem alike_toItems : (views others : List View) →
    (List.Forall₂ (Json.Alike comparison) (toItems views) (toItems others)
      ↔ AlikeAll comparison views others)
  | [], [] => by simp [toItems, AlikeAll]
  | [], other :: others => by simp [toItems, AlikeAll]
  | view :: views, [] => by simp [toItems, AlikeAll]
  | view :: views, other :: others => by
    rw [toItems, toItems, List.forall₂_cons, AlikeAll, alike_toJson view other,
      alike_toItems views others]

end

mutual

theorem alike_exact : (view other : View) → (view.Alike .exact other ↔ view = other)
  | leaf id style content, leaf id' style' content' => by
    rw [Alike, Leaf.alike_exact, View.leaf.injEq]
  | leaf id style content, frame id' style' content' children' => by simp [Alike]
  | frame id style content children, leaf id' style' content' => by simp [Alike]
  | frame id style content children, frame id' style' content' children' => by
    rw [Alike, alikeAll_exact children children', View.frame.injEq]

theorem alikeAll_exact : (views others : List View) →
    (AlikeAll .exact views others ↔ views = others)
  | [], [] => by simp [AlikeAll]
  | [], other :: others => by simp [AlikeAll]
  | view :: views, [] => by simp [AlikeAll]
  | view :: views, other :: others => by
    rw [AlikeAll, alike_exact view other, alikeAll_exact views others, List.cons.injEq]

end

end View

namespace Output

/-- **The values of two outputs say the same exactly if the outputs are the same.** -/
theorem alike_toJson (output other : Output) :
    Json.Alike comparison output.toJson other.toJson ↔ output.Alike comparison other := by
  cases output with
  | card title primary header body =>
    cases other with
    | card title' primary' header' body' =>
      simp [toJson, textMember, Header.telling comparison _ _, View.alike_toItems, Alike]
    | broken reason' => simp [toJson, textMember, Alike]
  | broken reason =>
    cases other with
    | card title' primary' header' body' => simp [toJson, textMember, Alike]
    | broken reason' => simp [toJson, textMember, Alike]

theorem alike_exact (output other : Output) : output.Alike .exact other ↔ output = other := by
  cases output <;> cases other <;> simp [Alike, View.alikeAll_exact]

end Output

/-! ## 5. Keys -/

@[simp] theorem Point.keyed_toJson (point : Point) : Keyed point.toJson := by
  simp [toJson, textMember]

@[simp] theorem Person.keyed_toJson (person : Person) : Keyed person.toJson := by
  simp [toJson, textMember]

@[simp] theorem FieldRef.keyed_toJson (binding : FieldRef) : Keyed binding.toJson := by
  simp [toJson, textMember]

@[simp] theorem Paint.keyed_toJson (paint : Paint) : Keyed paint.toJson := by
  simp [toJson, textMember, textMember?]

@[simp] theorem Header.keyed_toJson (header : Header) : Keyed header.toJson := by
  cases header <;> simp [toJson, textMember]

theorem Leaf.keyed_members (leaf : Leaf) : Keyed (.object leaf.members) := by
  cases leaf <;> simp [members, textMember, textMember?, ofNat]

theorem Frame.keyed_members (frame : Frame) {children : Json} (each : Keyed children) :
    Keyed (.object (frame.members ++ [("children", children)])) := by
  cases frame <;> simp [members, textMember, textMember?, ofNat, each]

namespace View

theorem keyed_headMembers {id name : String} {style : Option String}
    {members : List (String × Json)}
    (free : ∀ key ∈ ["id", "style", "primitive"], key ∉ members.map Prod.fst)
    (each : Keyed (.object members)) :
    Keyed (.object (headMembers id style name ++ members)) := by
  simp only [List.forall_mem_cons] at free
  simp [headMembers, textMember, textMember?, free, each]

mutual

/-- **No key is twice in the object of a view,** nor in one of the objects inside. -/
theorem keyed_toJson : (view : View) → Keyed view.toJson
  | leaf id style content => by
    rw [toJson]
    exact keyed_headMembers content.not_mem_keys content.keyed_members
  | frame id style content children => by
    rw [toJson, List.append_assoc]
    exact keyed_headMembers content.not_mem_keys
      (content.keyed_members (.array (keyed_toItems children)))

theorem keyed_toItems : (views : List View) → ∀ item ∈ toItems views, Keyed item
  | [] => by simp [toItems]
  | view :: views => by
    rw [toItems]
    exact List.forall_mem_cons.2 ⟨keyed_toJson view, keyed_toItems views⟩

end

end View

theorem Output.keyed_toJson (output : Output) : Keyed output.toJson := by
  cases output with
  | card title primary header body =>
    have views := View.keyed_toItems body
    simpa [toJson, textMember] using views
  | broken reason => simp [toJson, textMember]

/-! ## 6. Numbers -/

theorem isFinite_chartValue (value : Option Json) : (chartValue value).isFinite = true := by
  unfold chartValue
  cases number : (value.bind chartNumber?).filter Float.isFinite with
  | none => decide
  | some x => exact (Option.filter_eq_some_iff.1 number).2

theorem Point.isFinite_of_ofJson? {entry : Json} {point : Point}
    (read : ofJson? entry = some point) : point.value.isFinite = true := by
  cases entry with
  | object members =>
    cases read
    exact isFinite_chartValue _
  | null | bool b | number n | string s | array items => cases read

def Leaf.points : Leaf → List Point
  | chart _ _ points => points
  | _ => []

/-- **A chart of a pass has finite values only,** which JSON has numbers for. -/
theorem Leaf.MadeWith.isFinite_points {theme : Theme} {leaf : Leaf} (made : leaf.MadeWith theme) :
    ∀ point ∈ leaf.points, point.value.isFinite = true := by
  cases made with
  | display display props =>
    cases display with
    | chart =>
      intro point member
      obtain ⟨entry, _, read⟩ := List.mem_filterMap.1 member
      exact Point.isFinite_of_ofJson? read
    | paragraph | heading | remark | labeledValue | rule => exact List.forall_mem_nil _
  | editor editor props slot => cases editor <;> exact List.forall_mem_nil _
  | button props submits => exact List.forall_mem_nil _
  | unsupported tag => exact List.forall_mem_nil _

/-! ## 7. Main statement -/

/-- **The JSON value of a rendered output loses nothing.**  Render any two sources, each from any
state.  No object in the value of an output has a key twice, so what a view shows never stands in
for its id or style, and all values of charts are finite, so they are written as numbers.  The
values of the two outputs are equal exactly if the outputs are.  This does not hang on the order of
members, nor on how numbers are compared: when objects are compared key by key, and numbers by a
comparison that tells the natural ones apart, the values of the outputs say the same exactly if the
outputs are the same but for values of charts, which are the same to that comparison. -/
theorem serialization_loses_nothing (renderer renderer' : Renderer) (source source' : Source) :
    let output := (renderer.render source).1
    let other := (renderer'.render source').1
    Keyed output.toJson
    ∧ (∀ leaf ∈ output.leaves, ∀ point ∈ leaf.points, point.value.isFinite = true)
    ∧ (output.toJson = other.toJson ↔ output = other)
    ∧ ∀ comparison, Json.Alike comparison output.toJson other.toJson
      ↔ output.Alike comparison other := by
  intro output other
  refine ⟨output.keyed_toJson, ?_, ?_, fun comparison => output.alike_toJson other⟩
  · cases source with
    | ready card =>
      intro leaf member
      exact (renderer.madeWith_renderCard card leaf member).isFinite_points
    | broken reason => exact List.forall_mem_nil _
  · constructor
    · intro same
      rw [← output.alike_exact other, ← output.alike_toJson other, ← same,
        output.alike_toJson output, output.alike_exact output]
    · exact congrArg Output.toJson

end FormCard
