import FormCard.Proofs.Preview
import FormCard.CommandLine
import Mathlib.Data.List.Induction

/-!
# Which assignments decide

The command line enters all values and clicks all buttons before it prints the card, and shows the
card after each of these events.  One would hope that the card at the end can be understood without
going through all this.  It can.  The card at the end knows nothing of the clicks, and of the
assignments it knows the last one for each field.

Assignments name components, and what counts are fields.  Two components may edit one field, two
assignments to one component may be to the same field, and some name nothing at all.  Which field an
assignment goes to is told by the first output, and it does not change on the way, since entering
values changes no control (`Output.control?_entered`).

* `Output.filled` is an output after values were entered, told from the last value of each field.
* `Output.foldl_after`: events fill the output that they start from.
* `clicks_and_order_do_not_show`: so the card at the end does not depend on the clicks, nor on the
  order of assignments that go to different fields.

The heart of it is that entering one value more fills an output with the value appended
(`Output.entered_filled`).  It holds leaf by leaf, because a leaf shows its own field and a form
asks whether any of its fields was entered.
-/

namespace FormCard

open CommandLine

/-! ## 1. The last value of each field -/

/-- Values that were entered into fields, the first one first. -/
abbrev Entries := List (FieldRef × Json)

namespace Entries

/-- The value that was entered into a field last. -/
def last? (entries : Entries) (target : FieldRef) : Option Json :=
  (entries.filter fun entry => entry.1 = target).getLast?.map Prod.snd

/-- Whether a value was entered into some field of a form. -/
def touches (entries : Entries) (form : FormKey) : Bool :=
  entries.any fun entry => entry.1.form = form

theorem last?_concat (entries : Entries) (target other : FieldRef) (value : Json) :
    last? (entries ++ [(target, value)]) other
      = if target = other then some value else last? entries other := by
  by_cases same : target = other
  · simp [last?, same]
  · simp [last?, same]

theorem touches_concat (entries : Entries) (target : FieldRef) (value : Json) (form : FormKey) :
    touches (entries ++ [(target, value)]) form = (touches entries form || target.form = form) := by
  simp [touches]

/-- A field has a last value exactly if a value was entered into it. -/
theorem isSome_last?_iff {entries : Entries} {target : FieldRef} :
    (last? entries target).isSome = true ↔ ∃ entry ∈ entries, entry.1 = target := by
  rw [last?, Option.isSome_map, Option.isSome_iff_ne_none, ne_eq, List.getLast?_eq_none_iff,
    List.filter_eq_nil_iff]
  simp

/-- A form is touched exactly if one of its fields has a last value. -/
theorem touches_iff {entries : Entries} {form : FormKey} :
    touches entries form = true ↔ ∃ field, (last? entries ⟨form, field⟩).isSome = true := by
  simp only [touches, List.any_eq_true, decide_eq_true_eq, isSome_last?_iff]
  constructor
  · rintro ⟨⟨⟨own, field⟩, value⟩, mem, rfl⟩
    exact ⟨field, _, mem, rfl⟩
  · rintro ⟨field, entry, mem, eq⟩
    exact ⟨entry, mem, congrArg FieldRef.form eq⟩

/-- Entries with the same last values touch the same forms. -/
theorem touches_congr {entries others : Entries}
    (same : ∀ target, last? entries target = last? others target) (form : FormKey) :
    touches entries form = touches others form := by
  rw [Bool.eq_iff_iff, touches_iff, touches_iff]
  simp only [same]

end Entries

/-! ## 2. Values in an output -/

namespace Leaf

/-- A leaf that shows the last value of its field, where there is one. -/
def filled (last : FieldRef → Option Json) (leaf : Leaf) : Leaf :=
  match leaf.target?.bind last with
  | some value => leaf.showing value.fieldText
  | none => leaf

end Leaf

/-- A form is shown as edited if it was touched. -/
def Frame.filled (touched : FormKey → Bool) : Frame → Frame
  | form own destination state => form own destination (if touched own then .edited else state)
  | frame => frame

namespace View

mutual

/-- A view that shows the last values of its fields. -/
def filled (last : FieldRef → Option Json) (touched : FormKey → Bool) : View → View
  | leaf id style content => leaf id style (content.filled last)
  | frame id style content children =>
    frame id style (content.filled touched) (filledAll last touched children)
termination_by structural view => view

def filledAll (last : FieldRef → Option Json) (touched : FormKey → Bool) : List View → List View
  | [] => []
  | view :: views => filled last touched view :: filledAll last touched views
termination_by structural views => views

end

end View

namespace Output

/-- An output after values were entered: each field shows the last of its values, the forms with
such a field are edited, and everything else is as it was. -/
def filled (entries : Entries) : Output → Output
  | card title primary header body =>
    card title primary header
      (View.filledAll (Entries.last? entries) (Entries.touches entries) body)
  | broken reason => broken reason

/-- **Only the last value of each field counts.** -/
theorem filled_congr {entries others : Entries}
    (same : ∀ target, Entries.last? entries target = Entries.last? others target)
    (output : Output) : output.filled entries = output.filled others := by
  cases output with
  | broken reason => rfl
  | card title primary header body =>
    rw [filled, filled, funext same, funext (Entries.touches_congr same)]

end Output

/-! ## 3. One value more -/

namespace Leaf

@[simp] theorem target?_showing (leaf : Leaf) (text : String) :
    (leaf.showing text).target? = leaf.target? := by
  cases leaf <;> rfl

@[simp] theorem showing_showing (leaf : Leaf) (text later : String) :
    (leaf.showing text).showing later = leaf.showing later := by
  cases leaf <;> rfl

theorem entered_filled (entries : Entries) (target : FieldRef) (value : Json) (leaf : Leaf) :
    (leaf.filled (Entries.last? entries)).entered target value
      = leaf.filled (Entries.last? (entries ++ [(target, value)])) := by
  unfold filled entered
  cases own : leaf.target? with
  | none => simp [own]
  | some field =>
    simp only [Option.bind_some, Entries.last?_concat]
    by_cases same : target = field
    · cases Entries.last? entries field <;> simp [own, same]
    · cases Entries.last? entries field <;> simp [own, same, Ne.symm same]

/-- A leaf takes the same events whatever it shows. -/
theorem control?_entered (target : FieldRef) (value : Json) (leaf : Leaf) :
    (leaf.entered target value).control? = leaf.control? := by
  unfold entered
  split
  · cases leaf <;> rfl
  · rfl

end Leaf

theorem Frame.entered_filled (entries : Entries) (target : FieldRef) (value : Json)
    (frame : Frame) :
    (frame.filled (Entries.touches entries)).entered target.form
      = frame.filled (Entries.touches (entries ++ [(target, value)])) := by
  cases frame with
  | region => rfl
  | grid cols gap => rfl
  | form own destination state =>
    simp only [filled, entered, Entries.touches_concat]
    by_cases same : own = target.form
    · simp [same]
    · simp [same, Ne.symm same]

namespace View

mutual

theorem entered_filled (entries : Entries) (target : FieldRef) (value : Json) : (view : View) →
    (view.filled (Entries.last? entries) (Entries.touches entries)).entered target value
      = view.filled (Entries.last? (entries ++ [(target, value)]))
          (Entries.touches (entries ++ [(target, value)]))
  | leaf id style content => by
    simp only [filled, entered, content.entered_filled]
  | frame id style content children => by
    simp only [filled, entered, content.entered_filled entries target value,
      enteredAll_filledAll entries target value children]

theorem enteredAll_filledAll (entries : Entries) (target : FieldRef) (value : Json) :
    (views : List View) →
    enteredAll target value (filledAll (Entries.last? entries) (Entries.touches entries) views)
      = filledAll (Entries.last? (entries ++ [(target, value)]))
          (Entries.touches (entries ++ [(target, value)])) views
  | [] => rfl
  | view :: views => by
    simp only [filledAll, enteredAll, entered_filled entries target value view,
      enteredAll_filledAll entries target value views]

end

mutual

theorem filled_nil : (view : View) →
    view.filled (Entries.last? []) (Entries.touches []) = view
  | leaf id style content => by
    have own : content.filled (Entries.last? []) = content := by
      unfold Leaf.filled
      cases content.target? <;> rfl
    simp only [filled, own]
  | frame id style content children => by
    have own : content.filled (Entries.touches []) = content := by cases content <;> rfl
    simp only [filled, own, filledAll_nil children]

theorem filledAll_nil : (views : List View) →
    filledAll (Entries.last? []) (Entries.touches []) views = views
  | [] => rfl
  | view :: views => by simp only [filledAll, filled_nil view, filledAll_nil views]

end

/-- A view takes the same events whatever was entered. -/
theorem control?_entered (target : FieldRef) (value : Json) (id : String) (view : View) :
    control? id (view.entered target value) = control? id view := by
  cases view with
  | leaf own style content => simp only [entered, control?, content.control?_entered]
  | frame own style content children => rfl

mutual

theorem preorder_entered (target : FieldRef) (value : Json) : (view : View) →
    (view.entered target value).preorder = view.preorder.map (entered target value)
  | leaf id style content => rfl
  | frame id style content children => by
    simp only [entered, preorder, List.map_cons, preorderAll_enteredAll target value children]

theorem preorderAll_enteredAll (target : FieldRef) (value : Json) : (views : List View) →
    preorderAll (enteredAll target value views) = (preorderAll views).map (entered target value)
  | [] => rfl
  | view :: views => by
    simp only [enteredAll, preorderAll, List.map_append, preorder_entered target value view,
      preorderAll_enteredAll target value views]

end

end View

namespace Output

/-- **A value that is entered replaces the last value of its field.** -/
theorem entered_filled (entries : Entries) (target : FieldRef) (value : Json) (output : Output) :
    (output.filled entries).entered target value
      = output.filled (entries ++ [(target, value)]) := by
  cases output with
  | broken reason => rfl
  | card title primary header body =>
    rw [filled, entered, View.enteredAll_filledAll entries target value body, filled]

theorem filled_nil (output : Output) : output.filled [] = output := by
  cases output with
  | broken reason => rfl
  | card title primary header body => rw [filled, View.filledAll_nil]

theorem control?_entered (target : FieldRef) (value : Json) (output : Output) (id : String) :
    (output.entered target value).control? id = output.control? id := by
  cases output with
  | broken reason => rfl
  | card title primary header body =>
    have same : View.control? id ∘ View.entered target value = View.control? id :=
      funext (View.control?_entered target value id)
    simp only [control?, View.lastControl?, Output.body, entered, View.preorderAll_enteredAll,
      List.filterMap_map, same]

/-- **An output takes the same events whatever was entered.** -/
theorem control?_filled (output : Output) (entries : Entries) (id : String) :
    (output.filled entries).control? id = output.control? id := by
  induction entries using List.reverseRecOn with
  | nil => rw [filled_nil]
  | append_singleton entries entry ih => rw [← entered_filled, control?_entered, ih]

/-! ## 4. Events fill an output -/

/-- The field that a change under an id goes to. -/
def target? (output : Output) (id : String) : Option FieldRef :=
  match output.control? id with
  | some (.field target) => target
  | _ => none

/-- What an event enters, if it does. -/
def entry? (output : Output) : Event → Option (FieldRef × Json)
  | .change id value => (output.target? id).map fun target => (target, value)
  | .click _ => none

def entries (output : Output) (sets : List (String × String)) : Entries :=
  sets.filterMap fun set => (output.target? set.1).map fun target => (target, .string set.2)

theorem after_filled (output : Output) (entries : Entries) (event : Event) :
    (output.filled entries).after event
      = output.filled (entries ++ (output.entry? event).toList) := by
  cases event with
  | click id => simp [after, entry?]
  | change id value =>
    simp only [after, entry?, target?, control?_filled]
    rcases output.control? id with _ | ⟨_ | target⟩ | ⟨submits, intent⟩
    · simp
    · simp
    · simp [entered_filled]
    · simp

/-- **Events fill the output that they start from.** -/
theorem foldl_after (output : Output) (events : List Event) :
    events.foldl after output = output.filled (events.filterMap output.entry?) := by
  have later (entries : Entries) :
      events.foldl after (output.filled entries)
        = output.filled (entries ++ events.filterMap output.entry?) := by
    induction events generalizing entries with
    | nil => simp
    | cons event events ih =>
      rw [List.foldl_cons, after_filled, ih, List.append_assoc]
      cases entry : output.entry? event <;> simp [entry]
  simpa [filled_nil] using later []

theorem entries_eq (output : Output) (options : Options) :
    options.events.filterMap output.entry? = output.entries options.sets := by
  have clicks : output.entry? ∘ Event.click = fun _ => none := rfl
  have sets : (output.entry? ∘ fun set : String × String => .change set.1 (.string set.2))
      = fun set => (output.target? set.1).map fun target => (target, .string set.2) := rfl
  rw [Options.events, List.filterMap_append, List.filterMap_map, List.filterMap_map, clicks, sets,
    List.filterMap_none, List.append_nil, entries]

/-- **The last value of a field is that of the last assignment that goes to it.** -/
theorem last?_entries (output : Output) (sets : List (String × String)) (target : FieldRef) :
    Entries.last? (output.entries sets) target
      = (sets.filter fun set => output.target? set.1 = some target).getLast?.map
          fun set => .string set.2 := by
  have kept : (output.entries sets).filter (fun entry => entry.1 = target)
      = (sets.filter fun set => output.target? set.1 = some target).map
          fun set => (target, .string set.2) := by
    induction sets with
    | nil => rfl
    | cons set sets ih =>
      unfold entries at ih ⊢
      cases own : output.target? set.1 with
      | none => simp [own, ih]
      | some field =>
        by_cases same : field = target
        · simp [own, same, ih]
        · simp [own, same, ih]
  rw [Entries.last?, kept, List.getLast?_map, Option.map_map]
  rfl

end Output

/-! ## 5. Main statement -/

/-- **Clicks and the order of independent assignments do not show.**  In a run over a source, an
assignment goes to the same field at any time: to the one that the first card shows under its id.
The card at the end is the first card after each field took the value of the last assignment that
goes to it.  Hence it is the same without the clicks or with others, and the same for all lists of
assignments in which those that go to one field stand in the same order, as after a permutation that
keeps their order.  A broken source stays broken whatever happens. -/
theorem clicks_and_order_do_not_show (primary : String) (source : Source) (options : Options) :
    let first := ((Renderer.new primary).render source).1
    let final (options : Options) := (Preview.play primary source options.events).output
    let goingTo (target : FieldRef) (sets : List (String × String)) :=
      sets.filter fun set => first.target? set.1 = some target
    (∀ before id value,
      ((Preview.play primary source before).renderer.handle Sink.ignoring () (.change id value)).1
        = (first.target? id).elim .ignored fun target => .fieldUpdated target.form target.field)
    ∧ final options = first.filled (first.entries options.sets)
    ∧ (∀ target, Entries.last? (first.entries options.sets) target
      = (goingTo target options.sets).getLast?.map fun set => .string set.2)
    ∧ (∀ clicks, final { options with clicks } = final options)
    ∧ (∀ sets, (∀ target, goingTo target sets = goingTo target options.sets) →
      final { options with sets } = final options)
    ∧ ∀ reason, source = .broken reason → final options = .broken reason := by
  intro first final goingTo
  have filled (options : Options) : final options = first.filled (first.entries options.sets) := by
    simp only [final, Preview.output_play, Output.foldl_after, Output.entries_eq, first]
  refine ⟨?_, filled options, first.last?_entries options.sets, ?_, ?_, ?_⟩
  · intro before id value
    rw [Preview.result_play, Renderer.result_change]
    unfold Output.target?
    rcases ((Renderer.new primary).render source).1.control? id
      with _ | ⟨_ | target⟩ | ⟨submits, intent⟩
    · rfl
    · rfl
    · rfl
    · rfl
  · intro clicks
    rw [filled, filled]
  · intro sets same
    rw [filled, filled]
    apply Output.filled_congr
    intro target
    rw [Output.last?_entries, Output.last?_entries]
    exact congrArg (fun going => going.getLast?.map fun set => Json.string set.2) (same target)
  · rintro reason rfl
    rw [filled]
    rfl

end FormCard
