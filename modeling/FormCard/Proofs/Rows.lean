import FormCard.View.Outline
import FormCard.Proofs.Numeral
import FormCard.Proofs.Opacity
import Mathlib.Algebra.GroupWithZero.Nat

/-!
# The rows of an outline

The outline of a card is drawn line by line: one for the ornament, one for the title, and one for
each view.  Whoever reads it, a person or a script, has rows instead, which end at line breaks.
Rows and lines are the same as long as no line holds a line break of its own; and a line takes over
texts of the card and of the user as they are.  So whether an outline can be read depends on the
texts, and this module says on which.

* `rows_eq_iff`: lines that are written one under the other are read back exactly if none of them
  holds a line break.  Line breaks are counted to see this: there are as many as lines, and one more
  for each within a line.
* `Leaf.lineBreaks_line` and `Frame.lineBreaks_line`: the line breaks of a line are those of the
  texts that it takes over; all else in it, numbers included, is free of them.
* `View.lines_eq`: the lines are those of the views in the order of the document, each indented by
  its depth.
* `outline_has_row_for_each_view_iff`: so an outline has one row for each view exactly if no text
  that is shown holds a line break.  The number of its line breaks is known in any case.

`Leaf.texts` lists what a line takes over, for each sort of leaf.  A placeholder names its tag and a
field shows a text that a user entered, so neither the author of a card nor its users can be trusted
to keep to one line.
-/

namespace FormCard

/-! ## 1. Line breaks and rows -/

/-- The number of line breaks in a text. -/
def lineBreaks (text : String) : Nat := text.toList.count '\n'

/-- Lines one under the other, each with a line break at its end. -/
def stacked (lines : List String) : String := String.join (lines.map (· ++ "\n"))

/-- The rows of a text whose last row ends with a line break too. -/
def rows (text : String) : List String := (text.toList.splitOn '\n').dropLast.map String.ofList

theorem lineBreaks_eq_zero {text : String} : lineBreaks text = 0 ↔ '\n' ∉ text.toList :=
  List.count_eq_zero

@[simp] theorem lineBreaks_append (text more : String) :
    lineBreaks (text ++ more) = lineBreaks text + lineBreaks more := by
  simp [lineBreaks]

/-- A text without line breaks has none; for closed texts the premise is decided. -/
theorem lineBreaks_plain {text : String} (plain : '\n' ∉ text.toList) : lineBreaks text = 0 :=
  lineBreaks_eq_zero.2 plain

/-- What is put between parts does not count if it has no line break. -/
theorem lineBreaks_intercalate {separator : String} (plain : lineBreaks separator = 0)
    (parts : List String) :
    lineBreaks (separator.intercalate parts) = (parts.map lineBreaks).sum := by
  induction parts with
  | nil => rfl
  | cons part parts ih =>
    cases parts with
    | nil => simp
    | cons next parts =>
      rw [String.intercalate_cons_cons, lineBreaks_append, lineBreaks_append, plain, ih]
      simp

theorem sum_lineBreaks_eq_zero {texts : List String} :
    (texts.map lineBreaks).sum = 0 ↔ ∀ text ∈ texts, '\n' ∉ text.toList := by
  induction texts with
  | nil => simp
  | cons text texts ih =>
    rw [List.map_cons, List.sum_cons, Nat.add_eq_zero_iff, lineBreaks_eq_zero, ih,
      List.forall_mem_cons]

theorem stacked_cons (line : String) (lines : List String) :
    stacked (line :: lines) = line ++ "\n" ++ stacked lines := by
  simp [stacked]

/-- The line breaks of lines one under the other are their ends and those that they hold. -/
theorem lineBreaks_stacked (lines : List String) :
    lineBreaks (stacked lines) = lines.length + (lines.map lineBreaks).sum := by
  have own : lineBreaks "\n" = 1 := by decide
  induction lines with
  | nil => rfl
  | cons line lines ih =>
    rw [stacked_cons, lineBreaks_append, lineBreaks_append, own, ih, List.length_cons,
      List.map_cons, List.sum_cons]
    omega

/-- There is a row for each line break. -/
theorem length_rows (text : String) : (rows text).length = lineBreaks text := by
  have pieces (cs : List Char) : (cs.splitOn '\n').length = cs.count '\n' + 1 := by
    induction cs with
    | nil => rfl
    | cons c cs ih =>
      rw [List.splitOn_cons_eq_if_modifyHead]
      by_cases ends : c = '\n'
      · simp [ends, ih]
      · simp [ends, ih]
  simp [rows, lineBreaks, pieces]

/-- **Lines without line breaks are read back.** -/
theorem rows_stacked {lines : List String} (plain : ∀ line ∈ lines, '\n' ∉ line.toList) :
    rows (stacked lines) = lines := by
  have pieces : (stacked lines).toList.splitOn '\n' = lines.map String.toList ++ [[]] := by
    induction lines with
    | nil => rfl
    | cons line lines ih =>
      obtain ⟨first, others⟩ := List.forall_mem_cons.1 plain
      have split : (stacked (line :: lines)).toList
          = line.toList ++ '\n' :: (stacked lines).toList := by
        simp [stacked_cons]
      rw [split, List.splitOn_append_cons_self_of_not_mem first, ih others]
      rfl
  rw [rows, pieces, List.dropLast_concat, List.map_map]
  simp

/-- **Exactly lines without line breaks are read back.** -/
theorem rows_eq_iff {lines : List String} :
    rows (stacked lines) = lines ↔ ∀ line ∈ lines, '\n' ∉ line.toList := by
  constructor
  · intro back
    -- the ends of the lines are as many line breaks as there are rows
    have count : lineBreaks (stacked lines) = lines.length := by rw [← length_rows, back]
    rw [lineBreaks_stacked] at count
    exact sum_lineBreaks_eq_zero.1 (by omega)
  · exact rows_stacked

/-! ## 2. What a line takes over -/

/-- A text made of one character holds no line break unless that is one. -/
theorem lineBreaks_repeated {c : Char} (plain : c ≠ '\n') (n : Nat) :
    lineBreaks (repeated n c) = 0 := by
  rw [lineBreaks_eq_zero, repeated, String.toList_ofList, List.mem_replicate]
  exact fun mem => plain mem.2.symm

theorem lineBreaks_natural (n : Nat) : lineBreaks (Decimal.text n) = 0 := by
  rw [lineBreaks_eq_zero]
  intro mem
  exact absurd (Decimal.isNumeral_of_mem_natural mem) (by decide)

/-- **A point of a chart has the line breaks of its name.** -/
theorem Point.lineBreaks_text (point : Point) : lineBreaks point.text = lineBreaks point.name := by
  have number : lineBreaks (Decimal.render pointLayout point.value) = 0 := by
    rw [lineBreaks_eq_zero]
    intro mem
    rcases Decimal.mem_render mem with numeral | nan | infinity | negative
    · exact absurd numeral (by decide)
    · exact absurd nan (by decide)
    · exact absurd infinity (by decide)
    · exact absurd negative (by decide)
  have equals : lineBreaks "=" = 0 := by decide
  simp [text, number, equals]

/-- The texts that the line of a leaf takes over. -/
def Leaf.texts : Leaf → List String
  | heading text _ => [text]
  | paragraph content => [content]
  | remark label content _ => [label, content]
  | labeledValue label value => [label, value]
  | rule => []
  | chart _ color points => color :: points.map Point.name
  | textInput label placeholder _ value _ _ => [label, shownOr value (placeholder.getD "")]
  | dateInput label value _ => [label, value]
  | personSelect label options selected _ => [label, choiceText options selected]
  | button label _ _ _ _ => [label]
  | unsupported tag => [tag]

/-- The texts that the line of a frame around the component `id` takes over. -/
def Frame.texts (id : String) : Frame → List String
  | region => [id]
  | grid _ _ => [id]
  | form _ destination _ => id :: destination.toList

/-- **The line breaks of the line of a leaf are those of the texts that it takes over.** -/
theorem Leaf.lineBreaks_line (leaf : Leaf) :
    lineBreaks leaf.line = (leaf.texts.map lineBreaks).sum := by
  cases leaf with
  | heading text level =>
    simp (disch := decide) [line, texts, lineBreaks_repeated, lineBreaks_plain]
  | paragraph content => simp [line, texts]
  | remark label content tone =>
    have name : lineBreaks tone.name = 0 := by cases tone <;> decide
    simp (disch := decide) [line, texts, name, lineBreaks_plain]
  | labeledValue label value => simp (disch := decide) [line, texts, lineBreaks_plain]
  | rule => simp [line, texts, lineBreaks_repeated]
  | chart kind color points =>
    have name : lineBreaks kind.name = 0 := by cases kind <;> decide
    have series := lineBreaks_intercalate (by decide : lineBreaks ", " = 0) (points.map Point.text)
    simp (disch := decide) [line, texts, name, series, Point.lineBreaks_text, Function.comp_def,
      lineBreaks_plain]
  | textInput label placeholder multiline value accent binding =>
    cases multiline <;> simp (disch := decide) [line, texts, lineBreaks_plain]
  | dateInput label value binding =>
    by_cases none : value = "" <;>
      simp (disch := decide) [line, texts, shownOr, none, lineBreaks_plain]
  | personSelect label options selected binding =>
    simp (disch := decide) [line, texts, lineBreaks_plain]
  | button label variant paint submits intent =>
    have name : lineBreaks variant.label = 0 := by cases variant <;> decide
    cases submits <;> simp (disch := decide) [line, texts, name, lineBreaks_plain]
  | unsupported tag =>
    have label : lineBreaks (Kind.unsupportedLabel tag) = lineBreaks tag := by
      unfold Kind.unsupportedLabel
      simp (disch := decide) [lineBreaks_plain]
    simp (disch := decide) [line, texts, label, lineBreaks_plain]

/-- **The line breaks of the line of a frame are those of the texts that it takes over.** -/
theorem Frame.lineBreaks_line (id : String) (frame : Frame) :
    lineBreaks (frame.line id) = ((frame.texts id).map lineBreaks).sum := by
  cases frame with
  | region => simp (disch := decide) [line, texts, lineBreaks_plain]
  | grid cols gap => simp (disch := decide) [line, texts, lineBreaks_natural, lineBreaks_plain]
  | form scope destination state =>
    have name : lineBreaks state.label = 0 := by cases state <;> decide
    cases destination <;>
      simp (disch := decide) [line, texts, endpointText, name, lineBreaks_plain]

/-- **The line breaks of the line of an ornament are those of its colors.** -/
theorem Header.lineBreaks_line (header : Header) :
    lineBreaks header.line = (header.colors.map lineBreaks).sum := by
  cases header with
  | gradient start finish => simp (disch := decide) [line, colors, lineBreaks_plain]
  | builtIn stops =>
    have series := lineBreaks_intercalate (by decide : lineBreaks " -> " = 0) stops
    simp (disch := decide) [line, colors, series, lineBreaks_plain]

/-! ## 3. The lines of an output -/

namespace View

/-- The line of a view, without its indentation. -/
def line : View → String
  | leaf _ _ content => content.line
  | frame id _ content _ => content.line id

/-- The texts that the line of a view takes over. -/
def texts : View → List String
  | leaf _ _ content => content.texts
  | frame id _ content _ => content.texts id

mutual

/-- A view and all inside it, the outer ones first, each with the number of frames around it. -/
def leveled (depth : Nat) : View → List (Nat × View)
  | leaf id style content => [(depth, leaf id style content)]
  | frame id style content children =>
    (depth, frame id style content children) :: leveledAll (depth + 1) children
termination_by structural view => view

def leveledAll (depth : Nat) : List View → List (Nat × View)
  | [] => []
  | view :: views => leveled depth view ++ leveledAll depth views
termination_by structural views => views

end

/-- The line of a view behind two spaces for each frame around it. -/
def indented (view : Nat × View) : String := repeated (2 * view.1) ' ' ++ view.2.line

mutual

theorem map_snd_leveled (depth : Nat) :
    (view : View) → (leveled depth view).map Prod.snd = view.preorder
  | leaf id style content => rfl
  | frame id style content children => by
    simp only [leveled, preorder, List.map_cons, map_snd_leveledAll (depth + 1) children]

/-- The views come in the order of the document, each of them once. -/
theorem map_snd_leveledAll (depth : Nat) :
    (views : List View) → (leveledAll depth views).map Prod.snd = preorderAll views
  | [] => rfl
  | view :: views => by
    simp only [leveledAll, preorderAll, List.map_append, map_snd_leveled depth view,
      map_snd_leveledAll depth views]

end

mutual

theorem lines_eq (depth : Nat) :
    (view : View) → lines depth view = (leveled depth view).map indented
  | leaf id style content => rfl
  | frame id style content children => by
    simp only [lines, leveled, List.map_cons, linesAll_eq (depth + 1) children]
    rfl

/-- **The lines are those of the views,** indented by their depth. -/
theorem linesAll_eq (depth : Nat) :
    (views : List View) → linesAll depth views = (leveledAll depth views).map indented
  | [] => rfl
  | view :: views => by
    simp only [linesAll, leveledAll, List.map_append, lines_eq depth view,
      linesAll_eq depth views]

end

theorem lineBreaks_line (view : View) :
    lineBreaks view.line = (view.texts.map lineBreaks).sum := by
  cases view with
  | leaf id style content => exact content.lineBreaks_line
  | frame id style content children => exact content.lineBreaks_line id

/-- Indentation adds no line breaks. -/
theorem lineBreaks_indented (view : Nat × View) :
    lineBreaks (indented view) = (view.2.texts.map lineBreaks).sum := by
  rw [← lineBreaks_line]
  simp [indented, lineBreaks_repeated]

/-- **The line breaks of several lines are those of the texts that they take over.** -/
theorem sum_lineBreaks_indented (views : List (Nat × View)) :
    ((views.map indented).map lineBreaks).sum
      = (((views.map Prod.snd).flatMap texts).map lineBreaks).sum := by
  induction views with
  | nil => rfl
  | cons view views ih =>
    simp only [List.map_cons, List.sum_cons, List.flatMap_cons, List.map_append, List.sum_append,
      lineBreaks_indented, ih]

end View

namespace Output

/-- The texts that the outline of an output takes over: the colors of the ornament and of the title
line, the title, and what the views show. -/
def texts : Output → List String
  | card title primary header body =>
    header.colors ++ [title, primary] ++ (View.preorderAll body).flatMap View.texts
  | broken reason => [reason]

end Output

/-! ## 4. Main statement -/

/-- **An outline has one row for each view exactly if no text in it holds a line break.**  The lines
of a card are that of the ornament, that of the title, and one for each view, in the order of the
document and behind two spaces for each frame around the view; and the outline is these lines, each
with a line break at its end.  So the outline has two line breaks more than views, and those that
the texts hold which it takes over.  Hence there are just two more line breaks than views, and the
rows of the outline are its lines, exactly if none of these texts holds a line break. -/
theorem outline_has_row_for_each_view_iff (title primary : String) (header : Header)
    (body : List View) :
    let output := Output.card title primary header body
    let views := View.leveledAll 0 body
    (views.map Prod.snd = View.preorderAll body
      ∧ output.lines = header.line :: ("# " ++ title ++ "  [primary " ++ primary ++ "]")
        :: (views.map fun view => repeated (2 * view.1) ' ' ++ view.2.line)
      ∧ output.outline = String.join (output.lines.map (· ++ "\n")))
    ∧ lineBreaks output.outline = 2 + (View.preorderAll body).length
      + (output.texts.map lineBreaks).sum
    ∧ (lineBreaks output.outline = 2 + (View.preorderAll body).length
      ↔ ∀ text ∈ output.texts, '\n' ∉ text.toList)
    ∧ (rows output.outline = output.lines ↔ ∀ text ∈ output.texts, '\n' ∉ text.toList) := by
  intro output views
  have lines : output.lines = header.line :: ("# " ++ title ++ "  [primary " ++ primary ++ "]")
      :: views.map View.indented := by
    simp only [output, Output.lines, View.linesAll_eq, views]
  have order : views.map Prod.snd = View.preorderAll body := View.map_snd_leveledAll 0 body
  have held : (output.lines.map lineBreaks).sum = (output.texts.map lineBreaks).sum := by
    have opening : lineBreaks "# " = 0 := by decide
    have middle : lineBreaks "  [primary " = 0 := by decide
    have closing : lineBreaks "]" = 0 := by decide
    rw [lines, List.map_cons, List.map_cons, List.sum_cons, List.sum_cons,
      View.sum_lineBreaks_indented, order, header.lineBreaks_line]
    simp only [output, Output.texts, List.map_append, List.map_cons, List.map_nil, List.sum_append,
      List.sum_cons, List.sum_nil, lineBreaks_append, opening, middle, closing]
    omega
  have count : lineBreaks output.outline = 2 + (View.preorderAll body).length
      + (output.texts.map lineBreaks).sum := by
    show lineBreaks (stacked output.lines) = _
    rw [lineBreaks_stacked, held, lines, ← order]
    simp only [List.length_cons, List.length_map]
    omega
  refine ⟨⟨order, lines, rfl⟩, count, ?_, ?_⟩
  · rw [← sum_lineBreaks_eq_zero]
    omega
  · rw [← sum_lineBreaks_eq_zero, ← held, sum_lineBreaks_eq_zero]
    exact rows_eq_iff

/-- A paragraph of two lines takes up two rows, so one view has two. -/
theorem paragraph_fills_two_rows :
    let paragraph : Node :=
      { Node.plain "t" (.known .text) with props := ⟨[("content", .string "a\nb")]⟩ }
    let card : Card := ⟨"T", none, [paragraph]⟩
    let output := ((Renderer.new "").renderCard card).1
    (View.preorderAll output.body).length = 1 ∧ lineBreaks output.outline = 2 + 2
    ∧ rows output.outline
      = ["=== #6366f1 -> #a855f7 -> #ec4899 ===", "# T  [primary #6366f1]", "a", "b"] := by
  decide +kernel

end FormCard
