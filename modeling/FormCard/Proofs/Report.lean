import FormCard.Proofs.Preview
import FormCard.Proofs.Rows
import FormCard.CommandLine
import Mathlib.Data.List.Induction

/-!
# What is reported of clicks

The command line prints what comes of a click in front of the card: that it named an intent, and
that it submitted a form.  One click can do both, but one line is printed for it at most.  So the
lines do not always tell everything, and this module says when they do.

* `EventResult.effects` lists what there is to report; `EventResult.line?` is what is printed.
* `EventResult.line?_eq_effects_iff`: they differ for a click that does both, and only then.
* `Preview.lines_options`: the lines of a run are those of its clicks, in order; assignments print
  nothing.
* `clicks_are_reported_iff`: so every effect is reported exactly if no button that is clicked
  submits a form and names an intent.

The printed lines are always among the effects and in their order, so a line is never made up, and
equality can be decided by counting.  What comes of a click in the middle of a run is what comes of
it right after the first pass, and so the condition speaks of the first output only.  A witness
shows a button whose intent goes unreported.
-/

namespace FormCard

open CommandLine

/-! ## 1. Effects and lines -/

namespace EventResult

/-- What there is to report of an event: the intent that a click named, and the receipt for the form
that it submitted. -/
def effects : EventResult → List String
  | clicked intent receipt =>
    (intent.map ("intent: " ++ ·)).toList ++ (receipt.map Receipt.message).toList
  | _ => []

/-- **What is printed is what there is to report,** unless a click names an intent and submits a
form. -/
theorem line?_eq_effects_iff (result : EventResult) :
    result.line?.toList = result.effects
      ↔ ¬ ∃ intent receipt, result = clicked (some intent) (some receipt) := by
  rcases result with _ | _ | ⟨_ | intent, _ | receipt⟩
  all_goals simp [line?, effects]

/-- Nothing is printed that there is not to report. -/
theorem line?_sublist_effects (result : EventResult) :
    result.line?.toList.Sublist result.effects := by
  rcases result with _ | _ | ⟨_ | intent, _ | receipt⟩
  all_goals simp [line?, effects]

/-- Of many events too, no more is printed than there is to report. -/
theorem lines_sublist_effects (results : List EventResult) :
    (results.filterMap line?).Sublist (results.flatMap effects) := by
  rw [List.filterMap_eq_flatMap_toList]
  induction results with
  | nil => exact .slnil
  | cons result results ih => exact (line?_sublist_effects result).append ih

/-- **All effects of many events are printed exactly if all effects of each of them are:** what is
left out for one event cannot be made up for by another. -/
theorem lines_eq_effects_iff (results : List EventResult) :
    results.filterMap line? = results.flatMap effects
      ↔ ∀ result ∈ results, result.line?.toList = result.effects := by
  constructor
  · intro same
    induction results with
    | nil => simp
    | cons result results ih =>
      have first := line?_sublist_effects result
      have others := lines_sublist_effects results
      rw [List.filterMap_eq_flatMap_toList, List.flatMap_cons, ← List.filterMap_eq_flatMap_toList,
        List.flatMap_cons] at same
      have lengths := congrArg List.length same
      rw [List.length_append, List.length_append] at lengths
      have first_le := first.length_le
      have others_le := others.length_le
      have whole := first.eq_of_length (by omega)
      rw [whole] at same
      exact List.forall_mem_cons.2 ⟨whole, ih (List.append_cancel_left same)⟩
  · intro each
    rw [List.filterMap_eq_flatMap_toList]
    exact List.flatMap_congr each

end EventResult

/-! ## 2. Lines that are left out -/

/-- Each line that is left out makes a text shorter. -/
theorem length_stacked_le {lines more : List String} (fewer : lines.Sublist more) :
    (stacked lines).length + more.length ≤ (stacked more).length + lines.length := by
  induction fewer with
  | slnil => simp
  | cons line fewer ih =>
    simp only [stacked_cons, String.length_append, List.length_cons]
    have own : "\n".length = 1 := rfl
    omega
  | cons_cons line fewer ih =>
    simp only [stacked_cons, String.length_append, List.length_cons]
    omega

/-- **No line was left out if the text is the same.** -/
theorem eq_of_stacked_eq {lines more : List String} (fewer : lines.Sublist more)
    (same : stacked lines = stacked more) : lines = more := by
  have shorter := length_stacked_le fewer
  rw [same] at shorter
  exact fewer.eq_of_length_le (by omega)

/-! ## 3. What a preview prints -/

namespace Preview

variable (primary : String) (source : Source)

theorem lines_step (preview : Preview) (event : Event) :
    (step source preview event).lines
      = preview.lines ++ (preview.renderer.handle Sink.ignoring () event).1.line?.toList :=
  rfl

/-- **A preview prints a line for each event that is worth one,** in their order. -/
theorem lines_play (events : List Event) :
    (play primary source events).lines
      = events.filterMap fun event =>
          (((Renderer.new primary).render source).2.handle Sink.ignoring () event).1.line? := by
  induction events using List.reverseRecOn with
  | nil => rfl
  | append_singleton events event ih =>
    have last : play primary source (events ++ [event])
        = step source (play primary source events) event := List.foldl_append
    rw [last, lines_step, ih, result_play, List.filterMap_append]
    cases line : (((Renderer.new primary).render source).2.handle Sink.ignoring () event).1.line?
    · simp [line]
    · simp [line]

/-- Assignments print nothing. -/
theorem lines_options (options : Options) :
    (play primary source options.events).lines
      = options.clicks.filterMap fun id =>
        (((Renderer.new primary).render source).2.handle Sink.ignoring () (.click id)).1.line? := by
  have silent : options.sets.filterMap (fun set =>
      (((Renderer.new primary).render source).2.handle Sink.ignoring ()
        (.change set.1 (.string set.2))).1.line?) = [] := by
    refine List.filterMap_eq_nil_iff.2 fun set _ => ?_
    rw [Renderer.result_change]
    rcases ((Renderer.new primary).render source).1.control? set.1
      with _ | ⟨_ | target⟩ | ⟨submits, intent⟩
    · rfl
    · rfl
    · rfl
    · rfl
  rw [lines_play, Options.events, List.filterMap_append, List.filterMap_map, List.filterMap_map]
  simp only [Function.comp_def]
  rw [silent, List.nil_append]

end Preview

/-! ## 4. Main statement -/

/-- **Every effect of every click is reported exactly if no click has two.**  In a run over a source
the same comes of an event at any time, which is what comes of it right after the first pass.  The
standard output consists of one line for each click that did something, in the order of the clicks,
and the card: the receipt if the click submitted a form, and else the intent that it named.  These
are all effects of all clicks exactly if no click goes to a button that is shown to submit a form
and to name an intent; otherwise its intent is missing. -/
theorem clicks_are_reported_iff (settings : Settings) (source : Source) (options : Options) :
    let first := (Renderer.new settings.primary).render source
    let result (event : Event) := (first.2.handle Sink.ignoring () event).1
    let card := (Preview.play settings.primary source options.events).output.print
      (if options.json then .json else settings.output)
    (∀ before event,
      ((Preview.play settings.primary source before).renderer.handle Sink.ignoring () event).1
        = result event)
    ∧ preview options settings source
      = stacked (options.clicks.filterMap fun id => (result (.click id)).line?) ++ card
    ∧ (preview options settings source
        = stacked (options.clicks.flatMap fun id => (result (.click id)).effects) ++ card
      ↔ ∀ id ∈ options.clicks, ∀ key intent,
        first.1.control? id ≠ some (.button (some key) (some intent))) := by
  intro first result card
  have printed : preview options settings source
      = stacked (options.clicks.filterMap fun id => (result (.click id)).line?) ++ card := by
    rw [preview, Preview.print, Preview.lines_options]
    rfl
  refine ⟨Preview.result_play settings.primary source, printed, ?_⟩
  have lines : (options.clicks.filterMap fun id => (result (.click id)).line?)
      = (options.clicks.map fun id => result (.click id)).filterMap EventResult.line? := by
    rw [List.filterMap_map]
    rfl
  have effects : (options.clicks.flatMap fun id => (result (.click id)).effects)
      = (options.clicks.map fun id => result (.click id)).flatMap EventResult.effects :=
    (List.flatMap_map ..).symm
  have whole_iff (id : String) : (result (.click id)).line?.toList = (result (.click id)).effects
      ↔ ∀ key intent, first.1.control? id ≠ some (.button (some key) (some intent)) := by
    rw [EventResult.line?_eq_effects_iff, Renderer.result_click_iff, not_exists]
    exact forall_congr' fun key => not_exists
  rw [printed, lines, effects]
  constructor
  · intro same id member
    have kept := eq_of_stacked_eq (EventResult.lines_sublist_effects _)
      ((String.append_left_inj _).1 same)
    have whole := (EventResult.lines_eq_effects_iff _).1 kept (result (.click id))
      (List.mem_map_of_mem member)
    exact (whole_iff id).1 whole
  · intro single
    have whole : ∀ answer ∈ options.clicks.map (fun id => result (.click id)),
        answer.line?.toList = answer.effects := by
      intro answer member
      obtain ⟨id, clicked, rfl⟩ := List.mem_map.1 member
      exact (whole_iff id).2 (single id clicked)
    rw [(EventResult.lines_eq_effects_iff _).2 whole]

/-- A button that submits and names an intent: for a click on it the receipt is printed, and the
intent is not. -/
theorem receipt_hides_intent :
    let button : Node := { Node.plain "b" (.known .button) with
      props := ⟨[("isSubmit", .bool true), ("onClick", .string "go")]⟩ }
    let form : Node := { Node.plain "f" (.known .formContainer) with children := [button] }
    let click : Event := .click "b"
    let result := (((Renderer.new "#3366ff").render (.ready ⟨"T", none, [form]⟩)).2.handle
      Sink.ignoring () click).1
    (Preview.play "#3366ff" (.ready ⟨"T", none, [form]⟩) [click]).lines
        = ["Data submitted successfully! Endpoint: (no endpoint)"]
      ∧ result.effects
        = ["intent: go", "Data submitted successfully! Endpoint: (no endpoint)"] := by
  decide +kernel

end FormCard
