import FormCard.Card.Source

/-!
# The bundled card

The program carries a card of its own, which it shows when it is given none, and whose text it
prints on request.  It is a request for approval: a header, a grid of facts, a form with three
fields and a button, and a chart.

The text stands below as it is bundled, with angle brackets in the place of braces, and goes through
the reader like any other.
-/

namespace FormCard.Sample

/-- A text whose angle brackets stand for braces. -/
def withBraces (text : String) : String :=
  text.map fun c => if c = '⟨' then '\x7b' else if c = '⟩' then '\x7d' else c

/-- The text of the bundled card. -/
def text : String := withBraces r##"⟨
  "title": "Project Approval Workflow",
  "theme": ⟨
    "primary": "#6366f1",
    "gradientFrom": "#6366f1",
    "gradientTo": "#ec4899"
  ⟩,
  "body": [
    ⟨
      "id": "header_section",
      "type": "container",
      "style": "bg-white p-6 rounded-t-xl border-b",
      "children": [
        ⟨
          "id": "main_title",
          "type": "title",
          "props": ⟨ "text": "Creative Campaign 2024 Launch", "level": 1 ⟩
        ⟩,
        ⟨
          "id": "sub_remark",
          "type": "remark",
          "props": ⟨ "label": "Priority", "content": "High", "color": "red" ⟩
        ⟩
      ]
    ⟩,
    ⟨
      "id": "info_grid",
      "type": "columns",
      "props": ⟨ "gap": 4, "cols": 2 ⟩,
      "style": "bg-white p-6",
      "children": [
        ⟨
          "id": "col1",
          "type": "container",
          "children": [
            ⟨ "id": "t1", "type": "dualText", "props": ⟨ "label": "Project ID", "value": "PRJ-9901" ⟩ ⟩,
            ⟨ "id": "t2", "type": "dualText", "props": ⟨ "label": "Owner", "value": "Sarah Jenkins" ⟩ ⟩
          ]
        ⟩,
        ⟨
          "id": "col2",
          "type": "container",
          "children": [
            ⟨ "id": "t3", "type": "dualText", "props": ⟨ "label": "Department", "value": "Marketing" ⟩ ⟩,
            ⟨ "id": "t4", "type": "dualText", "props": ⟨ "label": "Budget", "value": "$45,000" ⟩ ⟩
          ]
        ⟩
      ]
    ⟩,
    ⟨
      "id": "divider_1",
      "type": "divider",
      "style": "my-0"
    ⟩,
    ⟨
      "id": "form_area",
      "type": "formContainer",
      "style": "bg-slate-50 p-6 space-y-4",
      "props": ⟨ "onSubmitUrl": "/api/submit-form" ⟩,
      "children": [
        ⟨
          "id": "title_form",
          "type": "title",
          "props": ⟨ "text": "Review Feedback", "level": 2 ⟩
        ⟩,
        ⟨
          "id": "reason_input",
          "type": "input",
          "field": "approval_reason",
          "props": ⟨
            "label": "Approval/Rejection Reason",
            "placeholder": "Please enter your reasoning...",
            "multiline": true
          ⟩
        ⟩,
        ⟨
          "id": "deadline_date",
          "type": "datePicker",
          "field": "target_date",
          "props": ⟨ "label": "Follow-up Date" ⟩
        ⟩,
        ⟨
          "id": "approver_select",
          "type": "personPicker",
          "field": "next_approver",
          "props": ⟨ "label": "Assign Next Reviewer" ⟩
        ⟩,
        ⟨
          "id": "submit_btn",
          "type": "button",
          "props": ⟨ "label": "Submit Approval", "variant": "primary", "isSubmit": true ⟩
        ⟩
      ]
    ⟩,
    ⟨
      "id": "chart_section",
      "type": "container",
      "style": "bg-white p-6 rounded-b-xl border-t",
      "children": [
        ⟨
          "id": "chart_title",
          "type": "title",
          "props": ⟨ "text": "Resource Allocation History", "level": 2 ⟩
        ⟩,
        ⟨
          "id": "perf_chart",
          "type": "chart",
          "props": ⟨
            "data": [
              ⟨ "name": "Jan", "value": 400 ⟩,
              ⟨ "name": "Feb", "value": 300 ⟩,
              ⟨ "name": "Mar", "value": 600 ⟩,
              ⟨ "name": "Apr", "value": 800 ⟩
            ]
          ⟩
        ⟩
      ]
    ⟩
  ]
⟩
"##

/-- The bundled card as a value. -/
def value : Json :=
  match Json.parse text with
  | .ok value => value
  | .error _ => .object []

/-- The text that an editor is reset to. -/
def pretty : String := value.pretty

def card : Card := (Card.ofJson? value).getD ⟨"", none, []⟩

/-- The bundled card as a source. -/
def source : Source := .ready card

end FormCard.Sample
