import FormCard.Toml.Table
import FormCard.Toml.Text
import FormCard.Toml.Scalar

/-!
# Reading TOML

This is the reader that the file of settings goes through.  `Toml.parse` reads a document, which may
start with a byte order mark, and gives its table or nothing.  There is no account of what is wrong:
the program falls back on its defaults then, and reports no more than that the file could not be
parsed.

Arrays and tables between braces may be nested to a fixed depth, and a dotted key has a bounded
number of parts.  As in the reader of JSON, values recurse on the depth that is left, and loops end
by the length of the text.  A document is first read into statements, without regard to what they
mean, and `FormCard.Toml.Table` carries them out.
-/

namespace FormCard.Toml

/-- Reads a value off the front of a text, if there is one. -/
abbrev Reader (α : Type) := (s : List Char) → Option (Read α s)

/-! ## 1. Keys -/

/-- The characters of keys without quotes. -/
def isKeyChar (c : Char) : Bool := c.isDigit || c.isAlpha || c = '_' || c = '-'

/-- Reads one part of a key. -/
def keyPart : Reader String
  | [] => none
  | c :: t =>
    if c = '"' ∨ c = '\'' then string? false (c :: t)
    else if isKeyChar c then
      some ((Part.span isKeyChar t).behind.map fun cs => String.ofList (c :: cs))
    else none

/-- Reads the parts of a key, with points between them; `read` holds the last ones first. -/
def keyParts (read : List String) (s : List Char) : Option (Read (List String) s) :=
  match keyPart (skipBlanks s) with
  | none => none
  | some part =>
    have within := length_skipBlanks_le s
    have shorter := part.shorter
    match h : skipBlanks part.rest with
    | '.' :: t =>
      have length : t.length < s.length := by
        have := length_skipBlanks_le part.rest
        simp only [h, List.length_cons] at this
        omega
      (keyParts (part.value :: read) t).map (·.extend (Nat.le_of_lt length))
    | t =>
      some ⟨part.value :: read, t, by
        have := length_skipBlanks_le part.rest
        rw [h] at this
        omega⟩
termination_by s.length

/-- The number of parts that a key must stay below. -/
def partLimit : Nat := 80

/-- Reads a key: the parts above the last one, and the last one. -/
def keyPath (s : List Char) : Option (Read (List String × String) s) :=
  match keyParts [] s with
  | none => none
  | some parts =>
    match parts.value with
    | [] => none
    | key :: above =>
      if above.length + 1 < partLimit then some (parts.map fun _ => (above.reverse, key)) else none

/-! ## 2. Values -/

def wordValue (s : List Char) : Option (Read Value s) :=
  match s with
  | [] => none
  | c :: t =>
    if isWordChar c then
      let word := c :: t.takeWhile isWordChar
      let rest := t.dropWhile isWordChar
      have shorter : rest.length < (c :: t).length :=
        Nat.lt_succ_of_le (length_dropWhile_le isWordChar t)
      let time := (rest.drop 1).takeWhile isWordChar
      if isDate word ∧ rest.head? = some ' ' ∧ isZonedTime time then
        some ⟨.moment (String.ofList (word ++ ' ' :: time)), (rest.drop 1).dropWhile isWordChar, by
          have := length_dropWhile_le isWordChar (rest.drop 1)
          rw [List.length_drop] at this
          omega⟩
      else (scalar? word).map fun value => ⟨value, rest, shorter⟩
    else none

/-- Reads items up to the closing bracket; `read` holds the last ones first. -/
def itemsRest {start : List Char} (item : Reader Value) (read : List Value) (s : List Char)
    (inside : s.length < start.length) : Option (Read Value start) :=
  have within := length_skipLines_le false s
  match h : skipLines false s with
  | ']' :: t =>
    some ⟨.array read.reverse, t, by simp only [h, List.length_cons] at within; omega⟩
  | t =>
    match item t with
    | none => none
    | some one =>
      have shorter := one.shorter
      have behind := length_skipLines_le false one.rest
      match h' : skipLines false one.rest with
      | ']' :: u =>
        some ⟨.array (one.value :: read).reverse, u, by
          rw [h] at within
          simp only [h', List.length_cons] at behind
          omega⟩
      | ',' :: u =>
        have smaller : u.length < s.length := by
          rw [h] at within
          simp only [h', List.length_cons] at behind
          omega
        itemsRest item (one.value :: read) u (Nat.lt_trans smaller inside)
      | _ => none
termination_by s.length

/-- An assignment between braces: the parts of its key and its value. -/
abbrev Assignment := List String × String × Value

/-- Reads an assignment, and the blanks behind it. -/
def assignment (item : Reader Value) (s : List Char) : Option (Read Assignment s) :=
  match keyPath s with
  | none => none
  | some key =>
    match h : key.rest with
    | '=' :: t =>
      match item (skipBlanks t) with
      | none => none
      | some value =>
        some ⟨(key.value.1, key.value.2, value.value), skipBlanks value.rest, by
          have := key.shorter
          have := length_skipBlanks_le t
          have := length_skipBlanks_le value.rest
          have := value.shorter
          simp only [h, List.length_cons] at *
          omega⟩
    | _ => none

/-- Reads assignments up to the closing brace; `read` holds the last ones first. -/
def assignmentsRest {start : List Char} (item : Reader Value) (read : List Assignment)
    (s : List Char) (inside : s.length < start.length) :
    Option (Read (List Assignment) start) :=
  match assignment item s with
  | none => none
  | some one =>
    have shorter := one.shorter
    match h : one.rest with
    | '\x7d' :: t =>
      some ⟨(one.value :: read).reverse, t, by simp only [h, List.length_cons] at shorter; omega⟩
    | ',' :: t =>
      have smaller : t.length < s.length := by
        simp only [h, List.length_cons] at shorter
        omega
      assignmentsRest item (one.value :: read) t (Nat.lt_trans smaller inside)
    | _ => none
termination_by s.length

/-- Reads a table behind its opening brace. -/
def tableRest {start : List Char} (item : Reader Value) (s : List Char)
    (inside : s.length < start.length) : Option (Read Value start) :=
  match h : skipBlanks s with
  | '\x7d' :: t =>
    some ⟨.table .inline [], t, by
      have := length_skipBlanks_le s
      simp only [h, List.length_cons] at this
      omega⟩
  | _ => do
    let assignments ← assignmentsRest item [] s inside
    let table ← Table.ofAssignments assignments.value
    return assignments.map fun _ => table.toValue

/-- Reads a value.  `inner` reads the values inside it, if it may have any. -/
def valueHere (inner : Option (Reader Value)) : Reader Value
  | [] => none
  | c :: s =>
    if c = '"' ∨ c = '\'' then (string? true (c :: s)).map (·.map Value.string)
    else if c = '[' then inner.bind fun item => itemsRest item [] s (length_lt_cons c s)
    else if c = '\x7b' then inner.bind fun item => tableRest item s (length_lt_cons c s)
    else wordValue (c :: s)

/-- Reads a value with arrays and tables nested at most `depth` deep. -/
def value : (depth : Nat) → Reader Value
  | 0 => valueHere none
  | depth + 1 => valueHere (some (value depth))

/-- The depth to which arrays and tables between braces may be nested. -/
def maxDepth : Nat := 79

/-! ## 3. Documents -/

/-- Reads a header behind its opening brackets. -/
def headerRest (closing : List Char) (s : List Char) :
    Option (Read (List String × String) s) := do
  let key ← keyPath s
  if closing.isPrefixOf key.rest then
    let ending ← lineEnd? (key.rest.drop closing.length)
    return key.andThen ((ending.map fun _ => key.value).extend (length_drop_le _ key.rest))
  else none

/-- Reads a statement and the end of its line. -/
def statement (s : List Char) : Option (Read Statement s) :=
  match s with
  | '[' :: '[' :: t =>
    (headerRest [']', ']'] t).map fun r =>
      (r.map fun key => Statement.repeated key.1 key.2).behind.behind
  | '[' :: t =>
    (headerRest [']'] t).map fun r => (r.map fun key => Statement.header key.1 key.2).behind
  | s => do
    let one ← assignment (value maxDepth) s
    let ending ← lineEnd? one.rest
    return one.andThen (ending.map fun _ => .assign one.value.1 one.value.2.1 one.value.2.2)

/-- Reads the statements of a document; `read` holds the last ones first. -/
def statements (read : List Statement) (s : List Char) : Option (List Statement) :=
  match h : skipLines false s with
  | [] => some read.reverse
  | c :: t =>
    match statement (c :: t) with
    | none => none
    | some one =>
      have smaller : one.rest.length < s.length := by
        have := length_skipLines_le false s
        have := one.shorter
        simp only [h] at *
        omega
      statements (one.value :: read) one.rest
termination_by s.length

def skipMark (s : List Char) : List Char :=
  match s with
  | '\ufeff' :: t => t
  | s => s

/-- The table that a document holds. -/
def parse (text : String) : Option Table := do
  Table.ofStatements (← statements [] (skipMark text.toList))

end FormCard.Toml
