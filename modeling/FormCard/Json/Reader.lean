import FormCard.Json.Numeral
import FormCard.Json.Quoted

/-!
# Reading JSON

This is the reader that the text of a card goes through.  `Json.parse` reads a text that holds one
value and nothing else but blanks, and answers with the value or with what is wrong and where.  A
second entry, `Json.parseString`, reads a text that must hold a string, as the kind of a component
does that is read on its own, and it has words for every other value that might be there.

Arrays and objects may be nested to a fixed depth, beyond which the text is refused.  The reader
recurses on the depth that is left, and its loops over items and members end by the length of the
text, which each round shortens.  So the limit that protects the program is also what makes the
recursion structural.
-/

namespace FormCard.Json

/-! ## 1. Arrays and objects -/

/-- Reads items up to the closing bracket; `read` holds the last ones first. -/
def itemsRest {start : List Char} (item : Reader Json) (read : List Json) (s : List Char)
    (inside : s.length < start.length) : Except Fault (Read Json start) :=
  match item s with
  | .error fault => .error fault
  | .ok one =>
    match h : skip one.rest with
    | [] => .error ⟨.endInList, 0⟩
    | c :: t =>
      have shorter : t.length < s.length := by
        have := length_skip_le one.rest
        have := one.shorter
        simp only [h, List.length_cons] at *
        omega
      if c = ']' then
        .ok ⟨.array (one.value :: read).reverse, t, Nat.lt_trans shorter inside⟩
      else if c = ',' then
        if (skip t).head? = some ']' then .error (.next .trailingComma (skip t))
        else itemsRest item (one.value :: read) t (Nat.lt_trans shorter inside)
      else .error (.next .noCommaOrBracket (c :: t))
termination_by s.length

/-- Reads an array behind its opening bracket. -/
def arrayRest {start : List Char} (item : Reader Json) (s : List Char)
    (inside : s.length < start.length) : Except Fault (Read Json start) :=
  match h : skip s with
  | [] => .error ⟨.endInList, 0⟩
  | c :: t =>
    if c = ']' then
      .ok ⟨.array [], t, by
        have := length_skip_le s
        simp only [h, List.length_cons] at *
        omega⟩
    else itemsRest item [] s inside

/-- Reads the key of a member and the colon behind it. -/
def keyPart : Reader String := Reader.afterBlanks fun s =>
  match s with
  | [] => .error ⟨.endInValue, 0⟩
  | c :: t =>
    if c = '"' then
      match (stringRest [] t (length_lt_cons c t) : Except Fault (Read String (c :: t))) with
      | .error fault => .error fault
      | .ok key =>
        match h : skip key.rest with
        | [] => .error ⟨.endInObject, 0⟩
        | d :: u =>
          if d = ':' then
            .ok ⟨key.value, u, by
              have := length_skip_le key.rest
              have := key.shorter
              simp only [h, List.length_cons] at *
              omega⟩
          else .error (.next .noColon (d :: u))
    else .error (.next .badKey (c :: t))

/-- Reads members up to the closing brace, after the members `read`. -/
def membersRest {start : List Char} (item : Reader Json) (read : List (String × Json))
    (s : List Char) (inside : s.length < start.length) : Except Fault (Read Json start) :=
  match keyPart s with
  | .error fault => .error fault
  | .ok key =>
    match item key.rest with
    | .error fault => .error fault
    | .ok one =>
      match h : skip one.rest with
      | [] => .error ⟨.endInObject, 0⟩
      | c :: t =>
        have shorter : t.length < s.length := by
          have := length_skip_le one.rest
          have := one.shorter
          have := key.shorter
          simp only [h, List.length_cons] at *
          omega
        let members := Members.set key.value one.value read
        if c = '\x7d' then .ok ⟨.object members, t, Nat.lt_trans shorter inside⟩
        else if c = ',' then
          if (skip t).head? = some '\x7d' then .error (.next .trailingComma (skip t))
          else membersRest item members t (Nat.lt_trans shorter inside)
        else .error (.next .noCommaOrBrace (c :: t))
termination_by s.length

/-- Reads an object behind its opening brace. -/
def objectRest {start : List Char} (item : Reader Json) (s : List Char)
    (inside : s.length < start.length) : Except Fault (Read Json start) :=
  match h : skip s with
  | [] => .error ⟨.endInObject, 0⟩
  | c :: t =>
    if c = '\x7d' then
      .ok ⟨.object [], t, by
        have := length_skip_le s
        simp only [h, List.length_cons] at *
        omega⟩
    else membersRest item [] s inside

/-! ## 2. Values -/

/-- Reads a word that stands for a value, behind its first letter. -/
def wordValue (value : Json) (letters : String) {start : List Char} (s : List Char)
    (inside : s.length < start.length) : Except Fault (Read Json start) :=
  (word letters.toList s).map fun p => (p.inside inside).map fun _ => value

/-- Reads a value that starts here.  `inner` reads the values inside it, if it may have any. -/
def valueHere (inner : Option (Reader Json)) : Reader Json
  | [] => .error ⟨.endInValue, 0⟩
  | c :: s =>
    have inside := length_lt_cons c s
    if c = '"' then (stringRest [] s inside).map (·.map .string)
    else if c = '[' then
      match inner with
      | none => .error (.next .tooDeep (c :: s))
      | some item => arrayRest item s inside
    else if c = '\x7b' then
      match inner with
      | none => .error (.next .tooDeep (c :: s))
      | some item => objectRest item s inside
    else if c = 'n' then wordValue .null "ull" s inside
    else if c = 't' then wordValue (.bool true) "rue" s inside
    else if c = 'f' then wordValue (.bool false) "alse" s inside
    else if c = '-' ∨ c.isDigit then (Numeral.number (c :: s)).map (·.map .number)
    else .error (.next .noValue (c :: s))

/-- Reads a value with arrays and objects nested at most `depth` deep. -/
def value : (depth : Nat) → Reader Json
  | 0 => Reader.afterBlanks (valueHere none)
  | depth + 1 => Reader.afterBlanks (valueHere (some (value depth)))

/-- The depth to which arrays and objects may be nested. -/
def maxDepth : Nat := 127

/-- Runs a reader over a whole text, behind which only blanks may follow. -/
def readAll {α : Type} (reader : Reader α) (text : String) : Except SyntaxError α :=
  match reader text.toList with
  | .error fault => .error (fault.locate text)
  | .ok read =>
    match skip read.rest with
    | [] => .ok read.value
    | rest => .error ((Fault.next .trailingText rest).locate text)

/-- The value that a text holds. -/
def parse (text : String) : Except SyntaxError Json := readAll (value maxDepth) text

/-! ## 3. Texts that must hold a string -/

/-- What the value that starts here is called, when it is not the string that was wanted.  Of an
array or an object nothing is read. -/
def foundHere (s : List Char) : Except Fault (Part Found s) :=
  match s with
  | [] => .error ⟨.endInValue, 0⟩
  | c :: t =>
    if c = '[' then .ok (.nothing .sequence)
    else if c = '\x7b' then .ok (.nothing .map)
    else (valueHere none (c :: t)).map fun scalar =>
      scalar.toPart.map fun
        | .bool b => .bool b
        | .number n => .number n
        | _ => .null

def stringValue : Reader String := Reader.afterBlanks fun s =>
  match s with
  | [] => .error ⟨.endInValue, 0⟩
  | c :: t =>
    if c = '"' then stringRest [] t (length_lt_cons c t)
    else match foundHere (c :: t) with
      | .error fault => .error fault
      | .ok found => .error (.here (.notString found.value) found.rest)

/-- The string that a text holds. -/
def parseString (text : String) : Except SyntaxError String := readAll stringValue text

end FormCard.Json
