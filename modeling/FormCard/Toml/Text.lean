import FormCard.Text.Reading

/-!
# Blanks, comments and strings of a TOML document

This part of the reader of settings is about all that runs character by character: blanks, line
breaks, comments and strings.  A string in double quotes has escapes, one in single quotes has
none.  Three quotes in the place of one make a string that may run over several lines; a line break
right behind the opening quotes does not belong to it, and neither does one behind a backslash.

Control characters other than tabs and line breaks belong to nothing, not even to comments.  A
carriage return counts with a line feed behind it only.
-/

namespace FormCard.Toml

/-! ## 1. Blanks and comments -/

/-- The blanks within a line. -/
def isBlank (c : Char) : Bool := c = ' ' || c = '\t'

def skipBlanks (s : List Char) : List Char := s.dropWhile isBlank

/-- The characters that comments and strings may hold as they are. -/
def isText (c : Char) : Bool := c = '\t' || (' ' ≤ c && c ≠ '\x7f')

theorem length_skipBlanks_le (s : List Char) : (skipBlanks s).length ≤ s.length :=
  length_dropWhile_le isBlank s

/-- Reads a line break. -/
def lineBreak? (s : List Char) : Option (Read Unit s) :=
  match s with
  | [] => none
  | c :: t =>
    if c = '\n' then some (.one ())
    else if c = '\r' ∧ t.head? = some '\n' then some (Part.drop 1 ()).behind
    else none

/-- The text behind a comment, if there is one. -/
def skipComment (s : List Char) : List Char :=
  match s with
  | '#' :: t => t.dropWhile isText
  | s => s

theorem length_skipComment_le (s : List Char) : (skipComment s).length ≤ s.length := by
  unfold skipComment
  split
  · exact Nat.le_succ_of_le (length_dropWhile_le isText _)
  · exact Nat.le_refl _

/-- Reads the end of a line: blanks, a comment, and a line break or the end of the document. -/
def lineEnd? (s : List Char) : Option (Part Unit s) :=
  have within : (skipComment (skipBlanks s)).length ≤ s.length :=
    Nat.le_trans (length_skipComment_le _) (length_skipBlanks_le s)
  match skipComment (skipBlanks s), within with
  | [], within => some ⟨(), [], within⟩
  | c :: t, within =>
    (lineBreak? (c :: t)).map fun r => ⟨(), r.rest, Nat.le_trans (Nat.le_of_lt r.shorter) within⟩

/-- The text behind blanks, line breaks and comments. -/
def skipLines (inComment : Bool) (s : List Char) : List Char :=
  match s with
  | [] => []
  | '\n' :: t => skipLines false t
  | '\r' :: '\n' :: t => skipLines false t
  | c :: t =>
    if inComment then if isText c then skipLines true t else c :: t
    else if isBlank c then skipLines false t
    else if c = '#' then skipLines true t
    else c :: t

theorem length_skipLines_le (inComment : Bool) (s : List Char) :
    (skipLines inComment s).length ≤ s.length := by
  fun_induction skipLines inComment s
    <;> simp_all only [List.length_cons, List.length_nil] <;> omega

/-! ## 2. Escapes -/

def hexValue? (c : Char) : Option Nat :=
  if '0' ≤ c ∧ c ≤ '9' then some (c.toNat - '0'.toNat)
  else if 'a' ≤ c ∧ c ≤ 'f' then some (c.toNat - 'a'.toNat + 10)
  else if 'A' ≤ c ∧ c ≤ 'F' then some (c.toNat - 'A'.toNat + 10)
  else none

/-- Reads a character given by so many hexadecimal digits; surrogates are no characters. -/
def codePoint? (width : Nat) (s : List Char) : Option (Part Char s) := do
  let values ← (s.take width).mapM hexValue?
  let code := values.foldl (fun n d => n * 16 + d) 0
  if values.length = width ∧ code.isValidChar then return .drop width (Char.ofNat code) else none

def letterEscape? : Char → Option Char
  | 'b' => some '\x08'
  | 't' => some '\t'
  | 'n' => some '\n'
  | 'f' => some '\x0c'
  | 'r' => some '\r'
  | '"' => some '"'
  | '\\' => some '\\'
  | _ => none

/-- Reads the rest of an escape, behind its backslash. -/
def escape? (s : List Char) : Option (Part Char s) :=
  match s with
  | [] => none
  | c :: t =>
    if c = 'u' then (codePoint? 4 t).map (·.behind.toPart)
    else if c = 'U' then (codePoint? 8 t).map (·.behind.toPart)
    else (letterEscape? c).map fun d => (Read.one d).toPart

/-- The text behind blanks and line breaks. -/
def skipBreaks (s : List Char) : List Char :=
  match s with
  | [] => []
  | '\r' :: '\n' :: t => skipBreaks t
  | c :: t => if isBlank c ∨ c = '\n' then skipBreaks t else c :: t

theorem length_skipBreaks_le (s : List Char) : (skipBreaks s).length ≤ s.length := by
  fun_induction skipBreaks s <;> simp_all only [List.length_cons, List.length_nil] <;> omega

/-- A backslash at the end of a line: the line break behind it and all blanks that follow. -/
def lineContinuation? (s : List Char) : Option (Part Unit s) :=
  (lineBreak? (skipBlanks s)).map fun r =>
    (r.andThen ⟨(), skipBreaks r.rest, length_skipBreaks_le r.rest⟩).toPart.extend
      (length_skipBlanks_le s)

/-! ## 3. Strings -/

/-- Reads a string of one line up to the closing quote; `read` holds the last characters first. -/
def lineRest? {start : List Char} (quote : Char) (read : List Char) (s : List Char)
    (inside : s.length < start.length) : Option (Read String start) :=
  match s with
  | [] => none
  | c :: t =>
    have shorter := length_lt_of_cons inside
    if c = quote then some ⟨String.ofList read.reverse, t, shorter⟩
    else if c = '\\' ∧ quote = '"' then
      match escape? t with
      | none => none
      | some e => lineRest? quote (e.value :: read) e.rest (Nat.lt_of_le_of_lt e.within shorter)
    else if isText c then lineRest? quote (c :: read) t shorter
    else none
termination_by s.length
decreasing_by
  · exact Nat.lt_succ_of_le e.within
  · exact length_lt_cons c t

/-- Reads the closing quotes of a string of several lines.  Up to two more quotes in front of them
belong to the string. -/
def closing? (quote : Char) (s : List Char) : Option (Read (List Char) s) :=
  let run := (s.takeWhile (· = quote)).length
  if h : 3 ≤ run then
    some ⟨List.replicate (min run 5 - 3) quote, s.drop (min run 5), by
      have : run ≤ s.length := (List.takeWhile_sublist _).length_le
      rw [List.length_drop]
      omega⟩
  else none

/-- Reads a string of several lines up to the closing quotes. -/
def blockRest? {start : List Char} (quote : Char) (read : List Char) (s : List Char)
    (inside : s.length < start.length) : Option (Read String start) :=
  match closing? quote s with
  | some quotes =>
    some ⟨String.ofList (quotes.value ++ read).reverse, quotes.rest,
      Nat.lt_trans quotes.shorter inside⟩
  | none =>
    match lineBreak? s with
    | some r => blockRest? quote ('\n' :: read) r.rest (Nat.lt_trans r.shorter inside)
    | none =>
      match s with
      | [] => none
      | c :: t =>
        have shorter := length_lt_of_cons inside
        if c = '\\' ∧ quote = '"' then
          match lineContinuation? t with
          | some p => blockRest? quote read p.rest (Nat.lt_of_le_of_lt p.within shorter)
          | none =>
            match escape? t with
            | some e =>
              blockRest? quote (e.value :: read) e.rest (Nat.lt_of_le_of_lt e.within shorter)
            | none => none
        else if isText c then blockRest? quote (c :: read) t shorter
        else none
termination_by s.length
decreasing_by
  · exact r.shorter
  · exact Nat.lt_succ_of_le p.within
  · exact Nat.lt_succ_of_le e.within
  · exact length_lt_cons c t

/-- Reads a string of one line, of several lines if `blocks` are allowed, with either quote. -/
def string? (blocks : Bool) (s : List Char) : Option (Read String s) :=
  match s with
  | [] => none
  | quote :: t =>
    if quote = '"' ∨ quote = '\'' then
      if blocks ∧ t.take 2 = [quote, quote] then
        have inside : (t.drop 2).length < (quote :: t).length := (Part.drop 2 ()).behind.shorter
        match lineBreak? (t.drop 2) with
        | some r => blockRest? quote [] r.rest (Nat.lt_trans r.shorter inside)
        | none => blockRest? quote [] (t.drop 2) inside
      else lineRest? quote [] t (length_lt_cons quote t)
    else none

end FormCard.Toml
