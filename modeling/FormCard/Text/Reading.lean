/-!
# Reading off the front of a text

The program reads two languages, JSON for cards and TOML for settings.  Both readers work on the
front of a text: each rule takes off a value and hands on the text behind it.  The rules call each
other, and their recursion follows no data type; it ends because the text gets shorter.

That fact is kept in what a rule returns.  A `Read` carries the proof that its rest is shorter than
the text, and a `Part`, which may have taken off nothing, that it is not longer.  So the readers
need no fuel, and a loop over readings ends by the length of the text, which is at hand in the
reading itself.

Readings are put together by a few operations that keep the proof: one reading after another
(`andThen`), a reading behind a character (`behind`), a run of characters (`Part.span`).
-/

namespace FormCard

/-! ## 1. Lengths -/

theorem length_dropWhile_le (p : Char → Bool) (s : List Char) :
    (s.dropWhile p).length ≤ s.length :=
  (List.dropWhile_suffix p).length_le

theorem length_drop_le (n : Nat) (s : List Char) : (s.drop n).length ≤ s.length :=
  (List.drop_suffix n s).length_le

theorem length_lt_cons (c : Char) (s : List Char) : s.length < (c :: s).length :=
  Nat.lt_succ_self _

theorem length_lt_of_cons {c : Char} {s start : List Char} (h : (c :: s).length < start.length) :
    s.length < start.length :=
  Nat.lt_of_succ_lt h

/-! ## 2. Readings -/

/-- A value read off the front of `s`, and what is left. -/
structure Read (α : Type) (s : List Char) where
  value : α
  rest : List Char
  shorter : rest.length < s.length

/-- A value read off the front of `s` that may be empty, and what is left. -/
structure Part (α : Type) (s : List Char) where
  value : α
  rest : List Char
  within : rest.length ≤ s.length

variable {α β : Type} {s t : List Char} {c : Char}

namespace Read

def map (f : α → β) (r : Read α s) : Read β s := ⟨f r.value, r.rest, r.shorter⟩

/-- Reads one character as a value. -/
def one (value : α) : Read α (c :: s) := ⟨value, s, length_lt_cons c s⟩

def toPart (r : Read α s) : Part α s := ⟨r.value, r.rest, Nat.le_of_lt r.shorter⟩

/-- What was read off a later part of a text was read off the text. -/
def extend (h : t.length ≤ s.length) (r : Read α t) : Read α s :=
  ⟨r.value, r.rest, Nat.lt_of_lt_of_le r.shorter h⟩

/-- What was read behind a character was read off the text. -/
def behind (r : Read α s) : Read α (c :: s) := ⟨r.value, r.rest, Nat.lt_succ_of_lt r.shorter⟩

/-- A second reading, behind the first. -/
def andThen (r : Read α s) (p : Part β r.rest) : Read β s :=
  ⟨p.value, p.rest, Nat.lt_of_le_of_lt p.within r.shorter⟩

end Read

namespace Part

def map (f : α → β) (p : Part α s) : Part β s := ⟨f p.value, p.rest, p.within⟩

def nothing (value : α) : Part α s := ⟨value, s, Nat.le_refl s.length⟩

/-- Reads the characters in front that pass a test. -/
def span (p : Char → Bool) (s : List Char) : Part (List Char) s :=
  ⟨s.takeWhile p, s.dropWhile p, length_dropWhile_le p s⟩

/-- Reads so many characters, as far as there are any, as a value. -/
def drop (n : Nat) (value : α) : Part α s := ⟨value, s.drop n, length_drop_le n s⟩

/-- What was read behind a character, together with the character. -/
def behind (p : Part α s) : Read α (c :: s) := ⟨p.value, p.rest, Nat.lt_succ_of_le p.within⟩

/-- What was read off a shorter text was read off the text. -/
def inside (h : t.length < s.length) (p : Part α t) : Read α s :=
  ⟨p.value, p.rest, Nat.lt_of_le_of_lt p.within h⟩

/-- What was read off a text that is not longer was read off the text. -/
def extend (h : t.length ≤ s.length) (p : Part α t) : Part α s :=
  ⟨p.value, p.rest, Nat.le_trans p.within h⟩

/-- A second reading, behind the first. -/
def andThen (p : Part α s) (q : Part β p.rest) : Part β s :=
  ⟨q.value, q.rest, Nat.le_trans q.within p.within⟩

end Part

end FormCard
