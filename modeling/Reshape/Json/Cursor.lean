/-!
# A place in a text

What is left of a text and where it begins, with lines from one and columns in bytes of UTF-8. A
step of a reader hands back its result and a later place, which comes with the proof that no text
was put back; so a reader that steps over a character at each turn of a loop ends.
-/
namespace Reshape.Json

/-- A line from one and a column in bytes. -/
structure Position where
  line : Nat
  column : Nat
  deriving DecidableEq, Repr

/-- The position behind a character. -/
def Position.after (p : Position) (c : Char) : Position :=
  if c = '\n' then ⟨p.line + 1, 0⟩ else ⟨p.line, p.column + c.utf8Size⟩

/-- The position behind the first byte of a character. -/
def Position.afterByte (p : Position) (c : Char) : Position :=
  if c = '\n' then ⟨p.line + 1, 0⟩ else ⟨p.line, p.column + 1⟩

/-- The text ahead and its position. -/
structure Cursor where
  rest : List Char
  position : Position
  deriving Repr

namespace Cursor

def start (text : String) : Cursor := ⟨text.toList, ⟨1, 0⟩⟩

/-- How many characters are left. -/
def left (c : Cursor) : Nat := c.rest.length

/-- The position one byte on, or the end of the text. -/
def peekPosition (c : Cursor) : Position :=
  match c.rest with
  | [] => c.position
  | next :: _ => c.position.afterByte next

/-- A later place of the same text. -/
abbrev Later (c : Cursor) := { next : Cursor // next.left ≤ c.left }

def stay (c : Cursor) : c.Later := ⟨c, Nat.le_refl _⟩

/-- A later place than a later place. -/
def Later.then {c : Cursor} (l : c.Later) (n : l.1.Later) : c.Later :=
  ⟨n.1, Nat.le_trans n.2 l.2⟩

/-- The place behind the next character, or the end of the text. -/
def next (c : Cursor) : c.Later :=
  match h : c.rest with
  | [] => c.stay
  | first :: rest => ⟨⟨rest, c.position.after first⟩, by simp [left, h]⟩

/-- Step over the characters in front that satisfy a condition, and name them. -/
def splitFrom (p : Char → Bool) : List Char → Position → List Char × Cursor
  | [], at_ => ([], ⟨[], at_⟩)
  | c :: rest, at_ =>
    if p c then
      let (taken, later) := splitFrom p rest (at_.after c)
      (c :: taken, later)
    else ([], ⟨c :: rest, at_⟩)

theorem splitFrom_left (p : Char → Bool) (cs : List Char) (at_ : Position) :
    (splitFrom p cs at_).2.left ≤ cs.length := by
  induction cs generalizing at_ with
  | nil => simp [splitFrom, left]
  | cons c rest ih =>
    simp only [splitFrom]
    split
    · exact Nat.le_succ_of_le (ih (at_.after c))
    · exact Nat.le_refl _

/-- The longest run of characters in front that satisfy a condition, and the place behind it. -/
def split (p : Char → Bool) (c : Cursor) : List Char × c.Later :=
  let parts := splitFrom p c.rest c.position
  (parts.1, ⟨parts.2, splitFrom_left p c.rest c.position⟩)

theorem next_left_lt {c : Cursor} {first : Char} {rest : List Char} (h : c.rest = first :: rest) :
    c.next.1.left < c.left := by
  obtain ⟨cs, at_⟩ := c
  cases h
  exact Nat.lt_succ_self _

end Cursor
end Reshape.Json
