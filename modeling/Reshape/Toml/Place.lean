import Reshape.Toml.Fault

/-!
# Places in a TOML text

What is left of a text and the offset where it begins. A reader takes a part off the front and hands
back the place behind it, or it refuses. A refusal may be final: the part was begun in a way that
nothing else begins, so it is not tried whether the text can be read otherwise.
-/
namespace Reshape.Toml

/-- What is left of a text, and its offset in bytes. -/
structure Place where
  rest : List Char
  offset : Nat

/-- A part could not be read. -/
structure Refusal where
  fault : Fault
  isFinal : Bool

namespace Place

def start (text : String) : Place := ⟨text.toList, 0⟩

/-- Pass some characters. -/
def skip : Nat → Place → Place
  | 0, p => p
  | count + 1, p =>
    match p.rest with
    | [] => p
    | c :: rest => skip count ⟨rest, p.offset + c.utf8Size⟩

def head? (p : Place) : Option Char := p.rest.head?

def startsWith (p : Place) (text : String) : Bool := text.toList.isPrefixOf p.rest

/-- The longest run of characters in front that satisfy a condition, and the place behind it. -/
def split (p : Place) (condition : Char → Bool) : List Char × Place :=
  let run := p.rest.takeWhile condition
  (run, p.skip run.length)

/-- The part of the text from a place to a later one. -/
def upTo (p later : Place) : Span := ⟨p.offset, later.offset⟩

/-- Refuse at the next character. -/
def refuse (p : Place) {α : Type} (within : Option Part) (wanted : List Wanted := [])
    (cause : Option Cause := none) : Except Refusal α :=
  .error ⟨⟨p.upTo (p.skip 1), within, wanted, cause⟩, false⟩

def skipBlanks (p : Place) : Place := (p.split fun c => c = ' ' || c = '\t').2

/-- The place behind a line break, if there is one here. -/
def afterNewline? (p : Place) : Option Place :=
  match p.rest with
  | '\n' :: _ => some (p.skip 1)
  | '\r' :: '\n' :: _ => some (p.skip 2)
  | _ => none

/-- Is this a character of a text or of a comment? -/
def isTextChar (c : Char) : Bool := c = '\t' || (0x20 ≤ c.toNat && c.toNat ≠ 0x7F)

/-- Pass a comment, if there is one here. -/
def skipComment (p : Place) : Place :=
  if p.head? = some '#' then (p.split isTextChar).2 else p

/-- Pass the end of a line, which is a line break or the end of the text. -/
def endLine? (p : Place) : Option Place := if p.rest.isEmpty then some p else p.afterNewline?

end Place

namespace Refusal

/-- The part that was being read, unless a part within it was. -/
def within (part : Part) (refusal : Refusal) : Refusal :=
  { refusal with fault := { refusal.fault with within := refusal.fault.within <|> some part } }

/-- What else was expected. -/
def wanting (wanted : List Wanted) (refusal : Refusal) : Refusal :=
  { refusal with fault := { refusal.fault with wanted := refusal.fault.wanted ++ wanted } }

def final (refusal : Refusal) : Refusal := { refusal with isFinal := true }

end Refusal

/-- Refuse for good where a reader refuses. -/
def final {α : Type} (result : Except Refusal α) : Except Refusal α := result.mapError Refusal.final

/-- Read a part of a kind. -/
def within {α : Type} (part : Part) (result : Except Refusal α) : Except Refusal α :=
  result.mapError (Refusal.within part)

def wanting {α : Type} (wanted : List Wanted) (result : Except Refusal α) : Except Refusal α :=
  result.mapError (Refusal.wanting wanted)

/-- Read a part one way, or else another one, unless the first refuses for good. -/
def orElse {α : Type} (first : Except Refusal α) (second : Unit → Except Refusal α) :
    Except Refusal α :=
  match first with
  | .error refusal => if refusal.isFinal then first else second ()
  | .ok _ => first

/-- Read a part if it is there: unless its reader refuses for good, nothing is read. -/
def optional {α : Type} (p : Place) (result : Except Refusal (α × Place)) :
    Except Refusal (Option α × Place) :=
  match result with
  | .ok (a, behind) => .ok (some a, behind)
  | .error refusal => if refusal.isFinal then .error refusal else .ok (none, p)

namespace Place

/-- Pass an expected text. -/
def expect (p : Place) (text : String) (within : Option Part := none) (wanted : List Wanted := []) :
    Except Refusal Place :=
  if p.startsWith text then .ok (p.skip text.length) else p.refuse within wanted

/-- Pass what may stand behind the last part of a line: blanks and a comment. -/
def endStatement (p : Place) : Except Refusal Place :=
  let behind := p.skipBlanks.skipComment
  match behind.endLine? with
  | some after => .ok after
  | none => behind.refuse none [.newline, .text "#"]

/-- Pass blanks, line breaks and comments. -/
def skipLines : Nat → Place → Except Refusal Place
  | 0, p => .ok p
  | turns + 1, p =>
    let p := p.skipBlanks
    let break_ := fun p : Place =>
      match p.afterNewline? with
      | some after => skipLines turns after
      | none => (p.skip (if p.head? = some '\r' then 1 else 0)).refuse none
    match p.head? with
    | some '#' => break_ p.skipComment
    | some '\n' | some '\r' => break_ p
    | _ => .ok p

end Place
end Reshape.Toml
