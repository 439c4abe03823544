import Reshape.Toml.Place

/-!
# Quoted texts of TOML

A text stands between quotes, or over several lines between three of them. In double quotes a
backslash escapes what follows. Over several lines up to two quotes may stand anywhere in the text,
and a backslash at the end of a line drops the break and the blanks behind it.
-/
namespace Reshape.Toml

/-- How a text is quoted. -/
structure Quoting where
  /-- In double quotes, where escapes are read. -/
  basic : Bool
  multiline : Bool
  deriving DecidableEq, Repr

namespace Quoting

def part : Quoting → Part
  | ⟨true, false⟩ => .basicString
  | ⟨false, false⟩ => .literalString
  | ⟨true, true⟩ => .multilineBasicString
  | ⟨false, true⟩ => .multilineLiteralString

def quote (q : Quoting) : Char := if q.basic then '"' else '\''

/-- The quotes at either end. -/
def delimiter (q : Quoting) : List Char := List.replicate (if q.multiline then 3 else 1) q.quote

/-- The quoting that begins at a place. -/
def at? (p : Place) : Option Quoting :=
  if p.startsWith "\"\"\"" then some ⟨true, true⟩
  else if p.startsWith "\"" then some ⟨true, false⟩
  else if p.startsWith "'''" then some ⟨false, true⟩
  else if p.startsWith "'" then some ⟨false, false⟩
  else none

end Quoting

/-- Escapes that stand for one character. -/
def simpleEscapes : List (Char × Char) :=
  [('b', '\x08'), ('f', '\x0c'), ('n', '\n'), ('r', '\r'), ('t', '\t'), ('\\', '\\'), ('"', '"')]

/-- The names of escapes, as they are listed where another one was found. -/
def escapeNames : List Wanted :=
  ["b", "f", "n", "r", "t", "u", "U", "\\", "\""].map Wanted.text

/-- The value of a digit in base sixteen. -/
def hexValue? (c : Char) : Option Nat :=
  if c.isDigit then some (c.toNat - '0'.toNat)
  else if 'a' ≤ c && c ≤ 'f' then some (c.toNat - 'a'.toNat + 10)
  else if 'A' ≤ c && c ≤ 'F' then some (c.toNat - 'A'.toNat + 10)
  else none

/-- The character whose code so many digits give. -/
def codeAt (width : Nat) (part : Part) (p : Place) : Except Refusal (List Char × Place) :=
  let digits := (p.rest.take width).filterMap hexValue?
  let code := digits.foldl (fun code digit => 16 * code + digit) 0
  if digits.length < width then p.refuse part
  else if code.isValidChar then .ok ([Char.ofNat code], p.skip width)
  else p.refuse part [] (some .outOfRange)

/-- The character of an escape at its backslash. -/
def escapeAt (p : Place) : Except Refusal (List Char × Place) :=
  let name := p.skip 1
  match name.head? with
  | none => name.refuse none
  | some 'u' => final (codeAt 4 .shortCode (p.skip 2))
  | some 'U' => final (codeAt 8 .longCode (p.skip 2))
  | some c =>
    match simpleEscapes.lookup c with
    | some escaped => .ok ([escaped], p.skip 2)
    | none =>
      final ((if c.utf8Size = 1 then p.skip 2 else name).refuse (some .escape) escapeNames)

/-- The place behind a break that is escaped by the backslash here, and the blanks and breaks behind
it. -/
def afterEscapedBreak? (p : Place) : Option Place :=
  (p.skip 1).skipBlanks.afterNewline?.map fun behind => dropLines behind.rest.length behind
where
  /-- Pass blanks and line breaks. -/
  dropLines : Nat → Place → Place
    | 0, p => p
    | turns + 1, p =>
      match p.skipBlanks.afterNewline? with
      | some behind => dropLines turns behind
      | none => p.skipBlanks

/-- One piece of a quoted text, which is no quote; none if no piece begins here. -/
def pieceAt? (q : Quoting) (p : Place) : Except Refusal (Option (List Char × Place)) :=
  match p.head? with
  | none => .ok none
  | some c =>
    if q.basic && c = '\\' then
      match (if q.multiline then afterEscapedBreak? p else none) with
      | some behind => .ok (some ([], behind))
      | none => if p.rest.length = 1 then .ok none else some <$> escapeAt p
    else if c = q.quote then .ok none
    else if Place.isTextChar c then .ok (some ([c], p.skip 1))
    else if q.multiline then .ok (p.afterNewline?.map (['\n'], ·))
    else .ok none

/-- What is left of a quoted text, and the place behind its closing quotes. -/
def quotedFrom (q : Quoting) : Nat → Place → Except Refusal (List Char × Place)
  | 0, p => p.refuse q.part
  | turns + 1, p => do
    match ← pieceAt? q p with
    | some (piece, behind) =>
      let (text, behind) ← quotedFrom q turns behind
      return (piece ++ text, behind)
    | none =>
      let quotes := (p.split (· = q.quote)).1
      let needed := q.delimiter.length
      if needed ≤ quotes.length then
        let extra := quotes.take (if q.multiline then min 2 (quotes.length - needed) else 0)
        return (extra, p.skip (extra.length + needed))
      else
        match quotes, ← pieceAt? q (p.skip quotes.length) with
        | _ :: _, some (piece, behind) =>
          let (text, behind) ← quotedFrom q turns behind
          return (quotes ++ piece ++ text, behind)
        | _, _ => p.refuse q.part

/-- A quoted text at its opening quotes. A break behind three quotes is dropped. -/
def quotedAt (q : Quoting) (p : Place) : Except Refusal (String × Place) := do
  let opened := p.skip q.delimiter.length
  let begin_ := if q.multiline then opened.afterNewline?.getD opened else opened
  let (text, behind) ← final (quotedFrom q (begin_.rest.length + 1) begin_)
  return (String.ofList text, behind)

end Reshape.Toml
