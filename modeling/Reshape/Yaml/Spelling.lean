import Reshape.Binary64.Decimal
import Reshape.Yaml.Character
import Reshape.Yaml.Fault
import Reshape.Yaml.Scalar

/-!
# Spelling of scalars

Reads a scalar off the front of a text: between quotes, or plain up to what cannot belong to it.
Blanks between two words stay; a single line break between them becomes a space, and of several the
first is dropped. Each reader says how many characters it has passed, also where it fails.
-/
namespace Reshape.Yaml

/-- What stands between two words of a scalar. -/
inductive Gap where
  | blanks (cs : List Char)
  /-- The first break, if it is not escaped, and the breaks after it. -/
  | lines (first : Option Char) (more : List Char)

namespace Gap

def none : Gap := .blanks []

/-- The gap with one more blank or break. Blanks around a break do not count. -/
def add : Gap → Char → Gap
  | .blanks cs, c => if isBreak c then .lines (some c) [] else .blanks (cs ++ [c])
  | .lines first more, c => if isBreak c then .lines first (more ++ [c]) else .lines first more

/-- What is left of the gap in the text. -/
def text : Gap → List Char
  | .blanks cs => cs
  | .lines (some '\n') [] => [' ']
  | .lines (some '\n') more => more
  | .lines first more => first.toList ++ more

def hasLines : Gap → Bool
  | .blanks _ => false
  | .lines .. => true

def isNone : Gap → Bool
  | .blanks cs => cs.isEmpty
  | .lines .. => false

end Gap

/-- A scalar that was read: its text, how many characters it takes, how many were passed with the
blanks behind it, and whether a line ends among them. -/
structure Spelt where
  text : List Char
  length : Nat
  passed : Nat
  endsLine : Bool

/-- A problem and how many characters stand in front of it. -/
abbrev Misspelt := Problem × Construct × Nat

/-- The result with a gap and a word in front of its text. -/
def Spelt.behind (gap : Gap) (word : List Char) (s : Spelt) : Spelt :=
  { s with text := gap.text ++ word ++ s.text }

/-- Escapes that stand for one character. -/
def simpleEscapes : List (Char × Char) :=
  [('0', '\x00'), ('a', '\x07'), ('b', '\x08'), ('t', '\t'), ('\t', '\t'), ('n', '\n'),
    ('v', '\x0b'), ('f', '\x0c'), ('r', '\r'), ('e', '\x1b'), (' ', ' '), ('"', '"'), ('/', '/'),
    ('\\', '\\'), ('N', '\x85'), ('_', '\xa0'), ('L', '\u2028'), ('P', '\u2029')]

/-- Escapes that give the code of a character with so many digits. -/
def codeEscapes : List (Char × Nat) := [('x', 2), ('u', 4), ('U', 8)]

/-- The character that an escape stands for, and how long the escape is without its backslash. -/
def escapeFrom (name : Char) (rest : List Char) : Except Problem (Char × Nat) :=
  match simpleEscapes.lookup name, codeEscapes.lookup name with
  | some c, _ => .ok (c, 1)
  | none, none => .error .unknownEscape
  | none, some width =>
    match numeral? 16 (rest.take width) with
    | none => .error .noHexDigits
    | some code =>
      if rest.length < width then .error .noHexDigits
      else if code.isValidChar then .ok (Char.ofNat code, width + 1)
      else .error .badEscapeCode

/-- How many characters stand between a backslash and the place where a problem with its escape is
noticed: an escape of digits is told by its name before they are looked at. -/
def noticedBehind : Problem → Nat
  | .unknownEscape => 0
  | _ => 2

/-- A scalar behind its opening quote. `skip` characters belong to what was read before, `passed`
were passed, and `fresh` says that a line begins here. -/
def quotedFrom (double : Bool) (skip passed : Nat) (fresh : Bool) (gap : Gap) :
    List Char → Except Misspelt Spelt
  | [] => .error (.endInQuotes, .quotedScalar, passed)
  | c :: rest =>
    match skip with
    | skip + 1 => quotedFrom double skip (passed + 1) (isBreak c) gap rest
    | 0 =>
      if fresh && isDocumentMarker (c :: rest) then
        .error (.documentInQuotes, .quotedScalar, passed)
      else if isBlank c || isBreak c then
        quotedFrom double 0 (passed + 1) (isBreak c) (gap.add c) rest
      else if c = (if double then '"' else '\'') then
        if !double && rest.head? = some c then
          (quotedFrom double 1 (passed + 1) false .none rest).map (Spelt.behind gap [c])
        else .ok ⟨gap.text, passed + 1, passed + 1, false⟩
      else if double && c = '\\' then
        match rest with
        | [] => .error (.unknownEscape, .quotedEscape, passed)
        | name :: after =>
          if isBreak name then
            (quotedFrom double 1 (passed + 1) false (.lines Option.none []) rest).map
              (Spelt.behind gap [])
          else
            match escapeFrom name after with
            | .error problem => .error (problem, .quotedEscape, passed + noticedBehind problem)
            | .ok (escaped, length) =>
              (quotedFrom double length (passed + 1) false .none rest).map
                (Spelt.behind gap [escaped])
      else (quotedFrom double 0 (passed + 1) false .none rest).map (Spelt.behind gap [c])

/-- Characters with a meaning of their own within brackets. -/
def flowIndicators : List Char := [',', '[', ']', '\x7b', '\x7d']

/-- A plain scalar. In a block it ends where a line starts left of `indent`; `column` is that of the
next character, `length` characters make up the scalar so far and `passed` were passed. -/
def plainFrom (flow : Bool) (indent column length passed : Nat) (gap : Gap) :
    List Char → Except Misspelt Spelt
  | [] => .ok ⟨[], length, passed, gap.hasLines⟩
  | c :: rest =>
    if isBlank c || isBreak c then
      if gap.hasLines && c = '\t' && column < indent then
        .error (.tabAsIndent, .plainScalar, passed)
      else
        plainFrom flow indent (if isBreak c then 0 else column + 1) length (passed + 1) (gap.add c)
          rest
    else if !gap.isNone && !flow && column < indent || column = 0 && isDocumentMarker (c :: rest) ||
        !gap.isNone && c = '#' || c = ':' && isBlankOrEnd rest.head? then
      .ok ⟨[], length, passed, gap.hasLines⟩
    else if flow && c = ':' && rest.head?.any ('?' :: flowIndicators).contains then
      .error (.unexpectedColon, .plainScalar, passed)
    else if flow && flowIndicators.contains c then .ok ⟨[], length, passed, gap.hasLines⟩
    else
      (plainFrom flow indent (column + 1) (passed + 1) (passed + 1) .none rest).map
        (Spelt.behind gap [c])

/-- Does a plain scalar begin here? -/
def beginsPlain (flow : Bool) : List Char → Bool
  | [] => false
  | c :: rest =>
    if c = '-' then !rest.head?.any isBlank
    else if c = '?' || c = ':' then !flow && !isBlankOrEnd rest.head?
    else
      !isBlankOrEnd (some c) &&
        !(flowIndicators ++ ['#', '&', '*', '!', '|', '>', '\'', '"', '%', '@', '\x60']).contains c

end Reshape.Yaml
