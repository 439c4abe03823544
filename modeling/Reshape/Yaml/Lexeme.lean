import Reshape.Yaml.BlockScalar
import Reshape.Yaml.Tag

/-!
# Lexemes of YAML

The text as a list of scalars and of the marks around them. Indentation becomes explicit: a block
begins and ends with a lexeme of its own, and every key of a mapping stands behind a lexeme that
says so. Where the text is malformed the list ends with the fault.

Whether a scalar or a bracketed collection is a key shows only at the colon behind it, on the same
line. Until then it is a candidate, and the lexemes from its place on are not settled.

An anchor has a number: how many names had been given when it was written. A name that is given
again adds none, so the anchor behind it may have the same number; a reference means the last anchor
of its number.
-/
namespace Reshape.Yaml

open Text (Mark)

/-- How a scalar is written. -/
inductive ScalarStyle where
  | plain
  | quoted
  | literal
  | folded
  deriving DecidableEq, Repr

inductive Lexeme where
  | directive (directive : Directive)
  | documentStart
  | documentEnd
  | sequenceStart
  | mappingStart
  | blockEnd
  | entry
  | flowSequenceStart
  | flowSequenceEnd
  | flowMappingStart
  | flowMappingEnd
  | comma
  | key
  | value
  | anchor (number : Nat)
  /-- A reference to the anchor of a number; none if its name was not given. -/
  | reference (number : Option Nat)
  | tag (tag : WrittenTag)
  | scalar (text : String) (style : ScalarStyle)
  | textEnd
  deriving DecidableEq, Repr

/-- A lexeme and the marks in front of it and behind it. -/
structure Located where
  lexeme : Lexeme
  start : Mark
  stop : Mark
  deriving DecidableEq, Repr

/-- A lexeme, or the fault in its place. -/
abbrev Lexemes := List Located × Option SyntaxError

/-- What may turn out to be a key: where it begins, how many lexemes stand in front of it, and
whether it must be one. -/
structure Candidate where
  mark : Mark
  index : Nat
  place : Nat
  required : Bool

/-- The text ahead, its mark and how many characters were passed; the columns of the blocks around
it, innermost first; the candidates within brackets, innermost first, and outside; whether a key may
begin here; the names given so far with the numbers of their anchors; and the lexemes so far, latest
first. -/
structure Lexer where
  rest : List Char
  mark : Mark
  passed : Nat
  indents : List Nat
  candidate : Option Candidate
  outer : List (Option Candidate)
  keyAllowed : Bool
  names : List (String × Nat)
  lexemes : List Located

namespace Lexer

def start (cs : List Char) : Lexer := ⟨cs, .start, 0, [], none, [], true, [], []⟩

/-- Is this within brackets? -/
def inFlow (l : Lexer) : Bool := !l.outer.isEmpty

/-- Pass some characters. -/
def skip (l : Lexer) : Nat → Lexer
  | 0 => l
  | n + 1 =>
    match l.rest with
    | [] => l
    | c :: rest =>
      let mark := if isBreak c then l.mark.nextLine else l.mark.next
      skip { l with rest, mark, passed := l.passed + 1 } n

/-- Note a lexeme that takes no text. -/
def note (l : Lexer) (lexeme : Lexeme) : Lexer :=
  { l with lexemes := ⟨lexeme, l.mark, l.mark⟩ :: l.lexemes }

/-- Pass some characters as a lexeme. -/
def take (l : Lexer) (lexeme : Lexeme) (length : Nat) : Lexer :=
  let behind := l.skip length
  { behind with lexemes := ⟨lexeme, l.mark, behind.mark⟩ :: l.lexemes }

def fail (l : Lexer) {α : Type} (problem : Problem) (within : Option (Construct × Mark)) :
    Except SyntaxError α :=
  .error ⟨problem, l.mark, within⟩

/-- Pass blanks, breaks and comments up to the next lexeme. A tab does not count as a blank where a
key may begin. -/
def skipBlanks (l : Lexer) : Lexer := go l.inFlow false l.rest l
where
  go (flow comment : Bool) : List Char → Lexer → Lexer
    | [], l => l
    | c :: rest, l =>
      if isBreak c then
        go flow false rest { l.skip 1 with keyAllowed := l.keyAllowed || !flow }
      else if comment || c = ' ' || (c = '\t' && (flow || !l.keyAllowed)) ||
          (c = '\uFEFF' && l.mark.column = 0) then
        go flow comment rest (l.skip 1)
      else if c = '#' then go flow true rest (l.skip 1)
      else l

/-- Can a candidate no longer be a key, since its line has ended or it is too long? -/
def isStale (l : Lexer) (candidate : Candidate) : Bool :=
  candidate.mark.line < l.mark.line || candidate.index + 1024 < l.passed

/-- The fault that a candidate had to be a key. -/
def failKey (l : Lexer) {α : Type} (candidate : Candidate) : Except SyntaxError α :=
  l.fail .noColon (some (.simpleKey, candidate.mark))

/-- A candidate, unless it is stale. -/
def fresh (l : Lexer) : Option Candidate → Except SyntaxError (Option Candidate)
  | none => .ok none
  | some candidate =>
    if !l.isStale candidate then .ok (some candidate)
    else if candidate.required then l.failKey candidate
    else .ok none

/-- Drop the stale candidates. -/
def dropStale (l : Lexer) : Except SyntaxError Lexer := do
  let outer ← l.outer.mapM l.fresh
  return { l with outer, candidate := ← l.fresh l.candidate }

/-- The current candidate is no key. -/
def dropCandidate (l : Lexer) : Except SyntaxError Lexer :=
  match l.candidate with
  | some candidate =>
    if candidate.required then l.failKey candidate else .ok { l with candidate := none }
  | none => .ok l

/-- What begins here may be a key. It must be one where the items of a block begin. -/
def addCandidate (l : Lexer) : Except SyntaxError Lexer :=
  if l.keyAllowed then do
    let required := !l.inFlow && l.indents.head? == some l.mark.column
    return { ← l.dropCandidate with
      candidate := some ⟨l.mark, l.passed, l.lexemes.length, required⟩ }
  else .ok l

/-- Does a block that begins at a column lie deeper than the blocks around it? -/
def isDeeper (l : Lexer) (column : Nat) : Bool :=
  !l.inFlow && l.indents.head?.all fun indent => indent < column

/-- Begin a block here if this is deeper than the blocks around it. -/
def openBlock (l : Lexer) (lexeme : Lexeme) : Lexer :=
  if l.isDeeper l.mark.column then
    { l.note lexeme with indents := l.mark.column :: l.indents }
  else l

/-- End the blocks that satisfy a condition on their columns, from the innermost one. -/
def closeBlocks (l : Lexer) (ends : Nat → Bool) : Lexer :=
  if l.inFlow then l
  else go l.indents l
where
  go : List Nat → Lexer → Lexer
    | [], l => l
    | indent :: outer, l =>
      if ends indent then go outer { l.note .blockEnd with indents := outer } else l

/-- The end of the text ends all blocks. It counts as the begin of a line. -/
def atEnd (l : Lexer) : Except SyntaxError Lexer := do
  let l := if l.mark.column = 0 then l else { l with mark := l.mark.nextLine }
  let l ← (l.closeBlocks fun _ => true).dropCandidate
  return { l.note .textEnd with keyAllowed := false }

/-- The begin or the end of a document ends all blocks. -/
def documentMarker (l : Lexer) (lexeme : Lexeme) : Except SyntaxError Lexer := do
  let l ← (l.closeBlocks fun _ => true).dropCandidate
  return { l.take lexeme 3 with keyAllowed := false }

/-- An opening bracket. -/
def openFlow (l : Lexer) (lexeme : Lexeme) : Except SyntaxError Lexer := do
  let l ← l.addCandidate
  return { l.take lexeme 1 with
    outer := l.candidate :: l.outer, candidate := none, keyAllowed := true }

/-- A closing bracket. -/
def closeFlow (l : Lexer) (lexeme : Lexeme) : Except SyntaxError Lexer := do
  let l ← l.dropCandidate
  let l := match l.outer with
    | [] => l
    | candidate :: outer => { l with candidate, outer }
  return { l.take lexeme 1 with keyAllowed := false }

def comma (l : Lexer) : Except SyntaxError Lexer := do
  return { (← l.dropCandidate).take .comma 1 with keyAllowed := true }

/-- The dash of an item. -/
def entry (l : Lexer) : Except SyntaxError Lexer := do
  if !l.inFlow && !l.keyAllowed then l.fail .sequenceEntryNotAllowed none
  else
    let l ← (l.openBlock .sequenceStart).dropCandidate
    return { l.take .entry 1 with keyAllowed := true }

/-- The question mark of a key. -/
def key (l : Lexer) : Except SyntaxError Lexer := do
  if !l.inFlow && !l.keyAllowed then l.fail .mappingKeyNotAllowed none
  else
    let l ← (l.openBlock .mappingStart).dropCandidate
    return { l.take .key 1 with keyAllowed := !l.inFlow }

/-- Lexemes with others put in at a place from the front. -/
def insertAt (l : Lexer) (place : Nat) (added : List Located) : List Located :=
  let behind := l.lexemes.length - place
  l.lexemes.take behind ++ added.reverse ++ l.lexemes.drop behind

/-- The colon of a value, which makes a key of the candidate. -/
def value (l : Lexer) : Except SyntaxError Lexer := do
  match ← l.fresh l.candidate with
  | some candidate =>
    let mark := candidate.mark
    let deeper := l.isDeeper mark.column
    let added : List Located :=
      (if deeper then [⟨.mappingStart, mark, mark⟩] else []) ++ [⟨.key, mark, mark⟩]
    let l := { l with
      lexemes := l.insertAt candidate.place added
      indents := if deeper then mark.column :: l.indents else l.indents
      candidate := none
      keyAllowed := false }
    return l.take .value 1
  | none =>
    if !l.inFlow && !l.keyAllowed then l.fail .mappingValueNotAllowed none
    else
      let l := { l.openBlock .mappingStart with candidate := none, keyAllowed := !l.inFlow }
      return l.take .value 1

/-- The fault that what begins here is misspelt behind some characters. -/
def failSpelling (l : Lexer) {α : Type} (ahead : Nat) : Misspelt → Except SyntaxError α
  | (problem, construct, passed) =>
    (l.skip (ahead + passed)).fail problem (some (construct, l.mark))

/-- A scalar that was read behind some characters that belong to it. -/
def spelt (l : Lexer) (style : ScalarStyle) (ahead : Nat) :
    Except Misspelt Spelt → Except SyntaxError Lexer
  | .error misspelt => l.failSpelling ahead misspelt
  | .ok s =>
    let behind := l.skip (ahead + s.passed)
    let stop := (l.skip (ahead + s.length)).mark
    .ok { behind with
      lexemes := ⟨.scalar (String.ofList s.text) style, l.mark, stop⟩ :: l.lexemes
      keyAllowed := s.endsLine }

/-- The name of an anchor behind its sign. -/
def label (l : Lexer) (construct : Construct) : Except SyntaxError String :=
  let name := (l.rest.drop 1).takeWhile isWordChar
  let behind := (l.rest.drop (name.length + 1)).head?
  let ends := isBlankOrEnd behind ||
    behind.any (['?', ':', ',', ']', '\x7d', '%', '@', '\x60'].contains ·)
  if name.isEmpty || !ends then
    (l.skip (name.length + 1)).fail .noLabel (some (construct, l.mark))
  else .ok (String.ofList name)

/-- Give a name to the node that begins here. -/
def anchor (l : Lexer) : Except SyntaxError Lexer := do
  let l ← l.addCandidate
  let name ← l.label .anchor
  let number := l.names.length
  let after := l.take (.anchor number) (name.length + 1)
  let others := l.names.filter fun given => given.1 != name
  return { after with keyAllowed := false, names := (name, number) :: others }

/-- A reference to an anchor. -/
def reference (l : Lexer) : Except SyntaxError Lexer := do
  let l ← l.addCandidate
  let name ← l.label .reference
  let after := l.take (.reference (l.names.lookup name)) (name.length + 1)
  return { after with keyAllowed := false }

def tag (l : Lexer) : Except SyntaxError Lexer := do
  let l ← l.addCandidate
  match WrittenTag.read l.inFlow l.rest with
  | .error misspelt => l.failSpelling 0 misspelt
  | .ok (tag, length) => return { l.take (.tag tag) length with keyAllowed := false }

/-- A directive takes its whole line. It ends all blocks. -/
def directive (l : Lexer) : Except SyntaxError Lexer := do
  let l ← (l.closeBlocks fun _ => true).dropCandidate
  match Directive.read l.rest with
  | .error misspelt => l.failSpelling 0 misspelt
  | .ok (directive, length, passed) =>
    let after := (l.take (.directive directive) length).skip (passed - length)
    return { after with keyAllowed := false }

/-- Read the lexemes up to the next one that takes text, or to the end. -/
def next (before : Lexer) : Except SyntaxError Lexer := do
  let blanksPassed := before.skipBlanks
  let l := blanksPassed.closeBlocks fun indent => blanksPassed.mark.column < indent
  let blankBehind := isBlankOrEnd (l.rest.drop 1).head?
  match l.rest with
  | [] => l.atEnd
  | c :: rest =>
    if l.mark.column = 0 && c = '%' then l.directive
    else if l.mark.column = 0 && isDocumentMarker l.rest then
      l.documentMarker (if c = '-' then .documentStart else .documentEnd)
    else if c = '[' then l.openFlow .flowSequenceStart
    else if c = '\x7b' then l.openFlow .flowMappingStart
    else if c = ']' then l.closeFlow .flowSequenceEnd
    else if c = '\x7d' then l.closeFlow .flowMappingEnd
    else if c = ',' then l.comma
    else if c = '-' && blankBehind then l.entry
    else if c = '?' && (l.inFlow || blankBehind) then l.key
    else if c = ':' && (l.inFlow || blankBehind) then l.value
    else if c = '*' then l.reference
    else if c = '&' then l.anchor
    else if c = '!' then l.tag
    else if c = '\'' || c = '"' then do
      (← l.addCandidate).spelt .quoted 1 (quotedFrom (c = '"') 0 0 false .none rest)
    else if !l.inFlow && (c = '|' || c = '>') then do
      let style := if c = '>' then ScalarStyle.folded else .literal
      (← l.dropCandidate).spelt style 1 (blockFrom (c = '>') l.indents.head? rest)
    else if beginsPlain l.inFlow l.rest then do
      let indent := (l.indents.head?.map (· + 1)).getD 0
      (← l.addCandidate).spelt .plain 0 (plainFrom l.inFlow indent l.mark.column 0 0 .none l.rest)
    else l.fail .strangeCharacter (some (.nextLexeme, l.mark))

/-- The lexemes that no candidate can change any more. -/
def settled (l : Lexer) : List Located :=
  let places := (l.candidate :: l.outer).filterMap fun candidate => candidate.map (·.place)
  l.lexemes.reverse.take (places.foldl min l.lexemes.length)

/-- Read all lexemes. Each turn passes a character or comes to the end, so as many turns as
characters and one are enough. -/
def run : Nat → Lexer → Lexemes
  | 0, l => (l.lexemes.reverse, none)
  | turns + 1, l =>
    match l.dropStale with
    | .error e => (l.settled, some e)
    | .ok l =>
      match l.next with
      | .error e => (l.settled, some e)
      | .ok after =>
        if after.lexemes.head?.any fun located => located.lexeme = .textEnd then
          (after.lexemes.reverse, none)
        else run turns after

end Lexer

/-- The lexemes of a text. -/
def lexemes (text : String) : Lexemes :=
  let cs := unifyBreaks text.toList
  (Lexer.start cs).run (cs.length + 1)
where
  /-- The line breaks of several systems as one. -/
  unifyBreaks : List Char → List Char
    | '\r' :: '\n' :: rest => '\n' :: unifyBreaks rest
    | c :: rest => (if c = '\r' || c = '\x85' then '\n' else c) :: unifyBreaks rest
    | [] => []

end Reshape.Yaml
