import Reshape.Yaml.Spelling

/-!
# Block scalars

A scalar that is written as the lines below an indicator, all indented by at least as much as the
first one. A literal scalar keeps its line breaks; a folded one turns a single break between two
lines that begin at the indentation into a space. What becomes of the breaks at its end depends on a
sign behind the indicator.
-/
namespace Reshape.Yaml

/-- What becomes of the breaks at the end of a block scalar. -/
inductive Chomping where
  /-- One stays. -/
  | clip
  /-- None stays. -/
  | strip
  /-- All stay. -/
  | keep
  deriving DecidableEq, Repr

/-- A line and the break that ends it. -/
abbrev Line := List Char × Option Char

/-- The lines of a text. -/
def splitLines : List Char → List Line
  | [] => [([], none)]
  | c :: rest =>
    if isBreak c then ([], some c) :: splitLines rest
    else
      match splitLines rest with
      | [] => [([c], none)]
      | (line, stop) :: lines => (c :: line, stop) :: lines

/-- How many characters a line takes with its break. -/
def Line.length (line : Line) : Nat := line.1.length + line.2.toList.length

/-- How many spaces a line begins with. -/
def indentOf (cs : List Char) : Nat := (cs.takeWhile (· = ' ')).length

/-- The head of a block scalar: how breaks at its end are treated, the indentation if it is given,
and how many characters the head takes. -/
structure BlockHead where
  chomping : Chomping
  indent : Option Nat
  length : Nat

/-- What becomes of the breaks at the end, if a character says so. -/
def Chomping.ofSign? (c : Char) : Option Chomping :=
  if c = '+' then some .keep else if c = '-' then some .strip else none

/-- The signs at the begin of a head: one for the breaks at the end and a digit for the indentation,
in either order, and how many characters they take. -/
def BlockHead.signs (cs : List Char) : Option Chomping × Option Char × Nat :=
  let digit? := fun cs : List Char => cs.head?.filter Char.isDigit
  match cs.head?.bind Chomping.ofSign?, digit? cs with
  | some chomping, _ =>
    let digit := digit? (cs.drop 1)
    (some chomping, digit, 1 + digit.toList.length)
  | none, some digit =>
    let chomping := (cs.drop 1).head?.bind Chomping.ofSign?
    (chomping, some digit, 1 + chomping.toList.length)
  | none, none => (none, none, 0)

/-- Read the head of a block scalar behind its indicator. -/
def BlockHead.ofLine (cs : List Char) : Except Misspelt BlockHead :=
  let (chomping, digit, length) := signs cs
  if digit = some '0' then
    .error (.zeroIndent, .blockScalar, (cs.takeWhile (· ≠ '0')).length)
  else
    let behind := cs.drop length
    let rest := behind.dropWhile isBlank
    if rest.isEmpty || rest.head? = some '#' then
      .ok ⟨chomping.getD .clip, digit.bind (digitIn? 10), cs.length⟩
    else .error (.noLineBreak, .blockScalar, length + (behind.length - rest.length))

/-- The indentation of a block scalar: that of its first line that is not blank, but at least
`least`, and no less than that of the blank lines in front of it. No tab may stand behind the spaces
of these lines. -/
def detectIndent (least passed : Nat) : List Line → Except Misspelt Nat
  | [] => .ok least
  | (cs, stop) :: rest =>
    let here := max least (indentOf cs)
    if (cs.drop (indentOf cs)).head? = some '\t' then
      .error (.tabForIndent, .blockScalar, passed + indentOf cs)
    else if cs.all (· = ' ') && stop.isSome then
      detectIndent here (passed + Line.length (cs, stop)) rest
    else .ok here

/-- The text of the lines of a block scalar, and how many characters they take. `first` is the break
behind the last line that was not blank, `more` are those of the blank lines since, and `blank` says
whether that line began with a blank. -/
def blockLines (folded : Bool) (chomping : Chomping) (indent passed : Nat) (first more : List Char)
    (blank : Bool) : List Line → Except Misspelt (List Char × Nat)
  | [] => .ok (ending, passed)
  | (cs, stop) :: rest =>
    let line : Line := (cs, stop)
    if cs.all (· = ' ') && cs.length ≤ indent then
      match stop with
      | none => .ok (ending, passed)
      | some c =>
        blockLines folded chomping indent (passed + line.length) first (more ++ [c]) blank rest
    else if indentOf cs < indent then
      if (cs.drop (indentOf cs)).head? = some '\t' then
        .error (.tabForIndent, .blockScalar, passed + indentOf cs)
      else .ok (ending, passed)
    else
      let content := cs.drop indent
      let beginsBlank := content.head?.any isBlank
      let joined := folded && first = ['\n'] && !blank && !beginsBlank
      let gap := if joined then (if more.isEmpty then [' '] else more) else first ++ more
      (blockLines folded chomping indent (passed + line.length) stop.toList [] beginsBlank rest).map
        fun (text, count) => (gap ++ content ++ text, count)
where
  /-- The breaks at the end that stay. -/
  ending : List Char :=
    match chomping with
    | .strip => []
    | .clip => first
    | .keep => first ++ more

/-- A block scalar behind its indicator, in a block at a column. -/
def blockFrom (folded : Bool) (column : Option Nat) (cs : List Char) : Except Misspelt Spelt :=
  match splitLines cs with
  | [] => .ok ⟨[], 0, 0, true⟩
  | (headLine, stop) :: lines => do
    let head ← BlockHead.ofLine headLine
    let outer := (column.map (· + 1)).getD 0
    let passed := Line.length (headLine, stop)
    let indent ← match head.indent with
      | some increment => .ok (column.getD 0 + increment)
      | none => detectIndent (max 1 outer) passed lines
    let (text, count) ← blockLines folded head.chomping indent passed [] [] false lines
    return ⟨text, count, count, true⟩

end Reshape.Yaml
