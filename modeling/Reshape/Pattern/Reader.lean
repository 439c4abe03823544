import Reshape.Pattern
import Reshape.Text.Property
import Reshape.Text.Space

/-!
# Reading patterns

Reads the tree of a regular expression off its text. Counted repetitions and everything else that
ends with a closing brace are not part of the language read here: an opening brace is malformed.
-/
namespace Reshape.Pattern

/-- What is left of a pattern, whether blanks and comments in it count for nothing, and the names
that groups were given so far. -/
structure Scan where
  rest : List Char
  verbose : Bool
  names : List String

namespace Scan

def head? (s : Scan) : Option Char := s.rest.head?

/-- Pass some characters. -/
def skip (s : Scan) (count : Nat) : Scan := { s with rest := s.rest.drop count }

def startsWith (s : Scan) (text : String) : Bool := text.toList.isPrefixOf s.rest

/-- Pass blanks and comments, if they count for nothing. -/
def skipBlanks (s : Scan) : Scan :=
  if s.verbose then { s with rest := go false s.rest } else s
where
  /-- The text behind blanks, in a comment or not. -/
  go (comment : Bool) : List Char → List Char
    | [] => []
    | c :: rest =>
      if comment then go (c ≠ '\n') rest
      else if Text.isWhiteSpace c then go false rest
      else if c = '#' then go true rest
      else c :: rest

/-- The place behind the next character and the blanks there, unless the pattern ends. -/
def next? (s : Scan) : Option Scan :=
  let behind := (s.skip 1).skipBlanks
  if behind.rest.isEmpty then none else some behind

/-- The character behind the next one. Blanks count for nothing there, and one sign of a comment is
passed with the blanks behind it. -/
def second? (s : Scan) : Option Char :=
  let behind := s.rest.drop 1
  let shown := if s.verbose then behind.dropWhile Text.isWhiteSpace else behind
  let shown := if s.verbose && shown.head? = some '#' then
      (shown.drop 1).dropWhile Text.isWhiteSpace
    else shown
  shown.head? <|> behind.head?

end Scan

/-- Characters with a meaning of their own, which a backslash takes from them. -/
def isMeta (c : Char) : Bool :=
  ['\\', '.', '+', '*', '?', '(', ')', '|', '[', ']', '\x7b', '\x7d', '^', '$', '#', '&', '-',
    '~'].contains c

/-- May a backslash stand before a character for no reason? -/
def isEscapable (c : Char) : Bool :=
  isMeta c || (c.toNat < 0x80 && !c.isAlphanum && c ≠ '<' && c ≠ '>')

/-- Escapes that stand for one character. -/
def simpleEscapes : List (Char × Char) :=
  [('a', '\x07'), ('f', '\x0c'), ('t', '\t'), ('n', '\n'), ('r', '\r'), ('v', '\x0b')]

/-- The value of a digit in base sixteen. -/
def hexValue? (c : Char) : Option Nat :=
  if c.isDigit then some (c.toNat - '0'.toNat)
  else if 'a' ≤ c && c ≤ 'f' then some (c.toNat - 'a'.toNat + 10)
  else if 'A' ≤ c && c ≤ 'F' then some (c.toNat - 'A'.toNat + 10)
  else none

/-- The number that so many digits give, at the character in front of them. -/
def codeAt? (value : Nat) : Nat → Scan → Option (Nat × Scan)
  | 0, s => some (value, (s.skip 1).skipBlanks)
  | digits + 1, s => do
    let s ← s.next?
    let digit ← s.head?.bind hexValue?
    codeAt? (16 * value + digit) digits s

/-- The character whose code so many digits give, at the name of its escape. -/
def codedAt? (digits : Nat) (s : Scan) : Option (Literal × Scan) := do
  let (code, behind) ← codeAt? 0 digits s
  if code.isValidChar then some (⟨Char.ofNat code, digits = 2⟩, behind) else none

/-- What an escape at its backslash stands for. -/
def escapeAt? (s : Scan) : Option (Pattern × Scan) := do
  let name := s.skip 1
  let behind := s.skip 2
  let c ← name.head?
  let literal := fun digits => do
    let (l, behind) ← codedAt? digits name
    return (Pattern.literal l, behind)
  if c = 'x' then literal 2
  else if c = 'u' then literal 4
  else if c = 'U' then literal 8
  else if ['p', 'P'].contains c then return (.property, behind.skip 1)
  else if ['d', 's', 'w'].contains c then return (.kind false, behind)
  else if ['D', 'S', 'W'].contains c then return (.kind true, behind)
  else if isEscapable c then return (.literal ⟨c, false⟩, behind)
  else if ['A', 'z'].contains c then return (.place false, behind)
  else if ['b', 'B', '<', '>'].contains c then return (.place true, behind)
  else return (.literal ⟨← simpleEscapes.lookup c, false⟩, behind)

/-- The switch of a letter. -/
def switch? : Char → Option Switch
  | 'i' => some .ignoreCase
  | 'm' => some .manyLines
  | 's' => some .dotMatchesBreak
  | 'U' => some .swapGreed
  | 'u' => some .unicode
  | 'R' => some .carriageReturn
  | 'x' => some .verbose
  | _ => none

/-- Switches up to the sign behind them; those behind a dash are turned off. No switch comes twice,
and a switch stands behind a dash. -/
def switchesFrom? (before : Switches) (on : Bool) : List Char → Option (Switches × List Char)
  | [] => none
  | c :: rest =>
    if c = ':' || c = ')' then
      if !on && (before.getLast?.all fun change => change.2) then none
      else some (before, c :: rest)
    else if c = '-' then if on then switchesFrom? before false rest else none
    else do
      let switch ← switch? c
      if (before.lookup switch).isSome then none
      else switchesFrom? (before ++ [(switch, on)]) on rest

/-- The name of a group up to its closing angle bracket. -/
def nameFrom? (s : Scan) : Option Scan := do
  let isNameChar := fun c : Char =>
    c = '_' || c = '.' || c = '[' || c = ']' || Text.isAlphanumeric c
  let name := s.rest.takeWhile (· ≠ '>')
  let first ← name.head?
  let behind := s.skip (name.length + 1)
  let text := String.ofList name
  if name.length = s.rest.length || !(first = '_' || Text.isAlphabetic first) ||
      !name.all isNameChar || s.names.contains text then none
  else some { behind with names := text :: s.names }

/-- How a parenthesis begins: with switches that stand alone, or with a group and its switches. -/
inductive Opening where
  | switches (changes : Switches)
  | group (changes : Switches)

/-- What a parenthesis opens, at the parenthesis. A group cannot look around. -/
def openingAt? (s : Scan) : Option (Opening × Scan) := do
  let s := (s.skip 1).skipBlanks
  if ["?=", "?!", "?<=", "?<!"].any s.startsWith then none
  else if s.startsWith "?P<" then return (.group [], ← nameFrom? (s.skip 3))
  else if s.startsWith "?<" then return (.group [], ← nameFrom? (s.skip 2))
  else if s.startsWith "?" then
    let (changes, rest) ← switchesFrom? [] true (s.rest.drop 1)
    let behind := { s with rest := rest.drop 1 }
    if rest.head? = some ':' then return (.group changes, behind)
    else if changes.isEmpty then none
    else return (.switches changes, behind)
  else return (.group [], s)

/-- The names of classes of ASCII. -/
def classNames : List String :=
  ["alnum", "alpha", "ascii", "blank", "cntrl", "digit", "graph", "lower", "print", "punct",
    "space", "upper", "word", "xdigit"]

/-- A class with a name, at its bracket. -/
def namedClassAt? (s : Scan) : Option (CharSet × Scan) :=
  if s.startsWith "[:" then
    let negated := (s.skip 2).head? = some '^'
    let begin_ := s.skip (if negated then 3 else 2)
    let name := begin_.rest.takeWhile (· ≠ ':')
    let behind := begin_.skip name.length
    if behind.startsWith ":]" && classNames.contains (String.ofList name) then
      some (.named negated, behind.skip 2)
    else none
  else none

/-- A member of a set: an escape or a character. -/
def memberAt? (s : Scan) : Option (Pattern × Scan) :=
  match s.head? with
  | none => none
  | some '\\' => escapeAt? s
  | some c => some (.literal ⟨c, false⟩, s.skip 1)

/-- A member of a set that is no end of a range. -/
def asCharSet? : Pattern → Option CharSet
  | .literal l => some (.literal l)
  | .kind negated => some (.kind negated)
  | .property => some .property
  | _ => none

/-- A member of a set, or a range of them. A dash in front of a bracket or of another dash makes no
range. -/
def rangeAt? (s : Scan) : Option (CharSet × Scan) := do
  let (first, behind) ← memberAt? s
  let behind := behind.skipBlanks
  let c ← behind.head?
  if c ≠ '-' || behind.second? = some ']' || behind.second? = some '-' then
    return (← asCharSet? first, behind)
  else
    match first, ← memberAt? (← behind.next?) with
    | .literal first, (.literal last, behind) =>
      if first.char ≤ last.char then some (.range first last, behind) else none
    | _, _ => none

/-- The members of a set as one: a single one stands for itself. -/
def unionOf : List CharSet → CharSet
  | [part] => part
  | parts => .union parts

/-- Pass dashes at the begin of a set, which are members. -/
def dashesAt? : Nat → Scan → Option (List CharSet × Scan)
  | 0, _ => none
  | turns + 1, s =>
    if s.head? = some '-' then do
      let (dashes, behind) ← dashesAt? turns (← s.next?)
      return (.literal ⟨'-', false⟩ :: dashes, behind)
    else some ([], s)

/-- The begin of a set at its bracket: whether it is negated, and the members that may only stand
there: dashes, or a closing bracket. -/
def setBeginAt? (s : Scan) : Option ((Bool × List CharSet) × Scan) := do
  let inner ← s.next?
  let negated := inner.head? = some '^'
  let inner ← if negated then inner.next? else some inner
  let (dashes, behind) ← dashesAt? (inner.rest.length + 1) inner
  if dashes.isEmpty && behind.head? = some ']' then
    return ((negated, [.literal ⟨']', false⟩]), ← behind.next?)
  else return ((negated, dashes), behind)

/-- The signs of operations on sets. -/
def operationSigns : List String := ["&&", "--", "~~"]

/-- What is left of a set up to its closing bracket: `left` is what stands in front of the last
operation, and `members` are those read behind it, the last one first. -/
def setFrom? (left : Option CharSet) (members : List CharSet) :
    Nat → Scan → Option (CharSet × Scan)
  | 0, _ => none
  | turns + 1, s => do
    let s := s.skipBlanks
    let right := unionOf members.reverse
    let whole := match left with
      | some left => CharSet.operation left right
      | none => right
    match ← s.head? with
    | ']' => return (whole, s.skip 1)
    | '[' =>
      match namedClassAt? s with
      | some (named, behind) => setFrom? left (named :: members) turns behind
      | none =>
        let ((negated, first), begin_) ← setBeginAt? s
        let (inner, behind) ← setFrom? none first turns begin_
        setFrom? left (.nested negated inner :: members) turns behind
    | _ =>
      if operationSigns.any s.startsWith then setFrom? (some whole) [] turns (s.skip 2)
      else
        let (member, behind) ← rangeAt? s
        setFrom? left (member :: members) turns behind

/-- A set at its bracket. -/
def setAt? (s : Scan) : Option (Pattern × Scan) := do
  let ((negated, first), begin_) ← setBeginAt? s
  let (inner, behind) ← setFrom? none first (begin_.rest.length + 1) begin_
  return (.set negated inner, behind)

/-- Can a pattern be repeated? Switches cannot. -/
def isRepeatable : Pattern → Bool
  | .switches _ => false
  | _ => true

/-- Parts in a row as one pattern: a single one stands for itself. -/
def sequenceOf : List Pattern → Pattern
  | [part] => part
  | parts => .sequence parts

/-- What is left of a pattern, up to its end or to the end of the group it belongs to. `branches`
and `parts` are what was read of it and of its last branch, the last one first. -/
def patternFrom? (inGroup : Bool) (branches parts : List Pattern) :
    Nat → Scan → Option (Pattern × Scan)
  | 0, _ => none
  | turns + 1, s => do
    let s := s.skipBlanks
    let branch := sequenceOf parts.reverse
    let whole := if branches.isEmpty then branch else .choice (branch :: branches).reverse
    match s.head? with
    | none => if inGroup then none else return (whole, s)
    | some ')' => if inGroup then return (whole, s.skip 1) else none
    | some '|' => patternFrom? inGroup (branch :: branches) [] turns (s.skip 1)
    | some '(' =>
      match ← openingAt? s with
      | (.switches changes, behind) =>
        let verbose := (changes.lookup .verbose).getD s.verbose
        patternFrom? inGroup branches (.switches changes :: parts) turns { behind with verbose }
      | (.group changes, behind) =>
        let verbose := (changes.lookup .verbose).getD s.verbose
        let (inner, behind) ← patternFrom? true [] [] turns { behind with verbose }
        patternFrom? inGroup branches (.group changes inner :: parts) turns
          { behind with verbose := s.verbose }
    | some '[' =>
      let (found, behind) ← setAt? s
      patternFrom? inGroup branches (found :: parts) turns behind
    | some '\x7b' => none
    | some '\\' =>
      let (part, behind) ← escapeAt? s
      patternFrom? inGroup branches (part :: parts) turns behind
    | some c =>
      if ['?', '*', '+'].contains c then
        match parts with
        | [] => none
        | last :: before =>
          if isRepeatable last then
            let behind := s.skip 1
            let behind := if behind.head? = some '?' then behind.skip 1 else behind
            patternFrom? inGroup branches (.repeated last :: before) turns behind
          else none
      else
        let part : Pattern :=
          if c = '.' then .dot
          else if c = '^' || c = '$' then .place false
          else .literal ⟨c, false⟩
        patternFrom? inGroup branches (part :: parts) turns (s.skip 1)

/-- The tree of a pattern. -/
def ofText? (cs : List Char) : Option Pattern :=
  (patternFrom? false [] [] (cs.length + 1) ⟨cs, false, []⟩).map (·.1)

end Reshape.Pattern
