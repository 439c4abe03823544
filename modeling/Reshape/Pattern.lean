/-!
# Patterns

The tree of a regular expression, and what can be said of it without matching anything: how deep it
lies and whether a matcher can be built from it. The matcher runs over bytes of well-formed text and
has no tables of characters: it knows no classes beyond ASCII and no letter cases, and it cannot
tell where words begin and end outside ASCII.
-/
namespace Reshape

/-- A switch that changes how what follows is read. -/
inductive Switch where
  | ignoreCase
  | manyLines
  | dotMatchesBreak
  | swapGreed
  | unicode
  | carriageReturn
  | verbose
  deriving DecidableEq, Repr

/-- Switches with what they are set to. -/
abbrev Switches := List (Switch × Bool)

/-- A character that stands for itself, and whether it was written as a byte of two digits. -/
structure Literal where
  char : Char
  isByte : Bool
  deriving DecidableEq, Repr

/-- What stands within brackets: a set of characters. -/
inductive CharSet where
  | literal (l : Literal)
  | range (first last : Literal)
  /-- A class with a name, such as that of the letters, of ASCII. -/
  | named (negated : Bool)
  /-- Digits, blanks or characters of words. -/
  | kind (negated : Bool)
  | property
  | nested (negated : Bool) (inner : CharSet)
  | union (parts : List CharSet)
  | operation (left right : CharSet)

inductive Pattern where
  | literal (l : Literal)
  | dot
  /-- A place in the text; one beside a word depends on what belongs to words. -/
  | place (ofWord : Bool)
  | kind (negated : Bool)
  | property
  | set (negated : Bool) (inner : CharSet)
  | switches (changes : Switches)
  | group (changes : Switches) (inner : Pattern)
  | repeated (inner : Pattern)
  | sequence (parts : List Pattern)
  | choice (branches : List Pattern)

/-- What is wrong with a pattern. -/
inductive PatternFault where
  /-- It is malformed, or it needs tables of characters. -/
  | noMatcher
  /-- It asks where words begin and end outside ASCII. -/
  | wordPlace
  deriving DecidableEq, Repr

def PatternFault.message : PatternFault → String
  | .noMatcher => "error building NFA"
  | .wordPlace => "unsupported regex feature for DFAs"

/-- The switches that decide what a matcher needs. -/
structure PatternMode where
  unicode : Bool
  ignoreCase : Bool
  deriving DecidableEq, Repr

namespace PatternMode

/-- Characters are those of Unicode, and their cases differ. -/
def default : PatternMode := ⟨true, false⟩

def set (mode : PatternMode) (changes : Switches) : PatternMode where
  unicode := (changes.lookup .unicode).getD mode.unicode
  ignoreCase := (changes.lookup .ignoreCase).getD mode.ignoreCase

end PatternMode

/-- Can a single character be matched? -/
def Literal.isMatchable (mode : PatternMode) (l : Literal) : Bool :=
  if mode.unicode then !mode.ignoreCase else !l.isByte || l.char.toNat < 0x80

namespace CharSet

mutual

/-- How deep a set lies. -/
def depth : CharSet → Nat
  | .nested _ inner => depth inner + 1
  | .union parts => depthOfParts parts + 1
  | .operation left right => max (depth left) (depth right) + 1
  | _ => 0

def depthOfParts : List CharSet → Nat
  | [] => 0
  | part :: rest => max (depth part) (depthOfParts rest)

end

mutual

/-- Can the characters of a set be told? Over bytes a set has to stay within ASCII, so what is
negated cannot be. -/
def isMatchable (mode : PatternMode) : CharSet → Bool
  | .literal l => isMember l
  | .range first last => isMember first && isMember last
  | .named negated => if mode.unicode then !mode.ignoreCase else !negated
  | .kind negated => !mode.unicode && !negated
  | .property => false
  | .nested negated inner => isMatchable mode inner && (mode.unicode || !negated)
  | .union parts => arePartsMatchable mode parts
  | .operation left right => isMatchable mode left && isMatchable mode right
where
  /-- Can a character be a member? -/
  isMember (l : Literal) : Bool :=
    if mode.unicode then !mode.ignoreCase else l.char.toNat < 0x80

def arePartsMatchable (mode : PatternMode) : List CharSet → Bool
  | [] => true
  | part :: rest => isMatchable mode part && arePartsMatchable mode rest

end
end CharSet

namespace Pattern

mutual

/-- How deep a pattern lies. -/
def depth : Pattern → Nat
  | .set _ inner => inner.depth + 1
  | .group _ inner | .repeated inner => depth inner + 1
  | .sequence [] => 0
  | .sequence parts | .choice parts => depthOfParts parts + 1
  | _ => 0

def depthOfParts : List Pattern → Nat
  | [] => 0
  | part :: rest => max (depth part) (depthOfParts rest)

end

/-- How deep a pattern may lie. -/
def maxDepth : Nat := 250

mutual

/-- The mode behind a pattern and whether it asks for places beside words of Unicode; none if a
matcher would need tables. Switches hold up to the end of their group. -/
def modeBehind? (mode : PatternMode) : Pattern → Option (PatternMode × Bool)
  | .literal l => if l.isMatchable mode then some (mode, false) else none
  | .dot => if mode.unicode then some (mode, false) else none
  | .place ofWord => some (mode, ofWord && mode.unicode)
  | .kind negated => if !mode.unicode && !negated then some (mode, false) else none
  | .property => none
  | .set negated inner =>
    if (CharSet.nested negated inner).isMatchable mode then some (mode, false) else none
  | .switches changes => some (mode.set changes, false)
  | .group changes inner => (modeBehind? (mode.set changes) inner).map fun found => (mode, found.2)
  | .repeated inner => modeBehind? mode inner
  | .sequence parts | .choice parts => modeBehindParts? mode parts

def modeBehindParts? (mode : PatternMode) : List Pattern → Option (PatternMode × Bool)
  | [] => some (mode, false)
  | part :: rest => do
    let (mode, asksHere) ← modeBehind? mode part
    let (mode, asksLater) ← modeBehindParts? mode rest
    return (mode, asksHere || asksLater)

end

/-- Can a matcher be built? -/
def check (pattern : Pattern) : Except PatternFault Unit :=
  match pattern.modeBehind? .default with
  | none => .error .noMatcher
  | some (_, asksForWords) =>
    if maxDepth < pattern.depth then .error .noMatcher
    else if asksForWords then .error .wordPlace
    else .ok ()

end Pattern
end Reshape
