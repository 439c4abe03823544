/-!
# Classes of characters in YAML

What ends a line, what separates words and what may stand for itself.
-/
namespace Reshape.Yaml

/-- Line breaks. -/
def isBreak (c : Char) : Bool :=
  c = '\n' || c = '\r' || c = '\x85' || c = '\u2028' || c = '\u2029'

/-- Blanks within a line. -/
def isBlank (c : Char) : Bool := c = ' ' || c = '\t'

/-- Characters that may stand for themselves. -/
def isPrintable (c : Char) : Bool :=
  let code := c.toNat
  code == 0xA || (0x20 ≤ code && code ≤ 0x7E) ||
    (0xA0 ≤ code && code ≤ 0xFFFD && code != 0xFEFF) || 0x10000 ≤ code

/-- Characters that may occur in a text at all. -/
def isAllowed (c : Char) : Bool :=
  let code := c.toNat
  code == 0x9 || code == 0xA || code == 0xD || (0x20 ≤ code && code ≤ 0x7E) || code == 0x85 ||
    (0xA0 ≤ code && code ≤ 0xFFFD) || 0x10000 ≤ code

/-- Characters of an anchor, a handle or the name of a directive. -/
def isWordChar (c : Char) : Bool := c.isAlphanum || c = '_' || c = '-'

/-- Is this a blank, a break or the end? -/
def isBlankOrEnd : Option Char → Bool
  | none => true
  | some c => isBlank c || c = '\x00' || isBreak c

/-- Does a line begin with the marker of a document's begin or end? -/
def isDocumentMarker : List Char → Bool
  | a :: b :: c :: rest =>
    ([a, b, c] == ['-', '-', '-'] || [a, b, c] == ['.', '.', '.']) && isBlankOrEnd rest.head?
  | _ => false

end Reshape.Yaml
