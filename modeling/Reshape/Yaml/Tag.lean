import Reshape.Yaml.Spelling

/-!
# Tags and directives

A tag says of what kind a node is. It is written in full between angle brackets, or as a handle and
a rest, where a directive at the head of the document says what the handle stands for. Octets that
cannot be written in a tag are escaped, so a tag is a list of octets and need not be a text.
-/
namespace Reshape.Yaml

/-- A tag in full: the octets of its text. -/
abbrev Tag := List UInt8

namespace Tag

def ofText (text : String) : Tag := text.toUTF8.toList

/-- What the tags of the common kinds of data begin with. -/
def coreStart : Tag := ofText "tag:yaml.org,2002:"

/-- The tag of a common kind of data. -/
def core (kind : String) : Tag := coreStart ++ ofText kind

/-- The tag that says no more than that there is one. -/
def bare : Tag := ofText "!"

/-- Does the tag begin with a mark of its own, as one that is only known to a program? -/
def isMarked (tag : Tag) : Bool := bare.isPrefixOf tag

/-- Can the tag be read as a text? -/
def isText (tag : Tag) : Bool := (String.fromUTF8? ⟨tag.toArray⟩).isSome

end Tag

/-- What is left of a text, and how many characters were passed. -/
structure Ahead where
  rest : List Char
  passed : Nat

namespace Ahead

def skip (a : Ahead) (count : Nat) : Ahead := ⟨a.rest.drop count, a.passed + count⟩

/-- The longest run of characters in front that satisfy a condition, and what is behind it. -/
def split (a : Ahead) (p : Char → Bool) : String × Ahead :=
  let run := a.rest.takeWhile p
  (String.ofList run, a.skip run.length)

def skipBlanks (a : Ahead) : Ahead := (a.split isBlank).2

def fail {α : Type} (a : Ahead) (problem : Problem) (construct : Construct) : Except Misspelt α :=
  .error (problem, construct, a.passed)

/-- Does a blank, a break or the end follow? -/
def atBlank (a : Ahead) : Bool := isBlankOrEnd a.rest.head?

end Ahead

/-- Does a character stand for itself in a tag? Within angle brackets a few more do. -/
def isUriChar (verbatim : Bool) (c : Char) : Bool :=
  isWordChar c ||
    [';', '/', '?', ':', '@', '&', '=', '+', '$', '.', '!', '~', '*', '\'', '(', ')'].contains c ||
    (verbatim && [',', '[', ']'].contains c)

/-- How many octets follow the first octet of a character. -/
def octetsBehind? (octet : Nat) : Option Nat :=
  if octet < 0x80 then some 0
  else if 0xC0 ≤ octet && octet < 0xE0 then some 1
  else if 0xE0 ≤ octet && octet < 0xF0 then some 2
  else if 0xF0 ≤ octet && octet < 0xF8 then some 3
  else none

/-- The octets of a tag and what is behind them. `pending` octets of an escaped character are still
to come. -/
def uriFrom (verbatim : Bool) (pending passed : Nat) :
    List Char → Except (Problem × Nat) (Tag × Ahead)
  | '%' :: high :: low :: rest =>
    match numeral? 16 [high, low] with
    | none => .error (.noTagOctet, passed)
    | some octet =>
      let following? := if pending = 0 then octetsBehind? octet
        else if 0x80 ≤ octet && octet < 0xC0 then some (pending - 1)
        else none
      match following? with
      | none =>
        .error (if pending = 0 then .badLeadingOctet else .badTrailingOctet, passed)
      | some pending =>
        (uriFrom verbatim pending (passed + 3) rest).map fun (octets, behind) =>
          (octet.toUInt8 :: octets, behind)
  | c :: rest =>
    if pending > 0 || c = '%' then .error (.noTagOctet, passed)
    else if isUriChar verbatim c then
      (uriFrom verbatim 0 (passed + 1) rest).map fun (octets, behind) =>
        (c.toNat.toUInt8 :: octets, behind)
    else .ok ([], ⟨c :: rest, passed⟩)
  | [] => if pending > 0 then .error (.noTagOctet, passed) else .ok ([], ⟨[], passed⟩)

/-- The octets of a tag that are at a place. There is one at least, unless it may be empty. -/
def uriAt (verbatim mayBeEmpty : Bool) (construct : Construct) (a : Ahead) :
    Except Misspelt (Tag × Ahead) :=
  match uriFrom verbatim 0 a.passed a.rest with
  | .error (problem, passed) => .error (problem, construct, passed)
  | .ok (octets, behind) =>
    if octets.isEmpty && !mayBeEmpty then behind.fail .noTagUri construct
    else .ok (octets, behind)

/-- What a tag is written as: a handle, which is empty if the tag is in full, and the rest. -/
structure WrittenTag where
  handle : String
  rest : Tag
  deriving DecidableEq, Repr

namespace WrittenTag

/-- A tag between angle brackets. -/
def verbatimAt (a : Ahead) : Except Misspelt (WrittenTag × Ahead) := do
  let (octets, behind) ← uriAt true false .tagUri (a.skip 2)
  if behind.rest.head? = some '>' then return (⟨"", octets⟩, behind.skip 1)
  else behind.fail .noTagClose .tag

/-- A tag with a handle: one between two marks, or the mark alone. -/
def shortAt (a : Ahead) : Except Misspelt (WrittenTag × Ahead) := do
  let (name, behind) := (a.skip 1).split isWordChar
  if behind.rest.head? = some '!' then
    let (octets, behind) ← uriAt false false .tagUri (behind.skip 1)
    return (⟨s!"!{name}!", octets⟩, behind)
  else
    let (octets, behind) ← uriAt false true .tagUri (a.skip 1)
    return (if octets.isEmpty then ⟨"", Tag.bare⟩ else ⟨"!", octets⟩, behind)

/-- A tag and how many characters it takes. Within brackets a comma may stand behind it. -/
def read (flow : Bool) (cs : List Char) : Except Misspelt (WrittenTag × Nat) := do
  let start : Ahead := ⟨cs, 0⟩
  let (tag, behind) ←
    if (cs.drop 1).head? = some '<' then verbatimAt start else shortAt start
  if behind.atBlank || (flow && behind.rest.head? = some ',') then return (tag, behind.passed)
  else behind.fail .noTagEnd .tag

end WrittenTag

/-- A line at the head of a document. -/
inductive Directive where
  | version (major minor : Nat)
  /-- What the tags of a handle begin with. -/
  | handle (name : String) (start : Tag)
  deriving DecidableEq, Repr

namespace Directive

/-- A number of a version, of at most nine digits. -/
def numberAt (a : Ahead) : Except Misspelt (Nat × Ahead) :=
  let digits := a.rest.takeWhile Char.isDigit
  if digits.length > 9 then (a.skip 9).fail .longVersionNumber .versionDirective
  else
    match numeral? 10 digits with
    | none => a.fail .noVersionNumber .versionDirective
    | some n => .ok (n, a.skip digits.length)

def versionAt (a : Ahead) : Except Misspelt (Directive × Ahead) := do
  let (major, behind) ← numberAt a.skipBlanks
  if behind.rest.head? = some '.' then
    let (minor, behind) ← numberAt (behind.skip 1)
    return (.version major minor, behind)
  else behind.fail .noVersionPoint .versionDirective

/-- A handle: a mark alone, or a name between two of them. -/
def nameAt (a : Ahead) : Except Misspelt (String × Ahead) :=
  if a.rest.head? = some '!' then
    let (name, behind) := (a.skip 1).split isWordChar
    if behind.rest.head? = some '!' then .ok (s!"!{name}!", behind.skip 1)
    else if name.isEmpty then .ok ("!", behind)
    else behind.fail .noHandleMark .handleUri
  else a.fail .noHandleMark .handle

def handleAt (a : Ahead) : Except Misspelt (Directive × Ahead) := do
  let (name, behind) ← nameAt a.skipBlanks
  if !behind.rest.head?.any isBlank then behind.fail .noHandleEnd .tagDirective
  else
    let (start, behind) ← uriAt true false .tagDirectiveUri behind.skipBlanks
    if behind.atBlank then return (.handle name start, behind)
    else behind.fail .noTagEnd .tagDirective

/-- A directive at its percent sign, how many characters it takes, and how many its line takes. -/
def read (cs : List Char) : Except Misspelt (Directive × Nat × Nat) := do
  let start : Ahead := ⟨cs, 0⟩
  let (name, behind) := (start.skip 1).split isWordChar
  if name.isEmpty then behind.fail .noDirectiveName .directive
  else if !behind.atBlank then behind.fail .badDirectiveName .directive
  else
    let (directive, behind) ←
      if name = "YAML" then versionAt behind
      else if name = "TAG" then handleAt behind
      else behind.fail .unknownDirective .directive
    let blanks := behind.skipBlanks
    let comment := if blanks.rest.head? = some '#' then (blanks.split fun c => !isBreak c).2
      else blanks
    if comment.rest.head?.all isBreak then
      return (directive, behind.passed, (comment.skip comment.rest.head?.toList.length).passed)
    else comment.fail .noLineBreak .directive

end Directive

/-- What the handles of a document stand for. -/
abbrev Handles := List (String × Tag)

/-- The handles that every document has. -/
def Handles.common : Handles := [("!", Tag.bare), ("!!", Tag.coreStart)]

/-- A tag in full, if its handle is known. The handles of the document go before the common ones. -/
def WrittenTag.resolve? (handles : Handles) (tag : WrittenTag) : Option Tag :=
  if tag.handle.isEmpty then some tag.rest
  else ((handles ++ Handles.common).lookup tag.handle).map (· ++ tag.rest)

end Reshape.Yaml
