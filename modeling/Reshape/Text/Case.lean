import Reshape.Text.CaseTable
import Reshape.Text.Property

/-!
# Upper and lower case

Full case mapping of a text, character by character, with one rule that looks around: a capital
sigma becomes the final form of the small letter when it ends a word.
-/
namespace Reshape.Text

/-- The image of a code point under a table of expansions and runs; without an entry, itself. -/
def mapCode (expansions : Array (Nat × List Nat)) (runs : Array CaseRun) (code : Nat) : List Nat :=
  match expansions.find? (·.1 == code) with
  | some (_, image) => image
  | none =>
    match runs.find? (·.contains code) with
    | some run => [(code + run.offset).toNat]
    | none => [code]

def upperChar (c : Char) : List Char :=
  if c.toNat < 0x80 then [c.toUpper]
  else (mapCode upperExpansions upperRuns c.toNat).map Char.ofNat

def lowerChar (c : Char) : List Char :=
  if c.toNat < 0x80 then [c.toLower]
  else (mapCode lowerExpansions lowerRuns c.toNat).map Char.ofNat

/-- Is the first character that is not skipped in case context a cased one? -/
def casedFollows (cs : List Char) : Bool :=
  match cs.dropWhile isCaseIgnorable with
  | c :: _ => isCased c
  | [] => false

def upper (text : String) : String :=
  String.ofList (text.toList.flatMap upperChar)

/-- The lower case form of the characters after `before`, which holds those already passed, the
nearest first. A capital sigma is final if a cased character stands before it and none after it. -/
def lowerFrom (before : List Char) : List Char → List Char
  | [] => []
  | c :: rest =>
    let image :=
      if c = 'Σ' then
        if casedFollows before && !casedFollows rest then ['ς'] else ['σ']
      else lowerChar c
    image ++ lowerFrom (c :: before) rest

def lower (text : String) : String :=
  String.ofList (lowerFrom [] text.toList)

/-- Do two texts agree when ASCII letters are read without case? -/
def eqIgnoreAsciiCase (a b : String) : Bool :=
  a.toList.map Char.toLower == b.toList.map Char.toLower

end Reshape.Text
