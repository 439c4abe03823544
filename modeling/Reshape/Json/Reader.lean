import Reshape.Json.Numeral

/-!
# Reading JSON text

A reader for each part of a JSON text. Containers are read by a loop that is given the reader of
their items, so that the same loops serve for free data and for data of a known shape. Loops end
because each turn steps over a character; nesting ends because it is bounded.
-/
namespace Reshape.Json

def isBlank (c : Char) : Bool := c = ' ' || c = '\n' || c = '\t' || c = '\r'

/-- The place behind blanks. -/
def skipBlanks (c : Cursor) : c.Later := (c.split isBlank).2

/-- Letters that must follow, after the first one of a word such as `null`. -/
def wordAt (value : Value) : List Char → (c : Cursor) → Reading c Value
  | [], c => .ok (value, c.stay)
  | letter :: letters, c =>
    match c.rest with
    | [] => Reading.fail c .endOfValue
    | next :: _ =>
      if next = letter then Reading.from' c.next (wordAt value letters c.next.1)
      else Reading.failPeek c .expectedIdent

/-- The value of a hexadecimal digit. -/
def hexValue? (c : Char) : Option Nat :=
  if c.isDigit then some (c.toNat - '0'.toNat)
  else if 'a' ≤ c ∧ c ≤ 'f' then some (c.toNat - 'a'.toNat + 10)
  else if 'A' ≤ c ∧ c ≤ 'F' then some (c.toNat - 'A'.toNat + 10)
  else none

/-- Where the reader of a string is: among plain characters, behind a backslash, among the bytes of
a hexadecimal escape (how many are left, what they say so far, and the high surrogate before them),
or behind a high surrogate whose partner must follow. -/
inductive StringMode where
  | plain
  | escape
  | hex (left : Nat) (value : Option Nat) (high : Option Nat)
  | partner (high : Nat)
  | partnerEscape (high : Nat)
  deriving Repr

/-- Is this the first unit, or the second one, of a pair that makes one character? -/
def isHighSurrogate (unit : Nat) : Bool := 0xD800 ≤ unit && unit ≤ 0xDBFF

def isLowSurrogate (unit : Nat) : Bool := 0xDC00 ≤ unit && unit ≤ 0xDFFF

/-- What a step within a string leads to: its end, or a mode and the characters found. -/
inductive StringStep where
  | close
  | go (mode : StringMode) (found : List Char)
  deriving Repr

/-- The character behind a backslash. -/
def escapeStep (c : Char) : Option StringStep :=
  match c with
  | '"' => some (.go .plain ['"'])
  | '\\' => some (.go .plain ['\\'])
  | '/' => some (.go .plain ['/'])
  | 'b' => some (.go .plain ['\x08'])
  | 'f' => some (.go .plain ['\x0c'])
  | 'n' => some (.go .plain ['\n'])
  | 'r' => some (.go .plain ['\r'])
  | 't' => some (.go .plain ['\t'])
  | 'u' => some (.go (.hex 4 (some 0) none) [])
  | _ => none

/-- A complete hexadecimal escape, after a high surrogate or not. -/
def unitStep (unit : Nat) (high : Option Nat) : Except Fault StringStep :=
  match high with
  | some first =>
    if isLowSurrogate unit then
      .ok (.go .plain [Char.ofNat (0x10000 + (first - 0xD800) * 0x400 + (unit - 0xDC00))])
    else .error .loneSurrogate
  | none =>
    if isLowSurrogate unit then .error .loneSurrogate
    else if isHighSurrogate unit then .ok (.go (.partner unit) [])
    else .ok (.go .plain [Char.ofNat unit])

/-- One character of a hexadecimal escape, and what its unit leads to once it is complete. -/
def hexStep (left : Nat) (value high : Option Nat) (complete : Nat → Except Fault StringStep)
    (position : Position) (c : Char) : Except SyntaxError StringStep :=
  let longer := do some (16 * (← value) + (← hexValue? c))
  if c.utf8Size < left then .ok (.go (.hex (left - c.utf8Size) longer high) [])
  else
    let behind := if c = '\n' then position.after c else ⟨position.line, position.column + left⟩
    match longer with
    | none => .error ⟨.invalidEscape, behind⟩
    | some unit => (complete unit).mapError (⟨·, behind⟩)

/-- One character of a string. -/
def stringStep (mode : StringMode) (position : Position) (c : Char) :
    Except SyntaxError StringStep :=
  match mode with
  | .plain =>
    if c = '"' then .ok .close
    else if c = '\\' then .ok (.go .escape [])
    else if c.toNat < 0x20 then .error ⟨.controlCharacter, position.afterByte c⟩
    else .ok (.go .plain [c])
  | .escape =>
    match escapeStep c with
    | some step => .ok step
    | none => .error ⟨.invalidEscape, position.afterByte c⟩
  | .hex left value high => hexStep left value high (unitStep · high) position c
  | .partner high =>
    if c = '\\' then .ok (.go (.partnerEscape high) [])
    else .error ⟨.endOfHexEscape, position.afterByte c⟩
  | .partnerEscape high =>
    if c = 'u' then .ok (.go (.hex 4 (some 0) (some high)) [])
    else .error ⟨.endOfHexEscape, position.afterByte c⟩

/-- The characters of a string up to its closing quote, and the place behind it, given what each
character leads to. -/
def stringFrom (step : StringMode → Position → Char → Except SyntaxError StringStep)
    (mode : StringMode) :
    (cs : List Char) → Position →
      Except SyntaxError (List Char × { n : Cursor // n.left ≤ cs.length })
  | [], position => .error ⟨.endOfString, position⟩
  | c :: rest, position =>
    match step mode position c with
    | .error e => .error e
    | .ok .close => .ok ([], ⟨⟨rest, position.after c⟩, Nat.le_succ _⟩)
    | .ok (.go mode found) =>
      match stringFrom step mode rest (position.after c) with
      | .error e => .error e
      | .ok (others, n) => .ok (found ++ others, ⟨n.1, Nat.le_succ_of_le n.2⟩)

/-- A string behind its opening quote. -/
def stringAt (c : Cursor) : Reading c String :=
  match stringFrom stringStep .plain c.rest c.position with
  | .error e => .error e
  | .ok (cs, n) => .ok (String.ofList cs, n)

/-- The items of a list behind its first one, folded into a state; the reader of an item is given
the state so far. Ends behind the closing bracket. -/
def moreItems {σ : Type} (item : σ → (c : Cursor) → Reading c σ) (state : σ) (c : Cursor) :
    Reading c σ :=
  let b := skipBlanks c
  match _h : b.1.rest with
  | [] => Reading.failPeek b.1 .endOfList
  | ']' :: _ => .ok (state, b.then b.1.next)
  | ',' :: _ =>
    let a := skipBlanks b.1.next.1
    match a.1.rest with
    | [] => Reading.failPeek a.1 .endOfValue
    | ']' :: _ => Reading.failPeek a.1 .trailingComma
    | _ :: _ =>
      match item state a.1 with
      | .error e => .error e
      | .ok (state, n) =>
        Reading.from' (b.then (b.1.next.then (a.then n))) (moreItems item state n.1)
  | _ :: _ => Reading.failPeek b.1 .expectedCommaOrBracket
  termination_by c.left
  decreasing_by
    have := Cursor.next_left_lt _h
    exact Nat.lt_of_le_of_lt (Nat.le_trans n.2 a.2) (Nat.lt_of_lt_of_le this b.2)

/-- The items of a list behind its opening bracket, folded into a state. -/
def foldItems {σ : Type} (item : σ → (c : Cursor) → Reading c σ) (state : σ) (c : Cursor) :
    Reading c σ :=
  let b := skipBlanks c
  match b.1.rest with
  | [] => Reading.failPeek b.1 .endOfList
  | ']' :: _ => .ok (state, b.then b.1.next)
  | _ :: _ => Reading.from' b (Reading.andThen (item state b.1) (moreItems item))

/-- A key at its opening quote, and the field it begins. -/
def fieldAt {σ : Type} (field : σ → String → (c : Cursor) → Reading c σ) (state : σ) (c : Cursor) :
    Reading c σ :=
  Reading.from' c.next (Reading.andThen (stringAt c.next.1) fun key n => field state key n)

/-- The fields of an object behind its first one, folded into a state; the reader of a field starts
behind the key. Ends behind the closing brace. -/
def moreFields {σ : Type} (field : σ → String → (c : Cursor) → Reading c σ) (state : σ)
    (c : Cursor) : Reading c σ :=
  let b := skipBlanks c
  match _h : b.1.rest with
  | [] => Reading.failPeek b.1 .endOfObject
  | '}' :: _ => .ok (state, b.then b.1.next)
  | ',' :: _ =>
    let a := skipBlanks b.1.next.1
    match a.1.rest with
    | [] => Reading.failPeek a.1 .endOfValue
    | '"' :: _ =>
      match fieldAt field state a.1 with
      | .error e => .error e
      | .ok (state, n) =>
        Reading.from' (b.then (b.1.next.then (a.then n))) (moreFields field state n.1)
    | '}' :: _ => Reading.failPeek a.1 .trailingComma
    | _ :: _ => Reading.failPeek a.1 .keyNotString
  | _ :: _ => Reading.failPeek b.1 .expectedCommaOrBrace
  termination_by c.left
  decreasing_by
    have := Cursor.next_left_lt _h
    exact Nat.lt_of_le_of_lt (Nat.le_trans n.2 a.2) (Nat.lt_of_lt_of_le this b.2)

/-- The fields of an object behind its opening brace, folded into a state. -/
def foldFields {σ : Type} (field : σ → String → (c : Cursor) → Reading c σ) (state : σ)
    (c : Cursor) : Reading c σ :=
  let b := skipBlanks c
  match b.1.rest with
  | [] => Reading.failPeek b.1 .endOfObject
  | '}' :: _ => .ok (state, b.then b.1.next)
  | '"' :: _ => Reading.from' b (Reading.andThen (fieldAt field state b.1) (moreFields field))
  | _ :: _ => Reading.failPeek b.1 .keyNotString

/-- The place behind the colon of a field. -/
def colonAt (c : Cursor) : Reading c Unit :=
  let b := skipBlanks c
  match b.1.rest with
  | [] => Reading.failPeek b.1 .endOfObject
  | ':' :: _ => .ok ((), b.then b.1.next)
  | _ :: _ => Reading.failPeek b.1 .expectedColon

/-- A field of free data, added to those before it. -/
def freeField (value : (c : Cursor) → Reading c Value) (fields : Fields) (key : String)
    (c : Cursor) : Reading c Fields :=
  Reading.andThen (colonAt c) fun _ n =>
    Reading.andThen (value n) fun v m => .ok (fields.insert key v, m.stay)

/-- An item of free data, put in front of those before it. -/
def freeItem (value : (c : Cursor) → Reading c Value) (items : List Value) (c : Cursor) :
    Reading c (List Value) :=
  Reading.andThen (value c) fun v n => .ok (v :: items, n.stay)

/-- A number at its first character. -/
def numberAt (c : Cursor) : Reading c Number :=
  match c.rest with
  | '-' :: _ => Reading.from' c.next (numeralAt c.next.1 true)
  | _ => numeralAt c false

/-- A value whose containers hold what `inner` reads; without it no container may be opened. -/
def valueWith (inner : Option ((c : Cursor) → Reading c Value)) (c : Cursor) : Reading c Value :=
  let b := skipBlanks c
  let n := b.1.next
  Reading.from' b (match b.1.rest with
  | [] => Reading.failPeek b.1 .endOfValue
  | 'n' :: _ => Reading.from' n (wordAt .null ['u', 'l', 'l'] n.1)
  | 't' :: _ => Reading.from' n (wordAt (.bool true) ['r', 'u', 'e'] n.1)
  | 'f' :: _ => Reading.from' n (wordAt (.bool false) ['a', 'l', 's', 'e'] n.1)
  | '"' :: _ => Reading.from' n (Reading.andThen (stringAt n.1) fun s m => .ok (.text s, m.stay))
  | '[' :: _ =>
    match inner with
    | none => Reading.failPeek b.1 .recursionLimit
    | some value => Reading.from' n (Reading.andThen (foldItems (freeItem value) [] n.1)
        fun items m => .ok (.list items.reverse, m.stay))
  | '{' :: _ =>
    match inner with
    | none => Reading.failPeek b.1 .recursionLimit
    | some value => Reading.from' n (Reading.andThen (foldFields (freeField value) [] n.1)
        fun fields m => .ok (.object fields, m.stay))
  | first :: _ =>
    if first = '-' || first.isDigit then
      Reading.andThen (numberAt b.1) fun number m => .ok (.number number, m.stay)
    else Reading.failPeek b.1 .expectedValue)

/-- A value that may open so many containers within each other. -/
def valueAt : Nat → (c : Cursor) → Reading c Value
  | 0 => valueWith none
  | depth + 1 => valueWith (some (valueAt depth))

/-- How many containers may be open at once. -/
def maxDepth : Nat := 127

/-- Only blanks may follow. -/
def endAt (c : Cursor) : Except SyntaxError Unit :=
  let b := skipBlanks c
  match b.1.rest with
  | [] => .ok ()
  | _ :: _ => .error ⟨.trailingCharacters, b.1.peekPosition⟩

/-- Read a text that holds one value, and say what a check makes of the value before what follows it
in the text is looked at. -/
def readThen {α ε : Type} (text : String) (fault : SyntaxError → ε) (check : Value → Except ε α) :
    Except ε α := do
  let (value, n) ← (valueAt maxDepth (Cursor.start text)).mapError fault
  let result ← check value
  (endAt n.1).mapError fault
  return result

/-- The value of a JSON text. -/
def read (text : String) : Except SyntaxError Value := readThen text id .ok

end Reshape.Json
