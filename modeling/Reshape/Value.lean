import Reshape.Binary64

/-!
# Values

The data that mappings read and write: a tree of nulls, booleans, numbers, texts, lists and objects.
An object is the list of its fields in order; the operations on fields keep that order and keep keys
distinct.
-/
namespace Reshape

/-- An integer and a float stay apart, even where they are equal numbers. -/
inductive Number where
  | int (n : Int)
  | float (x : Binary64)
  deriving DecidableEq, Repr

/-- One more than the greatest integer of 64 bits with a sign, `2 ^ 63`. -/
abbrev Number.signedBound : Nat := 0x8000000000000000

/-- Does an integer fit 64 bits with a sign? -/
def Number.fitsSigned (n : Int) : Bool := -signedBound ≤ n && n < signedBound

/-- The integer of 64 bits with a sign that differs by a multiple of `2 ^ 64`. -/
def Number.wrapSigned (n : Int) : Int := n.bmod (2 * signedBound)

inductive Value where
  | null
  | bool (b : Bool)
  | number (n : Number)
  | text (s : String)
  | list (items : List Value)
  | object (fields : List (String × Value))
  deriving Repr, Inhabited

/-- Fields of an object in order, with distinct keys. -/
abbrev Fields := List (String × Value)

namespace Fields

/-- The value of a key; the first one, should a list hold the key twice. -/
def get? : Fields → String → Option Value
  | [], _ => none
  | (key, value) :: rest, name => if key = name then some value else get? rest name

def contains (fields : Fields) (name : String) : Bool := (fields.get? name).isSome

def keys (fields : Fields) : List String := fields.map (·.1)

/-- Set a key: in its place if it is there, else at the end. -/
def insert : Fields → String → Value → Fields
  | [], name, new => [(name, new)]
  | (key, value) :: rest, name, new =>
    if key = name then (key, new) :: rest else (key, value) :: insert rest name new

/-- Add a key at the end unless it is there. -/
def insertNew (fields : Fields) (name : String) (new : Value) : Fields :=
  if fields.contains name then fields else fields ++ [(name, new)]

/-- Fields from a list in which a key may recur: it keeps its first place and its last value. -/
def ofList (entries : List (String × Value)) : Fields :=
  entries.foldl (fun fields entry => fields.insert entry.1 entry.2) []

@[simp] theorem get?_nil (name : String) : get? [] name = none := rfl

theorem get?_cons (key : String) (value : Value) (rest : Fields) (name : String) :
    get? ((key, value) :: rest) name = if key = name then some value else get? rest name := rfl

theorem get?_insert (fields : Fields) (name other : String) (new : Value) :
    (fields.insert name new).get? other =
      if name = other then some new else fields.get? other := by
  induction fields with
  | nil => simp [insert, get?]
  | cons field rest ih =>
    obtain ⟨key, value⟩ := field
    by_cases hk : key = name
    · subst hk
      simp only [insert, if_pos, get?]
      split <;> rfl
    · simp only [insert, if_neg hk, get?, ih]
      by_cases ho : key = other
      · subst ho
        rw [if_pos rfl, if_neg (Ne.symm hk), if_pos rfl]
      · simp [ho]

end Fields

namespace Value

/-- A text value. -/
instance : Coe String Value := ⟨Value.text⟩

def int (n : Int) : Value := .number (.int n)

def isNull : Value → Bool
  | .null => true
  | _ => false

/-- The value of a key, if this is an object that has it. -/
def get? : Value → String → Option Value
  | .object fields, name => Fields.get? fields name
  | _, _ => none

/-- What kind of value this is, in a word. -/
def kind : Value → String
  | .null => "null"
  | .bool _ => "boolean"
  | .number _ => "number"
  | .text _ => "string"
  | .list _ => "array"
  | .object _ => "object"

/-- Is a result left out of its parent object? Null and the empty text are; zero, false and empty
containers are not. -/
def isSuppressed : Value → Bool
  | .null => true
  | .text s => s.isEmpty
  | _ => false

end Value
end Reshape
