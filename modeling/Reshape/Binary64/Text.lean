import Reshape.Binary64.Shortest

/-!
# Decimal text of a number

One writer over the shortest digits, steered by a layout: where the positional form ends, whether a
whole number keeps a fraction, and how an exponent is signed.
-/
namespace Reshape.Binary64

/-- How the digits of a number are laid out. -/
structure Layout where
  /-- Exponents of the leading digit that are written positionally; none: all of them. -/
  positional : Option (Int × Int)
  /-- A positional whole number ends in `.0`. -/
  fraction : Bool
  /-- A positive exponent carries a plus sign. -/
  plus : Bool
  /-- The digits of a number that lies half way between two of the shortest decimals. -/
  tie : Tie
  deriving Repr

/-- Numbers in JSON text: positional from 0.00001 to below 10^16, always with a fraction; beyond,
a signed exponent. -/
def Layout.json : Layout := ⟨some (-5, 15), true, true, .toEven⟩

/-- Numbers in YAML text: as in JSON, but a positive exponent has no sign. -/
def Layout.yaml : Layout := ⟨some (-5, 15), true, false, .toEven⟩

/-- Numbers as plain text: never an exponent, and no fraction on a whole number. -/
def Layout.plain : Layout := ⟨none, false, false, .up⟩

/-- Numbers in descriptions of what was found: never an exponent, always a fraction. -/
def Layout.described : Layout := ⟨none, true, false, .up⟩

private def zeros (n : Nat) : String := String.ofList (List.replicate n '0')

/-- The digits with the point where their place puts it. -/
def Layout.positionalText (layout : Layout) (digits : List Char) (place : Int) : String :=
  let lead := (digits.length : Int) + place
  if 0 ≤ place then
    String.ofList digits ++ zeros place.toNat ++ (if layout.fraction then ".0" else "")
  else if 0 < lead then
    String.ofList (digits.take lead.toNat) ++ "." ++ String.ofList (digits.drop lead.toNat)
  else "0." ++ zeros (-lead).toNat ++ String.ofList digits

/-- One digit, the others behind a point, and the exponent of the first. -/
def Layout.scientificText (layout : Layout) (digits : List Char) (exponent : Int) : String :=
  let fraction := if digits.length ≤ 1 then "" else "." ++ String.ofList (digits.drop 1)
  let sign := if exponent < 0 then "-" else if layout.plus then "+" else ""
  String.ofList (digits.take 1) ++ fraction ++ "e" ++ sign ++ toString exponent.natAbs

/-- The text of a number in a layout. -/
def text (layout : Layout) (x : Binary64) : String :=
  let decimal := x.shortest layout.tie
  let digits := Nat.toDigits 10 decimal.digits
  let exponent := (digits.length : Int) - 1 + decimal.place
  let sign := if x.negative then "-" else ""
  let positional := match layout.positional with
    | none => true
    | some (least, greatest) => x.isZero || (least ≤ exponent && exponent ≤ greatest)
  sign ++ (if positional then layout.positionalText digits decimal.place
    else layout.scientificText digits exponent)

theorem Layout.toList_positionalText (layout : Layout) (digits : List Char) {place : Int}
    (h : 0 ≤ place) :
    (layout.positionalText digits place).toList =
      digits ++ List.replicate place.toNat '0' ++ (if layout.fraction then ['.', '0'] else []) := by
  rw [Layout.positionalText, if_pos h]
  cases layout.fraction <;> simp [zeros]

end Reshape.Binary64
