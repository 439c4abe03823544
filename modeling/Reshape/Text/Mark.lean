/-!
# Marks

Where a character stands in a text: its line and its column, both counted in characters from zero. A
message counts them from one.
-/
namespace Reshape.Text

/-- A line and a column from zero. -/
structure Mark where
  line : Nat
  column : Nat
  deriving DecidableEq, Repr

namespace Mark

def start : Mark := ⟨0, 0⟩

/-- The mark behind a character within a line. -/
def next (m : Mark) : Mark := ⟨m.line, m.column + 1⟩

/-- The mark behind a line break. -/
def nextLine (m : Mark) : Mark := ⟨m.line + 1, 0⟩

/-- The place in words, counted from one. -/
def text (m : Mark) : String := s!"line {m.line + 1} column {m.column + 1}"

end Mark
end Reshape.Text
