/-!
# Colours of a terminal

Text between the codes that switch a colour or weight on and off. Where the text itself switches all
off, the colour is switched on again behind that.
-/
namespace Reshape.Report

/-- A colour or weight by its codes. -/
structure Paint where
  codes : String
  deriving DecidableEq, Repr

namespace Paint

def bold : Paint := ⟨"1"⟩
def green : Paint := ⟨"32"⟩
def blue : Paint := ⟨"34"⟩
def cyan : Paint := ⟨"36"⟩
def brightBlue : Paint := ⟨"94"⟩
def boldRed : Paint := ⟨"1;31"⟩

/-- The code that switches all off. -/
def reset : String := "\x1b[0m"

/-- The code that switches a paint on. -/
def start (paint : Paint) : String := "\x1b[" ++ paint.codes ++ "m"

/-- The text in this colour or weight. -/
def apply (paint : Paint) (text : String) : String :=
  paint.start ++ (reset ++ paint.start).intercalate (text.splitOn reset) ++ reset

end Paint
end Reshape.Report
