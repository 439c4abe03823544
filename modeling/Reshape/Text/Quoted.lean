import Reshape.Text.Property

/-!
# Text between quotes, with unprintable characters escaped

The form in which texts are shown to a reader who must tell every character apart: quotes and
backslashes are escaped, so are control and other unprintable characters and those that would merge
with the character before them.
-/
namespace Reshape.Text

/-- One character of a quoted text. -/
def quotedChar (c : Char) : String :=
  if c = '"' then "\\\""
  else if c = '\\' then "\\\\"
  else if c = '\n' then "\\n"
  else if c = '\r' then "\\r"
  else if c = '\t' then "\\t"
  else if c = '\x00' then "\\0"
  else if isGraphemeExtend c || isUnprintable c then
    "\\u\x7b" ++ String.ofList (Nat.toDigits 16 c.toNat) ++ "\x7d"
  else c.toString

/-- The text between double quotes. -/
def quoted (text : String) : String :=
  "\"" ++ String.join (text.toList.map quotedChar) ++ "\""

end Reshape.Text
