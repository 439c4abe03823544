import Reshape.Json.Writer
import Reshape.Report.Tree
import Reshape.Text.Space
import Reshape.Yaml.Writer

/-!
# Writing reports

Data and trees are written in one of four formats. Messages around them are for human readers: the
machine formats leave them out, and so does a quiet writer.
-/
namespace Reshape.Report

inductive Format where
  | human
  | json
  | jsonPretty
  | yaml
  deriving DecidableEq, Repr

namespace Format

def word : Format → String
  | .human => "human"
  | .json => "json"
  | .jsonPretty => "json-pretty"
  | .yaml => "yaml"

def all : List Format := [.human, .json, .jsonPretty, .yaml]

/-- The format of a word. -/
def ofWord? (word : String) : Option Format := all.find? fun format => format.word == word

/-- Data in a format; human readers get the pretty form. -/
def dataText : Format → Value → String
  | .json, value => Json.compact value
  | .human, value | .jsonPretty, value => Json.pretty value
  | .yaml, value => Yaml.write value

end Format

structure Writer where
  format : Format
  color : Bool
  quiet : Bool
  deriving DecidableEq, Repr

namespace Writer

/-- A line of output. -/
def line (content : String) : String := content ++ "\n"

/-- Does the writer show messages? -/
def speaks (writer : Writer) : Bool := !writer.quiet && writer.format = .human

/-- What is going on. -/
def info (writer : Writer) (message : String) : String :=
  if !writer.speaks then ""
  else if writer.color then line (Paint.blue.apply "ℹ" ++ " " ++ message)
  else line ("INFO: " ++ message)

/-- What went well. -/
def success (writer : Writer) (message : String) : String :=
  if !writer.speaks then ""
  else line (if writer.color then Paint.green.apply message else message)

/-- A title between two rules, under an empty line. -/
def title (writer : Writer) (text : String) : String :=
  if !writer.speaks then ""
  else if writer.color then line "" ++ line (Paint.brightBlue.apply s!"═══ {text} ═══")
  else line "" ++ line s!"=== {text} ==="

/-- Data, without blanks behind them. -/
def data (writer : Writer) (value : Value) : String :=
  line (Text.trimEnd Text.isWhiteSpace (writer.format.dataText value))

/-- The tree of a plan. -/
def tree (writer : Writer) (plan : Level) : String :=
  let tree := treeOfLevel plan
  let text := match writer.format with
    | .human => treeText writer.color tree
    | format => format.dataText (.list (treeValues tree))
  line (Text.trimEnd Text.isWhiteSpace text)

end Writer
end Reshape.Report
