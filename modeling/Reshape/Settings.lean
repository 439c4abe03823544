import Reshape.Form
import Reshape.Mapper
import Reshape.Transform.Table

/-!
# Settings

What a settings file may say: the settings of the mapper, named lookup tables and a logging section.
Every part may be missing. The origin that is used is the command line's, else the environment's if
it is not empty, else the file's.
-/
namespace Reshape

/-- The logging section of a settings file. -/
structure LoggingSection where
  level : Option String
  format : Option String
  deriving DecidableEq, Repr

structure Settings where
  mapper : Mapper.Config
  lookups : LookupTables
  logging : LoggingSection
  deriving Repr

/-- The text of a part that may be missing or null. -/
def Value.textPart? (value : Value) (name : String) : Option String :=
  match value.get? name with
  | some (.text s) => some s
  | _ => none

namespace Mapper.Config

def form : Form := .record "MapperConfig" [("origin", .text), ("validate", .flag)]

/-- What a value of this form says. -/
def ofForm (value : Value) : Config where
  origin := (value.textPart? "origin").getD default.origin
  validate :=
    match value.get? "validate" with
    | some (.bool b) => b
    | _ => default.validate

/-- Decode the settings of a mapper. -/
def decode (value : Value) : Except Error Config :=
  ((form.read value).mapError Error.json).map ofForm

end Mapper.Config

namespace LookupTables

def form : Form := .table (.table .free)

/-- What a value of this form says; a table that is no object is empty. -/
def ofForm : Value → LookupTables
  | .object fields => fields.foldl (fun tables field => tables.add field.1 (entries field.2)) empty
  | _ => empty
where
  /-- The entries of a table. -/
  entries : Value → Fields
    | .object table => table
    | _ => []

/-- Decode a set of named tables. -/
def decode (value : Value) : Except Error LookupTables :=
  ((form.read value).mapError Error.json).map ofForm

end LookupTables

namespace LoggingSection

def form : Form :=
  .record "LoggingSection" [("level", .optional .text), ("format", .optional .text)]

def ofForm (value : Value) : LoggingSection := ⟨value.textPart? "level", value.textPart? "format"⟩

def toValue (section_ : LoggingSection) : Value :=
  let part := fun s : Option String => (s.map Value.text).getD .null
  .object [("level", part section_.level), ("format", part section_.format)]

end LoggingSection

namespace Settings

def default : Settings := ⟨.default, .empty, ⟨none, none⟩⟩

def form : Form :=
  .record "Config" [("mapper", Mapper.Config.form), ("lookups", LookupTables.form),
    ("logging", LoggingSection.form)]

/-- What a value of this form says. -/
def ofForm (value : Value) : Settings where
  mapper := ((value.get? "mapper").map Mapper.Config.ofForm).getD default.mapper
  lookups := ((value.get? "lookups").map LookupTables.ofForm).getD default.lookups
  logging := ((value.get? "logging").map LoggingSection.ofForm).getD default.logging

/-- Decode settings from a value. -/
def decode (value : Value) : Except Error Settings :=
  ((form.read value).mapError Error.json).map ofForm

/-- The settings under an origin of the environment; an empty one does not count. -/
def overrideOrigin (settings : Settings) (origin : Option String) : Settings :=
  match origin with
  | some origin =>
    if origin.isEmpty then settings
    else { settings with mapper := { settings.mapper with origin } }
  | none => settings

/-- The settings of the mapper under an origin of the command line. -/
def mapperConfig (settings : Settings) (origin : Option String) : Mapper.Config :=
  match origin with
  | some origin => { settings.mapper with origin }
  | none => settings.mapper

end Settings
end Reshape
