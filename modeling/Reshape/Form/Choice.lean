import Reshape.Error
import Reshape.Form
import Reshape.Plan

/-!
# Decoding a kind or a phase

The small closed sets of names that may be written in data: kinds of strategies, phases of errors
and kinds of resolvers.
-/
namespace Reshape

/-- Decode the member of a closed set whose name a value gives. -/
def Form.member {α : Type} (members : List α) (name : α → String) (value : Value) :
    Except Error α := do
  let chosen ← (choice (members.map name) value).mapError Error.json
  match members.find? fun member => name member == chosen with
  | some member => return member
  | none => .error (.json s!"unknown variant `{chosen}`")

def StrategyKind.decode (value : Value) : Except Error StrategyKind :=
  Form.member StrategyKind.all StrategyKind.word value

def Phase.decode (value : Value) : Except Error Phase :=
  Form.member [.compile, .apply, .input] Phase.name value

def ResolverKind.decode (value : Value) : Except Error ResolverKind :=
  Form.member [.function, .lookup] ResolverKind.name value

end Reshape
