import ActivityFlow.Json.Display
import ActivityFlow.OrderedMap
import ActivityFlow.Text.Folding

/-!
# Variables of an instance

Every running instance has a bag of variables.  Names are compared after case folding, so `City` and
`CITY` are one variable.  The bag lists a variable under the spelling of its first write, at the
place of that write, until the variable is removed.

The bag is the ordered map of the library with case folding for the canonical form, and all its
laws are laws of that map.
-/

namespace ActivityFlow

/-- The variables of an instance. -/
abbrev VariableBag := KeyedMap Text.fold Json

namespace VariableBag

/-- The value of a variable, or a default. -/
def getD (bag : VariableBag) (name : String) (default : Json) : Json :=
  (bag.get? name).getD default

/-- Why an operation on a bag fails. -/
inductive BagError where
  /-- There is no such variable; the folded name is reported. -/
  | missing (folded : String)
  deriving DecidableEq, Repr

/-- The message of an error. -/
def BagError.message : BagError → String
  | missing folded => folded

/-- The value of a variable that has to be there. -/
def require (bag : VariableBag) (name : String) : Except BagError Json :=
  match bag.get? name with
  | some value => .ok value
  | none => .error (.missing (Text.fold name))

/-- Remove a variable that has to be there, and answer with its value. -/
def take (bag : VariableBag) (name : String) : Except BagError (Json × VariableBag) :=
  match bag.get? name with
  | some value => .ok (value, bag.erase name)
  | none => .error (.missing (Text.fold name))

/-- The value of a variable, written now if it is not there. -/
def getOrPut (bag : VariableBag) (name : String) (default : Json) : Json × VariableBag :=
  match bag.get? name with
  | some value => (value, bag)
  | none => (default, bag.put name default)

/-- Whether a value names a variable; only a string can. -/
def containsKey (bag : VariableBag) (key : Json) : Bool :=
  key.string?.any bag.contains

/-- The bag as a JSON object. -/
def toJson (bag : VariableBag) : Json :=
  .obj bag.entries

/-- The bag as it is shown in a description. -/
def describe (bag : VariableBag) : Except Json.TextError String := do
  bag.toJson.checkText
  return "VariableBag(" ++ String.ofList bag.toJson.literal ++ ")"

end VariableBag

end ActivityFlow
