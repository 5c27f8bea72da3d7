import ActivityFlow.Number.Binary64

/-!
# JSON values

Values as they stand in action descriptors, in snapshots of definitions and in what handlers
return.  Two points matter to the rest of the library.

* **The fields of an object keep their order**, the order in which they were first written, and a
  field written again keeps its place and takes the new value (`putField`).
* **Whole numbers are exact.**  Only a number with a fraction or an exponent is one of double
  precision.
-/

namespace ActivityFlow

/-- A JSON value. -/
inductive Json where
  | null
  | bool (value : Bool)
  | int (value : Int)
  | real (value : Binary64)
  | str (value : String)
  | arr (items : List Json)
  | obj (fields : List (String × Json))
  deriving Inhabited, Repr

namespace Json

mutual

/-- Whether two values are the same, numbers and fields in the order in which they stand. -/
def same : Json → Json → Bool
  | null, null => true
  | bool a, bool b => a == b
  | int a, int b => a == b
  | real a, real b => a == b
  | str a, str b => a == b
  | arr a, arr b => sameItems a b
  | obj a, obj b => sameFields a b
  | _, _ => false

/-- Whether two lists of items are the same. -/
def sameItems : List Json → List Json → Bool
  | [], [] => true
  | a :: as, b :: bs => same a b && sameItems as bs
  | _, _ => false

/-- Whether two lists of fields are the same. -/
def sameFields : List (String × Json) → List (String × Json) → Bool
  | [], [] => true
  | (name, a) :: as, (other, b) :: bs => name == other && same a b && sameFields as bs
  | _, _ => false

end

instance : BEq Json := ⟨same⟩

/-- Write a field: in place if the name is taken, at the end otherwise. -/
def putField (name : String) (value : Json) : List (String × Json) → List (String × Json)
  | [] => [(name, value)]
  | field :: rest =>
    if field.1 = name then (field.1, value) :: rest else field :: putField name value rest

/-- The value of a field. -/
def getField? (name : String) : List (String × Json) → Option Json
  | [] => none
  | field :: rest => if field.1 = name then some field.2 else getField? name rest

/-- The value of a field of an object; nothing for other values. -/
def field? (name : String) : Json → Option Json
  | obj fields => getField? name fields
  | _ => none

/-- Whether a value is an object. -/
def isObject : Json → Bool
  | obj _ => true
  | _ => false

/-- The string, if the value is one. -/
def string? : Json → Option String
  | str s => some s
  | _ => none

/-- An optional string, the missing one as null. -/
def ofOption : Option String → Json
  | none => null
  | some s => str s

@[simp] theorem getField?_putField_self (name : String) (value : Json)
    (fields : List (String × Json)) :
    getField? name (putField name value fields) = some value := by
  induction fields with
  | nil => simp [putField, getField?]
  | cons field rest ih =>
    by_cases h : field.1 = name
    · simp [putField, getField?, h]
    · simp [putField, getField?, h, ih]

theorem getField?_putField_of_ne {name other : String} (h : other ≠ name) (value : Json)
    (fields : List (String × Json)) :
    getField? other (putField name value fields) = getField? other fields := by
  induction fields with
  | nil => simp [putField, getField?, h.symm]
  | cons field rest ih =>
    by_cases hf : field.1 = name
    · have : field.1 ≠ other := fun e => h (e.symm.trans hf)
      simp [putField, getField?, hf, h.symm]
    · by_cases ho : field.1 = other
      · simp [putField, getField?, ho, h]
      · simp [putField, getField?, hf, ho, ih]

end Json

end ActivityFlow
