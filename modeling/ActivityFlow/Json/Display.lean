import ActivityFlow.Json.Printer
import ActivityFlow.Text.Numeral

/-!
# Showing values to people

Forms of a value other than its JSON text.

* `Json.literal` — the form a value takes inside a description: strings in quotes, the constants
  `None`, `True` and `False`, containers in brackets.
* `Json.plain` — the form a value takes as a part of a name: a string stands for itself, every
  other value for its literal.
* `Json.display` — the form a value takes when it becomes the text of a variable: the same, but for
  null the empty text.

**Not every value can be shown.**  As a numeral that is read may have at most `Text.maxDigits`
digits, so may one that is written.  A larger whole number has no form, and neither has a container
with one inside (`Json.hasText`).  Whoever shows values to people asks `Json.checkText` first.
-/

namespace ActivityFlow

namespace Json

/-- What the special numbers are called in descriptions. -/
def literalNames : Binary64.SpecialNames where
  nan := ['n', 'a', 'n']
  infinite := ['i', 'n', 'f']

mutual

/-- The literal of a value. -/
def literal : Json → List Char
  | null => ['N', 'o', 'n', 'e']
  | bool true => ['T', 'r', 'u', 'e']
  | bool false => ['F', 'a', 'l', 's', 'e']
  | int n => writeInt n
  | real x => x.layout literalNames
  | str s => Text.quoted s.toList
  | arr [] => ['[', ']']
  | arr (item :: items) => '[' :: (literal item ++ literalItems items)
  | obj [] => ['\x7b', '\x7d']
  | obj ((name, value) :: fields) =>
    '\x7b' :: (Text.quoted name.toList ++ ':' :: ' ' :: (literal value ++ literalFields fields))

/-- The literal of an array behind its first item. -/
def literalItems : List Json → List Char
  | [] => [']']
  | item :: items => ',' :: ' ' :: (literal item ++ literalItems items)

/-- The literal of an object behind its first field. -/
def literalFields : List (String × Json) → List Char
  | [] => ['\x7d']
  | (name, value) :: fields =>
    ',' :: ' ' :: (Text.quoted name.toList ++ ':' :: ' ' ::
      (literal value ++ literalFields fields))

end

/-- The text of a value inside a name: a string stands for itself, every other value for its
literal. -/
def plain : Json → String
  | str s => s
  | value => String.ofList value.literal

/-- The text that a value gives to a variable. -/
def display : Json → String
  | null => ""
  | value => value.plain

/-! ## What cannot be shown -/

mutual

/-- Whether a value can be shown: no whole number in it has too many digits. -/
def hasText : Json → Bool
  | int n => n.natAbs < 10 ^ Text.maxDigits
  | arr items => itemsHaveText items
  | obj fields => fieldsHaveText fields
  | _ => true

/-- Whether all items can be shown. -/
def itemsHaveText : List Json → Bool
  | [] => true
  | item :: items => hasText item && itemsHaveText items

/-- Whether the values of all fields can be shown. -/
def fieldsHaveText : List (String × Json) → Bool
  | [] => true
  | (_, value) :: fields => hasText value && fieldsHaveText fields

end

/-- Why a value cannot be shown. -/
inductive TextError where
  | tooManyDigits
  deriving DecidableEq, Repr

/-- The message of an error. -/
def TextError.message : TextError → String
  | tooManyDigits => "Exceeds the limit (" ++ toString Text.maxDigits ++ " digits) for integer " ++
    "string conversion; use sys.set_int_max_str_digits() to increase the limit"

/-- Make sure that a value can be shown. -/
def checkText (value : Json) : Except TextError Unit :=
  if value.hasText then .ok () else .error .tooManyDigits

end Json

end ActivityFlow
