import ActivityFlow.Json.Display
import ActivityFlow.Text.Blank
import ActivityFlow.Text.Scan

/-!
# Placeholders in parameters

A parameter may refer to variables of the instance: `{{city}}`, two braces around a
name, stands for the value of the variable `city`.  Blanks around the name are allowed.

* `placeholder?` — the placeholder at the front of a text, if there is one.
* `fill` — a text with every placeholder of a known name replaced by the text of its value.
* `fillAll?` — the same for all parameters, which fails if one of the values has no text.

**One pass, from left to right.**  A value is put in as it is.  Should it look like a placeholder,
it stays one, and a placeholder whose name is unknown stays as it was written.
-/

namespace ActivityFlow.Template

/-- Whether a character may stand in the name of a placeholder: an ASCII letter or digit, the
underscore, the point and the hyphen. -/
def isNameChar (c : Char) : Bool :=
  c.isAlphanum || c == '_' || c == '.' || c == '-'

/-- The braces that close a placeholder, with what follows them. -/
def closing? : List Char → Option (List Char)
  | '\x7d' :: '\x7d' :: rest => some rest
  | _ => none

/-- What follows the opening braces: the name, and the text behind the placeholder. -/
def nameAndRest? (cs : List Char) : Option (List Char × List Char) :=
  let body := Text.skipBlank cs
  let name := body.takeWhile isNameChar
  if name.isEmpty then none
  else (closing? (Text.skipBlank (body.dropWhile isNameChar))).map fun rest => (name, rest)

/-- The placeholder at the front of a text: its name, and the text behind it. -/
def placeholder? : List Char → Option (List Char × List Char)
  | '\x7b' :: '\x7b' :: cs => nameAndRest? cs
  | _ => none

/-- The value to which a placeholder at the front of a text refers, with the text behind it. -/
def reference? (value? : String → Option Json) (cs : List Char) : Option (Json × List Char) :=
  match placeholder? cs with
  | some (name, rest) => (value? (String.ofList name)).map fun value => (value, rest)
  | none => none

/-- The replacement of a placeholder at the front of a text, with the text behind it. -/
def replacement? (value? : String → Option Json) (cs : List Char) :
    Option (List Char × List Char) :=
  (reference? value? cs).map fun (value, rest) => (value.display.toList, rest)

/-- A text with its placeholders replaced. -/
def fill (value? : String → Option Json) (text : String) : String :=
  String.ofList (Text.replaceMatches (replacement? value?) 0 text.toList)

/-- Parameters with their placeholders replaced, under the same keys in the same order. -/
def fillAll (value? : String → Option Json) (params : List (String × String)) :
    List (String × String) :=
  params.map fun param => (param.1, fill value? param.2)

/-- Whether the values to which parameters refer can all be shown. -/
def canFill (value? : String → Option Json) (params : List (String × String)) : Bool :=
  params.all fun param =>
    (Text.allMatches (reference? value?) 0 param.2.toList).all Json.hasText

/-- Parameters with their placeholders replaced, if the values can be shown. -/
def fillAll? (value? : String → Option Json) (params : List (String × String)) :
    Except Json.TextError (List (String × String)) :=
  if canFill value? params then .ok (fillAll value? params) else .error .tooManyDigits

theorem map_fst_fillAll (value? : String → Option Json) (params : List (String × String)) :
    (fillAll value? params).map Prod.fst = params.map Prod.fst := by
  simp [fillAll]

end ActivityFlow.Template
