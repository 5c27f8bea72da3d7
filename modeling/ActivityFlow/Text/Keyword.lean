/-!
# Keywords, whatever their case

Keywords of the diagram language are written in any case.  Two letters are the same letter here
when their lower-case forms agree, and three letters have further forms outside ASCII: `s` is also
the long s U+017F, `k` also the Kelvin sign U+212A, and `i` also the dotless and the dotted
i of U+0131 and U+0130.

* `sameLetter` — one letter of a keyword against one character of the text.
* `dropKeyword?` — what follows a keyword at the front of a text.
* `hasKeyword` — whether a text holds a keyword somewhere.
-/

namespace ActivityFlow.Text

/-- Whether a character is a form of the lower-case keyword character `k`. -/
def sameLetter (k c : Char) : Bool :=
  c.toLower == k || (k == 's' && c == '\u017f') || (k == 'k' && c == '\u212a') ||
    (k == 'i' && (c == '\u0131' || c == '\u0130'))

/-- The rest of the text after the keyword it starts with; the keyword is given in lower case. -/
def dropKeyword? : (keyword : List Char) → List Char → Option (List Char)
  | [], cs => some cs
  | k :: ks, c :: cs => if sameLetter k c then dropKeyword? ks cs else none
  | _ :: _, [] => none

/-- Whether the keyword occurs anywhere in the text. -/
def hasKeyword (keyword : List Char) : List Char → Bool
  | [] => (dropKeyword? keyword []).isSome
  | c :: cs => (dropKeyword? keyword (c :: cs)).isSome || hasKeyword keyword cs

/-- What follows the first keyword of a list that the text starts with. -/
def dropOneOf? (keywords : List (List Char)) (cs : List Char) : Option (List Char) :=
  keywords.findSome? (dropKeyword? · cs)

end ActivityFlow.Text
