/-!
# Markup of chat messages

Messages are sent as marked-up text, in which `<`, `>` and `&` have a meaning. Names and codes come
from people, so each of these characters in them is replaced by its entity. The ampersand is
replaced first: an entity brings one of its own, which no later replacement touches.
-/

namespace EnrollmentDesk.Text

/-- Every occurrence of one character replaced by a text. -/
def replaceChar (c : Char) (w : List Char) (s : List Char) : List Char :=
  s.flatMap fun x => if x = c then w else [x]

/-- The entity of the ampersand. -/
def ampEntity : List Char := ['&', 'a', 'm', 'p', ';']

/-- The entity of the less-than sign. -/
def ltEntity : List Char := ['&', 'l', 't', ';']

/-- The entity of the greater-than sign. -/
def gtEntity : List Char := ['&', 'g', 't', ';']

/-- A text in which no character is markup. -/
def escapeChars (s : List Char) : List Char :=
  replaceChar '>' gtEntity (replaceChar '<' ltEntity (replaceChar '&' ampEntity s))

/-- A text in which no character is markup. -/
def escape (s : String) : String :=
  .ofList (escapeChars s.toList)

end EnrollmentDesk.Text
