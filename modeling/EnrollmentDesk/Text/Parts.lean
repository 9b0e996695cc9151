/-!
# Parts of a text

A text is cut at marks into parts: one part more than there are marks, some of them perhaps empty.
-/

namespace EnrollmentDesk.Text

/-- One more character in front of the first part. -/
def consPart (c : Char) : List (List Char) → List (List Char)
  | [] => [[c]]
  | w :: ws => (c :: w) :: ws

/-- The parts of a text between the marks for which `p` holds. -/
def parts (p : Char → Bool) : List Char → List (List Char)
  | [] => [[]]
  | c :: s => if p c then [] :: parts p s else consPart c (parts p s)

/-- The text before and after the first mark, if there is one. -/
def cutAt (p : Char → Bool) : List Char → Option (List Char × List Char)
  | [] => none
  | c :: s => if p c then some ([], s) else (cutAt p s).map fun (a, b) => (c :: a, b)

/-- The text before and after the last mark, if there is one. -/
def cutAtLast (p : Char → Bool) (s : List Char) : Option (List Char × List Char) :=
  (cutAt p s.reverse).map fun (b, a) => (a.reverse, b.reverse)

end EnrollmentDesk.Text
