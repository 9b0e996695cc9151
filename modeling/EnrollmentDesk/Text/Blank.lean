/-!
# Blank characters

What people type is cut into words, and freed of its margins, at *blank* characters: those with the
Unicode property `White_Space`. The set is wider than the white space of ASCII (it has the no-break
space, the ideographic space and the line separators) and does not hold the zero-width ones.
-/

namespace EnrollmentDesk.Text

/-- A character with the Unicode property `White_Space`. -/
def isBlank (c : Char) : Bool :=
  let n := c.toNat
  (9 ≤ n && n ≤ 13) || n == 0x20 || n == 0x85 || n == 0xA0 || n == 0x1680 ||
    (0x2000 ≤ n && n ≤ 0x200A) || n == 0x2028 || n == 0x2029 || n == 0x202F || n == 0x205F ||
    n == 0x3000

/-- The text without its blank margins. -/
def trimChars (s : List Char) : List Char :=
  ((s.dropWhile isBlank).reverse.dropWhile isBlank).reverse

/-- The text without its blank margins. -/
def trim (s : String) : String :=
  .ofList (trimChars s.toList)

/-- One more word in front, unless it is empty. -/
def consWord (w : List Char) (ws : List (List Char)) : List (List Char) :=
  if w.isEmpty then ws else w :: ws

/-- The word the text begins with (empty if it begins with a blank), and the words after it. -/
def splitWord : List Char → List Char × List (List Char)
  | [] => ([], [])
  | c :: s =>
    let (w, ws) := splitWord s
    if isBlank c then ([], consWord w ws) else (c :: w, ws)

/-- The words of a text: its longest runs of characters that are not blank, in order. -/
def words (s : List Char) : List (List Char) :=
  let (w, ws) := splitWord s
  consWord w ws

end EnrollmentDesk.Text
