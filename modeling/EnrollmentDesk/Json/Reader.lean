import EnrollmentDesk.Json.Token

/-!
# Reading JSON

The reader takes one token at a time and keeps the containers it is inside of on a stack. A text
nested more than 127 deep is refused.
-/

namespace EnrollmentDesk.Json

/-- An open container: its items or members so far, in reverse. -/
inductive Frame where
  | arr (items : List Json)
  | obj (members : List (String × Json)) (name : String)

namespace Reader

/-- What may come next. -/
inductive Expect where
  /-- A value; also the end of an array if it is still empty. -/
  | value (orClose : Bool)
  /-- A name of a member; also the end of an object if it is still empty. -/
  | name (orClose : Bool)
  | colon
  /-- A comma or the end of the innermost container. -/
  | more
  | nothing (result : Json)

/-- The machine: what may come next, and the containers it is inside of. -/
structure State where
  expect : Expect
  stack : List Frame

/-- How deep containers may be nested. -/
def maxDepth : Nat := 127

/-- A complete value goes into the innermost container, or is the result. -/
def place (j : Json) : List Frame → State
  | [] => ⟨.nothing j, []⟩
  | .arr items :: stack => ⟨.more, .arr (j :: items) :: stack⟩
  | .obj members name :: stack => ⟨.more, .obj ((name, j) :: members) "" :: stack⟩

/-- The innermost container ends, if it is of the given kind. -/
def close (square : Bool) : List Frame → Option State
  | .arr items :: stack => if square then some (place (.arr items.reverse) stack) else none
  | .obj members _ :: stack => if square then none else some (place (.obj members.reverse) stack)
  | [] => none

/-- A container begins. -/
def enter (square : Bool) (stack : List Frame) : Option State :=
  if maxDepth ≤ stack.length then none
  else if square then some ⟨.value true, .arr [] :: stack⟩
  else some ⟨.name true, .obj [] "" :: stack⟩

/-- One token. -/
def step (s : State) (t : Token) : Option State :=
  match s.expect, t with
  | .value _, .scalar j => some (place j s.stack)
  | .value _, .str x => some (place (.str x) s.stack)
  | .value _, .open_ square => enter square s.stack
  | .value true, .close true => close true s.stack
  | .name _, .str x =>
    match s.stack with
    | .obj members _ :: stack => some ⟨.colon, .obj members x :: stack⟩
    | _ => none
  | .name true, .close false => close false s.stack
  | .colon, .colon => some ⟨.value false, s.stack⟩
  | .more, .comma =>
    match s.stack with
    | .arr _ :: _ => some ⟨.value false, s.stack⟩
    | .obj _ _ :: _ => some ⟨.name false, s.stack⟩
    | [] => none
  | .more, .close square => close square s.stack
  | _, _ => none

end Reader

/-- Reads a JSON text. -/
def read? (s : String) : Option Json := do
  let tokens ← Lexer.tokens? s.toList
  let final ← tokens.foldlM Reader.step ⟨.value false, []⟩
  match final.expect with
  | .nothing j => some j
  | _ => none

end EnrollmentDesk.Json
