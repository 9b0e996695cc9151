import Mathlib.Data.List.Basic

/-!
# Patterns

A pattern says what a text looks like, and which parts of it are wanted: these are its groups. There
may be many ways to read a text by a pattern, and they come in an order, as a matcher tries them that
goes back one step whenever it is stuck. A run of characters is tried at full length first, or, if
it is lazy, empty first; something optional is tried before it is left out.

So a pattern has two meanings. One is the list of all its readings of a beginning of the text, in
this order (`Pattern.readings`), and a matcher takes the first that is left with nothing
(`Pattern.captures?`). The other says of a text and of what the groups have whether they go together
(`Pattern.Reads`), and knows of no order. The readings are exactly those of the second meaning
(`Pattern.mem_readings_iff`). Hence it does not matter which one is tried first, if all that read
the whole of a text agree on the groups (`Pattern.captures?_eq_some_iff`).
-/

namespace EnrollmentDesk

/-- What is read of the characters of a text. -/
inductive Pattern where
  /-- So many characters. -/
  | times (n : Nat) (p : Char → Bool)
  /-- Any number of characters: as many as can be, or as few if it is lazy. -/
  | run (p : Char → Bool) (isLazy : Bool)
  /-- One after the other. -/
  | seq (first second : Pattern)
  /-- It, or else nothing. -/
  | optional (inner : Pattern)
  /-- What it reads is kept under a number. -/
  | group (number : Nat) (inner : Pattern)

/-- What the groups of a pattern have, the last one first. -/
abbrev Groups := List (Nat × List Char)

/-- A reading of a text up to a point. -/
structure Reading where
  taken : List Char
  rest : List Char
  groups : Groups
deriving DecidableEq

namespace Reading

/-- A reading, and one of what it left. -/
def append (x y : Reading) : Reading :=
  ⟨x.taken ++ y.taken, y.rest, y.groups ++ x.groups⟩

/-- The reading with all that was taken kept under a number. -/
def keep (number : Nat) (x : Reading) : Reading :=
  { x with groups := (number, x.taken) :: x.groups }

end Reading

namespace Pattern

/-! ### Readings in order -/

/-- The readings of a run of characters, the shortest first. -/
def runs (p : Char → Bool) : List Char → List Reading
  | [] => [⟨[], [], []⟩]
  | c :: s =>
    ⟨[], c :: s, []⟩ ::
      if p c then (runs p s).map fun x => { x with taken := c :: x.taken } else []

/-- The readings of a text by a pattern, in the order in which they are tried. -/
def readings : Pattern → List Char → List Reading
  | times n p, s =>
    if (s.take n).length = n ∧ (s.take n).all p then [⟨s.take n, s.drop n, []⟩] else []
  | run p true, s => runs p s
  | run p false, s => (runs p s).reverse
  | seq first second, s =>
    (first.readings s).flatMap fun x => (second.readings x.rest).map x.append
  | optional inner, s => inner.readings s ++ [⟨[], s, []⟩]
  | group number inner, s => (inner.readings s).map (Reading.keep number)

/-- What the groups have in the first reading of the whole text. -/
def captures? (p : Pattern) (s : List Char) : Option Groups :=
  ((p.readings s).find? fun x => x.rest.isEmpty).map Reading.groups

/-! ### Readings without order -/

/-- The pattern reads the text, and its groups then have this. -/
inductive Reads : Pattern → List Char → Groups → Prop
  | times {n : Nat} {p : Char → Bool} {t : List Char} (length : t.length = n)
      (h : ∀ c ∈ t, p c = true) : Reads (.times n p) t []
  | run {p : Char → Bool} {isLazy : Bool} {t : List Char} (h : ∀ c ∈ t, p c = true) :
      Reads (.run p isLazy) t []
  | seq {first second : Pattern} {t t' : List Char} {g g' : Groups} (h : Reads first t g)
      (h' : Reads second t' g') : Reads (.seq first second) (t ++ t') (g' ++ g)
  | present {inner : Pattern} {t : List Char} {g : Groups} (h : Reads inner t g) :
      Reads (.optional inner) t g
  | absent {inner : Pattern} : Reads (.optional inner) [] []
  | group {number : Nat} {inner : Pattern} {t : List Char} {g : Groups} (h : Reads inner t g) :
      Reads (.group number inner) t ((number, t) :: g)

section Inversion

variable {p : Char → Bool} {n : Nat} {isLazy : Bool} {first second inner : Pattern}
  {t : List Char} {g : Groups}

theorem reads_times_iff :
    (times n p).Reads t g ↔ t.length = n ∧ (∀ c ∈ t, p c = true) ∧ g = [] := by
  constructor
  · rintro ⟨⟩
    exact ⟨‹_›, ‹_›, rfl⟩
  · rintro ⟨length, h, rfl⟩
    exact .times length h

theorem reads_run_iff : (run p isLazy).Reads t g ↔ (∀ c ∈ t, p c = true) ∧ g = [] := by
  constructor
  · rintro ⟨⟩
    exact ⟨‹_›, rfl⟩
  · rintro ⟨h, rfl⟩
    exact .run h

theorem reads_seq_iff : (seq first second).Reads t g ↔ ∃ u v f f',
    first.Reads u f ∧ second.Reads v f' ∧ t = u ++ v ∧ g = f' ++ f := by
  constructor
  · rintro ⟨⟩
    exact ⟨_, _, _, _, ‹_›, ‹_›, rfl, rfl⟩
  · rintro ⟨u, v, f, f', h, h', rfl, rfl⟩
    exact .seq h h'

theorem reads_optional_iff :
    (optional inner).Reads t g ↔ inner.Reads t g ∨ (t = [] ∧ g = []) := by
  constructor
  · rintro ⟨⟩
    · exact .inl ‹_›
    · exact .inr ⟨rfl, rfl⟩
  · rintro (h | ⟨rfl, rfl⟩)
    · exact .present h
    · exact .absent

theorem reads_group_iff :
    (group n inner).Reads t g ↔ ∃ f, inner.Reads t f ∧ g = (n, t) :: f := by
  constructor
  · rintro ⟨⟩
    exact ⟨_, ‹_›, rfl⟩
  · rintro ⟨f, h, rfl⟩
    exact .group h

end Inversion

/-! ### The two meanings -/

section Characters

variable {p : Char → Bool} {s t rest : List Char} {g : Groups}

theorem nil_mem_runs : ⟨[], rest, g⟩ ∈ runs p s ↔ s = rest ∧ g = [] := by
  cases s with
  | nil => simp [runs, eq_comm]
  | cons c s =>
    -- all the later ones take a character
    have later : ⟨[], rest, g⟩ ∉ (runs p s).map fun x => { x with taken := c :: x.taken } := by
      rw [List.mem_map]
      rintro ⟨x, -, ⟨⟩⟩
    rw [runs, List.mem_cons, or_iff_left (by split <;> simp [later]), Reading.mk.injEq]
    simp [eq_comm]

theorem cons_mem_runs {a c : Char} :
    ⟨a :: t, rest, g⟩ ∈ runs p (c :: s) ↔ c = a ∧ p c = true ∧ ⟨t, rest, g⟩ ∈ runs p s := by
  have first : (⟨a :: t, rest, g⟩ : Reading) ≠ ⟨[], c :: s, []⟩ := by rintro ⟨⟩
  rw [runs, List.mem_cons, or_iff_right first]
  by_cases h : p c = true
  · rw [if_pos h, List.mem_map]
    constructor
    · rintro ⟨x, hx, ⟨⟩⟩
      exact ⟨rfl, h, hx⟩
    · rintro ⟨rfl, -, hx⟩
      exact ⟨_, hx, rfl⟩
  · rw [if_neg h]
    exact ⟨fun none => absurd none List.not_mem_nil, fun some => absurd some.2.1 h⟩

/-- The readings of a run: any beginning of the text that has only such characters. -/
theorem mem_runs_iff : ⟨t, rest, g⟩ ∈ runs p s ↔
    s = t ++ rest ∧ (∀ c ∈ t, p c = true) ∧ g = [] := by
  induction t generalizing s with
  | nil => simp [nil_mem_runs]
  | cons a t ih =>
    cases s with
    | nil => simp [runs]
    | cons c s =>
      rw [cons_mem_runs, ih, List.cons_append, List.cons.injEq, List.forall_mem_cons]
      constructor
      · rintro ⟨rfl, hc, rfl, ht, rfl⟩
        exact ⟨⟨rfl, rfl⟩, ⟨hc, ht⟩, rfl⟩
      · rintro ⟨⟨rfl, rfl⟩, ⟨hc, ht⟩, rfl⟩
        exact ⟨rfl, hc, rfl, ht, rfl⟩

/-- So many characters are read in one way, if at all. -/
theorem mem_readings_times_iff {n : Nat} : ⟨t, rest, g⟩ ∈ (times n p).readings s ↔
    s = t ++ rest ∧ t.length = n ∧ (∀ c ∈ t, p c = true) ∧ g = [] := by
  have hread : (times n p).readings s =
      if (s.take n).length = n ∧ (s.take n).all p then [⟨s.take n, s.drop n, []⟩] else [] := rfl
  constructor
  · intro h
    rw [hread] at h
    split at h
    · next ok =>
      obtain ⟨rfl, rfl, rfl⟩ := Reading.mk.inj (List.mem_singleton.1 h)
      exact ⟨(List.take_append_drop n s).symm, ok.1, List.all_eq_true.1 ok.2, rfl⟩
    · exact absurd h List.not_mem_nil
  · rintro ⟨rfl, rfl, ht, rfl⟩
    rw [hread, List.take_left, List.drop_left, if_pos ⟨rfl, List.all_eq_true.2 ht⟩]
    exact List.mem_singleton_self _

end Characters

/-- **The readings of a text** are the ways to cut it so that the pattern reads the first part. -/
theorem mem_readings_iff (p : Pattern) {s t rest : List Char} {g : Groups} :
    ⟨t, rest, g⟩ ∈ p.readings s ↔ s = t ++ rest ∧ p.Reads t g := by
  -- on the pattern, and for all texts, since the second of two patterns gets what the first left
  induction p generalizing s t rest g with
  | times n p => rw [reads_times_iff, mem_readings_times_iff]
  | run p isLazy =>
    rw [reads_run_iff, ← mem_runs_iff]
    cases isLazy with
    | true => exact Iff.rfl
    | false =>
      -- the order is the other way, but the readings are the same
      exact List.mem_reverse
  | seq first second ih ih' =>
    rw [reads_seq_iff]
    simp only [readings, List.mem_flatMap, List.mem_map]
    constructor
    · rintro ⟨⟨u, m, f⟩, hx, ⟨v, r, f'⟩, hy, ⟨⟩⟩
      obtain ⟨rfl, hu⟩ := ih.1 hx
      obtain ⟨rfl, hv⟩ := ih'.1 hy
      exact ⟨(List.append_assoc _ _ _).symm, u, v, f, f', hu, hv, rfl, rfl⟩
    · rintro ⟨rfl, u, v, f, f', hu, hv, rfl, rfl⟩
      -- the first one is left with what the second takes, and with the rest
      exact ⟨⟨u, v ++ rest, f⟩, ih.2 ⟨List.append_assoc _ _ _, hu⟩, ⟨v, rest, f'⟩,
        ih'.2 ⟨rfl, hv⟩, rfl⟩
  | optional inner ih =>
    rw [reads_optional_iff, readings, List.mem_append, ih, List.mem_singleton, Reading.mk.injEq]
    constructor
    · rintro (⟨rfl, h⟩ | ⟨rfl, rfl, rfl⟩)
      · exact ⟨rfl, .inl h⟩
      · exact ⟨rfl, .inr ⟨rfl, rfl⟩⟩
    · rintro ⟨rfl, h | ⟨rfl, rfl⟩⟩
      · exact .inl ⟨rfl, h⟩
      · exact .inr ⟨rfl, rfl, rfl⟩
  | group number inner ih =>
    rw [reads_group_iff]
    simp only [readings, List.mem_map]
    constructor
    · rintro ⟨⟨u, r, f⟩, hx, ⟨⟩⟩
      obtain ⟨rfl, h⟩ := ih.1 hx
      exact ⟨rfl, f, h, rfl⟩
    · rintro ⟨rfl, f, h, rfl⟩
      exact ⟨⟨t, rest, f⟩, ih.2 ⟨rfl, h⟩, rfl⟩

/-- What is captured is of a reading of the whole text. -/
theorem reads_of_find? {p : Pattern} {s : List Char} {x : Reading}
    (found : ((p.readings s).find? fun x => x.rest.isEmpty) = some x) : p.Reads s x.groups := by
  obtain ⟨t, rest, g⟩ := x
  have whole : rest = [] := by simpa using List.find?_some found
  subst whole
  obtain ⟨rfl, reads⟩ := p.mem_readings_iff.1 (List.mem_of_find?_eq_some found)
  rwa [List.append_nil]

/-- **If all readings of a text agree on the groups**, it does not matter which is tried first. -/
theorem captures?_eq_some_iff {p : Pattern} {s : List Char} {g : Groups}
    (agree : ∀ g g', p.Reads s g → p.Reads s g' → g = g') :
    p.captures? s = some g ↔ p.Reads s g := by
  unfold captures?
  constructor
  · intro h
    obtain ⟨x, found, rfl⟩ := Option.map_eq_some_iff.1 h
    exact reads_of_find? found
  · intro reads
    have reading : ⟨s, [], g⟩ ∈ p.readings s :=
      p.mem_readings_iff.2 ⟨(List.append_nil s).symm, reads⟩
    cases found : (p.readings s).find? fun x => x.rest.isEmpty with
    | none => exact absurd rfl (List.find?_eq_none.1 found _ reading)
    | some x =>
      -- the first one need not be this one, but has the same in its groups
      exact congrArg some (agree x.groups g (reads_of_find? found) reads)

end Pattern

end EnrollmentDesk
