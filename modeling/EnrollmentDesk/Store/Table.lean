/-!
# Tables

A table holds rows in increasing order of their keys, no two with the same key. Putting a row in
replaces the row with its key, if there is one.
-/

namespace EnrollmentDesk

/-- Rows in increasing order of their keys. -/
structure Table (α : Type) (key : α → Int) where
  rows : List α
  increasing : rows.Pairwise fun a b => key a < key b

namespace Table

variable {α : Type} {key : α → Int}

instance [DecidableEq α] : DecidableEq (Table α key) := fun a b =>
  if h : a.rows = b.rows then
    isTrue (by cases a; cases b; cases h; rfl)
  else isFalse fun e => h (e ▸ rfl)

theorem ext_rows {a b : Table α key} (h : a.rows = b.rows) : a = b := by
  cases a; cases b; cases h; rfl

instance : Membership α (Table α key) := ⟨fun t r => r ∈ t.rows⟩

/-- The table without rows. -/
def empty : Table α key := ⟨[], .nil⟩

/-- The row with the given key. -/
def get? (t : Table α key) (k : Int) : Option α :=
  t.rows.find? fun r => key r == k

/-- Whether a row has the given key. -/
def contains (t : Table α key) (k : Int) : Bool :=
  (t.get? k).isSome

/-- The table with the row, in place of any row with the same key. -/
def put (t : Table α key) (r : α) : Table α key where
  rows := t.rows.filter (fun x => key x < key r) ++ r :: t.rows.filter (fun x => key r < key x)
  increasing := by
    refine List.pairwise_append.2 ⟨t.increasing.filter _, ?_, ?_⟩
    · refine List.pairwise_cons.2 ⟨fun x hx => ?_, t.increasing.filter _⟩
      simpa using (List.mem_filter.1 hx).2
    · intro a ha b hb
      have ha' : key a < key r := by simpa using (List.mem_filter.1 ha).2
      rcases List.mem_cons.1 hb with rfl | hb
      · exact ha'
      · have hb' : key r < key b := by simpa using (List.mem_filter.1 hb).2
        omega

/-- The table without the row of the given key. -/
def erase (t : Table α key) (k : Int) : Table α key where
  rows := t.rows.filter fun r => key r != k
  increasing := t.increasing.filter _

theorem mem_iff {t : Table α key} {r : α} : r ∈ t ↔ r ∈ t.rows := Iff.rfl

theorem mem_put {t : Table α key} {r x : α} :
    x ∈ t.put r ↔ x = r ∨ (x ∈ t ∧ key x ≠ key r) := by
  simp only [mem_iff, put, List.mem_append, List.mem_filter, List.mem_cons, decide_eq_true_eq]
  constructor
  · rintro (⟨h, hlt⟩ | rfl | ⟨h, hlt⟩)
    · exact .inr ⟨h, by omega⟩
    · exact .inl rfl
    · exact .inr ⟨h, by omega⟩
  · rintro (rfl | ⟨h, hne⟩)
    · exact .inr (.inl rfl)
    · rcases Int.lt_or_gt_of_ne hne with hlt | hgt
      · exact .inl ⟨h, hlt⟩
      · exact .inr (.inr ⟨h, hgt⟩)

theorem mem_erase {t : Table α key} {k : Int} {x : α} :
    x ∈ t.erase k ↔ x ∈ t ∧ key x ≠ k := by
  simp [mem_iff, erase]

end Table

end EnrollmentDesk
