/-!
# Sorting

Lists are sorted by insertion, which keeps the order of elements that compare equal
(`sortBy`). The result is a permutation of the list (`sortBy_perm`), and for a total and transitive
comparison it is in order (`pairwise_sortBy`).
-/

namespace EnrollmentDesk

variable {α : Type}

/-- The element put in front of the first one it may stand before. -/
def insertBy (le : α → α → Bool) (a : α) : List α → List α
  | [] => [a]
  | b :: l => if le a b then a :: b :: l else b :: insertBy le a l

/-- The list in the order of `le`; equal elements keep their order. -/
def sortBy (le : α → α → Bool) (l : List α) : List α :=
  l.foldr (insertBy le) []

theorem insertBy_perm (le : α → α → Bool) (a : α) (l : List α) :
    (insertBy le a l).Perm (a :: l) := by
  induction l with
  | nil => exact .refl _
  | cons b l ih =>
    simp only [insertBy]
    split
    · exact .refl _
    · exact (ih.cons b).trans (.swap a b l)

theorem sortBy_perm (le : α → α → Bool) (l : List α) : (sortBy le l).Perm l := by
  induction l with
  | nil => exact .refl _
  | cons a l ih => exact (insertBy_perm le a _).trans (ih.cons a)

@[simp] theorem mem_sortBy {le : α → α → Bool} {a : α} {l : List α} :
    a ∈ sortBy le l ↔ a ∈ l :=
  (sortBy_perm le l).mem_iff

theorem pairwise_insertBy {le : α → α → Bool} (total : ∀ a b, le a b = true ∨ le b a = true)
    (trans : ∀ a b c, le a b = true → le b c = true → le a c = true) (a : α) {l : List α}
    (h : l.Pairwise fun x y => le x y = true) :
    (insertBy le a l).Pairwise fun x y => le x y = true := by
  induction l with
  | nil => simp [insertBy]
  | cons b l ih =>
    have hb := List.pairwise_cons.1 h
    simp only [insertBy]
    split
    · next hab =>
      refine List.pairwise_cons.2 ⟨fun x hx => ?_, h⟩
      rcases List.mem_cons.1 hx with rfl | hx
      · exact hab
      · exact trans _ _ _ hab (hb.1 x hx)
    · next hab =>
      refine List.pairwise_cons.2 ⟨fun x hx => ?_, ih hb.2⟩
      rcases List.mem_cons.1 ((insertBy_perm le a l).mem_iff.1 hx) with rfl | hx
      · exact (total x b).resolve_left hab
      · exact hb.1 x hx

theorem pairwise_sortBy {le : α → α → Bool} (total : ∀ a b, le a b = true ∨ le b a = true)
    (trans : ∀ a b c, le a b = true → le b c = true → le a c = true) (l : List α) :
    (sortBy le l).Pairwise fun x y => le x y = true := by
  induction l with
  | nil => exact .nil
  | cons a l ih => exact pairwise_insertBy total trans a ih

end EnrollmentDesk
