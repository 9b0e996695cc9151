import EnrollmentDesk.Store.Table
import Mathlib.Data.List.Nodup

/-!
# What a table holds after a change

A table is known by its lookups: two tables that answer `Table.get?` alike are equal
(`Table.ext_get?`). So a change is described by what a lookup finds afterwards, and, where rows are
counted, by the rows up to their order: putting a row in is removing the row with its key and adding
the new one (`Table.rows_put_perm`).

`Table.mapRows` changes all rows at once and leaves their keys alone; a whole round of puts is one
such change.
-/

namespace EnrollmentDesk

variable {α : Type} {key : α → Int}

/-- Where keys are distinct, the row found is the one with the key. -/
theorem find?_key_eq_some_iff {l : List α} {k : Int} {r : α} (distinct : (l.map key).Nodup) :
    (l.find? fun x => key x == k) = some r ↔ r ∈ l ∧ key r = k := by
  constructor
  · intro h
    exact ⟨List.mem_of_find?_eq_some h, by simpa using List.find?_some h⟩
  · rintro ⟨hr, rfl⟩
    obtain ⟨x, hx⟩ : ∃ x, (l.find? fun x => key x == key r) = some x := by
      rw [← Option.isSome_iff_exists, List.find?_isSome]
      exact ⟨r, hr, by simp⟩
    have hkey : key x = key r := by simpa using List.find?_some hx
    rw [hx, List.inj_on_of_nodup_map distinct (List.mem_of_find?_eq_some hx) hr hkey]

namespace Table

/-! ### Lookups -/

theorem nodup_keys (t : Table α key) : (t.rows.map key).Nodup := by
  rw [List.nodup_iff_pairwise_ne, List.pairwise_map]
  exact t.increasing.imp fun hlt => by omega

theorem nodup_rows (t : Table α key) : t.rows.Nodup :=
  t.nodup_keys.of_map key

theorem eq_of_key_eq {t : Table α key} {a b : α} (ha : a ∈ t) (hb : b ∈ t) (h : key a = key b) :
    a = b :=
  List.inj_on_of_nodup_map t.nodup_keys ha hb h

theorem get?_eq_some_iff {t : Table α key} {k : Int} {r : α} :
    t.get? k = some r ↔ r ∈ t ∧ key r = k :=
  find?_key_eq_some_iff t.nodup_keys

theorem get?_eq_none_iff {t : Table α key} {k : Int} :
    t.get? k = none ↔ ∀ r ∈ t, key r ≠ k := by
  unfold get?
  rw [List.find?_eq_none]
  simp [mem_iff]

theorem mem_of_get? {t : Table α key} {k : Int} {r : α} (h : t.get? k = some r) : r ∈ t :=
  (get?_eq_some_iff.1 h).1

theorem key_of_get? {t : Table α key} {k : Int} {r : α} (h : t.get? k = some r) : key r = k :=
  (get?_eq_some_iff.1 h).2

theorem get?_of_mem {t : Table α key} {r : α} (h : r ∈ t) : t.get? (key r) = some r :=
  get?_eq_some_iff.2 ⟨h, rfl⟩

/-- Two tables with the same lookups are equal. -/
@[ext]
theorem ext_get? {a b : Table α key} (h : ∀ k, a.get? k = b.get? k) : a = b := by
  have hmem : ∀ r, r ∈ a.rows ↔ r ∈ b.rows := by
    intro r
    have hr := get?_eq_some_iff (t := a) (k := key r) (r := r)
    rw [h, get?_eq_some_iff] at hr
    simpa [mem_iff] using hr.symm
  apply ext_rows
  -- the same rows, and both lists are increasing
  refine List.Perm.eq_of_pairwise ?_ a.increasing b.increasing
    ((List.perm_ext_iff_of_nodup a.nodup_rows b.nodup_rows).2 hmem)
  intro x y _ _ hxy hyx
  omega

@[simp] theorem get?_put (t : Table α key) (r : α) (k : Int) :
    (t.put r).get? k = if k = key r then some r else t.get? k := by
  by_cases hk : k = key r
  · subst hk
    rw [if_pos rfl]
    exact get?_of_mem (mem_put.2 (.inl rfl))
  · rw [if_neg hk]
    cases hx : t.get? k with
    | none =>
      rw [get?_eq_none_iff] at hx ⊢
      intro x hx'
      rcases mem_put.1 hx' with rfl | ⟨hmem, -⟩
      · exact fun h => hk h.symm
      · exact hx x hmem
    | some x =>
      rw [get?_eq_some_iff] at hx ⊢
      exact ⟨mem_put.2 (.inr ⟨hx.1, by rw [hx.2]; exact hk⟩), hx.2⟩

@[simp] theorem get?_erase (t : Table α key) (k' k : Int) :
    (t.erase k').get? k = if k = k' then none else t.get? k := by
  by_cases hk : k = k'
  · subst hk
    rw [if_pos rfl, get?_eq_none_iff]
    exact fun x hx => (mem_erase.1 hx).2
  · rw [if_neg hk]
    cases hx : t.get? k with
    | none =>
      rw [get?_eq_none_iff] at hx ⊢
      exact fun x hx' => hx x (mem_erase.1 hx').1
    | some x =>
      rw [get?_eq_some_iff] at hx ⊢
      exact ⟨mem_erase.2 ⟨hx.1, by rw [hx.2]; exact hk⟩, hx.2⟩

/-- Putting in a row that is there changes nothing. -/
theorem put_eq_self {t : Table α key} {r : α} (h : t.get? (key r) = some r) : t.put r = t := by
  ext k : 1
  rw [get?_put]
  split
  · next hk => rw [hk, h]
  · rfl

theorem contains_iff {t : Table α key} {k : Int} : t.contains k = true ↔ ∃ r, t.get? k = some r :=
  Option.isSome_iff_exists

/-! ### Rows up to their order -/

/-- A table is the row of a key and all others. -/
theorem rows_perm_erase {t : Table α key} {k : Int} {r : α} (h : t.get? k = some r) :
    t.rows.Perm (r :: (t.erase k).rows) := by
  obtain ⟨hr, rfl⟩ := get?_eq_some_iff.1 h
  -- both sides list their rows once, so it is enough that they have the same rows
  have apart : r ∉ (t.erase (key r)).rows := fun hmem => (mem_erase.1 hmem).2 rfl
  refine (List.perm_ext_iff_of_nodup t.nodup_rows
    (List.nodup_cons.2 ⟨apart, (t.erase _).nodup_rows⟩)).2 fun x => ?_
  rw [List.mem_cons]
  constructor
  · intro hx
    by_cases hk : key x = key r
    · exact .inl (eq_of_key_eq hx hr hk)
    · exact .inr (mem_erase.2 ⟨hx, hk⟩)
  · rintro (rfl | hx)
    · exact hr
    · exact (mem_erase.1 hx).1

theorem erase_put (t : Table α key) (r : α) : (t.put r).erase (key r) = t.erase (key r) := by
  ext k : 1
  simp only [get?_erase, get?_put]
  split <;> rfl

/-- Putting a row in removes the row with its key, if there is one, and adds the new row. -/
theorem rows_put_perm (t : Table α key) (r : α) :
    (t.put r).rows.Perm (r :: (t.erase (key r)).rows) := by
  -- the row put in is the one found under its key, so it can be taken out first
  have h := rows_perm_erase (t := t.put r) (k := key r) (r := r) (by simp)
  rwa [erase_put] at h

theorem erase_of_get?_none {t : Table α key} {k : Int} (h : t.get? k = none) : t.erase k = t := by
  ext k' : 1
  rw [get?_erase]
  split
  · next hk => rw [hk, h]
  · rfl

/-! ### All rows at once -/

/-- The table with all rows changed, and their keys unchanged. -/
def mapRows (t : Table α key) (f : α → α) (same : ∀ a, key (f a) = key a) : Table α key where
  rows := t.rows.map f
  increasing := List.pairwise_map.2 (t.increasing.imp fun hlt => by rwa [same, same])

variable {f : α → α} {same : ∀ a, key (f a) = key a}

@[simp] theorem get?_mapRows (t : Table α key) (k : Int) :
    (t.mapRows f same).get? k = (t.get? k).map f := by
  unfold get? mapRows
  rw [List.find?_map]
  congr 2
  funext a
  simp [same]

end Table

end EnrollmentDesk
