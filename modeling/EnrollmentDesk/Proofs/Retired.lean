import EnrollmentDesk.Proofs.Promotion

/-!
# Retired registrations

A canceled registration is *retired* (`Store.Retired`): its row stays exactly as it is, down to the
time of its last change, until it is removed, and its number is never given to another. The reason
is the same for every edit. An edit that writes a row has found it by its number, in a state that a
canceled row is not in (`Edit.Fits`), or writes it under a number that is new; and a rebalance
passes over whoever is not active, checked in or not.

## Main statements

* `Edit.get?_result_of_retired` — what an operation writes leaves a retired registration alone, or
  removes it;
* `Edit.retired_result` — so it is retired afterwards as well;
* `Edit.id_ne_of_promoted_of_retired` — and it is not promoted.
-/

namespace EnrollmentDesk

/-- A registration that has been canceled is as it was then, or it is gone; no other gets its
number. -/
structure Store.Retired (s : Store) (r : Registration) : Prop where
  canceled : r.status = .canceled
  numbered : s.IsNumbered
  given : r.id ≤ s.lastRegistrationId
  row : s.registrations.get? r.id = some r ∨ s.registrations.get? r.id = none

namespace Store

variable {s : Store} {q r : Registration}

theorem Retired.of_mem (numbered : s.IsNumbered) (hr : r ∈ s.registrations)
    (canceled : r.status = .canceled) : s.Retired r :=
  ⟨canceled, numbered, numbered r hr, .inl (Table.get?_of_mem hr)⟩

theorem Retired.not_active (h : s.Retired r) : r.isActive = false := by
  unfold Registration.isActive
  rw [h.canceled]
  rfl

theorem Retired.eq_of_get? (h : s.Retired r) (found : s.registrations.get? r.id = some q) :
    q = r := by
  rcases h.row with there | gone
  · exact Option.some.inj (found.symm.trans there)
  · exact nomatch found.symm.trans gone

/-- A registration that is not canceled is another. -/
theorem Retired.id_ne (h : s.Retired r) (found : s.registrations.get? q.id = some q)
    (active : q.status ≠ .canceled) : r.id ≠ q.id := by
  intro same
  rw [← same] at found
  rw [h.eq_of_get? found] at active
  exact active h.canceled

end Store

/-! ### Edits -/

namespace Edit

variable {e : Edit} {c : Class} {s : Store} {now : Instant} {r : Registration}

theorem get?_apply_of_retired (fits : e.Fits c s) (h : s.Retired r) (now : Instant) :
    (e.apply c now s).registrations.get? r.id = s.registrations.get? r.id ∨
      (e = delete r ∧ (e.apply c now s).registrations.get? r.id = none) := by
  cases fits with
  | nothing | setCapacity => exact .inl rfl
  | insert =>
    have hid : r.id ≠ s.lastRegistrationId + 1 := by
      have := h.given
      omega
    exact .inl ((get?_apply_insert _ c now s r.id).trans (if_neg hid))
  | cancel found place active =>
    exact .inl ((get?_apply_cancel _ c now s r.id).trans (if_neg (h.id_ne found active)))
  | checkIn found place sits absent =>
    have active := ne_of_eq_of_ne sits (by decide : Status.confirmed ≠ .canceled)
    exact .inl ((get?_apply_checkIn _ c now s r.id).trans (if_neg (h.id_ne found active)))
  | @delete q found place =>
    have hget : ((delete q).apply c now s).registrations.get? r.id =
        if r.id = q.id then none else s.registrations.get? r.id := Table.get?_erase _ _ _
    by_cases hid : r.id = q.id
    · -- the row under its number is the retired one, if there is one at all
      rw [← hid] at found
      obtain rfl : q = r := h.eq_of_get? found
      exact .inr ⟨rfl, hget.trans (if_pos rfl)⟩
    · exact .inl (hget.trans (if_neg hid))

/-- **What an operation writes leaves a retired registration alone**, or removes it. -/
theorem get?_result_of_retired (fits : e.Fits c s) (h : s.Retired r) (now : Instant) :
    (e.result c now s).registrations.get? r.id = s.registrations.get? r.id ∨
      (e = delete r ∧ (e.result c now s).registrations.get? r.id = none) := by
  have happly := get?_apply_of_retired fits h now
  unfold result
  split
  · rw [Store.get?_seated]
    rcases happly with same | ⟨rfl, gone⟩
    · refine .inl ?_
      rw [same]
      rcases h.row with there | gone
      · -- a rebalance passes over those who are not active
        rw [there, Option.map_some, Store.seatedRow_of_not_active h.not_active]
      · rw [gone]
        rfl
    · exact .inr ⟨rfl, by rw [gone]; rfl⟩
  · exact happly

theorem retired_result (fits : e.Fits c s) (h : s.Retired r) (now : Instant) :
    (e.result c now s).Retired r where
  canceled := h.canceled
  numbered := isNumbered_result fits h.numbered now
  given := Int.le_trans h.given (e.lastRegistrationId_le_result c now s)
  row := by
    rcases get?_result_of_retired fits h now with same | ⟨-, gone⟩
    · rw [same]
      exact h.row
    · exact .inr gone

/-- A retired registration is not promoted. -/
theorem id_ne_of_promoted_of_retired (fits : e.Fits c s) (h : s.Retired r) {q : Registration}
    (hq : q ∈ e.promoted c now s) : q.id ≠ r.id := by
  intro hid
  unfold promoted at hq
  split at hq
  · -- who is promoted has waited after the edit
    obtain ⟨x, hx, xid, -, waits, -⟩ := Store.mem_ids_promoted.1 (List.mem_map_of_mem hq)
    have found := Table.get?_of_mem hx
    rw [xid, hid] at found
    rcases get?_apply_of_retired fits h now with same | ⟨-, gone⟩
    · rw [same] at found
      rw [h.eq_of_get? found, h.canceled] at waits
      exact nomatch waits
    · exact nomatch found.symm.trans gone
  · exact absurd hq List.not_mem_nil

/-- A registration that is canceled is stored so when the class has been rebalanced. -/
theorem get?_result_cancel (q : Registration) (c : Class) (now : Instant) (s : Store) :
    ((cancel q).result c now s).registrations.get? q.id = some (q.canceled now) := by
  rw [get?_result rfl, get?_apply_cancel, if_pos rfl, Option.map_some,
    Store.seatedRow_of_not_active rfl]

/-- A registration that is removed is gone when the class has been rebalanced. -/
theorem get?_result_delete (q : Registration) (c : Class) (now : Instant) (s : Store) :
    ((delete q).result c now s).registrations.get? q.id = none := by
  rw [get?_result rfl, get?_apply_delete, if_pos rfl]
  rfl

end Edit

end EnrollmentDesk
