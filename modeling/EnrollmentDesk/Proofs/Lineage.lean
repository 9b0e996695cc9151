import EnrollmentDesk.Proofs.Desk
import EnrollmentDesk.Proofs.Standing

/-!
# What a registration keeps

Whose registration it is, for which class, under which code and since when is settled when it is
stored. An edit and the rebalance after it touch the status, the check-in and the time of the last
change, and they make nobody active who was not (`Registration.Continues`). So a store has no
registration after an edit that does not continue one from before, but for the one that the edit has
put in (`Edit.continues_of_mem_result`). What an operation answers that registers a child is this
one (`Operation.row_of_create`).
-/

namespace EnrollmentDesk

/-- A registration as it may be found later. -/
structure Registration.Continues (x r : Registration) : Prop where
  id : x.id = r.id
  parentId : x.parentId = r.parentId
  childId : x.childId = r.childId
  classId : x.classId = r.classId
  code : x.code = r.code
  createdAt : x.createdAt = r.createdAt
  active : x.isActive = true → r.isActive = true

namespace Registration

theorem Continues.refl (r : Registration) : r.Continues r :=
  ⟨rfl, rfl, rfl, rfl, rfl, rfl, fun h => h⟩

theorem continues_canceled (r : Registration) (now : Instant) : (r.canceled now).Continues r :=
  -- a canceled registration is not active
  ⟨rfl, rfl, rfl, rfl, rfl, rfl, fun h => nomatch h⟩

theorem continues_checkedIn (r : Registration) (now : Instant) : (r.checkedIn now).Continues r :=
  ⟨rfl, rfl, rfl, rfl, rfl, rfl, fun h => h⟩

end Registration

theorem Store.continues_seatedRow (s : Store) (c : Class) (now : Instant) (r : Registration) :
    (s.seatedRow c now r).Continues r := by
  unfold seatedRow
  split
  · next seated =>
    unfold Registration.reseated
    split
    · exact .refl r
    · exact ⟨rfl, rfl, rfl, rfl, rfl, rfl, fun _ => seated.2⟩
  · exact .refl r

theorem Store.codeExists_eq_false_iff {s : Store} {code : String} :
    s.codeExists code = false ↔ ∀ q ∈ s.registrations, q.code ≠ code := by
  unfold codeExists
  rw [List.any_eq_false]
  refine forall₂_congr fun q _ => ?_
  rw [beq_iff_eq]

/-- A registration is found by its code if no other has it. -/
theorem Store.registrationByCode_of_unique {s : Store} {r : Registration}
    (hr : r ∈ s.registrations) (only : ∀ q ∈ s.registrations, q.code = r.code → q = r) :
    s.registrationByCode r.code = some r := by
  unfold registrationByCode
  cases hfind : s.registrations.rows.find? fun q => q.code == r.code with
  | none =>
    -- there is one to be found
    have hnone := List.find?_eq_none.1 hfind r hr
    exact absurd (beq_self_eq_true r.code) hnone
  | some q =>
    have hq : q ∈ s.registrations := List.mem_of_find?_eq_some hfind
    have hcode : q.code = r.code := by simpa using List.find?_some hfind
    rw [only q hq hcode]

theorem Registration.Continues.trans {x y r : Registration} (hxy : x.Continues y)
    (hyr : y.Continues r) : x.Continues r where
  id := hxy.id.trans hyr.id
  parentId := hxy.parentId.trans hyr.parentId
  childId := hxy.childId.trans hyr.childId
  classId := hxy.classId.trans hyr.classId
  code := hxy.code.trans hyr.code
  createdAt := hxy.createdAt.trans hyr.createdAt
  active := fun h => hyr.active (hxy.active h)

namespace Edit

variable {e : Edit} {c : Class} {s : Store} {now : Instant} {x : Registration}

theorem continues_of_mem_apply (fits : e.Fits c s)
    (fresh : ∀ new, e = insert new → s.IsNumbered)
    (hx : x ∈ (e.apply c now s).registrations) :
    (∃ r ∈ s.registrations, x.Continues r) ∨
      ∃ new, e = insert new ∧ x = new.stored (s.lastRegistrationId + 1) now := by
  rcases (mem_apply fits now fresh).1 hx with ⟨hx, -⟩ | hx
  · exact .inl ⟨x, hx, .refl x⟩
  cases fits with
  | nothing | setCapacity | delete => exact absurd hx List.not_mem_nil
  | @insert new =>
    obtain rfl := List.mem_singleton.1 hx
    exact .inr ⟨new, rfl, rfl⟩
  | @cancel r found =>
    obtain rfl := List.mem_singleton.1 hx
    exact .inl ⟨r, Table.mem_of_get? found, r.continues_canceled now⟩
  | @checkIn r found =>
    obtain rfl := List.mem_singleton.1 hx
    exact .inl ⟨r, Table.mem_of_get? found, r.continues_checkedIn now⟩

/-- **Every registration after an edit continues one from before**, or is the one that was put
in. -/
theorem continues_of_mem_result (fits : e.Fits c s)
    (fresh : ∀ new, e = insert new → s.IsNumbered)
    (hx : x ∈ (e.result c now s).registrations) :
    (∃ r ∈ s.registrations, x.Continues r) ∨
      ∃ new, e = insert new ∧ x.Continues (new.stored (s.lastRegistrationId + 1) now) := by
  -- the rebalance changes rows in place
  obtain ⟨y, hy, hxy⟩ : ∃ y ∈ (e.apply c now s).registrations, x.Continues y := by
    unfold result at hx
    split at hx
    · obtain ⟨y, hy, rfl⟩ := Store.mem_seated.1 hx
      exact ⟨y, hy, Store.continues_seatedRow _ _ _ y⟩
    · exact ⟨x, hx, .refl x⟩
  rcases continues_of_mem_apply fits fresh hy with ⟨r, hr, hyr⟩ | ⟨new, rfl, rfl⟩
  · exact .inl ⟨r, hr, hxy.trans hyr⟩
  · exact .inr ⟨new, rfl, hxy⟩

end Edit

/-- What has been put in is found after the rebalance. -/
theorem Edit.exists_get?_insert (new : NewRegistration) (c : Class) (now : Instant) (s : Store) :
    ∃ row, ((insert new).result c now s).registrations.get? (s.lastRegistrationId + 1) = some row ∧
      row.Continues (new.stored (s.lastRegistrationId + 1) now) := by
  refine ⟨_, ?_, ((insert new).apply c now s).continues_seatedRow c now _⟩
  rw [get?_result rfl, get?_apply_insert, if_pos rfl]
  rfl

/-- **What a child is registered as.** The answer is stored, and continues the row that was put in
under the next number. -/
theorem Operation.row_of_create {office : Office} {d : Desk} (alone : d.rival = none)
    {childId classId : Int} {a : Placement}
    (answer : (runOn ((create childId classId).perform office) d).1 = .ok a) :
    ∃ c new, (create childId classId).Asks office.settings.enrollment d.now d.store c
        (.insert new) ∧
      (runOn ((create childId classId).perform office) d).2.store =
        ((Edit.insert new).result c d.now d.store).committed
          ((Edit.insert new).writes c d.now d.store) ∧
      (runOn ((create childId classId).perform office) d).2.store.registrations.get?
        a.registration.id = some a.registration ∧
      a.registration.Continues (new.stored (d.store.lastRegistrationId + 1) d.now) := by
  obtain ⟨c, e, asked, ⟨hid, hrow, -⟩, hstore, -⟩ := of_answer alone answer rfl
  obtain ⟨-, new, rfl⟩ := asked.of_create
  obtain ⟨row, hget, hcont⟩ := Edit.exists_get?_insert new c d.now d.store
  rw [Edit.lastRegistrationId_result] at hid
  have same : a.registration = row := by
    rw [hid] at hrow
    exact Option.some.inj (hrow.symm.trans hget)
  refine ⟨c, new, asked, hstore, ?_, same ▸ hcont⟩
  rw [hstore]
  exact hrow

end EnrollmentDesk
