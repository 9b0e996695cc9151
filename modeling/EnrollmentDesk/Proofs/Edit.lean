import EnrollmentDesk.Proofs.Rebalance

/-!
# Edits

Every operation makes at most one change of its own to a class: it puts a registration in, cancels
one, checks one in, removes one, or gives the class a capacity. This is its *edit* (`Edit`). All but
a check-in then rebalance the class. `Edit.result` is the store after both, `Edit.promoted` says who
got a seat by it, and `Edit.writes` how many registration rows were written.

An edit and the rebalance after it act on the copy of the store as a whole, if the budget covers
their writes, and fail if it does not (`Tx.Writes.runOn_rebalance`). So the order of the single
writes never matters again.
-/

namespace EnrollmentDesk

/-- The registration as it is stored under a number at a time. -/
def NewRegistration.stored (new : NewRegistration) (id : Int) (now : Instant) : Registration where
  id := id
  parentId := new.parentId
  childId := new.childId
  classId := new.classId
  status := new.status
  code := new.code
  checkInAt := none
  createdAt := now
  updatedAt := now

namespace Registration

/-- The registration once it is canceled. -/
def canceled (r : Registration) (now : Instant) : Registration :=
  { r with status := .canceled, checkInAt := none, updatedAt := now }

/-- The registration once its child has come. -/
def checkedIn (r : Registration) (now : Instant) : Registration :=
  { r with checkInAt := some now, updatedAt := now }

end Registration

/-- The status a registration is first stored with: it takes a seat if one is free. -/
def Store.startingStatus (s : Store) (c : Class) : Status :=
  if (s.confirmedCount c.id : Int) < c.capacity then .confirmed else .waitlisted

/-- The change an operation makes to a class by itself. -/
inductive Edit where
  | nothing
  | insert (new : NewRegistration)
  | cancel (r : Registration)
  | setCapacity (capacity : Int)
  | checkIn (r : Registration)
  | delete (r : Registration)

namespace Edit

/-- What a store holds when an operation makes an edit of a class: the row that it is about, in a
state that allows it. -/
inductive Fits (c : Class) (s : Store) : Edit → Prop where
  | nothing : Fits c s nothing
  | insert {new : NewRegistration} (place : new.classId = c.id)
      (status : new.status = s.startingStatus c) (free : s.codeExists new.code = false) :
      Fits c s (insert new)
  | cancel {r : Registration} (found : s.registrations.get? r.id = some r)
      (place : r.classId = c.id) (active : r.status ≠ .canceled) : Fits c s (cancel r)
  | setCapacity (capacity : Int) : Fits c s (setCapacity capacity)
  | checkIn {r : Registration} (found : s.registrations.get? r.id = some r)
      (place : r.classId = c.id) (sits : r.status = .confirmed) (absent : r.isAnchored = false) :
      Fits c s (checkIn r)
  | delete {r : Registration} (found : s.registrations.get? r.id = some r)
      (place : r.classId = c.id) : Fits c s (delete r)

section Insert

variable {c : Class} {s : Store} {new : NewRegistration}

theorem classId_of_insert (fits : (insert new).Fits c s) : new.classId = c.id := by
  cases fits with
  | insert place status free => exact place

theorem status_of_insert (fits : (insert new).Fits c s) : new.status = s.startingStatus c := by
  cases fits with
  | insert place status free => exact status

end Insert

/-- The store after an edit of a class. -/
def apply (c : Class) (now : Instant) (s : Store) : Edit → Store
  | nothing => s
  | insert new =>
    let id := s.lastRegistrationId + 1
    { s with
      registrations := s.registrations.put (new.stored id now)
      lastRegistrationId := id }
  | cancel r => s.withRegistrations (s.registrations.put (r.canceled now))
  | setCapacity capacity =>
    { s with classes := s.classes.put { c with capacity, updatedAt := now } }
  | checkIn r => s.withRegistrations (s.registrations.put (r.checkedIn now))
  | delete r => s.withRegistrations (s.registrations.erase r.id)

/-- The class after an edit. -/
def classAfter (c : Class) (now : Instant) : Edit → Class
  | setCapacity capacity => { c with capacity, updatedAt := now }
  | _ => c

/-- How many registration rows the edit itself writes. -/
def rows : Edit → Nat
  | nothing | setCapacity _ => 0
  | insert _ | cancel _ | checkIn _ | delete _ => 1

/-- A rebalance follows. -/
def reseats : Edit → Bool
  | checkIn _ => false
  | _ => true

section

variable (e : Edit) (c : Class) (now : Instant) (s : Store)

/-- The changes that the rebalance after the edit makes. -/
def changes : List Change :=
  if e.reseats then ((e.apply c now s).plan (e.classAfter c now)).changes else []

/-- How many registration rows are written: one by the edit, if it is about a registration, and one
for each change of the plan. -/
def writes : Nat :=
  e.rows + (e.changes c now s).length

/-- The store after the edit and the rebalance. -/
def result : Store :=
  if e.reseats then (e.apply c now s).seated (e.classAfter c now) now else e.apply c now s

/-- Who gets a seat by the rebalance. -/
def promoted : List Registration :=
  if e.reseats then (e.apply c now s).promoted (e.classAfter c now) else []

end

theorem classAfter_id (e : Edit) (c : Class) (now : Instant) : (e.classAfter c now).id = c.id := by
  cases e <;> rfl

/-- The class is still stored after an edit. -/
theorem get?_apply {e : Edit} {c : Class} {now : Instant} {s : Store}
    (hc : s.classes.get? c.id = some c) :
    (e.apply c now s).classes.get? c.id = some (e.classAfter c now) := by
  cases e with
  | setCapacity capacity =>
    change (s.classes.put _).get? c.id = _
    rw [Table.get?_put, if_pos rfl]
    rfl
  | nothing => exact hc
  | insert new => exact hc
  | cancel r => exact hc
  | checkIn r => exact hc
  | delete r => exact hc

/-- The budget of an edited store covers as much as before. -/
theorem affords_apply (e : Edit) (c : Class) (now : Instant) (s : Store) (m n : Nat) :
    ((e.apply c now s).spend m).Affords n ↔ (s.spend m).Affords n := by
  cases e <;> exact Iff.rfl

/-- The rows after the edit and the rebalance. -/
theorem get?_result {e : Edit} (hr : e.reseats = true) (c : Class) (now : Instant) (s : Store)
    (id : Int) :
    (e.result c now s).registrations.get? id =
      ((e.apply c now s).registrations.get? id).map
        ((e.apply c now s).seatedRow (e.classAfter c now) now) := by
  unfold result
  rw [if_pos hr]
  exact Store.get?_seated _ _ _ _

/-- A row that is there after the edit is found after the rebalance too. -/
theorem exists_get?_result {e : Edit} (hr : e.reseats = true) (c : Class) (now : Instant)
    (s : Store) {id : Int} {r : Registration}
    (h : (e.apply c now s).registrations.get? id = some r) :
    ∃ row : Registration,
      (e.result c now s).registrations.get? row.id = some row ∧ row.id = id := by
  have hid : r.id = id := Table.key_of_get? h
  refine ⟨(e.apply c now s).seatedRow (e.classAfter c now) now r, ?_, ?_⟩
  · rw [Store.seatedRow_id, hid, get?_result hr, h]
    rfl
  · rw [Store.seatedRow_id, hid]

theorem get?_apply_insert (new : NewRegistration) (c : Class) (now : Instant) (s : Store)
    (id : Int) :
    ((insert new).apply c now s).registrations.get? id =
      if id = s.lastRegistrationId + 1 then some (new.stored (s.lastRegistrationId + 1) now)
      else s.registrations.get? id :=
  Table.get?_put _ _ _

theorem get?_apply_cancel (r : Registration) (c : Class) (now : Instant) (s : Store) (id : Int) :
    ((cancel r).apply c now s).registrations.get? id =
      if id = r.id then some (r.canceled now) else s.registrations.get? id :=
  Table.get?_put _ _ _

theorem get?_apply_checkIn (r : Registration) (c : Class) (now : Instant) (s : Store) (id : Int) :
    ((checkIn r).apply c now s).registrations.get? id =
      if id = r.id then some (r.checkedIn now) else s.registrations.get? id :=
  Table.get?_put _ _ _

theorem get?_apply_delete (r : Registration) (c : Class) (now : Instant) (s : Store) (id : Int) :
    ((delete r).apply c now s).registrations.get? id =
      if id = r.id then none else s.registrations.get? id :=
  Table.get?_erase _ _ _

/-! The budget has no part in what an edit does. -/

section Limited

variable (e : Edit) (c : Class) (now : Instant) (s : Store) (budget : Option Nat)

theorem result_limited : e.result c now (s.limited budget) = (e.result c now s).limited budget := by
  cases e <;> rfl

theorem promoted_limited : e.promoted c now (s.limited budget) = e.promoted c now s := by
  cases e <;> rfl

theorem writes_limited : e.writes c now (s.limited budget) = e.writes c now s := by
  cases e <;> rfl

end Limited

/-! Only the writes themselves are paid for, and only a commit is counted. -/

theorem writeBudget_result (e : Edit) (c : Class) (now : Instant) (s : Store) :
    (e.result c now s).writeBudget = s.writeBudget := by
  cases e <;> rfl

theorem commits_result (e : Edit) (c : Class) (now : Instant) (s : Store) :
    (e.result c now s).commits = s.commits := by
  cases e <;> rfl

end Edit

namespace Tx

variable {α β : Type} {s : Session} {c : Class} {e : Edit}

/-- The step writes an edit and pays for its row, or fails if it cannot. -/
structure Writes (x : Tx β) (b : β) (e : Edit) (c : Class) (s : Session) : Prop where
  of_affords : s.store.Affords e.rows →
    runOn x s = (.ok b, { s with store := (e.apply c s.now s.store).spend e.rows })
  of_not_affords : ¬ s.store.Affords e.rows →
    ∃ store, runOn x s = (.error (.storage .budgetExhausted), { s with store := store })

theorem writes_nothing (s : Session) (c : Class) : Writes (pure ⟨⟩ : Tx Unit) ⟨⟩ .nothing c s where
  of_affords _ := by
    change _ = (_, { s with store := s.store.spend 0 })
    rw [s.store.spend_zero]
    rfl
  of_not_affords h := absurd s.store.affords_zero h

theorem writes_cancel {r : Registration} (hr : s.store.registrations.get? r.id = some r) :
    Writes (cancel r.id) ⟨⟩ (.cancel r) c s where
  of_affords h := by
    unfold cancel
    rw [runOn_bind_ok (runOn_now s)]
    exact runOn_changeRegistration h _ hr
  of_not_affords h := by
    unfold cancel
    rw [runOn_bind_ok (runOn_now s)]
    exact ⟨s.store, runOn_changeRegistration_of_not_affords h _ _⟩

theorem writes_setCheckIn {r : Registration} (hr : s.store.registrations.get? r.id = some r) :
    Writes (setCheckIn r.id s.now) ⟨⟩ (.checkIn r) c s where
  of_affords h := runOn_changeRegistration h _ hr
  of_not_affords h := ⟨s.store, runOn_changeRegistration_of_not_affords h _ _⟩

theorem writes_delete (r : Registration) : Writes (delete r.id) ⟨⟩ (.delete r) c s where
  of_affords h := by
    unfold delete
    rw [runOn_bind_ok (runOn_charge h)]
    rfl
  of_not_affords h := ⟨s.store, runOn_bind_error (runOn_charge_of_not_affords h)⟩

theorem writes_setCapacity {capacity : Int} (hc : s.store.classes.get? c.id = some c) :
    Writes (setCapacity c.id capacity) ⟨⟩ (.setCapacity capacity) c s where
  of_affords _ := by
    unfold setCapacity
    rw [runOn_bind_ok (runOn_ask _ s), hc]
    change _ = (_, { s with store := Store.spend _ 0 })
    rw [Store.spend_zero]
    rfl
  of_not_affords h := absurd s.store.affords_zero h

theorem writes_insert {new : NewRegistration} (hc : s.store.classes.get? new.classId = some c)
    (free : s.store.codeExists new.code = false) :
    Writes (insert new) (new.stored (s.store.lastRegistrationId + 1) s.now) (.insert new) c s where
  of_affords h := by
    -- both checks of the table pass, and paying for the row first does not matter to them
    have stored : s.store.classes.contains new.classId = true := Table.contains_iff.2 ⟨c, hc⟩
    have stored' : (s.store.spend 1).classes.contains new.classId = true := stored
    have free' : (s.store.spend 1).codeExists new.code = false := free
    unfold insert
    rw [runOn_bind_ok (runOn_charge h), runOn_bind_ok (runOn_ask _ _), stored']
    dsimp only
    rw [if_neg (by simp), runOn_bind_ok (runOn_ask _ _), free', if_neg Bool.false_ne_true]
    rfl
  of_not_affords h := by
    unfold insert
    exact ⟨s.store, runOn_bind_error (runOn_charge_of_not_affords h)⟩

section Rebalance

variable {x : Tx β} {b : β} (hx : Writes x b e c s) (alone : s.rival = none)
  (hc : s.store.classes.get? c.id = some c) (hr : e.reseats = true)
  (f : β → List Registration → Tx α)

include hx alone hc hr

/-- **An edit and the rebalance after it**, if the budget covers the writes of both. -/
theorem Writes.runOn_rebalance (affords : s.store.Affords (e.writes c s.now s.store)) :
    runOn (do let b ← x; let promoted ← rebalance c.id; f b promoted) s =
      runOn (f b (e.promoted c s.now s.store)) { s with
        store := (e.result c s.now s.store).spend (e.writes c s.now s.store) } := by
  unfold Edit.writes Edit.changes at affords ⊢
  unfold Edit.promoted Edit.result
  rw [if_pos hr] at affords ⊢
  rw [if_pos hr, if_pos hr]
  obtain ⟨h₁, h₂⟩ := Store.affords_add.1 affords
  -- the rebalance plans from the store after the edit, whatever the budget
  have hreb := Tx.runOn_rebalance (c := e.classAfter c s.now)
    (s := { s with store := (e.apply c s.now s.store).spend e.rows }) alone
    (by rw [e.classAfter_id]; exact Edit.get?_apply hc) ((e.affords_apply c _ _ _ _).2 h₂)
  rw [e.classAfter_id] at hreb
  rw [runOn_bind_ok (hx.of_affords h₁), runOn_bind_ok hreb, ← Store.spend_spend]
  rfl

/-- If the budget does not cover them, one of the writes fails. -/
theorem Writes.runOn_rebalance_of_not_affords
    (h : ¬ s.store.Affords (e.writes c s.now s.store)) :
    ∃ store, runOn (do let b ← x; let promoted ← rebalance c.id; f b promoted) s =
      (.error (.storage .budgetExhausted), { s with store := store }) := by
  unfold Edit.writes Edit.changes at h
  rw [if_pos hr] at h
  by_cases h₁ : s.store.Affords e.rows
  · -- the edit is paid for, so it is the rebalance that is not
    have h₂ : ¬ ((e.apply c s.now s.store).spend e.rows).Affords
        ((e.apply c s.now s.store).plan (e.classAfter c s.now)).changes.length :=
      fun h₂ => h (Store.affords_add.2 ⟨h₁, (e.affords_apply c _ _ _ _).1 h₂⟩)
    obtain ⟨t, ht⟩ := Tx.runOn_rebalance_of_not_affords (c := e.classAfter c s.now)
      (s := { s with store := (e.apply c s.now s.store).spend e.rows }) alone
      (by rw [e.classAfter_id]; exact Edit.get?_apply hc) h₂
    rw [e.classAfter_id] at ht
    rw [runOn_bind_ok (hx.of_affords h₁)]
    exact ⟨t, runOn_bind_error ht⟩
  · obtain ⟨t, ht⟩ := hx.of_not_affords h₁
    exact ⟨t, runOn_bind_error ht⟩

end Rebalance

end Tx

end EnrollmentDesk
