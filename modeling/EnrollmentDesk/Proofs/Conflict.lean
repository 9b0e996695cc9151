import EnrollmentDesk.Proofs.Balance
import EnrollmentDesk.Proofs.Bookings
import EnrollmentDesk.Proofs.Lineage

/-!
# One class for a child on a day

Two registrations *collide* if no child may hold both: they are for the same class, or for two
stored classes on one calendar day (`Store.Collide`). That no child holds two that collide
(`Store.IsCollisionFree`) is kept by everything the desk does.

The only step that could break it is the one that stores a registration, and it is preceded by a
check of conflicts. The check looks neither at all bookings nor at calendar days alone: it asks for
another active registration for the class, and for those bookings whose class lies within the bounds
of the day. That this is enough rests on the bounds holding every instant of the day
(`Instant.mem_dayBounds_iff`), for which the day has to begin with an instant that can be stored.
All other steps continue registrations, and never make one active again; and they leave the dates of
classes alone.

## Main statements

* `Conflict.find?_eq_none_iff` — what it means that no conflict is found among bookings;
* `Operation.Asks.not_collide` — a registration that passes the check collides with none its child
  has;
* `Desk.one_class_a_day` — so no child gets two that collide, in any run.
-/

namespace EnrollmentDesk

/-! ### What the check looks at -/

/-- No conflict is found exactly if no active booking is for the class, nor on its day. -/
theorem Conflict.find?_eq_none_iff {childId : Int} {target : Class} {bookings : List Booking}
    {zone : Offset} :
    Conflict.find? childId target bookings zone = none ↔
      ∀ b ∈ bookings, b.status.isActive = true →
        b.classId ≠ target.id ∧ b.classDate.sameDay target.date zone = false := by
  unfold Conflict.find?
  dsimp only
  split
  · -- a booking for the class itself is a conflict
    next doubled =>
    obtain ⟨b, hb, same⟩ := List.any_eq_true.1 doubled
    obtain ⟨hb, active⟩ := List.mem_filter.1 hb
    refine ⟨(nomatch ·), fun h => ?_⟩
    exact absurd (beq_iff_eq.1 same) (h b hb active).1
  · next single =>
    have other : ∀ b ∈ bookings, b.status.isActive = true → b.classId ≠ target.id := by
      intro b hb active same
      exact single (List.any_eq_true.2 ⟨b, List.mem_filter.2 ⟨hb, active⟩, beq_iff_eq.2 same⟩)
    rw [Option.map_eq_none_iff, List.find?_eq_none]
    constructor
    · intro h b hb active
      have hne := other b hb active
      have hmem : b ∈ (bookings.filter fun b => b.status.isActive).filter
          fun b => b.classId != target.id :=
        List.mem_filter.2 ⟨List.mem_filter.2 ⟨hb, active⟩, bne_iff_ne.2 hne⟩
      exact ⟨hne, Bool.eq_false_iff.2 (h b hmem)⟩
    · intro h b hb
      obtain ⟨hb, active⟩ := List.mem_filter.1 (List.mem_filter.1 hb).1
      exact Bool.eq_false_iff.1 (h b hb active).2

namespace Store

variable {s : Store}

/-- An active registration of the child for a stored class in the range is among the bookings. -/
theorem mem_bookingsBetween {r : Registration} {k : Class} {start stop : Instant}
    (hr : r ∈ s.registrations) (active : r.isActive = true) (hk : s.classes.get? r.classId = some k)
    (begun : start ≤ k.date) (open_ : k.date < stop) :
    (⟨r.id, r.classId, k.date, r.status⟩ : Booking) ∈
      s.bookingsBetween r.childId start stop :=
  mem_bookingsBetween_iff.2
    ⟨mem_bookingsOf.2 ⟨r, hr, rfl, active, k, hk, rfl⟩, begun, open_⟩

/-! ### Collisions -/

/-- Two registrations that no child may hold both: for one class, or for two stored classes on one
day. -/
def Collide (s : Store) (zone : Offset) (a b : Registration) : Prop :=
  a.classId = b.classId ∨ ∃ c ∈ s.classes, ∃ k ∈ s.classes,
    c.id = a.classId ∧ k.id = b.classId ∧ c.date.sameDay k.date zone = true

/-- No child has two active registrations that collide. -/
def IsCollisionFree (s : Store) (zone : Offset) : Prop :=
  ∀ a ∈ s.registrations, ∀ b ∈ s.registrations, a.isActive = true → b.isActive = true →
    a.childId = b.childId → a.id ≠ b.id → ¬ s.Collide zone a b

/-- The days of all classes begin with instants that can be stored. -/
def HasDays (s : Store) (zone : Offset) : Prop :=
  ∀ c ∈ s.classes, c.date.HasDay zone

instance (s : Store) (zone : Offset) (a b : Registration) : Decidable (s.Collide zone a b) :=
  inferInstanceAs (Decidable (_ ∨ ∃ c ∈ s.classes.rows, ∃ k ∈ s.classes.rows, _))

instance (s : Store) (zone : Offset) : Decidable (s.IsCollisionFree zone) :=
  inferInstanceAs (Decidable (∀ a ∈ s.registrations.rows, ∀ b ∈ s.registrations.rows, _))

instance (s : Store) (zone : Offset) : Decidable (s.HasDays zone) :=
  inferInstanceAs (Decidable (∀ c ∈ s.classes.rows, _))

variable {zone : Offset} {a b : Registration}

theorem Collide.symm (h : s.Collide zone a b) : s.Collide zone b a := by
  rcases h with place | ⟨c, hc, k, hk, hca, hkb, day⟩
  · exact .inl place.symm
  · exact .inr ⟨k, hk, c, hc, hkb, hca, Instant.sameDay_iff.2 (Instant.sameDay_iff.1 day).symm⟩

end Store

/-! ### The check before a registration is stored -/

namespace Operation

variable {st : EnrollmentSettings} {op : Operation} {c : Class} {now : Instant} {s : Store}
  {zone : Offset}

/-- **A registration that passes the check collides with none that its child has.** -/
theorem Asks.not_collide {new : NewRegistration} (asked : Asks st now s op c (.insert new))
    (local_ : st.zone = .ok zone) (days : s.HasDays zone) {a r : Registration}
    (ha : a.childId = new.childId ∧ a.classId = new.classId) (hr : r ∈ s.registrations)
    (active : r.isActive = true) (child : a.childId = r.childId) : ¬ s.Collide zone a r := by
  rcases asked with @⟨childId, c, _, zone', _, stored, -, -, zoned, single, apart, -, -⟩
  obtain rfl : zone' = zone := Except.ok.inj (zoned.symm.trans local_)
  obtain ⟨achild, aplace⟩ := ha
  have rchild : r.childId = childId := child.symm.trans achild
  have other : r.classId ≠ c.id := Store.hasActive_eq_false_iff.1 single r hr active rchild
  rintro (place | ⟨c', hc', k, hk, hca, hkr, day⟩)
  · exact other (place.symm.trans aplace)
  · -- the class of `r` is on the day, so its booking is within the bounds of the day
    obtain rfl : c' = c :=
      Table.eq_of_key_eq hc' (Table.mem_of_get? stored) (hca.trans aplace)
    have day : k.date.sameDay c'.date zone' = true :=
      Instant.sameDay_iff.2 (Instant.sameDay_iff.1 day).symm
    have within := (Instant.mem_dayBounds_iff (days c' hc')).2 day
    have hbooked := Store.mem_bookingsBetween hr active (hkr ▸ Table.get?_of_mem hk)
      within.1 within.2
    rw [rchild] at hbooked
    have hfree := (Conflict.find?_eq_none_iff.1 apart _ hbooked active).2
    exact nomatch hfree.symm.trans day

end Operation

/-! ### Edits -/

namespace Edit

variable {e : Edit} {c : Class} {s : Store} {now : Instant} {zone : Offset}

/-- No edit moves a class to another date. -/
theorem exists_class_of_mem_result (stored : s.classes.get? c.id = some c) {k : Class}
    (hk : k ∈ (e.result c now s).classes) : ∃ k' ∈ s.classes, k'.id = k.id ∧ k'.date = k.date := by
  rcases mem_classes_result stored hk with rfl | ⟨hk, -⟩
  · refine ⟨c, Table.mem_of_get? stored, (e.classAfter_id c now).symm, ?_⟩
    cases e <;> rfl
  · exact ⟨k, hk, rfl, rfl⟩

theorem hasDays_result (stored : s.classes.get? c.id = some c) (days : s.HasDays zone) :
    (e.result c now s).HasDays zone := by
  intro k hk
  obtain ⟨k', hk', -, date⟩ := exists_class_of_mem_result stored hk
  rw [← date]
  exact days k' hk'

/-- What collides after an edit, collided before it. -/
theorem collide_of_result (stored : s.classes.get? c.id = some c) {a b x y : Registration}
    (hx : x.classId = a.classId) (hy : y.classId = b.classId)
    (h : (e.result c now s).Collide zone x y) : s.Collide zone a b := by
  rcases h with place | ⟨k, hk, l, hl, hkx, hly, day⟩
  · exact .inl (hx.symm.trans (place.trans hy))
  · obtain ⟨k', hk', kid, kdate⟩ := exists_class_of_mem_result stored hk
    obtain ⟨l', hl', lid, ldate⟩ := exists_class_of_mem_result stored hl
    rw [← kdate, ← ldate] at day
    exact .inr ⟨k', hk', l', hl', kid.trans (hkx.trans hx), lid.trans (hly.trans hy), day⟩

/-- **What an operation writes lets no child have two registrations that collide.** -/
theorem isCollisionFree_result {st : EnrollmentSettings} {op : Operation}
    (asked : op.Asks st now s c e) (local_ : st.zone = .ok zone) (days : s.HasDays zone)
    (numbered : s.IsNumbered) (h : s.IsCollisionFree zone) :
    (e.result c now s).IsCollisionFree zone := by
  intro x hx y hy xactive yactive child apart collide
  have origin := fun {x} (hx : x ∈ (e.result c now s).registrations) =>
    continues_of_mem_result asked.fits (fun _ _ => numbered) hx
  -- both are from before, or one is the registration just stored; two of these are the same
  rcases origin hx with ⟨a, ha, xa⟩ | ⟨new, rfl, xnew⟩
  · rcases origin hy with ⟨b, hb, yb⟩ | ⟨new, rfl, ynew⟩
    · refine h a ha b hb (xa.active xactive) (yb.active yactive) ?_ ?_
        (collide_of_result asked.stored xa.classId yb.classId collide)
      · rw [← xa.childId, ← yb.childId]
        exact child
      · rw [← xa.id, ← yb.id]
        exact apart
    · refine asked.not_collide local_ days ⟨ynew.childId, ynew.classId⟩ ha (xa.active xactive) ?_
        (collide_of_result asked.stored xa.classId rfl collide).symm
      rw [← xa.childId]
      exact child.symm
  · rcases origin hy with ⟨b, hb, yb⟩ | ⟨new', he, ynew⟩
    · refine asked.not_collide local_ days ⟨xnew.childId, xnew.classId⟩ hb (yb.active yactive) ?_
        (collide_of_result asked.stored rfl yb.classId collide)
      rw [← yb.childId]
      exact child
    · obtain rfl := Edit.insert.inj he
      exact apart (xnew.id.trans ynew.id.symm)

end Edit

/-! ### Runs -/

/-- **No child has two classes on a day**, in any run from a store in which none has: no two active
registrations of a child are for the same class, or for stored classes on the same calendar day of
the families' time zone. -/
theorem Desk.one_class_a_day (office : Office) (d : Desk) (alone : d.rival = none) (zone : Offset)
    (local_ : office.settings.enrollment.zone = .ok zone) (days : d.store.HasDays zone)
    (numbered : d.store.IsNumbered) (free : d.store.IsCollisionFree zone) (events : List Event) :
    (run office d events).store.IsCollisionFree zone := by
  suffices kept : (run office d events).store.IsCollisionFree zone ∧
      (run office d events).store.HasDays zone ∧ (run office d events).store.IsNumbered from kept.1
  refine run_induction (P := fun s => s.IsCollisionFree zone ∧ s.HasDays zone ∧ s.IsNumbered) alone
    ⟨free, days, numbered⟩ (fun _ _ h => h) ?_ events
  · intro op now s c e asked h
    obtain ⟨hfree, hdays, hnumbered⟩ := h
    exact ⟨Edit.isCollisionFree_result asked local_ hdays hnumbered hfree,
      Edit.hasDays_result asked.stored hdays, Edit.isNumbered_result asked.fits hnumbered now⟩

namespace Sample

/-- A class on the day of `yoga`. -/
def pottery : Class :=
  { yoga with id := 2, name := "Pottery", date := ⟨2000⟩ }

/-- The desk with both classes, at which the child who has a seat in one is known. -/
def busyDesk : Desk :=
  { desk with store := (store.addClass pottery).addChild ⟨1, 1, "Ada", ⟨0⟩⟩ }

/-- Seven hours east of universal time. -/
def east : Offset := ⟨25200, by decide, by decide⟩

/-- The child is refused for the second class, and gets into it once the first is given up. -/
theorem ada_has_one_class :
    busyDesk.rival = none ∧ office.settings.enrollment.zone = .ok east ∧
      busyDesk.store.HasDays east ∧ busyDesk.store.IsNumbered ∧
      busyDesk.store.IsCollisionFree east ∧
      (Desk.run office busyDesk [.operation (.create 1 2)]).store.hasActive 1 2 = false ∧
      (Desk.run office busyDesk [.operation (.create 1 2), .operation (.cancelById 1),
        .operation (.create 1 2)]).store.hasActive 1 2 = true ∧
      (Desk.run office busyDesk [.operation (.create 1 2), .operation (.cancelById 1),
        .operation (.create 1 2)]).store.IsCollisionFree east := by
  have local_ : office.settings.enrollment.zone = .ok east := rfl
  have days : busyDesk.store.HasDays east := by decide
  have numbered : busyDesk.store.IsNumbered := by decide
  have free : busyDesk.store.IsCollisionFree east := by decide
  exact ⟨rfl, local_, days, numbered, free, rfl, rfl,
    Desk.one_class_a_day office busyDesk rfl east local_ days numbered free _⟩

end Sample

end EnrollmentDesk
