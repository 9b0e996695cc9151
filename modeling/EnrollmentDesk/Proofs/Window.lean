import EnrollmentDesk.Proofs.Conflict
import EnrollmentDesk.Proofs.Operation

/-!
# The window of a day

To see whether a child can be registered for a class, a session does not look at all its bookings.
It asks for another active registration for the class, and then reads the bookings within the bounds
of the local day of the class. Whoever looks at all of them, in order and without bounds, comes to
the same: to the same fault or to none, and of several bookings on the day the same one is named
(`Store.conflict?_eq_find?`).

Two facts are put together. The bookings in a window are those of the whole list that are in it, in
the order of the whole list (`Store.bookingsBetween_eq_filter`), so the first of them on a day that
lies in the window is the first of all on that day. And if the bounds of the day of the class can be
stored, nothing of the day is outside them (`Instant.mem_dayBounds_iff`). For registrations for the
class itself nothing has to be shown but that they are bookings, which they are since it is stored.
-/

namespace EnrollmentDesk

namespace Store

variable {s : Store} {childId : Int} {l : List Booking}

/-- `a` is listed before `b`: by date of the class, then by number. -/
def Booking.IsBefore (a b : Booking) : Prop :=
  a.classDate < b.classDate ∨ (a.classDate = b.classDate ∧ a.registrationId < b.registrationId)

theorem Booking.isBefore_of_before {a b : Booking} (h : before a b = true)
    (apart : a.registrationId ≠ b.registrationId) : IsBefore a b := by
  rw [before_iff] at h
  unfold IsBefore
  rw [Instant.eq_iff_ticks]
  change a.classDate.ticks < b.classDate.ticks ∨ (_ ∧ _)
  omega

/-- The list has all bookings of a child, that is its active registrations for stored classes, each
once and in order. -/
structure ListsBookings (s : Store) (childId : Int) (l : List Booking) : Prop where
  listed : ∀ b, b ∈ l ↔ ∃ r ∈ s.registrations, r.childId = childId ∧ r.isActive = true ∧
    ∃ k, s.classes.get? r.classId = some k ∧ b = ⟨r.id, r.classId, k.date, r.status⟩
  sorted : l.Pairwise Booking.IsBefore

theorem pairwise_bookingsOf (s : Store) (childId : Int) :
    (s.bookingsOf childId).Pairwise fun a b => Booking.before a b = true :=
  pairwise_sortBy Booking.before_total Booking.before_trans _

/-- No registration is booked twice. -/
theorem nodup_bookingsOf (s : Store) (childId : Int) :
    ((s.bookingsOf childId).map Booking.registrationId).Nodup := by
  have hperm : (s.bookingsOf childId).Perm _ := sortBy_perm _ _
  rw [(hperm.map _).nodup_iff, List.nodup_iff_pairwise_ne, List.pairwise_map]
  -- the rows have different numbers, and each booking has the number of its row
  refine List.Pairwise.filterMap _ ?_ (s.registrations.increasing.filter _)
  intro r q hlt a ha b hb
  obtain ⟨k, -, rfl⟩ := Option.map_eq_some_iff.1 ha
  obtain ⟨k', -, rfl⟩ := Option.map_eq_some_iff.1 hb
  exact Int.ne_of_lt hlt

theorem listsBookings_bookingsOf (s : Store) (childId : Int) :
    s.ListsBookings childId (s.bookingsOf childId) where
  listed _ := mem_bookingsOf
  sorted := by
    have apart := s.nodup_bookingsOf childId
    rw [List.nodup_iff_pairwise_ne, List.pairwise_map] at apart
    exact ((s.pairwise_bookingsOf childId).and apart).imp fun h =>
      Booking.isBefore_of_before h.1 h.2

/-- **The bookings in a window** are those of the whole list that are in it, in its order. -/
theorem bookingsBetween_eq_filter (s : Store) (childId : Int) (start stop : Instant) :
    s.bookingsBetween childId start stop =
      (s.bookingsOf childId).filter fun b => start ≤ b.classDate && b.classDate < stop := by
  have hperm : (s.bookingsBetween childId start stop).Perm
      ((s.bookingsOf childId).filter fun b => start ≤ b.classDate && b.classDate < stop) :=
    (sortBy_perm _ _).trans ((sortBy_perm _ _).symm.filter _)
  -- two sorted lists of the same bookings, and no registration has two of them
  refine hperm.eq_of_pairwise ?_ (s.pairwise_bookingsBetween childId start stop)
    ((s.pairwise_bookingsOf childId).filter _)
  intro a b ha hb hab hba
  exact eq_of_registrationId_eq (mem_bookingsBetween_iff.1 ha).1 (List.mem_filter.1 hb).1
    (Booking.registrationId_eq hab hba)

variable {c : Class} {zone : Offset}

/-- The first booking on the day of a class is found in the window of the day. -/
theorem find?_bookingsBetween (s : Store) (childId : Int) (day : c.date.HasDay zone) :
    ((s.bookingsBetween childId (c.date.dayBounds zone).1 (c.date.dayBounds zone).2).find?
        fun b => b.classDate.sameDay c.date zone) =
      (s.bookingsOf childId).find? fun b => b.classDate.sameDay c.date zone := by
  rw [bookingsBetween_eq_filter, List.find?_filter]
  congr 1
  funext b
  rw [Bool.eq_iff_iff, decide_eq_true_iff, Bool.and_eq_true, decide_eq_true_iff,
    decide_eq_true_iff, Instant.mem_dayBounds_iff day, and_self]

/-- **The window of a day shows all that matters**: what is found in it is what is found among all
bookings. -/
theorem conflict?_eq_find? (stored : s.classes.get? c.id = some c) (childId : Int)
    (day : c.date.HasDay zone) (ends : c.date.hasDayBounds zone = true) :
    s.conflict? childId c zone = Conflict.find? childId c (s.bookingsOf childId) zone := by
  unfold conflict?
  split
  · next doubled =>
    -- the other registration for the class is a booking
    obtain ⟨r, hr, active, child, place⟩ := hasActive_iff.1 doubled
    have booked : (⟨r.id, r.classId, c.date, r.status⟩ : Booking) ∈ s.bookingsOf childId :=
      mem_bookingsOf.2 ⟨r, hr, child, active, c, place ▸ stored, rfl⟩
    have twice : ((s.bookingsOf childId).filter fun b => b.status.isActive).any
        (fun b => b.classId == c.id) = true :=
      List.any_eq_true.2 ⟨_, List.mem_filter.2 ⟨booked, active⟩, beq_iff_eq.2 place⟩
    unfold Conflict.find?
    rw [if_pos twice]
  · next single =>
    have single : s.hasActive childId c.id = false := Bool.eq_false_iff.2 single
    have others : ∀ b ∈ s.bookingsOf childId, b.status.isActive = true ∧ b.classId ≠ c.id := by
      intro b hb
      obtain ⟨r, hr, child, active, k, -, rfl⟩ := mem_bookingsOf.1 hb
      exact ⟨active, hasActive_eq_false_iff.1 single r hr active child⟩
    rw [ends, if_neg (by decide), Conflict.find?_of_others others,
      Conflict.find?_of_others fun b hb => others b (mem_bookingsBetween_iff.1 hb).1,
      find?_bookingsBetween s childId day]

/-- A class on the same day is named exactly if one is booked and the class itself is not. -/
theorem exists_conflict?_eq_sameDay (stored : s.classes.get? c.id = some c) (childId : Int)
    (day : c.date.HasDay zone) (ends : c.date.hasDayBounds zone = true) :
    (∃ classId, s.conflict? childId c zone = some (.sameDay childId c.id classId)) ↔
      s.hasActive childId c.id = false ∧ ∃ r ∈ s.registrations, r.childId = childId ∧
        r.isActive = true ∧ ∃ k, s.classes.get? r.classId = some k ∧
          k.date.sameDay c.date zone = true := by
  cases doubled : s.hasActive childId c.id with
  | true =>
    unfold conflict?
    rw [doubled, if_pos rfl]
    refine ⟨?_, fun h => nomatch h.1⟩
    rintro ⟨classId, named⟩
    exact nomatch named
  | false =>
    have others : ∀ b ∈ s.bookingsOf childId, b.status.isActive = true ∧ b.classId ≠ c.id := by
      intro b hb
      obtain ⟨r, hr, child, active, k, -, rfl⟩ := mem_bookingsOf.1 hb
      exact ⟨active, hasActive_eq_false_iff.1 doubled r hr active child⟩
    rw [conflict?_eq_find? stored childId day ends, Conflict.find?_of_others others,
      and_iff_right rfl]
    constructor
    · rintro ⟨classId, named⟩
      obtain ⟨b, found, -⟩ := Option.map_eq_some_iff.1 named
      obtain ⟨r, hr, child, active, k, hk, rfl⟩ :=
        mem_bookingsOf.1 (List.mem_of_find?_eq_some found)
      have same := List.find?_some
        (p := fun b : Booking => b.classDate.sameDay c.date zone) found
      exact ⟨r, hr, child, active, k, hk, same⟩
    · rintro ⟨r, hr, child, active, k, hk, same⟩
      have booked := mem_bookingsOf.2 ⟨r, hr, child, active, k, hk, rfl⟩
      have found : ((s.bookingsOf childId).find? fun b =>
          b.classDate.sameDay c.date zone).isSome = true :=
        List.find?_isSome.2 ⟨_, booked, same⟩
      obtain ⟨b, hb⟩ := Option.isSome_iff_exists.1 found
      exact ⟨b.classId, by rw [hb, Option.map_some]⟩

end Store

/-- **The window of a day misses nothing.** For a stored class with a day that can be stored, a
session that looks at the window of the day says of a child what the whole list of its bookings
says, in order and without bounds: it finds no conflict in the same cases, and the same one else.
So it names another class on the day exactly if the child has an active registration for one, and
none for the class itself. -/
theorem Tx.window_misses_nothing (s : Session) {c : Class}
    (stored : s.store.classes.get? c.id = some c) (childId : Int) {zone : Offset}
    (day : c.date.HasDay zone) (ends : c.date.hasDayBounds zone = true) :
    s.store.ListsBookings childId (s.store.bookingsOf childId) ∧
      runOn (checkConflicts childId c.id zone) s =
        ((match Conflict.find? childId c (s.store.bookingsOf childId) zone with
          | some conflict => .error conflict
          | none => .ok ⟨⟩), s) ∧
      ((∃ classId, (runOn (checkConflicts childId c.id zone) s).1 =
          .error (.sameDay childId c.id classId)) ↔
        (∀ r ∈ s.store.registrations, r.isActive = true → r.childId = childId →
          r.classId ≠ c.id) ∧
        ∃ r ∈ s.store.registrations, r.childId = childId ∧ r.isActive = true ∧
          r.classId ≠ c.id ∧ ∃ k, s.store.classes.get? r.classId = some k ∧
            k.date.sameDay c.date zone = true) := by
  have runs := Enrollment.runOn_checkConflicts stored childId zone
  refine ⟨s.store.listsBookings_bookingsOf childId, ?_, ?_⟩
  · rw [runs, s.store.conflict?_eq_find? stored childId day ends]
    cases Conflict.find? childId c (s.store.bookingsOf childId) zone <;> rfl
  · have verdict : ∀ e, (runOn (checkConflicts childId c.id zone) s).1 = .error e ↔
        s.store.conflict? childId c zone = some e := by
      intro e
      rw [runs]
      cases s.store.conflict? childId c zone with
      | none => exact ⟨(nomatch ·), (nomatch ·)⟩
      | some e' => rw [Except.error.injEq, Option.some.injEq]
    rw [exists_congr fun classId => verdict _,
      s.store.exists_conflict?_eq_sameDay stored childId day ends, Store.hasActive_eq_false_iff]
    -- without an active registration for the class itself, each is for another
    refine and_congr_right fun single => exists_congr fun r => and_congr_right fun hr =>
      and_congr_right fun child => and_congr_right fun active => ?_
    rw [and_iff_right (single r hr active child)]

namespace Sample

/-- The child who has a seat in `yoga` is told of it when it asks for the class of the same day, and
a child who has none is free to come. -/
theorem ada_is_told_of_yoga :
    busyDesk.store.classes.get? pottery.id = some pottery ∧ pottery.date.HasDay east ∧
      pottery.date.hasDayBounds east = true ∧
      (runOn (Tx.checkConflicts 1 pottery.id east) busyDesk.session).1 =
        .error (.sameDay 1 pottery.id yoga.id) ∧
      (runOn (Tx.checkConflicts 3 pottery.id east) busyDesk.session).1 = .ok ⟨⟩ := by
  have stored : busyDesk.session.store.classes.get? pottery.id = some pottery := rfl
  have day : pottery.date.HasDay east := by decide
  have ends : pottery.date.hasDayBounds east = true := by decide
  have sees := fun childId => Tx.window_misses_nothing busyDesk.session stored childId day ends
  exact ⟨stored, day, ends, congrArg Prod.fst (sees 1).2.1, congrArg Prod.fst (sees 3).2.1⟩

end Sample

end EnrollmentDesk
