import EnrollmentDesk.Proofs.LocalDay
import EnrollmentDesk.Proofs.Rebalance

/-!
# What a child has on a day

The bookings of a child are its active registrations for stored classes, listed by date of the class
and then by number. A check of conflicts reads only those in the range of a day and names the first
that is on the day of the class, so it names the least of those on the day
(`Store.find?_conflict`).

The range of a day that begins before the first instant that can be stored begins with the class
itself. So on such a day a booking is met only if its class is no earlier (`Store.Booking.Meets`).
-/

namespace EnrollmentDesk

namespace Instant

variable {t x : Instant} {zone : Offset}

/-- So many seconds later, so many seconds have passed in full. -/
theorem le_plusSeconds {s : Int} (h : 0 < s) :
    (t.second + s) * ticksPerSecond ≤ (t.plusSeconds s).ticks := by
  unfold plusSeconds second
  cases hleap : t.isLeap with
  | false =>
    rw [Bool.not_false, Bool.true_or, if_pos rfl]
    unfold ticksPerSecond
    dsimp only
    omega
  | true =>
    -- who leaves a leap second starts half the room earlier, which is in the same second still
    have late : nanosPerSecond ≤ t.nano := of_decide_eq_true hleap
    have moves : ¬ decide (s = 0) = true := by
      rw [decide_eq_true_iff]
      omega
    rw [Bool.not_true, Bool.false_or, if_neg moves, if_pos h]
    unfold nano nanosPerSecond ticksPerSecond at *
    dsimp only
    omega

/-- What is on the day of an instant comes less than a day after it. -/
theorem lt_plusSeconds_of_sameDay (day : x.sameDay t zone = true) :
    x < t.plusSeconds secondsPerDay := by
  rw [sameDay_iff, Day.eq_localDay_iff] at day
  have ends := Day.lt_start_iff.1 day.2
  have begun := Day.start_le_iff.1 (Day.eq_localDay_iff.1 (rfl : t.localDay zone = _)).1
  have passed := le_plusSeconds (t := t) (s := secondsPerDay) (by decide)
  rw [Day.next_number] at ends
  change x.ticks < (t.plusSeconds secondsPerDay).ticks
  unfold localSecond second secondsPerDay ticksPerSecond at *
  omega

/-- **What the range of a day holds of that day**: all of it, or what is left of it if it begins
with no instant that can be stored. -/
theorem mem_dayBounds_and_sameDay_iff :
    (t.dayBounds zone).1 ≤ x ∧ x < (t.dayBounds zone).2 ∧ x.sameDay t zone = true ↔
      x.sameDay t zone = true ∧ (t.HasDay zone ∨ t ≤ x) := by
  by_cases h : t.HasDay zone
  · rw [← and_assoc, mem_dayBounds_iff h, and_self, and_iff_left (.inl h)]
  · have hbounds : t.dayBounds zone = (t, t.plusSeconds secondsPerDay) := by
      have begins : ((t.localDay zone).start zone).isRepresentable = false := by
        simpa [HasDay] using h
      unfold dayBounds
      dsimp only
      rw [begins, if_neg Bool.false_ne_true]
    rw [hbounds, or_iff_right h]
    exact ⟨fun ⟨later, _, day⟩ => ⟨day, later⟩,
      fun ⟨day, later⟩ => ⟨later, lt_plusSeconds_of_sameDay day, day⟩⟩

end Instant

/-! ### Lists of bookings -/

namespace Store.Booking

variable {a b : Booking}

theorem before_iff : before a b = true ↔ a.classDate.ticks < b.classDate.ticks ∨
    (a.classDate.ticks = b.classDate.ticks ∧ a.registrationId ≤ b.registrationId) := by
  unfold before
  rw [Bool.or_eq_true, Bool.and_eq_true, decide_eq_true_iff, decide_eq_true_iff,
    decide_eq_true_iff, Instant.mk.injEq]
  exact Iff.rfl

theorem before_total (a b : Booking) : before a b = true ∨ before b a = true := by
  rw [before_iff, before_iff]
  omega

theorem before_trans (a b c : Booking) (hab : before a b = true) (hbc : before b c = true) :
    before a c = true := by
  rw [before_iff] at *
  omega

/-- Two bookings before each other are of one registration. -/
theorem registrationId_eq (hab : before a b = true) (hba : before b a = true) :
    a.registrationId = b.registrationId := by
  rw [before_iff] at hab hba
  omega

end Store.Booking

/-- What is found in a list that is in order comes before all that could have been found. -/
theorem le_of_find? {α : Type} {le : α → α → Bool} (refl : ∀ a, le a a = true) {l : List α}
    (sorted : l.Pairwise fun a b => le a b = true) {p : α → Bool} {a : α}
    (found : l.find? p = some a) {b : α} (hb : b ∈ l) (hp : p b = true) : le a b = true := by
  induction l with
  | nil => exact absurd hb List.not_mem_nil
  | cons x l ih =>
    obtain ⟨first, rest⟩ := List.pairwise_cons.1 sorted
    rw [List.find?_cons] at found
    cases hx : p x with
    | true =>
      rw [hx] at found
      obtain rfl := Option.some.inj found
      rcases List.mem_cons.1 hb with rfl | hb
      · exact refl b
      · exact first b hb
    | false =>
      rw [hx] at found
      rcases List.mem_cons.1 hb with rfl | hb
      · exact nomatch hp.symm.trans hx
      · exact ih rest found hb

namespace Store

variable {s : Store} {childId : Int} {start stop : Instant} {b : Booking}

theorem mem_bookingsOf : b ∈ s.bookingsOf childId ↔
    ∃ r ∈ s.registrations, r.childId = childId ∧ r.isActive = true ∧
      ∃ k, s.classes.get? r.classId = some k ∧ b = ⟨r.id, r.classId, k.date, r.status⟩ := by
  unfold bookingsOf booking?
  rw [mem_sortBy, List.mem_filterMap]
  refine exists_congr fun r => ?_
  rw [List.mem_filter, Bool.and_eq_true, beq_iff_eq, Option.map_eq_some_iff]
  constructor
  · rintro ⟨⟨hr, child, active⟩, k, hk, rfl⟩
    exact ⟨hr, child, active, k, hk, rfl⟩
  · rintro ⟨hr, child, active, k, hk, rfl⟩
    exact ⟨⟨hr, child, active⟩, k, hk, rfl⟩

/-- A registration has one booking. -/
theorem eq_of_registrationId_eq {a : Booking} (ha : a ∈ s.bookingsOf childId)
    (hb : b ∈ s.bookingsOf childId) (h : a.registrationId = b.registrationId) : a = b := by
  obtain ⟨r, hr, -, -, k, hk, rfl⟩ := mem_bookingsOf.1 ha
  obtain ⟨q, hq, -, -, l, hl, rfl⟩ := mem_bookingsOf.1 hb
  obtain rfl := Table.eq_of_key_eq hr hq h
  rw [Option.some.inj (hk.symm.trans hl)]

theorem mem_bookingsBetween_iff : b ∈ s.bookingsBetween childId start stop ↔
    b ∈ s.bookingsOf childId ∧ start ≤ b.classDate ∧ b.classDate < stop := by
  unfold bookingsBetween bookingsOf
  rw [mem_sortBy, mem_sortBy, List.mem_filter, Bool.and_eq_true, decide_eq_true_iff,
    decide_eq_true_iff]

theorem pairwise_bookingsBetween (s : Store) (childId : Int) (start stop : Instant) :
    (s.bookingsBetween childId start stop).Pairwise fun a b => Booking.before a b = true :=
  pairwise_sortBy Booking.before_total Booking.before_trans _

theorem hasActive_iff {classId : Int} : s.hasActive childId classId = true ↔
    ∃ r ∈ s.registrations, r.isActive = true ∧ r.childId = childId ∧ r.classId = classId := by
  unfold hasActive
  rw [List.any_eq_true]
  refine exists_congr fun r => and_congr_right fun _ => ?_
  rw [Bool.and_eq_true, Bool.and_eq_true, beq_iff_eq, beq_iff_eq, and_comm]

theorem hasActive_eq_false_iff {classId : Int} : s.hasActive childId classId = false ↔
    ∀ r ∈ s.registrations, r.isActive = true → r.childId = childId → r.classId ≠ classId := by
  rw [← Bool.not_eq_true, hasActive_iff]
  simp only [not_exists, not_and, ne_eq]

/-! ### The first booking on a day -/

/-- The booking is on the day of the class, in the part of it that is looked at. -/
def Booking.Meets (b : Booking) (c : Class) (zone : Offset) : Prop :=
  b.classDate.sameDay c.date zone = true ∧ (c.date.HasDay zone ∨ c.date ≤ b.classDate)

/-- The booking of the child on the day of the class that has the least date and, among those of
that date, the least number. -/
structure IsFirstOn (s : Store) (childId : Int) (c : Class) (zone : Offset) (b : Booking) :
    Prop where
  booked : b ∈ s.bookingsOf childId
  meets : Booking.Meets b c zone
  first : ∀ x ∈ s.bookingsOf childId, Booking.Meets x c zone → Booking.before b x = true

variable {c : Class} {zone : Offset}

theorem IsFirstOn.unique {a : Booking} (ha : s.IsFirstOn childId c zone a)
    (hb : s.IsFirstOn childId c zone b) : a = b :=
  eq_of_registrationId_eq ha.booked hb.booked
    (Booking.registrationId_eq (ha.first b hb.booked hb.meets) (hb.first a ha.booked ha.meets))

instance (b : Booking) (c : Class) (zone : Offset) : Decidable (Booking.Meets b c zone) :=
  inferInstanceAs (Decidable (_ ∧ _))

end Store

/-- A check of conflicts with bookings for other classes looks for the first on the day. -/
theorem Conflict.find?_of_others {childId : Int} {target : Class} {bookings : List Booking}
    {zone : Offset}
    (others : ∀ b ∈ bookings, b.status.isActive = true ∧ b.classId ≠ target.id) :
    Conflict.find? childId target bookings zone =
      (bookings.find? fun b => b.classDate.sameDay target.date zone).map fun b =>
        .sameDay childId target.id b.classId := by
  have active : (bookings.filter fun b => b.status.isActive) = bookings :=
    List.filter_eq_self.2 fun b hb => (others b hb).1
  have other : (bookings.filter fun b => b.classId != target.id) = bookings :=
    List.filter_eq_self.2 fun b hb => bne_iff_ne.2 (others b hb).2
  have single : ¬ (bookings.any fun b => b.classId == target.id) = true := by
    rw [List.any_eq_true]
    rintro ⟨b, hb, same⟩
    exact (others b hb).2 (beq_iff_eq.1 same)
  unfold Conflict.find?
  dsimp only
  rw [active, if_neg single, other]

/-- **A check of conflicts names the first booking on the day**, if there is one and the child has
no active registration for the class itself. -/
theorem Store.find?_conflict {s : Store} {childId : Int} {c : Class}
    (single : s.hasActive childId c.id = false) (zone : Offset) :
    (∃ b, s.IsFirstOn childId c zone b ∧
      Conflict.find? childId c (s.bookingsBetween childId (c.date.dayBounds zone).1
        (c.date.dayBounds zone).2) zone = some (.sameDay childId c.id b.classId)) ∨
    ((∀ b ∈ s.bookingsOf childId, ¬ Booking.Meets b c zone) ∧
      Conflict.find? childId c (s.bookingsBetween childId (c.date.dayBounds zone).1
        (c.date.dayBounds zone).2) zone = none) := by
  have meets_iff : ∀ {b}, b ∈ s.bookingsBetween childId (c.date.dayBounds zone).1
      (c.date.dayBounds zone).2 ∧ b.classDate.sameDay c.date zone = true ↔
        b ∈ s.bookingsOf childId ∧ Booking.Meets b c zone := by
    intro b
    rw [mem_bookingsBetween_iff, and_assoc, and_assoc, Instant.mem_dayBounds_and_sameDay_iff]
    exact Iff.rfl
  have sorted := s.pairwise_bookingsBetween childId (c.date.dayBounds zone).1
    (c.date.dayBounds zone).2
  rw [Conflict.find?_of_others]
  · cases found : (s.bookingsBetween childId (c.date.dayBounds zone).1
        (c.date.dayBounds zone).2).find? fun b => b.classDate.sameDay c.date zone with
    | none =>
      refine .inr ⟨fun b booked meets => ?_, rfl⟩
      obtain ⟨hb, day⟩ := meets_iff.2 ⟨booked, meets⟩
      exact List.find?_eq_none.1 found b hb day
    | some b =>
      obtain ⟨booked, meets⟩ := meets_iff.1 ⟨List.mem_of_find?_eq_some found,
        List.find?_some (p := fun b : Booking => b.classDate.sameDay c.date zone) found⟩
      refine .inl ⟨b, ⟨booked, meets, fun x hx xmeets => ?_⟩, rfl⟩
      obtain ⟨hx, day⟩ := meets_iff.2 ⟨hx, xmeets⟩
      exact le_of_find? (fun a => (Booking.before_total a a).elim id id) sorted found hx day
  · -- the child has no active registration for the class
    intro b hb
    obtain ⟨r, hr, child, active, k, -, rfl⟩ :=
      mem_bookingsOf.1 (mem_bookingsBetween_iff.1 hb).1
    exact ⟨active, hasActive_eq_false_iff.1 single r hr active child⟩

end EnrollmentDesk
