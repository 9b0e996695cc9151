import EnrollmentDesk.Proofs.Seating

/-!
# The plan of a class

`Proofs.Seating` says what a plan gives to each registration. Here a plan is described as a whole,
and from outside: it is the one plan that seats a class fairly (`Seating.eq_plan_iff`).

A fair seating (`Seating.IsSeating`) has two lists, of those in the room and of those in line, each
in order of coming. Those in the room are confirmed, whatever the capacity; of the line as many are
confirmed as there are seats left over, and the rest wait. The planner knows no such lists. It walks
once over everybody in the order of seating and counts the seats taken, so the proof follows this
walk: through the room the count only grows (`Seating.assign_room`), and along the line it grows
until the seats are gone and then stands still (`Seating.assign_line`).

What a plan reads of a registration is its *place*: when it came, its number, and whether it is
anchored. The statuses held, and all else, only decide which assignments are changes. So two classes
with the same places have the same assignments (`Seating.plan_forgets_history`); the changes of a
plan lead to a class with the same places, of which the plan has no changes any more.
-/

namespace EnrollmentDesk

/-- `a` stands in line before `b`: by time of coming, then by number. -/
def Registration.IsAhead (a b : Registration) : Prop :=
  a.createdAt < b.createdAt ∨ (a.createdAt = b.createdAt ∧ a.id < b.id)

instance (a b : Registration) : Decidable (a.IsAhead b) :=
  inferInstanceAs (Decidable (_ ∨ _))

theorem Registration.isAhead_iff {a b : Registration} :
    a.IsAhead b ↔ a.createdAt.ticks < b.createdAt.ticks ∨
      (a.createdAt.ticks = b.createdAt.ticks ∧ a.id < b.id) := by
  unfold IsAhead
  rw [Instant.eq_iff_ticks]
  exact Iff.rfl

namespace Seating

variable {capacity : Int} {rs room line : List Registration} {p : Plan}

/-! ### Fair seatings -/

/-- The active registrations that are anchored. -/
def inRoom (rs : List Registration) : List Registration :=
  rs.filter fun r => r.isActive && r.isAnchored

/-- The active registrations that are not anchored. -/
def outside (rs : List Registration) : List Registration :=
  rs.filter fun r => r.isActive && !r.isAnchored

/-- A plan seats those in the room and then those in line. -/
structure IsSeating (capacity : Int) (rs room line : List Registration) (p : Plan) : Prop where
  /-- In the room is everyone who is active and anchored, once. -/
  room_perm : room.Perm (inRoom rs)
  room_sorted : room.Pairwise Registration.IsAhead
  /-- In line is everyone else who is active, once. -/
  line_perm : line.Perm (outside rs)
  line_sorted : line.Pairwise Registration.IsAhead
  /-- The room is confirmed, and so are the first of the line, as many as there are seats left. -/
  assignments : p.assignments =
    room.map (fun r => (r.id, .confirmed)) ++
      (line.take (capacity.toNat - room.length)).map (fun r => (r.id, .confirmed)) ++
      (line.drop (capacity.toNat - room.length)).map (fun r => (r.id, .waitlisted))
  /-- Changes are the assignments of a status that is not held. -/
  changes : p.changes = p.assignments.filterMap fun a =>
    (rs.find? fun r => r.id == a.1).bind fun r =>
      if r.status = a.2 then none else some ⟨a.1, r.status, a.2⟩
  anchored : p.anchored = rs.countP fun r => r.isActive && r.isAnchored

/-! ### The planner's walk -/

/-- Through the room everybody gets a seat and the count grows. -/
theorem assign_room (seats taken : Nat) (line : List Registration)
    (present : ∀ r ∈ room, r.isAnchored = true) :
    assign seats taken (room ++ line) =
      room.map (fun r => (r, .confirmed)) ++ assign seats (taken + room.length) line := by
  induction room generalizing taken with
  | nil => rfl
  | cons a room ih =>
    obtain ⟨first, rest⟩ := List.forall_mem_cons.1 present
    have sits : target seats taken a = .confirmed := target_eq_confirmed_iff.2 (.inl first)
    rw [List.cons_append, assign, sits, if_pos rfl, ih _ rest, List.map_cons, List.cons_append,
      List.length_cons, Nat.add_assoc, Nat.add_comm 1]

/-- Along the line everybody gets a seat until the seats are gone. -/
theorem assign_line (seats taken : Nat) (absent : ∀ r ∈ line, r.isAnchored = false) :
    assign seats taken line =
      (line.take (seats - taken)).map (fun r => (r, .confirmed)) ++
        (line.drop (seats - taken)).map (fun r => (r, .waitlisted)) := by
  induction line generalizing taken with
  | nil => simp [assign]
  | cons a line ih =>
    obtain ⟨first, rest⟩ := List.forall_mem_cons.1 absent
    rw [assign, ih _ rest]
    by_cases left : taken < seats
    · have sits : target seats taken a = .confirmed := target_eq_confirmed_iff.2 (.inr left)
      obtain ⟨n, hn⟩ : ∃ n, seats - taken = n + 1 := ⟨seats - taken - 1, by omega⟩
      have hrest : seats - (taken + 1) = n := by omega
      rw [sits, if_pos rfl, hn, hrest, List.take_succ_cons, List.drop_succ_cons, List.map_cons,
        List.cons_append]
    · -- the seats are gone, and nobody behind takes one
      have waits : target seats taken a = .waitlisted := by
        refine target_eq_or.resolve_left fun h => ?_
        rw [target_eq_confirmed_iff, first] at h
        exact h.elim Bool.false_ne_true left
      have hnone : seats - taken = 0 := by omega
      rw [waits, if_neg (by decide), hnone, List.take_zero, List.drop_zero, List.take_zero,
        List.drop_zero, List.map_nil, List.nil_append, List.nil_append, List.map_cons]

/-! ### The order of seating -/

/-- Those who are in line before another stand before them in the order of seating. -/
theorem before_of_isAhead {a b : Registration} (same : a.isAnchored = b.isAnchored)
    (ahead : a.IsAhead b) : before a b = true := by
  rw [before_iff, Registration.inLine_iff]
  rw [Registration.isAhead_iff] at ahead
  exact .inr ⟨same, by omega⟩

theorem isAhead_of_precedes {a b : Registration} (same : a.isAnchored = b.isAnchored)
    (h : precedes a b = true) : a.IsAhead b := by
  unfold precedes at h
  rw [Bool.not_eq_true', Bool.eq_false_iff, ne_eq, before_iff, Registration.inLine_iff] at h
  rw [Registration.isAhead_iff]
  by_contra hnot
  exact h (.inr ⟨same.symm, by omega⟩)

/-- A list in which those in the room come first is the room and then the line. -/
theorem eq_room_append_line {l : List Registration}
    (sorted : l.Pairwise fun a b => precedes a b = true) :
    l = l.filter Registration.isAnchored ++ l.filter fun r => !r.isAnchored := by
  induction l with
  | nil => rfl
  | cons a l ih =>
    obtain ⟨first, rest⟩ := List.pairwise_cons.1 sorted
    cases ha : a.isAnchored with
    | true =>
      rw [List.filter_cons_of_pos ha, List.filter_cons_of_neg (by simp [ha]), List.cons_append,
        ← ih rest]
    | false =>
      -- nobody behind `a` is in the room
      have hnone : l.filter Registration.isAnchored = [] := by
        rw [List.filter_eq_nil_iff]
        intro r hr
        rw [not_anchored_of_precedes (first r hr) ha]
        exact Bool.false_ne_true
      have hall : (l.filter fun r => !r.isAnchored) = l := by
        rw [hnone, List.nil_append] at ih
        exact (ih rest).symm
      rw [List.filter_cons_of_neg (by simp [ha]), List.filter_cons_of_pos (by simp [ha]), hnone,
        hall, List.nil_append]

namespace IsSeating

variable (h : IsSeating capacity rs room line p)

include h

theorem mem_room {r : Registration} (hr : r ∈ room) : r.isActive = true ∧ r.isAnchored = true := by
  have hmem := (List.mem_filter.1 (h.room_perm.mem_iff.1 hr)).2
  rwa [Bool.and_eq_true] at hmem

theorem mem_line {r : Registration} (hr : r ∈ line) : r.isActive = true ∧ r.isAnchored = false := by
  have hmem := (List.mem_filter.1 (h.line_perm.mem_iff.1 hr)).2
  rwa [Bool.and_eq_true, Bool.not_eq_true'] at hmem

/-- The room and the line hold everyone who is active. -/
theorem perm : (room ++ line).Perm (rs.filter Registration.isActive) := by
  have hsplit : (inRoom rs ++ outside rs).Perm (rs.filter Registration.isActive) := by
    have := List.filter_append_perm Registration.isAnchored (rs.filter Registration.isActive)
    rw [List.filter_filter, List.filter_filter] at this
    simpa only [inRoom, outside, Bool.and_comm] using this
  exact (h.room_perm.append h.line_perm).trans hsplit

/-- The room and then the line is the order of seating, which is unique. -/
theorem eq_order (distinct : (rs.map Registration.id).Nodup) : room ++ line = order rs := by
  have sorted : (room ++ line).Pairwise fun a b => before a b = true := by
    refine List.pairwise_append.2 ⟨?_, ?_, fun a ha b hb => ?_⟩
    · exact h.room_sorted.imp_of_mem fun ha hb =>
        before_of_isAhead ((h.mem_room ha).2.trans (h.mem_room hb).2.symm)
    · exact h.line_sorted.imp_of_mem fun ha hb =>
        before_of_isAhead ((h.mem_line ha).2.trans (h.mem_line hb).2.symm)
    · exact before_iff.2 (.inl ⟨(h.mem_room ha).2, (h.mem_line hb).2⟩)
  have hperm : (room ++ line).Perm (order rs) := h.perm.trans (sortBy_perm _ _).symm
  refine List.Perm.eq_of_pairwise ?_ sorted (pairwise_sortBy before_total before_trans _) hperm
  intro a b ha hb hab hba
  have hactive := (mem_order.1 (hperm.mem_iff.1 ha)).1
  exact List.inj_on_of_nodup_map distinct hactive (mem_order.1 hb).1 (id_eq_of_before hab hba)

end IsSeating

/-! ### The plan is the fair seating -/

theorem find?_id_eq {r : Registration} (distinct : (rs.map Registration.id).Nodup) (hr : r ∈ rs) :
    (rs.find? fun q => q.id == r.id) = some r := by
  rcases hfind : rs.find? fun q => q.id == r.id with _ | q
  · exact absurd (beq_self_eq_true r.id) (List.find?_eq_none.1 hfind r hr)
  · have hid : (q.id == r.id) = true := by simpa using List.find?_some hfind
    have hmem := List.mem_of_find?_eq_some hfind
    exact hfind.trans (congrArg some (List.inj_on_of_nodup_map distinct hmem hr (beq_iff_eq.1 hid)))

/-- The changes of a plan are read off its assignments and the statuses held. -/
theorem plan_changes_eq (capacity : Int) (distinct : (rs.map Registration.id).Nodup) :
    (plan capacity rs).changes = (plan capacity rs).assignments.filterMap fun a =>
      (rs.find? fun r => r.id == a.1).bind fun r =>
        if r.status = a.2 then none else some ⟨a.1, r.status, a.2⟩ := by
  rw [plan_changes capacity distinct, plan_assignments capacity distinct, changesTo,
    List.filterMap_map]
  refine List.filterMap_congr fun r hr => ?_
  rw [Function.comp_apply, find?_id_eq distinct (mem_order.1 hr).1]
  rfl

theorem plan_anchored (capacity : Int) (rs : List Registration) :
    (plan capacity rs).anchored = rs.countP fun r => r.isActive && r.isAnchored := by
  change (order rs).countP Registration.isAnchored = _
  rw [order, (sortBy_perm _ _).countP_eq, List.countP_filter]
  exact List.countP_congr fun r _ => by rw [Bool.and_comm]

theorem plan_confirmedCount (capacity : Int) (distinct : (rs.map Registration.id).Nodup) :
    (plan capacity rs).confirmedCount =
      max (plan capacity rs).anchored (min capacity.toNat (rs.countP Registration.isActive)) := by
  rw [plan_anchored, ← countP_due capacity distinct, Plan.confirmedCount,
    plan_assignments capacity distinct, List.countP_map]
  rfl

/-- What a plan gives, if the order of seating is a room and then a line. -/
theorem plan_assignments_of_order (capacity : Int)
    (present : ∀ r ∈ room, r.isAnchored = true) (absent : ∀ r ∈ line, r.isAnchored = false)
    (ordered : room ++ line = order rs) :
    (plan capacity rs).assignments =
      room.map (fun r => (r.id, .confirmed)) ++
        (line.take (capacity.toNat - room.length)).map (fun r => (r.id, .confirmed)) ++
        (line.drop (capacity.toNat - room.length)).map (fun r => (r.id, .waitlisted)) := by
  change (assign capacity.toNat 0 (order rs)).map _ = _
  rw [← ordered, assign_room _ _ _ present, assign_line _ _ absent, Nat.zero_add]
  simp only [List.map_append, List.map_map, Function.comp_def, List.append_assoc]

/-- There is at most one fair seating. -/
theorem IsSeating.eq_plan (h : IsSeating capacity rs room line p)
    (distinct : (rs.map Registration.id).Nodup) : p = plan capacity rs := by
  have hassignments : p.assignments = (plan capacity rs).assignments :=
    h.assignments.trans (plan_assignments_of_order capacity (fun _ hr => (h.mem_room hr).2)
      (fun _ hr => (h.mem_line hr).2) (h.eq_order distinct)).symm
  have hchanges : p.changes = (plan capacity rs).changes := by
    rw [h.changes, plan_changes_eq capacity distinct, hassignments]
  have hanchored : p.anchored = (plan capacity rs).anchored :=
    h.anchored.trans (plan_anchored capacity rs).symm
  calc p = ⟨p.assignments, p.changes, p.anchored⟩ := rfl
    _ = plan capacity rs := by rw [hassignments, hchanges, hanchored]

/-- The plan is a fair seating. -/
theorem isSeating_plan (capacity : Int) (distinct : (rs.map Registration.id).Nodup) :
    IsSeating capacity rs ((order rs).filter Registration.isAnchored)
      ((order rs).filter fun r => !r.isAnchored) (plan capacity rs) := by
  have sorted := pairwise_order distinct
  have hperm : (order rs).Perm (rs.filter Registration.isActive) := sortBy_perm _ _
  have present : ∀ r ∈ (order rs).filter Registration.isAnchored, r.isAnchored = true :=
    fun r hr => (List.mem_filter.1 hr).2
  have absent : ∀ r ∈ (order rs).filter fun r => !r.isAnchored, r.isAnchored = false :=
    fun r hr => Bool.not_inj (List.mem_filter.1 hr).2
  -- within the room and within the line the order of seating is that of coming
  have ahead : ∀ {l : List Registration}, l.Sublist (order rs) →
      (∀ a ∈ l, ∀ b ∈ l, a.isAnchored = b.isAnchored) → l.Pairwise Registration.IsAhead :=
    fun hsub same => (sorted.sublist hsub).imp_of_mem fun ha hb =>
      isAhead_of_precedes (same _ ha _ hb)
  refine ⟨?_, ?_, ?_, ?_, ?_, plan_changes_eq capacity distinct, plan_anchored capacity rs⟩
  · have hroom := hperm.filter Registration.isAnchored
    rw [List.filter_filter] at hroom
    simpa only [inRoom, Bool.and_comm] using hroom
  · exact ahead List.filter_sublist fun a ha b hb => (present a ha).trans (present b hb).symm
  · have hline := hperm.filter fun r => !r.isAnchored
    rw [List.filter_filter] at hline
    simpa only [outside, Bool.and_comm] using hline
  · exact ahead List.filter_sublist fun a ha b hb => (absent a ha).trans (absent b hb).symm
  · exact plan_assignments_of_order capacity present absent (eq_room_append_line sorted).symm

/-- **The plan is the one fair seating.** A plan for a class with distinct numbers is what the
planner answers exactly if it seats the room and then the line. It confirms as many as there are
seats and people for them, or as are in the room, if these are more. -/
theorem eq_plan_iff (capacity : Int) (rs : List Registration)
    (distinct : (rs.map Registration.id).Nodup) (p : Plan) :
    (p = plan capacity rs ↔ ∃ room line, IsSeating capacity rs room line p) ∧
      (plan capacity rs).confirmedCount =
        max (plan capacity rs).anchored (min capacity.toNat (rs.countP Registration.isActive)) := by
  refine ⟨⟨?_, fun ⟨room, line, h⟩ => h.eq_plan distinct⟩, plan_confirmedCount capacity distinct⟩
  rintro rfl
  exact ⟨_, _, isSeating_plan capacity distinct⟩

end Seating

namespace Sample

/-- A registration of a child who came at a time and may have been checked in. -/
def guest (id : Int) (status : Status) (came : Int) (present : Bool) : Registration where
  id := id
  parentId := id
  childId := id
  classId := 1
  status := status
  code := ""
  checkInAt := if present then some ⟨20⟩ else none
  createdAt := ⟨came⟩
  updatedAt := ⟨came⟩

/-- Two came at the same time, one is in the room, and one who was has canceled. -/
def guests : List Registration :=
  [guest 7 .waitlisted 5 false, guest 4 .canceled 2 true, guest 5 .waitlisted 5 false,
    guest 9 .confirmed 8 true, guest 2 .confirmed 1 false]

/-- The seating of three of them. -/
def threeSeated : Plan where
  assignments := [(9, .confirmed), (2, .confirmed), (5, .confirmed), (7, .waitlisted)]
  changes := [⟨5, .waitlisted, .confirmed⟩]
  anchored := 1

/-- Of those who came at the same time the smaller number gets the last seat. -/
theorem three_are_seated_fairly :
    (guests.map Registration.id).Nodup ∧
      ∃ room line, Seating.IsSeating 3 guests room line threeSeated := by
  have distinct : (guests.map Registration.id).Nodup := by decide
  exact ⟨distinct, (Seating.eq_plan_iff 3 guests distinct threeSeated).1.1 (by decide)⟩

end Sample

namespace Seating

variable {capacity : Int} {rs : List Registration}

/-! ### What a plan reads -/

/-- Where a registration stands: when it came, its number, and whether it is anchored. -/
structure Place where
  createdAt : Instant
  id : Int
  anchored : Bool
deriving DecidableEq

/-- Whether `a` is seated no later than `b`. -/
def Place.Before (a b : Place) : Prop :=
  (a.anchored = true ∧ b.anchored = false) ∨
    (a.anchored = b.anchored ∧ (a.createdAt.ticks < b.createdAt.ticks ∨
      (a.createdAt.ticks = b.createdAt.ticks ∧ a.id ≤ b.id)))

theorem Place.Before.antisymm {a b : Place} (hab : a.Before b) (hba : b.Before a) : a = b := by
  obtain ⟨⟨ticks⟩, id, anchored⟩ := a
  obtain ⟨⟨ticks'⟩, id', anchored'⟩ := b
  unfold Place.Before at hab hba
  cases anchored <;> cases anchored' <;> simp at hab hba ⊢ <;> omega

/-- The place of a registration. -/
def placeOf (r : Registration) : Place :=
  ⟨r.createdAt, r.id, r.isAnchored⟩

/-- The places of the active registrations. -/
def places (rs : List Registration) : List Place :=
  (rs.filter Registration.isActive).map placeOf

theorem nodup_places (distinct : (rs.map Registration.id).Nodup) : (places rs).Nodup := by
  have hids : ((places rs).map Place.id).Nodup := by
    rw [places, List.map_map]
    exact (List.filter_sublist.map _).nodup distinct
  exact hids.of_map _

/-- The order of seating has the places in order. -/
theorem pairwise_places_order (rs : List Registration) :
    ((order rs).map placeOf).Pairwise Place.Before := by
  rw [List.pairwise_map]
  exact (pairwise_sortBy before_total before_trans _).imp fun {a b} h => by
    rwa [before_iff, Registration.inLine_iff] at h

/-- The same places, in whatever order, are seated in the same order. -/
theorem places_order_congr {rs' : List Registration} (distinct : (rs.map Registration.id).Nodup)
    (distinct' : (rs'.map Registration.id).Nodup) (same : ∀ x, x ∈ places rs ↔ x ∈ places rs') :
    (order rs).map placeOf = (order rs').map placeOf := by
  have hplaces : (places rs).Perm (places rs') :=
    (List.perm_ext_iff_of_nodup (nodup_places distinct) (nodup_places distinct')).2 same
  have hperm : ((order rs).map placeOf).Perm ((order rs').map placeOf) :=
    ((sortBy_perm _ _).map _).trans (hplaces.trans ((sortBy_perm _ _).map _).symm)
  exact hperm.eq_of_pairwise (fun _ _ _ _ => Place.Before.antisymm) (pairwise_places_order rs)
    (pairwise_places_order rs')

/-- The planner reads nothing but places. -/
theorem assign_congr {l l' : List Registration} (same : l.map placeOf = l'.map placeOf)
    (seats taken : Nat) :
    (assign seats taken l).map (fun a => (a.1.id, a.2)) =
      (assign seats taken l').map fun a => (a.1.id, a.2) := by
  induction l generalizing taken l' with
  | nil => rw [List.map_eq_nil_iff.1 same.symm]
  | cons a l ih =>
    obtain ⟨b, l', rfl, hab, hrest⟩ := List.map_eq_cons_iff.1 same.symm
    have hid : b.id = a.id := congrArg Place.id hab
    have hanchored : b.isAnchored = a.isAnchored := congrArg Place.anchored hab
    have htarget : target seats taken b = target seats taken a := by
      unfold target
      rw [hanchored]
    rw [assign, assign, List.map_cons, List.map_cons, hid, htarget, ih hrest.symm]

theorem assignments_congr {rs' : List Registration} (capacity : Int)
    (same : (order rs).map placeOf = (order rs').map placeOf) :
    (plan capacity rs).assignments = (plan capacity rs').assignments :=
  assign_congr same _ _

theorem anchored_congr {rs' : List Registration} (capacity : Int)
    (same : (order rs).map placeOf = (order rs').map placeOf) :
    (plan capacity rs).anchored = (plan capacity rs').anchored := by
  have hcount : ∀ rs : List Registration,
      (plan capacity rs).anchored = ((order rs).map placeOf).countP Place.anchored :=
    fun rs => by rw [List.countP_map]; rfl
  rw [hcount, hcount, same]

/-! ### Carrying out a plan -/

/-- A registration after a change, which may be about another. -/
def changed (c : Change) (r : Registration) : Registration :=
  if r.id = c.registrationId then { r with status := c.new } else r

/-- Registrations after the changes of a plan, which are made one after the other. -/
def carryOut (p : Plan) (rs : List Registration) : List Registration :=
  p.changes.foldl (fun rs c => rs.map (changed c)) rs

theorem foldl_map_changed (cs : List Change) (rs : List Registration) :
    cs.foldl (fun rs c => rs.map (changed c)) rs =
      rs.map fun r => cs.foldl (fun r c => changed c r) r := by
  induction cs generalizing rs with
  | nil => simp
  | cons c cs ih => rw [List.foldl_cons, ih, List.map_map]; rfl

theorem changed_of_ne {c : Change} {r : Registration} (h : r.id ≠ c.registrationId) :
    changed c r = r := by
  unfold changed
  rw [if_neg h]

section Rows

variable {status : Registration → Status} {l : List Registration} {r : Registration}

/-- Changes of others leave a registration as it is. -/
theorem foldl_changed_of_not_mem (absent : r.id ∉ l.map Registration.id) :
    (changesTo status l).foldl (fun r c => changed c r) r = r := by
  induction l with
  | nil => rfl
  | cons a l ih =>
    rw [List.map_cons, List.mem_cons, not_or] at absent
    by_cases held : a.status = status a
    · rw [changesTo_cons_of_eq held, ih absent.2]
    · rw [changesTo_cons_of_ne held, List.foldl_cons, changed_of_ne absent.1, ih absent.2]

/-- Each of the listed gets the status it is to have. -/
theorem foldl_changed_of_mem (distinct : (l.map Registration.id).Nodup) (hr : r ∈ l) :
    (changesTo status l).foldl (fun r c => changed c r) r = { r with status := status r } := by
  induction l with
  | nil => exact absurd hr List.not_mem_nil
  | cons a l ih =>
    rw [List.map_cons, List.nodup_cons] at distinct
    rcases List.mem_cons.1 hr with rfl | hr
    · by_cases held : r.status = status r
      · rw [changesTo_cons_of_eq held, foldl_changed_of_not_mem distinct.1, ← held]
      · have first : changed ⟨r.id, r.status, status r⟩ r = { r with status := status r } :=
          if_pos rfl
        rw [changesTo_cons_of_ne held, List.foldl_cons, first]
        exact foldl_changed_of_not_mem (r := { r with status := status r }) distinct.1
    · have other : r.id ≠ a.id := fun hid => distinct.1 (hid ▸ List.mem_map_of_mem hr)
      by_cases held : a.status = status a
      · rw [changesTo_cons_of_eq held, ih distinct.2 hr]
      · rw [changesTo_cons_of_ne held, List.foldl_cons, changed_of_ne other, ih distinct.2 hr]

end Rows

/-- A registration with the status due to it, if it is active. -/
def reseat (capacity : Int) (rs : List Registration) (r : Registration) : Registration :=
  if r.isActive then { r with status := due capacity rs r } else r

/-- **Carrying out a plan** gives all active registrations the status due to them. -/
theorem carryOut_plan (capacity : Int) (distinct : (rs.map Registration.id).Nodup) :
    carryOut (plan capacity rs) rs = rs.map (reseat capacity rs) := by
  rw [carryOut, foldl_map_changed, plan_changes capacity distinct]
  refine List.map_congr_left fun r hr => ?_
  have hdistinct : ((order rs).map Registration.id).Nodup := by
    rw [order, ((sortBy_perm _ _).map _).nodup_iff]
    exact (List.filter_sublist.map _).nodup distinct
  unfold reseat
  split
  · next active => exact foldl_changed_of_mem hdistinct (mem_order.2 ⟨hr, active⟩)
  · next inactive =>
    refine foldl_changed_of_not_mem fun hmem => ?_
    obtain ⟨q, hq, hid⟩ := List.mem_map.1 hmem
    obtain ⟨hq, active⟩ := mem_order.1 hq
    rw [List.inj_on_of_nodup_map distinct hq hr hid] at active
    exact inactive active

theorem reseat_isActive (capacity : Int) (rs : List Registration) (r : Registration) :
    (reseat capacity rs r).isActive = r.isActive := by
  unfold reseat
  split
  · next active =>
    rw [active, Registration.isActive_iff]
    exact due_eq_or capacity rs r
  · rfl

theorem placeOf_reseat (capacity : Int) (rs : List Registration) (r : Registration) :
    placeOf (reseat capacity rs r) = placeOf r := by
  unfold reseat
  split <;> rfl

/-- Nobody comes, goes or changes places. -/
theorem places_map_reseat (capacity : Int) (rs : List Registration) :
    places (rs.map (reseat capacity rs)) = places rs := by
  unfold places
  rw [List.filter_map, List.map_map]
  have hactive : Registration.isActive ∘ reseat capacity rs = Registration.isActive :=
    funext (reseat_isActive capacity rs)
  have hplace : placeOf ∘ reseat capacity rs = placeOf := funext (placeOf_reseat capacity rs)
  rw [hactive, hplace]

theorem nodup_map_reseat (capacity : Int) (distinct : (rs.map Registration.id).Nodup) :
    ((rs.map (reseat capacity rs)).map Registration.id).Nodup := by
  have hid : Registration.id ∘ reseat capacity rs = Registration.id :=
    funext fun r => congrArg Place.id (placeOf_reseat capacity rs r)
  rwa [List.map_map, hid]

/-- The status due to a registration is read off the assignments. -/
theorem due_eq_of_assignments {rs' : List Registration} {r r' : Registration}
    (distinct : (rs.map Registration.id).Nodup) (distinct' : (rs'.map Registration.id).Nodup)
    (same : (plan capacity rs).assignments = (plan capacity rs').assignments)
    (hr : r ∈ rs) (active : r.isActive = true) (hr' : r' ∈ rs') (hid : r'.id = r.id) :
    due capacity rs r = due capacity rs' r' := by
  rw [plan_assignments capacity distinct, plan_assignments capacity distinct'] at same
  have hmem : (r.id, due capacity rs r) ∈ (order rs').map fun q => (q.id, due capacity rs' q) :=
    same ▸ List.mem_map_of_mem (f := fun q => (q.id, due capacity rs q)) (mem_order.2 ⟨hr, active⟩)
  obtain ⟨q, hq, heq⟩ := List.mem_map.1 hmem
  obtain ⟨hqid, hdue⟩ := Prod.mk.inj heq
  have hqr : q = r' :=
    List.inj_on_of_nodup_map distinct' (mem_order.1 hq).1 hr' (hqid.trans hid.symm)
  rw [← hdue, hqr]

/-- **A plan forgets history.** Its assignments, and how many are anchored, depend on the places of
the active registrations alone. So a plan that has been carried out is the plan again, and has no
changes; and the order of the registrations does not matter. -/
theorem plan_forgets_history (capacity : Int) (rs : List Registration)
    (distinct : (rs.map Registration.id).Nodup) :
    (∀ rs' : List Registration, (rs'.map Registration.id).Nodup →
      (∀ x, x ∈ places rs ↔ x ∈ places rs') →
        (plan capacity rs').assignments = (plan capacity rs).assignments ∧
        (plan capacity rs').anchored = (plan capacity rs).anchored) ∧
    (plan capacity (carryOut (plan capacity rs) rs)).assignments = (plan capacity rs).assignments ∧
    (plan capacity (carryOut (plan capacity rs) rs)).changes = [] ∧
    ∀ rs', rs'.Perm rs → (plan capacity rs').assignments = (plan capacity rs).assignments ∧
      (plan capacity rs').changes = (plan capacity rs).changes := by
  have forgets : ∀ rs' : List Registration, (rs'.map Registration.id).Nodup →
      (∀ x, x ∈ places rs ↔ x ∈ places rs') →
        (plan capacity rs').assignments = (plan capacity rs).assignments ∧
        (plan capacity rs').anchored = (plan capacity rs).anchored := by
    intro rs' distinct' same
    have horder := (places_order_congr distinct distinct' same).symm
    exact ⟨assignments_congr capacity horder, anchored_congr capacity horder⟩
  rw [carryOut_plan capacity distinct]
  have distinct' := nodup_map_reseat capacity distinct
  have again : (plan capacity (rs.map (reseat capacity rs))).assignments =
      (plan capacity rs).assignments :=
    (forgets _ distinct' fun x => by rw [places_map_reseat]).1
  refine ⟨forgets, again, ?_, fun rs' hperm => ?_⟩
  · refine List.isEmpty_iff.1 ((isNoop_iff distinct').2 fun r' hr' active' => ?_)
    obtain ⟨r, hr, rfl⟩ := List.mem_map.1 hr'
    have active : r.isActive = true := (reseat_isActive capacity rs r).symm.trans active'
    have hid := congrArg Place.id (placeOf_reseat capacity rs r)
    rw [← due_eq_of_assignments distinct distinct' again.symm hr active hr' hid, reseat, if_pos active]
  · rw [plan_eq_of_perm capacity distinct hperm]
    exact ⟨rfl, rfl⟩

end Seating

/-- Neither the order nor the statuses of the past matter, nor who else has canceled. -/
theorem Sample.other_past_same_seats :
    (guests.map Registration.id).Nodup ∧
      (Seating.plan 3 [guest 2 .waitlisted 1 false, guest 9 .waitlisted 8 true,
        guest 5 .confirmed 5 false, guest 6 .canceled 0 false,
        guest 7 .confirmed 5 false]).assignments = (Seating.plan 3 guests).assignments ∧
      (Seating.plan 3 (Seating.carryOut (Seating.plan 3 guests) guests)).changes = [] := by
  have distinct : (guests.map Registration.id).Nodup := by decide
  obtain ⟨forgets, -, settled, -⟩ := Seating.plan_forgets_history 3 guests distinct
  refine ⟨distinct, (forgets _ (by decide) fun x => ?_).1, settled⟩
  exact List.Perm.mem_iff (by decide)

end EnrollmentDesk
