import EnrollmentDesk.Proofs.Balance

/-!
# Outlines

Who of a balanced class sits and who waits is due to them, and what is due is a matter of who is
there and how many seats there are. So nothing is lost if this is left out. The *outline* of a store
(`Store.outline`) has its classes and registrations with everyone active of a stored class on a
seat, and without the times of the last change; two balanced stores with the same outline agree in
all but those times (`Store.IsBalanced.agrees`).

What makes outlines useful is that a rebalance does not touch them (`Store.outline_seated`), though
it seats others in one order of events than in another. Of an operation only its own *move* is seen:
a registration is canceled or removed, or a class gets another capacity. Moves of different subjects
can be made in either order (`Outline.after_comm`).
-/

namespace EnrollmentDesk

/-- A class without the time of its last change. -/
def Class.undated (c : Class) : Class :=
  { c with updatedAt := ⟨0⟩ }

theorem Class.undated_id (c : Class) : c.undated.id = c.id := rfl

/-- A registration without the time of its last change. -/
def Registration.undated (r : Registration) : Registration :=
  { r with updatedAt := ⟨0⟩ }

/-- Two stores have the same classes and registrations, but for the times of the last change. -/
structure Store.Agrees (s t : Store) : Prop where
  classes : ∀ id, (s.classes.get? id).map Class.undated = (t.classes.get? id).map Class.undated
  registrations : ∀ id, (s.registrations.get? id).map Registration.undated =
    (t.registrations.get? id).map Registration.undated

/-! ### The outline of a store -/

/-- A registration in the outline: if it is active and its class is stored, it sits. -/
def Store.outlined (s : Store) (r : Registration) : Registration :=
  if r.isActive = true ∧ s.classes.contains r.classId = true then
    { r.undated with status := .confirmed }
  else r.undated

/-- Classes and registrations. -/
@[ext]
structure Outline where
  classes : Table Class Class.id
  registrations : Table Registration Registration.id

namespace Store

open Seating

section

variable (s : Store) (r : Registration)

theorem outlined_id : (s.outlined r).id = r.id := by
  unfold outlined; split <;> rfl

theorem outlined_classId : (s.outlined r).classId = r.classId := by
  unfold outlined; split <;> rfl

theorem outlined_code : (s.outlined r).code = r.code := by
  unfold outlined; split <;> rfl

theorem outlined_isActive : (s.outlined r).isActive = r.isActive := by
  unfold outlined
  split
  · next h =>
    rw [h.1]
    rfl
  · rfl

theorem outlined_samePlace : SamePlace (s.outlined r) r := by
  unfold outlined; split <;> exact ⟨rfl, rfl, rfl⟩

end

/-- What is left of a store without who sits and who waits. -/
def outline (s : Store) : Outline where
  classes := s.classes.mapRows Class.undated Class.undated_id
  registrations := s.registrations.mapRows s.outlined s.outlined_id

variable {s t : Store}

theorem get?_outline_classes (s : Store) (id : Int) :
    s.outline.classes.get? id = (s.classes.get? id).map Class.undated := by
  unfold outline
  rw [Table.get?_mapRows]

theorem get?_outline_registrations (s : Store) (id : Int) :
    s.outline.registrations.get? id = (s.registrations.get? id).map s.outlined := by
  unfold outline
  rw [Table.get?_mapRows]

theorem contains_outline (s : Store) (id : Int) :
    s.outline.classes.contains id = s.classes.contains id := by
  unfold Table.contains
  rw [get?_outline_classes, Option.isSome_map]

/-- Whether a class is stored is all that the outline of a registration asks of the store. -/
theorem outlined_congr (h : ∀ id, s.classes.contains id = t.classes.contains id)
    (r : Registration) : s.outlined r = t.outlined r := by
  unfold outlined
  rw [h]

/-- **A rebalance leaves the outline alone**: it moves those between seats and the waitlist who are
active. -/
theorem outline_seated {c : Class} (stored : s.classes.contains c.id = true) (now : Instant) :
    (s.seated c now).outline = s.outline := by
  -- a row that is reseated is active and of a stored class, so it sits in both outlines
  have hrow : ∀ r, (s.seated c now).outlined (s.seatedRow c now r) = s.outlined r := by
    intro r
    change s.outlined (s.seatedRow c now r) = s.outlined r
    by_cases h : r.classId = c.id ∧ r.isActive = true
    · have before : r.isActive = true ∧ s.classes.contains r.classId = true :=
        ⟨h.2, by rw [h.1]; exact stored⟩
      have after : (s.seatedRow c now r).isActive = true ∧
          s.classes.contains (s.seatedRow c now r).classId = true := by
        rw [seatedRow_isActive, seatedRow_classId]
        exact before
      unfold outlined
      rw [if_pos before, if_pos after]
      unfold seatedRow Registration.reseated
      rw [if_pos h]
      split <;> rfl
    · unfold seatedRow
      rw [if_neg h]
  ext k : 2
  · rfl
  · rw [get?_outline_registrations, get?_outline_registrations, get?_seated, Option.map_map]
    congr 1
    funext r
    exact hrow r

theorem registrationsOf_outline (s : Store) (classId : Int) :
    (s.registrationsOf classId).map s.outlined =
      s.outline.registrations.rows.filter fun r => r.classId == classId := by
  change (s.registrations.rows.filter _).map s.outlined =
    (s.registrations.rows.map s.outlined).filter _
  rw [List.filter_map]
  congr 2
  funext r
  rw [Function.comp_apply, outlined_classId]

theorem rank_outline (s : Store) (classId : Int) (r : Registration) :
    rank (s.outline.registrations.rows.filter fun x => x.classId == classId) (s.outlined r) =
      rank (s.registrationsOf classId) r := by
  rw [← registrationsOf_outline]
  exact rank_map s.outlined_isActive s.outlined_samePlace _ _

/-- Whoever has the same outline in two stores has the same due to them, if the class has the same
capacity. -/
theorem due_eq_of_outline (h : s.outline = t.outline) {r q : Registration}
    (hrow : s.outlined r = t.outlined q) {c k : Class} (hclass : c.undated = k.undated) :
    s.due c r = t.due k q := by
  have hid : c.undated.id = k.undated.id := congrArg Class.id hclass
  have hcapacity : c.undated.capacity = k.undated.capacity := congrArg Class.capacity hclass
  change c.id = k.id at hid
  change c.capacity = k.capacity at hcapacity
  have hanchored : r.isAnchored = q.isAnchored := by
    rw [← (s.outlined_samePlace r).anchored, hrow, (t.outlined_samePlace q).anchored]
  have hrank : rank (s.registrationsOf c.id) r = rank (t.registrationsOf k.id) q := by
    rw [← rank_outline, ← rank_outline, h, hrow, hid]
  unfold due Seating.due target
  rw [hrank, hcapacity, hanchored]

/-- **Balanced stores with the same outline agree**: who sits is due to them, and so it is the same
in both. -/
theorem IsBalanced.agrees (hs : s.IsBalanced) (ht : t.IsBalanced) (h : s.outline = t.outline) :
    s.Agrees t := by
  have hclass : ∀ id, (s.classes.get? id).map Class.undated =
      (t.classes.get? id).map Class.undated := by
    intro id
    rw [← get?_outline_classes, h, get?_outline_classes]
  have hcontains : ∀ id, s.classes.contains id = t.classes.contains id := by
    intro id
    rw [← contains_outline, h, contains_outline]
  refine ⟨hclass, fun id => ?_⟩
  have hlookup : (s.registrations.get? id).map s.outlined =
      (t.registrations.get? id).map t.outlined := by
    rw [← get?_outline_registrations, h, get?_outline_registrations]
  cases hr : s.registrations.get? id with
  | none =>
    rw [hr, Option.map_none, eq_comm, Option.map_eq_none_iff] at hlookup
    rw [hlookup]
  | some r =>
    rw [hr, Option.map_some, eq_comm, Option.map_eq_some_iff] at hlookup
    obtain ⟨q, hq, hrow⟩ := hlookup
    rw [hq, Option.map_some, Option.map_some, Option.some.injEq]
    have hactive : q.isActive = r.isActive := by
      rw [← t.outlined_isActive, hrow, s.outlined_isActive]
    have hplace : q.classId = r.classId := by
      rw [← t.outlined_classId, hrow, s.outlined_classId]
    by_cases seated : r.isActive = true ∧ s.classes.contains r.classId = true
    · -- both have the status that is due, and otherwise the outline says it all
      have seated' : q.isActive = true ∧ t.classes.contains q.classId = true := by
        rw [hactive, hplace, ← hcontains]
        exact seated
      obtain ⟨c, hc⟩ := Table.contains_iff.1 seated.2
      obtain ⟨k, hk⟩ := Table.contains_iff.1 seated'.2
      have hck : c.undated = k.undated := by
        have hsame := hclass r.classId
        rw [hplace] at hk
        rw [hc, hk] at hsame
        exact Option.some.inj hsame
      have hstatus : r.status = q.status := by
        have hrplace : r.classId = c.id := (Table.key_of_get? hc).symm
        have hqplace : q.classId = k.id := (Table.key_of_get? hk).symm
        rw [isBalancedAt_iff.1 (hs c (Table.mem_of_get? hc)) r (Table.mem_of_get? hr) hrplace
            seated.1,
          isBalancedAt_iff.1 (ht k (Table.mem_of_get? hk)) q (Table.mem_of_get? hq) hqplace
            seated'.1]
        exact due_eq_of_outline h hrow.symm hck
      unfold outlined at hrow
      rw [if_pos seated, if_pos seated'] at hrow
      calc r.undated = { { r.undated with status := .confirmed } with status := r.status } := rfl
        _ = { { q.undated with status := .confirmed } with status := q.status } := by
          rw [← hrow, hstatus]
        _ = q.undated := rfl
    · have seated' : ¬ (q.isActive = true ∧ t.classes.contains q.classId = true) := by
        rw [hactive, hplace, ← hcontains]
        exact seated
      unfold outlined at hrow
      rw [if_neg seated, if_neg seated'] at hrow
      exact hrow.symm

end Store

/-! ### Moves -/

/-- What a move is about. -/
inductive Subject where
  | registration (id : Int)
  | capacity (classId : Int)
deriving DecidableEq

/-- What an operation does apart from the rebalance that follows. -/
inductive Move where
  | cancel (id : Int)
  | remove (id : Int)
  | resize (classId capacity : Int)
deriving DecidableEq

/-- What a move is about. -/
def Move.subject : Move → Subject
  | cancel id | remove id => .registration id
  | resize classId _ => .capacity classId

/-- A registration once the one with a number is canceled. -/
def Registration.canceledAs (id : Int) (r : Registration) : Registration :=
  if r.id = id then { r with status := .canceled, checkInAt := none } else r

/-- A class once the one with a number has another capacity. -/
def Class.resizedAs (id capacity : Int) (c : Class) : Class :=
  if c.id = id then { c with capacity } else c

theorem Registration.canceledAs_id (id : Int) (r : Registration) : (r.canceledAs id).id = r.id := by
  unfold canceledAs; split <;> rfl

theorem Class.resizedAs_id (id capacity : Int) (c : Class) :
    (c.resizedAs id capacity).id = c.id := by
  unfold resizedAs; split <;> rfl

namespace Outline

/-- An outline after a move. -/
def after (o : Outline) : Move → Outline
  | .cancel id =>
    { o with
      registrations := o.registrations.mapRows (Registration.canceledAs id)
        (Registration.canceledAs_id id) }
  | .remove id => { o with registrations := o.registrations.erase id }
  | .resize classId capacity =>
    { o with
      classes := o.classes.mapRows (Class.resizedAs classId capacity)
        (Class.resizedAs_id classId capacity) }

variable {m n : Move} {o : Outline}

theorem contains_after (o : Outline) (m : Move) (id : Int) :
    (o.after m).classes.contains id = o.classes.contains id := by
  cases m with
  | cancel | remove => rfl
  | resize classId capacity =>
    unfold Table.contains after
    rw [Table.get?_mapRows, Option.isSome_map]

/-- A move leaves the registrations alone that it is not about. -/
theorem get?_after_of_ne {id : Int} (h : m.subject ≠ .registration id) :
    (o.after m).registrations.get? id = o.registrations.get? id := by
  cases m with
  | resize classId capacity => rfl
  | remove id' =>
    have hne : id ≠ id' := fun same => h (by rw [same]; rfl)
    exact (Table.get?_erase _ _ _).trans (if_neg hne)
  | cancel id' =>
    have hne : id ≠ id' := fun same => h (by rw [same]; rfl)
    unfold after
    rw [Table.get?_mapRows]
    cases hr : o.registrations.get? id with
    | none => rfl
    | some r =>
      have hid : r.id = id := Table.key_of_get? hr
      rw [Option.map_some, Registration.canceledAs, if_neg (by rw [hid]; exact hne)]

/-- **Moves of different subjects can be made in either order.** -/
theorem after_comm (apart : m.subject ≠ n.subject) (o : Outline) :
    (o.after m).after n = (o.after n).after m := by
  cases m with
  | cancel i =>
    cases n with
    | cancel j =>
      have hne : i ≠ j := fun same => apart (by rw [same])
      ext k : 2
      · rfl
      · simp only [after, Table.get?_mapRows, Option.map_map]
        congr 1
        funext r
        simp only [Function.comp_apply, Registration.canceledAs]
        split <;> split <;> simp_all
    | remove j =>
      -- what is removed need not be canceled before
      ext k : 2
      · rfl
      · simp only [after, Table.get?_mapRows, Table.get?_erase]
        split <;> rfl
    | resize classId capacity => rfl
  | remove i =>
    cases n with
    | cancel j =>
      ext k : 2
      · rfl
      · simp only [after, Table.get?_mapRows, Table.get?_erase]
        split <;> rfl
    | remove j =>
      ext k : 2
      · rfl
      · simp only [after, Table.get?_erase]
        split <;> split <;> rfl
    | resize classId capacity => rfl
  | resize i capacity =>
    cases n with
    | cancel j => rfl
    | remove j => rfl
    | resize j capacity' =>
      have hne : i ≠ j := fun same => apart (by rw [same]; rfl)
      ext k : 2
      · simp only [after, Table.get?_mapRows, Option.map_map]
        congr 1
        funext c
        simp only [Function.comp_apply, Class.resizedAs]
        split <;> split <;> simp_all
      · rfl

/-- **Moves of pairwise different subjects can be made in any order.** -/
theorem foldl_after_perm {moves moves' : List Move} (h : moves.Perm moves')
    (apart : (moves.map Move.subject).Nodup) (o : Outline) :
    moves.foldl after o = moves'.foldl after o := by
  -- two moves of the list are of different subjects, or are the same move
  refine h.foldl_eq' (fun m hm n hn o => ?_) o
  by_cases same : m.subject = n.subject
  · rw [List.inj_on_of_nodup_map apart hm hn same]
  · exact after_comm same o

end Outline

/-! ### Edits -/

namespace Edit

variable {c : Class} {s : Store} {now : Instant}

theorem outline_result {e : Edit} (hr : e.reseats = true) (stored : s.classes.get? c.id = some c)
    (now : Instant) : (e.result c now s).outline = (e.apply c now s).outline := by
  have there : (e.apply c now s).classes.contains (e.classAfter c now).id = true := by
    rw [classAfter_id]
    exact Table.contains_iff.2 ⟨_, get?_apply stored⟩
  unfold result
  rw [if_pos hr, Store.outline_seated there]

theorem outline_cancel {r : Registration} (found : s.registrations.get? r.id = some r) :
    ((cancel r).apply c now s).outline = s.outline.after (.cancel r.id) := by
  ext k : 2
  · rfl
  · have hafter : (s.outline.after (.cancel r.id)).registrations.get? k =
        ((s.registrations.get? k).map s.outlined).map (Registration.canceledAs r.id) := by
      rw [← Store.get?_outline_registrations]
      unfold Outline.after
      rw [Table.get?_mapRows]
    rw [hafter, Store.get?_outline_registrations, get?_apply_cancel]
    by_cases hk : k = r.id
    · -- canceled, it is out of the line, and it does not matter where it was
      have hrow : s.outlined (r.canceled now) = (s.outlined r).canceledAs r.id := by
        rw [Registration.canceledAs, if_pos (s.outlined_id r)]
        unfold Store.outlined
        rw [if_neg fun h => nomatch h.1]
        split <;> rfl
      rw [if_pos hk, hk, found, Option.map_some, Option.map_some, Option.map_some, ← hrow]
      rfl
    · rw [if_neg hk]
      cases hx : s.registrations.get? k with
      | none => rfl
      | some x =>
        have hid : x.id = k := Table.key_of_get? hx
        rw [Option.map_some, Option.map_some, Option.map_some, Registration.canceledAs,
          if_neg (by rw [s.outlined_id, hid]; exact hk)]
        rfl

theorem outline_delete (r : Registration) :
    ((delete r).apply c now s).outline = s.outline.after (.remove r.id) := by
  ext k : 2
  · rfl
  · have hafter : (s.outline.after (.remove r.id)).registrations.get? k =
        if k = r.id then none else (s.registrations.get? k).map s.outlined := by
      rw [← Store.get?_outline_registrations]
      exact Table.get?_erase _ _ _
    have happly : ((delete r).apply c now s).registrations.get? k =
        if k = r.id then none else s.registrations.get? k := Table.get?_erase _ _ _
    rw [hafter, Store.get?_outline_registrations, happly]
    split <;> rfl

theorem outline_setCapacity (stored : s.classes.get? c.id = some c) (capacity : Int) :
    ((setCapacity capacity).apply c now s).outline = s.outline.after (.resize c.id capacity) := by
  have hput : ∀ k, ((setCapacity capacity).apply c now s).classes.get? k =
      if k = c.id then some { c with capacity, updatedAt := now } else s.classes.get? k :=
    fun k => Table.get?_put _ _ _
  ext k : 2
  · have hafter : (s.outline.after (.resize c.id capacity)).classes.get? k =
        ((s.classes.get? k).map Class.undated).map (Class.resizedAs c.id capacity) := by
      rw [← Store.get?_outline_classes]
      unfold Outline.after
      rw [Table.get?_mapRows]
    rw [hafter, Store.get?_outline_classes, hput]
    by_cases hk : k = c.id
    · rw [if_pos hk, hk, stored, Option.map_some, Option.map_some, Option.map_some,
        Class.resizedAs, if_pos c.undated_id]
      rfl
    · rw [if_neg hk]
      cases hx : s.classes.get? k with
      | none => rfl
      | some x =>
        have hid : x.id = k := Table.key_of_get? hx
        rw [Option.map_some, Option.map_some, Class.resizedAs,
          if_neg (by rw [x.undated_id, hid]; exact hk)]
  · -- the same classes are stored, so everyone active is on a seat as before
    have hcontains : ∀ id, ((setCapacity capacity).apply c now s).classes.contains id =
        s.classes.contains id := by
      intro id
      unfold Table.contains
      rw [hput]
      split
      · next hid => rw [hid, stored]; rfl
      · rfl
    change _ = s.outline.registrations.get? k
    rw [Store.get?_outline_registrations, Store.get?_outline_registrations]
    congr 1
    funext r
    exact Store.outlined_congr hcontains r

end Edit

end EnrollmentDesk
