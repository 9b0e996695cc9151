import EnrollmentDesk.Desk.Account
import EnrollmentDesk.Proofs.WaitingLine
import Mathlib.Data.List.Sort

/-!
# What a family has ahead

A chat that is linked to a parent can ask what the family has ahead, and is told of the active
registrations of the parent for classes that are still to come, or have begun no more than two hours
ago. Each comes with names out of two other tables, and a registration whose class is not stored is
left out, while one whose child is not stored goes without a name.

The list is made in three steps: registrations are picked, each is joined with its class, and the
pairs are sorted by a key that is read partly from one and partly from the other. What comes of it
is the one list of pairs that has exactly those, in strict order (`Store.ListsFamily`). Strict order
says that none is there twice, and that there is no other such list (`Store.ListsFamily.unique`). So
whatever else is stored, two stores that have the same of the family give the same list
(`Store.SameFamily.listedOf_eq`): nothing of other families can be seen in it.
-/

namespace EnrollmentDesk

namespace Store

/-! ### The order of the list -/

/-- `a` is listed before `b`: by date of the class, then by time of coming, then by number. -/
def IsListedBefore (a b : Registration × Class) : Prop :=
  a.2.date < b.2.date ∨ (a.2.date = b.2.date ∧ a.1.IsAhead b.1)

section Order

variable {a b : Registration × Class}

theorem isListedBefore_iff : IsListedBefore a b ↔ a.2.date.ticks < b.2.date.ticks ∨
    (a.2.date.ticks = b.2.date.ticks ∧ a.1.IsAhead b.1) := by
  unfold IsListedBefore
  rw [Instant.eq_iff_ticks]
  exact Iff.rfl

theorem listedBefore_iff : listedBefore a b = true ↔ a.2.date.ticks < b.2.date.ticks ∨
    (a.2.date.ticks = b.2.date.ticks ∧ a.1.inLine b.1 = true) := by
  unfold listedBefore
  rw [Bool.or_eq_true, Bool.and_eq_true, decide_eq_true_iff, decide_eq_true_iff,
    Instant.eq_iff_ticks]
  exact Iff.rfl

theorem listedBefore_total (a b : Registration × Class) :
    listedBefore a b = true ∨ listedBefore b a = true := by
  rw [listedBefore_iff, listedBefore_iff, Registration.inLine_iff, Registration.inLine_iff]
  omega

theorem listedBefore_trans (a b c : Registration × Class) (hab : listedBefore a b = true)
    (hbc : listedBefore b c = true) : listedBefore a c = true := by
  rw [listedBefore_iff, Registration.inLine_iff] at *
  omega

/-- Who is listed no later than another, and is another, is listed before. -/
theorem IsListedBefore.of_listedBefore (h : listedBefore a b = true) (hid : a.1.id ≠ b.1.id) :
    IsListedBefore a b := by
  rw [listedBefore_iff] at h
  rw [isListedBefore_iff]
  exact h.imp_right fun ⟨same, line⟩ => ⟨same, .of_inLine line hid⟩

instance : Std.Asymm IsListedBefore where
  asymm a b hab hba := by
    rw [isListedBefore_iff, Registration.isAhead_iff] at hab hba
    omega

end Order

/-! ### The rows of a family -/

/-- The rows have what a family has ahead, from `since` on: the active registrations of the parent
for stored classes at that time or later, with these classes, each once and in order. -/
structure ListsFamily (s : Store) (parentId : Int) (since : Instant)
    (rows : List (Registration × Class)) : Prop where
  listed : ∀ r c, (r, c) ∈ rows ↔ r ∈ s.registrations ∧ r.parentId = parentId ∧
    (r.status = .confirmed ∨ r.status = .waitlisted) ∧
    s.classes.get? r.classId = some c ∧ since ≤ c.date
  sorted : rows.Pairwise IsListedBefore

/-- How a registration is listed: with its code and status, and with the names of its child, if the
child is stored, and of its class. -/
def listing (s : Store) (row : Registration × Class) : ListedRegistration where
  registrationId := row.1.id
  code := row.1.code
  status := row.1.status
  childName := (s.children.get? row.1.childId).elim "" Child.name
  className := row.2.name
  classDate := row.2.date

/-- A registration with its class, if the class is stored and takes place at `since` or later. -/
def upcoming? (s : Store) (since : Instant) (r : Registration) : Option (Registration × Class) :=
  ((s.classes.get? r.classId).filter fun c => since ≤ c.date).map fun c => (r, c)

/-- What a family has ahead, in order. -/
def rowsOf (s : Store) (parentId : Int) (since : Instant) : List (Registration × Class) :=
  sortBy listedBefore
    ((s.registrations.rows.filter fun r => r.parentId == parentId && r.isActive).filterMap
      (s.upcoming? since))

variable {s t : Store} {parentId : Int} {since : Instant}

theorem childName_eq (s : Store) (childId : Int) :
    s.childName childId = (s.children.get? childId).elim "" Child.name := by
  unfold childName
  cases s.children.get? childId <;> rfl

theorem listedOf_eq (s : Store) (parentId : Int) (since : Instant) :
    s.listedOf parentId since = (s.rowsOf parentId since).map s.listing := by
  change (s.rowsOf parentId since).map _ = _
  refine List.map_congr_left fun (r, c) _ => ?_
  show ListedRegistration.mk r.id r.code r.status (s.childName r.childId) c.name c.date = _
  rw [childName_eq]
  rfl

theorem upcoming?_eq_some_iff {r : Registration} {row : Registration × Class} :
    s.upcoming? since r = some row ↔
      row.1 = r ∧ s.classes.get? r.classId = some row.2 ∧ since ≤ row.2.date := by
  unfold upcoming?
  simp only [Option.map_eq_some_iff, Option.filter_eq_some_iff, decide_eq_true_eq]
  constructor
  · rintro ⟨c, ⟨stored, later⟩, rfl⟩
    exact ⟨rfl, stored, later⟩
  · rintro ⟨rfl, stored, later⟩
    exact ⟨row.2, ⟨stored, later⟩, rfl⟩

theorem mem_rowsOf {row : Registration × Class} : row ∈ s.rowsOf parentId since ↔
    row.1 ∈ s.registrations ∧ row.1.parentId = parentId ∧
      (row.1.status = .confirmed ∨ row.1.status = .waitlisted) ∧
      s.classes.get? row.1.classId = some row.2 ∧ since ≤ row.2.date := by
  unfold rowsOf
  rw [mem_sortBy, List.mem_filterMap]
  simp only [upcoming?_eq_some_iff, List.mem_filter, Bool.and_eq_true, beq_iff_eq,
    Registration.isActive_iff]
  constructor
  · rintro ⟨r, ⟨hr, family, active⟩, rfl, stored, later⟩
    exact ⟨hr, family, active, stored, later⟩
  · rintro ⟨hr, family, active, stored, later⟩
    exact ⟨row.1, ⟨hr, family, active⟩, rfl, stored, later⟩

/-- No registration is listed twice. -/
theorem nodup_rowsOf (s : Store) (parentId : Int) (since : Instant) :
    ((s.rowsOf parentId since).map fun row => row.1.id).Nodup := by
  have hperm : (s.rowsOf parentId since).Perm _ := sortBy_perm _ _
  rw [(hperm.map _).nodup_iff, List.nodup_iff_pairwise_ne, List.pairwise_map]
  -- a join keeps the number of the registration, and the table has each number once
  refine List.Pairwise.filterMap _ ?_ (s.registrations.increasing.filter _)
  intro r q hlt a ha b hb
  obtain ⟨rfl, -⟩ := upcoming?_eq_some_iff.1 ha
  obtain ⟨rfl, -⟩ := upcoming?_eq_some_iff.1 hb
  exact Int.ne_of_lt hlt

/-- **What a family has ahead is listed**, all of it and nothing else. -/
theorem listsFamily_rowsOf (s : Store) (parentId : Int) (since : Instant) :
    s.ListsFamily parentId since (s.rowsOf parentId since) where
  listed _ _ := mem_rowsOf
  sorted := by
    have sorted : (s.rowsOf parentId since).Pairwise fun a b => listedBefore a b = true :=
      pairwise_sortBy listedBefore_total listedBefore_trans _
    -- distinct numbers make the order strict
    have apart := s.nodup_rowsOf parentId since
    rw [List.nodup_iff_pairwise_ne, List.pairwise_map] at apart
    exact (sorted.and apart).imp fun h => .of_listedBefore h.1 h.2

/-! ### What the list depends on -/

/-- Two stores have the same of the family of a parent: its registrations, and the classes and
children that these are for. -/
structure SameFamily (t s : Store) (parentId : Int) : Prop where
  registrations : ∀ r, r.parentId = parentId → (r ∈ t.registrations ↔ r ∈ s.registrations)
  classes : ∀ r ∈ s.registrations, r.parentId = parentId →
    t.classes.get? r.classId = s.classes.get? r.classId
  children : ∀ r ∈ s.registrations, r.parentId = parentId →
    t.children.get? r.childId = s.children.get? r.childId

/-- Rows of the same family are the same rows. -/
theorem ListsFamily.unique (same : t.SameFamily s parentId) {rows rows' : List (Registration × Class)}
    (h : t.ListsFamily parentId since rows) (h' : s.ListsFamily parentId since rows') :
    rows = rows' := by
  refine h.sorted.eq_of_mem_iff h'.sorted fun (r, c) => ?_
  rw [h.listed, h'.listed]
  -- a row is looked up under numbers that its registration has, and there the stores agree
  constructor
  · rintro ⟨hr, family, active, stored, later⟩
    have hr' := (same.registrations r family).1 hr
    rw [same.classes r hr' family] at stored
    exact ⟨hr', family, active, stored, later⟩
  · rintro ⟨hr, family, active, stored, later⟩
    rw [← same.classes r hr family] at stored
    exact ⟨(same.registrations r family).2 hr, family, active, stored, later⟩

/-- **Of the same family the same is listed**, whatever else is stored. -/
theorem SameFamily.listedOf_eq (same : t.SameFamily s parentId) :
    t.listedOf parentId since = s.listedOf parentId since := by
  have rows : t.rowsOf parentId since = s.rowsOf parentId since :=
    ListsFamily.unique same (t.listsFamily_rowsOf parentId since)
      (s.listsFamily_rowsOf parentId since)
  rw [Store.listedOf_eq, Store.listedOf_eq, rows]
  refine List.map_congr_left fun row hrow => ?_
  obtain ⟨hr, family, -⟩ := mem_rowsOf.1 hrow
  unfold listing
  rw [same.children row.1 hr family]

/-- A chat is linked to no parent exactly if no link is the chat's. -/
theorem linkedParent_eq_none_iff {chatId : Int} :
    s.linkedParent chatId = none ↔ ∀ l ∈ s.links, l.chatId ≠ chatId := by
  unfold linkedParent
  rw [Option.map_eq_none_iff, List.find?_eq_none]
  simp only [List.mem_reverse, beq_iff_eq, ne_eq]

end Store

/-! ### At the desk -/

namespace Service

variable {d : Desk} (online : d.online = true) {chatId : Int}

include online

theorem runOn_listOwn_of_unlinked (unlinked : d.store.linkedParent chatId = none) :
    runOn (listOwn chatId) d = (.error (.chatNotLinked chatId), d) := by
  unfold listOwn
  rw [runOn_bind_ok (runOn_ask online _), unlinked]
  rfl

theorem runOn_listOwn_of_linked {parentId : Int}
    (linked : d.store.linkedParent chatId = some parentId) :
    runOn (listOwn chatId) d =
      (.ok (d.store.listedOf parentId (d.now.plusSeconds (-listedSeconds))), d) := by
  have hnow : runOn now d = (.ok d.now, d) := rfl
  unfold listOwn
  rw [runOn_bind_ok (runOn_ask online _), linked]
  dsimp only
  rw [runOn_bind_ok hnow, runOn_ask online]

end Service

/-- Two stores have the same of the family that a chat belongs to. -/
structure Store.AgreesFor (t s : Store) (chatId : Int) : Prop where
  linked : t.linkedParent chatId = s.linkedParent chatId
  family : ∀ parentId, s.linkedParent chatId = some parentId → t.SameFamily s parentId

/-- **A chat is told of exactly what its family has ahead.** It is refused if it has no link, and
only then. Otherwise it gets the active registrations of the parent it is linked to for stored
classes that are still to come or have begun no more than two hours ago, each once, in order of the
date of the class, of coming and of the number, and each with its own code and status and with the
names of its class and child. The list is the same in all stores that have the same of this
family. -/
theorem Desk.own_list_is_exact (d : Desk) (online : d.online = true) (chatId : Int) :
    ((runOn (Service.listOwn chatId) d).1 = .error (.chatNotLinked chatId) ↔
      ∀ l ∈ d.store.links, l.chatId ≠ chatId) ∧
    ((∃ l ∈ d.store.links, l.chatId = chatId) → ∃ parentId rows,
      d.store.linkedParent chatId = some parentId ∧
      d.store.ListsFamily parentId (d.now.plusSeconds (-(2 * 3600))) rows ∧
      (rows.map fun row => row.1.id).Nodup ∧
      (runOn (Service.listOwn chatId) d).1 = .ok (rows.map d.store.listing)) ∧
    ∀ t : Desk, t.online = true → t.now = d.now → t.store.AgreesFor d.store chatId →
      (runOn (Service.listOwn chatId) t).1 = (runOn (Service.listOwn chatId) d).1 := by
  refine ⟨?_, ?_, ?_⟩
  · -- once a parent is found, nothing else is refused
    rw [← Store.linkedParent_eq_none_iff]
    cases linked : d.store.linkedParent chatId with
    | none =>
      rw [Service.runOn_listOwn_of_unlinked online linked]
      exact ⟨fun _ => rfl, fun _ => rfl⟩
    | some parentId =>
      rw [Service.runOn_listOwn_of_linked online linked]
      exact ⟨(nomatch ·), (nomatch ·)⟩
  · rintro ⟨l, hl, hchat⟩
    cases linked : d.store.linkedParent chatId with
    | none => exact absurd hchat (Store.linkedParent_eq_none_iff.1 linked l hl)
    | some parentId =>
      refine ⟨parentId, _, rfl, d.store.listsFamily_rowsOf parentId _,
        d.store.nodup_rowsOf parentId _, ?_⟩
      rw [Service.runOn_listOwn_of_linked online linked, Store.listedOf_eq]
      rfl
  · -- the same parent is found at both desks, and what is read from there on is of its family
    intro t online' now agrees
    cases linked : d.store.linkedParent chatId with
    | none =>
      have linked' : t.store.linkedParent chatId = none := agrees.linked.trans linked
      rw [Service.runOn_listOwn_of_unlinked online linked,
        Service.runOn_listOwn_of_unlinked online' linked']
    | some parentId =>
      have linked' : t.store.linkedParent chatId = some parentId := agrees.linked.trans linked
      rw [Service.runOn_listOwn_of_linked online linked,
        Service.runOn_listOwn_of_linked online' linked', now,
        (agrees.family parentId linked).listedOf_eq]

namespace Sample

/-- A desk that has one child of a family, whose chat is linked. -/
def familyDesk (s : Store) : Desk :=
  { desk with store := (s.addChild ⟨1, 1, "Ada", ⟨0⟩⟩).link 1 555 }

/-- The store with the class and the one who came in time. -/
def earlyStore : Store :=
  (({} : Store).addClass yoga).addRegistration early

/-- The family is told of the class of its child, and of no other child in it. -/
theorem family_is_told_of_its_own :
    (runOn (Service.listOwn 555) (familyDesk store)).1 =
        .ok [⟨1, "REG-000001", .confirmed, "Ada", "Yoga", ⟨1000⟩⟩] ∧
      (∃ rows, (familyDesk store).store.ListsFamily 1
          ((familyDesk store).now.plusSeconds (-(2 * 3600))) rows ∧
        (runOn (Service.listOwn 555) (familyDesk store)).1 =
          .ok (rows.map (familyDesk store).store.listing)) ∧
      (familyDesk earlyStore).store.AgreesFor (familyDesk store).store 555 ∧
      (runOn (Service.listOwn 555) (familyDesk earlyStore)).1 =
        (runOn (Service.listOwn 555) (familyDesk store)).1 := by
  have linked : (familyDesk store).store.linkedParent 555 = some 1 := rfl
  -- the one who came late is of another family
  have others : ∀ r : Registration, r.parentId = 1 → (r ∈ [early] ↔ r ∈ [early, late]) := by
    intro r family
    have hlate : r ≠ late := by
      rintro rfl
      exact absurd family (by decide)
    simp [hlate]
  have agrees : (familyDesk earlyStore).store.AgreesFor (familyDesk store).store 555 := by
    refine ⟨rfl, fun parentId h => ?_⟩
    obtain rfl := Option.some.inj (linked.symm.trans h)
    exact ⟨others, fun _ _ _ => rfl, fun _ _ _ => rfl⟩
  obtain ⟨-, told, same⟩ := Desk.own_list_is_exact (familyDesk store) rfl 555
  obtain ⟨parentId, rows, h, lists, -, answer⟩ := told ⟨⟨1, 555⟩, by decide, rfl⟩
  obtain rfl := Option.some.inj (linked.symm.trans h)
  exact ⟨rfl, ⟨rows, lists, answer⟩, agrees, same (familyDesk earlyStore) rfl rfl agrees⟩

end Sample

end EnrollmentDesk
