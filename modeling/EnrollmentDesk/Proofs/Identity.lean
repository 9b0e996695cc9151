import EnrollmentDesk.Proofs.Cancellation
import EnrollmentDesk.Proofs.Lineage

/-!
# Registrations keep their identity

Two marks tell registrations apart: the number, under which a row is stored, and the code, which the
family has. Neither is ever shared, and neither changes.

For the number this rests on the counter. It is at least as large as every number that is stored
(`Store.IsNumbered`), and an operation raises it or leaves it, also one that removes a row; so a
number is given out once. What is found under it later is therefore the same registration, further
on (`Store.Recalls`), and it is found until it is removed (`Desk.contains_run`). For the code it
rests on the store being asked before a row is put in.

## Main statements

* `Edit.hasDistinctCodes_result` — codes stay distinct;
* `Edit.contains_result` — a number that was given out is lost to a removal and to nothing else;
* `Desk.registrations_keep_identity` — both over whole runs, and what a child is registered as.
-/

namespace EnrollmentDesk

namespace Store

/-- No two registrations have the same code. -/
def HasDistinctCodes (s : Store) : Prop :=
  ∀ q ∈ s.registrations, ∀ r ∈ s.registrations, q.code = r.code → q = r

instance (s : Store) : Decidable s.HasDistinctCodes :=
  inferInstanceAs (Decidable (∀ q ∈ s.registrations.rows, ∀ r ∈ s.registrations.rows, _))

/-- The number of a registration has been given out, and whoever has it continues that
registration. -/
structure Recalls (s : Store) (r : Registration) : Prop where
  numbered : s.IsNumbered
  given : r.id ≤ s.lastRegistrationId
  continues : ∀ x ∈ s.registrations, x.id = r.id → x.Continues r

theorem Recalls.of_mem {s : Store} {r : Registration} (numbered : s.IsNumbered)
    (hr : r ∈ s.registrations) : s.Recalls r where
  numbered := numbered
  given := numbered r hr
  continues x hx hid := by
    rw [Table.eq_of_key_eq hx hr hid]
    exact .refl r

end Store

/-! ### Edits -/

namespace Edit

variable {e : Edit} {c : Class} {s : Store} {now : Instant}

/-- **Codes stay distinct**: rows keep theirs, and a new row gets one that is free. -/
theorem hasDistinctCodes_result (fits : e.Fits c s)
    (fresh : ∀ new, e = insert new → s.IsNumbered) (h : s.HasDistinctCodes) (now : Instant) :
    (e.result c now s).HasDistinctCodes := by
  intro x hx y hy same
  have hfree : ∀ new, e = insert new → ∀ r ∈ s.registrations, r.code ≠ new.code := by
    rintro new rfl
    cases fits with
    | insert place status free => exact Store.codeExists_eq_false_iff.1 free
  -- two rows of the same origin have the same number, and rows of different origin are apart
  refine Table.eq_of_key_eq hx hy ?_
  rcases continues_of_mem_result fits fresh hx with ⟨r, hr, hxr⟩ | ⟨new, hnew, hxnew⟩
  · rcases continues_of_mem_result fits fresh hy with ⟨q, hq, hyq⟩ | ⟨new, hnew, hynew⟩
    · have hcode : r.code = q.code := by rw [← hxr.code, same, hyq.code]
      rw [hxr.id, h r hr q hq hcode, hyq.id]
    · have hcode : r.code = new.code := by
        rw [← hxr.code, same, hynew.code]
        rfl
      exact absurd hcode (hfree new hnew r hr)
  · rcases continues_of_mem_result fits fresh hy with ⟨q, hq, hyq⟩ | ⟨new', hnew', hynew⟩
    · have hcode : q.code = new.code := by
        rw [← hyq.code, ← same, hxnew.code]
        rfl
      exact absurd hcode (hfree new hnew q hq)
    · obtain rfl : new = new' := Edit.insert.inj (hnew.symm.trans hnew')
      rw [hxnew.id, hynew.id]

/-- Whoever has a number that was given out continues the one who had it. -/
theorem recalls_result {r : Registration} (fits : e.Fits c s) (h : s.Recalls r) (now : Instant) :
    (e.result c now s).Recalls r where
  numbered := isNumbered_result fits h.numbered now
  given := Int.le_trans h.given (e.lastRegistrationId_le_result c now s)
  continues := by
    intro x hx hid
    rcases continues_of_mem_result fits (fun _ _ => h.numbered) hx with
      ⟨q, hq, hxq⟩ | ⟨new, rfl, hxnew⟩
    · have hqid : q.id = r.id := hxq.id.symm.trans hid
      exact hxq.trans (h.continues q hq hqid)
    · -- the new row has a number beyond all that were given out
      exfalso
      have hxid : x.id = s.lastRegistrationId + 1 := hxnew.id
      have hgiven := h.given
      omega

theorem contains_result_eq (e : Edit) (c : Class) (now : Instant) (s : Store) (id : Int) :
    (e.result c now s).registrations.contains id =
      (e.apply c now s).registrations.contains id := by
  unfold result Table.contains
  split
  · rw [Store.get?_seated, Option.isSome_map]
  · rfl

/-- **Only a removal takes a number away**, and then its own. None is stored anew, since a new row
has a number that was never given out. -/
theorem contains_result (fits : e.Fits c s) {id : Int} (given : id ≤ s.lastRegistrationId)
    (now : Instant) :
    (e.result c now s).registrations.contains id = true ↔
      s.registrations.contains id = true ∧ ∀ r, e = delete r → r.id ≠ id := by
  rw [contains_result_eq]
  -- for all but a removal there is nothing to show beyond that the same numbers are stored
  have keeps (hget : (e.apply c now s).registrations.contains id = s.registrations.contains id)
      (hother : ∀ r, e ≠ delete r) :
      (e.apply c now s).registrations.contains id = true ↔
        s.registrations.contains id = true ∧ ∀ r, e = delete r → r.id ≠ id := by
    rw [hget]
    exact ⟨fun h => ⟨h, fun r he => absurd he (hother r)⟩, fun h => h.1⟩
  have overwrites {r r' : Registration} (found : s.registrations.get? r.id = some r)
      (hget : (e.apply c now s).registrations.get? id =
        if id = r.id then some r' else s.registrations.get? id) :
      (e.apply c now s).registrations.contains id = s.registrations.contains id := by
    unfold Table.contains
    rw [hget]
    split
    · next hid => rw [hid, found]; rfl
    · rfl
  cases fits with
  | nothing => exact keeps rfl (by simp)
  | setCapacity capacity => exact keeps rfl (by simp)
  | @insert new place status free =>
    refine keeps ?_ (by simp)
    have hid : id ≠ s.lastRegistrationId + 1 := by omega
    unfold Table.contains
    rw [get?_apply_insert, if_neg hid]
  | cancel found place active =>
    exact keeps (overwrites found (get?_apply_cancel _ c now s id)) (by simp)
  | checkIn found place sits absent =>
    exact keeps (overwrites found (get?_apply_checkIn _ c now s id)) (by simp)
  | @delete r found place =>
    have hget : ((delete r).apply c now s).registrations.get? id =
        if id = r.id then none else s.registrations.get? id := Table.get?_erase _ _ _
    unfold Table.contains
    rw [hget]
    by_cases hid : id = r.id
    · rw [if_pos hid]
      exact ⟨(nomatch ·), fun h => absurd hid.symm (h.2 r rfl)⟩
    · rw [if_neg hid]
      refine ⟨fun h => ⟨h, fun q hq => ?_⟩, fun h => h.1⟩
      obtain rfl : r = q := Edit.delete.inj hq
      exact fun h => hid h.symm

end Edit

/-! ### Runs -/

namespace Desk

variable (office : Office) {d : Desk}

theorem run_append (d : Desk) (before after : List Event) :
    run office d (before ++ after) = run office (run office d before) after :=
  List.foldl_append

theorem lastRegistrationId_le_run (alone : d.rival = none) (events : List Event) :
    d.store.lastRegistrationId ≤ (run office d events).store.lastRegistrationId := by
  refine run_induction (P := fun s => d.store.lastRegistrationId ≤ s.lastRegistrationId)
    alone (Int.le_refl _) (fun _ _ h => h) ?_ events
  intro op now s c e asked h
  exact Int.le_trans h (e.lastRegistrationId_le_result c now s)

theorem hasDistinctCodes_run (alone : d.rival = none) (numbered : d.store.IsNumbered)
    (distinct : d.store.HasDistinctCodes) (events : List Event) :
    (run office d events).store.HasDistinctCodes := by
  have both : (run office d events).store.IsNumbered ∧
      (run office d events).store.HasDistinctCodes := by
    refine run_induction (P := fun s => s.IsNumbered ∧ s.HasDistinctCodes) alone
      ⟨numbered, distinct⟩ (fun _ _ h => h) ?_ events
    intro op now s c e asked h
    exact ⟨Edit.isNumbered_result asked.fits h.1 now,
      Edit.hasDistinctCodes_result asked.fits (fun _ _ => h.1) h.2 now⟩
  exact both.2

theorem recalls_run (alone : d.rival = none) {r : Registration} (h : d.store.Recalls r)
    (events : List Event) : (run office d events).store.Recalls r := by
  refine run_induction (P := fun s => s.Recalls r) alone h ?_ ?_ events
  · exact fun s budget hs => ⟨hs.numbered, hs.given, hs.continues⟩
  · intro op now s c e asked hs
    obtain ⟨numbered, given, continues⟩ := Edit.recalls_result asked.fits hs now
    exact ⟨numbered, given, continues⟩

/-- **One event** takes a number away that was given out if it removes the registration, and only
then; it brings none back. -/
theorem contains_next (alone : d.rival = none) {id : Int}
    (given : id ≤ d.store.lastRegistrationId) (event : Event) :
    (next office d event).store.registrations.contains id = true ↔
      d.store.registrations.contains id = true ∧ ¬ event.Removes office d id := by
  have keeps (hstore : (next office d event).store.registrations = d.store.registrations)
      (hno : ¬ event.Removes office d id) :
      (next office d event).store.registrations.contains id = true ↔
        d.store.registrations.contains id = true ∧ ¬ event.Removes office d id := by
    rw [hstore]
    exact ⟨fun h => ⟨h, hno⟩, fun h => h.1⟩
  cases event with
  | clock now => exact keeps rfl (nomatch ·.1)
  | draws draws => exact keeps rfl (nomatch ·.1)
  | budget budget => exact keeps rfl (nomatch ·.1)
  | operation op =>
    cases carried : op.carriedOut (runOn (op.perform office) d).1 with
    | false =>
      have hstore : (next office d (.operation op)).store = d.store :=
        Operation.store_of_not_carriedOut alone carried
      refine keeps (by rw [hstore]) ?_
      rintro ⟨hop, hcarried⟩
      obtain rfl := Event.operation.inj hop
      exact nomatch carried.symm.trans hcarried
    | true =>
      obtain ⟨c, e, asked, hstore⟩ := Operation.store_of_carriedOut alone carried
      have hrows : (next office d (.operation op)).store.registrations =
          (e.result c d.now d.store).registrations := by
        change (runOn (op.perform office) d).2.store.registrations = _
        rw [hstore]
        rfl
      -- a removal is asked for by the number that it takes away
      have hremoves : Event.Removes office d id (.operation op) ↔
          ∃ r, e = .delete r ∧ r.id = id := by
        constructor
        · rintro ⟨hop, -⟩
          obtain rfl := Event.operation.inj hop
          cases asked with
          | @delete r _ found stored place => exact ⟨r, rfl, rfl⟩
        · rintro ⟨r, rfl, rfl⟩
          cases asked with
          | delete found stored place => exact ⟨rfl, carried⟩
      rw [hrows, Edit.contains_result asked.fits given, hremoves]
      refine and_congr_right fun _ => ?_
      rw [not_exists]
      exact forall_congr' fun r => (not_and).symm

/-- **What is stored stays until it is removed**, and what is removed does not come back. -/
theorem contains_run (alone : d.rival = none) {id : Int} (given : id ≤ d.store.lastRegistrationId)
    (events : List Event) :
    (run office d events).store.registrations.contains id = true ↔
      d.store.registrations.contains id = true ∧ ¬ RemovedIn office id d events := by
  induction events generalizing d with
  | nil => exact ⟨fun h => ⟨h, not_false⟩, fun h => h.1⟩
  | cons event events ih =>
    have given' : id ≤ (next office d event).store.lastRegistrationId :=
      Int.le_trans given (lastRegistrationId_le_run office alone [event])
    calc (run office (next office d event) events).store.registrations.contains id = true
      _ ↔ (next office d event).store.registrations.contains id = true ∧
            ¬ RemovedIn office id (next office d event) events :=
          ih (next_rival alone event) given'
      _ ↔ (d.store.registrations.contains id = true ∧ ¬ event.Removes office d id) ∧
            ¬ RemovedIn office id (next office d event) events := by
          rw [contains_next office alone given event]
      _ ↔ d.store.registrations.contains id = true ∧
            ¬ RemovedIn office id d (event :: events) := by
          rw [RemovedIn, not_or, and_assoc]

/-- A registration as a run leaves it: what it has kept, and whether it is there at all. -/
structure Keeps (office : Office) (d : Desk) (r : Registration) (later : List Event) : Prop where
  same : ∀ x ∈ (run office d later).store.registrations, x.id = r.id → x.Continues r
  gone : (run office d later).store.registrations.get? r.id = none ↔
    RemovedIn office r.id d later

theorem keeps_of_mem (alone : d.rival = none) (numbered : d.store.IsNumbered) {r : Registration}
    (hr : r ∈ d.store.registrations) (later : List Event) : Keeps office d r later where
  same := (recalls_run office alone (.of_mem numbered hr) later).continues
  gone := by
    have there : d.store.registrations.contains r.id = true :=
      Table.contains_iff.2 ⟨r, Table.get?_of_mem hr⟩
    have hrun := contains_run office alone (numbered r hr) later
    rw [and_iff_right there] at hrun
    rw [← not_iff_not, ← hrun]
    exact Option.isSome_iff_ne_none.symm

/-- Whom an event has registered: what the answer has as the registration, if the event asks for
one. -/
def RegisteredBy (office : Office) (d : Desk) (event : Event) (r : Registration) : Prop :=
  ∃ childId classId a, event = .operation (.create childId classId) ∧
    (runOn ((Operation.create childId classId).perform office) d).1 = .ok a ∧ a.registration = r

/-- **A row that was not there is an answer.** -/
theorem of_mem_next (alone : d.rival = none) (numbered : d.store.IsNumbered) {event : Event}
    {x : Registration} (hx : x ∈ (next office d event).store.registrations) :
    (∃ r ∈ d.store.registrations, x.Continues r) ∨ RegisteredBy office d event x := by
  rcases next_store alone event with ⟨budget, hstore⟩ | ⟨op, c, e, rfl, -, asked, hstore⟩
  · rw [hstore] at hx
    exact .inl ⟨x, hx, .refl x⟩
  have horigin : (∃ r ∈ d.store.registrations, x.Continues r) ∨ ∃ new, e = .insert new ∧
      x.Continues (new.stored (d.store.lastRegistrationId + 1) d.now) := by
    rw [hstore] at hx
    exact Edit.continues_of_mem_result asked.fits (fun _ _ => numbered) hx
  rcases horigin with old | ⟨new, rfl, hxnew⟩
  · exact .inl old
  cases asked with
  | @create childId _ child zone code stored known isOpen local_ single apart drawn free =>
    cases answer : (runOn ((Operation.create childId c.id).perform office) d).1 with
    | error e =>
      -- then nothing was stored
      have hsame : (next office d (.operation (.create childId c.id))).store = d.store :=
        Operation.store_of_not_carriedOut alone (by rw [answer]; rfl)
      rw [hsame] at hx
      exact .inl ⟨x, hx, .refl x⟩
    | ok a =>
      -- the answer is stored under the new number, and so is the row
      obtain ⟨_, _, -, -, hrow, hcont⟩ := Operation.row_of_create alone answer
      have hid : a.registration.id = x.id := by
        rw [hcont.id, hxnew.id]
        rfl
      have hsame := Table.eq_of_key_eq (Table.mem_of_get? hrow) hx hid
      exact .inr ⟨childId, c.id, a, rfl, answer, hsame⟩

/-- What a child is registered as at a desk: what was asked for, now, under a code that a draw has
made and nobody else has. -/
structure Registers (office : Office) (d : Desk) (childId classId : Int) (r : Registration) :
    Prop where
  stored : (next office d (.operation (.create childId classId))).store.registrations.get? r.id =
    some r
  child : ∃ child : Child, d.store.children.get? childId = some child ∧
    r.childId = childId ∧ r.parentId = child.parentId
  place : r.classId = classId
  createdAt : r.createdAt = d.now
  code : ∃ draw, r.code = RegistrationCode.make office.settings.enrollment.codeWord draw
  only : ∀ q ∈ (next office d (.operation (.create childId classId))).store.registrations,
    q.code = r.code → q = r

theorem registers_of_answer (alone : d.rival = none) (numbered : d.store.IsNumbered)
    (distinct : d.store.HasDistinctCodes) {childId classId : Int} {a : Placement}
    (answer : (runOn ((Operation.create childId classId).perform office) d).1 = .ok a) :
    Registers office d childId classId a.registration := by
  obtain ⟨c, new, asked, -, hrow, hcont⟩ := Operation.row_of_create alone answer
  have distinct' := hasDistinctCodes_run office alone numbered distinct
    [.operation (.create childId classId)]
  have hmem := Table.mem_of_get? hrow
  cases asked with
  | @create _ _ child zone code stored known isOpen local_ single apart drawn free =>
    obtain ⟨draw, hdraw⟩ := drawn
    exact {
      stored := hrow
      child := ⟨child, known, hcont.childId, hcont.parentId⟩
      place := hcont.classId
      createdAt := hcont.createdAt
      code := ⟨draw, hcont.code.trans hdraw⟩
      only := fun q hq same => distinct' q hq _ hmem same }

/-- **Registrations keep their identity.** In every run from a store whose numbers have been given
out and whose codes are distinct, codes are distinct, and a row that is stored keeps its number, its
parent, its child, its class, its code and the time it was stored, for as long as it is there, which
is until it is removed under its own number. A row that is new was asked for: it is the answer to a
registration, it is stored with the child's parent, for the class, at the time and under a code that
it alone has, and its number is larger than all that were stored at any time before, whether they
are still there or not. -/
theorem registrations_keep_identity (office : Office) (d : Desk) (alone : d.rival = none)
    (numbered : d.store.IsNumbered) (distinct : d.store.HasDistinctCodes) (events : List Event) :
    (run office d events).store.HasDistinctCodes ∧
    (∀ r ∈ (run office d events).store.registrations, ∀ later,
      Keeps office (run office d events) r later) ∧
    (∀ event, ∀ x ∈ (next office (run office d events) event).store.registrations,
      (∃ r ∈ (run office d events).store.registrations, x.Continues r) ∨
        RegisteredBy office (run office d events) event x) ∧
    ∀ childId classId a,
      (runOn ((Operation.create childId classId).perform office) (run office d events)).1 = .ok a →
        Registers office (run office d events) childId classId a.registration ∧
        ∀ before after, events = before ++ after →
          ∀ q ∈ (run office d before).store.registrations, q.id < a.registration.id := by
  have alone' := run_rival office alone events
  have numbered' := isNumbered_run office alone numbered events
  have distinct' := hasDistinctCodes_run office alone numbered distinct events
  refine ⟨distinct', fun r hr later => keeps_of_mem office alone' numbered' hr later,
    fun event x hx => of_mem_next office alone' numbered' hx, ?_⟩
  intro childId classId a answer
  refine ⟨registers_of_answer office alone' numbered' distinct' answer, ?_⟩
  rintro before after rfl q hq
  -- the counter has not gone down since
  have hthen : q.id ≤ (run office d before).store.lastRegistrationId :=
    isNumbered_run office alone numbered before q hq
  have hsince := lastRegistrationId_le_run office (run_rival office alone before) after
  rw [← run_append] at hsince
  obtain ⟨_, _, -, -, -, hcont⟩ := Operation.row_of_create alone' answer
  have hnew : a.registration.id =
      (run office d (before ++ after)).store.lastRegistrationId + 1 := hcont.id
  omega

end Desk

namespace Sample

/-- The desk at which the child is known that came in time. -/
def returnDesk : Desk :=
  { desk with store := store.addChild ⟨1, 1, "Ada", ⟨0⟩⟩ }

/-- What is stored when both registrations have been removed and the child comes again. -/
def again : Registration where
  id := 3
  parentId := 1
  childId := 1
  classId := 1
  status := .confirmed
  code := "REG-000000"
  checkInAt := none
  createdAt := ⟨10⟩
  updatedAt := ⟨10⟩

/-- The last number is not given out again when its registration has been removed. -/
theorem removed_number_stays_taken :
    returnDesk.rival = none ∧ returnDesk.store.IsNumbered ∧ returnDesk.store.HasDistinctCodes ∧
      (Desk.run office returnDesk [.operation (.delete 2),
        .operation (.delete 1)]).store.registrations.rows = [] ∧
      Desk.Registers office (Desk.run office returnDesk [.operation (.delete 2),
        .operation (.delete 1)]) 1 1 again ∧
      late.id < again.id := by
  have numbered : returnDesk.store.IsNumbered := by decide
  have distinct : returnDesk.store.HasDistinctCodes := by decide
  have answer : (runOn ((Operation.create 1 1).perform office) (Desk.run office returnDesk
      [.operation (.delete 2), .operation (.delete 1)])).1 = .ok ⟨again, none⟩ := rfl
  have hlate : late ∈ (Desk.run office returnDesk []).store.registrations :=
    Table.mem_of_get? (k := 2) rfl
  obtain ⟨-, -, -, created⟩ := Desk.registrations_keep_identity office returnDesk rfl numbered
    distinct [.operation (.delete 2), .operation (.delete 1)]
  obtain ⟨registers, larger⟩ := created 1 1 ⟨again, none⟩ answer
  exact ⟨rfl, numbered, distinct, rfl, registers, larger [] _ rfl late hlate⟩

end Sample

end EnrollmentDesk
