import EnrollmentDesk.Proofs.Checks

/-!
# All or nothing

An operation is carried out as a whole or not at all. If it fails, or finds that the registration
was canceled before, the store is what it was, down to the budget and the count of commits. If it is
carried out, there is one more commit, and the budget has paid for every registration row that was
written: one for the registration the operation is about, and one for each change of the plan.

So the budget alone decides about an operation whose checks pass (`Operation.Passes`). It is carried
out exactly if the budget covers all its writes; a budget that runs out between two of them undoes
the first. No budget helps an operation that fails a check.

## Main statements

* `Desk.all_or_nothing` — what becomes of the store, when an operation is carried out, and that what
  only reads leaves the store alone.
-/

namespace EnrollmentDesk

/-! ### Operations -/

namespace Operation

/-- How many registration rows an operation writes by itself. -/
def rows : Operation → Nat
  | create .. | cancelByCode _ | cancelById _ | checkIn _ | delete _ => 1
  | setCapacity .. | rebalance _ => 0

variable {office : Office} {op : Operation} {d : Desk}

theorem Asks.rows_eq {st : EnrollmentSettings} {now : Instant} {s : Store} {c : Class} {e : Edit}
    (h : Asks st now s op c e) : e.rows = op.rows := by
  cases h <;> rfl

/-- **All**: an operation whose checks pass is carried out with just the budgets that cover its
writes, and these are what it pays for. -/
theorem Passes.paid (alone : d.rival = none) (online : d.online = true)
    (commits : d.commitFails = false) {c : Class} {e : Edit}
    (h : op.Passes office.settings.enrollment d c e) (budget : Option Nat) :
    (op.carriedOut (runOn (op.perform office) (d.limited budget)).1 = true ↔
      (d.store.limited budget).Affords (op.rows + (e.changes c d.now d.store).length)) ∧
    (op.carriedOut (runOn (op.perform office) (d.limited budget)).1 = true →
      (runOn (op.perform office) (d.limited budget)).2.store.commits = d.store.commits + 1 ∧
      (runOn (op.perform office) (d.limited budget)).2.store.writeBudget =
        budget.map (· - (op.rows + (e.changes c d.now d.store).length))) := by
  -- neither the checks nor the writes depend on the budget
  have passes := h.limited budget
  have hwrites : e.writes c d.now (d.store.limited budget) =
      op.rows + (e.changes c d.now d.store).length := by
    rw [e.writes_limited, Edit.writes, h.asked.rows_eq]
  have hiff : op.carriedOut (runOn (op.perform office) (d.limited budget)).1 = true ↔
      (d.store.limited budget).Affords (e.writes c d.now (d.store.limited budget)) :=
    passes.carriedOut_iff alone online commits
  refine ⟨by rw [hiff, hwrites], fun carried => ?_⟩
  obtain ⟨-, hstore⟩ := passes.carriedOut alone online commits (hiff.1 carried)
  rw [hstore, ← hwrites]
  refine ⟨congrArg (· + 1) (e.commits_result c _ _), ?_⟩
  exact congrArg (Option.map _) (e.writeBudget_result c _ _)

end Operation

/-! ### Reading -/

namespace Service

variable {α : Type} {work : Tx (Verdict α)} {office : Office}

/-- A session that is never kept. -/
def IsReadOnly (work : Tx (Verdict α)) : Prop :=
  ∀ s a promoted t, runOn work s ≠ (.ok (.keep a promoted), t)

/-- What only reads leaves the store alone. -/
theorem IsReadOnly.store_perform (h : IsReadOnly work) (d : Desk) :
    (runOn (perform office work) d).2.store = d.store := by
  rw [runOn_perform]
  cases online : d.online with
  | false =>
    unfold settle
    rw [runOn_bind_error (runOn_connect_of_offline online)]
    rfl
  | true =>
    rw [runOn_settle work online]
    cases hrun : runOn work d.session with
    | mk x s =>
      cases x with
      | error e => rfl
      | ok v =>
        cases v with
        | keep a promoted => exact absurd hrun (h _ _ _ _)
        | drop a => rfl

theorem isReadOnly_conflicts (st : EnrollmentSettings) (childId classId : Int) :
    IsReadOnly (Enrollment.conflicts st childId classId) := by
  intro s a promoted t h
  obtain ⟨zone, s', -, h⟩ := runOn_bind_eq_ok h
  obtain ⟨u, s'', -, h⟩ := runOn_bind_eq_ok h
  exact nomatch (Except.ok.inj (Prod.mk.inj h).1)

theorem isReadOnly_status (code : String) : IsReadOnly (Enrollment.status code) := by
  intro s a promoted t h
  obtain ⟨r, s', -, h⟩ := runOn_bind_eq_ok h
  obtain ⟨position, s'', -, h⟩ := runOn_bind_eq_ok h
  exact nomatch (Except.ok.inj (Prod.mk.inj h).1)

theorem isReadOnly_occupancy (classId : Int) : IsReadOnly (Enrollment.occupancy classId) := by
  intro s a promoted t h
  obtain ⟨found, s', -, h⟩ := runOn_bind_eq_ok h
  cases found with
  | none => exact nomatch h
  | some o => exact nomatch (Except.ok.inj (Prod.mk.inj h).1)

end Service

/-- **All or nothing.** An operation that fails, or finds that the registration was canceled before,
leaves the store as it was. One whose checks pass is carried out exactly if the budget covers the
rows that it writes; it then counts as one commit and has paid for these rows. No other is carried
out, whatever the budget. What only reads leaves the store as it was. -/
theorem Desk.all_or_nothing (office : Office) (d : Desk) (alone : d.rival = none) :
    (∀ op : Operation,
      (op.carriedOut (runOn (op.perform office) d).1 = false →
        (runOn (op.perform office) d).2.store = d.store) ∧
      (d.online = true → d.commitFails = false →
        ∀ c e, op.Passes office.settings.enrollment d c e → ∀ budget,
          (op.carriedOut (runOn (op.perform office) (d.limited budget)).1 = true ↔
            (d.store.limited budget).Affords (op.rows + (e.changes c d.now d.store).length)) ∧
          (op.carriedOut (runOn (op.perform office) (d.limited budget)).1 = true →
            (runOn (op.perform office) (d.limited budget)).2.store.commits =
              d.store.commits + 1 ∧
            (runOn (op.perform office) (d.limited budget)).2.store.writeBudget =
              budget.map (· - (op.rows + (e.changes c d.now d.store).length)))) ∧
      ((∃ budget, op.carriedOut (runOn (op.perform office) (d.limited budget)).1 = true) →
        d.online = true ∧ d.commitFails = false ∧
          ∃ c e, op.Passes office.settings.enrollment d c e)) ∧
    (∀ childId classId, (runOn (Service.conflicts office childId classId) d).2.store = d.store) ∧
    (∀ classId, (runOn (Service.occupancy office classId) d).2.store = d.store) ∧
    ∀ code, (runOn (Service.status office code) d).2.store = d.store := by
  refine ⟨fun op => ⟨Operation.store_of_not_carriedOut alone, ?_, ?_⟩, ?_, ?_, ?_⟩
  · exact fun online commits c e passes => passes.paid alone online commits
  · rintro ⟨budget, carried⟩
    obtain ⟨online, commits, c, e, passes⟩ :=
      Operation.passes_of_carriedOut (d := d.limited budget) alone carried
    exact ⟨online, commits, c, e, passes.limited d.store.writeBudget⟩
  · exact fun childId classId => (Service.isReadOnly_conflicts _ childId classId).store_perform d
  · exact fun classId => (Service.isReadOnly_occupancy classId).store_perform d
  · exact fun code => (Service.isReadOnly_status code).store_perform d

/-- To give up the only seat while someone waits takes two writes. One is not enough, and then none
is made. To check in the child who has the seat takes one, and to register another takes one too. -/
theorem Sample.two_writes_or_none :
    (thirdDesk.rival = none ∧ thirdDesk.online = true ∧ thirdDesk.commitFails = false) ∧
    ((Operation.cancelById 1).Passes office.settings.enrollment thirdDesk yoga (.cancel early) ∧
      (runOn ((Operation.cancelById 1).perform office) (thirdDesk.limited (some 1))).2.store =
        (thirdDesk.limited (some 1)).store ∧
      (runOn ((Operation.cancelById 1).perform office) (thirdDesk.limited (some 2))).2.store.commits =
        thirdDesk.store.commits + 1) ∧
    ((Operation.checkIn early.code).Passes office.settings.enrollment thirdDesk yoga
        (.checkIn early) ∧
      (Operation.checkIn early.code).carriedOut
        (runOn ((Operation.checkIn early.code).perform office) (thirdDesk.limited (some 1))).1 =
          true) ∧
    ∃ new, (Operation.create 3 1).Passes office.settings.enrollment thirdDesk yoga (.insert new) ∧
      (Operation.create 3 1).carriedOut
        (runOn ((Operation.create 3 1).perform office) (thirdDesk.limited (some 1))).1 = true := by
  have stored : thirdDesk.store.classes.get? yoga.id = some yoga := rfl
  have cancels : (Operation.cancelById 1).Passes office.settings.enrollment thirdDesk yoga
      (.cancel early) :=
    .other nofun rfl (.cancelById (r := early) rfl stored rfl (by decide))
  have checksIn : (Operation.checkIn early.code).Passes office.settings.enrollment thirdDesk yoga
      (.checkIn early) :=
    .other nofun rfl (.checkIn rfl stored rfl rfl rfl)
  have known : thirdDesk.store.children.get? (Child.mk 3 1 "Ben" ⟨0⟩).id = some ⟨3, 1, "Ben", ⟨0⟩⟩ :=
    rfl
  have zoned : office.settings.enrollment.zone = .ok east := rfl
  have booked : thirdDesk.store.bookingsOf 3 = [] := rfl
  have first : thirdDesk.session.FirstFree office.settings.enrollment.codeWord
      office.settings.enrollment.attempts 0 :=
    ⟨by decide, ⟨by decide, by decide⟩, fun j hj => absurd hj (Nat.not_lt_zero j)⟩
  have registers : (Operation.create 3 1).Passes office.settings.enrollment thirdDesk yoga _ :=
    .create stored known rfl zoned (by decide) (by decide)
      (by rw [booked]; exact fun b hb => absurd hb List.not_mem_nil) first
  -- what a budget covers is known from the writes that each asks for
  have covers : ∀ n m : Nat, n ≤ m → (thirdDesk.store.limited (some m)).Affords n :=
    fun n m h budget hb => Option.some.inj hb ▸ h
  have decides := (Desk.all_or_nothing office thirdDesk rfl).1
  refine ⟨⟨rfl, rfl, rfl⟩, ⟨cancels, ?_, ?_⟩, ⟨checksIn, ?_⟩, _, registers, ?_⟩
  · have short := ((decides _).2.1 rfl rfl _ _ cancels (some 1)).1
    refine ((Desk.all_or_nothing office (thirdDesk.limited (some 1)) rfl).1 (.cancelById 1)).1 ?_
    exact Bool.eq_false_iff.2 fun carried => absurd (short.1 carried 1 rfl) (by decide)
  · have paid := (decides _).2.1 rfl rfl _ _ cancels (some 2)
    exact (paid.2 (paid.1.2 (covers _ _ (by decide)))).1
  · exact ((decides _).2.1 rfl rfl _ _ checksIn (some 1)).1.2 (covers _ _ (by decide))
  · exact ((decides _).2.1 rfl rfl _ _ registers (some 1)).1.2 (covers _ _ (by decide))

end EnrollmentDesk
