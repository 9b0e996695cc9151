import EnrollmentDesk.Enrollment.Operation
import EnrollmentDesk.Proofs.Table

/-!
# What the steps of a session do

`runOn` is the outcome of a step: its answer or error, and the state it leaves. Each step of a
session has an equation for it here, so that an operation is opened by these equations and never by
unfolding the monad.

## Looking and writing

A *check* (`Tx.IsCheck`) is a step that writes nothing: it leaves the store as it is, at most
drawing numbers, and it does not depend on the budget of writes. Checks are closed under sequencing,
so that a step is seen to be one from its text.

A write is paid for from the budget. `Store.Affords` says that a number of writes can be paid for,
`Store.spend` is the store after paying, and a write that cannot be paid for fails, whatever else
it would have done.
-/

namespace EnrollmentDesk

/-! ### Outcomes -/

section Run

variable {σ α β : Type}

/-- The outcome of a step: its answer or error, and the state it leaves. -/
def runOn (x : ExceptT Error (StateM σ) α) (s : σ) : Except Error α × σ :=
  (ExceptT.run x).run s

theorem runOn_bind (x : ExceptT Error (StateM σ) α) (f : α → ExceptT Error (StateM σ) β) (s : σ) :
    runOn (x >>= f) s =
      match runOn x s with
      | (.ok a, t) => runOn (f a) t
      | (.error e, t) => (.error e, t) := by
  unfold runOn
  rw [ExceptT.run_bind, StateT.run_bind]
  cases h : (ExceptT.run x).run s with
  | mk r t => cases r <;> rfl

theorem runOn_bind_ok {x : ExceptT Error (StateM σ) α} {f : α → ExceptT Error (StateM σ) β}
    {s t : σ} {a : α} (h : runOn x s = (.ok a, t)) : runOn (x >>= f) s = runOn (f a) t := by
  rw [runOn_bind, h]

theorem runOn_bind_error {x : ExceptT Error (StateM σ) α} {f : α → ExceptT Error (StateM σ) β}
    {s t : σ} {e : Error} (h : runOn x s = (.error e, t)) : runOn (x >>= f) s = (.error e, t) := by
  rw [runOn_bind, h]

theorem runOn_map (g : α → β) (x : ExceptT Error (StateM σ) α) (s : σ) :
    runOn (g <$> x) s = ((runOn x s).1.map g, (runOn x s).2) := by
  rw [map_eq_pure_bind, runOn_bind]
  rcases runOn x s with ⟨_ | _, _⟩ <;> rfl

/-- A sequence that succeeds consists of two steps that do. -/
theorem runOn_bind_eq_ok {x : ExceptT Error (StateM σ) α} {f : α → ExceptT Error (StateM σ) β}
    {s u : σ} {b : β} (h : runOn (x >>= f) s = (.ok b, u)) :
    ∃ a t, runOn x s = (.ok a, t) ∧ runOn (f a) t = (.ok b, u) := by
  rw [runOn_bind] at h
  split at h
  · next a t hx => exact ⟨a, t, hx, h⟩
  · exact nomatch h

@[simp] theorem runOn_pure (a : α) (s : σ) :
    runOn (pure a : ExceptT Error (StateM σ) α) s = (.ok a, s) := rfl

theorem runOn_tryCatch (x : ExceptT Error (StateM σ) α) (h : Error → ExceptT Error (StateM σ) α)
    (s : σ) :
    runOn (tryCatch x h) s =
      match runOn x s with
      | (.ok a, t) => (.ok a, t)
      | (.error e, t) => runOn (h e) t := by
  change runOn (ExceptT.tryCatch x h) s = _
  unfold runOn ExceptT.tryCatch
  have hx : StateT.run x s = (ExceptT.run x).run s := rfl
  rw [ExceptT.run_mk, StateT.run_bind, hx]
  rcases (ExceptT.run x).run s with ⟨_ | _, _⟩ <;> rfl

theorem runOn_tryCatch_ok {x : ExceptT Error (StateM σ) α} {s t : σ} {a : α}
    (hx : runOn x s = (.ok a, t)) (h : Error → ExceptT Error (StateM σ) α) :
    runOn (tryCatch x h) s = (.ok a, t) := by
  rw [runOn_tryCatch, hx]

theorem runOn_tryCatch_error {x : ExceptT Error (StateM σ) α} {s t : σ} {e : Error}
    (hx : runOn x s = (.error e, t)) (h : Error → ExceptT Error (StateM σ) α) :
    runOn (tryCatch x h) s = runOn (h e) t := by
  rw [runOn_tryCatch, hx]

@[simp] theorem runOn_get (s : σ) :
    runOn (get : ExceptT Error (StateM σ) σ) s = (.ok s, s) := rfl

@[simp] theorem runOn_modify (f : σ → σ) (s : σ) :
    runOn (modify f : ExceptT Error (StateM σ) PUnit) s = (.ok ⟨⟩, f s) := rfl

@[simp] theorem runOn_lift (e : Except Error α) (s : σ) :
    runOn (liftM e : ExceptT Error (StateM σ) α) s = (e, s) := rfl

theorem discard_eq_bind (x : ExceptT Error (StateM σ) α) :
    discard x = x >>= fun _ => pure PUnit.unit :=
  map_eq_pure_bind (fun _ => PUnit.unit) x

@[simp] theorem runOn_discard (x : ExceptT Error (StateM σ) α) (s : σ) :
    runOn (discard x) s = ((runOn x s).1.map fun _ => ⟨⟩, (runOn x s).2) :=
  runOn_map _ x s

end Run

/-! ### The budget -/

namespace Store

/-- So many registration writes can be paid for. -/
def Affords (s : Store) (n : Nat) : Prop :=
  ∀ budget, s.writeBudget = some budget → n ≤ budget

/-- The store after so many registration writes have been paid for. -/
def spend (s : Store) (n : Nat) : Store :=
  { s with writeBudget := s.writeBudget.map (· - n) }

/-- The store with another budget. -/
def limited (s : Store) (budget : Option Nat) : Store :=
  { s with writeBudget := budget }

variable {s : Store} {m n : Nat}

theorem affords_of_unlimited (unlimited : s.writeBudget = none) (n : Nat) : s.Affords n :=
  fun _ h => nomatch unlimited.symm.trans h

theorem affords_zero (s : Store) : s.Affords 0 := fun _ _ => Nat.zero_le _

theorem affords_add : s.Affords (m + n) ↔ s.Affords m ∧ (s.spend m).Affords n := by
  unfold Affords spend
  cases s.writeBudget with
  | none => simp
  | some budget =>
    simp only [Option.map_some, Option.some.injEq, forall_eq']
    omega

theorem spend_zero (s : Store) : s.spend 0 = s := by
  unfold spend
  cases s with
  | mk _ _ _ _ _ _ _ _ budget _ => cases budget <;> simp

theorem spend_spend (s : Store) (m n : Nat) : (s.spend m).spend n = s.spend (m + n) := by
  unfold spend
  cases s with
  | mk _ _ _ _ _ _ _ _ budget _ => cases budget <;> simp [Nat.sub_sub]

/-- The store with other registrations. -/
def withRegistrations (s : Store) (t : Table Registration Registration.id) : Store :=
  { s with registrations := t }

end Store

/-- The session on a store with another budget. -/
def Session.limited (s : Session) (budget : Option Nat) : Session :=
  { s with store := s.store.limited budget }

/-- The session after numbers have been drawn and questions for a code have been answered. -/
def Session.drawn (s : Session) (draws : Draws) (clashes : Nat) : Session :=
  { s with draws, clashes }

namespace Tx

variable {α β : Type}

@[simp] theorem runOn_ask (q : Store → α) (s : Session) : runOn (ask q) s = (.ok (q s.store), s) :=
  rfl

@[simp] theorem runOn_now (s : Session) : runOn now s = (.ok s.now, s) := rfl

@[simp] theorem runOn_draw (s : Session) :
    runOn draw s = (.ok s.draws.next.1, s.drawn s.draws.next.2 s.clashes) := rfl

/-- A session without a rival finds the class as it was. -/
theorem runOn_lockClass {s : Session} (alone : s.rival = none) (classId : Int) :
    runOn (lockClass classId) s =
      match s.store.classes.get? classId with
      | some c => (.ok c, s)
      | none => (.error (.classNotFound classId), s) := by
  have waits : runOn admitRival s = (.ok ⟨⟩, s) := by
    unfold admitRival
    rw [runOn_modify, alone]
  unfold lockClass lockClass?
  -- nobody gets in between before the class is locked
  rw [bind_assoc, runOn_bind_ok waits, runOn_bind_ok (runOn_ask _ s)]
  cases s.store.classes.get? classId <;> rfl

theorem runOn_discard_lockClass {s : Session} {c : Class} (alone : s.rival = none)
    (stored : s.store.classes.get? c.id = some c) :
    runOn (discard (lockClass c.id)) s = (.ok ⟨⟩, s) := by
  rw [runOn_discard, runOn_lockClass alone, stored]
  rfl

theorem runOn_discard_lockClass_of_absent {s : Session} {classId : Int} (alone : s.rival = none)
    (absent : s.store.classes.get? classId = none) :
    runOn (discard (lockClass classId)) s = (.error (.classNotFound classId), s) := by
  rw [runOn_discard, runOn_lockClass alone, absent]
  rfl

theorem runOn_registration (id : Int) (s : Session) :
    runOn (registration id) s =
      match s.store.registrations.get? id with
      | some r => (.ok r, s)
      | none => (.error (.registrationNotFound id), s) := by
  unfold registration
  rw [runOn_bind_ok (runOn_ask _ s)]
  cases s.store.registrations.get? id <;> rfl

theorem runOn_registration_of_get? {id : Int} {s : Session} {r : Registration}
    (h : s.store.registrations.get? id = some r) : runOn (registration id) s = (.ok r, s) := by
  rw [runOn_registration, h]

theorem runOn_registrationByCode (code : String) (s : Session) :
    runOn (registrationByCode code) s =
      match s.store.registrationByCode code with
      | some r => (.ok r, s)
      | none => (.error (.codeNotFound code), s) := by
  unfold registrationByCode
  rw [runOn_bind_ok (runOn_ask _ s)]
  cases s.store.registrationByCode code <;> rfl

theorem runOn_registrationByCode_of_found {code : String} {s : Session} {r : Registration}
    (h : s.store.registrationByCode code = some r) :
    runOn (registrationByCode code) s = (.ok r, s) := by
  rw [runOn_registrationByCode, h]

/-! ### What was found -/

section Found

variable {s t : Session} {id : Int} {code : String} {r : Registration} {c : Class}

theorem of_runOn_lockClass (alone : s.rival = none) (h : runOn (lockClass id) s = (.ok c, t)) :
    c.id = id ∧ s.store.classes.get? c.id = some c := by
  rw [runOn_lockClass alone] at h
  split at h
  · next hc =>
    obtain ⟨⟨rfl⟩, -⟩ := Prod.mk.inj h
    have hid : c.id = id := Table.key_of_get? hc
    exact ⟨hid, hid ▸ hc⟩
  · exact nomatch h

theorem of_runOn_discard_lockClass (alone : s.rival = none) {u : Unit}
    (h : runOn (discard (lockClass id)) s = (.ok u, t)) :
    ∃ c : Class, c.id = id ∧ s.store.classes.get? c.id = some c := by
  rw [runOn_discard] at h
  cases hx : runOn (lockClass id) s with
  | mk x t' =>
    rw [hx] at h
    cases x with
    | ok c => exact ⟨c, of_runOn_lockClass alone hx⟩
    | error e => exact nomatch h

theorem of_runOn_registration (h : runOn (registration id) s = (.ok r, t)) :
    s.store.registrations.get? id = some r := by
  rw [runOn_registration] at h
  split at h
  · next hr =>
    obtain ⟨⟨rfl⟩, -⟩ := Prod.mk.inj h
    exact hr
  · exact nomatch h

theorem of_runOn_registrationByCode (h : runOn (registrationByCode code) s = (.ok r, t)) :
    s.store.registrationByCode code = some r := by
  rw [runOn_registrationByCode] at h
  split at h
  · next hr =>
    obtain ⟨⟨rfl⟩, -⟩ := Prod.mk.inj h
    exact hr
  · exact nomatch h

end Found

/-! ### Writes -/

theorem runOn_charge {s : Session} (h : s.store.Affords 1) :
    runOn charge s = (.ok ⟨⟩, { s with store := s.store.spend 1 }) := by
  unfold charge
  rw [runOn_bind_ok (runOn_ask _ s)]
  obtain ⟨store, _, _, _, _⟩ := s
  obtain ⟨_, _, _, _, _, _, _, _, budget, _⟩ := store
  match budget with
  | none => rfl
  -- an empty budget affords no write
  | some 0 => exact absurd (h 0 rfl) (by omega)
  | some (n + 1) => rfl

theorem runOn_charge_of_not_affords {s : Session} (h : ¬ s.store.Affords 1) :
    runOn charge s = (.error (.storage .budgetExhausted), s) := by
  unfold charge
  rw [runOn_bind_ok (runOn_ask _ s)]
  match hb : s.store.writeBudget with
  | none => exact absurd (fun budget e => by rw [hb] at e; exact nomatch e) h
  | some 0 => rfl
  | some (n + 1) =>
    -- a budget of one or more affords a write
    refine absurd (fun budget e => ?_) h
    rw [hb, Option.some.injEq] at e
    omega

theorem runOn_changeRegistration {s : Session} {r : Registration} (h : s.store.Affords 1)
    (f : Registration → Registration) (hr : s.store.registrations.get? r.id = some r) :
    runOn (changeRegistration r.id f) s = (.ok ⟨⟩, { s with
      store := (s.store.withRegistrations (s.store.registrations.put (f r))).spend 1 }) := by
  unfold changeRegistration
  rw [runOn_bind_ok (runOn_charge h)]
  -- the write is paid for before the row is looked up; that moves no row
  have hr' : (s.store.spend 1).registrations.get? r.id = some r := hr
  have found := runOn_registration_of_get? (s := { s with store := s.store.spend 1 }) hr'
  rw [runOn_bind_ok found]
  rfl

theorem runOn_changeRegistration_of_not_affords {s : Session} (h : ¬ s.store.Affords 1) (id : Int)
    (f : Registration → Registration) :
    runOn (changeRegistration id f) s = (.error (.storage .budgetExhausted), s) := by
  unfold changeRegistration
  exact runOn_bind_error (runOn_charge_of_not_affords h)

/-! ### Checks -/

/-- A step that looks and does not write. -/
structure IsCheck (x : Tx α) : Prop where
  /-- At most it draws numbers and counts clashes. -/
  leaves : ∀ s : Session, s.rival = none →
    ∃ draws clashes, (runOn x s).2 = s.drawn draws clashes
  /-- It does not look at the budget. -/
  blind : ∀ (s : Session) (budget : Option Nat), s.rival = none →
    runOn x (s.limited budget) = ((runOn x s).1, (runOn x s).2.limited budget)

namespace IsCheck

theorem pure (a : α) : IsCheck (Pure.pure a : Tx α) where
  leaves s _ := ⟨s.draws, s.clashes, rfl⟩
  blind _ _ _ := rfl

theorem throw (e : Error) : IsCheck (MonadExcept.throw e : Tx α) where
  leaves s _ := ⟨s.draws, s.clashes, rfl⟩
  blind _ _ _ := rfl

theorem lift (e : Except Error α) : IsCheck (liftM e : Tx α) where
  leaves s _ := ⟨s.draws, s.clashes, rfl⟩
  blind _ _ _ := rfl

theorem now : IsCheck Tx.now where
  leaves s _ := ⟨s.draws, s.clashes, rfl⟩
  blind _ _ _ := rfl

theorem draw : IsCheck Tx.draw where
  leaves s _ := ⟨s.draws.next.2, s.clashes, rfl⟩
  blind _ _ _ := rfl

theorem ask {q : Store → α} (h : ∀ s budget, q (Store.limited s budget) = q s) :
    IsCheck (Tx.ask q) where
  leaves s _ := ⟨s.draws, s.clashes, rfl⟩
  blind s budget _ := by
    rw [runOn_ask, runOn_ask]
    exact congrArg (fun a => (Except.ok a, _)) (h s.store budget)

theorem bind {x : Tx α} {f : α → Tx β} (hx : IsCheck x) (hf : ∀ a, IsCheck (f a)) :
    IsCheck (x >>= f) where
  leaves s alone := by
    obtain ⟨draws, clashes, hs⟩ := hx.leaves s alone
    rw [runOn_bind]
    cases h : runOn x s with
    | mk r t =>
      rw [h] at hs
      cases r with
      | error e => exact ⟨draws, clashes, hs⟩
      | ok a =>
        obtain ⟨draws', clashes', ht⟩ := (hf a).leaves t (by rw [show t = _ from hs]; exact alone)
        exact ⟨draws', clashes', by rw [ht, show t = _ from hs]; rfl⟩
  blind s budget alone := by
    obtain ⟨draws, clashes, hs⟩ := hx.leaves s alone
    rw [runOn_bind, runOn_bind, hx.blind s budget alone]
    cases h : runOn x s with
    | mk r t =>
      rw [h] at hs
      cases r with
      | error e => rfl
      | ok a => exact (hf a).blind t budget (by rw [show t = _ from hs]; exact alone)

theorem discard {x : Tx α} (hx : IsCheck x) : IsCheck (Functor.discard x) := by
  rw [discard_eq_bind]
  exact hx.bind fun _ => .pure _

theorem ite {c : Prop} [Decidable c] {x y : Tx α} (hx : IsCheck x) (hy : IsCheck y) :
    IsCheck (if c then x else y) := by
  split
  · exact hx
  · exact hy

theorem lockClass (classId : Int) : IsCheck (Tx.lockClass classId) where
  leaves s alone := by
    rw [runOn_lockClass alone]
    refine ⟨s.draws, s.clashes, ?_⟩
    cases s.store.classes.get? classId <;> rfl
  blind s budget alone := by
    have same : (s.limited budget).store.classes = s.store.classes := rfl
    rw [runOn_lockClass alone, runOn_lockClass (s := s.limited budget) alone, same]
    cases s.store.classes.get? classId <;> rfl

theorem registration (id : Int) : IsCheck (Tx.registration id) :=
  .bind (.ask fun _ _ => rfl) fun r => by
    cases r with
    | none => exact .throw _
    | some r => exact .pure r

theorem registrationByCode (code : String) : IsCheck (Tx.registrationByCode code) :=
  .bind (.ask fun _ _ => rfl) fun r => by
    cases r with
    | none => exact .throw _
    | some r => exact .pure r

theorem codeExists (code : String) : IsCheck (Tx.codeExists code) where
  leaves s _ := by
    obtain ⟨_, _, _, clashes, _⟩ := s
    cases clashes <;> exact ⟨_, _, rfl⟩
  blind s _ _ := by
    obtain ⟨_, _, _, clashes, _⟩ := s
    cases clashes <;> rfl

end IsCheck

end Tx

end EnrollmentDesk
