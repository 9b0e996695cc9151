import EnrollmentDesk.Proofs.Edit

/-!
# Operations as data

`Operation` lists what can be asked of the desk that may change a registration or a class. All of
them go the same way, and `Tx.Course` says how. First the session looks: it fails, or it finds a
registration that was canceled before and leaves all as it is, or its checks pass. If they pass, it
asks for one edit of one class (`Operation.Asks`), makes it and rebalances the class, and then only
the budget decides: if it covers the writes of both, the session is kept, and if not, it fails.

## Main statements

* `Operation.course` — every operation takes such a course, and takes the same whatever the budget;
* `Operation.Asks.fits` — what is asked for fits the store.

A session with a rival is not described: its rows change under it.
-/

namespace EnrollmentDesk

/-- What can be asked of the desk that may change a registration or a class. -/
inductive Operation where
  | create (childId classId : Int)
  | cancelByCode (code : String)
  | cancelById (id : Int)
  | setCapacity (classId capacity : Int)
  | checkIn (code : String)
  | delete (id : Int)
  | rebalance (classId : Int)

namespace Operation

/-- What an operation answers. -/
abbrev Answer : Operation → Type
  | create .. => Placement
  | cancelByCode _ | cancelById _ => Cancellation
  | checkIn _ => Registration
  | setCapacity .. | delete _ | rebalance _ => List Registration

/-- The session of an operation. -/
def session (st : EnrollmentSettings) : (op : Operation) → Tx (Verdict op.Answer)
  | create childId classId => Enrollment.create st childId classId
  | cancelByCode code => Enrollment.cancelByCode code
  | cancelById id => Enrollment.cancelById id
  | setCapacity classId capacity => Enrollment.setCapacity classId capacity
  | checkIn code => Enrollment.checkIn code
  | delete id => Enrollment.delete id
  | rebalance classId => Enrollment.rebalance classId

/-- The answer says that the registration was canceled before. -/
def foundCanceled : (op : Operation) → op.Answer → Bool
  | cancelByCode _, a | cancelById _, a => a.already
  | create .., _ | setCapacity .., _ | checkIn _, _ | delete _, _ | rebalance _, _ => false

/-- The answer of an operation that has been carried out: the registration as it is stored now, or
who got a seat. -/
def Reports : (op : Operation) → Store → List Registration → op.Answer → Prop
  | create .., final, _, a =>
    a.registration.id = final.lastRegistrationId ∧
      final.registrations.get? a.registration.id = some a.registration ∧
      a.position = final.position? a.registration
  | cancelByCode _, final, promoted, a | cancelById _, final, promoted, a =>
    a.already = false ∧ a.promoted = promoted ∧
      final.registrations.get? a.registration.id = some a.registration
  | checkIn _, final, _, a => final.registrations.get? a.id = some a
  | setCapacity .., _, promoted, a | delete _, _, promoted, a | rebalance _, _, promoted, a =>
    a = promoted

theorem Reports.not_foundCanceled {final : Store} {promoted : List Registration} {op : Operation}
    {a : op.Answer} (h : op.Reports final promoted a) : op.foundCanceled a = false := by
  cases op with
  | cancelByCode code => exact h.1
  | cancelById id => exact h.1
  | create childId classId => rfl
  | setCapacity classId capacity => rfl
  | checkIn code => rfl
  | delete id => rfl
  | rebalance classId => rfl

/-- The operation has an answer other than that the registration was canceled before. -/
def carriedOut (op : Operation) : Except Error op.Answer → Bool
  | .ok a => !op.foundCanceled a
  | .error _ => false

theorem Reports.carriedOut {final : Store} {promoted : List Registration} {op : Operation}
    {a : op.Answer} (h : op.Reports final promoted a) : op.carriedOut (.ok a) = true := by
  rw [Operation.carriedOut, h.not_foundCanceled]
  rfl

/-- The checks of an operation pass, and it asks for an edit of a class. -/
inductive Asks (st : EnrollmentSettings) (now : Instant) (s : Store) :
    Operation → Class → Edit → Prop
  | create {childId : Int} {c : Class} {child : Child} {zone : Offset} {code : String}
      (stored : s.classes.get? c.id = some c) (known : s.children.get? childId = some child)
      (isOpen : c.isSignupOpen now = true) (local_ : st.zone = .ok zone)
      (single : s.hasActive childId c.id = false)
      (apart : Conflict.find? childId c (s.bookingsBetween childId (c.date.dayBounds zone).1
        (c.date.dayBounds zone).2) zone = none)
      (drawn : ∃ d, code = RegistrationCode.make st.codeWord d)
      (free : s.codeExists code = false) :
      Asks st now s (create childId c.id) c
        (.insert ⟨child.parentId, childId, c.id, s.startingStatus c, code⟩)
  | cancelByCode {code : String} {r : Registration} {c : Class}
      (found : s.registrationByCode (Text.trim code) = some r)
      (stored : s.classes.get? c.id = some c) (place : r.classId = c.id)
      (active : r.status ≠ .canceled) : Asks st now s (cancelByCode code) c (.cancel r)
  | cancelById {r : Registration} {c : Class} (found : s.registrations.get? r.id = some r)
      (stored : s.classes.get? c.id = some c) (place : r.classId = c.id)
      (active : r.status ≠ .canceled) : Asks st now s (cancelById r.id) c (.cancel r)
  | setCapacity {c : Class} (stored : s.classes.get? c.id = some c) (capacity : Int) :
      Asks st now s (setCapacity c.id capacity) c (.setCapacity capacity)
  | checkIn {code : String} {r : Registration} {c : Class}
      (found : s.registrationByCode (Text.trim code) = some r)
      (stored : s.classes.get? c.id = some c) (place : r.classId = c.id)
      (sits : r.status = .confirmed) (absent : r.isAnchored = false) :
      Asks st now s (checkIn code) c (.checkIn r)
  | delete {r : Registration} {c : Class} (found : s.registrations.get? r.id = some r)
      (stored : s.classes.get? c.id = some c) (place : r.classId = c.id) :
      Asks st now s (delete r.id) c (.delete r)
  | rebalance {c : Class} (stored : s.classes.get? c.id = some c) :
      Asks st now s (rebalance c.id) c .nothing

end Operation

/-- A registration found by its code is found by its number. -/
theorem Store.get?_of_registrationByCode {s : Store} {code : String} {r : Registration}
    (h : s.registrationByCode code = some r) : s.registrations.get? r.id = some r :=
  Table.get?_of_mem (List.mem_of_find?_eq_some h)

namespace Operation

section Asks

variable {st : EnrollmentSettings} {now : Instant} {s : Store} {op : Operation} {c : Class}
  {e : Edit}

theorem Asks.stored (h : Asks st now s op c e) : s.classes.get? c.id = some c := by
  cases h <;> assumption

theorem Asks.fits (h : Asks st now s op c e) : e.Fits c s := by
  cases h with
  | create stored known isOpen local_ single apart drawn free => exact .insert rfl rfl free
  | cancelByCode found stored place active =>
    exact .cancel (Store.get?_of_registrationByCode found) place active
  | cancelById found stored place active => exact .cancel found place active
  | setCapacity stored capacity => exact .setCapacity capacity
  | checkIn found stored place sits absent =>
    exact .checkIn (Store.get?_of_registrationByCode found) place sits absent
  | delete found stored place => exact .delete found place
  | rebalance stored => exact .nothing

/-- Who is registered is put into the class that was asked for. -/
theorem Asks.of_create {childId classId : Int} (h : Asks st now s (.create childId classId) c e) :
    c.id = classId ∧ ∃ new, e = .insert new := by
  cases h with
  | create => exact ⟨rfl, _, rfl⟩

/-- Only a check-in goes without a rebalance. -/
theorem Asks.reseats (h : Asks st now s op c e) (hop : ∀ code, op ≠ .checkIn code) :
    e.reseats = true := by
  cases h with
  | checkIn => exact absurd rfl (hop _)
  | create | cancelByCode | cancelById | setCapacity | delete | rebalance => rfl

end Asks

end Operation

/-- The place on a waitlist is read off the registrations. -/
theorem Store.position?_congr {s t : Store} (h : s.registrations = t.registrations)
    (r : Registration) : s.position? r = t.position? r := by
  unfold position? activeOf
  rw [h]

/-! ### Courses -/

/-- How the session of an operation goes, whatever the budget. -/
inductive Tx.Course {α : Type} (already : α → Bool) (reports : Store → List Registration → α → Prop)
    (asks : Class → Edit → Prop) (s : Session) (x : Tx (Verdict α)) : Prop
  /-- A check fails. -/
  | fails (e : Error) (draws : Draws) (clashes : Nat)
      (runs : ∀ budget, runOn x (s.limited budget) =
        (.error e, (s.limited budget).drawn draws clashes))
  /-- The registration was canceled before. -/
  | leaves (a : α) (draws : Draws) (clashes : Nat) (found : already a = true)
      (runs : ∀ budget, runOn x (s.limited budget) =
        (.ok (.drop a), (s.limited budget).drawn draws clashes))
  /-- The checks pass, and the budget decides. -/
  | writes (c : Class) (e : Edit) (a : α) (draws : Draws) (clashes : Nat) (asked : asks c e)
      (reported : reports (e.result c s.now s.store) (e.promoted c s.now s.store) a)
      (kept : ∀ budget, (s.store.limited budget).Affords (e.writes c s.now s.store) →
        runOn x (s.limited budget) = (.ok (.keep a (e.promoted c s.now s.store)),
          Session.drawn { s with
            store := ((e.result c s.now s.store).limited budget).spend (e.writes c s.now s.store) }
            draws clashes))
      (short : ∀ budget, ¬ (s.store.limited budget).Affords (e.writes c s.now s.store) →
        ∃ store, runOn x (s.limited budget) = (.error (.storage .budgetExhausted),
          Session.drawn { s with store } draws clashes))

namespace Tx.Course

variable {α β : Type} {already : α → Bool} {reports : Store → List Registration → α → Prop}
  {asks : Class → Edit → Prop} {s : Session} {a : α} {c : Class} {e : Edit}

theorem drop (found : already a = true) : Course already reports asks s (pure (.drop a)) :=
  .leaves a s.draws s.clashes found fun _ => rfl

/-- A check before a course belongs to it. -/
theorem bind {p : Tx β} {f : β → Tx (Verdict α)} (hp : IsCheck p) (alone : s.rival = none)
    {draws₀ : Draws} {clashes₀ : Nat}
    (h : ∀ b draws clashes, runOn p (s.drawn draws₀ clashes₀) = (.ok b, s.drawn draws clashes) →
      Course already reports asks (s.drawn draws clashes) (f b)) :
    Course already reports asks (s.drawn draws₀ clashes₀) (p >>= f) := by
  obtain ⟨draws, clashes, hs⟩ := hp.leaves (s.drawn draws₀ clashes₀) alone
  -- the check goes the same way whatever the budget, and what it draws is drawn for all of them
  have hlim := fun budget => hp.blind (s.drawn draws₀ clashes₀) budget alone
  cases hr : runOn p (s.drawn draws₀ clashes₀) with
  | mk r t =>
    rw [hr] at hs hlim
    obtain rfl : t = s.drawn draws clashes := hs
    cases r with
    | error e => exact .fails e draws clashes fun budget => runOn_bind_error (hlim budget)
    | ok b =>
      have hf : ∀ budget, runOn (p >>= f) ((s.drawn draws₀ clashes₀).limited budget) =
          runOn (f b) ((s.drawn draws clashes).limited budget) :=
        fun budget => runOn_bind_ok (hlim budget)
      -- so the course is that of what comes after the check
      cases h b draws clashes hr with
      | fails e draws clashes runs =>
        exact .fails e draws clashes fun budget => (hf budget).trans (runs budget)
      | leaves a draws clashes found runs =>
        exact .leaves a draws clashes found fun budget => (hf budget).trans (runs budget)
      | writes c e a draws clashes asked reported kept short =>
        refine .writes c e a draws clashes asked reported
          (fun budget affords => (hf budget).trans (kept budget affords)) fun budget h => ?_
        rw [hf budget]
        exact short budget h

/-- An edit, then a rebalance, then the answer. -/
theorem write_rebalance {x : Tx β} {b : β} {f : β → List Registration → Tx (Verdict α)}
    (alone : s.rival = none) (stored : s.store.classes.get? c.id = some c) (asked : asks c e)
    (hr : e.reseats = true) (hx : ∀ budget, Writes x b e c (s.limited budget))
    (reported : reports (e.result c s.now s.store) (e.promoted c s.now s.store) a)
    (answer : ∀ t, t.registrations = (e.result c s.now s.store).registrations →
      runOn (f b (e.promoted c s.now s.store)) { s with store := t } =
        (.ok (.keep a (e.promoted c s.now s.store)), { s with store := t })) :
    Course already reports asks s
      (do let b ← x; let promoted ← rebalance c.id; f b promoted) := by
  -- what is written does not depend on the budget of the copy
  have hw : ∀ budget, e.writes c (s.limited budget).now (s.limited budget).store =
      e.writes c s.now s.store := e.writes_limited c s.now s.store
  have hp : ∀ budget, e.promoted c (s.limited budget).now (s.limited budget).store =
      e.promoted c s.now s.store := e.promoted_limited c s.now s.store
  have hs : ∀ budget, e.result c (s.limited budget).now (s.limited budget).store =
      (e.result c s.now s.store).limited budget := e.result_limited c s.now s.store
  refine .writes c e a s.draws s.clashes asked reported (fun budget affords => ?_)
    fun budget h => ?_
  · have hrun := (hx budget).runOn_rebalance alone stored hr f (by rw [hw]; exact affords)
    rw [hw, hp, hs] at hrun
    exact hrun.trans (answer _ rfl)
  · exact (hx budget).runOn_rebalance_of_not_affords alone stored hr f (by rw [hw]; exact h)

/-- An edit that no rebalance follows, then the answer. -/
theorem write {x : Tx β} {b : β} (asked : asks c e) (hr : e.reseats = false)
    (hx : ∀ budget, Writes x b e c (s.limited budget))
    (reported : reports (e.result c s.now s.store) [] a) :
    Course already reports asks s (x >>= fun _ => pure (.keep a [])) := by
  -- without a rebalance only the row of the edit is paid for, and nobody gets a seat
  have hp : e.promoted c s.now s.store = [] := by
    rw [Edit.promoted, if_neg (by simp [hr])]
  have hw : e.writes c s.now s.store = e.rows := by
    rw [Edit.writes, Edit.changes, if_neg (by simp [hr])]
    rfl
  have hs : ∀ budget, (e.result c s.now s.store).limited budget =
      e.apply c s.now (s.store.limited budget) := by
    intro budget
    rw [← Edit.result_limited, Edit.result, if_neg (by simp [hr])]
  refine .writes c e a s.draws s.clashes asked (by rwa [hp]) (fun budget affords => ?_)
    fun budget h => ?_
  · rw [hw] at affords ⊢
    rw [hp, hs, runOn_bind_ok ((hx budget).of_affords affords)]
    rfl
  · rw [hw] at h
    obtain ⟨store, hstore⟩ := (hx budget).of_not_affords h
    exact ⟨store, runOn_bind_error hstore⟩

end Tx.Course

/-! ### The checks of a new registration -/

/-- Why a child cannot be registered for a stored class: it is, or the day of the class has no
bounds, or it has a booking on that day. -/
def Store.conflict? (s : Store) (childId : Int) (c : Class) (zone : Offset) : Option Error :=
  if s.hasActive childId c.id then some (.duplicate childId c.id)
  else if !c.date.hasDayBounds zone then some .outOfRange
  else Conflict.find? childId c (s.bookingsBetween childId (c.date.dayBounds zone).1
    (c.date.dayBounds zone).2) zone

namespace Enrollment

open Tx

variable {s t : Session}

theorem isCheck_child (childId : Int) : IsCheck (child childId) :=
  .bind (.ask fun _ _ => rfl) fun c => by
    cases c with
    | none => exact .throw _
    | some c => exact .pure c

theorem child_cases (s : Session) (childId : Int) :
    (s.store.children.get? childId = none ∧
      runOn (child childId) s = (.error (.childNotFound childId), s)) ∨
    ∃ c, s.store.children.get? childId = some c ∧ runOn (child childId) s = (.ok c, s) := by
  unfold child
  rw [runOn_bind_ok (runOn_ask _ s)]
  cases s.store.children.get? childId with
  | none => exact .inl ⟨rfl, rfl⟩
  | some c => exact .inr ⟨c, rfl, rfl⟩

theorem of_runOn_child {childId : Int} {c : Child} (h : runOn (child childId) s = (.ok c, t)) :
    s.store.children.get? childId = some c := by
  rcases child_cases s childId with ⟨-, hrun⟩ | ⟨k, known, hrun⟩
  · exact nomatch hrun.symm.trans h
  · obtain ⟨⟨rfl⟩, -⟩ := Prod.mk.inj (hrun.symm.trans h)
    exact known

theorem isCheck_requireOpen (c : Class) : IsCheck (requireOpen c) := by
  unfold requireOpen
  split
  · exact .bind .now fun _ => .ite (.throw _) (.pure _)
  · exact .pure _

theorem requireOpen_cases (s : Session) (c : Class) :
    (∃ opensAt, c.signupOpensAt = some opensAt ∧ s.now < opensAt ∧
      runOn (requireOpen c) s = (.error (.signupNotOpen c.id opensAt), s)) ∨
    (c.isSignupOpen s.now = true ∧ runOn (requireOpen c) s = (.ok ⟨⟩, s)) := by
  unfold requireOpen
  cases opens : c.signupOpensAt with
  | none =>
    refine .inr ⟨?_, rfl⟩
    unfold Class.isSignupOpen
    rw [opens]
  | some opensAt =>
    dsimp only
    rw [runOn_bind_ok (runOn_now s)]
    cases opened : c.isSignupOpen s.now with
    | true => exact .inr ⟨rfl, rfl⟩
    | false =>
      unfold Class.isSignupOpen at opened
      rw [opens] at opened
      exact .inl ⟨opensAt, rfl, Int.not_le.1 (of_decide_eq_false opened), rfl⟩

theorem of_runOn_requireOpen {c : Class} {u : Unit} (h : runOn (requireOpen c) s = (.ok u, t)) :
    c.isSignupOpen s.now = true := by
  rcases requireOpen_cases s c with ⟨opensAt, -, -, hrun⟩ | ⟨opened, -⟩
  · exact nomatch hrun.symm.trans h
  · exact opened

theorem isCheck_checkConflicts (childId classId : Int) (zone : Offset) :
    IsCheck (checkConflicts childId classId zone) := by
  unfold checkConflicts
  refine .bind (.ask fun _ _ => rfl) fun target => ?_
  cases target with
  | none => exact .throw _
  | some target =>
    -- what follows a failed check stands in the text too
    refine .bind (.ask fun _ _ => rfl) fun doubled =>
      .ite (.bind (.throw _) fun _ => .ite (.bind (.throw _) fun _ => ?_) ?_)
        (.ite (.bind (.throw _) fun _ => ?_) ?_)
    all_goals
      refine .bind (.ask fun _ _ => rfl) fun bookings => ?_
      split
      · exact .throw _
      · exact .pure _

/-- A check of conflicts only looks, and fails by what it finds first. -/
theorem runOn_checkConflicts {c : Class} (hc : s.store.classes.get? c.id = some c) (childId : Int)
    (zone : Offset) :
    runOn (checkConflicts childId c.id zone) s =
      match s.store.conflict? childId c zone with
      | some e => (.error e, s)
      | none => (.ok ⟨⟩, s) := by
  unfold checkConflicts Store.conflict?
  rw [runOn_bind_ok (runOn_ask _ s), hc]
  dsimp only
  rw [runOn_bind_ok (runOn_ask _ s)]
  cases s.store.hasActive childId c.id with
  | true => rfl
  | false =>
    cases c.date.hasDayBounds zone with
    | false => rfl
    | true =>
      rw [if_neg Bool.false_ne_true, if_neg Bool.false_ne_true, if_neg (by decide),
        if_neg (by decide), runOn_bind_ok (runOn_ask _ s)]
      cases Conflict.find? childId c (s.store.bookingsBetween childId (c.date.dayBounds zone).1
        (c.date.dayBounds zone).2) zone <;> rfl

theorem of_runOn_checkConflicts {childId : Int} {c : Class} {zone : Offset} {u : Unit}
    (hc : s.store.classes.get? c.id = some c)
    (h : runOn (checkConflicts childId c.id zone) s = (.ok u, t)) :
    s.store.hasActive childId c.id = false ∧
      Conflict.find? childId c (s.store.bookingsBetween childId (c.date.dayBounds zone).1
        (c.date.dayBounds zone).2) zone = none := by
  rw [runOn_checkConflicts hc] at h
  split at h
  · exact nomatch h
  · next none =>
    unfold Store.conflict? at none
    split at none
    · exact nomatch none
    · next single =>
      split at none
      · exact nomatch none
      · exact ⟨Bool.eq_false_iff.2 single, none⟩

/-- A capacity that is set, and the rebalance after it, if the budget covers their writes. -/
theorem runOn_setCapacity {c : Class} (alone : s.rival = none)
    (stored : s.store.classes.get? c.id = some c) (capacity : Int)
    (affords : s.store.Affords ((Edit.setCapacity capacity).writes c s.now s.store)) :
    runOn (setCapacity c.id capacity) s =
      (.ok (.keep ((Edit.setCapacity capacity).promoted c s.now s.store)
        ((Edit.setCapacity capacity).promoted c s.now s.store)), { s with
          store := ((Edit.setCapacity capacity).result c s.now s.store).spend
            ((Edit.setCapacity capacity).writes c s.now s.store) }) := by
  unfold setCapacity
  rw [runOn_bind_ok (runOn_discard_lockClass alone stored),
    (writes_setCapacity stored).runOn_rebalance alone stored rfl _ affords]
  rfl

theorem isCheck_freeCode? (word : String) (n : Nat) : IsCheck (freeCode? word n) := by
  induction n with
  | zero => exact .pure _
  | succ n ih => exact .bind .draw fun d => .bind (.codeExists _) fun taken => .ite ih (.pure _)

theorem isCheck_freeCode (st : EnrollmentSettings) : IsCheck (freeCode st) :=
  .bind (isCheck_freeCode? _ _) fun code => by
    cases code with
    | none => exact .throw _
    | some code => exact .pure code

/-- A question with the answer no was put to the store. -/
theorem of_runOn_codeExists {code : String} (h : runOn (codeExists code) s = (.ok false, t)) :
    s.store.codeExists code = false ∧ t = s := by
  obtain ⟨store, now, draws, clashes, rival⟩ := s
  cases clashes with
  | zero =>
    obtain ⟨hcode, ht⟩ := Prod.mk.inj h
    exact ⟨Except.ok.inj hcode, ht.symm⟩
  | succ n => exact nomatch (Except.ok.inj (Prod.mk.inj h).1)

theorem of_runOn_freeCode? {word code : String} {n : Nat} (alone : s.rival = none)
    (h : runOn (freeCode? word n) s = (.ok (some code), t)) :
    (∃ d, code = RegistrationCode.make word d) ∧ s.store.codeExists code = false := by
  induction n generalizing s with
  | zero => exact nomatch h
  | succ n ih =>
    rw [freeCode?, runOn_bind_ok (runOn_draw s)] at h
    obtain ⟨taken, t', ht, h⟩ := runOn_bind_eq_ok h
    cases taken with
    | true =>
      -- the next round starts from the same store
      obtain ⟨draws, clashes, hs⟩ :=
        (IsCheck.codeExists _).leaves (s.drawn s.draws.next.2 s.clashes) alone
      rw [ht] at hs
      obtain rfl : t' = _ := hs
      exact ih (s := s.drawn draws clashes) alone h
    | false =>
      obtain ⟨hfree, rfl⟩ := of_runOn_codeExists ht
      obtain ⟨⟨rfl⟩, -⟩ := Prod.mk.inj h
      exact ⟨⟨_, rfl⟩, hfree⟩

theorem of_runOn_freeCode {st : EnrollmentSettings} {code : String} (alone : s.rival = none)
    (h : runOn (freeCode st) s = (.ok code, t)) :
    (∃ d, code = RegistrationCode.make st.codeWord d) ∧ s.store.codeExists code = false := by
  obtain ⟨found, t', hfound, h⟩ := runOn_bind_eq_ok h
  cases found with
  | none => exact nomatch h
  | some found =>
    obtain ⟨⟨rfl⟩, -⟩ := Prod.mk.inj h
    exact of_runOn_freeCode? alone hfound

end Enrollment

/-! ### The course of every operation -/

namespace Operation

variable {st : EnrollmentSettings} {s : Session}

theorem course_create (alone : s.rival = none) (childId classId : Int) :
    Tx.Course (create childId classId).foundCanceled (create childId classId).Reports
      (Asks st s.now s.store (create childId classId)) (s.drawn s.draws s.clashes)
      (Enrollment.create st childId classId) := by
  unfold Enrollment.create
  refine .bind (.lockClass classId) alone fun c _ _ hc => ?_
  obtain ⟨rfl, stored⟩ := Tx.of_runOn_lockClass alone hc
  refine .bind (Enrollment.isCheck_child childId) alone fun child _ _ hchild => ?_
  have known := Enrollment.of_runOn_child hchild
  refine .bind (Enrollment.isCheck_requireOpen c) alone fun _ _ _ hopen => ?_
  have isOpen := Enrollment.of_runOn_requireOpen hopen
  refine .bind (.lift st.zone) alone fun zone _ _ hzone => ?_
  have zoned : st.zone = .ok zone := (Prod.mk.inj hzone).1
  refine .bind (Enrollment.isCheck_checkConflicts childId c.id zone) alone fun _ _ _ hconf => ?_
  obtain ⟨single, apart⟩ := Enrollment.of_runOn_checkConflicts (by exact stored) hconf
  refine .bind (.ask fun _ _ => rfl) alone fun taken _ _ htaken => ?_
  obtain rfl : s.store.confirmedCount c.id = taken := Except.ok.inj (Prod.mk.inj htaken).1
  refine .bind (Enrollment.isCheck_freeCode st) alone fun code draws clashes hcode => ?_
  obtain ⟨drawn, free⟩ := Enrollment.of_runOn_freeCode (by exact alone) hcode
  -- all checks have passed; none of them has changed the store
  let new : NewRegistration := ⟨child.parentId, childId, c.id, s.store.startingStatus c, code⟩
  have asks : Asks st s.now s.store (create childId c.id) c (.insert new) :=
    .create stored known isOpen zoned single apart drawn free
  obtain ⟨row, hrow, hid⟩ := Edit.exists_get?_result (e := .insert new) rfl c s.now s.store
    (by rw [Edit.get?_apply_insert, if_pos rfl])
  let placed : Placement := ⟨row, ((Edit.insert new).result c s.now s.store).position? row⟩
  refine .write_rebalance (a := placed) (b := new.stored (s.store.lastRegistrationId + 1) s.now)
    alone stored asks rfl (fun budget => Tx.writes_insert
      (s := (s.drawn draws clashes).limited budget) stored free) ⟨hid, hrow, rfl⟩ fun t ht => ?_
  -- the answer is read back after the rebalance, which may have seated the child
  have hrow' : t.registrations.get? (s.store.lastRegistrationId + 1) = some row := by
    rw [ht, ← hid]
    exact hrow
  have hpos : t.position? row = placed.position := Store.position?_congr ht row
  rw [runOn_bind_ok (Tx.runOn_registration_of_get? hrow'), runOn_bind_ok (Tx.runOn_ask _ _), hpos]
  rfl

/-- A cancellation, however the registration was found. -/
theorem course_cancelFound {asks : Class → Edit → Prop} {found : Registration}
    (alone : s.rival = none) (hfound : s.store.registrations.get? found.id = some found)
    (hasks : ∀ c : Class, s.store.classes.get? c.id = some c → found.classId = c.id →
      found.status ≠ .canceled → asks c (.cancel found)) :
    Tx.Course Cancellation.already (fun final promoted a => a.already = false ∧
      a.promoted = promoted ∧ final.registrations.get? a.registration.id = some a.registration)
      asks (s.drawn s.draws s.clashes) (Enrollment.cancelFound found) := by
  unfold Enrollment.cancelFound
  split
  · exact .drop rfl
  · next active =>
    refine .bind (.discard (.lockClass _)) alone fun _ _ _ hc => ?_
    obtain ⟨c, place, stored⟩ := Tx.of_runOn_discard_lockClass (by exact alone) hc
    refine .bind (.registration _) alone fun current draws clashes hcurrent => ?_
    -- read again once the class is locked, it is the registration that was found
    obtain rfl : found = current := by
      have hsame := Tx.of_runOn_registration hcurrent
      exact Option.some.inj (hfound.symm.trans hsame)
    rw [if_neg active, ← place]
    obtain ⟨row, hrow, hid⟩ := Edit.exists_get?_result (e := .cancel found) rfl c s.now s.store
      (by rw [Edit.get?_apply_cancel, if_pos rfl])
    let answer : Cancellation := ⟨row, false, (Edit.cancel found).promoted c s.now s.store⟩
    refine .write_rebalance (a := answer) (b := ⟨⟩) alone stored
      (hasks c stored place.symm active) rfl (fun budget => Tx.writes_cancel
        (s := (s.drawn draws clashes).limited budget) hfound) ⟨rfl, rfl, hrow⟩ fun t ht => ?_
    have hrow' : t.registrations.get? found.id = some row := by
      rw [ht, ← hid]
      exact hrow
    rw [runOn_bind_ok (Tx.runOn_registration_of_get? hrow')]
    rfl

theorem course_setCapacity (alone : s.rival = none) (classId capacity : Int) :
    Tx.Course (setCapacity classId capacity).foundCanceled (setCapacity classId capacity).Reports
      (Asks st s.now s.store (setCapacity classId capacity)) (s.drawn s.draws s.clashes)
      (Enrollment.setCapacity classId capacity) := by
  unfold Enrollment.setCapacity
  refine .bind (.discard (.lockClass classId)) alone fun _ draws clashes hc => ?_
  obtain ⟨c, rfl, stored⟩ := Tx.of_runOn_discard_lockClass (by exact alone) hc
  exact .write_rebalance (a := (Edit.setCapacity capacity).promoted c s.now s.store) (b := ⟨⟩)
    alone stored (.setCapacity stored capacity) rfl
    (fun budget => Tx.writes_setCapacity (s := (s.drawn draws clashes).limited budget) stored)
    rfl fun t ht => rfl

theorem course_checkIn (alone : s.rival = none) (code : String) :
    Tx.Course (checkIn code).foundCanceled (checkIn code).Reports
      (Asks st s.now s.store (checkIn code)) (s.drawn s.draws s.clashes)
      (Enrollment.checkIn code) := by
  unfold Enrollment.checkIn
  refine .bind (.registrationByCode _) alone fun found _ _ hfound => ?_
  have hfound := Tx.of_runOn_registrationByCode hfound
  refine .bind (.discard (.lockClass _)) alone fun _ _ _ hc => ?_
  obtain ⟨c, place, stored⟩ := Tx.of_runOn_discard_lockClass (by exact alone) hc
  refine .bind (.registration _) alone fun current _ _ hcurrent => ?_
  obtain rfl : found = current := by
    have hsame := Tx.of_runOn_registration hcurrent
    exact Option.some.inj ((Store.get?_of_registrationByCode hfound).symm.trans hsame)
  dsimp only
  split
  · exact .bind (.throw _) alone fun _ _ _ h => nomatch h
  · next sits =>
    split
    · exact .bind (.throw _) alone fun _ _ _ h => nomatch h
    · next absent =>
      refine .bind .now alone fun time draws clashes htime => ?_
      obtain rfl : s.now = time := Except.ok.inj (Prod.mk.inj htime).1
      have hfound' := Store.get?_of_registrationByCode hfound
      have hrow : ((Edit.checkIn found).result c s.now s.store).registrations.get? found.id =
          some (found.checkedIn s.now) :=
        (Edit.get?_apply_checkIn found c s.now s.store found.id).trans (if_pos rfl)
      exact .write (a := found.checkedIn s.now) (b := ⟨⟩)
        (.checkIn hfound stored place.symm (by simpa using sits) (by simpa using absent)) rfl
        (fun budget => Tx.writes_setCheckIn (s := (s.drawn draws clashes).limited budget) hfound')
        hrow

theorem course_delete (alone : s.rival = none) (id : Int) :
    Tx.Course (delete id).foundCanceled (delete id).Reports
      (Asks st s.now s.store (delete id)) (s.drawn s.draws s.clashes)
      (Enrollment.delete id) := by
  unfold Enrollment.delete
  refine .bind (.registration id) alone fun found _ _ hfound => ?_
  have hfound := Tx.of_runOn_registration hfound
  obtain rfl : found.id = id := Table.key_of_get? hfound
  refine .bind (.discard (.lockClass _)) alone fun _ draws clashes hc => ?_
  obtain ⟨c, place, stored⟩ := Tx.of_runOn_discard_lockClass (by exact alone) hc
  rw [← place]
  exact .write_rebalance (a := (Edit.delete found).promoted c s.now s.store) (b := ⟨⟩)
    alone stored (.delete hfound stored place.symm) rfl
    (fun budget => Tx.writes_delete (s := (s.drawn draws clashes).limited budget) found)
    rfl fun t ht => rfl

theorem course_rebalance (alone : s.rival = none) (classId : Int) :
    Tx.Course (rebalance classId).foundCanceled (rebalance classId).Reports
      (Asks st s.now s.store (rebalance classId)) (s.drawn s.draws s.clashes)
      (Enrollment.rebalance classId) := by
  -- here the rebalance itself looks for the class
  cases hc : s.store.classes.get? classId with
  | none =>
    refine .fails (.classNotFound classId) s.draws s.clashes fun budget => ?_
    have hlock : runOn (Tx.lockClass classId) (s.limited budget) =
        (.error (.classNotFound classId), s.limited budget) := by
      have hc' : (s.limited budget).store.classes.get? classId = none := hc
      rw [Tx.runOn_lockClass (s := s.limited budget) alone, hc']
    exact runOn_bind_error (runOn_bind_error hlock)
  | some c =>
    obtain rfl : c.id = classId := Table.key_of_get? hc
    have asked : Asks st s.now s.store (rebalance c.id) c .nothing := .rebalance hc
    have h : Tx.Course (rebalance c.id).foundCanceled (rebalance c.id).Reports
        (Asks st s.now s.store (rebalance c.id)) s
        ((pure () : Tx Unit) >>= fun _ => Tx.rebalance c.id >>= fun promoted =>
          pure (.keep promoted promoted)) :=
      .write_rebalance (a := Edit.nothing.promoted c s.now s.store) (b := ()) alone hc asked rfl
        (fun budget => Tx.writes_nothing (s.limited budget) c) rfl fun t ht => rfl
    rwa [pure_bind] at h

/-- **Every operation takes its course**, and it is the same whatever the budget. -/
theorem course (st : EnrollmentSettings) (op : Operation) (alone : s.rival = none) :
    Tx.Course op.foundCanceled op.Reports (Asks st s.now s.store op) s (op.session st) := by
  cases op with
  | create childId classId => exact course_create alone childId classId
  | setCapacity classId capacity => exact course_setCapacity alone classId capacity
  | checkIn code => exact course_checkIn alone code
  | delete id => exact course_delete alone id
  | rebalance classId => exact course_rebalance alone classId
  | cancelByCode code =>
    change Tx.Course _ _ _ (s.drawn s.draws s.clashes) (Enrollment.cancelByCode code)
    refine .bind (.registrationByCode _) alone fun found draws clashes hfound => ?_
    have hfound := Tx.of_runOn_registrationByCode hfound
    exact course_cancelFound (s := s.drawn draws clashes) alone
      (Store.get?_of_registrationByCode hfound)
      fun c stored place active => .cancelByCode hfound stored place active
  | cancelById id =>
    change Tx.Course _ _ _ (s.drawn s.draws s.clashes) (Enrollment.cancelById id)
    refine .bind (.registration _) alone fun found draws clashes hfound => ?_
    have hfound := Tx.of_runOn_registration hfound
    obtain rfl : found.id = id := Table.key_of_get? hfound
    exact course_cancelFound (s := s.drawn draws clashes) alone hfound
      fun c stored place active => .cancelById hfound stored place active

end Operation

end EnrollmentDesk
