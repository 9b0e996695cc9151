import EnrollmentDesk.Proofs.Admission
import EnrollmentDesk.Proofs.Removal

/-!
# What passes its checks is carried out

`Operation.Passes` lists what has to be true for the checks of an operation to pass, and says which
edit of which class it then asks for. It speaks of the desk before the operation, and of no run and
no budget. The checks of a registration pass exactly if nothing can be said against it up to the
draws (`Operation.Passes.clear`, `Objection.Clear.passes`).

Once they have passed, only the budget is left to decide. The session of each operation is followed
to its end both ways (`Tx.Pays`): if the budget covers the edit and the rebalance after it, the
session is kept, and if not, it fails at one of the writes.

## Main statements

* `Operation.Passes.carriedOut_iff` — an operation whose checks pass is carried out exactly if the
  budget covers its writes;
* `Operation.passes_of_carriedOut` — and what is carried out has passed them.
-/

namespace EnrollmentDesk

/-! ### The checks -/

namespace Operation

variable {st : EnrollmentSettings} {d : Desk} {op : Operation} {c : Class} {e : Edit}

/-- All checks of an operation pass, and it asks for an edit of a class. `Asks` says less: that an
operation which does get through has found this much. -/
inductive Passes (st : EnrollmentSettings) (d : Desk) : Operation → Class → Edit → Prop
  /-- The class and the child are stored and signup is open. The zone of the families and the day of
  the class are in range, and on this day the child has no class. Of the draws one is good: the child
  is registered under the code of the first of these. -/
  | create {child : Child} {c : Class} {zone : Offset} {i : Nat}
      (stored : d.store.classes.get? c.id = some c)
      (known : d.store.children.get? child.id = some child)
      (isOpen : c.isSignupOpen d.now = true) (zoned : st.zone = .ok zone)
      (single : d.store.hasActive child.id c.id = false)
      (dated : c.date.hasDayBounds zone = true)
      (apart : ∀ b ∈ d.store.bookingsOf child.id, ¬ Store.Booking.Meets b c zone)
      (found : d.session.FirstFree st.codeWord st.attempts i) :
      Passes st d (create child.id c.id) c (.insert (d.newcomer st child c i))
  /-- Any other operation passes what is looked at before a session is opened, and then what is looked
  at in the store. -/
  | other {op : Operation} {c : Class} {e : Edit}
      (others : ∀ childId classId, op ≠ create childId classId) (sound : op.precheck = .ok ())
      (asked : op.Asks st d.now d.store c e) : Passes st d op c e

namespace Passes

theorem asked (h : op.Passes st d c e) : op.Asks st d.now d.store c e := by
  cases h with
  | other others sound asked => exact asked
  | create stored known isOpen zoned single dated apart found =>
    have free := (Store.find?_conflict single _).resolve_left
      fun ⟨b, first, _⟩ => apart b first.booked first.meets
    exact .create stored known isOpen zoned single free.2 ⟨_, rfl⟩
      (Store.codeExists_eq_false_iff.2 found.free.2)

theorem sound (h : op.Passes st d c e) : op.precheck = .ok () := by
  cases h with
  | create => rfl
  | other others sound asked => exact sound

end Passes

/-- No check looks at the budget. -/
theorem Asks.limited {now : Instant} {s : Store} (h : Asks st now s op c e)
    (budget : Option Nat) : Asks st now (s.limited budget) op c e := by
  cases h with
  | create stored known isOpen local_ single apart drawn free =>
    exact .create stored known isOpen local_ single apart drawn free
  | cancelByCode found stored place active => exact .cancelByCode found stored place active
  | cancelById found stored place active => exact .cancelById found stored place active
  | setCapacity stored capacity => exact .setCapacity (s := s.limited budget) stored capacity
  | checkIn found stored place sits absent => exact .checkIn found stored place sits absent
  | delete found stored place => exact .delete found stored place
  | rebalance stored => exact .rebalance stored

theorem Passes.limited (h : op.Passes st d c e) (budget : Option Nat) :
    op.Passes st (d.limited budget) c e := by
  cases h with
  | create stored known isOpen zoned single dated apart found =>
    exact .create stored known isOpen zoned single dated apart
      ⟨found.within, found.free, found.first⟩
  | other others sound asked => exact .other others sound (asked.limited budget)

/-! ### The checks of a registration -/

variable {childId classId : Int}

/-- If the checks of a registration pass, nothing is said against it up to the draws. -/
theorem Passes.clear (h : (Operation.create childId classId).Passes st d c e) (online : d.online = true) :
    Objection.Clear st d childId classId 9 := by
  intro k hk _ _ said
  cases h with
  | other others => exact others _ _ rfl
  | create stored known isOpen zoned single dated apart found =>
    cases said with
    | offline offline => exact nomatch offline.symm.trans online
    | noClass absent => exact nomatch absent.symm.trans stored
    | noChild absent => exact nomatch absent.symm.trans known
    | tooEarly stored' opens early =>
      obtain rfl := Option.some.inj (stored'.symm.trans stored)
      unfold Class.isSignupOpen at isOpen
      rw [opens] at isOpen
      exact Int.not_le.2 early (of_decide_eq_true isOpen)
    | noZone failed => exact nomatch failed.symm.trans zoned
    | doubled hr active child place =>
      exact Store.hasActive_eq_false_iff.1 single _ hr active child place
    | endless stored' zoned' endless =>
      obtain rfl := Option.some.inj (stored'.symm.trans stored)
      obtain rfl := Except.ok.inj (zoned'.symm.trans zoned)
      exact nomatch endless.symm.trans dated
    | sameDay stored' zoned' first =>
      obtain rfl := Option.some.inj (stored'.symm.trans stored)
      obtain rfl := Except.ok.inj (zoned'.symm.trans zoned)
      exact apart _ first.booked first.meets
    | noCode taken => exact taken _ found.within found.free
    | unpaid | notKept => exact absurd hk (by decide)

end Operation

section

variable {st : EnrollmentSettings} {d : Desk} {childId classId : Int}

/-- Only after a draw can the budget or the commit be short. -/
theorem Objection.lt_of_undrawn {k n : Nat} {e : Error}
    (h : Objection st d childId classId k e n) (undrawn : n = 0) : k < 9 := by
  cases h with
  | unpaid | notKept => exact absurd undrawn (Nat.succ_ne_zero _)
  | offline | noClass | noChild | tooEarly | noZone | doubled | endless | sameDay | noCode => decide

/-- If nothing is said against a registration up to the draws, its checks pass. -/
theorem Objection.Clear.passes (clear : Clear st d childId classId 9) :
    ∃ c e, (Operation.create childId classId).Passes st d c e := by
  -- a check that failed would be an objection
  cases stored : d.store.classes.get? classId with
  | none => exact absurd (.noClass stored) (clear 1 (by decide) _ _)
  | some c =>
    cases known : d.store.children.get? childId with
    | none => exact absurd (.noChild known) (clear 2 (by decide) _ _)
    | some child =>
      obtain rfl : c.id = classId := Table.key_of_get? stored
      obtain rfl : child.id = childId := Table.key_of_get? known
      cases zoned : st.zone with
      | error e => exact absurd (.noZone zoned) (clear 4 (by decide) _ _)
      | ok zone =>
        have isOpen : c.isSignupOpen d.now = true := by
          rcases Enrollment.requireOpen_cases d.session c with ⟨opensAt, opens, early, -⟩ | ⟨h, -⟩
          · exact absurd (.tooEarly stored opens early) (clear 3 (by decide) _ _)
          · exact h
        have single : d.store.hasActive child.id c.id = false := by
          rw [Store.hasActive_eq_false_iff]
          intro r hr active hchild place
          exact clear 5 (by decide) _ _ (.doubled hr active hchild place)
        have dated : c.date.hasDayBounds zone = true := by
          by_contra endless
          exact clear 6 (by decide) _ _ (.endless stored zoned (by simpa using endless))
        have apart : ∀ b ∈ d.store.bookingsOf child.id, ¬ Store.Booking.Meets b c zone := by
          rcases Store.find?_conflict single zone with ⟨b, first, -⟩ | ⟨none, -⟩
          · exact absurd (.sameDay stored zoned first) (clear 7 (by decide) _ _)
          · exact none
        rcases Enrollment.runOn_freeCode st d.session with ⟨i, found, -⟩ | ⟨taken, -⟩
        · exact ⟨c, _, .create stored known isOpen zoned single dated apart found⟩
        · exact absurd (.noCode taken) (clear 8 (by decide) _ _)

end

/-! ### Sessions that only the budget decides about -/

namespace Tx

/-- Only the budget is left to decide about a session: either it is kept, with an answer other than
that the registration was canceled before, and has written an edit of a class and the rebalance
after it, or it fails. -/
structure Pays {α : Type} (already : α → Bool) (work : Tx (Verdict α)) (c : Class) (e : Edit)
    (s : Session) : Prop where
  paid : s.store.Affords (e.writes c s.now s.store) →
    ∃ a t, already a = false ∧ runOn work s = (.ok (.keep a (e.promoted c s.now s.store)), t) ∧
      t.store = (e.result c s.now s.store).spend (e.writes c s.now s.store)
  short : ¬ s.store.Affords (e.writes c s.now s.store) →
    ∃ t, runOn work s = (.error (.storage .budgetExhausted), t)

variable {α β : Type} {already : α → Bool} {work work' : Tx (Verdict α)} {c : Class} {e : Edit}
  {s : Session}

theorem Pays.congr (h : Pays already work c e s) (same : runOn work' s = runOn work s) :
    Pays already work' c e s := by
  refine ⟨?_, ?_⟩ <;> rw [same]
  · exact h.paid
  · exact h.short

/-- An edit, the rebalance after it, and an answer. -/
theorem Writes.pays {x : Tx β} {b : β} (hx : Writes x b e c s) (alone : s.rival = none)
    (stored : s.store.classes.get? c.id = some c) (hr : e.reseats = true)
    {answer : List Registration → α} (fresh : ∀ promoted, already (answer promoted) = false) :
    Pays already (do let _ ← x; let promoted ← rebalance c.id
                     pure (.keep (answer promoted) promoted)) c e s where
  paid affords := ⟨_, _, fresh _, hx.runOn_rebalance alone stored hr _ affords, rfl⟩
  short short := by
    obtain ⟨store, hrun⟩ := hx.runOn_rebalance_of_not_affords alone stored hr _ short
    exact ⟨_, hrun⟩

/-- What takes a registration out of its class does so at the cost of a cancellation. -/
theorem TakesOut.pays {r : Registration} {answers : List Registration → α → Prop}
    (h : TakesOut work e r answers s) (stored : s.store.classes.get? c.id = some c)
    (place : r.classId = c.id)
    (writes : e.writes c s.now s.store = (Edit.cancel r).writes c s.now s.store)
    (promoted : e.promoted c s.now s.store = (Edit.cancel r).promoted c s.now s.store)
    (fresh : ∀ promoted a, answers promoted a → already a = false) : Pays already work c e s where
  paid affords := by
    rw [writes] at affords ⊢
    obtain ⟨a, answered, hrun⟩ := h.paid stored place affords
    rw [promoted]
    exact ⟨a, _, fresh _ a answered, hrun, rfl⟩
  short short := by
    rw [writes] at short
    obtain ⟨store, hrun⟩ := h.short stored place short
    exact ⟨_, hrun⟩

end Tx

namespace Enrollment

open Tx

section Seated

variable {s : Session} {c : Class} {r : Registration} (alone : s.rival = none)
  (stored : s.store.classes.get? c.id = some c) (place : r.classId = c.id)

include alone stored

theorem pays_setCapacity (capacity : Int) :
    Pays (fun _ => false) (setCapacity c.id capacity) c (.setCapacity capacity) s :=
  ((writes_setCapacity stored).pays alone stored rfl fun _ => rfl).congr
    (runOn_bind_ok (runOn_discard_lockClass alone stored))

theorem pays_rebalance : Pays (fun _ => false) (rebalance c.id) c .nothing s :=
  ((writes_nothing s c).pays alone stored rfl fun _ => rfl).congr rfl

include place

theorem pays_cancelFound (found : s.store.registrations.get? r.id = some r)
    (active : r.status ≠ .canceled) :
    Pays Cancellation.already (cancelFound r) c (.cancel r) s :=
  (takesOut_cancelFound alone found active).pays stored place rfl rfl fun _ _ h => h.1

theorem pays_delete (found : s.store.registrations.get? r.id = some r) :
    Pays (fun _ => false) (delete r.id) c (.delete r) s :=
  (takesOut_delete alone found).pays stored place (Edit.writes_delete place _)
    (Edit.promoted_delete place _) fun _ _ _ => rfl

/-- A check-in is one write, and no rebalance comes after it. -/
theorem pays_checkIn {code : String} (found : s.store.registrationByCode (Text.trim code) = some r)
    (sits : r.status = .confirmed) (absent : r.isAnchored = false) :
    Pays (fun _ => false) (checkIn code) c (.checkIn r) s := by
  have hfound := Store.get?_of_registrationByCode found
  have hwrite : runOn (checkIn code) s =
      runOn (setCheckIn r.id s.now >>= fun _ => pure (.keep (r.checkedIn s.now) [])) s := by
    unfold checkIn
    rw [runOn_bind_ok (runOn_registrationByCode_of_found found), place,
      runOn_bind_ok (runOn_discard_lockClass alone stored),
      runOn_bind_ok (runOn_registration_of_get? hfound)]
    dsimp only
    rw [if_neg (not_not.2 sits), absent, if_neg Bool.false_ne_true, runOn_bind_ok (runOn_now s)]
    rfl
  have writes := writes_setCheckIn (c := c) hfound
  refine Pays.congr ⟨fun affords => ?_, fun short => ?_⟩ hwrite
  · rw [runOn_bind_ok (writes.of_affords affords)]
    exact ⟨_, _, rfl, rfl, rfl⟩
  · obtain ⟨store, hrun⟩ := writes.of_not_affords short
    exact ⟨_, runOn_bind_error hrun⟩

end Seated

/-- A registration that nothing is said against up to the draws is put in under the code of the first
good one. -/
theorem pays_create {st : EnrollmentSettings} {d : Desk} {c : Class} {child : Child} {i : Nat}
    (alone : d.rival = none) (stored : d.store.classes.get? c.id = some c)
    (known : d.store.children.get? child.id = some child)
    (found : d.session.FirstFree st.codeWord st.attempts i)
    (clear : Objection.Clear st d child.id c.id 9) :
    Pays (fun _ => false) (create st child.id c.id) c (.insert (d.newcomer st child c i))
      d.session := by
  have henter : runOn (create st child.id c.id) d.session = runOn (enter st child c) d.session := by
    rcases runOn_create alone fun k hk => clear k (by omega) with
      ⟨k, e, said, -, -⟩ | ⟨c', child', stored', known', -, hrun⟩
    · -- what is said before a draw would have been among what counts up to the draws
      exact absurd said (clear k (said.lt_of_undrawn rfl) _ _)
    · obtain rfl := Option.some.inj (stored.symm.trans stored')
      obtain rfl := Option.some.inj (known.symm.trans known')
      exact hrun
  rcases enter_cases st d child c with ⟨i', found', hput⟩ | ⟨taken, -⟩
  · obtain rfl := found.unique found'
    have free : (d.session.missed (i + 1)).store.codeExists (d.newcomer st child c i).code = false :=
      Store.codeExists_eq_false_iff.2 found.free.2
    constructor
    · intro affords
      obtain ⟨p, -, -, hrun⟩ := runOn_put (s := d.session.missed (i + 1)) alone stored rfl free
        affords
      exact ⟨p, _, rfl, (henter.trans hput).trans hrun, rfl⟩
    · intro short
      obtain ⟨store, hrun⟩ := runOn_put_of_short (s := d.session.missed (i + 1)) alone stored rfl
        free short
      exact ⟨_, (henter.trans hput).trans hrun⟩
  · exact absurd found.free (taken i found.within)

end Enrollment

namespace Operation

variable {st : EnrollmentSettings} {d : Desk} {op : Operation} {c : Class} {e : Edit}

/-- **If the checks of an operation pass, only the budget is left to decide.** -/
theorem Passes.pays (h : op.Passes st d c e) (alone : d.rival = none) (online : d.online = true) :
    Tx.Pays op.foundCanceled (op.session st) c e d.session := by
  cases h with
  | create stored known isOpen zoned single dated apart found =>
    have passes := Passes.create stored known isOpen zoned single dated apart found
    exact Enrollment.pays_create alone stored known found (passes.clear online)
  | other others sound asked =>
    cases asked with
    | create => exact absurd rfl (others _ _)
    | cancelByCode found stored place active =>
      have hfound := Store.get?_of_registrationByCode found
      exact (Enrollment.pays_cancelFound (s := d.session) alone stored place hfound active).congr
        (runOn_bind_ok (Tx.runOn_registrationByCode_of_found found))
    | cancelById found stored place active =>
      exact (Enrollment.pays_cancelFound (s := d.session) alone stored place found active).congr
        (runOn_bind_ok (Tx.runOn_registration_of_get? found))
    | setCapacity stored capacity =>
      exact Enrollment.pays_setCapacity (s := d.session) alone stored capacity
    | checkIn found stored place sits absent =>
      exact Enrollment.pays_checkIn (s := d.session) alone stored place found sits absent
    | delete found stored place =>
      exact Enrollment.pays_delete (s := d.session) alone stored place found
    | rebalance stored => exact Enrollment.pays_rebalance (s := d.session) alone stored

end Operation

/-! ### At the desk -/

/-- Only a desk that is online, and whose store takes the commit, changes its store. -/
theorem Service.takes_of_settle {α : Type} (work : Tx (Verdict α)) {d : Desk}
    (changed : (runOn (settle work) d).2.store ≠ d.store) :
    d.online = true ∧ d.commitFails = false := by
  cases online : d.online with
  | false =>
    refine absurd ?_ changed
    unfold settle
    rw [runOn_bind_error (runOn_connect_of_offline online)]
  | true =>
    cases fails : d.commitFails with
    | false => exact ⟨rfl, rfl⟩
    | true =>
      refine absurd ?_ changed
      rw [runOn_settle work online, fails]
      rcases runOn work d.session with ⟨_ | ⟨_ | _⟩, _⟩ <;> rfl

namespace Operation

variable {office : Office} {op : Operation} {d : Desk} {c : Class} {e : Edit}

/-- An operation whose first check passes runs its session. -/
theorem runOn_perform_of_precheck (office : Office) (sound : op.precheck = .ok ()) (d : Desk) :
    runOn (op.perform office) d =
      runOn (Service.perform office (op.session office.settings.enrollment)) d := by
  rw [op.runOn_perform office, runOn_settle_of_precheck _ op sound, Service.runOn_perform]

section Passes

variable (h : op.Passes office.settings.enrollment d c e) (alone : d.rival = none)
  (online : d.online = true)

include h alone online

/-- **What passes its checks is carried out**, if the budget covers its writes. -/
theorem Passes.carriedOut (commits : d.commitFails = false)
    (affords : d.store.Affords (e.writes c d.now d.store)) :
    op.carriedOut (runOn (op.perform office) d).1 = true ∧
      (runOn (op.perform office) d).2.store =
        (e.result c d.now d.store).committed (e.writes c d.now d.store) := by
  obtain ⟨a, t, fresh, hrun, ht⟩ := (h.pays alone online).paid affords
  obtain ⟨sent, hkeep⟩ := Service.runOn_perform_of_commits office online commits hrun
  rw [runOn_perform_of_precheck office h.sound, hkeep]
  refine ⟨?_, ?_⟩
  · rw [Operation.carriedOut, fresh]
    rfl
  · change { t.store with commits := t.store.commits + 1 } = _
    rw [ht]
    rfl

/-- If the budget does not cover its writes, one of them fails. -/
theorem Passes.budgetExhausted (short : ¬ d.store.Affords (e.writes c d.now d.store)) :
    (runOn (op.perform office) d).1 = .error (.storage .budgetExhausted) := by
  obtain ⟨t, hrun⟩ := (h.pays alone online).short short
  rw [runOn_perform_of_precheck office h.sound, Service.runOn_perform_of_error office online hrun]

/-- **Only the budget decides** about an operation whose checks pass. -/
theorem Passes.carriedOut_iff (commits : d.commitFails = false) :
    op.carriedOut (runOn (op.perform office) d).1 = true ↔
      d.store.Affords (e.writes c d.now d.store) := by
  refine ⟨fun carried => ?_, fun affords => (h.carriedOut alone online commits affords).1⟩
  by_contra short
  rw [h.budgetExhausted alone online short] at carried
  exact nomatch carried

end Passes

/-- A child who is registered has passed the checks. -/
theorem passes_of_carriedOut_create {childId classId : Int} (alone : d.rival = none)
    (carried : (create childId classId).carriedOut
      (runOn ((create childId classId).perform office) d).1 = true) :
    ∃ c e, (create childId classId).Passes office.settings.enrollment d c e := by
  rcases Objection.decides office alone childId classId with ⟨k, e, n, -, -, hfails⟩ | ⟨clear, -⟩
  · have hno : runOn ((create childId classId).perform office) d = _ := hfails
    rw [hno] at carried
    exact nomatch carried
  · exact Objection.Clear.passes fun k hk => clear k (by omega)

/-- **What is carried out has passed its checks**, at a desk that is online and whose store takes
the commit. -/
theorem passes_of_carriedOut (alone : d.rival = none)
    (carried : op.carriedOut (runOn (op.perform office) d).1 = true) :
    d.online = true ∧ d.commitFails = false ∧
      ∃ c e, op.Passes office.settings.enrollment d c e := by
  obtain ⟨x, mid, sent, heffect, hsettle, hrun⟩ := op.perform_effect office alone
  have hx : op.carriedOut (x.map Prod.fst) = true := by
    rw [hrun] at carried
    exact carried
  cases heffect with
  | fails => exact nomatch hx
  | leaves a draws clashes found =>
    have hno : (!op.foundCanceled a) = true := hx
    rw [found] at hno
    exact nomatch hno
  | writes c e a draws clashes sound asked reported affords =>
    -- the count of commits tells that the store is another
    have takes : d.online = true ∧ d.commitFails = false := by
      refine Service.takes_of_settle (op.session office.settings.enrollment) fun same => ?_
      rw [← runOn_settle_of_precheck _ op sound, hsettle] at same
      have hcount : (e.result c d.now d.store).commits + 1 = d.store.commits :=
        congrArg Store.commits same
      rw [e.commits_result] at hcount
      exact Nat.succ_ne_self _ hcount
    refine ⟨takes.1, takes.2, ?_⟩
    by_cases hop : ∃ childId classId, op = create childId classId
    · obtain ⟨childId, classId, rfl⟩ := hop
      exact passes_of_carriedOut_create alone carried
    · exact ⟨c, e, .other (fun childId classId h => hop ⟨childId, classId, h⟩) sound asked⟩

end Operation

end EnrollmentDesk
