import EnrollmentDesk.Proofs.Desk
import EnrollmentDesk.Proofs.Lineage
import EnrollmentDesk.Proofs.Standing

/-!
# To cancel and to remove

A registration can be given up in two ways. Canceled, it stays as a row with a status that never
changes again; removed, it is gone. The steps that do this are written apart, and what they leave is
not the same. To everyone else it makes no difference, whatever state the class is in.

A rebalance sees only who is active, and in the order of seating
(`Store.promoted_of_order_eq`). One who is canceled is no more in this order than one who is
removed, so both are followed by the same changes (`Edit.order_delete`). Each is one write of its
own, and so both cost the same too.

It remains to see that the sessions stop at the same checks. Both find the registration, lock its
class and pay for what they write; this is what `Tx.TakesOut` says of each.
-/

namespace EnrollmentDesk

open Seating

/-! ### What a rebalance sees -/

namespace Store

section Order

variable {s t : Store} {c : Class}
  (same : order (s.registrationsOf c.id) = order (t.registrationsOf c.id))

include same

theorem plan_of_order_eq : s.plan c = t.plan c := by
  unfold plan Seating.plan
  rw [same]

theorem due_of_order_eq : s.due c = t.due c := by
  funext r
  unfold due Seating.due
  rw [← rank_order, ← rank_order, same]

theorem promoted_of_order_eq : s.promoted c = t.promoted c := by
  unfold promoted
  rw [same, due_of_order_eq same]

theorem seatedRow_of_order_eq (now : Instant) : s.seatedRow c now = t.seatedRow c now := by
  funext r
  unfold seatedRow
  rw [due_of_order_eq same]

end Order

end Store

namespace Edit

variable {c : Class} {s : Store} {r : Registration} (place : r.classId = c.id) (now : Instant)

include place

/-- **Who is canceled is as little in the order of seating as who is removed.** -/
theorem order_delete :
    order (((delete r).apply c now s).registrationsOf c.id) =
      order (((cancel r).apply c now s).registrationsOf c.id) := by
  refine order_eq_of_perm (Store.nodup_registrationsOf _ _) ?_
  have hput : (((cancel r).apply c now s).registrationsOf c.id).Perm
      ((if c.id = c.id then [r.canceled now] else []) ++
        ((delete r).apply c now s).registrationsOf c.id) :=
    Store.filter_put (r := r.canceled now) place c.id
  -- the row that stays is not active
  have hgone : [r.canceled now].filter Registration.isActive = [] := rfl
  rw [if_pos rfl] at hput
  have hactive := hput.filter Registration.isActive
  rw [List.filter_append, hgone, List.nil_append] at hactive
  exact hactive.symm

theorem promoted_delete : (delete r).promoted c now s = (cancel r).promoted c now s :=
  Store.promoted_of_order_eq (order_delete place now)

theorem writes_delete : (delete r).writes c now s = (cancel r).writes c now s := by
  have hplan := Store.plan_of_order_eq (order_delete (s := s) place now)
  exact congrArg (fun p : Plan => 1 + p.changes.length) hplan

/-- All other rows are the same. -/
theorem get?_result_delete_of_ne {id : Int} (hid : id ≠ r.id) :
    ((delete r).result c now s).registrations.get? id =
      ((cancel r).result c now s).registrations.get? id := by
  rw [get?_result rfl, get?_result rfl, get?_apply_delete, get?_apply_cancel, if_neg hid,
    if_neg hid]
  exact congrArg (fun f => (s.registrations.get? id).map f)
    (Store.seatedRow_of_order_eq (order_delete place now) now)

end Edit

/-! ### The sessions -/

namespace Tx

/-- The session takes a registration out of its class by an edit. It fails if the class is not
stored or the budget is short. What it writes is kept else, and then it costs as much and promotes
as many as if the registration had been canceled. -/
structure TakesOut {α : Type} (work : Tx (Verdict α)) (e : Edit) (r : Registration)
    (answers : List Registration → α → Prop) (s : Session) : Prop where
  absent : s.store.classes.get? r.classId = none →
    runOn work s = (.error (.classNotFound r.classId), s)
  short : ∀ {c : Class}, s.store.classes.get? c.id = some c → r.classId = c.id →
    ¬ s.store.Affords ((Edit.cancel r).writes c s.now s.store) →
      ∃ store, runOn work s = (.error (.storage .budgetExhausted), { s with store })
  paid : ∀ {c : Class}, s.store.classes.get? c.id = some c → r.classId = c.id →
    s.store.Affords ((Edit.cancel r).writes c s.now s.store) →
      ∃ a, answers ((Edit.cancel r).promoted c s.now s.store) a ∧
        runOn work s = (.ok (.keep a ((Edit.cancel r).promoted c s.now s.store)), { s with
          store := (e.result c s.now s.store).spend ((Edit.cancel r).writes c s.now s.store) })

end Tx

namespace Enrollment

open Tx

variable {s : Session} {r : Registration} (alone : s.rival = none)
  (found : s.store.registrations.get? r.id = some r)

include alone found

/-- An active registration that was found is canceled, and handed over as it is stored then. -/
theorem takesOut_cancelFound (active : r.status ≠ .canceled) :
    TakesOut (cancelFound r) (.cancel r) r (fun promoted a => a.already = false ∧
      a.promoted = promoted) s where
  absent absent := by
    unfold cancelFound
    rw [if_neg active]
    exact runOn_bind_error (runOn_discard_lockClass_of_absent alone absent)
  short {c} stored place short := by
    unfold cancelFound
    -- it is read again once the class is locked, and is what it was
    rw [if_neg active, place, runOn_bind_ok (runOn_discard_lockClass alone stored),
      runOn_bind_ok (runOn_registration_of_get? found), if_neg active, place]
    exact (writes_cancel found).runOn_rebalance_of_not_affords alone stored rfl _ short
  paid {c} stored place affords := by
    obtain ⟨row, hrow, hid⟩ := Edit.exists_get?_result (e := .cancel r) rfl c s.now s.store
      (by rw [Edit.get?_apply_cancel, if_pos rfl])
    rw [hid] at hrow
    unfold cancelFound
    rw [if_neg active, place, runOn_bind_ok (runOn_discard_lockClass alone stored),
      runOn_bind_ok (runOn_registration_of_get? found), if_neg active, place,
      (writes_cancel found).runOn_rebalance alone stored rfl _ affords,
      runOn_bind_ok (runOn_registration_of_get? (by exact hrow))]
    exact ⟨⟨row, false, _⟩, ⟨rfl, rfl⟩, rfl⟩

/-- A registration that was found is removed. -/
theorem takesOut_delete : TakesOut (delete r.id) (.delete r) r (fun promoted a => a = promoted) s
    where
  absent absent := by
    unfold delete
    rw [runOn_bind_ok (runOn_registration_of_get? found)]
    exact runOn_bind_error (runOn_discard_lockClass_of_absent alone absent)
  short {c} stored place short := by
    rw [← Edit.writes_delete place] at short
    unfold delete
    rw [runOn_bind_ok (runOn_registration_of_get? found), place,
      runOn_bind_ok (runOn_discard_lockClass alone stored)]
    exact (writes_delete r).runOn_rebalance_of_not_affords alone stored rfl _ short
  paid {c} stored place affords := by
    rw [← Edit.writes_delete place] at affords ⊢
    unfold delete
    rw [← Edit.promoted_delete place, runOn_bind_ok (runOn_registration_of_get? found), place,
      runOn_bind_ok (runOn_discard_lockClass alone stored),
      (writes_delete r).runOn_rebalance alone stored rfl _ affords]
    exact ⟨_, rfl, rfl⟩

end Enrollment

/-! ### At the desk -/

/-- Why the desk does not take a registration out of its class. -/
inductive Desk.Refuses (d : Desk) (r : Registration) : Error → Prop
  | offline (offline : d.online = false) : Refuses d r (.database (.socket .missing))
  | noClass (online : d.online = true) (absent : d.store.classes.get? r.classId = none) :
      Refuses d r (.classNotFound r.classId)
  | unpaid {c : Class} (online : d.online = true) (stored : d.store.classes.get? c.id = some c)
      (place : r.classId = c.id)
      (short : ¬ d.store.Affords ((Edit.cancel r).writes c d.now d.store)) :
      Refuses d r (.storage .budgetExhausted)
  | notKept {c : Class} (online : d.online = true) (stored : d.store.classes.get? c.id = some c)
      (place : r.classId = c.id) (affords : d.store.Affords ((Edit.cancel r).writes c d.now d.store))
      (fails : d.commitFails = true) : Refuses d r (.storage .commitFailed)

/-- Nothing stands in the way of taking a registration out of its class. -/
structure Desk.Permits (d : Desk) (r : Registration) (c : Class) : Prop where
  online : d.online = true
  stored : d.store.classes.get? c.id = some c
  place : r.classId = c.id
  affords : d.store.Affords ((Edit.cancel r).writes c d.now d.store)
  commits : d.commitFails = false

theorem Desk.refuses_or_permits (d : Desk) (r : Registration) :
    (∃ e, d.Refuses r e) ∨ ∃ c, d.Permits r c := by
  cases online : d.online with
  | false => exact .inl ⟨_, .offline online⟩
  | true =>
    cases hclass : d.store.classes.get? r.classId with
    | none => exact .inl ⟨_, .noClass online hclass⟩
    | some c =>
      have place : r.classId = c.id := (Table.key_of_get? hclass).symm
      have stored : d.store.classes.get? c.id = some c := place ▸ hclass
      by_cases affords : d.store.Affords ((Edit.cancel r).writes c d.now d.store)
      · cases commits : d.commitFails with
        | true => exact .inl ⟨_, .notKept online stored place affords commits⟩
        | false => exact .inr ⟨c, online, stored, place, affords, commits⟩
      · exact .inl ⟨_, .unpaid online stored place affords⟩

namespace Tx.TakesOut

variable {α : Type} {work : Tx (Verdict α)} {e : Edit} {r : Registration}
  {answers : List Registration → α → Prop} {d : Desk} (h : TakesOut work e r answers d.session)
  (office : Office)

include h

/-- What is refused leaves the desk as it was. -/
theorem of_refuses {fault : Error} (refuses : d.Refuses r fault) :
    runOn (Service.perform office work) d = (.error fault, d) := by
  cases refuses with
  | offline offline => exact Service.runOn_perform_of_offline office work offline
  | noClass online absent => exact Service.runOn_perform_of_error office online (h.absent absent)
  | unpaid online stored place short =>
    obtain ⟨store, hrun⟩ := h.short stored place short
    exact Service.runOn_perform_of_error office online hrun
  | notKept online stored place affords fails =>
    obtain ⟨a, -, hrun⟩ := h.paid stored place affords
    rw [Service.runOn_perform_of_keep office online hrun, if_pos fails]
    rfl

/-- What is permitted is done. -/
theorem of_permits {c : Class} (permits : d.Permits r c) :
    ∃ a t, runOn (Service.perform office work) d = (.ok a, t) ∧
      answers ((Edit.cancel r).promoted c d.now d.store) a ∧
      t.store = (e.result c d.now d.store).committed ((Edit.cancel r).writes c d.now d.store) ∧
      t.online = true := by
  obtain ⟨a, answered, hrun⟩ := h.paid permits.stored permits.place permits.affords
  obtain ⟨sent, hkeep⟩ :=
    Service.runOn_perform_of_commits office permits.online permits.commits hrun
  exact ⟨a, _, hkeep, answered, rfl, permits.online⟩

/-- If there is an answer, all has been done. -/
theorem of_answer {a : α} (answer : (runOn (Service.perform office work) d).1 = .ok a) :
    ∃ c, d.store.classes.get? c.id = some c ∧ r.classId = c.id ∧
      (runOn (Service.perform office work) d).2.store =
        (e.result c d.now d.store).committed ((Edit.cancel r).writes c d.now d.store) ∧
      (runOn (Service.perform office work) d).2.online = true := by
  rcases d.refuses_or_permits r with ⟨fault, refuses⟩ | ⟨c, permits⟩
  · rw [h.of_refuses office refuses] at answer
    exact nomatch answer
  · obtain ⟨b, t, hrun, -, hstore, honline⟩ := h.of_permits office permits
    rw [hrun]
    exact ⟨c, permits.stored, permits.place, hstore, honline⟩

end Tx.TakesOut

namespace Service

variable (office : Office) {d : Desk} {r : Registration}

/-! Both cancellations find the registration first, and then do the same. -/

theorem runOn_cancelByCode {code : String}
    (found : d.store.registrationByCode (Text.trim code) = some r) :
    runOn (cancelByCode office code) d =
      runOn (perform office (Enrollment.cancelFound r)) d :=
  runOn_perform_congr office (runOn_bind_ok (Tx.runOn_registrationByCode_of_found found))

theorem runOn_cancelById {id : Int} (found : d.store.registrations.get? id = some r) :
    runOn (cancelById office id) d = runOn (perform office (Enrollment.cancelFound r)) d :=
  runOn_perform_congr office (runOn_bind_ok (Tx.runOn_registration_of_get? found))

end Service

/-- **To everyone else it makes no difference** whether a registration is canceled or removed. Both
fail with the same error, and leave the desk as it was, or both succeed; then they promote the same
registrations, leave the same budget and count of commits, and the same rows of all others. To
cancel by code or by number is altogether the same. -/
theorem Desk.removals_agree (office : Office) (d : Desk) (alone : d.rival = none)
    {r : Registration} (hr : r ∈ d.store.registrations) (active : r.isActive = true)
    (unique : ∀ q ∈ d.store.registrations, q.code = r.code → q = r)
    (trimmed : Text.trim r.code = r.code) :
    runOn (Service.cancelByCode office r.code) d = runOn (Service.cancelById office r.id) d ∧
    ((∃ e, runOn (Service.cancelById office r.id) d = (.error e, d) ∧
        runOn (Service.delete office r.id) d = (.error e, d)) ∨
      ∃ a t t', runOn (Service.cancelById office r.id) d = (.ok a, t) ∧
        runOn (Service.delete office r.id) d = (.ok a.promoted, t') ∧ a.already = false ∧
        t.store.writeBudget = t'.store.writeBudget ∧ t.store.commits = t'.store.commits ∧
        ∀ id, id ≠ r.id →
          t.store.registrations.get? id = t'.store.registrations.get? id) := by
  have found : d.store.registrations.get? r.id = some r := Table.get?_of_mem hr
  have bycode : d.store.registrationByCode (Text.trim r.code) = some r := by
    rw [trimmed]
    exact Store.registrationByCode_of_unique hr unique
  have hdelete : runOn (Service.delete office r.id) d =
      runOn (Service.perform office (Enrollment.delete r.id)) d := rfl
  rw [Service.runOn_cancelByCode office bycode, Service.runOn_cancelById office found, hdelete]
  refine ⟨rfl, ?_⟩
  have cancels := Enrollment.takesOut_cancelFound (s := d.session) alone found
    (Registration.isActive_iff_ne_canceled.1 active)
  have deletes := Enrollment.takesOut_delete (s := d.session) alone found
  rcases d.refuses_or_permits r with ⟨e, refuses⟩ | ⟨c, permits⟩
  · exact .inl ⟨e, cancels.of_refuses office refuses, deletes.of_refuses office refuses⟩
  · obtain ⟨a, t, hrun, ⟨fresh, promoted⟩, ht, -⟩ := cancels.of_permits office permits
    obtain ⟨b, t', hrun', rfl, ht', -⟩ := deletes.of_permits office permits
    refine .inr ⟨a, t, t', hrun, ?_, fresh, ?_, ?_, fun id hid => ?_⟩
    · rw [hrun', promoted]
    · rw [ht, ht']
      rfl
    · rw [ht, ht']
      rfl
    · rw [ht, ht']
      exact (Edit.get?_result_delete_of_ne permits.place d.now hid).symm

/-- Whether the only seat is canceled or removed, the child who waits gets it. -/
theorem Sample.late_moves_up_either_way :
    desk.rival = none ∧ early ∈ desk.store.registrations ∧ early.isActive = true ∧
      (∀ q ∈ desk.store.registrations, q.code = early.code → q = early) ∧
      Text.trim early.code = early.code ∧
      ∃ a t t', runOn (Service.cancelById office 1) desk = (.ok a, t) ∧
        runOn (Service.delete office 1) desk = (.ok a.promoted, t') ∧
        a.promoted = [{ late with status := .confirmed }] ∧
        t.store.registrations.get? 2 = t'.store.registrations.get? 2 := by
  have there : early ∈ desk.store.registrations := Table.mem_of_get? (k := 1) rfl
  have unique : ∀ q ∈ desk.store.registrations, q.code = early.code → q = early := by decide
  have trimmed : Text.trim early.code = early.code := by decide
  refine ⟨rfl, there, rfl, unique, trimmed, ?_⟩
  obtain ⟨-, ⟨e, failed, -⟩ | ⟨a, t, t', cancels, deletes, -, -, -, others⟩⟩ :=
    Desk.removals_agree office desk rfl there rfl unique trimmed
  · -- the only seat is given up, so the cancellation succeeds
    have ok : (runOn (Service.cancelById office early.id) desk).1.isOk = true := rfl
    rw [failed] at ok
    exact nomatch ok
  · have promoted : (runOn (Service.delete office early.id) desk).1 =
        .ok [{ late with status := .confirmed }] := rfl
    rw [deletes] at promoted
    exact ⟨a, t, t', cancels, deletes, Except.ok.inj promoted, others 2 (by decide)⟩

end EnrollmentDesk
