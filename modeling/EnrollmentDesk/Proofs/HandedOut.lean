import EnrollmentDesk.Proofs.Atomicity
import EnrollmentDesk.Proofs.Cancellation

/-!
# What is handed out

An operation hands registrations out in its answer and in the calls to the listeners. They are made
in three ways. A registration that was stored, canceled or asked for is read back after the
rebalance; one that is checked in is put together from what was read and what is written; and those
who got a seat are copied from what the rebalance read before it wrote.

The first two are the rows that are stored then. The copies are not: a rebalance gives them the new
status, but not the time of the change (`Store.get?_seated_of_mem_promoted`). So a copy is the row
that is stored exactly if that had last been changed at the same time, and otherwise it differs in
the time of the last change and in nothing else.

## Main statements

* `Edit.get?_result_of_mem_promoted` — what is stored of whoever got a seat;
* `Operation.row_of_subject` — the registration an answer is about is the row that is stored;
* `Desk.handed_out_is_stored_iff` — when all that is handed out is as it is stored.
-/

namespace EnrollmentDesk

/-! ### Those who got a seat -/

namespace Store

variable {s : Store} {c : Class} {r : Registration}

/-- Who is promoted has waited, and keeps all but the status. -/
theorem of_mem_promoted (h : r ∈ s.promoted c) :
    ∃ x ∈ s.registrations, x.classId = c.id ∧ x.status = .waitlisted ∧ s.due c x = .confirmed ∧
      r = { x with status := .confirmed } := by
  obtain ⟨x, hx, rfl⟩ := List.mem_map.1 h
  obtain ⟨horder, hx⟩ := List.mem_filter.1 hx
  obtain ⟨hmem, place, -⟩ := Tx.mem_order_registrationsOf.1 horder
  obtain ⟨waits, sits⟩ := of_decide_eq_true hx
  exact ⟨x, hmem, place, waits, sits, rfl⟩

/-- **The copy of a promoted registration lacks the time of the change**, and is otherwise the row
that is written. -/
theorem get?_seated_of_mem_promoted (h : r ∈ s.promoted c) (now : Instant) :
    (s.seated c now).registrations.get? r.id = some { r with updatedAt := now } := by
  obtain ⟨x, hmem, place, waits, sits, rfl⟩ := of_mem_promoted h
  have active : x.isActive = true := Registration.isActive_iff.2 (.inr waits)
  have differs : x.status ≠ s.due c x := by
    rw [waits, sits]
    decide
  rw [get?_seated, Table.get?_of_mem hmem, Option.map_some, seatedRow_of_ne place active differs,
    sits]

end Store

namespace Edit

variable {e : Edit} {c : Class} {s : Store} {now : Instant} {r : Registration}

theorem get?_result_of_mem_promoted (h : r ∈ e.promoted c now s) :
    (e.result c now s).registrations.get? r.id = some { r with updatedAt := now } := by
  unfold promoted at h
  unfold result
  split at h
  · next reseats =>
    rw [if_pos reseats]
    exact Store.get?_seated_of_mem_promoted h now
  · exact absurd h List.not_mem_nil

/-- **Whoever got a seat is handed out as before the operation**, but for the status, unless the
operation itself has just written the row. -/
theorem of_mem_promoted (h : r ∈ e.promoted c now s) :
    r.updatedAt = now ∨
      ∃ x ∈ s.registrations, x.status = .waitlisted ∧ r = { x with status := .confirmed } := by
  unfold promoted at h
  split at h
  · obtain ⟨x, hx, -, waits, -, rfl⟩ := Store.of_mem_promoted h
    cases e with
    | nothing | setCapacity => exact .inr ⟨x, hx, waits, rfl⟩
    | delete q => exact .inr ⟨x, (Table.mem_erase.1 hx).1, waits, rfl⟩
    | insert new =>
      rcases Table.mem_put.1 hx with rfl | ⟨hx, -⟩
      · exact .inl rfl
      · exact .inr ⟨x, hx, waits, rfl⟩
    | cancel q | checkIn q =>
      rcases Table.mem_put.1 hx with rfl | ⟨hx, -⟩
      · exact .inl rfl
      · exact .inr ⟨x, hx, waits, rfl⟩
  · exact absurd h List.not_mem_nil

end Edit

/-! ### Answers -/

namespace Enrollment

variable {s t : Session}

/-- A registration that was canceled before is answered as it was found. -/
theorem registration_of_already {found : Registration} (alone : s.rival = none)
    (hfound : s.store.registrations.get? found.id = some found) {v : Verdict Cancellation}
    (h : runOn (cancelFound found) s = (.ok v, t)) (already : v.answer.already = true) :
    v.answer.registration = found := by
  unfold cancelFound at h
  split at h
  · obtain rfl := Except.ok.inj (Prod.mk.inj h).1
    rfl
  · obtain ⟨_, s₁, hlock, h⟩ := runOn_bind_eq_ok h
    obtain ⟨current, s₂, hcurrent, h⟩ := runOn_bind_eq_ok h
    split at h
    · -- to lock the class has changed nothing, so the same row is read again
      obtain ⟨draws, clashes, hs₁⟩ := (Tx.IsCheck.discard (.lockClass _)).leaves s alone
      rw [hlock] at hs₁
      obtain rfl : s₁ = s.drawn draws clashes := hs₁
      have hsame := Tx.of_runOn_registration hcurrent
      obtain rfl := Option.some.inj (hfound.symm.trans hsame)
      obtain rfl := Except.ok.inj (Prod.mk.inj h).1
      rfl
    · obtain ⟨_, s₃, -, h⟩ := runOn_bind_eq_ok h
      obtain ⟨promoted, s₄, -, h⟩ := runOn_bind_eq_ok h
      obtain ⟨r, s₅, -, h⟩ := runOn_bind_eq_ok h
      obtain rfl := Except.ok.inj (Prod.mk.inj h).1
      exact nomatch already

end Enrollment

namespace Service

/-- A registration that was canceled before is answered as it is stored. -/
theorem get?_of_already {office : Office} {look : Tx Registration} (check : Tx.IsCheck look)
    (sound : ∀ s r t, runOn look s = (.ok r, t) → s.store.registrations.get? r.id = some r)
    {d : Desk} (alone : d.rival = none) {a : Cancellation}
    (h : (runOn (perform office (look >>= Enrollment.cancelFound)) d).1 = .ok a)
    (already : a.already = true) :
    d.store.registrations.get? a.registration.id = some a.registration := by
  obtain ⟨v, s, hrun, rfl⟩ := of_runOn_perform _ h
  obtain ⟨found, t, hfound, hrun⟩ := runOn_bind_eq_ok hrun
  obtain ⟨draws, clashes, ht⟩ := check.leaves d.session alone
  rw [hfound] at ht
  obtain rfl : t = d.session.drawn draws clashes := ht
  have there : d.store.registrations.get? found.id = some found := sound _ _ _ hfound
  rw [Enrollment.registration_of_already (s := d.session.drawn draws clashes) alone there hrun
    already]
  exact there

/-- The status of a registration is asked for without a session that is kept, and the registration
is answered as it is stored. -/
theorem get?_of_status {office : Office} {code : String} {d : Desk} {p : Placement}
    (h : (runOn (status office code) d).1 = .ok p) :
    (runOn (status office code) d).2.store.registrations.get? p.registration.id =
      some p.registration := by
  have hstore : (runOn (status office code) d).2.store = d.store :=
    (isReadOnly_status code).store_perform d
  obtain ⟨v, s, hrun, rfl⟩ := of_runOn_perform _ h
  obtain ⟨r, s₁, hr, hrun⟩ := runOn_bind_eq_ok hrun
  obtain ⟨position, s₂, -, hrun⟩ := runOn_bind_eq_ok hrun
  obtain rfl := Except.ok.inj (Prod.mk.inj hrun).1
  rw [hstore]
  exact Store.get?_of_registrationByCode (Tx.of_runOn_registrationByCode hr)

end Service

namespace Operation

/-- The registration that an answer is about, if it is about one. -/
def subject? : (op : Operation) → op.Answer → Option Registration
  | create .., a | cancelByCode _, a | cancelById _, a => some a.registration
  | checkIn _, a => some a
  | setCapacity .., _ | delete _, _ | rebalance _, _ => none

variable {office : Office} {op : Operation} {d : Desk} {a : op.Answer} {r : Registration}

theorem get?_subject_of_foundCanceled (alone : d.rival = none)
    (answer : (runOn (op.perform office) d).1 = .ok a) (found : op.foundCanceled a = true)
    (hr : op.subject? a = some r) : d.store.registrations.get? r.id = some r := by
  cases op with
  | cancelByCode code =>
    obtain rfl := Option.some.inj hr
    exact Service.get?_of_already (.registrationByCode _)
      (fun _ _ _ h => Store.get?_of_registrationByCode (Tx.of_runOn_registrationByCode h))
      alone answer found
  | cancelById id =>
    obtain rfl := Option.some.inj hr
    refine Service.get?_of_already (.registration id) (fun s q _ h => ?_) alone answer found
    have hq := Tx.of_runOn_registration h
    have hid : q.id = id := Table.key_of_get? hq
    rw [hid]
    exact hq
  | create | setCapacity | checkIn | delete | rebalance => exact nomatch found

theorem Reports.get?_subject {final : Store} {promoted : List Registration}
    (h : op.Reports final promoted a) (hr : op.subject? a = some r) :
    final.registrations.get? r.id = some r := by
  cases op with
  | create childId classId =>
    obtain rfl := Option.some.inj hr
    exact h.2.1
  | cancelByCode | cancelById =>
    obtain rfl := Option.some.inj hr
    exact h.2.2
  | checkIn code =>
    obtain rfl := Option.some.inj hr
    exact h
  | setCapacity | delete | rebalance => exact nomatch hr

/-- **The registration that an answer is about** is the row that is stored. -/
theorem row_of_subject (alone : d.rival = none)
    (answer : (runOn (op.perform office) d).1 = .ok a) (hr : op.subject? a = some r) :
    (runOn (op.perform office) d).2.store.registrations.get? r.id = some r := by
  obtain ⟨x, mid, sent, heffect, -, hrun⟩ := op.perform_effect office alone
  have hx : x.map Prod.fst = .ok a := by rw [← answer, hrun]
  rw [hrun]
  cases heffect with
  | fails => exact nomatch hx
  | leaves b draws clashes found =>
    obtain rfl := Except.ok.inj hx
    have hrow : d.store.registrations.get? r.id = some r :=
      get?_subject_of_foundCanceled alone answer found hr
    exact hrow
  | writes c e b draws clashes sound asked reported affords =>
    obtain rfl := Except.ok.inj hx
    exact reported.get?_subject hr

/-- A copy of a registration that got a seat: what is stored differs from it in the time of the last
change at most, and before it differed in the status at most. -/
structure Copies (before after : Store) (now : Instant) (r : Registration) : Prop where
  stored : after.registrations.get? r.id = some { r with updatedAt := now }
  taken : r.updatedAt = now ∨
    ∃ x ∈ before.registrations, x.status = .waitlisted ∧ r = { x with status := .confirmed }

/-- A copy is the row that is stored exactly if the row had been changed at the same time. -/
theorem Copies.get?_iff {before after : Store} {now : Instant} (h : Copies before after now r) :
    after.registrations.get? r.id = some r ↔ r.updatedAt = now := by
  rw [h.stored, Option.some.injEq]
  constructor
  · intro same
    exact (congrArg Registration.updatedAt same).symm
  · rintro rfl
    rfl

/-- Whoever is handed out as one who got a seat, in the answer or to a listener, is a copy. -/
theorem exists_calls_copies (office : Office) (alone : d.rival = none)
    (answer : (runOn (op.perform office) d).1 = .ok a) :
    ∃ calls, (runOn (op.perform office) d).2.calls = d.calls ++ calls ∧
      ∀ r ∈ op.promotedIn a ++ calls.map Call.registration,
        Copies d.store (runOn (op.perform office) d).2.store d.now r := by
  obtain ⟨x, mid, sent, heffect, -, hrun⟩ := op.perform_effect office alone
  have hx : x.map Prod.fst = .ok a := by rw [← answer, hrun]
  refine ⟨Service.callsAbout office (op.promotedOf x), ?_, fun r hr => ?_⟩
  · rw [hrun, ← heffect.calls_eq]
  have hr : r ∈ op.promotedIn a ∨ r ∈ op.promotedOf x := by
    rcases List.mem_append.1 hr with hr | hr
    · exact .inl hr
    · obtain ⟨call, hcall, rfl⟩ := List.mem_map.1 hr
      exact .inr (Service.of_mem_callsAbout hcall).1
  have hstore : (runOn (op.perform office) d).2.store = mid.store := by rw [hrun]
  rw [hstore]
  cases heffect with
  | fails => exact nomatch hx
  | leaves b draws clashes found =>
    obtain rfl := Except.ok.inj hx
    rw [promotedIn_eq_nil_of_foundCanceled answer found] at hr
    rcases hr with hr | hr <;> exact absurd hr List.not_mem_nil
  | writes c e b draws clashes sound asked reported affords =>
    obtain rfl := Except.ok.inj hx
    have hr : r ∈ e.promoted c d.now d.store := hr.elim (mem_promoted_of_reports reported) id
    exact ⟨Edit.get?_result_of_mem_promoted hr, Edit.of_mem_promoted hr⟩

end Operation

/-- **When all that is handed out is as it is stored.** The registration that an answer is about is
the row that is stored after the commit. Those who got a seat are handed out, in the answer and to
the listeners, as copies that lack the time of the change. So all that is handed out is as it is
stored exactly if none of them had last been changed at another time, and in particular if nobody
got a seat. -/
theorem Desk.handed_out_is_stored_iff (office : Office) (d : Desk) (alone : d.rival = none) :
    (∀ (op : Operation) (a : op.Answer), (runOn (op.perform office) d).1 = .ok a →
      ∃ calls, (runOn (op.perform office) d).2.calls = d.calls ++ calls ∧
        (∀ r, op.subject? a = some r →
          (runOn (op.perform office) d).2.store.registrations.get? r.id = some r) ∧
        (∀ r ∈ op.promotedIn a ++ calls.map Call.registration,
          Operation.Copies d.store (runOn (op.perform office) d).2.store d.now r) ∧
        ((∀ r ∈ (op.subject? a).toList ++ op.promotedIn a ++ calls.map Call.registration,
            (runOn (op.perform office) d).2.store.registrations.get? r.id = some r) ↔
          ∀ r ∈ op.promotedIn a ++ calls.map Call.registration, r.updatedAt = d.now)) ∧
    ∀ code p, (runOn (Service.status office code) d).1 = .ok p →
      (runOn (Service.status office code) d).2.store.registrations.get? p.registration.id =
        some p.registration := by
  refine ⟨fun op a answer => ?_, fun code p => Service.get?_of_status⟩
  obtain ⟨calls, hcalls, copies⟩ := Operation.exists_calls_copies office alone answer
  have hsubject := fun r => Operation.row_of_subject (r := r) alone answer
  refine ⟨calls, hcalls, hsubject, copies, ?_⟩
  rw [List.append_assoc, List.forall_mem_append]
  have hhead : ∀ r ∈ (op.subject? a).toList,
      (runOn (op.perform office) d).2.store.registrations.get? r.id = some r :=
    fun r hr => hsubject r (Option.mem_toList.1 hr)
  rw [and_iff_right hhead]
  exact forall₂_congr fun r hr => (copies r hr).get?_iff

namespace Sample

/-- A child who began to wait in this very instant gets a seat, and is handed out as it is
stored. -/
theorem copy_taken_at_once_is_stored :
    ({ desk with now := ⟨2⟩ } : Desk).rival = none ∧
      (runOn ((Operation.cancelById 1).perform office) { desk with now := ⟨2⟩ }).1 =
        .ok ⟨early.canceled ⟨2⟩, false, [{ late with status := .confirmed }]⟩ ∧
      ∀ r ∈ [early.canceled ⟨2⟩, { late with status := .confirmed }],
        (runOn ((Operation.cancelById 1).perform office)
          { desk with now := ⟨2⟩ }).2.store.registrations.get? r.id = some r := by
  have answer : (runOn ((Operation.cancelById 1).perform office) { desk with now := ⟨2⟩ }).1 =
      .ok ⟨early.canceled ⟨2⟩, false, [{ late with status := .confirmed }]⟩ := rfl
  obtain ⟨calls, -, subject, copies, -⟩ :=
    (Desk.handed_out_is_stored_iff office { desk with now := ⟨2⟩ } rfl).1 (.cancelById 1) _ answer
  refine ⟨rfl, answer, fun r hr => ?_⟩
  rcases List.mem_cons.1 hr with rfl | hr
  · exact subject _ rfl
  · obtain rfl := List.mem_singleton.1 hr
    exact (copies _ (List.mem_append_left _ List.mem_cons_self)).get?_iff.2 rfl

/-- **A copy that is taken later is out of date**: the answer and both listeners have the child who
waited with a seat, but as last changed when it began to wait; it is stored as changed now. -/
theorem copy_taken_later_is_out_of_date :
    (runOn ((Operation.cancelById 1).perform office) desk).1 =
        .ok ⟨early.canceled ⟨10⟩, false, [{ late with status := .confirmed }]⟩ ∧
      (runOn ((Operation.cancelById 1).perform office) desk).2.calls.map Call.registration =
        [{ late with status := .confirmed }, { late with status := .confirmed }] ∧
      (runOn ((Operation.cancelById 1).perform office) desk).2.store.registrations.get? 2 =
        some { late with status := .confirmed, updatedAt := ⟨10⟩ } ∧
      (runOn ((Operation.cancelById 1).perform office) desk).2.store.registrations.get? 2 ≠
        some { late with status := .confirmed } :=
  ⟨rfl, rfl, rfl, by decide⟩

end Sample

end EnrollmentDesk
