import EnrollmentDesk.Proofs.Checks
import EnrollmentDesk.Proofs.Identity
import EnrollmentDesk.Proofs.Outline

/-!
# The order of cancellations does not matter

Families cancel, and admins remove registrations and change capacities, in whatever order it comes.
Each time the class is rebalanced, and in one order others are given a seat on the way than in
another. In the end it makes no difference.

The reason is that all of this can be seen in the outline of the store. An operation whose
registration is active, or whose class is stored, is carried out (`Operation.carriedOut_of_allows`),
and then its move is what has become of the outline (`Operation.outline_of_carriedOut`). As the
operations are about different registrations and different capacities, none of them stands in the
way of another (`Store.Admits.tail`), and the moves can be made in any order. The last rebalances
leave balanced classes, and these are known from the outline.

## Main statements

* `Desk.outline_run` — what a run of such operations leaves of the outline;
* `Desk.order_does_not_matter` — so any two orders of them lead to the same classes and
  registrations.
-/

namespace EnrollmentDesk

/-! ### One operation -/

theorem Store.exists_class {s : Store} {id : Int} (there : s.classes.contains id = true) :
    ∃ c : Class, s.classes.get? c.id = some c ∧ c.id = id := by
  obtain ⟨c, hc⟩ := Table.contains_iff.1 there
  have hid : c.id = id := Table.key_of_get? hc
  exact ⟨c, by rw [hid]; exact hc, hid⟩

/-- What is asked for can be done: the registration is active and its class stored, or the class is
stored and the capacity not negative. -/
def Store.Allows (s : Store) : Move → Prop
  | .cancel id | .remove id => ∃ r, s.registrations.get? id = some r ∧ r.isActive = true ∧
      s.classes.contains r.classId = true
  | .resize classId capacity => 0 ≤ capacity ∧ s.classes.contains classId = true

namespace Operation

/-- The move of an operation, if it is a cancellation, a removal or a change of capacity. -/
def move? (s : Store) : Operation → Option Move
  | cancelByCode code => (s.registrationByCode (Text.trim code)).map fun r => .cancel r.id
  | cancelById id => some (.cancel id)
  | delete id => some (.remove id)
  | setCapacity classId capacity => some (.resize classId capacity)
  | create .. | checkIn _ | rebalance _ => none

/-- A registration is canceled by its code, if no other has this code and nothing of it is trimmed
away. -/
theorem move?_cancelByCode {s : Store} {r : Registration} (distinct : s.HasDistinctCodes)
    (hr : r ∈ s.registrations) (trimmed : Text.trim r.code = r.code) :
    (cancelByCode r.code).move? s = some (.cancel r.id) := by
  have hfound : s.registrationByCode r.code = some r :=
    Store.registrationByCode_of_unique hr fun q hq same => distinct q hq r hr same
  rw [move?, trimmed, hfound, Option.map_some]

variable {office : Office} {op : Operation} {d : Desk}

/-- What can be done passes its checks. -/
theorem passes_of_allows (st : EnrollmentSettings) {m : Move} (hm : op.move? d.store = some m)
    (allowed : d.store.Allows m) : ∃ c e, op.Passes st d c e := by
  cases op with
  | create | checkIn | rebalance => exact nomatch hm
  | cancelByCode code =>
    obtain ⟨r, hr, rfl⟩ := Option.map_eq_some_iff.1 hm
    obtain ⟨q, hq, active, there⟩ := allowed
    obtain rfl : q = r := Option.some.inj (hq.symm.trans (Store.get?_of_registrationByCode hr))
    obtain ⟨c, stored, place⟩ := Store.exists_class there
    exact ⟨c, _, .other nofun rfl (.cancelByCode hr stored place.symm
      (Registration.isActive_iff_ne_canceled.1 active))⟩
  | cancelById id =>
    obtain rfl := Option.some.inj hm
    obtain ⟨r, hr, active, there⟩ := allowed
    obtain rfl : r.id = id := Table.key_of_get? hr
    obtain ⟨c, stored, place⟩ := Store.exists_class there
    exact ⟨c, _, .other nofun rfl (.cancelById hr stored place.symm
      (Registration.isActive_iff_ne_canceled.1 active))⟩
  | delete id =>
    obtain rfl := Option.some.inj hm
    obtain ⟨r, hr, active, there⟩ := allowed
    obtain rfl : r.id = id := Table.key_of_get? hr
    obtain ⟨c, stored, place⟩ := Store.exists_class there
    exact ⟨c, _, .other nofun rfl (.delete hr stored place.symm)⟩
  | setCapacity classId capacity =>
    obtain rfl := Option.some.inj hm
    obtain ⟨positive, there⟩ := allowed
    obtain ⟨c, stored, rfl⟩ := Store.exists_class there
    have sound : (setCapacity c.id capacity).precheck = .ok () := by
      unfold precheck Enrollment.checkCapacity
      exact if_neg (Int.not_lt.2 positive)
    exact ⟨c, _, .other nofun sound (.setCapacity stored capacity)⟩

/-- **What can be done is carried out.** -/
theorem carriedOut_of_allows (office : Office) (alone : d.rival = none) (online : d.online = true)
    (commits : d.commitFails = false) (unlimited : d.store.writeBudget = none) {m : Move}
    (hm : op.move? d.store = some m) (allowed : d.store.Allows m) :
    op.carriedOut (runOn (op.perform office) d).1 = true := by
  obtain ⟨c, e, passes⟩ := passes_of_allows office.settings.enrollment hm allowed
  exact (passes.carriedOut_iff alone online commits).2 (d.store.affords_of_unlimited unlimited _)

/-- **What is carried out makes its move.** -/
theorem outline_of_carriedOut (alone : d.rival = none)
    (carried : op.carriedOut (runOn (op.perform office) d).1 = true) {m : Move}
    (hm : op.move? d.store = some m) :
    (runOn (op.perform office) d).2.store.outline = d.store.outline.after m := by
  obtain ⟨c, e, asked, hstore⟩ := store_of_carriedOut alone carried
  have hout : (runOn (op.perform office) d).2.store.outline =
      (e.result c d.now d.store).outline := by
    rw [hstore]
    rfl
  have reseats : e.reseats = true := asked.reseats fun code h => by
    rw [h] at hm
    exact nomatch hm
  -- the rebalance is not seen, and each edit is the move that was asked for
  rw [hout, Edit.outline_result reseats asked.stored]
  cases asked with
  | create | checkIn | rebalance => exact nomatch hm
  | cancelByCode found stored place active =>
    obtain ⟨q, hq, rfl⟩ := Option.map_eq_some_iff.1 hm
    obtain rfl := Option.some.inj (found.symm.trans hq)
    exact Edit.outline_cancel (Store.get?_of_registrationByCode found)
  | cancelById found stored place active =>
    obtain rfl := Option.some.inj hm
    exact Edit.outline_cancel found
  | delete found stored place =>
    obtain rfl := Option.some.inj hm
    exact Edit.outline_delete _
  | setCapacity stored capacity =>
    obtain rfl := Option.some.inj hm
    exact Edit.outline_setCapacity stored capacity

end Operation

/-! ### What is left to be done -/

section After

variable {s t : Store} {m n : Move} (hout : t.outline = s.outline.after m)

include hout

theorem Store.contains_of_outline (id : Int) : t.classes.contains id = s.classes.contains id := by
  rw [← contains_outline, hout, Outline.contains_after, contains_outline]

/-- A registration that a move is not about is found as it was, but for its seat. -/
theorem Store.exists_of_outline {id : Int} {r : Registration}
    (hr : s.registrations.get? id = some r) (apart : m.subject ≠ .registration id) :
    ∃ q, t.registrations.get? id = some q ∧ t.outlined q = s.outlined r := by
  have hget : (t.registrations.get? id).map t.outlined = some (s.outlined r) := by
    rw [← get?_outline_registrations, hout, Outline.get?_after_of_ne apart,
      get?_outline_registrations, hr, Option.map_some]
  exact Option.map_eq_some_iff.1 hget

/-- After a move, what can be done about other subjects can be done still. -/
theorem Store.Allows.after (h : s.Allows n) (apart : m.subject ≠ n.subject) : t.Allows n := by
  have keeps : ∀ id, m.subject ≠ .registration id →
      (∃ r, s.registrations.get? id = some r ∧ r.isActive = true ∧
        s.classes.contains r.classId = true) →
      ∃ r, t.registrations.get? id = some r ∧ r.isActive = true ∧
        t.classes.contains r.classId = true := by
    rintro id hne ⟨r, hr, active, there⟩
    obtain ⟨q, hq, hrow⟩ := exists_of_outline hout hr hne
    refine ⟨q, hq, ?_, ?_⟩
    · rw [← t.outlined_isActive, hrow, s.outlined_isActive, active]
    · rw [contains_of_outline hout, ← t.outlined_classId, hrow, s.outlined_classId, there]
  cases n with
  | cancel id => exact keeps id apart h
  | remove id => exact keeps id apart h
  | resize classId capacity => exact ⟨h.1, by rw [contains_of_outline hout, h.2]⟩

/-- After a move, an operation about another subject still makes its own. What is canceled by its
code is found by it, since no other registration has this code. -/
theorem Operation.move?_after {op : Operation} (distinct : t.HasDistinctCodes)
    (hn : op.move? s = some n) (apart : m.subject ≠ n.subject) : op.move? t = some n := by
  cases op with
  | create | checkIn | rebalance => exact nomatch hn
  | cancelById | delete | setCapacity => exact hn
  | cancelByCode code =>
    obtain ⟨r, hr, rfl⟩ := Option.map_eq_some_iff.1 hn
    have hcode : r.code = Text.trim code := by simpa using List.find?_some hr
    obtain ⟨q, hq, hrow⟩ :=
      Store.exists_of_outline hout (Store.get?_of_registrationByCode hr) apart
    have hqcode : q.code = Text.trim code := by
      rw [← t.outlined_code, hrow, s.outlined_code, hcode]
    have hqid : q.id = r.id := Table.key_of_get? hq
    have hmem : q ∈ t.registrations := Table.mem_of_get? hq
    have hfound : t.registrationByCode q.code = some q :=
      Store.registrationByCode_of_unique hmem fun x hx same => distinct x hx q hmem same
    rw [move?, ← hqcode, hfound, Option.map_some, hqid]

end After

/-- The moves of operations, as they stand in a store. -/
def Store.moves (s : Store) (ops : List Operation) : List Move :=
  ops.filterMap (Operation.move? s)

/-- The operations are cancellations, removals and changes of capacity, each can be done, and no two
are about the same registration or the capacity of the same class. -/
structure Store.Admits (s : Store) (ops : List Operation) : Prop where
  each : ∀ op ∈ ops, ∃ m, op.move? s = some m ∧ s.Allows m
  apart : ((s.moves ops).map Move.subject).Nodup

theorem Store.Admits.perm {s : Store} {ops ops' : List Operation} (h : s.Admits ops)
    (perm : ops.Perm ops') : s.Admits ops' where
  each op hop := h.each op (perm.mem_iff.2 hop)
  apart := ((perm.filterMap _).map _).nodup_iff.1 h.apart

/-- **When the first operation has made its move, the others are admitted still**, with the moves
that they had. -/
theorem Store.Admits.tail {s t : Store} {m : Move} {op : Operation} {ops : List Operation}
    (h : s.Admits (op :: ops)) (hm : op.move? s = some m) (hout : t.outline = s.outline.after m)
    (distinct : t.HasDistinctCodes) : t.Admits ops ∧ t.moves ops = s.moves ops := by
  have hcons : s.moves (op :: ops) = m :: s.moves ops := List.filterMap_cons_some hm
  have hnodup := h.apart
  rw [hcons, List.map_cons, List.nodup_cons] at hnodup
  obtain ⟨hfirst, hrest⟩ := hnodup
  -- none of the others is about what the first is about
  have still : ∀ op' ∈ ops, ∃ n, op'.move? s = some n ∧ op'.move? t = some n ∧ t.Allows n := by
    intro op' hop'
    obtain ⟨n, hn, allowed⟩ := h.each op' (List.mem_cons_of_mem op hop')
    have hmem : n ∈ s.moves ops := List.mem_filterMap.2 ⟨op', hop', hn⟩
    have hne : m.subject ≠ n.subject := fun same =>
      hfirst (by rw [same]; exact List.mem_map_of_mem hmem)
    exact ⟨n, hn, Operation.move?_after hout distinct hn hne, allowed.after hout hne⟩
  have hmoves : t.moves ops = s.moves ops := by
    refine List.filterMap_congr fun op' hop' => ?_
    obtain ⟨n, hs, ht, -⟩ := still op' hop'
    rw [hs, ht]
  refine ⟨⟨fun op' hop' => ?_, by rw [hmoves]; exact hrest⟩, hmoves⟩
  obtain ⟨n, -, ht, allowed⟩ := still op' hop'
  exact ⟨n, ht, allowed⟩

/-! ### Runs -/

namespace Desk

/-- Nothing disturbs the desk, its store has no budget, all classes are balanced, and codes are
distinct. -/
structure IsCalm (d : Desk) : Prop where
  alone : d.rival = none
  online : d.online = true
  commits : d.commitFails = false
  unlimited : d.store.writeBudget = none
  balanced : d.store.IsBalanced
  distinct : d.store.HasDistinctCodes

variable {office : Office} {d : Desk}

theorem IsCalm.next (h : d.IsCalm) {op : Operation} {m : Move} (hm : op.move? d.store = some m) :
    (next office d (.operation op)).IsCalm := by
  obtain ⟨x, mid, sent, heffect, -, hrun⟩ := op.perform_effect office h.alone
  have hnext : Desk.next office d (.operation op) = _ := congrArg Prod.snd hrun
  rw [hnext]
  cases heffect with
  | fails | leaves => exact ⟨h.alone, h.online, h.commits, h.unlimited, h.balanced, h.distinct⟩
  | writes c e a draws clashes sound asked reported affords =>
    -- nobody is registered
    have fresh : ∀ new, e = .insert new → d.store.IsNumbered := by
      rintro new rfl
      cases asked with
      | create => exact nomatch hm
    have hbudget : (e.result c d.now d.store).writeBudget = none := by
      rw [e.writeBudget_result, h.unlimited]
    exact {
      alone := h.alone
      online := h.online
      commits := h.commits
      unlimited := congrArg (Option.map _) hbudget
      balanced := Edit.isBalanced_result asked.stored asked.fits fresh h.balanced d.now
      distinct := Edit.hasDistinctCodes_result asked.fits fresh h.distinct d.now }

/-- The operations of a run. -/
def operations (events : List Event) : List Operation :=
  events.filterMap fun event =>
    match event with
    | .operation op => some op
    | .clock _ | .draws _ | .budget _ => none

/-- All operations of a run are carried out. -/
def Succeeds (office : Office) : Desk → List Event → Prop
  | _, [] => True
  | d, event :: events =>
    (∀ op, event = .operation op → op.carriedOut (runOn (op.perform office) d).1 = true) ∧
      Succeeds office (next office d event) events

/-- **What a run leaves of the outline**: its operations are all carried out, and have made their
moves. -/
theorem outline_run (office : Office) (calm : d.IsCalm) {events : List Event}
    (admits : d.store.Admits (operations events)) (unpaid : ∀ budget, .budget budget ∉ events) :
    Succeeds office d events ∧ (run office d events).IsCalm ∧
      (run office d events).store.outline =
        (d.store.moves (operations events)).foldl Outline.after d.store.outline := by
  induction events generalizing d with
  | nil => exact ⟨trivial, calm, rfl⟩
  | cons event events ih =>
    have unpaid' : ∀ budget, .budget budget ∉ events :=
      fun budget h => unpaid budget (List.mem_cons_of_mem event h)
    cases event with
    | clock now =>
      have calm' : IsCalm { d with now } :=
        ⟨calm.alone, calm.online, calm.commits, calm.unlimited, calm.balanced, calm.distinct⟩
      obtain ⟨succeeds, h⟩ := ih calm' admits unpaid'
      exact ⟨⟨fun _ => nofun, succeeds⟩, h⟩
    | draws draws =>
      have calm' : IsCalm { d with draws } :=
        ⟨calm.alone, calm.online, calm.commits, calm.unlimited, calm.balanced, calm.distinct⟩
      obtain ⟨succeeds, h⟩ := ih calm' admits unpaid'
      exact ⟨⟨fun _ => nofun, succeeds⟩, h⟩
    | budget budget => exact absurd List.mem_cons_self (unpaid budget)
    | operation op =>
      have hops : operations (.operation op :: events) = op :: operations events := rfl
      rw [hops] at admits ⊢
      -- the operation is carried out, and then the store admits what is left
      obtain ⟨m, hm, allowed⟩ := admits.each op List.mem_cons_self
      have carried := Operation.carriedOut_of_allows office calm.alone calm.online calm.commits
        calm.unlimited hm allowed
      have hnext : (next office d (.operation op)).store.outline = d.store.outline.after m :=
        Operation.outline_of_carriedOut calm.alone carried hm
      have calm' : (next office d (.operation op)).IsCalm := calm.next hm
      obtain ⟨admits', hmoves⟩ := admits.tail hm hnext calm'.distinct
      obtain ⟨succeeds, calm'', hrun⟩ := ih calm' admits' unpaid'
      refine ⟨⟨?_, succeeds⟩, calm'', ?_⟩
      · rintro _ ⟨⟩
        exact carried
      · have hcons : d.store.moves (op :: operations events) =
            m :: d.store.moves (operations events) := List.filterMap_cons_some hm
        calc (run office (next office d (.operation op)) events).store.outline
          _ = (d.store.moves (operations events)).foldl Outline.after
                (next office d (.operation op)).store.outline := by rw [hrun, hmoves]
          _ = (d.store.moves (op :: operations events)).foldl Outline.after d.store.outline := by
            rw [hnext, hcons, List.foldl_cons]

/-- **The order of cancellations does not matter.** At a calm desk, let registrations be canceled or
removed and capacities be changed, none of them twice. In whatever order this is asked for, and
whatever the time is then, all of it is carried out, and in the end the classes and registrations
are the same but for the times of the last change. Who was told of a seat on the way may differ. -/
theorem order_does_not_matter (office : Office) (d : Desk) (calm : d.IsCalm)
    (events events' : List Event) (admits : d.store.Admits (operations events))
    (perm : (operations events).Perm (operations events'))
    (unpaid : ∀ budget, .budget budget ∉ events) (unpaid' : ∀ budget, .budget budget ∉ events') :
    Succeeds office d events ∧ Succeeds office d events' ∧
      (run office d events).store.Agrees (run office d events').store := by
  obtain ⟨succeeds, calm₁, hrun⟩ := outline_run office calm admits unpaid
  obtain ⟨succeeds', calm₂, hrun'⟩ := outline_run office calm (admits.perm perm) unpaid'
  have hmoves : (d.store.moves (operations events)).Perm (d.store.moves (operations events')) :=
    perm.filterMap _
  have hout : (run office d events).store.outline = (run office d events').store.outline := by
    rw [hrun, hrun', Outline.foldl_after_perm hmoves admits.apart]
  exact ⟨succeeds, succeeds', calm₁.balanced.agrees calm₂.balanced hout⟩

end Desk

namespace Sample

/-- The child who came late gets a seat for a while in one order, and none in the other. -/
theorem queue_ends_the_same :
    queueDesk.IsCalm ∧
      queueDesk.store.Admits [.cancelByCode early.code, .setCapacity 1 2, .delete 2] ∧
      (Desk.run office queueDesk [.operation (.cancelByCode early.code), .clock ⟨20⟩,
          .operation (.setCapacity 1 2), .operation (.delete 2)]).store.Agrees
        (Desk.run office queueDesk [.operation (.delete 2), .operation (.setCapacity 1 2),
          .operation (.cancelByCode early.code)]).store ∧
      (Desk.run office queueDesk [.operation (.cancelByCode early.code), .clock ⟨20⟩,
          .operation (.setCapacity 1 2), .operation (.delete 2)]).calls.map (·.registration.id) =
        [2, 2, 3, 3] ∧
      (Desk.run office queueDesk [.operation (.delete 2), .operation (.setCapacity 1 2),
          .operation (.cancelByCode early.code)]).calls.map (·.registration.id) = [3, 3] := by
  have calm : queueDesk.IsCalm := ⟨rfl, rfl, rfl, rfl, by decide, by decide⟩
  have hearly : early ∈ queueDesk.store.registrations := Table.mem_of_get? (k := 1) rfl
  have hcode : (Operation.cancelByCode early.code).move? queueDesk.store = some (.cancel 1) :=
    Operation.move?_cancelByCode calm.distinct hearly rfl
  have hmoves : queueDesk.store.moves [.cancelByCode early.code, .setCapacity 1 2, .delete 2] =
      [.cancel 1, .resize 1 2, .remove 2] := by
    unfold Store.moves
    rw [List.filterMap_cons_some hcode]
    rfl
  have admits : queueDesk.store.Admits
      [.cancelByCode early.code, .setCapacity 1 2, .delete 2] := by
    refine ⟨fun op hop => ?_, by rw [hmoves]; decide⟩
    rcases List.mem_cons.1 hop with rfl | hop
    · exact ⟨_, hcode, early, rfl, rfl, rfl⟩
    rcases List.mem_cons.1 hop with rfl | hop
    · exact ⟨_, rfl, by decide, rfl⟩
    · obtain rfl := List.mem_singleton.1 hop
      exact ⟨_, rfl, late, rfl, rfl, rfl⟩
  have perm : [Operation.cancelByCode early.code, .setCapacity 1 2, .delete 2].Perm
      [.delete 2, .setCapacity 1 2, .cancelByCode early.code] :=
    (List.reverse_perm _).symm
  obtain ⟨-, -, agrees⟩ := Desk.order_does_not_matter office queueDesk calm
    [.operation (.cancelByCode early.code), .clock ⟨20⟩, .operation (.setCapacity 1 2),
      .operation (.delete 2)]
    [.operation (.delete 2), .operation (.setCapacity 1 2),
      .operation (.cancelByCode early.code)] admits perm (by simp) (by simp)
  exact ⟨calm, admits, agrees, rfl, rfl⟩

end Sample

end EnrollmentDesk
