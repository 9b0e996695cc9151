import EnrollmentDesk.Proofs.ChatLink

/-!
# Accounts over time

A parent gets link codes and uses them. A link code is made of a draw, and if a stored code has
its digits another number is drawn, up to as many as the settings allow. The desk may also be made
to answer that a code is taken when it is not; so a draw is good (`Desk.IsFree`) if no stored code
has its digits and the desk is not made to say so any more. The loop takes the first good draw
(`Service.runOn_issueFree?`), and with it all that can come of a request is listed in
`Service.Issues`, as `Service.Links` does for the request to link a chat.

`Account.run` is any sequence of both, of chats linked by others, and of settings of the time and
the numbers to be drawn.
-/

namespace EnrollmentDesk

namespace Draws

/-- The number that is drawn after so many others. -/
def nth (d : Draws) (i : Nat) : Draw :=
  d.value (d.used + i)

/-- The numbers after so many others. -/
def after (d : Draws) (n : Nat) : Draws :=
  { d with used := d.used + n }

theorem nth_after (d : Draws) (n i : Nat) : (d.after n).nth i = d.nth (n + i) := by
  unfold nth after
  rw [Nat.add_assoc]

theorem after_after (d : Draws) (m n : Nat) : (d.after m).after n = d.after (m + n) := by
  unfold after
  rw [Nat.add_assoc]

end Draws

/-- No stored link code, used or not, has the digits of the draw. -/
def Store.IsFree (s : Store) (draw : Draw) : Prop :=
  ∀ c ∈ s.linkCodes, c.code ≠ draw.digits

/-- The store with a new link code under the next number. -/
def Store.withLinkCode (s : Store) (c : LinkCode) : Store :=
  { s with linkCodes := s.linkCodes.put c, lastLinkCodeId := s.lastLinkCodeId + 1 }

namespace Desk

variable (d : Desk) (parentId : Int) (expiresAt : Instant)

/-- The draw after so many others is good: no stored code has its digits, and the desk says so. -/
def IsFree (i : Nat) : Prop :=
  d.clashes ≤ i ∧ d.store.IsFree (d.draws.nth i)

/-- The desk after so many draws that were not good. -/
def missed (n : Nat) : Desk :=
  { d with draws := d.draws.after n, clashes := d.clashes - n }

/-- The link code that is issued with the draw after so many others. -/
def issuedCode (i : Nat) : LinkCode where
  id := d.store.lastLinkCodeId + 1
  code := (d.draws.nth i).digits
  parentId := parentId
  expiresAt := expiresAt
  usedAt := none
  createdAt := d.now

/-- The desk when it has been issued. -/
def issued (i : Nat) : Desk :=
  { d.missed (i + 1) with store := d.store.withLinkCode (d.issuedCode parentId expiresAt i) }

variable {d parentId expiresAt}

theorem isFree_missed {n i : Nat} : (d.missed n).IsFree i ↔ d.IsFree (n + i) := by
  unfold IsFree missed
  rw [Draws.nth_after, Nat.sub_le_iff_le_add']

theorem missed_missed (m n : Nat) : (d.missed m).missed n = d.missed (m + n) := by
  unfold missed
  rw [Draws.after_after, Nat.sub_sub]

theorem issuedCode_missed (n i : Nat) :
    (d.missed n).issuedCode parentId expiresAt i = d.issuedCode parentId expiresAt (n + i) := by
  unfold issuedCode missed
  rw [Draws.nth_after]

theorem issued_missed (n i : Nat) :
    (d.missed n).issued parentId expiresAt i = d.issued parentId expiresAt (n + i) := by
  unfold issued
  rw [issuedCode_missed, missed_missed, Nat.add_assoc]
  rfl

end Desk

namespace Service

variable {d : Desk} {parentId : Int} {expiresAt : Instant}

theorem runOn_createLinkCode (online : d.online = true) (steady : d.clashes = 0) (parentId : Int)
    (code : String) (expiresAt : Instant) :
    runOn (createLinkCode parentId code expiresAt) d =
      match d.store.createLinkCode parentId code expiresAt d.now with
      | .error fault => (.error (.storage fault), d)
      | .ok (created, store) => (.ok created, { d with store := store }) := by
  unfold createLinkCode
  rw [runOn_bind_ok (runOn_get d)]
  split
  · next clash => exact nomatch steady.symm.trans clash
  · have hnow : runOn now d = (.ok d.now, d) := rfl
    rw [runOn_bind_ok (runOn_connect online), runOn_bind_ok (runOn_get d), runOn_bind_ok hnow]
    rcases d.store.createLinkCode parentId code expiresAt d.now with _ | ⟨_, _⟩ <;> rfl

theorem runOn_createLinkCode_of_free (online : d.online = true)
    (there : d.store.parents.contains parentId = true) (free : d.IsFree 0) :
    runOn (createLinkCode parentId (d.draws.nth 0).digits expiresAt)
        { d with draws := d.draws.after 1 } =
      (.ok (some (d.issuedCode parentId expiresAt 0)), d.issued parentId expiresAt 0) := by
  obtain ⟨hclashes, hfree⟩ := free
  have steady : d.clashes = 0 := Nat.le_zero.1 hclashes
  have hnone : (d.store.linkCodes.rows.any fun c => c.code == (d.draws.nth 0).digits) = false := by
    rw [List.any_eq_false]
    intro c hc
    rw [beq_iff_eq]
    exact hfree c hc
  rw [runOn_createLinkCode (by exact online) (by exact steady)]
  unfold Store.createLinkCode Desk.issued Desk.missed
  dsimp only
  rw [there, hnone, steady]
  rfl

theorem runOn_createLinkCode_of_not_free (online : d.online = true)
    (there : d.store.parents.contains parentId = true) (taken : ¬ d.IsFree 0) :
    runOn (createLinkCode parentId (d.draws.nth 0).digits expiresAt)
        { d with draws := d.draws.after 1 } = (.ok none, d.missed 1) := by
  by_cases steady : d.clashes = 0
  · have hsome : (d.store.linkCodes.rows.any fun c => c.code == (d.draws.nth 0).digits) = true := by
      by_contra hany
      refine taken ⟨Nat.le_of_eq steady, fun c hc hcode => hany ?_⟩
      rw [List.any_eq_true]
      exact ⟨c, hc, beq_iff_eq.2 hcode⟩
    rw [runOn_createLinkCode (by exact online) (by exact steady)]
    unfold Store.createLinkCode Desk.missed
    dsimp only
    rw [there, hsome, steady]
    rfl
  · -- the store is not asked
    obtain ⟨n, hclashes⟩ := Nat.exists_eq_succ_of_ne_zero steady
    unfold createLinkCode Desk.missed
    rw [runOn_bind_ok (runOn_get _), hclashes]
    rfl

/-- **The first good draw is taken**, if one is among so many. -/
theorem runOn_issueFree? (online : d.online = true)
    (there : d.store.parents.contains parentId = true) (expiresAt : Instant) (n : Nat) :
    (∃ i < n, d.IsFree i ∧ (∀ j < i, ¬ d.IsFree j) ∧
        runOn (issueFree? parentId expiresAt n) d =
          (.ok (some (d.issuedCode parentId expiresAt i)), d.issued parentId expiresAt i)) ∨
      ((∀ i < n, ¬ d.IsFree i) ∧
        runOn (issueFree? parentId expiresAt n) d = (.ok none, d.missed n)) := by
  induction n generalizing d with
  | zero => exact .inr ⟨fun i hi => absurd hi (Nat.not_lt_zero i), rfl⟩
  | succ n ih =>
    have hdraw : runOn draw d = (.ok (d.draws.nth 0), { d with draws := d.draws.after 1 }) := rfl
    rw [issueFree?, runOn_bind_ok hdraw]
    by_cases taken : d.IsFree 0
    · refine .inl ⟨0, Nat.succ_pos n, taken, fun j hj => absurd hj (Nat.not_lt_zero j), ?_⟩
      rw [runOn_bind_ok (runOn_createLinkCode_of_free online there taken)]
      rfl
    · -- the draws that are left are those of the desk after one
      rw [runOn_bind_ok (runOn_createLinkCode_of_not_free online there taken)]
      have hfirst : ∀ {i}, (∀ j < i, ¬ (d.missed 1).IsFree j) → ∀ j < i + 1, ¬ d.IsFree j := by
        intro i h j hj
        cases j with
        | zero => exact taken
        | succ j =>
          have hmissed := h j (Nat.lt_of_succ_lt_succ hj)
          rwa [Desk.isFree_missed, Nat.add_comm] at hmissed
      rcases ih (d := d.missed 1) online there with ⟨i, hi, free, first, hrest⟩ | ⟨none, hrest⟩
      · rw [Desk.isFree_missed] at free
        rw [Desk.issuedCode_missed, Desk.issued_missed] at hrest
        rw [Nat.add_comm] at free hrest
        exact .inl ⟨i + 1, Nat.succ_lt_succ hi, free, hfirst first, hrest⟩
      · rw [Desk.missed_missed, Nat.add_comm] at hrest
        exact .inr ⟨hfirst none, hrest⟩

/-- What may come of a request to issue a link code. -/
inductive Issues (office : Office) (d : Desk) (parentId : Int) : Except Error LinkCode → Desk → Prop
  | offline (h : d.online = false) :
      Issues office d parentId (.error (.database (.socket .missing))) d
  | unknown (h : d.store.parents.contains parentId = false) :
      Issues office d parentId (.error (.parentNotFound parentId)) d
  /-- The code would be good for longer than can be stored. -/
  | endless (h : d.now.afterMinutes? office.settings.enrollment.linkCodeMinutes = none) :
      Issues office d parentId (.error .outOfRange) d
  | issued {expiresAt : Instant} {i : Nat}
      (due : d.now.afterMinutes? office.settings.enrollment.linkCodeMinutes = some expiresAt)
      (there : d.store.parents.contains parentId = true)
      (within : i < office.settings.enrollment.attempts) (free : d.IsFree i)
      (first : ∀ j < i, ¬ d.IsFree j) :
      Issues office d parentId (.ok (d.issuedCode parentId expiresAt i))
        (d.issued parentId expiresAt i)
  | exhausted (taken : ∀ i < office.settings.enrollment.attempts, ¬ d.IsFree i) :
      Issues office d parentId (.error (.codesExhausted office.settings.enrollment.attempts))
        (d.missed office.settings.enrollment.attempts)

section IssueLinkCode

variable {office : Office}

theorem runOn_issueLinkCode_of_offline (offline : d.online = false) :
    runOn (issueLinkCode office parentId) d = (.error (.database (.socket .missing)), d) := by
  have hask : runOn (ask fun s => s.parents.contains parentId) d =
      (.error (.database (.socket .missing)), d) :=
    runOn_bind_error (runOn_connect_of_offline offline)
  unfold issueLinkCode
  dsimp only
  rw [runOn_bind_error hask]

theorem runOn_issueLinkCode_of_unknown (online : d.online = true)
    (unknown : d.store.parents.contains parentId = false) :
    runOn (issueLinkCode office parentId) d = (.error (.parentNotFound parentId), d) := by
  unfold issueLinkCode
  dsimp only
  rw [runOn_bind_ok (runOn_ask online _), unknown]
  rfl

theorem runOn_issueLinkCode_of_endless (online : d.online = true)
    (there : d.store.parents.contains parentId = true)
    (endless : d.now.afterMinutes? office.settings.enrollment.linkCodeMinutes = none) :
    runOn (issueLinkCode office parentId) d = (.error .outOfRange, d) := by
  have hnow : runOn now d = (.ok d.now, d) := rfl
  unfold issueLinkCode
  dsimp only
  rw [runOn_bind_ok (runOn_ask online _), there, if_neg (by simp), runOn_bind_ok hnow, endless]
  rfl

end IssueLinkCode

/-- **What comes of a request to issue a link code.** -/
theorem issues (office : Office) (d : Desk) (parentId : Int) :
    Issues office d parentId (runOn (issueLinkCode office parentId) d).1
      (runOn (issueLinkCode office parentId) d).2 := by
  cases online : d.online with
  | false =>
    rw [runOn_issueLinkCode_of_offline online]
    exact .offline online
  | true =>
    cases there : d.store.parents.contains parentId with
    | false =>
      rw [runOn_issueLinkCode_of_unknown online there]
      exact .unknown there
    | true =>
      cases due : d.now.afterMinutes? office.settings.enrollment.linkCodeMinutes with
      | none =>
        rw [runOn_issueLinkCode_of_endless online there due]
        exact .endless due
      | some expiresAt =>
        have hnow : runOn now d = (.ok d.now, d) := rfl
        unfold issueLinkCode
        dsimp only
        rw [runOn_bind_ok (runOn_ask online _), there, if_neg (by simp), runOn_bind_ok hnow, due]
        dsimp only
        rcases runOn_issueFree? online there expiresAt office.settings.enrollment.attempts with
          ⟨i, hi, free, first, hloop⟩ | ⟨taken, hloop⟩
        · rw [runOn_bind_ok hloop]
          exact .issued due there hi free first
        · rw [runOn_bind_ok hloop]
          exact .exhausted taken

end Service

/-! ### Runs -/

/-- What may happen at the desk to the accounts. -/
inductive Account.Event where
  | issue (parentId : Int)
  | link (typed : String) (chatId : Int)
  /-- A chat is linked to a parent without a code. -/
  | connect (parentId chatId : Int)
  | clock (now : Instant)
  | draws (draws : Draws)

namespace Account

/-- The desk after an event. -/
def next (office : Office) (d : Desk) : Event → Desk
  | .issue parentId => (runOn (Service.issueLinkCode office parentId) d).2
  | .link typed chatId => (runOn (Service.linkChat typed chatId) d).2
  | .connect parentId chatId => { d with store := d.store.link parentId chatId }
  | .clock now => { d with now }
  | .draws draws => { d with draws }

/-- The desk after events. -/
def run (office : Office) (d : Desk) (events : List Event) : Desk :=
  events.foldl (next office) d

variable {office : Office} {d : Desk}

theorem run_induction {P : Desk → Prop} (start : P d)
    (step : ∀ d event, P d → P (next office d event)) (events : List Event) :
    P (run office d events) := by
  induction events generalizing d with
  | nil => exact start
  | cons event events ih => exact ih (step d event start)

theorem exists_issues (office : Office) (d : Desk) (parentId : Int) :
    ∃ x, Service.Issues office d parentId x (next office d (.issue parentId)) :=
  ⟨_, Service.issues office d parentId⟩

theorem exists_links (office : Office) (d : Desk) (typed : String) (chatId : Int) :
    ∃ x, Service.Links d typed chatId x (next office d (.link typed chatId)) :=
  ⟨_, Service.links d typed chatId⟩

/-- No event takes the desk down, brings a rival, or makes the desk say more often that a code is
taken. -/
theorem next_keeps (office : Office) (d : Desk) (event : Event) :
    (next office d event).online = d.online ∧ (next office d event).rival = d.rival ∧
      (next office d event).clashes ≤ d.clashes := by
  cases event with
  | clock now => exact ⟨rfl, rfl, Nat.le_refl _⟩
  | draws draws => exact ⟨rfl, rfl, Nat.le_refl _⟩
  | connect parentId chatId => exact ⟨rfl, rfl, Nat.le_refl _⟩
  | issue parentId =>
    obtain ⟨x, hissues⟩ := exists_issues office d parentId
    generalize next office d (.issue parentId) = t at hissues ⊢
    cases hissues with
    | offline | unknown | endless => exact ⟨rfl, rfl, Nat.le_refl _⟩
    | issued | exhausted => exact ⟨rfl, rfl, Nat.sub_le _ _⟩
  | link typed chatId =>
    obtain ⟨x, hlinks⟩ := exists_links office d typed chatId
    generalize next office d (.link typed chatId) = t at hlinks ⊢
    cases hlinks <;> exact ⟨rfl, rfl, Nat.le_refl _⟩

theorem run_rival (alone : d.rival = none) (events : List Event) :
    (run office d events).rival = none :=
  run_induction (P := fun d => d.rival = none) alone
    (fun d event h => (next_keeps office d event).2.1.trans h) events

end Account

end EnrollmentDesk
