import EnrollmentDesk.Proofs.Account
import EnrollmentDesk.Proofs.CodeText

/-!
# Link codes are used once

A request to link a chat looks for a row with the digits that can still be used, so whether a code
can be used twice depends on how many rows have its digits. There is only one: a code is issued if
its digits are those of no other, used or not, and rows are never removed
(`Store.HasSoundCodes.issued`). So once a code is used, its row is the only one that could be found
and is not found any more (`Account.not_redeemed_of_used`).

## Main statements

* `Service.issuesFirstFree` — which draw becomes a link code, and that all others stay;
* `Service.redeemsOpen` — for which text a chat is linked, and to whom;
* `Account.codes_are_used_once` — both in every state of a run, and that no code is used twice or
  too late.
-/

namespace EnrollmentDesk

/-! ### Link codes -/

/-- A link code as it may be found later: as it was, or used since. -/
def LinkCode.Continues (x c : LinkCode) : Prop :=
  x = c ∨ (c.usedAt = none ∧ ∃ time, x = { c with usedAt := some time })

namespace LinkCode

variable {c x y : LinkCode}

theorem Continues.refl (c : LinkCode) : c.Continues c := .inl rfl

theorem Continues.trans (hyx : y.Continues x) (hxc : x.Continues c) : y.Continues c := by
  rcases hyx with rfl | ⟨unused, time, rfl⟩
  · exact hxc
  · rcases hxc with rfl | ⟨-, earlier, rfl⟩
    · exact .inr ⟨unused, time, rfl⟩
    · exact nomatch unused

theorem Continues.eq_of_used (h : x.Continues c) (used : c.usedAt ≠ none) : x = c :=
  h.resolve_right fun h => used h.1

theorem isRedeemable_iff {now : Instant} :
    c.isRedeemable now = true ↔ c.usedAt = none ∧ now < c.expiresAt := by
  unfold isRedeemable
  rw [Bool.and_eq_true, Option.isNone_iff_eq_none, decide_eq_true_iff]

/-- A code is read off a text if it is the digits of the text, and these are six. -/
theorem normalize_eq_some_iff {typed code : String} :
    normalize typed = some code ↔
      code.toList = typed.toList.filter Char.isDigit ∧ code.toList.length = codeDigits := by
  unfold normalize
  dsimp only
  constructor
  · intro h
    split at h
    · next six =>
      obtain rfl := Option.some.inj h
      rw [String.toList_ofList]
      exact ⟨rfl, six⟩
    · exact nomatch h
  · rintro ⟨hdigits, six⟩
    rw [← hdigits, if_pos six, String.ofList_toList]

end LinkCode

/-- The link codes of a store are in order: no two have the same digits, all have six, their parents
are stored, and their numbers have been given out. -/
structure Store.HasSoundCodes (s : Store) : Prop where
  distinct : ∀ a ∈ s.linkCodes, ∀ b ∈ s.linkCodes, a.code = b.code → a = b
  digits : ∀ c ∈ s.linkCodes,
    c.code.toList.length = codeDigits ∧ ∀ x ∈ c.code.toList, x.isDigit = true
  issuers : s.HasIssuers
  numbered : ∀ c ∈ s.linkCodes, c.id ≤ s.lastLinkCodeId

instance (s : Store) : Decidable s.HasSoundCodes :=
  decidable_of_iff ((∀ a ∈ s.linkCodes.rows, ∀ b ∈ s.linkCodes.rows, a.code = b.code → a = b) ∧
      (∀ c ∈ s.linkCodes.rows,
        c.code.toList.length = codeDigits ∧ c.code.toList.all Char.isDigit = true) ∧
      s.HasIssuers ∧ ∀ c ∈ s.linkCodes.rows, c.id ≤ s.lastLinkCodeId)
    ⟨fun ⟨distinct, digits, issuers, numbered⟩ =>
        ⟨distinct, fun c hc => (digits c hc).imp_right List.all_eq_true.1, issuers, numbered⟩,
      fun h => ⟨h.distinct, fun c hc => (h.digits c hc).imp_right List.all_eq_true.2, h.issuers,
        h.numbered⟩⟩

namespace Store

variable {s : Store} {c : LinkCode} {now : Instant}

theorem HasSoundCodes.redeemable?_eq_some_iff (h : s.HasSoundCodes) {code : String} :
    s.redeemable? code now = some c ↔
      c ∈ s.linkCodes ∧ c.code = code ∧ c.usedAt = none ∧ now < c.expiresAt := by
  constructor
  · intro found
    have hfound := List.find?_some found
    rw [Bool.and_eq_true, beq_iff_eq, LinkCode.isRedeemable_iff] at hfound
    exact ⟨List.mem_of_find?_eq_some found, hfound⟩
  · rintro ⟨hc, hcode, hopen⟩
    have hmatch : (c.code == code && c.isRedeemable now) = true := by
      rw [Bool.and_eq_true, beq_iff_eq, LinkCode.isRedeemable_iff]
      exact ⟨hcode, hopen⟩
    -- something is found, and it has the same digits
    cases found : s.redeemable? code now with
    | none => exact absurd hmatch (List.find?_eq_none.1 found c hc)
    | some b =>
      have hb := List.find?_some found
      rw [Bool.and_eq_true, beq_iff_eq] at hb
      have hbmem : b ∈ s.linkCodes := List.mem_of_find?_eq_some found
      rw [h.distinct b hbmem c hc (hb.1.trans hcode.symm)]

/-- A link code with a number that is new overwrites none. -/
theorem HasSoundCodes.mem_withLinkCode (h : s.HasSoundCodes) (hid : c.id = s.lastLinkCodeId + 1)
    {x : LinkCode} : x ∈ (s.withLinkCode c).linkCodes ↔ x = c ∨ x ∈ s.linkCodes := by
  have hput : x ∈ (s.withLinkCode c).linkCodes ↔ x = c ∨ (x ∈ s.linkCodes ∧ x.id ≠ c.id) :=
    Table.mem_put
  have hne : x ∈ s.linkCodes → x.id ≠ c.id := by
    intro hx same
    have hle := h.numbered x hx
    omega
  rw [hput, and_iff_left_of_imp hne]

/-- **Codes stay in order** when one is issued with a draw that no other has. -/
theorem HasSoundCodes.issued (h : s.HasSoundCodes) {draw : Draw} (free : s.IsFree draw)
    (there : s.parents.contains c.parentId = true) (hid : c.id = s.lastLinkCodeId + 1)
    (hcode : c.code = draw.digits) : (s.withLinkCode c).HasSoundCodes where
  distinct := by
    intro a ha b hb same
    rw [h.mem_withLinkCode hid] at ha hb
    rcases ha with rfl | ha
    · rcases hb with rfl | hb
      · rfl
      · exact absurd (same.symm.trans hcode) (free b hb)
    · rcases hb with rfl | hb
      · exact absurd (same.trans hcode) (free a ha)
      · exact h.distinct a ha b hb same
  digits := by
    intro x hx
    rw [h.mem_withLinkCode hid] at hx
    rcases hx with rfl | hx
    · rw [hcode]
      exact ⟨RegistrationCode.length_digits draw,
        fun x hx => RegistrationCode.isDigit_of_mem_digits hx⟩
    · exact h.digits x hx
  issuers := by
    intro x hx
    rw [h.mem_withLinkCode hid] at hx
    rcases hx with rfl | hx
    · exact there
    · exact h.issuers x hx
  numbered := by
    intro x hx
    rw [h.mem_withLinkCode hid] at hx
    change x.id ≤ s.lastLinkCodeId + 1
    rcases hx with rfl | hx
    · omega
    · have hle := h.numbered x hx
      omega

theorem HasSoundCodes.of_eq {t : Store} (h : s.HasSoundCodes) (hcodes : t.linkCodes = s.linkCodes)
    (hparents : t.parents = s.parents) (hlast : t.lastLinkCodeId = s.lastLinkCodeId) :
    t.HasSoundCodes := by
  obtain ⟨distinct, digits, issuers, numbered⟩ := h
  unfold HasIssuers at issuers
  rw [← hcodes] at distinct digits issuers numbered
  rw [← hparents] at issuers
  rw [← hlast] at numbered
  exact ⟨distinct, digits, issuers, numbered⟩

theorem mem_redeemed {chatId : Int} {x : LinkCode} :
    x ∈ (s.redeemed c chatId now).linkCodes ↔
      x = { c with usedAt := some now } ∨ (x ∈ s.linkCodes ∧ x.id ≠ c.id) :=
  Table.mem_put

/-- **Codes stay in order** when one is used. -/
theorem HasSoundCodes.redeemed (h : s.HasSoundCodes) (hc : c ∈ s.linkCodes) (chatId : Int)
    (now : Instant) : (s.redeemed c chatId now).HasSoundCodes := by
  -- every row has the digits, the parent and the number of one from before
  have origin : ∀ x ∈ (s.redeemed c chatId now).linkCodes, ∃ b ∈ s.linkCodes,
      x.id = b.id ∧ x.code = b.code ∧ x.parentId = b.parentId := by
    intro x hx
    rcases mem_redeemed.1 hx with rfl | ⟨hx, -⟩
    · exact ⟨c, hc, rfl, rfl, rfl⟩
    · exact ⟨x, hx, rfl, rfl, rfl⟩
  refine ⟨fun x hx y hy same => ?_, fun x hx => ?_, fun x hx => ?_, fun x hx => ?_⟩
  · obtain ⟨a, ha, hxid, hxcode, -⟩ := origin x hx
    obtain ⟨b, hb, hyid, hycode, -⟩ := origin y hy
    have hab : a = b := h.distinct a ha b hb (by rw [← hxcode, same, hycode])
    exact Table.eq_of_key_eq hx hy (by rw [hxid, hab, hyid])
  · obtain ⟨b, hb, -, hcode, -⟩ := origin x hx
    rw [hcode]
    exact h.digits b hb
  · obtain ⟨b, hb, -, -, hparent⟩ := origin x hx
    rw [hparent]
    exact h.issuers b hb
  · obtain ⟨b, hb, hid, -⟩ := origin x hx
    rw [hid]
    exact h.numbered b hb

end Store

/-! ### Requests -/

/-- The desk is up, and the link codes are in order. -/
structure Desk.ServesAccounts (d : Desk) : Prop where
  online : d.online = true
  steady : d.clashes = 0
  sound : d.store.HasSoundCodes

/-- A request for a link code, to be good until an instant, takes the first of so many draws that is
free, and stores a code with it beside all others. -/
structure Desk.IssuesFirstFree (office : Office) (d : Desk) (parentId : Int) (expiresAt : Instant) :
    Prop where
  succeeds_iff : (∃ c, (runOn (Service.issueLinkCode office parentId) d).1 = .ok c) ↔
    ∃ i < office.settings.enrollment.attempts, d.store.IsFree (d.draws.nth i)
  takes_first : ∀ c, (runOn (Service.issueLinkCode office parentId) d).1 = .ok c →
    ∃ i < office.settings.enrollment.attempts, d.store.IsFree (d.draws.nth i) ∧
      (∀ j < i, ¬ d.store.IsFree (d.draws.nth j)) ∧ c = d.issuedCode parentId expiresAt i ∧
      (runOn (Service.issueLinkCode office parentId) d).2 = d.issued parentId expiresAt i
  keeps : ∀ c ∈ d.store.linkCodes,
    c ∈ (runOn (Service.issueLinkCode office parentId) d).2.store.linkCodes

/-- A code is stored that has the digits of the text, in their order, and can still be used. -/
def Desk.IsOpenTo (d : Desk) (typed : String) (c : LinkCode) : Prop :=
  c ∈ d.store.linkCodes ∧ c.code.toList = typed.toList.filter Char.isDigit ∧ c.usedAt = none ∧
    d.now < c.expiresAt

theorem Desk.isOpenTo_iff {d : Desk} (h : d.store.HasSoundCodes) {typed : String} {c : LinkCode} :
    d.IsOpenTo typed c ↔
      ∃ code, LinkCode.normalize typed = some code ∧ d.store.redeemable? code d.now = some c := by
  constructor
  · rintro ⟨hc, hdigits, hopen⟩
    have read := LinkCode.normalize_eq_some_iff.2 ⟨hdigits, (h.digits c hc).1⟩
    exact ⟨c.code, read, h.redeemable?_eq_some_iff.2 ⟨hc, rfl, hopen⟩⟩
  · rintro ⟨code, read, found⟩
    obtain ⟨hc, rfl, hopen⟩ := h.redeemable?_eq_some_iff.1 found
    exact ⟨hc, (LinkCode.normalize_eq_some_iff.1 read).1, hopen⟩

/-- A request to link a chat succeeds if the text is that of a code that can still be used. The code
is used then, and the chat is linked to its parent, who is the answer. -/
structure Desk.RedeemsOpen (d : Desk) (typed : String) (chatId : Int) : Prop where
  succeeds_iff : (∃ p, (runOn (Service.linkChat typed chatId) d).1 = .ok p) ↔
    ∃ c, d.IsOpenTo typed c
  redeems : ∀ p, (runOn (Service.linkChat typed chatId) d).1 = .ok p →
    ∃ c, d.IsOpenTo typed c ∧ d.store.parents.get? c.parentId = some p ∧
      (runOn (Service.linkChat typed chatId) d).2 =
        { d with store := d.store.redeemed c chatId d.now }

namespace Service

variable {d : Desk}

theorem issuesFirstFree (office : Office) (h : d.ServesAccounts) {parentId : Int}
    (there : d.store.parents.contains parentId = true) {expiresAt : Instant}
    (due : d.now.afterMinutes? office.settings.enrollment.linkCodeMinutes = some expiresAt) :
    d.IssuesFirstFree office parentId expiresAt := by
  have hfree : ∀ i, d.IsFree i ↔ d.store.IsFree (d.draws.nth i) := by
    intro i
    unfold Desk.IsFree
    rw [h.steady]
    exact and_iff_right (Nat.zero_le i)
  have hissues := issues office d parentId
  generalize hx : (runOn (issueLinkCode office parentId) d).1 = x at hissues
  generalize ht : (runOn (issueLinkCode office parentId) d).2 = t at hissues
  cases hissues with
  | offline offline => exact nomatch offline.symm.trans h.online
  | unknown missing => exact nomatch missing.symm.trans there
  | endless endless => exact nomatch endless.symm.trans due
  | @issued expiresAt' i due' there' within free first =>
    obtain rfl : expiresAt = expiresAt' := Option.some.inj (due.symm.trans due')
    have free' := (hfree i).1 free
    refine ⟨?_, fun c hc => ?_, fun c hc => ?_⟩
    · rw [hx]
      exact ⟨fun _ => ⟨i, within, free'⟩, fun _ => ⟨_, rfl⟩⟩
    · rw [hx] at hc
      obtain rfl := Except.ok.inj hc
      exact ⟨i, within, free', fun j hj hno => first j hj ((hfree j).2 hno), rfl, ht⟩
    · rw [ht]
      exact (h.sound.mem_withLinkCode rfl).2 (.inr hc)
  | exhausted taken =>
    refine ⟨?_, fun c hc => ?_, fun c hc => ?_⟩
    · rw [hx]
      constructor
      · rintro ⟨c, hc⟩
        exact nomatch hc
      · rintro ⟨i, within, free⟩
        exact absurd ((hfree i).2 free) (taken i within)
    · rw [hx] at hc
      exact nomatch hc
    · rw [ht]
      exact hc

theorem redeemsOpen (h : d.ServesAccounts) (typed : String) (chatId : Int) :
    d.RedeemsOpen typed chatId := by
  have hlinks := links d typed chatId
  generalize hx : (runOn (linkChat typed chatId) d).1 = x at hlinks
  generalize ht : (runOn (linkChat typed chatId) d).2 = t at hlinks
  -- but for the last case there is no code that the text could open
  have fails {e : Error} (hx : (runOn (linkChat typed chatId) d).1 = .error e)
      (hno : ∀ c, ¬ d.IsOpenTo typed c) : d.RedeemsOpen typed chatId := by
    refine ⟨?_, fun p hp => nomatch hx.symm.trans hp⟩
    rw [hx]
    constructor
    · rintro ⟨p, hp⟩
      exact nomatch hp
    · rintro ⟨c, hc⟩
      exact absurd hc (hno c)
  cases hlinks with
  | unread unread =>
    refine fails hx fun c hc => ?_
    obtain ⟨code, read, -⟩ := (Desk.isOpenTo_iff h.sound).1 hc
    exact nomatch unread.symm.trans read
  | offline read offline => exact nomatch offline.symm.trans h.online
  | unknown read online unknown =>
    refine fails hx fun c hc => ?_
    obtain ⟨code, read', found⟩ := (Desk.isOpenTo_iff h.sound).1 hc
    obtain rfl := Option.some.inj (read.symm.trans read')
    exact nomatch unknown.symm.trans found
  | stranded read online found missing =>
    have hissuer := h.sound.issuers _ (Store.of_redeemable? found).1
    rw [missing] at hissuer
    exact nomatch hissuer
  | @linked code c p read online found there =>
    have hopen : d.IsOpenTo typed c := (Desk.isOpenTo_iff h.sound).2 ⟨code, read, found⟩
    refine ⟨?_, fun q hq => ?_⟩
    · rw [hx]
      exact ⟨fun _ => ⟨c, hopen⟩, fun _ => ⟨p, rfl⟩⟩
    · obtain rfl : p = q := Except.ok.inj (hx.symm.trans hq)
      exact ⟨c, hopen, there, ht⟩

end Service

/-! ### Runs -/

namespace Account

variable {office : Office} {d : Desk}

/-- What an event does to the link codes, while these are in order: nothing, or one is issued, or
one is used. -/
theorem next_linkCodes (h : d.store.HasSoundCodes) (event : Event) :
    ((next office d event).store.linkCodes = d.store.linkCodes ∧
        (next office d event).store.parents = d.store.parents ∧
        (next office d event).store.lastLinkCodeId = d.store.lastLinkCodeId) ∨
      (∃ parentId expiresAt i, d.store.parents.contains parentId = true ∧
        d.store.IsFree (d.draws.nth i) ∧ (next office d event).store =
          d.store.withLinkCode (d.issuedCode parentId expiresAt i)) ∨
      ∃ typed chatId c, event = .link typed chatId ∧ d.IsOpenTo typed c ∧
        (next office d event).store = d.store.redeemed c chatId d.now := by
  cases event with
  | clock now => exact .inl ⟨rfl, rfl, rfl⟩
  | draws draws => exact .inl ⟨rfl, rfl, rfl⟩
  | connect parentId chatId => exact .inl ⟨rfl, rfl, rfl⟩
  | issue parentId =>
    obtain ⟨x, hissues⟩ := exists_issues office d parentId
    generalize next office d (.issue parentId) = t at hissues ⊢
    cases hissues with
    | offline | unknown | endless | exhausted => exact .inl ⟨rfl, rfl, rfl⟩
    | @issued expiresAt i due there within free first =>
      exact .inr (.inl ⟨parentId, expiresAt, i, there, free.2, rfl⟩)
  | link typed chatId =>
    obtain ⟨x, hlinks⟩ := exists_links office d typed chatId
    generalize next office d (.link typed chatId) = t at hlinks ⊢
    cases hlinks with
    | unread | offline | unknown => exact .inl ⟨rfl, rfl, rfl⟩
    | stranded read online found | linked read online found =>
      have hopen := (Desk.isOpenTo_iff h).2 ⟨_, read, found⟩
      exact .inr (.inr ⟨typed, chatId, _, rfl, hopen, rfl⟩)

/-- **Every event leaves the link codes in order.** -/
theorem servesAccounts_next (h : d.ServesAccounts) (event : Event) :
    (next office d event).ServesAccounts := by
  obtain ⟨honline, -, hclashes⟩ := next_keeps office d event
  have steady : (next office d event).clashes = 0 := by
    rw [h.steady] at hclashes
    exact Nat.le_zero.1 hclashes
  refine ⟨honline.trans h.online, steady, ?_⟩
  rcases next_linkCodes h.sound event with
    ⟨hcodes, hparents, hlast⟩ | ⟨parentId, expiresAt, i, there, free, hstore⟩ |
      ⟨typed, chatId, c, -, hopen, hstore⟩
  · exact h.sound.of_eq hcodes hparents hlast
  · rw [hstore]
    exact h.sound.issued free there rfl rfl
  · rw [hstore]
    exact h.sound.redeemed hopen.1 chatId d.now

theorem servesAccounts_run (h : d.ServesAccounts) (events : List Event) :
    (run office d events).ServesAccounts :=
  run_induction (P := Desk.ServesAccounts) h (fun _ event h => servesAccounts_next h event) events

theorem exists_continues_next (h : d.ServesAccounts) (event : Event) {c : LinkCode}
    (hc : c ∈ d.store.linkCodes) :
    ∃ x ∈ (next office d event).store.linkCodes, x.Continues c := by
  rcases next_linkCodes h.sound event with
    ⟨hcodes, -⟩ | ⟨parentId, expiresAt, i, -, -, hstore⟩ | ⟨typed, chatId, b, -, hopen, hstore⟩
  · rw [hcodes]
    exact ⟨c, hc, .refl c⟩
  · rw [hstore]
    exact ⟨c, (h.sound.mem_withLinkCode rfl).2 (.inr hc), .refl c⟩
  · rw [hstore]
    by_cases hid : c.id = b.id
    · -- it is the one that is used
      obtain rfl : c = b := Table.eq_of_key_eq hc hopen.1 hid
      obtain ⟨-, -, unused, -⟩ := hopen
      exact ⟨_, Store.mem_redeemed.2 (.inl rfl), .inr ⟨unused, d.now, rfl⟩⟩
    · exact ⟨c, Store.mem_redeemed.2 (.inr ⟨hc, hid⟩), .refl c⟩

/-- **No link code is lost in a run**: it is there as it was, or used since. -/
theorem exists_continues_run (h : d.ServesAccounts) (events : List Event) {c : LinkCode}
    (hc : c ∈ d.store.linkCodes) :
    ∃ x ∈ (run office d events).store.linkCodes, x.Continues c := by
  induction events generalizing d c with
  | nil => exact ⟨c, hc, .refl c⟩
  | cons event events ih =>
    obtain ⟨x, hx, hxc⟩ := exists_continues_next h event hc
    obtain ⟨y, hy, hyx⟩ := ih (servesAccounts_next h event) hx
    exact ⟨y, hy, hyx.trans hxc⟩

/-! ### Redemptions -/

/-- The digits that an event redeems, and the time, if it is a request to link a chat and
succeeds. -/
def redemption? (d : Desk) : Event → Option (String × Instant)
  | .link typed chatId =>
    match (runOn (Service.linkChat typed chatId) d).1 with
    | .ok _ => some (.ofList (typed.toList.filter Char.isDigit), d.now)
    | .error _ => none
  | .issue _ | .connect .. | .clock _ | .draws _ => none

/-- All redemptions in a run, in order. -/
def redemptions (office : Office) : Desk → List Event → List (String × Instant)
  | _, [] => []
  | d, event :: events =>
    (redemption? d event).toList ++ redemptions office (next office d event) events

/-- What is redeemed is a code that can be used, and it is used then. -/
theorem of_redemption? (office : Office) (h : d.ServesAccounts) {event : Event}
    {r : String × Instant} (hr : redemption? d event = some r) :
    ∃ c ∈ d.store.linkCodes, c.code = r.1 ∧ c.usedAt = none ∧ r.2 < c.expiresAt ∧
      { c with usedAt := some r.2 } ∈ (next office d event).store.linkCodes := by
  cases event with
  | issue | connect | clock | draws => exact nomatch hr
  | link typed chatId =>
    unfold redemption? at hr
    dsimp only at hr
    split at hr
    · next p hp =>
      obtain rfl := Option.some.inj hr
      obtain ⟨c, ⟨hc, hdigits, unused, intime⟩, -, hdesk⟩ :=
        (Service.redeemsOpen h typed chatId).redeems p hp
      have hcode : c.code = .ofList (typed.toList.filter Char.isDigit) := by
        rw [← hdigits, String.ofList_toList]
      refine ⟨c, hc, hcode, unused, intime, ?_⟩
      change _ ∈ (runOn (Service.linkChat typed chatId) d).2.store.linkCodes
      rw [hdesk]
      exact Store.mem_redeemed.2 (.inl rfl)
    · exact nomatch hr

theorem mem_run_of_used (h : d.ServesAccounts) (events : List Event) {c : LinkCode}
    (hc : c ∈ d.store.linkCodes) (used : c.usedAt ≠ none) :
    c ∈ (run office d events).store.linkCodes := by
  obtain ⟨x, hx, hxc⟩ := exists_continues_run h events hc
  rwa [hxc.eq_of_used used] at hx

/-- **A used code is not redeemed again.** -/
theorem not_redeemed_of_used (h : d.ServesAccounts) (events : List Event) {c : LinkCode}
    (hc : c ∈ d.store.linkCodes) (used : c.usedAt ≠ none) :
    ∀ r ∈ redemptions office d events, r.1 ≠ c.code := by
  induction events generalizing d with
  | nil => exact fun r hr => absurd hr List.not_mem_nil
  | cons event events ih =>
    intro r hr
    rw [redemptions, List.mem_append, Option.mem_toList] at hr
    rcases hr with hr | hr
    · -- what is redeemed is not used, and no other code has the digits
      intro same
      obtain ⟨b, hb, hcode, unused, -⟩ := of_redemption? office h hr
      rw [h.sound.distinct b hb c hc (hcode.trans same)] at unused
      exact used unused
    · have hnext : c ∈ (next office d event).store.linkCodes :=
        mem_run_of_used h [event] hc used
      exact ih (servesAccounts_next h event) hnext r hr

/-- **No code is redeemed twice.** -/
theorem nodup_redemptions (h : d.ServesAccounts) (events : List Event) :
    ((redemptions office d events).map Prod.fst).Nodup := by
  induction events generalizing d with
  | nil => exact .nil
  | cons event events ih =>
    have h' : (next office d event).ServesAccounts := servesAccounts_next h event
    rw [redemptions, List.map_append]
    cases hr : redemption? d event with
    | none => exact ih h'
    | some r =>
      rw [Option.toList_some, List.map_singleton, List.singleton_append, List.nodup_cons]
      refine ⟨fun hagain => ?_, ih h'⟩
      -- the events after this one find the code used
      obtain ⟨c, -, hcode, -, -, hused⟩ := of_redemption? office h hr
      obtain ⟨later, hlater, same⟩ := List.mem_map.1 hagain
      exact not_redeemed_of_used h' events hused (nomatch ·) later hlater (same.trans hcode.symm)

theorem used_of_mem_redemptions (h : d.ServesAccounts) (events : List Event)
    {r : String × Instant} (hr : r ∈ redemptions office d events) :
    ∃ c ∈ (run office d events).store.linkCodes,
      c.code = r.1 ∧ c.usedAt = some r.2 ∧ r.2 < c.expiresAt := by
  induction events generalizing d with
  | nil => exact absurd hr List.not_mem_nil
  | cons event events ih =>
    have h' : (next office d event).ServesAccounts := servesAccounts_next h event
    rw [redemptions, List.mem_append, Option.mem_toList] at hr
    rcases hr with hr | hr
    · obtain ⟨c, -, hcode, -, intime, hused⟩ := of_redemption? office h hr
      exact ⟨_, mem_run_of_used h' events hused (nomatch ·), hcode, rfl, intime⟩
    · exact ih h' hr

/-- **Link codes are used once.** Let the link codes of a desk be in order. Then they are after
every run. A request for another takes the first of the draws that is not the digits of a code, used
or not, fails if all of them are, and overwrites none. A chat is linked by the digits of a code that
has not been used and has not expired, and by nothing else; the code is used then, and the chat
belongs to its parent. So of all requests in the run at most one succeeds with the same digits, and
it does before the code expires. -/
theorem codes_are_used_once (office : Office) (d : Desk) (h : d.ServesAccounts)
    (events : List Event) :
    (run office d events).ServesAccounts ∧
    (∀ parentId, (run office d events).store.parents.contains parentId = true →
      ∀ expiresAt, (run office d events).now.afterMinutes?
          office.settings.enrollment.linkCodeMinutes = some expiresAt →
        (run office d events).IssuesFirstFree office parentId expiresAt) ∧
    (∀ typed chatId, (run office d events).RedeemsOpen typed chatId) ∧
    ((redemptions office d events).map Prod.fst).Nodup ∧
    (∀ r ∈ redemptions office d events, ∃ c ∈ (run office d events).store.linkCodes,
      c.code = r.1 ∧ c.usedAt = some r.2 ∧ r.2 < c.expiresAt) ∧
    ∀ c ∈ d.store.linkCodes, (∃ x ∈ (run office d events).store.linkCodes, x.Continues c) ∧
      (c.usedAt ≠ none → ∀ r ∈ redemptions office d events, r.1 ≠ c.code) := by
  have h' : (run office d events).ServesAccounts := servesAccounts_run h events
  refine ⟨h', fun parentId there expiresAt due => ?_, fun typed chatId => ?_, ?_, ?_, ?_⟩
  · exact Service.issuesFirstFree office h' there due
  · exact Service.redeemsOpen h' typed chatId
  · exact nodup_redemptions h events
  · exact fun r hr => used_of_mem_redemptions h events hr
  · exact fun c hc => ⟨exists_continues_run h events hc, not_redeemed_of_used h events hc⟩

end Account

namespace Sample

/-- A desk that has issued the first number that it draws before. -/
def codeDesk : Desk :=
  { linkDesk 1 with draws := ⟨fun | 0 => ⟨123456, by decide⟩ | _ => ⟨654321, by decide⟩, 0⟩ }

/-- A code is issued with the second draw, and typed after another that is typed twice. Each works
once. -/
theorem each_code_works_once :
    codeDesk.ServesAccounts ∧ (∃ expiresAt, codeDesk.IssuesFirstFree office 1 expiresAt) ∧
      Account.redemptions office codeDesk [.issue 1, .link "123456" 777, .link "123456" 888,
        .link "code: 654-321" 888] = [("123456", ⟨10⟩), ("654321", ⟨10⟩)] ∧
      ((Account.redemptions office codeDesk [.issue 1, .link "123456" 777, .link "123456" 888,
        .link "code: 654-321" 888]).map Prod.fst).Nodup := by
  have serves : codeDesk.ServesAccounts := ⟨rfl, rfl, by decide⟩
  obtain ⟨-, issues, -⟩ := Account.codes_are_used_once office codeDesk serves []
  have firstFree : codeDesk.IssuesFirstFree office 1 _ := issues 1 rfl _ rfl
  obtain ⟨-, -, -, once, -⟩ := Account.codes_are_used_once office codeDesk serves
    [.issue 1, .link "123456" 777, .link "123456" 888, .link "code: 654-321" 888]
  exact ⟨serves, ⟨_, firstFree⟩, rfl, once⟩

end Sample

end EnrollmentDesk
