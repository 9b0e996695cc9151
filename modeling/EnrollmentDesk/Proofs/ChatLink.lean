import EnrollmentDesk.Desk.Account
import EnrollmentDesk.Proofs.Desk

/-!
# Linking a chat

A parent types a link code, and the chat is linked to it. `Service.Links` lists what may come of
that: no code was typed, or the store cannot be reached, or no code with the digits can be redeemed,
and then the desk is as it was; or one can, and then it is marked as used and the chat is linked to
its parent.

Only afterwards is the parent looked up. If it is not stored the answer is the same as for a code
that nobody issued, but what was written stays: the code is used up, and the chat has lost the
parent it was linked to. Such a code is *stranded* (`Desk.Strands`), and a failed request leaves the
desk as it was exactly if it is not about one. No code is stranded whose parent is stored
(`Store.HasIssuers`), as it is for every code when it is issued.

## Main statements

* `Service.links` — what may come of a request to link a chat;
* `Desk.failed_link_changes_nothing_iff` — when a failed request changes nothing.
-/

namespace EnrollmentDesk

/-! ### Redeeming -/

namespace Store

variable {s : Store} {code : String} {now : Instant} {c : LinkCode}

/-- The code that is redeemed by the digits, if there is one. -/
def redeemable? (s : Store) (code : String) (now : Instant) : Option LinkCode :=
  s.linkCodes.rows.find? fun c => c.code == code && c.isRedeemable now

/-- The store once a code is used and the chat is linked to its parent. -/
def redeemed (s : Store) (c : LinkCode) (chatId : Int) (now : Instant) : Store :=
  { s with linkCodes := s.linkCodes.put { c with usedAt := some now } }.link c.parentId chatId

theorem redeem_of_none (h : s.redeemable? code now = none) (chatId : Int) :
    s.redeem code chatId now = (none, s) := by
  have h : (s.linkCodes.rows.find? fun c => c.code == code && c.isRedeemable now) = none := h
  unfold redeem
  rw [h]

theorem redeem_of_some (h : s.redeemable? code now = some c) (chatId : Int) :
    s.redeem code chatId now = (s.parents.get? c.parentId, s.redeemed c chatId now) := by
  have h : (s.linkCodes.rows.find? fun c => c.code == code && c.isRedeemable now) = some c := h
  unfold redeem
  rw [h]
  rfl

/-- A code that is redeemed is stored, and has not been used. -/
theorem of_redeemable? (h : s.redeemable? code now = some c) :
    c ∈ s.linkCodes ∧ c.usedAt = none := by
  refine ⟨List.mem_of_find?_eq_some h, ?_⟩
  have hfound := List.find?_some h
  rw [Bool.and_eq_true] at hfound
  have hredeemable := hfound.2
  unfold LinkCode.isRedeemable at hredeemable
  rw [Bool.and_eq_true] at hredeemable
  exact Option.isNone_iff_eq_none.1 hredeemable.1

/-- Redeeming a code is seen in the store: the code is used afterwards. -/
theorem redeemed_ne (h : s.redeemable? code now = some c) (chatId : Int) :
    s.redeemed c chatId now ≠ s := by
  intro same
  obtain ⟨hc, unused⟩ := of_redeemable? h
  have hbefore : s.linkCodes.get? c.id = some c := Table.get?_of_mem hc
  have hafter : (s.redeemed c chatId now).linkCodes.get? c.id =
      some { c with usedAt := some now } := by
    change (s.linkCodes.put { c with usedAt := some now }).get? c.id = _
    rw [Table.get?_put, if_pos rfl]
  rw [same, hbefore] at hafter
  have hused : c.usedAt = some now := congrArg LinkCode.usedAt (Option.some.inj hafter)
  exact nomatch unused.symm.trans hused

/-- The parents of all link codes are stored. -/
def HasIssuers (s : Store) : Prop :=
  ∀ c ∈ s.linkCodes, (s.parents.get? c.parentId).isSome = true

instance (s : Store) : Decidable s.HasIssuers :=
  inferInstanceAs (Decidable (∀ c ∈ s.linkCodes.rows, _))

end Store

/-! ### Requests -/

namespace Service

/-- What may come of a request to link a chat. -/
inductive Links (d : Desk) (typed : String) (chatId : Int) : Except Error Parent → Desk → Prop
  /-- No link code was typed. -/
  | unread (h : LinkCode.normalize typed = none) :
      Links d typed chatId (.error (.badInput linkUsage)) d
  | offline {code : String} (read : LinkCode.normalize typed = some code)
      (h : d.online = false) : Links d typed chatId (.error (.database (.socket .missing))) d
  /-- No code with the digits can be redeemed. -/
  | unknown {code : String} (read : LinkCode.normalize typed = some code) (online : d.online = true)
      (h : d.store.redeemable? code d.now = none) : Links d typed chatId (.error .linkCodeInvalid) d
  /-- A code is used, but its parent is not there. -/
  | stranded {code : String} {c : LinkCode} (read : LinkCode.normalize typed = some code)
      (online : d.online = true) (found : d.store.redeemable? code d.now = some c)
      (missing : d.store.parents.get? c.parentId = none) :
      Links d typed chatId (.error .linkCodeInvalid)
        { d with store := d.store.redeemed c chatId d.now }
  | linked {code : String} {c : LinkCode} {p : Parent}
      (read : LinkCode.normalize typed = some code) (online : d.online = true)
      (found : d.store.redeemable? code d.now = some c)
      (there : d.store.parents.get? c.parentId = some p) :
      Links d typed chatId (.ok p) { d with store := d.store.redeemed c chatId d.now }

theorem runOn_redeem {d : Desk} (online : d.online = true) (code : String) (chatId : Int)
    (time : Instant) :
    runOn (redeem code chatId time) d = (.ok (d.store.redeem code chatId time).1,
      { d with store := (d.store.redeem code chatId time).2 }) := by
  unfold redeem
  rw [runOn_bind_ok (runOn_connect online), runOn_bind_ok (runOn_get d)]
  rfl

/-- **What comes of a request to link a chat.** -/
theorem links (d : Desk) (typed : String) (chatId : Int) :
    Links d typed chatId (runOn (linkChat typed chatId) d).1
      (runOn (linkChat typed chatId) d).2 := by
  unfold linkChat
  cases read : LinkCode.normalize typed with
  | none => exact .unread read
  | some code =>
    dsimp only
    have hnow : runOn now d = (.ok d.now, d) := rfl
    cases online : d.online with
    | false =>
      have hredeem : runOn (redeem code chatId d.now) d =
          (.error (.database (.socket .missing)), d) :=
        runOn_bind_error (runOn_connect_of_offline online)
      rw [runOn_bind_ok hnow, runOn_bind_error hredeem]
      exact .offline read online
    | true =>
      rw [runOn_bind_ok hnow, runOn_bind_ok (runOn_redeem online code chatId d.now)]
      cases found : d.store.redeemable? code d.now with
      | none =>
        rw [Store.redeem_of_none found]
        exact .unknown read online found
      | some c =>
        -- what is written does not depend on whether the parent is stored
        rw [Store.redeem_of_some found]
        dsimp only
        cases there : d.store.parents.get? c.parentId with
        | none => exact .stranded read online found there
        | some p => exact .linked read online found there

end Service

/-- What is typed is the digits of a code that can be redeemed, but whose parent is not stored. -/
def Desk.Strands (d : Desk) (typed : String) : Prop :=
  ∃ code c, LinkCode.normalize typed = some code ∧ d.online = true ∧
    d.store.redeemable? code d.now = some c ∧ d.store.parents.get? c.parentId = none

/-- No code is stranded whose parent is stored. -/
theorem Desk.not_strands {d : Desk} (issued : d.store.HasIssuers) (typed : String) :
    ¬ d.Strands typed := by
  rintro ⟨code, c, -, -, found, missing⟩
  have hissuer := issued c (Store.of_redeemable? found).1
  rw [missing] at hissuer
  exact nomatch hissuer

/-- A failed request is about a stranded code, or leaves the desk as it is. -/
theorem Desk.of_failed_link {d : Desk} {typed : String} {chatId : Int} {e : Error}
    (failed : (runOn (Service.linkChat typed chatId) d).1 = .error e) :
    (¬ d.Strands typed ∧ (runOn (Service.linkChat typed chatId) d).2 = d) ∨
      ∃ code c, LinkCode.normalize typed = some code ∧ d.online = true ∧
        d.store.redeemable? code d.now = some c ∧ d.store.parents.get? c.parentId = none ∧
        e = .linkCodeInvalid ∧ (runOn (Service.linkChat typed chatId) d).2 =
          { d with store := d.store.redeemed c chatId d.now } := by
  have hlinks := Service.links d typed chatId
  rw [failed] at hlinks
  generalize (runOn (Service.linkChat typed chatId) d).2 = t at hlinks ⊢
  cases hlinks with
  | unread h =>
    refine .inl ⟨?_, rfl⟩
    rintro ⟨code, c, read, -⟩
    exact nomatch h.symm.trans read
  | offline read h =>
    refine .inl ⟨?_, rfl⟩
    rintro ⟨code, c, -, online, -⟩
    exact nomatch h.symm.trans online
  | unknown read online h =>
    refine .inl ⟨?_, rfl⟩
    rintro ⟨code, c, read', -, found, -⟩
    obtain rfl := Option.some.inj (read.symm.trans read')
    exact nomatch h.symm.trans found
  | @stranded code c read online found missing =>
    exact .inr ⟨code, c, read, online, found, missing, rfl, rfl⟩

/-- **A failed request to link a chat changes nothing**, exactly if it is not about a stranded code;
so it does if the parents of all codes are stored. If it is about one, it fails as if there were no
such code, but the code is used up and the chat has moved to a parent who is not there. -/
theorem Desk.failed_link_changes_nothing_iff (d : Desk) (typed : String) (chatId : Int) {e : Error}
    (failed : (runOn (Service.linkChat typed chatId) d).1 = .error e) :
    ((runOn (Service.linkChat typed chatId) d).2 = d ↔ ¬ d.Strands typed) ∧
      (d.store.HasIssuers → (runOn (Service.linkChat typed chatId) d).2 = d) ∧
      (d.Strands typed → e = .linkCodeInvalid ∧
        ∃ c ∈ d.store.linkCodes, c.usedAt = none ∧ d.store.parents.get? c.parentId = none ∧
          (runOn (Service.linkChat typed chatId) d).2 =
            { d with store := d.store.redeemed c chatId d.now }) := by
  rcases of_failed_link failed with
    ⟨safe, same⟩ | ⟨code, c, read, online, found, missing, rfl, moved⟩
  · exact ⟨⟨fun _ => safe, fun _ => same⟩, fun _ => same, fun strands => absurd strands safe⟩
  · have strands : d.Strands typed := ⟨code, c, read, online, found, missing⟩
    obtain ⟨hc, unused⟩ := Store.of_redeemable? found
    refine ⟨⟨fun same => ?_, fun safe => absurd strands safe⟩,
      fun issued => absurd strands (not_strands issued typed),
      fun _ => ⟨rfl, c, hc, unused, missing, moved⟩⟩
    -- the code that was used shows that something was written
    rw [moved] at same
    exact absurd (congrArg Desk.store same) (Store.redeemed_ne found chatId)

namespace Sample

/-- A link code of a parent. -/
def invitation (parentId : Int) : LinkCode where
  id := 1
  code := "123456"
  parentId := parentId
  expiresAt := ⟨1000⟩
  usedAt := none
  createdAt := ⟨0⟩

/-- A desk with one parent, whose chat is linked, and a link code. -/
def linkDesk (parentId : Int) : Desk :=
  { desk with
    store := ((store.addParent ⟨1, "Eve", "+628110000001", none, ⟨0⟩, ⟨0⟩⟩).addLinkCode
      (invitation parentId)).link 1 555 }

/-- Digits that nobody was given change nothing. -/
theorem unknown_digits_change_nothing :
    (runOn (Service.linkChat "654321" 555) (linkDesk 1)).1 = .error .linkCodeInvalid ∧
      (linkDesk 1).store.HasIssuers ∧
      (runOn (Service.linkChat "654321" 555) (linkDesk 1)).2 = linkDesk 1 := by
  have failed : (runOn (Service.linkChat "654321" 555) (linkDesk 1)).1 = .error .linkCodeInvalid :=
    rfl
  have issued : (linkDesk 1).store.HasIssuers := by decide
  obtain ⟨-, safe, -⟩ := Desk.failed_link_changes_nothing_iff (linkDesk 1) "654321" 555 failed
  exact ⟨failed, issued, safe issued⟩

/-- **A stranded code takes the chat away from its parent**, and the answer is that there is no such
code. -/
theorem stranded_code_moves_chat :
    (runOn (Service.linkChat "123456" 555) (linkDesk 9)).1 = .error .linkCodeInvalid ∧
      (linkDesk 9).store.linkedParent 555 = some 1 ∧
      (runOn (Service.linkChat "123456" 555) (linkDesk 9)).2.store.linkedParent 555 = some 9 ∧
      ((linkDesk 9).store.linkCode? "123456").map LinkCode.usedAt = some none ∧
      ((runOn (Service.linkChat "123456" 555) (linkDesk 9)).2.store.linkCode? "123456").map
        LinkCode.usedAt = some (some ⟨10⟩) :=
  ⟨rfl, rfl, rfl, rfl, rfl⟩

end Sample

end EnrollmentDesk
