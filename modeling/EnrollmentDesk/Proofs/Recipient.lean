import EnrollmentDesk.Proofs.Account
import EnrollmentDesk.Proofs.Standing
import Mathlib.Data.List.Find

/-!
# Whom a notice reaches

A chat belongs to one parent at a time, the one it was linked to last. A parent may have several
chats, and a notice goes to the one that was linked last among those it still has. The store answers
both questions by going through its links from the newest, once for a chat and once for a parent,
and a chat that is linked again is taken out of the middle.

The two answers agree because of what is taken out: a link behind which another of the same chat
stands. So a question about chats alone, whatever it is, finds the same link among those that are
stored as among all that were ever made (`Store.Records`). To ask for the chat of a parent is such a
question, once it is asked for a chat that is linked to the parent (`Store.Records.chatOf_eq`).

## Main statements

* `Store.Records.link` — linking a chat keeps the record;
* `Operation.notifies` — who is notified of promotions;
* `Account.linkMade?_link` — whom a request links, and that it links nobody when it fails, unless its
  code is stranded;
* `Account.notices_follow_links` — for all that is linked in a run: where a chat belongs, where a
  notice goes, and where it goes when a chat is linked to another parent.
-/

namespace EnrollmentDesk

/-- The link is the last one that meets a condition. -/
def ChatLink.IsLast (made : List ChatLink) (p : ChatLink → Prop) (l : ChatLink) : Prop :=
  ∃ before after, made = before ++ l :: after ∧ p l ∧ ∀ x ∈ after, ¬ p x

theorem ChatLink.find?_reverse_eq_some_iff {made : List ChatLink} {p : ChatLink → Bool}
    {l : ChatLink} :
    made.reverse.find? p = some l ↔ IsLast made (fun l => p l = true) l := by
  rw [List.find?_eq_some_iff_append]
  constructor
  · rintro ⟨hl, newer, older, hmade, hnone⟩
    refine ⟨older.reverse, newer.reverse, ?_, hl, fun x hx => ?_⟩
    · rw [← List.reverse_reverse made, hmade]
      simp
    · have hx' := hnone x (List.mem_reverse.1 hx)
      simpa using hx'
  · rintro ⟨before, after, rfl, hl, hnone⟩
    refine ⟨hl, after.reverse, before.reverse, by simp, fun x hx => ?_⟩
    have hx' := hnone x (List.mem_reverse.1 hx)
    simpa using hx'

namespace Store

/-- The links of a store are what is left of all that were made: each chat has at most one, and a
question about chats finds the same link, from the newest. -/
structure Records (s : Store) (made : List ChatLink) : Prop where
  single : (s.links.map ChatLink.chatId).Nodup
  latest : ∀ f : Int → Bool,
    (s.links.reverse.find? fun l => f l.chatId) = made.reverse.find? fun l => f l.chatId

variable {s t : Store} {made : List ChatLink}

theorem Records.of_eq (h : s.Records made) (hlinks : t.links = s.links) : t.Records made := by
  obtain ⟨single, latest⟩ := h
  rw [← hlinks] at single latest
  exact ⟨single, latest⟩

theorem Records.empty (h : s.links = []) : s.Records [] := by
  refine ⟨?_, fun f => ?_⟩
  · rw [h]
    exact .nil
  · rw [h]

theorem links_link (s : Store) (parentId chatId : Int) :
    (s.link parentId chatId).links =
      (s.links.filter fun l => l.chatId != chatId) ++ [⟨parentId, chatId⟩] := rfl

/-- **Linking a chat keeps the record.** What goes is the chat's older link, and that is not looked
for any more. -/
theorem Records.link (h : s.Records made) (parentId chatId : Int) :
    (s.link parentId chatId).Records (made ++ [⟨parentId, chatId⟩]) where
  single := by
    rw [links_link, List.map_append, List.map_singleton, List.nodup_append]
    refine ⟨(List.filter_sublist.map _).nodup h.single, List.nodup_singleton _, ?_⟩
    intro a ha b hb
    obtain ⟨l, hl, rfl⟩ := List.mem_map.1 ha
    rw [List.mem_singleton.1 hb]
    simpa using (List.mem_filter.1 hl).2
  latest := by
    intro f
    rw [links_link, List.reverse_append, List.reverse_append, List.reverse_singleton,
      List.singleton_append, List.singleton_append, List.find?_cons, List.find?_cons]
    dsimp only
    cases hf : f chatId with
    | true => rfl
    | false =>
      -- whoever is looked for now is another chat
      dsimp only
      rw [← List.filter_reverse, List.find?_filter, ← h.latest f]
      refine List.find?_congr fun l _ => ?_
      by_cases same : l.chatId = chatId
      · rw [same, hf]
        simp
      · simp [same]

/-- **A chat belongs to the parent it was linked to last.** -/
theorem Records.linkedParent_eq (h : s.Records made) (chatId : Int) :
    s.linkedParent chatId =
      (made.reverse.find? fun l => l.chatId == chatId).map ChatLink.parentId := by
  unfold linkedParent
  rw [h.latest fun chat => chat == chatId]

theorem linkedParent_of_mem (single : (s.links.map ChatLink.chatId).Nodup) {l : ChatLink}
    (hl : l ∈ s.links) : s.linkedParent l.chatId = some l.parentId := by
  unfold linkedParent
  cases hfind : s.links.reverse.find? fun x => x.chatId == l.chatId with
  | none =>
    have hno := List.find?_eq_none.1 hfind l (List.mem_reverse.2 hl)
    exact absurd (beq_self_eq_true l.chatId) hno
  | some x =>
    have hx : x ∈ s.links := List.mem_reverse.1 (List.mem_of_find?_eq_some hfind)
    have hchat : x.chatId = l.chatId := by simpa using List.find?_some hfind
    rw [List.inj_on_of_nodup_map single hx hl hchat]
    rfl

/-- **A parent has the chat that was linked last** among all that belong to it. -/
theorem Records.chatOf_eq (h : s.Records made) (parentId : Int) :
    s.chatOf parentId =
      (made.reverse.find? fun l => s.linkedParent l.chatId == some parentId).map
        ChatLink.chatId := by
  have hsame : (s.links.reverse.find? fun l => l.parentId == parentId) =
      s.links.reverse.find? fun l => s.linkedParent l.chatId == some parentId := by
    refine List.find?_congr fun l hl => ?_
    rw [linkedParent_of_mem h.single (List.mem_reverse.1 hl)]
    rfl
  unfold chatOf
  rw [hsame, h.latest fun chat => s.linkedParent chat == some parentId]

theorem recipient?_eq {r : Registration} {c : Class} (hr : s.registrations.get? r.id = some r)
    (hc : s.classes.get? r.classId = some c) :
    s.recipient? r.id =
      (s.chatOf r.parentId).map fun chatId => ⟨chatId, s.childName r.childId, c.name, c.date⟩ := by
  unfold recipient?
  rw [hr]
  simp only [Option.bind_eq_bind, Option.bind_some]
  cases s.chatOf r.parentId with
  | none => rfl
  | some chatId =>
    rw [Option.bind_some, hc]
    rfl

/-- Whoever gets a notice is the chat of the parent of a registration that is stored. -/
theorem chatOf_of_recipient? {id : Int} {whom : Recipient} (h : s.recipient? id = some whom) :
    ∃ r, s.registrations.get? id = some r ∧ s.chatOf r.parentId = some whom.chatId := by
  unfold recipient? at h
  simp only [Option.bind_eq_bind, Option.bind_eq_some_iff] at h
  obtain ⟨r, hr, chatId, hchat, c, -, hwhom⟩ := h
  obtain rfl := Option.some.inj hwhom
  exact ⟨r, hr, hchat⟩

theorem linkedParent_of_chatOf (single : (s.links.map ChatLink.chatId).Nodup)
    {parentId chatId : Int} (h : s.chatOf parentId = some chatId) :
    s.linkedParent chatId = some parentId := by
  unfold chatOf at h
  obtain ⟨l, hl, rfl⟩ := Option.map_eq_some_iff.1 h
  have hmem : l ∈ s.links := List.mem_reverse.1 (List.mem_of_find?_eq_some hl)
  have hparent : l.parentId = parentId := by simpa using List.find?_some hl
  rw [linkedParent_of_mem single hmem, hparent]

/-- A chat that is linked belongs to its new parent, and all others to theirs. -/
theorem Records.linkedParent_link (h : s.Records made) (parentId chatId chat : Int) :
    (s.link parentId chatId).linkedParent chat =
      if chat = chatId then some parentId else s.linkedParent chat := by
  rw [(h.link parentId chatId).linkedParent_eq, h.linkedParent_eq, List.reverse_append,
    List.reverse_singleton, List.singleton_append, List.find?_cons]
  by_cases same : chat = chatId
  · rw [same, if_pos rfl, beq_self_eq_true]
    rfl
  · rw [if_neg same, beq_eq_false_iff_ne.2 fun h => same h.symm]

/-- **Where a notice goes**: to the chat linked last among those that belong to the parent. -/
theorem Records.recipient?_eq_some_iff (h : s.Records made) {r : Registration} {c : Class}
    (hr : s.registrations.get? r.id = some r) (hc : s.classes.get? r.classId = some c)
    (whom : Recipient) :
    s.recipient? r.id = some whom ↔
      ∃ l, ChatLink.IsLast made (fun l => s.linkedParent l.chatId = some r.parentId) l ∧
        whom = ⟨l.chatId, s.childName r.childId, c.name, c.date⟩ := by
  rw [recipient?_eq hr hc, h.chatOf_eq, Option.map_map, Option.map_eq_some_iff]
  refine exists_congr fun l => ?_
  rw [ChatLink.find?_reverse_eq_some_iff]
  simp only [beq_iff_eq, Function.comp_apply]
  exact and_congr_right fun _ => eq_comm

theorem Records.recipient?_eq_none_iff (h : s.Records made) {r : Registration} {c : Class}
    (hr : s.registrations.get? r.id = some r) (hc : s.classes.get? r.classId = some c) :
    s.recipient? r.id = none ↔ ∀ chatId, s.linkedParent chatId ≠ some r.parentId := by
  rw [recipient?_eq hr hc, Option.map_eq_none_iff]
  constructor
  · intro hnone chatId hparent
    -- the link by which the chat belongs to the parent is stored
    unfold linkedParent at hparent
    obtain ⟨l, hl, hlparent⟩ := Option.map_eq_some_iff.1 hparent
    unfold chatOf at hnone
    have hno := List.find?_eq_none.1 (Option.map_eq_none_iff.1 hnone) l
      (List.mem_of_find?_eq_some hl)
    exact hno (beq_iff_eq.2 hlparent)
  · intro hnone
    cases hchat : s.chatOf r.parentId with
    | none => rfl
    | some chatId => exact absurd (linkedParent_of_chatOf h.single hchat) (hnone chatId)

end Store

theorem ChatLink.isLast_append_of_not {made : List ChatLink} {p : ChatLink → Prop} {l x : ChatLink}
    (hx : ¬ p x) : IsLast (made ++ [x]) p l ↔ IsLast made p l := by
  constructor
  · rintro ⟨before, after, hmade, hl, hnone⟩
    rcases List.eq_nil_or_concat after with rfl | ⟨after, y, rfl⟩
    · obtain ⟨-, hlast⟩ := List.append_inj' hmade rfl
      rw [← List.singleton_inj.1 hlast] at hl
      exact absurd hl hx
    · have hmade' : made ++ [x] = (before ++ l :: after) ++ [y] := by
        rw [hmade, List.append_assoc, List.cons_append]
        simp
      obtain ⟨rfl, -⟩ := List.append_inj' hmade' rfl
      refine ⟨before, after, rfl, hl, fun z hz => hnone z ?_⟩
      simp [hz]
  · rintro ⟨before, after, rfl, hl, hnone⟩
    refine ⟨before, after ++ [x], by simp, hl, fun z hz => ?_⟩
    rcases List.mem_append.1 hz with hz | hz
    · exact hnone z hz
    · rw [List.mem_singleton.1 hz]
      exact hx

/-- Where the notices about a registration go, given all links that were made: to the chat that was
linked last of those that belong to its parent, and to none if there is none. When a chat is linked
to another parent, the others are left. -/
structure Store.NotifiesLast (s : Store) (made : List ChatLink) (r : Registration) (c : Class) :
    Prop where
  some_iff : ∀ whom, s.recipient? r.id = some whom ↔
    ∃ l, ChatLink.IsLast made (fun l => s.linkedParent l.chatId = some r.parentId) l ∧
      whom = ⟨l.chatId, s.childName r.childId, c.name, c.date⟩
  none_iff : s.recipient? r.id = none ↔ ∀ chatId, s.linkedParent chatId ≠ some r.parentId
  moved : ∀ parentId chatId, parentId ≠ r.parentId → ∀ whom,
    (s.link parentId chatId).recipient? r.id = some whom ↔
      ∃ l, ChatLink.IsLast made
          (fun l => l.chatId ≠ chatId ∧ s.linkedParent l.chatId = some r.parentId) l ∧
        whom = ⟨l.chatId, s.childName r.childId, c.name, c.date⟩

theorem Store.Records.notifiesLast {s : Store} {made : List ChatLink} (h : s.Records made)
    {r : Registration} {c : Class} (hr : s.registrations.get? r.id = some r)
    (hc : s.classes.get? r.classId = some c) : s.NotifiesLast made r c where
  some_iff := h.recipient?_eq_some_iff hr hc
  none_iff := h.recipient?_eq_none_iff hr hc
  moved := by
    intro parentId chatId hne whom
    have hserves : (fun l : ChatLink =>
        (s.link parentId chatId).linkedParent l.chatId = some r.parentId) =
        fun l => l.chatId ≠ chatId ∧ s.linkedParent l.chatId = some r.parentId := by
      funext l
      rw [h.linkedParent_link]
      split
      · next same => simp [same, hne]
      · next other => simp [other]
    -- the newest link is to the other parent, so it is none of those that count
    have hr' : (s.link parentId chatId).registrations.get? r.id = some r := hr
    have hcount := (h.link parentId chatId).recipient?_eq_some_iff hr' hc whom
    rw [hserves] at hcount
    rw [hcount]
    refine exists_congr fun l => and_congr_left fun _ => ?_
    exact ChatLink.isLast_append_of_not fun h => h.1 rfl

/-! ### Notices -/

namespace Operation

variable {st : EnrollmentSettings} {office : Office} {op : Operation} {d : Desk}

theorem Effect.sent_eq {x : Except Error (op.Answer × List Registration)} {t : Desk}
    (h : Effect st op d x t) : t.sent = d.sent := by
  cases h <;> rfl

theorem links_result (e : Edit) (c : Class) (now : Instant) (s : Store) :
    (e.result c now s).links = s.links := by
  cases e <;> rfl

theorem Effect.links_eq {x : Except Error (op.Answer × List Registration)} {t : Desk}
    (h : Effect st op d x t) : t.store.links = d.store.links := by
  cases h with
  | fails => rfl
  | leaves => rfl
  | writes c e => exact links_result e c d.now d.store

/-- **Who is notified of promotions.** Whatever an operation sends goes to chats that belong to the
parents of those promoted, as these are stored. -/
theorem notifies (op : Operation) (alone : d.rival = none)
    (single : (d.store.links.map ChatLink.chatId).Nodup) :
    ∃ sent, (runOn (op.perform office) d).2.sent = d.sent ++ sent ∧
      ∀ q ∈ sent, ∃ p ∈ op.promotedOf (runOn (op.settle office.settings.enrollment) d).1,
        ∃ r ∈ (runOn (op.perform office) d).2.store.registrations, r.id = p.id ∧
          d.store.linkedParent q.chatId = some r.parentId := by
  have heffect := op.effect_settle office.settings.enrollment alone
  rw [op.runOn_perform office]
  generalize runOn (op.settle office.settings.enrollment) d = y at heffect ⊢
  obtain ⟨x, mid⟩ := y
  cases x with
  | error e =>
    refine ⟨[], ?_, fun q hq => absurd hq List.not_mem_nil⟩
    rw [List.append_nil]
    exact heffect.sent_eq
  | ok y =>
    obtain ⟨report, sent, hann, hnotifies⟩ :=
      Service.runOn_announce_notifies office y.2 mid
    have htold : (Service.told office (Except.ok y, mid)).2 =
        (runOn (Service.announce office y.2) mid).2 := rfl
    rw [htold, hann]
    refine ⟨sent, congrArg (· ++ sent) heffect.sent_eq, fun q hq => ?_⟩
    obtain ⟨p, hp, whom, hwhom, hchat⟩ := hnotifies q hq
    obtain ⟨r, hr, hof⟩ := Store.chatOf_of_recipient? hwhom
    have hlinks : mid.store.links = d.store.links := heffect.links_eq
    have hof' : d.store.chatOf r.parentId = some whom.chatId := by
      unfold Store.chatOf at hof ⊢
      rwa [← hlinks]
    refine ⟨p, hp, r, Table.mem_of_get? hr, Table.key_of_get? hr, ?_⟩
    rw [hchat]
    exact Store.linkedParent_of_chatOf single hof'

end Operation

/-! ### Runs -/

namespace Account

variable {office : Office} {d : Desk}

/-- The link that an event makes: one that is made from outside, or that of the code which is
redeemed. -/
def linkMade? (d : Desk) : Event → Option ChatLink
  | .connect parentId chatId => some ⟨parentId, chatId⟩
  | .link typed chatId =>
    if d.online then
      ((LinkCode.normalize typed).bind fun code => d.store.redeemable? code d.now).map
        fun c => ⟨c.parentId, chatId⟩
    else none
  | .issue _ | .clock _ | .draws _ => none

/-- All links made in a run, in order. -/
def linksMade (office : Office) : Desk → List Event → List ChatLink
  | _, [] => []
  | d, event :: events =>
    (linkMade? d event).toList ++ linksMade office (next office d event) events

/-- A request that succeeds links the chat to the parent who is the answer, and one that fails links
it to nobody, unless its code is stranded. -/
theorem linkMade?_link (d : Desk) (typed : String) (chatId : Int) :
    (∀ p, (runOn (Service.linkChat typed chatId) d).1 = .ok p →
      linkMade? d (.link typed chatId) = some ⟨p.id, chatId⟩) ∧
    ∀ e, (runOn (Service.linkChat typed chatId) d).1 = .error e → ¬ d.Strands typed →
      linkMade? d (.link typed chatId) = none := by
  have hlinks := Service.links d typed chatId
  generalize (runOn (Service.linkChat typed chatId) d).1 = x at hlinks ⊢
  generalize (runOn (Service.linkChat typed chatId) d).2 = t at hlinks
  unfold linkMade?
  dsimp only
  cases hlinks with
  | unread unread =>
    refine ⟨fun p hp => (nomatch hp), fun e _ _ => ?_⟩
    rw [unread]
    exact ite_self none
  | offline read offline =>
    refine ⟨fun p hp => (nomatch hp), fun e _ _ => ?_⟩
    rw [offline, if_neg Bool.false_ne_true]
  | unknown read online unknown =>
    refine ⟨fun p hp => (nomatch hp), fun e _ _ => ?_⟩
    rw [online, read, if_pos rfl, Option.bind_some, unknown]
    rfl
  | stranded read online found missing =>
    exact ⟨fun p hp => (nomatch hp),
      fun e _ safe => absurd ⟨_, _, read, online, found, missing⟩ safe⟩
  | @linked code c p read online found there =>
    refine ⟨fun q hq => ?_, fun e he => (nomatch he)⟩
    obtain rfl := Except.ok.inj hq
    have hid : p.id = c.parentId := Table.key_of_get? there
    rw [online, read, if_pos rfl, Option.bind_some, found, hid]
    rfl

/-- **What an event links is recorded.** -/
theorem records_next {made : List ChatLink} (h : d.store.Records made) (event : Event) :
    (next office d event).store.Records (made ++ (linkMade? d event).toList) := by
  cases event with
  | connect parentId chatId => exact h.link parentId chatId
  | clock now =>
    rw [linkMade?, Option.toList_none, List.append_nil]
    exact h
  | draws draws =>
    rw [linkMade?, Option.toList_none, List.append_nil]
    exact h
  | issue parentId =>
    rw [linkMade?, Option.toList_none, List.append_nil]
    refine h.of_eq ?_
    obtain ⟨x, hissues⟩ := exists_issues office d parentId
    generalize next office d (.issue parentId) = t at hissues ⊢
    cases hissues <;> rfl
  | link typed chatId =>
    obtain ⟨x, hlinks⟩ := exists_links office d typed chatId
    generalize next office d (.link typed chatId) = t at hlinks ⊢
    unfold linkMade?
    dsimp only
    cases hlinks with
    | unread unread =>
      rw [unread, Option.bind_none, Option.map_none, ite_self, Option.toList_none, List.append_nil]
      exact h
    | offline read offline =>
      rw [offline, if_neg Bool.false_ne_true, Option.toList_none, List.append_nil]
      exact h
    | unknown read online unknown =>
      rw [online, read, if_pos rfl, Option.bind_some, unknown, Option.map_none, Option.toList_none,
        List.append_nil]
      exact h
    | @stranded code c read online found | @linked code c _ read online found =>
      rw [online, read, if_pos rfl, Option.bind_some, found, Option.map_some, Option.toList_some]
      -- a code that is used changes nothing about the links
      have hused : Store.Records { d.store with
          linkCodes := d.store.linkCodes.put { c with usedAt := some d.now } } made := h.of_eq rfl
      exact hused.link c.parentId chatId

theorem records_run {made : List ChatLink} (h : d.store.Records made) (events : List Event) :
    (run office d events).store.Records (made ++ linksMade office d events) := by
  induction events generalizing d made with
  | nil =>
    rw [linksMade, List.append_nil]
    exact h
  | cons event events ih =>
    rw [linksMade, ← List.append_assoc]
    exact ih (records_next h event)

/-- **Notices follow the links.** From a desk at which no chat is linked, after any run: each chat
has at most one link. It belongs to the parent of the last link that was made for it, and to none if
there was none. A notice about a registration goes to the chat that was linked last of those that
belong to its parent, so to another of these when that chat is linked to another parent. And
whatever an operation sends then goes to a chat that belongs to the parent of someone who was
promoted. -/
theorem notices_follow_links (office : Office) (d : Desk) (alone : d.rival = none)
    (unlinked : d.store.links = []) (events : List Event) :
    ((run office d events).store.links.map ChatLink.chatId).Nodup ∧
    (∀ chatId parentId, (run office d events).store.linkedParent chatId = some parentId ↔
      ChatLink.IsLast (linksMade office d events) (fun l => l.chatId = chatId)
        ⟨parentId, chatId⟩) ∧
    (∀ chatId, (run office d events).store.linkedParent chatId = none ↔
      ∀ l ∈ linksMade office d events, l.chatId ≠ chatId) ∧
    (∀ r ∈ (run office d events).store.registrations, ∀ c,
      (run office d events).store.classes.get? r.classId = some c →
        (run office d events).store.NotifiesLast (linksMade office d events) r c) ∧
    ∀ op : Operation, ∃ sent,
      (runOn (op.perform office) (run office d events)).2.sent =
          (run office d events).sent ++ sent ∧
        ∀ q ∈ sent, ∃ p ∈ op.promotedOf
            (runOn (op.settle office.settings.enrollment) (run office d events)).1,
          ∃ r ∈ (runOn (op.perform office) (run office d events)).2.store.registrations,
            r.id = p.id ∧
              (run office d events).store.linkedParent q.chatId = some r.parentId := by
  have alone' : (run office d events).rival = none := run_rival alone events
  have h : (run office d events).store.Records (linksMade office d events) :=
    records_run (.empty unlinked) events
  refine ⟨h.single, fun chatId parentId => ?_, fun chatId => ?_, fun r hr c hc => ?_, fun op => ?_⟩
  · rw [h.linkedParent_eq, Option.map_eq_some_iff]
    constructor
    · rintro ⟨l, hl, rfl⟩
      have hchat : l.chatId = chatId := by simpa using List.find?_some hl
      rw [ChatLink.find?_reverse_eq_some_iff] at hl
      rw [← hchat] at hl ⊢
      simpa using hl
    · intro hlast
      refine ⟨⟨parentId, chatId⟩, ChatLink.find?_reverse_eq_some_iff.2 ?_, rfl⟩
      simpa using hlast
  · rw [h.linkedParent_eq, Option.map_eq_none_iff, List.find?_eq_none]
    simp
  · exact h.notifiesLast (Table.get?_of_mem hr) hc
  · exact op.notifies alone' h.single

end Account

namespace Sample

/-- A desk at which no chat is linked, with a link code of a parent. -/
def newDesk : Desk :=
  { desk with
    store := (store.addParent ⟨1, "Eve", "+628110000001", none, ⟨0⟩, ⟨0⟩⟩).addLinkCode
      (invitation 1) }

/-- A parent links a chat by a code and gets a second one, which is then linked to another parent.
The notices go to the second while the parent has it, and to the first again. -/
theorem notices_return_to_first_chat :
    newDesk.rival = none ∧ newDesk.store.links = [] ∧
      (Account.run office newDesk [.link "123456" 555, .connect 1 777]).store.recipient? 1 =
        some ⟨777, "", "Yoga", ⟨1000⟩⟩ ∧
      (Account.run office newDesk [.link "123456" 555, .connect 1 777,
        .connect 2 777]).store.recipient? 1 = some ⟨555, "", "Yoga", ⟨1000⟩⟩ := by
  have hearly : early ∈ (Account.run office newDesk
      [.link "123456" 555, .connect 1 777]).store.registrations := Table.mem_of_get? (k := 1) rfl
  obtain ⟨-, -, -, notifies, -⟩ := Account.notices_follow_links office newDesk rfl rfl
    [.link "123456" 555, .connect 1 777]
  have last := notifies early hearly yoga rfl
  refine ⟨rfl, rfl, (last.some_iff _).2 ?_, (last.moved 2 777 (by decide) _).2 ?_⟩
  · exact ⟨⟨1, 777⟩, ⟨[⟨1, 555⟩], [], rfl, rfl, by simp⟩, rfl⟩
  · exact ⟨⟨1, 555⟩, ⟨[], [⟨1, 777⟩], rfl, ⟨by decide, rfl⟩, by simp⟩, rfl⟩

end Sample

end EnrollmentDesk
