import EnrollmentDesk.Proofs.Atomicity
import EnrollmentDesk.Proofs.InRange
import EnrollmentDesk.Proofs.Promotion

/-!
# One answer

A desk that tells the families, and whose requests are all delivered, sends nothing by chance: what
goes to a family about a promotion is read off the store (`Notice.requests`), and so all that a
command sends is known from the store it leaves and from its reply. First come the notices of those
promoted, since they are announced before the operation answers; then there is one answer, and it is
the last.

No command sends two answers. The reply is worded before it is sent, and if all is delivered then
sending it does not fail, so an explanation is sent only if there was no reply. And none sends no
answer, since what fails without a word (`Error.outOfRange`) is excluded by `Proofs.InRange`.

## Main statements

* `Service.runOn_announce_telling` — all that is sent about those promoted;
* `Errand.promoted_iff` — who is promoted by an errand that a chat can ask for;
* `Desk.every_command_is_answered_once` — all that is sent for a command.
-/

namespace EnrollmentDesk

/-- What is sent about a registration that got a seat, given the store: the notice if there is a
chat for it, and after it the picture of the code if there is an address for that. -/
def Notice.requests (zone : Offset) (qrBase : Option String) (s : Store) (r : Registration) :
    List Request :=
  match s.recipient? r.id with
  | none => []
  | some whom =>
    .message whom.chatId (text zone r whom) true ::
      match picture qrBase r.code with
      | .ok (some url) => [.photo whom.chatId url.write]
      | .ok none | .error _ => []

/-! ### Telling the families -/

/-- The office that tells the families, and whose requests are all delivered. -/
def Office.telling (s : Settings) (zone : Offset) : Office where
  settings := s
  listeners := [.family zone s.bot.qrBase]
  refusal := fun _ _ => none

theorem Office.ofSettings_eq_ok_iff {s : Settings} {office : Office} :
    Office.ofSettings s (fun _ _ => none) = .ok office ↔
      ∃ zone, s.enrollment.zone = .ok zone ∧ office = telling s zone := by
  unfold Office.ofSettings
  rw [bind_eq_ok_iff]
  constructor
  · rintro ⟨zone, zoned, h⟩
    exact ⟨zone, zoned, (Except.ok.inj h).symm⟩
  · rintro ⟨zone, zoned, rfl⟩
    exact ⟨zone, zoned, rfl⟩

namespace Service

section

variable (s : Settings) (zone : Offset) {d : Desk}

theorem runOn_send_telling (q : Request) (d : Desk) :
    runOn (send (.telling s zone) q) d = (.ok ⟨⟩, { d with sent := d.sent ++ [q] }) :=
  runOn_send _ q d

/-- A family that can be told is told, and the picture is sent if there is one. -/
theorem runOn_tellFamily (online : d.online = true) (r : Registration) :
    ∃ x, runOn (tellFamily (.telling s zone) zone s.bot.qrBase r) d =
      (x, { d with sent := d.sent ++ Notice.requests zone s.bot.qrBase d.store r }) := by
  unfold tellFamily Notice.requests
  rw [runOn_bind_ok (runOn_ask online _)]
  cases d.store.recipient? r.id with
  | none =>
    refine ⟨.ok ⟨⟩, ?_⟩
    rw [List.append_nil]
    rfl
  | some whom =>
    dsimp only
    rw [runOn_bind_ok (runOn_send_telling s zone _ d)]
    rcases Notice.picture s.bot.qrBase r.code with e | _ | url
    · exact ⟨.error e, rfl⟩
    · exact ⟨.ok ⟨⟩, rfl⟩
    · refine ⟨.ok ⟨⟩, (runOn_send_telling s zone (.photo whom.chatId url.write) _).trans ?_⟩
      rw [List.append_assoc]
      rfl

theorem runOn_call_telling (online : d.online = true) (r : Registration) (position : Nat) :
    ∃ delivered, runOn (call (.telling s zone) r position (.family zone s.bot.qrBase)) d =
      (.ok delivered, { d with
        sent := d.sent ++ Notice.requests zone s.bot.qrBase d.store r
        calls := d.calls ++ [⟨position, r⟩] }) := by
  obtain ⟨x, htell⟩ := runOn_tellFamily s zone
    (d := { d with calls := d.calls ++ [⟨position, r⟩] }) online r
  have hhear : runOn (hear (.telling s zone) d.calls.length r (.family zone s.bot.qrBase))
      { d with calls := d.calls ++ [⟨position, r⟩] } = _ := htell
  unfold call
  rw [runOn_bind_ok (runOn_get d), runOn_bind_ok (runOn_modify _ d), runOn_bind, runOn_tryCatch,
    runOn_bind, hhear]
  -- if the address of the picture is bad the call counts as failed, and no more comes of it
  cases x with
  | error e => exact ⟨false, rfl⟩
  | ok u => exact ⟨true, rfl⟩

/-- **All that is sent about those promoted**, one registration after the other. -/
theorem runOn_announce_telling (online : d.online = true) (promoted : List Registration) :
    ∃ report, runOn (announce (.telling s zone) promoted) d = (.ok report, { d with
      sent := d.sent ++ promoted.flatMap (Notice.requests zone s.bot.qrBase d.store)
      calls := d.calls ++ promoted.map fun r => ⟨0, r⟩ }) := by
  unfold announce
  generalize ({} : Report) = report
  induction promoted generalizing report d with
  | nil =>
    refine ⟨report, ?_⟩
    rw [List.flatMap_nil, List.map_nil, List.append_nil, List.append_nil]
    rfl
  | cons r rs ih =>
    obtain ⟨delivered, hcall⟩ := runOn_call_telling s zone online r 0
    have hall : runOn (callAll (.telling s zone) r 0 [.family zone s.bot.qrBase] report) d =
        (.ok (report.add delivered), _) := runOn_bind_ok hcall
    obtain ⟨report', hrest⟩ := ih (d := { d with
      sent := d.sent ++ Notice.requests zone s.bot.qrBase d.store r
      calls := d.calls ++ [⟨0, r⟩] }) online (report.add delivered)
    refine ⟨report', (runOn_bind_ok hall).trans (hrest.trans ?_)⟩
    simp only [List.flatMap_cons, List.map_cons, List.append_assoc, List.singleton_append]

/-- If the desk could be reached when those promoted are told, all that is sent is about them. -/
theorem told_telling {α : Type} {y : Except Error (α × List Registration) × Desk}
    (online : promotedOf y.1 = [] ∨ y.2.online = true) :
    told (.telling s zone) y = (y.1.map Prod.fst, { y.2 with
      sent := y.2.sent ++ (promotedOf y.1).flatMap
        (Notice.requests zone s.bot.qrBase y.2.store)
      calls := y.2.calls ++ (promotedOf y.1).map fun r => ⟨0, r⟩ }) := by
  obtain ⟨e | ⟨a, promoted⟩, t⟩ := y
  · unfold promotedOf told
    simp only [List.flatMap_nil, List.map_nil, List.append_nil]
    rfl
  · rcases online with none | online
    · obtain rfl : promoted = [] := none
      unfold promotedOf told
      simp only [List.flatMap_nil, List.map_nil, List.append_nil]
      rfl
    · have online : t.online = true := online
      obtain ⟨report, hann⟩ := runOn_announce_telling s zone online promoted
      exact congrArg (fun z => (Except.ok a, z.2)) hann

end

end Service

/-! ### Who is promoted -/

namespace Service

variable {α : Type} {work : Tx (Verdict α)} {d : Desk}

/-- Nothing is settled unless the desk can be reached. -/
theorem online_settle (work : Tx (Verdict α)) (d : Desk) :
    promotedOf (runOn (settle work) d).1 = [] ∨ (runOn (settle work) d).2.online = true := by
  cases online : d.online with
  | false =>
    left
    unfold settle
    rw [runOn_bind_error (runOn_connect_of_offline online)]
    rfl
  | true =>
    right
    rw [runOn_settle work online]
    rcases runOn work d.session with ⟨e | ⟨a, promoted⟩ | a, s⟩
    · exact online
    · dsimp only
      split <;> exact online
    · exact online

/-- What only reads promotes nobody. -/
theorem IsReadOnly.settle (h : IsReadOnly work) (d : Desk) :
    promotedOf (runOn (settle work) d).1 = [] ∧ (runOn (settle work) d).2.store = d.store := by
  cases online : d.online with
  | false =>
    unfold Service.settle
    rw [runOn_bind_error (runOn_connect_of_offline online)]
    exact ⟨rfl, rfl⟩
  | true =>
    rw [runOn_settle work online]
    cases hrun : runOn work d.session with
    | mk x s =>
      rcases x with e | ⟨a, promoted⟩ | a
      · exact ⟨rfl, rfl⟩
      · exact absurd hrun (h _ _ _ _)
      · exact ⟨rfl, rfl⟩

theorem store_listOwn (chatId : Int) (d : Desk) :
    (runOn (listOwn chatId) d).2.store = d.store := by
  have hlist : OnlySends d.store (fun _ => False) (listOwn chatId) := by
    refine .bind (.ask _) fun linked _ => ?_
    cases linked with
    | none => exact .throw _
    | some parentId => exact .bind (.of_eq fun _ _ => rfl) fun _ _ => .ask _
  obtain ⟨sent, hsent, -⟩ := hlist d rfl
  rw [hsent]

theorem promotedOf_with_nobody {α : Type} (x : Service α) (d : Desk) :
    promotedOf (runOn (do return (← x, ([] : List Registration))) d).1 = [] := by
  rw [runOn_with_nobody]
  cases (runOn x d).1 <;> rfl

end Service

namespace Errand

variable (errand : Errand) (office : Office) {d : Desk}

theorem online_settle (d : Desk) :
    Service.promotedOf (runOn (errand.settle office) d).1 = [] ∨
      (runOn (errand.settle office) d).2.online = true := by
  cases errand with
  | nothing => exact .inl rfl
  | issue | link | list => exact .inl (Service.promotedOf_with_nobody _ d)
  | status code => exact Service.online_settle (Enrollment.status code) d
  | occupancy classId => exact Service.online_settle (Enrollment.occupancy classId) d
  | conflicts childId classId =>
    exact Service.online_settle
      (Enrollment.conflicts office.settings.enrollment childId classId) d
  | operation op =>
    change Service.promotedOf (runOn (op.settle office.settings.enrollment) d).1 = [] ∨
      (runOn (op.settle office.settings.enrollment) d).2.online = true
    cases hpre : op.precheck with
    | error e =>
      rw [op.runOn_settle_of_precheck_error _ hpre]
      exact .inl rfl
    | ok u =>
      rw [op.runOn_settle_of_precheck _ hpre]
      exact Service.online_settle _ d

/-- Only operations write registrations. -/
theorem registrations_settle (asks : ∀ op, errand ≠ .operation op) (d : Desk) :
    Service.promotedOf (runOn (errand.settle office) d).1 = [] ∧
      (runOn (errand.settle office) d).2.store.registrations = d.store.registrations := by
  cases errand with
  | nothing => exact ⟨rfl, rfl⟩
  | operation op => exact absurd rfl (asks op)
  | status code =>
    obtain ⟨none, same⟩ := (Service.isReadOnly_status code).settle d
    exact ⟨none, congrArg Store.registrations same⟩
  | occupancy classId =>
    obtain ⟨none, same⟩ := (Service.isReadOnly_occupancy classId).settle d
    exact ⟨none, congrArg Store.registrations same⟩
  | conflicts childId classId =>
    obtain ⟨none, same⟩ :=
      (Service.isReadOnly_conflicts office.settings.enrollment childId classId).settle d
    exact ⟨none, congrArg Store.registrations same⟩
  | issue parentId =>
    have hsettle : (runOn ((issue parentId).settle office) d).2 =
        (runOn (Service.issueLinkCode office parentId) d).2 :=
      congrArg Prod.snd (Service.runOn_with_nobody _ d)
    have hissues := Service.issues office d parentId
    refine ⟨Service.promotedOf_with_nobody _ d, ?_⟩
    rw [hsettle]
    generalize (runOn (Service.issueLinkCode office parentId) d).1 = x at hissues
    generalize (runOn (Service.issueLinkCode office parentId) d).2 = t at hissues ⊢
    cases hissues <;> rfl
  | link typed chatId =>
    have hsettle : (runOn ((link typed chatId).settle office) d).2 =
        (runOn (Service.linkChat typed chatId) d).2 :=
      congrArg Prod.snd (Service.runOn_with_nobody _ d)
    have hlinks := Service.links d typed chatId
    refine ⟨Service.promotedOf_with_nobody _ d, ?_⟩
    rw [hsettle]
    generalize (runOn (Service.linkChat typed chatId) d).1 = x at hlinks
    generalize (runOn (Service.linkChat typed chatId) d).2 = t at hlinks ⊢
    cases hlinks <;> rfl
  | list chatId =>
    have hsettle : (runOn ((list chatId).settle office) d).2 =
        (runOn (Service.listOwn chatId) d).2 :=
      congrArg Prod.snd (Service.runOn_with_nobody _ d)
    refine ⟨Service.promotedOf_with_nobody _ d, ?_⟩
    rw [hsettle, Service.store_listOwn]

/-- **Promoted by an errand** that a chat can ask for are those who waited before it and sit after
it. -/
theorem promoted_iff (chat : errand.isFromChat = true) (alone : d.rival = none) :
    ((Service.promotedOf (runOn (errand.settle office) d).1).map Registration.id).Nodup ∧
      ∀ id, id ∈ (Service.promotedOf (runOn (errand.settle office) d).1).map Registration.id ↔
        d.store.Has id .waitlisted ∧
          (runOn (errand.settle office) d).2.store.Has id .confirmed := by
  by_cases asks : ∃ op, errand = .operation op
  · obtain ⟨op, rfl⟩ := asks
    have heffect := op.effect_settle office.settings.enrollment alone
    have hnames : Service.promotedOf (runOn (op.settle office.settings.enrollment) d).1 =
        op.promotedOf (runOn (op.settle office.settings.enrollment) d).1 := by
      cases (runOn (op.settle office.settings.enrollment) d).1 <;> rfl
    change ((Service.promotedOf (runOn (op.settle office.settings.enrollment) d).1).map _).Nodup ∧
      ∀ id, id ∈ (Service.promotedOf (runOn (op.settle office.settings.enrollment) d).1).map _ ↔ _
    rw [hnames]
    refine heffect.promoted_iff fun childId classId h => ?_
    rw [h] at chat
    exact nomatch chat
  · have asks : ∀ op, errand ≠ .operation op := fun op h => asks ⟨op, h⟩
    obtain ⟨none, same⟩ := errand.registrations_settle office asks d
    rw [none]
    refine ⟨List.nodup_nil, fun id => ⟨fun h => absurd h List.not_mem_nil, ?_⟩⟩
    rintro ⟨waits, r, hr, hid, sits⟩
    -- the same row cannot wait and sit
    rw [same] at hr
    have both : d.store.Has id .confirmed := ⟨r, hr, hid, sits⟩
    exact nomatch waits.unique both

end Errand

/-! ### Commands -/

theorem Error.passedOn_eq_error_iff {e e' : Error} :
    e.passedOn = .error e' ↔ e = e' ∧ (e.severity = .error ∨ e.severity = .critical) := by
  unfold passedOn
  cases e.severity <;> simp

namespace Service

variable {s : Settings} {zone : Offset} {m : Sender} {line : CommandLine} {d t : Desk}
  {x : Except Error Reply}

/-- Before the answer, a command sends the notices of those it promotes. -/
theorem exists_promoted_reply (zoned : s.enrollment.zone = .ok zone) (alone : d.rival = none)
    (hreply : runOn (reply (.telling s zone) m line) d = (x, t)) :
    ∃ promoted : List Registration, (promoted.map Registration.id).Nodup ∧
      (∀ id, id ∈ promoted.map Registration.id ↔
        d.store.Has id .waitlisted ∧ t.store.Has id .confirmed) ∧
      t.calls = d.calls ++ promoted.map (fun r => ⟨0, r⟩) ∧
      t.sent = d.sent ++ promoted.flatMap (Notice.requests zone s.bot.qrBase t.store) := by
  rw [runOn_reply] at hreply
  cases hread : line.understand (Office.telling s zone).settings m with
  | error e =>
    rw [hread] at hreply
    obtain ⟨-, rfl⟩ := Prod.mk.inj hreply
    refine ⟨[], List.nodup_nil, fun id => ⟨fun h => absurd h List.not_mem_nil, fun h => ?_⟩,
      (List.append_nil _).symm, (List.append_nil _).symm⟩
    exact nomatch h.1.unique h.2
  | ok u =>
    have sound : u.IsSound line := CommandLine.isSound_of_understand zoned hread
    have hperform := u.errand.runOn_perform (.telling s zone) d
    rw [told_telling s zone (u.errand.online_settle _ d)] at hperform
    rw [hread] at hreply
    have hdesk : t = (runOn (u.errand.perform (.telling s zone)) d).2 :=
      (congrArg Prod.snd hreply).symm
    -- up to the notices, nothing was sent and nobody was called
    obtain ⟨hsent, hcalls⟩ := (u.errand.isQuiet_settle (.telling s zone)).record_eq d
    obtain ⟨distinct, hnames⟩ := u.errand.promoted_iff (.telling s zone) sound.chat alone
    rw [hperform] at hdesk
    subst hdesk
    refine ⟨_, distinct, hnames, ?_, ?_⟩
    · dsimp only
      rw [hcalls]
    · dsimp only
      rw [hsent]

/-- A command fails in range, unless a link code would be good for too long. -/
theorem reply_ne_outOfRange (zoned : s.enrollment.zone = .ok zone)
    (due : line.command = .linkcode → d.now.afterMinutes? s.enrollment.linkCodeMinutes ≠ none) :
    (runOn (reply (.telling s zone) m line) d).1 ≠ .error .outOfRange := by
  rw [runOn_reply]
  cases hread : line.understand (Office.telling s zone).settings m with
  | error e =>
    intro he
    obtain rfl := Except.error.inj he
    exact line.understand_ne_outOfRange s m hread
  | ok u =>
    have sound : u.IsSound line := CommandLine.isSound_of_understand zoned hread
    have hsettle : (runOn (u.errand.settle (.telling s zone)) d).1 ≠ .error .outOfRange :=
      u.errand.settle_ne_outOfRange sound.chat fun parentId h => due (sound.issues parentId h)
    have hperform : (runOn (u.errand.perform (.telling s zone)) d).1 ≠ .error .outOfRange := by
      obtain ⟨sent, htold⟩ :=
        exists_told (.telling s zone) (runOn (u.errand.settle (.telling s zone)) d)
      rw [u.errand.runOn_perform, htold]
      exact map_ne_error hsettle
    exact bind_ne_error hperform sound.worded

/-- A reply or an error in range is told once. -/
theorem runOn_handle_telling (hreply : runOn (reply (.telling s zone) m line) d = (x, t))
    (told : x ≠ .error .outOfRange) :
    runOn (handle (.telling s zone) m line) d =
      match x with
      | .ok r => (.ok ⟨⟩, { t with sent := t.sent ++ [.message m.chatId r.text r.markup] })
      | .error e =>
        (e.passedOn, { t with sent := t.sent ++ [.message m.chatId e.userMessage false] }) := by
  cases x with
  | ok r => exact runOn_handle_of_ok hreply
  | error e =>
    have hrange : e ≠ .outOfRange := fun h => told (congrArg Except.error h)
    rw [runOn_handle_of_error hreply, runOn_report hrange]
    rfl

end Service

/-- **Every command is answered once.** If all that is sent is delivered, a command sends the
notices of those it promotes, each to the chat of the family and followed by the picture if there is
one, and then one message to the chat it came from: its reply, or the explanation of its error.
Whoever runs the bot hears of the errors that are no refusals, and of no others. -/
theorem Desk.every_command_is_answered_once {s : Settings} {office : Office}
    (wired : Office.ofSettings s (fun _ _ => none) = .ok office) (m : Sender) (line : CommandLine)
    (d : Desk) (alone : d.rival = none)
    (due : line.command = .linkcode → d.now.afterMinutes? s.enrollment.linkCodeMinutes ≠ none) :
    ∃ (zone : Offset) (promoted : List Registration),
      s.enrollment.zone = .ok zone ∧ (promoted.map Registration.id).Nodup ∧
      (∀ id, id ∈ promoted.map Registration.id ↔ d.store.Has id .waitlisted ∧
        (runOn (Service.handle office m line) d).2.store.Has id .confirmed) ∧
      (runOn (Service.handle office m line) d).2.calls =
        d.calls ++ promoted.map (fun r => ⟨0, r⟩) ∧
      (runOn (Service.handle office m line) d).2.sent = d.sent ++
        promoted.flatMap (Notice.requests zone s.bot.qrBase
          (runOn (Service.handle office m line) d).2.store) ++
        [match (runOn (Service.reply office m line) d).1 with
          | .ok r => .message m.chatId r.text r.markup
          | .error e => .message m.chatId e.userMessage false] ∧
      ∀ e, (runOn (Service.handle office m line) d).1 = .error e ↔
        (runOn (Service.reply office m line) d).1 = .error e ∧
          (e.severity = .error ∨ e.severity = .critical) := by
  obtain ⟨zone, zoned, rfl⟩ := Office.ofSettings_eq_ok_iff.1 wired
  have hrange : (runOn (Service.reply (.telling s zone) m line) d).1 ≠ .error .outOfRange :=
    Service.reply_ne_outOfRange zoned due
  cases hreply : runOn (Service.reply (.telling s zone) m line) d with
  | mk x t =>
    rw [hreply] at hrange
    obtain ⟨promoted, distinct, hnames, hcalls, hsent⟩ :=
      Service.exists_promoted_reply zoned alone hreply
    rw [Service.runOn_handle_telling hreply hrange]
    refine ⟨zone, promoted, zoned, distinct, ?_⟩
    cases x with
    | ok r =>
      refine ⟨hnames, hcalls, congrArg (· ++ _) hsent, fun e => ?_⟩
      exact ⟨(fun h => nomatch h), (fun h => nomatch h.1)⟩
    | error e =>
      refine ⟨hnames, hcalls, congrArg (· ++ _) hsent, fun e' => ?_⟩
      dsimp only
      rw [Error.passedOn_eq_error_iff, Except.error.injEq]
      exact and_congr_right fun h => by rw [h]

namespace Sample

/-- Settings with pictures of codes. -/
def pictured : Settings where
  bot := { qrBase := some "https://qr.example.com" }

/-- The office with these settings. -/
def pictureOffice : Office :=
  .telling pictured ((Offset.ofSeconds? 25200).getD .utc)

/-- The desk when the family of the child who waits has linked a chat. -/
def chattyDesk : Desk :=
  { desk with store := store.link 2 55 }

/-- When the seat is given up from another chat, the family that waits gets a notice and a picture,
and after that the other chat its answer. -/
theorem notice_picture_answer :
    Office.ofSettings pictured (fun _ _ => none) = .ok pictureOffice ∧ chattyDesk.rival = none ∧
      (Command.cancel = .linkcode →
        chattyDesk.now.afterMinutes? pictured.enrollment.linkCodeMinutes ≠ none) ∧
      ∃ (zone : Offset) (promoted : List Registration) (answer : Request),
        late.id ∈ promoted.map Registration.id ∧
        (runOn (Service.handle pictureOffice ⟨7, none⟩ ⟨.cancel, early.code⟩) chattyDesk).2.sent =
          promoted.flatMap (Notice.requests zone pictured.bot.qrBase
            (runOn (Service.handle pictureOffice ⟨7, none⟩ ⟨.cancel, early.code⟩)
              chattyDesk).2.store) ++ [answer] ∧
        (runOn (Service.handle pictureOffice ⟨7, none⟩ ⟨.cancel, early.code⟩)
          chattyDesk).2.sent.map Request.chatId = [55, 55, 7] := by
  have wired : Office.ofSettings pictured (fun _ _ => none) = .ok pictureOffice := rfl
  have due : Command.cancel = .linkcode →
      chattyDesk.now.afterMinutes? pictured.enrollment.linkCodeMinutes ≠ none :=
    fun h => nomatch h
  obtain ⟨zone, promoted, -, -, hnames, -, hsent, -⟩ :=
    Desk.every_command_is_answered_once wired ⟨7, none⟩ ⟨.cancel, early.code⟩ chattyDesk rfl due
  refine ⟨wired, rfl, due, zone, promoted, _, ?_, hsent, by decide +kernel⟩
  -- the child waited, and sits afterwards
  refine (hnames late.id).2 ⟨⟨late, List.mem_cons_of_mem _ List.mem_cons_self, rfl, rfl⟩, ?_⟩
  have sits : (runOn (Service.handle pictureOffice ⟨7, none⟩ ⟨.cancel, early.code⟩)
      chattyDesk).2.store.registrations.get? late.id =
        some { late with status := .confirmed, updatedAt := ⟨10⟩ } := by decide +kernel
  exact ⟨_, Table.mem_of_get? sits, rfl, rfl⟩

end Sample

end EnrollmentDesk
