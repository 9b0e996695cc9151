import EnrollmentDesk.Chat.Handler
import EnrollmentDesk.Proofs.AcceptedSettings
import EnrollmentDesk.Proofs.CodeText
import EnrollmentDesk.Proofs.Desk
import EnrollmentDesk.Proofs.Lineage

/-!
# Codes that are handed out and typed back

A family gets a code when its child is registered, and types it back to ask for the registration, to
cancel it or to have the child checked in. Two things have to hold for that. The bot has to read the
code as itself, and what is looked up under it has to be that registration.

The second holds in every run. When a registration is stored no other has its code
(`Operation.Asks`), so it is the only one of that code (`Store.Owns`); later ones are stored under
codes that are free, and no edit gives a row another code.

The first depends on the code word. Settings that pass their check have a code word of ASCII letters
and digits, whatever these are, but the bot reads a code as itself only if the word has a letter and
none in lower case (`RegistrationCode.normalize_make_eq_iff`). With any other accepted word every
code is lost to those it was given to: it is refused, or another is looked up.

## Main statements

* `Argument.code_make` — what the bot reads, for all accepted settings;
* `Desk.owns_run` — a code stays that of its registration;
* `Desk.issued_code_is_read` — both together: when codes can be typed back, and that they find their
  registration then.
-/

namespace EnrollmentDesk

/-! ### What the bot reads -/

namespace Argument

open RegistrationCode

variable {s : Settings}

/-- **What the bot reads of a code that a draw has made**, whatever the command it follows. -/
theorem code_make (accepted : s.check = .ok ()) (command : Command) (draw : Draw) :
    code s command (make s.enrollment.codeWord draw) =
      if hasLetter s.enrollment.codeWord then
        .ok (make (inCapitals s.enrollment.codeWord) draw)
      else .error (.badInput (Wording.codeUsage command.word s.enrollment.codeWord)) := by
  obtain ⟨-, -, sound, -⟩ := Settings.check_eq_ok_iff.1 accepted
  unfold code
  rw [normalize_make sound.word]
  cases hasLetter s.enrollment.codeWord with
  | false => rfl
  | true => rfl

theorem code_make_eq_iff (accepted : s.check = .ok ()) (command : Command) (draw : Draw) :
    code s command (make s.enrollment.codeWord draw) = .ok (make s.enrollment.codeWord draw) ↔
      IsReadable s.enrollment.codeWord := by
  obtain ⟨-, -, sound, -⟩ := Settings.check_eq_ok_iff.1 accepted
  rw [← normalize_make_eq_iff sound.word draw]
  unfold code
  cases normalize s.enrollment.codeWord (make s.enrollment.codeWord draw) with
  | none => exact ⟨(nomatch ·), (nomatch ·)⟩
  | some read => rw [Except.ok.injEq, Option.some.injEq]

end Argument

/-! ### Whose code it is -/

/-- A code has been given to the registration with a number: as long as that is stored, it has the
code, and no other has it. -/
structure Store.Owns (s : Store) (id : Int) (code : String) : Prop where
  numbered : s.IsNumbered
  given : id ≤ s.lastRegistrationId
  alone : ∀ r ∈ s.registrations, r.id = id →
    r.code = code ∧ ∀ q ∈ s.registrations, q.code = code → q = r

namespace Store

variable {s : Store} {id : Int} {code : String} {r : Registration}

/-- The registration a code was given to is the one that is found by it. -/
theorem Owns.registrationByCode_eq (h : s.Owns r.id code)
    (there : s.registrations.get? r.id = some r) : s.registrationByCode code = some r := by
  have hr := Table.mem_of_get? there
  obtain ⟨rfl, only⟩ := h.alone r hr rfl
  exact registrationByCode_of_unique hr only

end Store

namespace Edit

variable {e : Edit} {c : Class} {s : Store} {now : Instant} {id : Int} {code : String}

/-- **A code stays that of its registration**: rows keep their codes, and a new one gets a code that
is free. -/
theorem owns_result (fits : e.Fits c s) (h : s.Owns id code) (now : Instant) :
    (e.result c now s).Owns id code where
  numbered := isNumbered_result fits h.numbered now
  given := Int.le_trans h.given (e.lastRegistrationId_le_result c now s)
  alone := by
    intro x hx hid
    have origin := fun {x} (hx : x ∈ (e.result c now s).registrations) =>
      continues_of_mem_result fits (fun _ _ => h.numbered) hx
    rcases origin hx with ⟨r, hr, hxr⟩ | ⟨new, rfl, hxnew⟩
    · obtain ⟨hcode, honly⟩ := h.alone r hr (hxr.id.symm.trans hid)
      refine ⟨hxr.code.trans hcode, fun y hy hycode => ?_⟩
      rcases origin hy with ⟨q, hq, hyq⟩ | ⟨new, rfl, hynew⟩
      · obtain rfl := honly q hq (hyq.code.symm.trans hycode)
        exact Table.eq_of_key_eq hy hx (hyq.id.trans hxr.id.symm)
      · -- its code was not free when the other was stored
        exfalso
        cases fits with
        | insert place status free =>
          have same : r.code = new.code := hcode.trans (hycode.symm.trans hynew.code)
          exact Store.codeExists_eq_false_iff.1 free r hr same
    · -- the number was given out before
      exfalso
      have hnew : x.id = s.lastRegistrationId + 1 := hxnew.id
      have hgiven := h.given
      omega

/-- A registration that is stored owns its code from then on. -/
theorem owns_insert {new : NewRegistration} (fits : (insert new).Fits c s)
    (numbered : s.IsNumbered) (now : Instant) :
    ((insert new).result c now s).Owns (s.lastRegistrationId + 1) new.code where
  numbered := isNumbered_result fits numbered now
  given := by
    rw [lastRegistrationId_result]
    exact Int.le_refl _
  alone := by
    intro x hx hid
    have origin := fun {x} (hx : x ∈ ((insert new).result c now s).registrations) =>
      continues_of_mem_result fits (fun _ _ => numbered) hx
    have free : s.codeExists new.code = false := by
      cases fits with
      | insert place status free => exact free
    have hcode : x.code = new.code := by
      rcases origin hx with ⟨r, hr, hxr⟩ | ⟨stored, he, hxnew⟩
      · -- all older numbers are smaller
        exfalso
        have hle := numbered r hr
        have hrid := hxr.id
        omega
      · obtain rfl := Edit.insert.inj he
        exact hxnew.code
    refine ⟨hcode, fun y hy hycode => ?_⟩
    rcases origin hy with ⟨q, hq, hyq⟩ | ⟨stored, he, hynew⟩
    · exact absurd (hyq.code.symm.trans hycode) (Store.codeExists_eq_false_iff.1 free q hq)
    · exact Table.eq_of_key_eq hy hx (hynew.id.trans hid.symm)

end Edit

/-! ### Runs -/

/-- **A registration is stored under a code that a draw has made**, and owns it. -/
theorem Operation.owns_of_create {office : Office} {d : Desk} (alone : d.rival = none)
    (numbered : d.store.IsNumbered) {childId classId : Int} {a : Placement}
    (answer : (runOn ((create childId classId).perform office) d).1 = .ok a) :
    (runOn ((create childId classId).perform office) d).2.store.Owns a.registration.id
        a.registration.code ∧
      ∃ draw, a.registration.code =
        RegistrationCode.make office.settings.enrollment.codeWord draw := by
  obtain ⟨c, new, asked, hstore, hrow, hcont⟩ := row_of_create alone answer
  obtain ⟨numbered', given, only⟩ := Edit.owns_insert asked.fits numbered d.now
  have hid : a.registration.id = d.store.lastRegistrationId + 1 := hcont.id
  have hcode : a.registration.code = new.code := hcont.code
  rw [hstore, hid, hcode]
  refine ⟨⟨numbered', given, only⟩, ?_⟩
  cases asked with
  | create stored known isOpen local_ single apart drawn free => exact drawn

/-- A code stays that of its registration in every run. -/
theorem Desk.owns_run (office : Office) {d : Desk} (alone : d.rival = none) {id : Int}
    {code : String} (h : d.store.Owns id code) (events : List Event) :
    (run office d events).store.Owns id code := by
  refine run_induction (P := fun s => s.Owns id code) alone h ?_ ?_ events
  · exact fun s budget hs => ⟨hs.numbered, hs.given, hs.alone⟩
  · intro op now s c e asked hs
    obtain ⟨numbered, given, only⟩ := Edit.owns_result asked.fits hs now
    exact ⟨numbered, given, only⟩

/-- A registration that is found by a code is the answer to a question for it. -/
theorem Service.status_of_found (office : Office) {d : Desk} {code : String} {r : Registration}
    (online : d.online = true) (found : d.store.registrationByCode (Text.trim code) = some r) :
    (runOn (status office code) d).1 = .ok ⟨r, d.store.position? r⟩ := by
  have hlook : runOn (Tx.registrationByCode (Text.trim code)) d.session = (.ok r, d.session) :=
    Tx.runOn_registrationByCode_of_found found
  have hwork : runOn (Enrollment.status code) d.session =
      (.ok (.drop ⟨r, d.store.position? r⟩), d.session) := by
    unfold Enrollment.status
    rw [runOn_bind_ok hlook]
    rfl
  unfold status
  rw [runOn_perform_of_drop office online hwork]

/-- A code that is typed reaches a registration. -/
structure Desk.Reaches (office : Office) (d : Desk) (code : String) (r : Registration) : Prop where
  /-- The bot reads it as itself, after any command. -/
  read : ∀ command, Argument.code office.settings command code = .ok code
  /-- The registration is what all operations by code look up. -/
  found : d.store.registrationByCode (Text.trim code) = some r
  status : d.online = true →
    (runOn (Service.status office code) d).1 = .ok ⟨r, d.store.position? r⟩

/-- **When codes can be typed back.** What the bot reads of a code that was handed out is the code
in capitals if the code word has a letter, and nothing if it has none; so codes are read as
themselves if and only if the code word is readable. If it is, the code of a registration reaches it
in every run from when it was stored, for as long as it is. -/
theorem Desk.issued_code_is_read (office : Office) (d : Desk) (alone : d.rival = none)
    (numbered : d.store.IsNumbered) (accepted : office.settings.check = .ok ()) :
    (∀ command draw, Argument.code office.settings command
        (RegistrationCode.make office.settings.enrollment.codeWord draw) =
      if RegistrationCode.hasLetter office.settings.enrollment.codeWord then
        .ok (RegistrationCode.make
          (RegistrationCode.inCapitals office.settings.enrollment.codeWord) draw)
      else .error (.badInput
        (Wording.codeUsage command.word office.settings.enrollment.codeWord))) ∧
    (∀ command draw, Argument.code office.settings command
          (RegistrationCode.make office.settings.enrollment.codeWord draw) =
        .ok (RegistrationCode.make office.settings.enrollment.codeWord draw) ↔
      RegistrationCode.IsReadable office.settings.enrollment.codeWord) ∧
    (RegistrationCode.IsReadable office.settings.enrollment.codeWord →
      ∀ childId classId a,
        (runOn ((Operation.create childId classId).perform office) d).1 = .ok a →
        ∀ later r,
          (run office d (.operation (.create childId classId) :: later)).store.registrations.get?
            a.registration.id = some r →
          Reaches office (run office d (.operation (.create childId classId) :: later))
            a.registration.code r) := by
  refine ⟨Argument.code_make accepted, Argument.code_make_eq_iff accepted, ?_⟩
  intro readable childId classId a answer later r there
  obtain ⟨-, -, sound, -⟩ := Settings.check_eq_ok_iff.1 accepted
  obtain ⟨howns, draw, hdraw⟩ := Operation.owns_of_create alone numbered answer
  have hread : ∀ command, Argument.code office.settings command a.registration.code =
      .ok a.registration.code := by
    intro command
    rw [hdraw]
    exact (Argument.code_make_eq_iff accepted command draw).2 readable
  have hfound : (run office d
      (.operation (.create childId classId) :: later)).store.registrationByCode
        (Text.trim a.registration.code) = some r := by
    -- a code has no margins to be cut off
    have htrim : Text.trim a.registration.code = a.registration.code := by
      rw [hdraw]
      exact RegistrationCode.trim_make sound.word draw
    have alone' : (next office d (.operation (.create childId classId))).rival = none :=
      next_rival alone _
    have howns' := owns_run office alone' howns later
    have hid : r.id = a.registration.id := Table.key_of_get? there
    rw [htrim]
    rw [← hid] at howns' there
    exact howns'.registrationByCode_eq there
  exact ⟨hread, hfound, fun online => Service.status_of_found office online hfound⟩

namespace Sample

/-- Settings that are in order whatever letters and digits the code word has. -/
def settings (codeWord : String) : Settings where
  bot := { token := "token", adminIds := [1] }
  enrollment := { codeWord }

/-- The office under such settings. -/
def officeWith (codeWord : String) : Office :=
  { office with settings := settings codeWord }

/-- The child gets a code of the word, with which its registration is reached. -/
theorem ben_is_reached :
    thirdDesk.rival = none ∧ thirdDesk.store.IsNumbered ∧ (settings "REG").check = .ok () ∧
      RegistrationCode.IsReadable "REG" ∧
      Desk.Reaches (officeWith "REG")
        (Desk.run (officeWith "REG") thirdDesk [.operation (.create 3 1)]) "REG-000000" ben := by
  have numbered : thirdDesk.store.IsNumbered := by decide
  have accepted : (settings "REG").check = .ok () := rfl
  have readable : RegistrationCode.IsReadable "REG" := by decide
  have answer : (runOn ((Operation.create 3 1).perform (officeWith "REG")) thirdDesk).1 =
      .ok ⟨ben, some 2⟩ := rfl
  have there : (Desk.run (officeWith "REG") thirdDesk
      [.operation (.create 3 1)]).store.registrations.get? 3 = some ben := rfl
  obtain ⟨-, -, reached⟩ :=
    Desk.issued_code_is_read (officeWith "REG") thirdDesk rfl numbered accepted
  exact ⟨rfl, numbered, accepted, readable, reached readable 3 1 ⟨ben, some 2⟩ answer [] ben there⟩

/-- **Codes of other accepted words are lost**: those of a word in lower case are read in capitals,
and those of a word of digits are refused. -/
theorem other_codes_are_lost :
    (settings "reg").check = .ok () ∧ RegistrationCode.make "reg" 42317 = "reg-042317" ∧
      Argument.code (settings "reg") .status "reg-042317" = .ok "REG-042317" ∧
      (settings "2025").check = .ok () ∧ RegistrationCode.make "2025" 42317 = "2025-042317" ∧
      Argument.code (settings "2025") .status "2025-042317" =
        .error (.badInput "Please send a valid code, e.g. /status 2025-123456") :=
  ⟨rfl, rfl, rfl, rfl, rfl, rfl⟩

end Sample

end EnrollmentDesk
