import EnrollmentDesk.Desk.Notice
import EnrollmentDesk.Proofs.AcceptedSettings
import EnrollmentDesk.Proofs.CodeText
import EnrollmentDesk.Proofs.Folder

/-!
# Addresses of pictures

The picture of a code is served in a folder: the settings name it, with slashes at its end or
without, and the name of the picture is the code, percent-encoded, with `.png`. The check of the
settings reads what was typed, and each picture is read again from the typed text without its
slashes, a slash and the name.

The two agree on all that is ordinary: if the typed text ends in no margin, no `@` and no backslash,
accepted settings have an address for the picture of every code. They do not agree always, since
the check drops a margin that the slash after it would keep (`https://qr.example.com ` has a space
in its host once a picture is asked for). `Settings.picture_readable_iff` says exactly of which
accepted settings which codes have an address: what counts is whether the folder itself can be read,
apart from one form of file addresses in which the picture is the host.
-/

namespace EnrollmentDesk

open Text UrlReader

/-! ### Names -/

namespace Text

theorem isAlphanum_hexDigit : ∀ n < 16, (hexDigit n).isAlphanum = true := by
  decide

/-- What UTF-8 is made of are bytes. -/
theorem utf8Bytes_lt (c : Char) : ∀ b ∈ utf8Bytes c, b < 256 := by
  have hc : c.toNat < 0x110000 := by
    have hvalid := c.valid
    simp only [UInt32.isValidChar, Nat.isValidChar] at hvalid
    change c.val.toNat < 0x110000
    omega
  intro b hb
  unfold utf8Bytes at hb
  dsimp only at hb
  split_ifs at hb <;> simp only [List.mem_cons, List.not_mem_nil, or_false] at hb <;> omega

end Text

namespace UrlReader

theorem isPage_percentByte {b : Nat} (hb : b < 256) : IsPage (percentByte b) := by
  intro c hc
  unfold percentByte at hc
  simp only [List.mem_cons, List.not_mem_nil, or_false] at hc
  unfold isPageChar isUnreserved
  rcases hc with rfl | rfl | rfl
  · rfl
  · simp [isAlphanum_hexDigit (b / 16) (by omega)]
  · simp [isAlphanum_hexDigit (b % 16) (by omega)]

/-- What is percent-encoded can be the name of a page. -/
theorem isPage_percentEncode (s : List Char) : IsPage (percentEncode isUnreserved s) := by
  intro c hc
  obtain ⟨d, -, hd⟩ := List.mem_flatMap.1 hc
  split at hd
  · next hkeep =>
    rw [List.mem_singleton.1 hd]
    simp [isPageChar, hkeep]
  · obtain ⟨b, hb, hcb⟩ := List.mem_flatMap.1 hd
    exact isPage_percentByte (utf8Bytes_lt d b hb) c hcb

theorem isMargin_of_isPageChar {c : Char} (hc : isPageChar c = true) : isMargin c = false := by
  unfold isPageChar isUnreserved at hc
  simp only [Bool.or_eq_true, decide_eq_true_eq, or_assoc] at hc
  rcases hc with halphanum | rfl | rfl | rfl | rfl | rfl
  · have hrange := RegistrationCode.isAlphanum_iff_toNat.1 halphanum
    unfold isMargin
    rw [decide_eq_false_iff_not]
    omega
  all_goals rfl

end UrlReader

/-! ### Pictures -/

namespace Notice

/-- What is to be the folder of the pictures. -/
def folder (base : String) : String :=
  .ofList (dropSlashes base ++ ['/'])

/-- What the picture of a code is named. -/
def pictureName (code : String) : List Char :=
  percentEncode isUnreserved code.toList ++ ".png".toList

/-- Whether the pictures would stand where the host of a file does. -/
def picturesAreHosts (base : String) : Bool :=
  match scheme? (clean (folder base).toList) with
  | some (scheme, rest) => opensHost scheme rest.dropLast
  | none => false

/-- The text ends, before its slashes, in what may stand before a slash anywhere. -/
def EndsPlainly (base : String) : Prop :=
  ∀ c ∈ (dropSlashes base).getLast?, isMargin c = false ∧ c ≠ '@' ∧ c ≠ '\\'

instance (base : String) : Decidable (EndsPlainly base) :=
  decidable_of_iff
    ((dropSlashes base).getLast?.all (fun c => !isMargin c && c ≠ '@' && c ≠ '\\') = true)
    (by simp [EndsPlainly, Option.all_eq_true, and_assoc])

theorem isPage_pictureName (code : String) : IsPage (pictureName code) := by
  intro c hc
  rcases List.mem_append.1 hc with hc | hc
  · exact isPage_percentEncode _ c hc
  · exact List.all_eq_true.1 (rfl : ".png".toList.all isPageChar = true) c hc

theorem two_lt_length_pictureName (code : String) : 2 < (pictureName code).length := by
  unfold pictureName
  rw [List.length_append]
  exact Nat.lt_of_lt_of_le (by decide) (Nat.le_add_left ".png".toList.length _)

/-! ### The folder and what is in it -/

/-- Slashes may have been typed at the end, or none. -/
theorem toList_eq_or (base : String) :
    base.toList = dropSlashes base ∨
      ∃ slashes, (∀ c ∈ slashes, c = '/') ∧ base.toList = dropSlashes base ++ '/' :: slashes := by
  have hbase : dropSlashes base ++ base.toList.rtakeWhile (· = '/') = base.toList :=
    List.rdropWhile_append_rtakeWhile
  have hslashes : ∀ c ∈ base.toList.rtakeWhile (· = '/'), c = '/' :=
    fun c hc => by simpa using List.mem_rtakeWhile_imp hc
  cases htake : base.toList.rtakeWhile (· = '/') with
  | nil => exact .inl (by rw [← hbase, htake, List.append_nil])
  | cons c slashes =>
    rw [htake] at hbase hslashes
    obtain ⟨rfl, hrest⟩ := List.forall_mem_cons.1 hslashes
    exact .inr ⟨slashes, hrest, hbase.symm⟩

theorem getLast?_dropSlashes_ne (base : String) : (dropSlashes base).getLast? ≠ some '/' := by
  intro h
  obtain ⟨hne, hlast⟩ := List.mem_getLast?_eq_getLast h
  have hnot := List.rdropWhile_last_not (· = '/') base.toList hne
  exact hnot (decide_eq_true hlast.symm)

theorem isMargin_of_slashes {slashes : List Char} (h : ∀ c ∈ slashes, c = '/') :
    ∀ c ∈ slashes, isMargin c = false := by
  intro c hc
  rw [h c hc]
  rfl

/-- **An address has what its folder needs**: a scheme, and where there are domain names a host. -/
theorem exists_isGrounded {base : String} (h : Succeeds (Url.read base)) :
    ∃ scheme rest, scheme? (trimStart (dropSlashes base)) = some (scheme, rest) ∧
      IsGrounded scheme rest := by
  obtain ⟨scheme, rest, hscheme, hrest⟩ := succeeds_read_iff.1 h
  have hground := isGrounded_of_succeeds hrest
  rcases toList_eq_or base with hbase | ⟨slashes, hslashes, hbase⟩
  · -- only margins may have been dropped from the end
    obtain ⟨margin, hmargin⟩ := clean_prefix (dropSlashes base)
    rw [hbase] at hscheme
    rw [← hmargin]
    exact ⟨scheme, rest ++ margin, scheme?_append hscheme margin, hground.append margin⟩
  · have hall : ∀ c ∈ '/' :: slashes, c = '/' := List.forall_mem_cons.2 ⟨rfl, hslashes⟩
    rw [hbase, clean_append (isMargin_of_slashes hall)] at hscheme
    obtain ⟨rest', hscheme', rfl⟩ := scheme?_of_append_slash hscheme
    exact ⟨scheme, rest', hscheme', hground.of_append hall⟩

section Accepted

variable {base : String} {scheme rest : List Char}

/-- After the slash of the folder, what follows the scheme is read. -/
theorem succeeds_read_slash_iff (hscheme : scheme? (trimStart (dropSlashes base)) = some (scheme, rest))
    {t : List Char} (ht : ∀ c ∈ t, isMargin c = false) :
    Succeeds (UrlReader.read (dropSlashes base ++ '/' :: t)) ↔
      Succeeds (readRest scheme (rest ++ '/' :: t)) := by
  have hmargin : ∀ c ∈ '/' :: t, isMargin c = false := List.forall_mem_cons.2 ⟨rfl, ht⟩
  rw [succeeds_read_iff, clean_append hmargin, scheme?_append hscheme]
  constructor
  · rintro ⟨scheme', rest', hsome, hreads⟩
    obtain ⟨rfl, rfl⟩ := Prod.mk.inj (Option.some.inj hsome)
    exact hreads
  · exact fun hreads => ⟨scheme, _, rfl, hreads⟩

theorem succeeds_folder_iff (hscheme : scheme? (trimStart (dropSlashes base)) = some (scheme, rest)) :
    Succeeds (Url.read (folder base)) ↔ Succeeds (readRest scheme (rest ++ ['/'])) := by
  unfold Url.read folder
  rw [String.toList_ofList]
  exact succeeds_read_slash_iff hscheme (by simp)

theorem picturesAreHosts_eq
    (hscheme : scheme? (trimStart (dropSlashes base)) = some (scheme, rest)) :
    picturesAreHosts base = opensHost scheme rest := by
  unfold picturesAreHosts folder
  rw [String.toList_ofList, clean_append (List.forall_mem_singleton.2 rfl),
    scheme?_append hscheme]
  simp only [List.dropLast_concat]

theorem exists_picture_iff (base code : String) :
    (∃ url, picture (some base) code = .ok (some url)) ↔
      Succeeds (UrlReader.read (dropSlashes base ++ '/' :: pictureName code)) := by
  have htext : (pictureText base code).toList = dropSlashes base ++ '/' :: pictureName code := by
    unfold pictureText pictureName
    rw [String.toList_ofList]
    simp
  unfold picture Url.read
  dsimp only
  rw [htext]
  cases UrlReader.read (dropSlashes base ++ '/' :: pictureName code) with
  | error e => exact ⟨fun ⟨_, h⟩ => (nomatch h), (nomatch ·)⟩
  | ok url => exact ⟨fun _ => succeeds_ok url, fun _ => ⟨url, rfl⟩⟩

/-- **Which codes have a picture.** -/
theorem exists_picture_iff_folder
    (hscheme : scheme? (trimStart (dropSlashes base)) = some (scheme, rest))
    (hground : IsGrounded scheme rest) (code : String) :
    (∃ url, picture (some base) code = .ok (some url)) ↔
      if picturesAreHosts base then Succeeds (readFileHost (pictureName code))
      else Succeeds (Url.read (folder base)) := by
  have hpage := isPage_pictureName code
  rw [exists_picture_iff, picturesAreHosts_eq hscheme, succeeds_folder_iff hscheme,
    succeeds_read_slash_iff hscheme fun c hc => isMargin_of_isPageChar (hpage c hc)]
  cases hopens : opensHost scheme rest with
  | false =>
    rw [if_neg (by decide)]
    exact ⟨succeeds_readRest_folder_of_longer hground,
      succeeds_readRest_page hground hpage hopens⟩
  | true =>
    unfold opensHost at hopens
    rw [Bool.and_eq_true, decide_eq_true_eq] at hopens
    obtain ⟨rfl, hopens⟩ := hopens
    rw [if_pos rfl, readRest_file]
    exact succeeds_readFile_host hpage (two_lt_length_pictureName code) hopens

end Accepted

/-- What ends plainly can be read with a slash at its end, which is not the second of two. -/
theorem EndsPlainly.succeeds_folder {base : String} (hplain : EndsPlainly base)
    (h : Succeeds (Url.read base)) :
    picturesAreHosts base = false ∧ Succeeds (Url.read (folder base)) := by
  obtain ⟨scheme, rest, hscheme, hground⟩ := exists_isGrounded h
  rw [picturesAreHosts_eq hscheme, succeeds_folder_iff hscheme]
  rcases List.eq_nil_or_concat (dropSlashes base) with hnil | ⟨u, c, hconcat⟩
  · rw [hnil] at hscheme
    exact nomatch hscheme
  rw [List.concat_eq_append] at hconcat
  have hc : c ∈ (dropSlashes base).getLast? := by simp [hconcat]
  obtain ⟨hmargin, hat, hbackslash⟩ := hplain c hc
  have hslash : c ≠ '/' := by
    rintro rfl
    exact getLast?_dropSlashes_ne base hc
  have hall : ∀ d ∈ [c], isMargin d = false := by simpa using hmargin
  have htrim : trimStart (dropSlashes base) = trimStart u ++ [c] := by
    rw [hconcat, trimStart_append hall]
  have hlast {e : Char} (he : e ≠ c) : rest.getLast? ≠ some e := by
    refine getLast?_ne_of_suffix (suffix_of_scheme? hscheme) ?_
    rw [htrim]
    simpa using he.symm
  constructor
  · rw [Bool.eq_false_iff]
    intro hopens
    rcases getLast?_of_opensHost hopens with hslash' | hbackslash'
    · exact hlast hslash.symm hslash'
    · exact hlast hbackslash.symm hbackslash'
  · rcases toList_eq_or base with hbase | ⟨slashes, hslashes, hbase⟩
    · obtain ⟨scheme', rest', hscheme', hreads⟩ := succeeds_read_iff.1 h
      rw [hbase, hconcat, clean_append hall, ← htrim, hscheme] at hscheme'
      obtain ⟨rfl, rfl⟩ := Prod.mk.inj (Option.some.inj hscheme')
      exact succeeds_readRest_folder (hlast hat.symm) hreads
    · unfold Url.read at h
      rw [hbase, succeeds_read_slash_iff hscheme (isMargin_of_slashes hslashes)] at h
      exact succeeds_readRest_folder_of_longer hground h

end Notice

/-- Accepted settings name an address for the pictures, if any. -/
theorem Settings.succeeds_read_of_check {s : Settings} {base : String} (accepted : s.check = .ok ())
    (hbase : s.bot.qrBase = some base) : Succeeds (Url.read base) := by
  obtain ⟨hbot, -⟩ := Settings.check_eq_ok_iff.1 accepted
  unfold BotSettings.check at hbot
  rw [check_then_eq_ok_iff, check_then_eq_ok_iff, hbase] at hbot
  obtain ⟨-, -, hread⟩ := hbot
  dsimp only at hread
  split at hread
  · next url hurl => exact ⟨url, hurl⟩
  · exact nomatch hread

/-- **Which accepted settings have pictures, and of which codes.** What counts is whether the folder
of the pictures can be read, whatever the code; except where the pictures are hosts of files, when it
is whether the name of the picture can be a host. Settings whose address ends plainly have a picture
of every code. -/
theorem Settings.picture_readable_iff {s : Settings} {base : String} (accepted : s.check = .ok ())
    (hbase : s.bot.qrBase = some base) :
    (∀ code, (∃ url, Notice.picture s.bot.qrBase code = .ok (some url)) ↔
      if Notice.picturesAreHosts base then
        ∃ host, UrlReader.readFileHost (Notice.pictureName code) = .ok host
      else ∃ url, Url.read (Notice.folder base) = .ok url) ∧
    (Notice.EndsPlainly base →
      ∀ code, ∃ url, Notice.picture s.bot.qrBase code = .ok (some url)) := by
  have hread := Settings.succeeds_read_of_check accepted hbase
  obtain ⟨scheme, rest, hscheme, hground⟩ := Notice.exists_isGrounded hread
  have hiff := Notice.exists_picture_iff_folder hscheme hground
  rw [hbase]
  refine ⟨hiff, fun hplain code => ?_⟩
  obtain ⟨hhosts, hfolder⟩ := hplain.succeeds_folder hread
  rw [hiff, hhosts, if_neg (by decide)]
  exact hfolder

example : Notice.picturesAreHosts "file:\\" = true ∧
    Notice.picturesAreHosts "file:///srv/codes" = false := ⟨rfl, rfl⟩

namespace Sample

/-- Settings that are in order if their pictures have an address. -/
def picturing (base : String) : Settings where
  bot := { token := "token", adminIds := [1], qrBase := some base }

/-- A folder with slashes at its end has pictures of all codes. -/
theorem folder_has_pictures :
    (picturing "https://qr.example.com/codes//").check = .ok () ∧
      Notice.EndsPlainly "https://qr.example.com/codes//" ∧
      ∀ code, ∃ url,
        Notice.picture (picturing "https://qr.example.com/codes//").bot.qrBase code =
          .ok (some url) := by
  have accepted : (picturing "https://qr.example.com/codes//").check = .ok () := rfl
  have plain : Notice.EndsPlainly "https://qr.example.com/codes//" := by decide
  exact ⟨accepted, plain, (Settings.picture_readable_iff accepted rfl).2 plain⟩

/-- **A space at the end is accepted but leaves no pictures**: the check drops it, and before a slash
it belongs to the host. -/
theorem space_leaves_no_pictures :
    (picturing "https://qr.example.com ").check = .ok () ∧
      Notice.pictureText "https://qr.example.com " "REG-000001" =
        "https://qr.example.com /REG-000001.png" ∧
      Notice.picture (picturing "https://qr.example.com ").bot.qrBase "REG-000001" =
        .error (.badUrl .badDomain) :=
  ⟨rfl, rfl, rfl⟩

end Sample

end EnrollmentDesk
