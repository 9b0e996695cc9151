import EnrollmentDesk.Proofs.CodeText
import EnrollmentDesk.Proofs.Pattern
import Mathlib.Logic.Relation

/-!
# What is read as a code

A typed code is described by a pattern (`RegistrationCode.pattern`). What comes before the six
digits is a run of letters and digits that is as short as can be, a letter, a run of letters and
digits that is as long as can be, and a run of separators; or all of this is left out. The pattern
leaves much open. A word with several letters can be read around each of them, and where the code
word ends in digits it is not clear at first sight which six are meant.

The crux is that all this makes no difference. Separators are neither letters nor digits, and there
are always six digits, so a text alone says what the groups are (`RegistrationCode.groupsOf`), if
the pattern reads it at all (`RegistrationCode.pattern_reads_iff`). That is why the codes can be
read from the end, without trying anything: `RegistrationCode.normalize_eq_readByPattern`.

What is read is a small grammar (`RegistrationCode.normalize_eq_some_iff`): the code word and
separators, or nothing, and six digits. Two things are read off it. Texts that vary only in what the
grammar does not look at are read alike, and a code that was read is read as itself.
-/

namespace EnrollmentDesk

namespace RegistrationCode

open Text

/-! ### The pattern of a code -/

/-- Letters and digits with at least one letter. -/
def wordPattern : Pattern :=
  .seq (.run isCodeChar true) (.seq (.times 1 Char.isUpper) (.run isCodeChar false))

/-- What a family may type: a word, which is the first group, and separators, or nothing; and then
six digits, which are the second group. -/
def pattern : Pattern :=
  .seq (.optional (.seq (.group 1 wordPattern) (.run isSeparator false)))
    (.group 2 (.times codeDigits isDecimal))

/-- The code of the desk that a reading gives: the word in front, if there is one, must be that of
the desk in either case. -/
def ofGroups? (desk : List Char) (g : Groups) : Option (List Char) :=
  if (g.lookup 1).all fun given => capitals given = capitals desk then
    (g.lookup 2).map fun digits => capitals desk ++ '-' :: digits
  else none

/-- The code of the desk that the pattern finds in what a family typed. -/
def readByPattern (desk typed : String) : Option String :=
  ((pattern.captures? (capitals (trimChars typed.toList))).bind (ofGroups? desk.toList)).map
    String.ofList

/-- What the groups have in a text, if the pattern reads it. -/
def groupsOf (s : List Char) : Groups :=
  let (head, digits) := splitDigits s
  if head.isEmpty then [(2, digits)] else [(2, digits), (1, dropSeparators head)]

/-- The text ends in six digits, and what is before them is nothing, or a word and separators. -/
def isTyped (s : List Char) : Bool :=
  let (head, digits) := splitDigits s
  digits.length = codeDigits && digits.all isDecimal && (head.isEmpty || isWord (dropSeparators head))

section Reads

variable {w s seps ds : List Char} {g : Groups}

section Split

variable {head : List Char} (hsplit : splitDigits s = (head, ds))

include hsplit

theorem isTyped_eq : isTyped s = (decide (ds.length = codeDigits) && ds.all isDecimal &&
    (head.isEmpty || isWord (dropSeparators head))) := by
  unfold isTyped
  rw [hsplit]

theorem groupsOf_eq : groupsOf s =
    if head.isEmpty then [(2, ds)] else [(2, ds), (1, dropSeparators head)] := by
  unfold groupsOf
  rw [hsplit]

theorem append_of_splitDigits : head ++ ds = s := by
  rw [← append_splitDigits s, hsplit]

end Split

theorem ne_nil_of_isWord (h : isWord w = true) : w ≠ [] := by
  rintro rfl
  exact absurd h (by decide)

/-- There are as many ways to read a word as it has letters, but it has no groups. -/
theorem wordPattern_reads_iff : wordPattern.Reads w g ↔ isWord w = true ∧ g = [] := by
  unfold wordPattern isWord
  simp only [Pattern.reads_seq_iff, Pattern.reads_run_iff, Pattern.reads_times_iff,
    Bool.and_eq_true, List.all_eq_true, List.any_eq_true]
  constructor
  · -- the letter in the middle is one of those that a word has
    rintro ⟨u, _, _, _, ⟨hu, rfl⟩, ⟨v, t, _, _, ⟨hv, hletter, rfl⟩, ⟨ht, rfl⟩, rfl, rfl⟩, rfl, rfl⟩
    obtain ⟨c, rfl⟩ := List.length_eq_one_iff.1 hv
    have hc := hletter c List.mem_cons_self
    refine ⟨⟨?_, c, by simp, hc⟩, rfl⟩
    simp only [List.mem_append, List.mem_singleton]
    rintro a (ha | rfl | ha)
    · exact hu a ha
    · exact Bool.or_eq_true_iff.2 (.inl hc)
    · exact ht a ha
  · -- any of its letters will do
    rintro ⟨⟨hall, c, hc, hletter⟩, rfl⟩
    obtain ⟨u, t, rfl⟩ := List.append_of_mem hc
    refine ⟨u, c :: t, [], [], ⟨fun a ha => hall a (by simp [ha]), rfl⟩,
      ⟨[c], t, [], [], ⟨rfl, by simpa using hletter, rfl⟩, ⟨fun a ha => hall a (by simp [ha]), rfl⟩,
        rfl, rfl⟩, rfl, rfl⟩

/-- Six digits are read, alone or after a word and separators. -/
theorem pattern_reads_iff_exists : pattern.Reads s g ↔ ∃ ds, ds.length = codeDigits ∧
    (∀ c ∈ ds, isDecimal c = true) ∧ ((s = ds ∧ g = [(2, ds)]) ∨ ∃ w seps, isWord w = true ∧
      (∀ c ∈ seps, isSeparator c = true) ∧ s = w ++ seps ++ ds ∧ g = [(2, ds), (1, w)]) := by
  unfold pattern
  simp only [Pattern.reads_seq_iff, Pattern.reads_run_iff, Pattern.reads_times_iff,
    Pattern.reads_optional_iff, Pattern.reads_group_iff, wordPattern_reads_iff]
  constructor
  · rintro ⟨u, ds, f, f', hu, ⟨_, ⟨hlength, hds, rfl⟩, rfl⟩, rfl, rfl⟩
    refine ⟨ds, hlength, hds, ?_⟩
    rcases hu with ⟨w, seps, _, _, ⟨_, ⟨hw, rfl⟩, rfl⟩, ⟨hseps, rfl⟩, rfl, rfl⟩ | ⟨rfl, rfl⟩
    · exact .inr ⟨w, seps, hw, hseps, rfl, rfl⟩
    · exact .inl ⟨rfl, rfl⟩
  · rintro ⟨ds, hlength, hds, ⟨rfl, rfl⟩ | ⟨w, seps, hw, hseps, rfl, rfl⟩⟩
    · exact ⟨[], s, [], _, .inr ⟨rfl, rfl⟩, ⟨[], ⟨hlength, hds, rfl⟩, rfl⟩, rfl, rfl⟩
    · exact ⟨w ++ seps, ds, [(1, w)], _,
        .inl ⟨w, seps, [(1, w)], [], ⟨[], ⟨hw, rfl⟩, rfl⟩, ⟨hseps, rfl⟩, rfl, rfl⟩,
        ⟨[], ⟨hlength, hds, rfl⟩, rfl⟩, rfl, rfl⟩

theorem dropSeparators_word (hw : isWord w = true) (hseps : ∀ c ∈ seps, isSeparator c = true) :
    dropSeparators (w ++ seps) = w := by
  unfold isWord at hw
  rw [dropSeparators_append hseps, dropSeparators_of_all (Bool.and_eq_true_iff.1 hw).1]

/-- **A text has only one reading** by the pattern, as far as the groups go. -/
theorem pattern_reads_iff : pattern.Reads s g ↔ isTyped s = true ∧ g = groupsOf s := by
  rw [pattern_reads_iff_exists]
  constructor
  · rintro ⟨ds, hlength, hds, ⟨rfl, rfl⟩ | ⟨w, seps, hw, hseps, rfl, rfl⟩⟩
    · have hsplit : splitDigits s = ([], s) := splitDigits_append (s := []) hlength
      rw [isTyped_eq hsplit, groupsOf_eq hsplit, List.all_eq_true.2 hds, hlength]
      exact ⟨rfl, rfl⟩
    · -- a word is not empty, so the first group is there
      have hne : (w ++ seps).isEmpty = false := by simp [ne_nil_of_isWord hw]
      have hsplit := splitDigits_append (s := w ++ seps) hlength
      rw [isTyped_eq hsplit, groupsOf_eq hsplit, dropSeparators_word hw hseps, hw, hne,
        List.all_eq_true.2 hds, hlength]
      exact ⟨rfl, rfl⟩
  · -- the reading is put together from the end: six digits, then separators, and a word if any
    rintro ⟨typed, rfl⟩
    obtain ⟨head, ds, hsplit⟩ : ∃ head ds, splitDigits s = (head, ds) := ⟨_, _, rfl⟩
    have hs := append_of_splitDigits hsplit
    rw [isTyped_eq hsplit] at typed
    simp only [Bool.and_eq_true, decide_eq_true_eq, List.all_eq_true, Bool.or_eq_true] at typed
    obtain ⟨⟨hlength, hds⟩, hhead⟩ := typed
    rw [groupsOf_eq hsplit]
    refine ⟨ds, hlength, hds, ?_⟩
    cases head with
    | nil => exact .inl ⟨hs.symm, rfl⟩
    | cons c head =>
      have hw := hhead.resolve_left Bool.false_ne_true
      obtain ⟨seps, hseps, hcut⟩ := exists_eq_dropSeparators_append (c :: head)
      exact .inr ⟨_, seps, hw, hseps, by rw [← hcut, hs], rfl⟩

/-- What the pattern captures. -/
theorem captures?_pattern (s : List Char) :
    pattern.captures? s = if isTyped s then some (groupsOf s) else none := by
  have agree : ∀ g g', pattern.Reads s g → pattern.Reads s g' → g = g' := fun g g' h h' =>
    (pattern_reads_iff.1 h).2.trans (pattern_reads_iff.1 h').2.symm
  refine Option.ext fun g => ?_
  rw [Pattern.captures?_eq_some_iff agree, pattern_reads_iff]
  by_cases typed : isTyped s = true
  · rw [if_pos typed, Option.some.injEq, and_iff_right typed, eq_comm]
  · rw [if_neg typed]
    exact ⟨fun h => absurd h.1 typed, nofun⟩

end Reads

/-! ### Reading without the pattern -/

theorem ofGroups?_word (desk w ds : List Char) : ofGroups? desk [(2, ds), (1, w)] =
    if capitals w = capitals desk then some (capitals desk ++ '-' :: ds) else none := by
  show (if decide (capitals w = capitals desk) = true then _ else _) = _
  simp only [decide_eq_true_eq]
  rfl

theorem normalizeChars_eq {desk typed head ds : List Char}
    (hsplit : splitDigits (capitals (trimChars typed)) = (head, ds)) : normalizeChars desk typed =
      if ds.length = codeDigits && ds.all isDecimal &&
          (head.isEmpty || (isWord (dropSeparators head) && dropSeparators head = capitals desk)) then
        some (capitals desk ++ '-' :: ds)
      else none := by
  unfold normalizeChars
  rw [hsplit]

/-- **A code is read as the pattern reads it.** -/
theorem normalize_eq_readByPattern (desk typed : String) :
    normalize desk typed = readByPattern desk typed := by
  refine congrArg (Option.map String.ofList) ?_
  obtain ⟨head, ds, hsplit⟩ : ∃ head ds,
    splitDigits (capitals (trimChars typed.toList)) = (head, ds) := ⟨_, _, rfl⟩
  rw [captures?_pattern, normalizeChars_eq hsplit, isTyped_eq hsplit, groupsOf_eq hsplit]
  by_cases number : (decide (ds.length = codeDigits) && ds.all isDecimal) = true
  · rw [number, Bool.true_and, Bool.true_and]
    cases head with
    | nil =>
      -- the first group is left out, so there is nothing to compare
      rfl
    | cons c head =>
      have hhead : (c :: head).isEmpty = false := rfl
      rw [hhead, Bool.false_or, Bool.false_or, if_neg Bool.false_ne_true]
      by_cases hw : isWord (dropSeparators (c :: head)) = true
      · -- the word is in capitals, since all that is read is
        have hcapitals : capitals (dropSeparators (c :: head)) = dropSeparators (c :: head) := by
          refine capitals_of_subset (s := trimChars typed.toList) fun a ha => ?_
          rw [← append_of_splitDigits hsplit]
          exact List.mem_append_left _ ((List.rdropWhile_prefix isSeparator _).subset ha)
        rw [hw, Bool.true_and, if_pos rfl, Option.bind_some, ofGroups?_word, hcapitals]
        simp only [decide_eq_true_eq]
      · rw [Bool.eq_false_iff.2 hw]
        rfl
  · rw [Bool.eq_false_iff.2 number]
    rfl

/-! ### The grammar -/

section Grammar

variable {w typed code : List Char}

/-- What is read: the code word and separators, or nothing, and six digits. -/
theorem normalizeChars_eq_some_iff : normalizeChars w typed = some code ↔
    ∃ rest ds, capitals (trimChars typed) = rest ++ ds ∧ ds.length = codeDigits ∧
      (∀ c ∈ ds, isDecimal c = true) ∧
      (rest = [] ∨ isWord (capitals w) = true ∧
        ∃ seps, (∀ c ∈ seps, isSeparator c = true) ∧ rest = capitals w ++ seps) ∧
      code = capitals w ++ '-' :: ds := by
  constructor
  · intro read
    obtain ⟨head, ds, hsplit⟩ : ∃ head ds, splitDigits (capitals (trimChars typed)) = (head, ds) :=
      ⟨_, _, rfl⟩
    rw [normalizeChars_eq hsplit] at read
    simp only [Option.ite_none_right_eq_some, Bool.and_eq_true, decide_eq_true_eq, Bool.or_eq_true,
      List.isEmpty_iff, Option.some.injEq, List.all_eq_true] at read
    obtain ⟨⟨⟨hlength, hds⟩, hhead⟩, rfl⟩ := read
    refine ⟨head, ds, (append_of_splitDigits hsplit).symm, hlength, hds, ?_, rfl⟩
    refine hhead.imp_right fun ⟨hword, same⟩ => ?_
    obtain ⟨seps, hseps, hcut⟩ := exists_eq_dropSeparators_append head
    rw [same] at hword hcut
    exact ⟨hword, seps, hseps, hcut⟩
  · rintro ⟨rest, ds, htext, hlength, hds, hrest, rfl⟩
    have hsplit : splitDigits (capitals (trimChars typed)) = (rest, ds) :=
      htext ▸ splitDigits_append hlength
    rw [normalizeChars_eq hsplit, List.all_eq_true.2 hds, hlength]
    rcases hrest with rfl | ⟨hword, seps, hseps, rfl⟩
    · rfl
    · rw [dropSeparators_word hword hseps, hword]
      simp

/-- A code that was read is read as itself. -/
theorem normalizeChars_idem (hw : w.all Char.isAlphanum = true) (letter : w.any Char.isAlpha = true)
    (read : normalizeChars w typed = some code) : normalizeChars w code = some code := by
  obtain ⟨-, ds, -, hlength, hds, -, rfl⟩ := normalizeChars_eq_some_iff.1 read
  have hcapitals : (capitals w).all Char.isAlphanum = true := all_isAlphanum_capitals hw
  have hletter : (capitals w).any Char.isAlpha = true := by
    calc (capitals w).any Char.isAlpha
      _ = isWord (capitals (capitals w)) := (isWord_capitals hcapitals).symm
      _ = isWord (capitals w) := by rw [capitals_capitals]
      _ = true := (isWord_capitals hw).trans letter
  rw [normalizeChars_hyphen hcapitals (capitals_capitals w) hlength hds, if_pos hletter]

end Grammar

theorem normalize_eq_some_iff {desk typed code : String} : normalize desk typed = some code ↔
    ∃ cs, normalizeChars desk.toList typed.toList = some cs ∧ .ofList cs = code :=
  Option.map_eq_some_iff

/-! ### Variations -/

/-- Two texts vary in what is not looked at: in the case of letters, in a blank margin, or in the
separators between something and six characters at the end. -/
inductive Variation : List Char → List Char → Prop
  | letters {a b : List Char} (h : capitals a = capitals b) : Variation a b
  | margins {a l r : List Char} (hl : ∀ c ∈ l, isBlank c = true) (hr : ∀ c ∈ r, isBlank c = true) :
      Variation (l ++ (a ++ r)) a
  | separators {w s ds : List Char} (hw : ∃ c ∈ w, isBlank c = false)
      (hs : ∀ c ∈ s, isSeparator c = true) (hlength : ds.length = codeDigits)
      (hds : ∀ c ∈ ds, isBlank c = false) : Variation (w ++ (s ++ ds)) (w ++ ds)

section Variation

variable {s t w ds : List Char}

theorem capitals_trimChars (s : List Char) : capitals (trimChars s) = trimChars (capitals s) := by
  have hblank : isBlank ∘ Char.toUpper = isBlank := funext isBlank_toUpper
  unfold capitals trimChars
  rw [List.dropWhile_map, hblank, ← List.map_reverse, List.dropWhile_map, hblank, List.map_reverse]

/-- Margins go. -/
theorem trimChars_margins {l r : List Char} (hl : ∀ c ∈ l, isBlank c = true)
    (hr : ∀ c ∈ r, isBlank c = true) : trimChars (l ++ (s ++ r)) = trimChars s := by
  show ((l ++ (s ++ r)).dropWhile isBlank).rdropWhile isBlank =
    (s.dropWhile isBlank).rdropWhile isBlank
  rw [List.dropWhile_append_of_pos hl, List.dropWhile_append]
  by_cases hs : (s.dropWhile isBlank).isEmpty = true
  · rw [if_pos hs, List.isEmpty_iff.1 hs, List.dropWhile_eq_nil_iff.2 hr]
  · rw [if_neg hs, rdropWhile_append_of_pos hr]

theorem dropWhile_ne_nil (hw : ∃ c ∈ w, isBlank c = false) : w.dropWhile isBlank ≠ [] := by
  obtain ⟨c, hc, hblank⟩ := hw
  intro hnil
  exact Bool.false_ne_true (hblank.symm.trans (List.dropWhile_eq_nil_iff.1 hnil c hc))

/-- Only the margin in front goes, if there is no other. -/
theorem trimChars_append (hw : ∃ c ∈ w, isBlank c = false) (hne : ds ≠ [])
    (hds : ∀ c ∈ ds, isBlank c = false) :
    trimChars (w ++ (s ++ ds)) = w.dropWhile isBlank ++ (s ++ ds) := by
  have hkept := dropWhile_ne_nil hw
  show ((w ++ (s ++ ds)).dropWhile isBlank).rdropWhile isBlank = _
  rw [List.dropWhile_append, if_neg (by simpa using hkept), List.rdropWhile_eq_self_iff]
  intro _
  rw [List.getLast_append_of_ne_nil _ (List.append_ne_nil_of_right_ne_nil s hne),
    List.getLast_append_of_ne_nil _ hne, hds _ (List.getLast_mem hne)]
  exact Bool.false_ne_true

/-- Separators between something and the six characters at the end can as well be left out. -/
theorem normalizeChars_separators (desk : List Char) (hw : ∃ c ∈ w, isBlank c = false)
    (hs : ∀ c ∈ s, isSeparator c = true) (hlength : ds.length = codeDigits)
    (hds : ∀ c ∈ ds, isBlank c = false) :
    normalizeChars desk (w ++ (s ++ ds)) = normalizeChars desk (w ++ ds) := by
  have hne : ds ≠ [] := by
    rintro rfl
    exact absurd hlength (by decide)
  have hfront : capitals (w.dropWhile isBlank) ≠ [] := by
    unfold capitals
    rw [ne_eq, List.map_eq_nil_iff]
    exact dropWhile_ne_nil hw
  -- the text is cut at the same place, with and without the separators
  have hsplit : ∀ seps, (∀ c ∈ seps, isSeparator c = true) →
      splitDigits (capitals (trimChars (w ++ (seps ++ ds)))) =
        (capitals (w.dropWhile isBlank) ++ seps, capitals ds) := by
    intro seps hseps
    have hcapitals : capitals seps = seps :=
      capitals_eq_self_iff.2 fun c hc => isLower_of_isSeparator (hseps c hc)
    rw [trimChars_append hw hne hds, capitals_append, capitals_append, hcapitals,
      ← List.append_assoc, splitDigits_append ((length_capitals ds).trans hlength)]
  have hleft := hsplit s hs
  have hright := hsplit [] nofun
  rw [List.append_nil] at hright
  rw [List.nil_append] at hright
  rw [normalizeChars_eq hleft, normalizeChars_eq hright, dropSeparators_append hs,
    List.isEmpty_eq_false_iff.2 hfront,
    List.isEmpty_eq_false_iff.2 (List.append_ne_nil_of_left_ne_nil hfront s)]

/-- **Variations are read alike.** -/
theorem Variation.normalizeChars_eq (desk : List Char) (h : Variation s t) :
    normalizeChars desk s = normalizeChars desk t := by
  have of_text : ∀ {a b : List Char}, capitals (trimChars a) = capitals (trimChars b) →
      normalizeChars desk a = normalizeChars desk b := by
    intro a b same
    unfold normalizeChars
    rw [same]
  cases h with
  | letters h => exact of_text (by rw [capitals_trimChars, capitals_trimChars, h])
  | margins hl hr => exact of_text (by rw [trimChars_margins hl hr])
  | separators hw hs hlength hds => exact normalizeChars_separators desk hw hs hlength hds

/-- Any number of variations, back and forth, are read alike. -/
theorem normalizeChars_eq_of_eqvGen (desk : List Char) (h : Relation.EqvGen Variation s t) :
    normalizeChars desk s = normalizeChars desk t := by
  induction h with
  | rel s t h => exact h.normalizeChars_eq desk
  | refl s => rfl
  | symm s t _ ih => exact ih.symm
  | trans s t u _ _ ih ih' => exact ih.trans ih'

end Variation

/-- **What is read as a code is a small grammar.** A code word of letters and digits with at least
one letter is given. What is read is what the pattern finds. Without its margins and in capitals,
the text is six decimal digits, or the word in capitals, any separators, and six such digits; and
then the code is the word in capitals, a hyphen and these digits. So texts that vary in the case of
letters, in margins or in separators are read alike, and a code that was read is read as itself. -/
theorem reads_one_grammar {word : String} (h : word.toList.all Char.isAlphanum = true)
    (letter : hasLetter word = true) :
    (∀ typed, normalize word typed = readByPattern word typed) ∧
    (∀ typed code, normalize word typed = some code ↔
      ∃ rest ds, capitals (trimChars typed.toList) = rest ++ ds ∧
        ds.length = 6 ∧ (∀ c ∈ ds, isDecimal c = true) ∧
        (rest = [] ∨ ∃ seps, (∀ c ∈ seps, isBlank c = true ∨ c = '-' ∨ c = '_') ∧
          rest = capitals word.toList ++ seps) ∧
        code = .ofList (capitals word.toList ++ '-' :: ds)) ∧
    (∀ a b : String, Relation.EqvGen Variation a.toList b.toList →
      normalize word a = normalize word b) ∧
    ∀ typed code, normalize word typed = some code → normalize word code = some code := by
  refine ⟨normalize_eq_readByPattern word, fun typed code => ?_, fun a b alike => ?_,
    fun typed code read => ?_⟩
  · have hword : isWord (capitals word.toList) = true := (isWord_capitals h).trans letter
    have hseparator : ∀ c, isSeparator c = true ↔ isBlank c = true ∨ c = '-' ∨ c = '_' := by
      intro c
      simp [isSeparator, or_assoc]
    simp only [normalize_eq_some_iff, normalizeChars_eq_some_iff, hword, true_and, hseparator]
    constructor
    · rintro ⟨_, ⟨rest, ds, htext, hlength, hds, hrest, rfl⟩, rfl⟩
      exact ⟨rest, ds, htext, hlength, hds, hrest, rfl⟩
    · rintro ⟨rest, ds, htext, hlength, hds, hrest, rfl⟩
      exact ⟨_, ⟨rest, ds, htext, hlength, hds, hrest, rfl⟩, rfl⟩
  · exact congrArg (Option.map String.ofList) (normalizeChars_eq_of_eqvGen _ alike)
  · obtain ⟨cs, hcs, rfl⟩ := normalize_eq_some_iff.1 read
    refine normalize_eq_some_iff.2 ⟨cs, ?_, rfl⟩
    rw [String.toList_ofList, normalizeChars_idem h letter hcs]

end RegistrationCode

namespace Sample

open RegistrationCode Text

/-- A code typed with margins, in lower case and with a blank is read as it was handed out. -/
theorem reg_is_read_alike :
    "REG".toList.all Char.isAlphanum = true ∧ hasLetter "REG" = true ∧
      normalize "REG" " reg 042317 " = some "REG-042317" ∧
      readByPattern "REG" " reg 042317 " = some "REG-042317" ∧
      normalize "REG" "REG-042317" = some "REG-042317" := by
  have word : "REG".toList.all Char.isAlphanum = true := by decide
  have letter : hasLetter "REG" = true := by decide
  obtain ⟨pattern, grammar, alike, again⟩ := reads_one_grammar word letter
  have digits : ∀ c ∈ "042317".toList, isDecimal c = true := List.all_eq_true.1 (by decide)
  have solid : ∀ c ∈ "042317".toList, isBlank c = false := fun c hc =>
    isBlank_of_isDecimal (digits c hc)
  have front : ∃ c ∈ "REG".toList, isBlank c = false := ⟨'R', by decide, by decide⟩
  have blank : ∀ c ∈ [' '], isBlank c = true := List.all_eq_true.1 (by decide)
  have separator : ∀ a, isSeparator a = true → ∀ c ∈ [a], isSeparator c = true := fun _ h =>
    List.forall_mem_singleton.2 h
  -- in capitals, then without margins, then without the blank, and with a hyphen
  have capitals : Variation " reg 042317 ".toList " REG 042317 ".toList :=
    .letters (by decide)
  have trimmed : Variation " REG 042317 ".toList "REG 042317".toList :=
    .margins (a := "REG 042317".toList) (l := [' ']) (r := [' ']) blank blank
  have joined : Variation "REG 042317".toList "REG042317".toList :=
    .separators front (separator ' ' (by decide)) rfl solid
  have parted : Variation "REG-042317".toList "REG042317".toList :=
    .separators front (separator '-' (by decide)) rfl solid
  have same := alike _ _ (.trans _ _ _ (.rel _ _ capitals) (.trans _ _ _ (.rel _ _ trimmed)
    (.trans _ _ _ (.rel _ _ joined) (.symm _ _ (.rel _ _ parted)))))
  have read : normalize "REG" "REG-042317" = some "REG-042317" :=
    (grammar _ _).2 ⟨"REG-".toList, "042317".toList, by decide, rfl, digits,
      .inr ⟨['-'], by simp, rfl⟩, rfl⟩
  exact ⟨word, letter, same.trans read, (pattern _).symm.trans (same.trans read), again _ _ read⟩

end Sample

end EnrollmentDesk
