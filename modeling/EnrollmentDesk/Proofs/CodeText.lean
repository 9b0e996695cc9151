import EnrollmentDesk.Registration.Code
import Mathlib.Data.List.DropRight

/-!
# Reading back a code

A code is written as the letters and digits of the desk, a hyphen and six digits
(`RegistrationCode.make`), and `RegistrationCode.normalize` reads it. The two agree on where the
parts are: a hyphen is a separator and no letter or digit is, so what stands before the six digits
is read as it was written. They do not agree on what the parts may be. What is read must have a
letter, and is written again in capitals; what is written is the code word as it was set. So a code
word without a letter is not read at all, and one with a letter in lower case is read as another.

## Main statements

* `RegistrationCode.normalizeChars_hyphen` — what is read of letters and digits, a hyphen and six
  digits of any script;
* `RegistrationCode.normalize_make` — what is read of a code that a draw has made;
* `RegistrationCode.normalize_make_eq_iff` — it is the code itself if and only if the code word has
  a letter and none in lower case (`RegistrationCode.IsReadable`).
-/

namespace EnrollmentDesk

open Text

/-! ### Characters -/

namespace RegistrationCode

variable {c : Char}

theorem isUpper_iff_toNat : c.isUpper = true ↔ 65 ≤ c.toNat ∧ c.toNat ≤ 90 := by
  change decide ('A'.val ≤ c.val ∧ c.val ≤ 'Z'.val) = true ↔ _
  rw [decide_eq_true_iff, UInt32.le_iff_toNat_le, UInt32.le_iff_toNat_le]
  exact Iff.rfl

theorem isLower_iff : c.isLower = true ↔ 'a'.val ≤ c.val ∧ c.val ≤ 'z'.val := by
  change (decide ('a'.val ≤ c.val) && decide (c.val ≤ 'z'.val)) = true ↔ _
  rw [Bool.and_eq_true, decide_eq_true_iff, decide_eq_true_iff]

theorem isLower_iff_toNat : c.isLower = true ↔ 97 ≤ c.toNat ∧ c.toNat ≤ 122 := by
  rw [isLower_iff, UInt32.le_iff_toNat_le, UInt32.le_iff_toNat_le]
  exact Iff.rfl

theorem isDigit_iff_toNat : c.isDigit = true ↔ 48 ≤ c.toNat ∧ c.toNat ≤ 57 :=
  Char.isDigit_iff_toNat

theorem isAlpha_eq (c : Char) : c.isAlpha = (c.isUpper || c.isLower) := rfl

theorem isAlphanum_eq (c : Char) : c.isAlphanum = (c.isAlpha || c.isDigit) := rfl

theorem isAlphanum_iff_toNat :
    c.isAlphanum = true ↔ (48 ≤ c.toNat ∧ c.toNat ≤ 57) ∨ (65 ≤ c.toNat ∧ c.toNat ≤ 90) ∨
      (97 ≤ c.toNat ∧ c.toNat ≤ 122) := by
  rw [isAlphanum_eq, isAlpha_eq, Bool.or_eq_true, Bool.or_eq_true, isUpper_iff_toNat,
    isLower_iff_toNat, isDigit_iff_toNat]
  omega

/-- No letter or digit is blank. -/
theorem isBlank_of_isAlphanum (h : c.isAlphanum = true) : isBlank c = false := by
  have h := isAlphanum_iff_toNat.1 h
  unfold isBlank
  simp only [Bool.or_eq_false_iff, Bool.and_eq_false_iff, decide_eq_false_iff_not,
    beq_eq_false_iff_ne]
  omega

/-- The capital of a lower-case letter stands 32 places before it. -/
theorem toNat_toUpper_of_isLower (h : c.isLower = true) : c.toUpper.toNat = c.toNat - 32 := by
  have hrange := isLower_iff_toNat.1 h
  unfold Char.toUpper
  rw [dif_pos (isLower_iff.1 h)]
  change (c.val + ('A'.val - 'a'.val)).toNat = _
  rw [UInt32.toNat_add]
  have hshift : ('A'.val - 'a'.val).toNat = 4294967264 := by decide
  have hval : c.val.toNat = c.toNat := rfl
  omega

theorem toUpper_of_not_isLower (h : c.isLower = false) : c.toUpper = c := by
  have hlower : ¬ ('a'.val ≤ c.val ∧ c.val ≤ 'z'.val) := by
    rw [← isLower_iff, h]
    exact Bool.false_ne_true
  unfold Char.toUpper
  rw [dif_neg hlower]

theorem toUpper_eq_self_iff : c.toUpper = c ↔ c.isLower = false := by
  constructor
  · intro same
    cases h : c.isLower with
    | false => rfl
    | true =>
      have hnat := toNat_toUpper_of_isLower h
      have hrange := isLower_iff_toNat.1 h
      rw [same] at hnat
      omega
  · exact toUpper_of_not_isLower

/-- The capitals are those of letters. -/
theorem isUpper_toUpper (c : Char) : c.toUpper.isUpper = c.isAlpha := by
  rw [isAlpha_eq]
  cases h : c.isLower with
  | false => rw [toUpper_of_not_isLower h, Bool.or_false]
  | true =>
    have hnat := toNat_toUpper_of_isLower h
    have hrange := isLower_iff_toNat.1 h
    rw [Bool.or_true, isUpper_iff_toNat]
    omega

/-- A capital is not in lower case. -/
theorem isLower_toUpper (c : Char) : c.toUpper.isLower = false := by
  cases h : c.isLower with
  | false => rw [toUpper_of_not_isLower h, h]
  | true =>
    have hnat := toNat_toUpper_of_isLower h
    have hrange := isLower_iff_toNat.1 h
    rw [Bool.eq_false_iff, ne_eq, isLower_iff_toNat]
    omega

theorem isCodeChar_toUpper (h : c.isAlphanum = true) : isCodeChar c.toUpper = true := by
  unfold isCodeChar
  rw [isUpper_toUpper]
  rw [isAlphanum_eq] at h
  rw [Bool.or_eq_true] at h ⊢
  rcases h with letter | digit
  · exact .inl letter
  · -- a digit has no other capital than itself
    have hrange := isDigit_iff_toNat.1 digit
    have hlower : c.isLower = false := by
      rw [Bool.eq_false_iff, ne_eq, isLower_iff_toNat]
      omega
    rw [toUpper_of_not_isLower hlower]
    exact .inr digit

/-- No letter or digit is a separator. -/
theorem isSeparator_of_isAlphanum (h : c.isAlphanum = true) : isSeparator c = false := by
  have hyphen : c ≠ '-' := by
    rintro rfl
    exact absurd h (by decide)
  have underscore : c ≠ '_' := by
    rintro rfl
    exact absurd h (by decide)
  simp [isSeparator, isBlank_of_isAlphanum h, hyphen, underscore]

theorem isAlphanum_of_isCodeChar (h : isCodeChar c = true) : c.isAlphanum = true := by
  unfold isCodeChar at h
  rw [Bool.or_eq_true, isUpper_iff_toNat, isDigit_iff_toNat] at h
  exact isAlphanum_iff_toNat.2 (by omega)

/-- Separators have no capitals. -/
theorem isLower_of_isSeparator (h : isSeparator c = true) : c.isLower = false := by
  by_contra lower
  have hrange := isLower_iff_toNat.1 (by simpa using lower)
  have hno := isSeparator_of_isAlphanum (isAlphanum_iff_toNat.2 (.inr (.inr hrange)))
  exact Bool.false_ne_true (hno.symm.trans h)

/-- A capital is blank if its letter is: both never are. -/
theorem isBlank_toUpper (c : Char) : isBlank c.toUpper = isBlank c := by
  cases h : c.isLower with
  | false => rw [toUpper_of_not_isLower h]
  | true =>
    have halphanum : c.isAlphanum = true :=
      isAlphanum_iff_toNat.2 (.inr (.inr (isLower_iff_toNat.1 h)))
    have hupper := isUpper_iff_toNat.1 ((isUpper_toUpper c).trans (by rw [isAlpha_eq, h, Bool.or_true]))
    rw [isBlank_of_isAlphanum halphanum, isBlank_of_isAlphanum
      (isAlphanum_iff_toNat.2 (.inr (.inl hupper)))]

theorem isDecimal_iff : isDecimal c = true ↔ ∃ z ∈ scriptZeros, z ≤ c.toNat ∧ c.toNat < z + 10 := by
  unfold isDecimal
  simp

/-- The zeros of all scripts are far from the blanks, and from the letters. -/
theorem ranges_of_mem_scriptZeros : ∀ z ∈ scriptZeros,
    z = 0x30 ∨ (0x660 ≤ z ∧ z ≤ 0x1090) ∨ (0x17E0 ≤ z ∧ z ≤ 0x1C50) ∨ 0xA620 ≤ z := by
  decide

/-- No digit of any script is blank. -/
theorem isBlank_of_isDecimal (h : isDecimal c = true) : isBlank c = false := by
  obtain ⟨z, hz, hle, hlt⟩ := isDecimal_iff.1 h
  have hrange := ranges_of_mem_scriptZeros z hz
  unfold isBlank
  simp only [Bool.or_eq_false_iff, Bool.and_eq_false_iff, decide_eq_false_iff_not,
    beq_eq_false_iff_ne]
  omega

/-- No digit of any script is in lower case. -/
theorem isLower_of_isDecimal (h : isDecimal c = true) : c.isLower = false := by
  obtain ⟨z, hz, hle, hlt⟩ := isDecimal_iff.1 h
  have hrange := ranges_of_mem_scriptZeros z hz
  rw [Bool.eq_false_iff, ne_eq, isLower_iff_toNat]
  omega

/-- The digits of all scripts that are in ASCII are those from 0 to 9. -/
theorem isDigit_of_isDecimal (h : isDecimal c = true) (ascii : c.toNat < 128) :
    c.isDigit = true := by
  obtain ⟨z, hz, hle, hlt⟩ := isDecimal_iff.1 h
  have hrange := ranges_of_mem_scriptZeros z hz
  rw [isDigit_iff_toNat]
  omega

/-! ### Parts of a text -/

section Parts

variable {s w ds : List Char}

/-- A text without blanks has no margins. -/
theorem trimChars_of_not_blank (h : ∀ c ∈ s, isBlank c = false) : trimChars s = s := by
  have hfront : s.dropWhile isBlank = s := by
    refine List.dropWhile_eq_self_iff.2 fun hne => ?_
    simp [h _ (List.getElem_mem hne)]
  have hend : s.rdropWhile isBlank = s := by
    refine List.rdropWhile_eq_self_iff.2 fun hne => ?_
    simp [h _ (List.getLast_mem hne)]
  calc trimChars s
    _ = (s.dropWhile isBlank).rdropWhile isBlank := rfl
    _ = s := by rw [hfront, hend]

theorem mem_of_mem_trimChars {c : Char} (h : c ∈ trimChars s) : c ∈ s :=
  (List.dropWhile_suffix isBlank).subset ((List.rdropWhile_prefix isBlank _).subset h)

theorem append_splitDigits (s : List Char) : (splitDigits s).1 ++ (splitDigits s).2 = s :=
  List.take_append_drop _ s

theorem splitDigits_append (h : ds.length = codeDigits) : splitDigits (s ++ ds) = (s, ds) := by
  have hlength : (s ++ ds).length - codeDigits = s.length := by
    rw [List.length_append, h]
    omega
  unfold splitDigits
  rw [hlength, List.take_left, List.drop_left]

theorem rdropWhile_append_of_pos {p : Char → Bool} {t : List Char} (h : ∀ c ∈ t, p c = true) :
    (s ++ t).rdropWhile p = s.rdropWhile p := by
  unfold List.rdropWhile
  rw [List.reverse_append, List.dropWhile_append_of_pos fun c hc => h c (List.mem_reverse.1 hc)]

/-- Separators at the end go. -/
theorem dropSeparators_append {seps : List Char} (h : ∀ c ∈ seps, isSeparator c = true) :
    dropSeparators (s ++ seps) = dropSeparators s :=
  rdropWhile_append_of_pos h

/-- Letters and digits stay. -/
theorem dropSeparators_of_all (h : w.all isCodeChar = true) : dropSeparators w = w := by
  refine List.rdropWhile_eq_self_iff.2 fun hne => ?_
  have hlast := List.all_eq_true.1 h (w.getLast hne) (List.getLast_mem hne)
  rw [isSeparator_of_isAlphanum (isAlphanum_of_isCodeChar hlast)]
  exact Bool.false_ne_true

/-- What goes is at the end, and has separators only. -/
theorem exists_eq_dropSeparators_append (s : List Char) :
    ∃ seps, (∀ c ∈ seps, isSeparator c = true) ∧ s = dropSeparators s ++ seps :=
  ⟨s.rtakeWhile isSeparator, fun _ => List.mem_rtakeWhile_imp,
    List.rdropWhile_append_rtakeWhile.symm⟩

end Parts

/-! ### Draws -/

theorem length_digits (d : Draw) : d.digits.toList.length = codeDigits := by
  have hle : (Nat.toDigits 10 d.val).length ≤ codeDigits :=
    (Nat.length_toDigits_le_iff (by decide) (by decide)).2 d.isLt
  change (String.ofList _).toList.length = _
  rw [String.toList_ofList]
  unfold Numeral.paddedDigits Numeral.natDigits
  rw [List.length_append, List.length_replicate]
  omega

theorem isDigit_of_mem_digits {d : Draw} {c : Char} (h : c ∈ d.digits.toList) :
    c.isDigit = true := by
  change c ∈ (String.ofList _).toList at h
  rw [String.toList_ofList] at h
  exact Numeral.isDigit_of_mem_paddedDigits h

theorem isDecimal_of_mem_digits {d : Draw} {c : Char} (h : c ∈ d.digits.toList) :
    isDecimal c = true :=
  isDecimal_of_isDigit (isDigit_of_mem_digits h)

/-! ### Capitals -/

theorem length_capitals (s : List Char) : (capitals s).length = s.length :=
  List.length_map _

theorem capitals_append (s t : List Char) : capitals (s ++ t) = capitals s ++ capitals t :=
  List.map_append

/-- A text is in capitals if no letter of it is in lower case. -/
theorem capitals_eq_self_iff {s : List Char} :
    capitals s = s ↔ ∀ c ∈ s, c.isLower = false := by
  unfold capitals
  induction s with
  | nil => simp
  | cons c s ih =>
    rw [List.map_cons, List.cons.injEq, toUpper_eq_self_iff, ih, List.forall_mem_cons]

/-- Capitals have no other capitals. -/
theorem capitals_of_subset {w s : List Char} (h : w ⊆ capitals s) : capitals w = w := by
  refine capitals_eq_self_iff.2 fun c hc => ?_
  obtain ⟨a, -, rfl⟩ := List.mem_map.1 (h hc)
  exact isLower_toUpper a

theorem capitals_capitals (s : List Char) : capitals (capitals s) = capitals s :=
  capitals_of_subset (List.Subset.refl (capitals s))

theorem capitals_of_decimals {ds : List Char} (h : ∀ c ∈ ds, isDecimal c = true) :
    capitals ds = ds :=
  capitals_eq_self_iff.2 fun c hc => isLower_of_isDecimal (h c hc)

theorem all_isCodeChar_capitals {w : List Char} (h : w.all Char.isAlphanum = true) :
    (capitals w).all isCodeChar = true := by
  unfold capitals
  rw [List.all_map, List.all_eq_true]
  exact fun c hc => isCodeChar_toUpper (List.all_eq_true.1 h c hc)

/-- Of letters and digits in capitals, those with a letter make a word. -/
theorem isWord_capitals {w : List Char} (h : w.all Char.isAlphanum = true) :
    isWord (capitals w) = w.any Char.isAlpha := by
  have hany : (capitals w).any Char.isUpper = w.any Char.isAlpha := by
    unfold capitals
    rw [List.any_map]
    exact congrArg w.any (funext isUpper_toUpper)
  unfold isWord
  rw [all_isCodeChar_capitals h, hany, Bool.true_and]

theorem all_isAlphanum_capitals {w : List Char} (h : w.all Char.isAlphanum = true) :
    (capitals w).all Char.isAlphanum = true :=
  List.all_eq_true.2 fun c hc =>
    isAlphanum_of_isCodeChar (List.all_eq_true.1 (all_isCodeChar_capitals h) c hc)

/-! ### Reading a code -/

/-- A code has no blank in it. -/
theorem trimChars_hyphen {w ds : List Char} (hw : w.all Char.isAlphanum = true)
    (hds : ∀ c ∈ ds, isDecimal c = true) : trimChars (w ++ '-' :: ds) = w ++ '-' :: ds := by
  refine trimChars_of_not_blank fun c hc => ?_
  rcases List.mem_append.1 hc with hc | hc
  · exact isBlank_of_isAlphanum (List.all_eq_true.1 hw c hc)
  · rcases List.mem_cons.1 hc with rfl | hc
    · decide
    · exact isBlank_of_isDecimal (hds c hc)

/-- **What is read of letters and digits, a hyphen and six digits**, if these are the letters and
digits of the desk in either case. -/
theorem normalizeChars_hyphen {desk w ds : List Char} (hw : w.all Char.isAlphanum = true)
    (same : capitals w = capitals desk) (hlength : ds.length = codeDigits)
    (hds : ∀ c ∈ ds, isDecimal c = true) : normalizeChars desk (w ++ '-' :: ds) =
      if w.any Char.isAlpha then some (capitals desk ++ '-' :: ds) else none := by
  have hcapitals : capitals (w ++ '-' :: ds) = (capitals w ++ ['-']) ++ ds := by
    calc capitals (w ++ '-' :: ds)
      _ = capitals w ++ '-' :: capitals ds := capitals_append w ('-' :: ds)
      _ = (capitals w ++ ['-']) ++ ds := by rw [capitals_of_decimals hds, List.append_assoc]; rfl
  have hword : dropSeparators (capitals w ++ ['-']) = capitals w := by
    have hhyphen : isSeparator '-' = true := by decide
    rw [dropSeparators_append (List.forall_mem_singleton.2 hhyphen),
      dropSeparators_of_all (all_isCodeChar_capitals hw)]
  unfold normalizeChars
  rw [trimChars_hyphen hw hds, hcapitals, splitDigits_append hlength]
  dsimp only
  rw [hword, isWord_capitals hw, List.all_eq_true.2 hds]
  simp [hlength, same]

/-! ### Code words -/

/-- A code word has a letter. -/
def hasLetter (word : String) : Bool :=
  word.toList.any Char.isAlpha

/-- A code word in capitals. -/
def inCapitals (word : String) : String :=
  .ofList (capitals word.toList)

/-- Codes of the word are read as they are written: it has a letter, and none in lower case. -/
def IsReadable (word : String) : Prop :=
  hasLetter word = true ∧ ∀ c ∈ word.toList, c.isLower = false

instance (word : String) : Decidable (IsReadable word) :=
  decidable_of_iff (hasLetter word && word.toList.all fun c => !c.isLower)
    (by simp [IsReadable])

theorem toList_make (word : String) (d : Draw) :
    (make word d).toList = word.toList ++ '-' :: d.digits.toList := by
  unfold make
  rw [String.toList_append, String.toList_append, List.append_assoc]
  rfl

theorem trim_make {word : String} (h : word.toList.all Char.isAlphanum = true) (d : Draw) :
    trim (make word d) = make word d := by
  unfold trim
  rw [← String.toList_inj, String.toList_ofList, toList_make,
    trimChars_hyphen h fun _ => isDecimal_of_mem_digits]

/-- **What is read of a code that a draw has made**: the code of the word in capitals, if the word
has a letter. -/
theorem normalize_make {word : String} (h : word.toList.all Char.isAlphanum = true) (d : Draw) :
    normalize word (make word d) =
      if hasLetter word then some (make (inCapitals word) d) else none := by
  unfold normalize
  rw [toList_make,
    normalizeChars_hyphen h rfl (length_digits d) fun _ => isDecimal_of_mem_digits]
  change Option.map _ (if hasLetter word then _ else _) = _
  cases hasLetter word with
  | false => rfl
  | true =>
    rw [if_pos rfl, if_pos rfl, Option.map_some]
    congr 1
    rw [← String.toList_inj, String.toList_ofList, toList_make]
    unfold inCapitals
    rw [String.toList_ofList]

/-- **A code that a draw has made is read as itself** if and only if its word has a letter and none
in lower case. -/
theorem normalize_make_eq_iff {word : String} (h : word.toList.all Char.isAlphanum = true)
    (d : Draw) : normalize word (make word d) = some (make word d) ↔ IsReadable word := by
  have hcapitals : make (inCapitals word) d = make word d ↔
      ∀ c ∈ word.toList, c.isLower = false := by
    rw [← String.toList_inj, toList_make, toList_make, List.append_cancel_right_eq]
    unfold inCapitals
    rw [String.toList_ofList, capitals_eq_self_iff]
  rw [normalize_make h]
  unfold IsReadable
  cases hasLetter word with
  | false => simp
  | true =>
    rw [if_pos rfl, Option.some.injEq, hcapitals]
    simp

end RegistrationCode

end EnrollmentDesk
