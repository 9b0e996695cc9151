import EnrollmentDesk.Chat.Handler
import EnrollmentDesk.Proofs.CodeText
import Mathlib.Data.List.Induction
import Mathlib.Data.Nat.Digits.Defs

/-!
# Numbers that are typed

Behind the command for capacities an admin types the number of a class and a capacity, both in
decimal, with blanks wherever it suits (`Argument.Gives`). What is read is just that, and all else is
refused with a hint. In particular a number out of range is refused, however it is written: it is
never taken for another class or another capacity.

The argument has two halves that know nothing of each other. How a text falls into words is said by
two equivalences, for a text without words (`Text.words_eq_nil_iff`) and for one with a first word
(`Text.words_eq_cons_iff`). What a word stands for is the value of its digits by their places
(`Numeral.Denotes`), so zeros in front count nothing and there may be as many as one likes. They meet
in that a numeral has no blanks, which makes every numeral a word (`Numeral.Denotes.isWord`).
-/

namespace EnrollmentDesk

/-! ### The words of a text -/

namespace Text

variable {s t w a b : List Char} {ws : List (List Char)} {c : Char}

/-- Blanks only, perhaps none. -/
def IsBlanks (s : List Char) : Prop :=
  ∀ c ∈ s, isBlank c = true

instance (s : List Char) : Decidable (IsBlanks s) :=
  decidable_of_iff (s.all isBlank = true) List.all_eq_true

/-- One or more characters, none of them blank. -/
structure IsWord (w : List Char) : Prop where
  ne_nil : w ≠ []
  not_blank : ∀ c ∈ w, isBlank c = false

/-- A word that comes before the text ends there: the text is empty or begins with a blank. -/
def EndsWord (t : List Char) : Prop :=
  ∀ c ∈ t.head?, isBlank c = true

theorem splitWord_cons_of_blank (h : isBlank c = true) (s : List Char) :
    splitWord (c :: s) = ([], words s) := by
  unfold splitWord
  simp only [h, if_true]
  rfl

theorem splitWord_cons_of_not_blank (h : isBlank c = false) (s : List Char) :
    splitWord (c :: s) = (c :: (splitWord s).1, (splitWord s).2) := by
  rw [splitWord]
  simp only [h, Bool.false_eq_true, if_false]

theorem words_cons_of_blank (h : isBlank c = true) (s : List Char) : words (c :: s) = words s := by
  unfold words
  rw [splitWord_cons_of_blank h]
  rfl

theorem words_cons_of_not_blank (h : isBlank c = false) (s : List Char) :
    words (c :: s) = (c :: (splitWord s).1) :: (splitWord s).2 := by
  unfold words
  rw [splitWord_cons_of_not_blank h]
  rfl

theorem words_append_of_blanks (h : IsBlanks s) (t : List Char) : words (s ++ t) = words t := by
  induction s with
  | nil => rfl
  | cons c s ih =>
    obtain ⟨hc, hs⟩ := List.forall_mem_cons.1 h
    rw [List.cons_append, words_cons_of_blank hc, ih hs]

theorem splitWord_of_endsWord (h : EndsWord t) : splitWord t = ([], words t) := by
  cases t with
  | nil => rfl
  | cons c t =>
    have hc := h c rfl
    rw [splitWord_cons_of_blank hc, words_cons_of_blank hc]

/-- A word is split off as a whole. -/
theorem splitWord_append (hw : ∀ c ∈ w, isBlank c = false) (ht : EndsWord t) :
    splitWord (w ++ t) = (w, words t) := by
  induction w with
  | nil => exact splitWord_of_endsWord ht
  | cons c w ih =>
    obtain ⟨hc, hw⟩ := List.forall_mem_cons.1 hw
    rw [List.cons_append, splitWord_cons_of_not_blank hc, ih hw]

theorem words_append_of_endsWord (hw : IsWord w) (ht : EndsWord t) :
    words (w ++ t) = w :: words t := by
  obtain ⟨c, w, rfl⟩ := List.exists_cons_of_ne_nil hw.ne_nil
  obtain ⟨hc, hw⟩ := List.forall_mem_cons.1 hw.not_blank
  rw [List.cons_append, words_cons_of_not_blank hc, splitWord_append hw ht]

/-- What is split off reaches up to a blank or to the end. -/
theorem exists_eq_splitWord_append (s : List Char) :
    ∃ t, s = (splitWord s).1 ++ t ∧ (∀ c ∈ (splitWord s).1, isBlank c = false) ∧ EndsWord t ∧
      words t = (splitWord s).2 := by
  induction s with
  | nil => exact ⟨[], rfl, nofun, nofun, rfl⟩
  | cons c s ih =>
    cases hc : isBlank c with
    | true =>
      rw [splitWord_cons_of_blank hc]
      refine ⟨c :: s, rfl, nofun, ?_, words_cons_of_blank hc s⟩
      rintro _ ⟨⟩
      exact hc
    | false =>
      -- one more character in front, and the split is where it was
      obtain ⟨t, hs, hw, ht, hwords⟩ := ih
      rw [splitWord_cons_of_not_blank hc]
      refine ⟨t, congrArg (c :: ·) hs, ?_, ht, hwords⟩
      exact List.forall_mem_cons.2 ⟨hc, hw⟩

/-- **A text has no words** if it is blank. -/
theorem words_eq_nil_iff : words s = [] ↔ IsBlanks s := by
  constructor
  · intro h
    induction s with
    | nil => exact nofun
    | cons c s ih =>
      cases hc : isBlank c with
      | true =>
        rw [words_cons_of_blank hc] at h
        exact List.forall_mem_cons.2 ⟨hc, ih h⟩
      | false =>
        rw [words_cons_of_not_blank hc] at h
        exact nomatch h
  · intro h
    rw [← List.append_nil s, words_append_of_blanks h]
    rfl

/-- **The first word of a text** comes after blanks, ends at a blank or with the text, and what
follows it has the other words. -/
theorem words_eq_cons_iff : words s = w :: ws ↔ ∃ g t, s = g ++ (w ++ t) ∧ IsBlanks g ∧ IsWord w ∧
    EndsWord t ∧ words t = ws := by
  constructor
  · intro h
    induction s with
    | nil => exact nomatch h
    | cons c s ih =>
      cases hc : isBlank c with
      | true =>
        -- a blank belongs to those before the first word
        rw [words_cons_of_blank hc] at h
        obtain ⟨g, t, rfl, hg, hw, ht, hwords⟩ := ih h
        exact ⟨c :: g, t, rfl, List.forall_mem_cons.2 ⟨hc, hg⟩, hw, ht, hwords⟩
      | false =>
        -- the first word begins here, and reaches as far as it is split off
        rw [words_cons_of_not_blank hc, List.cons.injEq] at h
        obtain ⟨rfl, rfl⟩ := h
        obtain ⟨t, hs, hw, ht, hwords⟩ := exists_eq_splitWord_append s
        exact ⟨[], t, congrArg (c :: ·) hs, nofun,
          ⟨List.cons_ne_nil _ _, List.forall_mem_cons.2 ⟨hc, hw⟩⟩, ht, hwords⟩
  · rintro ⟨g, t, rfl, hg, hw, ht, rfl⟩
    rw [words_append_of_blanks hg, words_append_of_endsWord hw ht]

/-- The blanks around two words: any number before and after, and one or more between them. -/
structure Layout where
  before : List Char
  between : List Char
  after : List Char
  before_blank : IsBlanks before
  between_blank : IsBlanks between
  after_blank : IsBlanks after
  apart : between ≠ []

/-- The text with two words in the layout. -/
def Layout.around (l : Layout) (a b : List Char) : List Char :=
  l.before ++ (a ++ (l.between ++ (b ++ l.after)))

theorem endsWord_of_isBlanks (h : IsBlanks s) : EndsWord s :=
  fun c hc => h c (List.mem_of_mem_head? hc)

/-- A text that ends a word and begins with one has something before that. -/
theorem ne_nil_of_endsWord_append (h : EndsWord (s ++ (w ++ t))) (hw : IsWord w) : s ≠ [] := by
  rintro rfl
  obtain ⟨c, w, rfl⟩ := List.exists_cons_of_ne_nil hw.ne_nil
  have hblank := h c rfl
  rw [hw.not_blank c List.mem_cons_self] at hblank
  exact nomatch hblank

/-- **A text has two words** if it is the two in some layout. -/
theorem words_eq_pair_iff :
    words s = [a, b] ↔ IsWord a ∧ IsWord b ∧ ∃ l : Layout, s = l.around a b := by
  constructor
  · intro h
    obtain ⟨before, t, rfl, hbefore, ha, ht, h⟩ := words_eq_cons_iff.1 h
    obtain ⟨between, after, rfl, hbetween, hb, -, h⟩ := words_eq_cons_iff.1 h
    have hapart := ne_nil_of_endsWord_append ht hb
    exact ⟨ha, hb, ⟨before, between, after, hbefore, hbetween, words_eq_nil_iff.1 h, hapart⟩, rfl⟩
  · rintro ⟨ha, hb, l, rfl⟩
    have hends : EndsWord (l.between ++ (b ++ l.after)) := by
      obtain ⟨c, g, hg⟩ := List.exists_cons_of_ne_nil l.apart
      rw [hg]
      rintro _ ⟨⟩
      exact l.between_blank c (hg ▸ List.mem_cons_self)
    calc words (l.around a b)
      _ = words (a ++ (l.between ++ (b ++ l.after))) := words_append_of_blanks l.before_blank _
      _ = a :: words (l.between ++ (b ++ l.after)) := words_append_of_endsWord ha hends
      _ = a :: words (b ++ l.after) := by rw [words_append_of_blanks l.between_blank]
      _ = [a, b] := by
        rw [words_append_of_endsWord hb (endsWord_of_isBlanks l.after_blank),
          words_eq_nil_iff.2 l.after_blank]

end Text

/-! ### The integer that a numeral stands for -/

namespace Numeral

variable {ds w : List Char} {n : Int} {r : Range}

/-- One or more ASCII digits. -/
structure IsDigits (ds : List Char) : Prop where
  ne_nil : ds ≠ []
  digit : ∀ c ∈ ds, c.isDigit = true

/-- The value of digits by their places: the last one counts ones, the one before it tens. -/
def placeValue (ds : List Char) : Nat :=
  Nat.ofDigits 10 (ds.reverse.map fun c => c.toNat - '0'.toNat)

/-- A decimal numeral and its integer: at most one sign, and one or more digits. -/
inductive Denotes : List Char → Int → Prop where
  | plain {ds : List Char} (digits : IsDigits ds) : Denotes ds (placeValue ds)
  | plus {ds : List Char} (digits : IsDigits ds) : Denotes ('+' :: ds) (placeValue ds)
  | minus {ds : List Char} (digits : IsDigits ds) : Denotes ('-' :: ds) (-(placeValue ds : Int))

theorem isDigits_iff : isDigits ds = true ↔ IsDigits ds := by
  unfold isDigits
  rw [Bool.and_eq_true, Bool.not_eq_true', List.isEmpty_eq_false_iff, List.all_eq_true]
  exact ⟨fun h => ⟨h.1, h.2⟩, fun h => ⟨h.ne_nil, h.digit⟩⟩

/-- **Digits have their value** also if they are read from the front, each one making tens of what
came before. -/
theorem natOfDigits_eq (ds : List Char) : natOfDigits ds = placeValue ds := by
  induction ds using List.reverseRecOn with
  | nil => rfl
  | append_singleton ds c ih =>
    -- the induction is on the end, where the last digit counts ones either way
    unfold placeValue at ih ⊢
    rw [List.reverse_append, List.map_append, List.reverse_singleton, List.map_singleton,
      List.singleton_append, Nat.ofDigits_cons, ← ih]
    unfold natOfDigits
    rw [List.foldl_append, List.foldl_cons, List.foldl_nil, Nat.add_comm]
    rfl

theorem readNat?_eq_some_iff {k : Nat} :
    readNat? ds = some k ↔ IsDigits ds ∧ placeValue ds = k := by
  unfold readNat?
  rw [← isDigits_iff, ← natOfDigits_eq, Option.ite_none_right_eq_some, Option.some.injEq]

theorem map_readNat?_eq_some_iff {f : Nat → Int} :
    (readNat? ds).map f = some n ↔ IsDigits ds ∧ f (placeValue ds) = n := by
  simp only [Option.map_eq_some_iff, readNat?_eq_some_iff]
  constructor
  · rintro ⟨_, ⟨digits, rfl⟩, hn⟩
    exact ⟨digits, hn⟩
  · rintro ⟨digits, hn⟩
    exact ⟨_, ⟨digits, rfl⟩, hn⟩

theorem readInt?_minus (ds : List Char) :
    readInt? ('-' :: ds) = (readNat? ds).map fun k : Nat => -(k : Int) := by
  rw [readInt?]
  cases readNat? ds <;> rfl

theorem readInt?_plus (ds : List Char) :
    readInt? ('+' :: ds) = (readNat? ds).map fun k : Nat => (k : Int) := by
  rw [readInt?]
  cases readNat? ds <;> rfl

/-- A text has a sign first, or is read as digits. -/
theorem sign_cases (w : List Char) : (∃ ds, w = '-' :: ds) ∨ (∃ ds, w = '+' :: ds) ∨
    readInt? w = (readNat? w).map fun k : Nat => (k : Int) := by
  unfold readInt?
  split
  · exact .inl ⟨_, rfl⟩
  · exact .inr (.inl ⟨_, rfl⟩)
  · refine .inr (.inr ?_)
    cases readNat? w <;> rfl

/-- **What is read as an integer** is what a numeral stands for. -/
theorem readInt?_eq_some_iff : readInt? w = some n ↔ Denotes w n := by
  constructor
  · intro h
    obtain ⟨ds, rfl⟩ | ⟨ds, rfl⟩ | hread := sign_cases w
    · rw [readInt?_minus, map_readNat?_eq_some_iff] at h
      obtain ⟨digits, rfl⟩ := h
      exact .minus digits
    · rw [readInt?_plus, map_readNat?_eq_some_iff] at h
      obtain ⟨digits, rfl⟩ := h
      exact .plus digits
    · rw [hread, map_readNat?_eq_some_iff] at h
      obtain ⟨digits, rfl⟩ := h
      exact .plain digits
  · intro h
    cases h with
    | minus digits => rw [readInt?_minus, map_readNat?_eq_some_iff.2 ⟨digits, rfl⟩]
    | plus digits => rw [readInt?_plus, map_readNat?_eq_some_iff.2 ⟨digits, rfl⟩]
    | plain digits =>
      -- a sign is no digit, so the digits begin with the first character
      obtain ⟨ds, rfl⟩ | ⟨ds, rfl⟩ | hread := sign_cases w
      · exact absurd (digits.digit '-' List.mem_cons_self) (by decide)
      · exact absurd (digits.digit '+' List.mem_cons_self) (by decide)
      · rw [hread, map_readNat?_eq_some_iff.2 ⟨digits, rfl⟩]

instance (w : List Char) (n : Int) : Decidable (Denotes w n) :=
  decidable_of_iff _ readInt?_eq_some_iff

/-- A numeral stands for one integer. -/
theorem Denotes.unique {m : Int} (hm : Denotes w m) (hn : Denotes w n) : m = n :=
  Option.some.inj ((readInt?_eq_some_iff.2 hm).symm.trans (readInt?_eq_some_iff.2 hn))

theorem readInt_eq_some_iff : readInt r w = some n ↔ Denotes w n ∧ r.contains n = true := by
  unfold readInt
  rw [Option.filter_eq_some_iff, readInt?_eq_some_iff]

theorem isBlank_of_isDigit {c : Char} (h : c.isDigit = true) : Text.isBlank c = false :=
  RegistrationCode.isBlank_of_isDecimal (Text.isDecimal_of_isDigit h)

/-- **A numeral is a word.** -/
theorem Denotes.isWord (h : Denotes w n) : Text.IsWord w := by
  cases h with
  | plain digits => exact ⟨digits.ne_nil, fun c hc => isBlank_of_isDigit (digits.digit c hc)⟩
  | plus digits | minus digits =>
    refine ⟨List.cons_ne_nil _ _, List.forall_mem_cons.2 ⟨by decide, fun c hc => ?_⟩⟩
    exact isBlank_of_isDigit (digits.digit c hc)

theorem isDigits_natDigits (n : Nat) : IsDigits (natDigits n) where
  ne_nil := Nat.toDigits_ne_nil
  digit _ := isDigit_of_mem_natDigits

theorem placeValue_natDigits (n : Nat) : placeValue (natDigits n) = n := by
  rw [← natOfDigits_eq]
  exact Nat.ofDigitChars_ten_toDigits

/-- **An integer in decimal** is a numeral of it. -/
theorem denotes_ofInt (n : Int) : Denotes (ofInt n).toList n := by
  cases n with
  | ofNat k =>
    have htext : (ofInt (.ofNat k)).toList = natDigits k := String.toList_ofList
    have hvalue : Int.ofNat k = (placeValue (natDigits k) : Int) := by
      rw [placeValue_natDigits]
      rfl
    rw [htext, hvalue]
    exact .plain (isDigits_natDigits k)
  | negSucc k =>
    have htext : (ofInt (.negSucc k)).toList = '-' :: natDigits (k + 1) := by
      show ("-" ++ String.ofList (natDigits (k + 1))).toList = _
      simp
    have hvalue : Int.negSucc k = -(placeValue (natDigits (k + 1)) : Int) := by
      rw [placeValue_natDigits]
      rfl
    rw [htext, hvalue]
    exact .minus (isDigits_natDigits (k + 1))

end Numeral

/-! ### Ranges -/

namespace Range

variable {n : Int}

/-- The integer has so many bits, of which one is the sign. -/
def IsSigned (bits : Nat) (n : Int) : Prop :=
  -2 ^ (bits - 1) ≤ n ∧ n < 2 ^ (bits - 1)

instance (bits : Nat) (n : Int) : Decidable (IsSigned bits n) :=
  inferInstanceAs (Decidable (_ ∧ _))

theorem contains_signed64_iff : signed64.contains n = true ↔ IsSigned 64 n := by
  unfold contains signed64 IsSigned
  rw [Bool.and_eq_true, decide_eq_true_iff, decide_eq_true_iff]
  dsimp only
  omega

theorem contains_signed32_iff : signed32.contains n = true ↔ IsSigned 32 n := by
  unfold contains signed32 IsSigned
  rw [Bool.and_eq_true, decide_eq_true_iff, decide_eq_true_iff]
  dsimp only
  omega

end Range

/-! ### A class and a capacity -/

namespace Argument

open Text Numeral Range

variable {typed : String} {classId capacity : Int}

/-- What is typed is the number of a class and a capacity: a numeral of each, in some layout. -/
def Gives (typed : String) (classId capacity : Int) : Prop :=
  ∃ (l : Layout) (a b : List Char), typed.toList = l.around a b ∧
    Denotes a classId ∧ IsSigned 64 classId ∧ Denotes b capacity ∧ IsSigned 32 capacity

theorem classAndCapacity_eq_ok_iff_words : classAndCapacity typed = .ok (classId, capacity) ↔
    ∃ a b, words typed.toList = [a, b] ∧ readInt .signed64 a = some classId ∧
      readInt .signed32 b = some capacity := by
  unfold classAndCapacity
  constructor
  · intro h
    split at h
    · next a b hwords =>
      split at h
      · next ha hb =>
        cases h
        exact ⟨a, b, hwords, ha, hb⟩
      · exact nomatch h
    · exact nomatch h
  · rintro ⟨a, b, hwords, ha, hb⟩
    rw [hwords]
    dsimp only
    rw [ha, hb]

/-- There is only one way to refuse. -/
theorem classAndCapacity_eq_ok_or_error (typed : String) :
    (∃ classId capacity, classAndCapacity typed = .ok (classId, capacity)) ∨
      classAndCapacity typed = .error (.badInput Wording.capacityUsage) := by
  unfold classAndCapacity
  split
  · split
    · exact .inl ⟨_, _, rfl⟩
    · exact .inr rfl
  · exact .inr rfl

/-- **What is read** is what is typed. -/
theorem classAndCapacity_eq_ok_iff :
    classAndCapacity typed = .ok (classId, capacity) ↔ Gives typed classId capacity := by
  simp only [classAndCapacity_eq_ok_iff_words, words_eq_pair_iff, readInt_eq_some_iff,
    contains_signed64_iff, contains_signed32_iff]
  constructor
  · rintro ⟨a, b, ⟨-, -, l, hl⟩, ⟨ha, hclass⟩, hb, hcapacity⟩
    exact ⟨l, a, b, hl, ha, hclass, hb, hcapacity⟩
  · rintro ⟨l, a, b, hl, ha, hclass, hb, hcapacity⟩
    exact ⟨a, b, ⟨ha.isWord, hb.isWord, l, hl⟩, ⟨ha, hclass⟩, hb, hcapacity⟩

/-- **What is refused** is all else. -/
theorem classAndCapacity_eq_error_iff :
    classAndCapacity typed = .error (.badInput Wording.capacityUsage) ↔
      ∀ classId capacity, ¬ Gives typed classId capacity := by
  simp only [← classAndCapacity_eq_ok_iff]
  constructor
  · intro h classId capacity
    rw [h]
    exact nofun
  · intro h
    obtain ⟨classId, capacity, hok⟩ | herror := classAndCapacity_eq_ok_or_error typed
    · exact absurd hok (h classId capacity)
    · exact herror

/-- **Two numerals are read** as what they stand for if both are in range, and refused otherwise. -/
theorem classAndCapacity_around (l : Layout) {a b : List Char} (ha : Denotes a classId)
    (hb : Denotes b capacity) : classAndCapacity (.ofList (l.around a b)) =
      if IsSigned 64 classId ∧ IsSigned 32 capacity then .ok (classId, capacity)
      else .error (.badInput Wording.capacityUsage) := by
  split
  · next fits =>
    rw [classAndCapacity_eq_ok_iff]
    exact ⟨l, a, b, String.toList_ofList, ha, fits.1, hb, fits.2⟩
  · next fits =>
    rw [classAndCapacity_eq_error_iff]
    rintro m n ⟨l', a', b', hl, ha', hclass, hb', hcapacity⟩
    -- the text has only these two words, whatever layout it is seen in
    have hwords := words_eq_pair_iff.2 ⟨ha.isWord, hb.isWord, l, rfl⟩
    have hwords' := words_eq_pair_iff.2 ⟨ha'.isWord, hb'.isWord, l', rfl⟩
    rw [← hl, String.toList_ofList, hwords] at hwords'
    rw [List.cons.injEq, List.cons.injEq] at hwords'
    obtain ⟨rfl, rfl, -⟩ := hwords'
    exact fits ⟨ha.unique ha' ▸ hclass, hb.unique hb' ▸ hcapacity⟩

/-- **A class and a capacity are read exactly.** Read is a text that has two words, both numerals of
integers in range, as these integers, and every other text is refused in the same way. So in any
layout two integers in decimal are read as themselves if they are in range. No numeral of an integer
out of range is read as another, however it is written. -/
theorem typed_numbers_are_exact :
    (∀ typed classId capacity, classAndCapacity typed = .ok (classId, capacity) ↔
        Gives typed classId capacity) ∧
      (∀ typed, classAndCapacity typed = .error (.badInput Wording.capacityUsage) ↔
        ∀ classId capacity, ¬ Gives typed classId capacity) ∧
      (∀ (l : Layout) (a b : List Char) (classId capacity : Int), Denotes a classId →
        Denotes b capacity → classAndCapacity (.ofList (l.around a b)) =
          if IsSigned 64 classId ∧ IsSigned 32 capacity then .ok (classId, capacity)
          else .error (.badInput Wording.capacityUsage)) ∧
      ∀ (l : Layout) (classId capacity : Int),
        classAndCapacity (.ofList (l.around (ofInt classId).toList (ofInt capacity).toList)) =
          if IsSigned 64 classId ∧ IsSigned 32 capacity then .ok (classId, capacity)
          else .error (.badInput Wording.capacityUsage) := by
  refine ⟨?_, ?_, ?_, ?_⟩
  · intro typed classId capacity
    exact classAndCapacity_eq_ok_iff
  · intro typed
    exact classAndCapacity_eq_error_iff
  · intro l a b classId capacity ha hb
    exact classAndCapacity_around l ha hb
  · intro l classId capacity
    exact classAndCapacity_around l (denotes_ofInt classId) (denotes_ofInt capacity)

end Argument

namespace Sample

open Text Numeral

/-- Blanks of several scripts, and a tab and the end of a line. -/
def wideLayout : Layout where
  before := ['\u3000']
  between := ['\u00a0', '\t']
  after := ['\u2003', '\n']
  before_blank := by decide
  between_blank := by decide
  after_blank := by decide
  apart := by decide

/-- The least capacity is read behind a class with a sign and many zeros; the number next to the
greatest one is refused. -/
theorem zeros_in_front_are_read :
    Denotes "+000000000000000000000000000004".toList 4 ∧
      Denotes "-2147483648".toList (-2147483648) ∧ Denotes "2147483648".toList 2147483648 ∧
      Argument.classAndCapacity (.ofList (wideLayout.around
        "+000000000000000000000000000004".toList "-2147483648".toList)) = .ok (4, -2147483648) ∧
      Argument.classAndCapacity (.ofList (wideLayout.around
        "+000000000000000000000000000004".toList "2147483648".toList)) =
          .error (.badInput Wording.capacityUsage) := by
  have four : Denotes "+000000000000000000000000000004".toList 4 := by decide
  have least : Denotes "-2147483648".toList (-2147483648) := by decide
  have beyond : Denotes "2147483648".toList 2147483648 := by decide
  obtain ⟨-, -, numerals, -⟩ := Argument.typed_numbers_are_exact
  refine ⟨four, least, beyond, ?_, ?_⟩
  · rw [numerals wideLayout _ _ _ _ four least]
    exact if_pos (by decide)
  · rw [numerals wideLayout _ _ _ _ four beyond]
    exact if_neg (by decide)

end Sample

end EnrollmentDesk
