import EnrollmentDesk.Text.Markup

/-!
# Escaped texts

A text is escaped by three replacements, each made in all that the one before has left. An entity
has letters, a semicolon and an ampersand, so of its characters only the ampersand is itself
replaced. It is replaced first, while no entity has been written yet; so what is replaced is always
a character of the text, and the three come to one replacement, character by character
(`Text.escapeChars_eq_flatMap`). In any other order the ampersands of entities would be escaped once
more.

An escaped text has no angle, and its ampersands begin entities (`Text.IsEscaped`). From left to
right, where an entity begins there is nothing else to read, so the characters are found again
(`Text.unescapeChars_escapeChars`), also where a person has typed what looks like an entity. That
is all there is to escaped texts: every text without an angle whose ampersands begin entities is one
(`Text.exists_escapeChars_eq_iff`).
-/

namespace EnrollmentDesk.Text

variable {s t : List Char} {c : Char}

/-! ### One replacement -/

theorem replaceChar_append (c : Char) (w s t : List Char) :
    replaceChar c w (s ++ t) = replaceChar c w s ++ replaceChar c w t :=
  List.flatMap_append

theorem escapeChars_append (s t : List Char) :
    escapeChars (s ++ t) = escapeChars s ++ escapeChars t := by
  unfold escapeChars
  rw [replaceChar_append, replaceChar_append, replaceChar_append]

/-- What stands for a character in an escaped text: its entity if it has one. -/
def entityOf (c : Char) : List Char :=
  if c = '&' then ampEntity
  else if c = '<' then ltEntity
  else if c = '>' then gtEntity
  else [c]

theorem entityOf_of_ne (amp : c ≠ '&') (lt : c ≠ '<') (gt : c ≠ '>') : entityOf c = [c] := by
  unfold entityOf
  rw [if_neg amp, if_neg lt, if_neg gt]

theorem escapeChars_singleton (c : Char) : escapeChars [c] = entityOf c := by
  by_cases amp : c = '&'
  · -- the entity of the ampersand has no angle for the later replacements
    subst amp
    decide
  by_cases lt : c = '<'
  · subst lt
    decide
  by_cases gt : c = '>'
  · subst gt
    decide
  rw [entityOf_of_ne amp lt gt]
  have untouched : ∀ a w, c ≠ a → replaceChar a w [c] = [c] := by
    intro a w ne
    show (if c = a then w else [c]) ++ [] = [c]
    rw [if_neg ne, List.append_nil]
  unfold escapeChars
  rw [untouched '&' _ amp, untouched '<' _ lt, untouched '>' _ gt]

/-- **Three replacements are one**: each character by its entity. -/
theorem escapeChars_eq_flatMap (s : List Char) : escapeChars s = s.flatMap entityOf := by
  induction s with
  | nil => rfl
  | cons c s ih =>
    calc escapeChars (c :: s)
      _ = escapeChars [c] ++ escapeChars s := escapeChars_append [c] s
      _ = entityOf c ++ s.flatMap entityOf := by rw [escapeChars_singleton, ih]
      _ = (c :: s).flatMap entityOf := rfl

theorem escapeChars_cons (c : Char) (s : List Char) :
    escapeChars (c :: s) = entityOf c ++ escapeChars s := by
  rw [escapeChars_eq_flatMap, List.flatMap_cons, escapeChars_eq_flatMap]

/-! ### Reading entities -/

/-- The text that is shown: from left to right, each entity is its character, and any other
character is itself. -/
def unescapeChars : List Char → List Char
  | '&' :: 'a' :: 'm' :: 'p' :: ';' :: s => '&' :: unescapeChars s
  | '&' :: 'l' :: 't' :: ';' :: s => '<' :: unescapeChars s
  | '&' :: 'g' :: 't' :: ';' :: s => '>' :: unescapeChars s
  | c :: s => c :: unescapeChars s
  | [] => []

/-- The text that is shown. -/
def unescape (s : String) : String :=
  .ofList (unescapeChars s.toList)

theorem unescapeChars_cons (amp : c ≠ '&') (s : List Char) :
    unescapeChars (c :: s) = c :: unescapeChars s := by
  rw [unescapeChars]
  all_goals exact fun _ h => absurd h amp

theorem unescapeChars_entityOf_append (c : Char) (s : List Char) :
    unescapeChars (entityOf c ++ s) = c :: unescapeChars s := by
  by_cases amp : c = '&'
  · subst amp
    rfl
  by_cases lt : c = '<'
  · subst lt
    rfl
  by_cases gt : c = '>'
  · subst gt
    rfl
  rw [entityOf_of_ne amp lt gt]
  exact unescapeChars_cons amp s

/-- **What is escaped is shown as it was.** -/
theorem unescapeChars_escapeChars (s : List Char) : unescapeChars (escapeChars s) = s := by
  induction s with
  | nil => rfl
  | cons c s ih => rw [escapeChars_cons, unescapeChars_entityOf_append, ih]

/-! ### Which texts are escaped -/

/-- The entities that characters are replaced by. -/
def entities : List (List Char) :=
  [ampEntity, ltEntity, gtEntity]

/-- Each ampersand of the text begins an entity. -/
def HasOnlyEntities (s : List Char) : Prop :=
  ∀ before after, s = before ++ '&' :: after → ∃ e ∈ entities, e <+: '&' :: after

theorem hasOnlyEntities_of_not_mem (h : '&' ∉ s) : HasOnlyEntities s := by
  rintro before after rfl
  exact absurd (List.mem_append_right before List.mem_cons_self) h

theorem HasOnlyEntities.append (hs : HasOnlyEntities s) (ht : HasOnlyEntities t) :
    HasOnlyEntities (s ++ t) := by
  intro before after heq
  obtain ⟨u, rfl, hu⟩ | ⟨u, rfl, hu⟩ := List.append_eq_append_iff.1 heq
  · -- the ampersand stands in the second part
    exact ht u after hu
  · cases u with
    | nil => exact ht [] after hu.symm
    | cons c u =>
      -- it stands in the first part, and so does the entity that it begins
      obtain ⟨rfl, rfl⟩ := List.cons.inj hu
      obtain ⟨e, he, hprefix⟩ := hs before u rfl
      exact ⟨e, he, hprefix.trans (List.prefix_append ('&' :: u) t)⟩

theorem HasOnlyEntities.of_append_right (h : HasOnlyEntities (s ++ t)) : HasOnlyEntities t := by
  rintro before after rfl
  exact h (s ++ before) after (List.append_assoc ..).symm

/-- An entity has no other ampersand than its first character. -/
theorem hasOnlyEntities_of_mem (h : s ∈ entities) : HasOnlyEntities s := by
  have single : ∀ e ∈ entities, e.head? = some '&' ∧ '&' ∉ e.tail := by decide
  intro before after heq
  cases before with
  | nil => exact ⟨s, h, heq ▸ List.prefix_refl _⟩
  | cons c before =>
    refine absurd ?_ (single s h).2
    rw [heq]
    exact List.mem_append_right before List.mem_cons_self

theorem entityOf_eq_or (c : Char) :
    entityOf c ∈ entities ∨ entityOf c = [c] ∧ c ≠ '&' ∧ c ≠ '<' ∧ c ≠ '>' := by
  unfold entityOf
  split
  · exact .inl (by decide)
  split
  · exact .inl (by decide)
  split
  · exact .inl (by decide)
  · next amp lt gt => exact .inr ⟨rfl, amp, lt, gt⟩

/-- What a text looks like once it is escaped. -/
structure IsEscaped (s : List Char) : Prop where
  lt : '<' ∉ s
  gt : '>' ∉ s
  amp : HasOnlyEntities s

theorem isEscaped_nil : IsEscaped [] :=
  ⟨List.not_mem_nil, List.not_mem_nil, hasOnlyEntities_of_not_mem List.not_mem_nil⟩

theorem IsEscaped.append (hs : IsEscaped s) (ht : IsEscaped t) : IsEscaped (s ++ t) where
  lt h := (List.mem_append.1 h).elim hs.lt ht.lt
  gt h := (List.mem_append.1 h).elim hs.gt ht.gt
  amp := hs.amp.append ht.amp

theorem isEscaped_entityOf (c : Char) : IsEscaped (entityOf c) := by
  have angles : ∀ e ∈ entities, '<' ∉ e ∧ '>' ∉ e := by decide
  obtain he | ⟨heq, amp, lt, gt⟩ := entityOf_eq_or c
  · exact ⟨(angles _ he).1, (angles _ he).2, hasOnlyEntities_of_mem he⟩
  · rw [heq]
    have other : ∀ a, c ≠ a → a ∉ [c] := fun a ne h => ne (List.mem_singleton.1 h).symm
    exact ⟨other '<' lt, other '>' gt, hasOnlyEntities_of_not_mem (other '&' amp)⟩

theorem isEscaped_escapeChars (s : List Char) : IsEscaped (escapeChars s) := by
  induction s with
  | nil => exact isEscaped_nil
  | cons c s ih =>
    rw [escapeChars_cons]
    exact (isEscaped_entityOf c).append ih

/-- An escaped text is what is escaped of what it shows. -/
theorem IsEscaped.escapeChars_unescapeChars (h : IsEscaped t) :
    escapeChars (unescapeChars t) = t := by
  have rest : ∀ u v, IsEscaped (u ++ v) → IsEscaped v := fun u v h =>
    ⟨fun hmem => h.lt (List.mem_append_right u hmem),
      fun hmem => h.gt (List.mem_append_right u hmem), h.amp.of_append_right⟩
  fun_induction unescapeChars t with
  | case1 s ih => rw [escapeChars_cons, ih (rest ampEntity s h)]; rfl
  | case2 s ih => rw [escapeChars_cons, ih (rest ltEntity s h)]; rfl
  | case3 s ih => rw [escapeChars_cons, ih (rest gtEntity s h)]; rfl
  | case4 c s amp lt gt ih =>
    -- an ampersand here would begin an entity, which would have been read
    have other : c ≠ '&' := by
      rintro rfl
      obtain ⟨e, he, u, hu⟩ := h.amp [] s rfl
      simp only [entities, List.mem_cons, List.not_mem_nil, or_false] at he
      obtain rfl | rfl | rfl := he
      · exact amp u rfl (List.cons.inj hu).2.symm
      · exact lt u rfl (List.cons.inj hu).2.symm
      · exact gt u rfl (List.cons.inj hu).2.symm
    have hlt : c ≠ '<' := fun heq => h.lt (heq ▸ List.mem_cons_self)
    have hgt : c ≠ '>' := fun heq => h.gt (heq ▸ List.mem_cons_self)
    rw [escapeChars_cons, entityOf_of_ne other hlt hgt, ih (rest [c] s h)]
    rfl
  | case5 => rfl

/-- **Which texts are escaped ones.** -/
theorem exists_escapeChars_eq_iff : (∃ s, escapeChars s = t) ↔ IsEscaped t :=
  ⟨fun ⟨s, hs⟩ => hs ▸ isEscaped_escapeChars s, fun h => ⟨_, h.escapeChars_unescapeChars⟩⟩

theorem toList_escape (s : String) : (escape s).toList = escapeChars s.toList :=
  String.toList_ofList

/-- **Escaping is an encoding by characters**: the three replacements come to one that has the
entity of each character in its place, so the parts of a text are escaped for themselves. Escaped
texts are those without an angle whose ampersands all begin entities, and each shows the text that
was escaped, whatever that looks like. -/
theorem escape_encodes_characters :
    (∀ s : String, (escape s).toList = s.toList.flatMap entityOf) ∧
      (∀ a b : String, escape (a ++ b) = escape a ++ escape b) ∧
      (∀ s : String, '<' ∉ (escape s).toList ∧ '>' ∉ (escape s).toList) ∧
      (∀ s : String, unescape (escape s) = s) ∧
      Function.Injective escape ∧
      ∀ t : String, (∃ s, escape s = t) ↔ IsEscaped t.toList := by
  have undone : ∀ s : String, unescape (escape s) = s := by
    intro s
    unfold unescape
    rw [toList_escape, unescapeChars_escapeChars, String.ofList_toList]
  refine ⟨fun s => ?_, fun a b => ?_, fun s => ?_, undone, ?_, fun t => ?_⟩
  · rw [toList_escape, escapeChars_eq_flatMap]
  · rw [← String.toList_inj, toList_escape, String.toList_append, String.toList_append,
      toList_escape, toList_escape, escapeChars_append]
  · rw [toList_escape]
    exact ⟨(isEscaped_escapeChars _).lt, (isEscaped_escapeChars _).gt⟩
  · intro a b same
    calc a
      _ = unescape (escape a) := (undone a).symm
      _ = unescape (escape b) := by rw [same]
      _ = b := undone b
  · rw [← exists_escapeChars_eq_iff]
    constructor
    · rintro ⟨s, rfl⟩
      exact ⟨s.toList, (toList_escape s).symm⟩
    · rintro ⟨s, hs⟩
      refine ⟨.ofList s, ?_⟩
      rw [← String.toList_inj, toList_escape, String.toList_ofList, hs]

/-- What looks like an entity already is shown as it was typed. -/
example : escape "Tom &amp; <Jerry>" = "Tom &amp;amp; &lt;Jerry&gt;" ∧
    unescape "Tom &amp;amp; &lt;Jerry&gt;" = "Tom &amp; <Jerry>" := by decide

end EnrollmentDesk.Text
