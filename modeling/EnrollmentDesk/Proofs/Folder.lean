import EnrollmentDesk.Url.Reader
import Mathlib.Data.List.DropRight
import Mathlib.Data.List.TakeDrop
import Mathlib.Data.List.TakeWhile

/-!
# Addresses that go on after a slash

Only the scheme, the host and the port of an address can be wrong, and all three are over at the
first slash after the host. So of a *folder*, a text that ends in a slash, it is the text before
that slash that decides whether it can be read, and whatever is added to the folder can be read
exactly if the folder can (`succeeds_readRest_page`, `succeeds_readRest_folder_of_longer`).

Two things stand against "a text that can be read is a folder that can be read with a slash after
it". A text may end where its host would begin: `x://@` names an empty host and is read, and
`x://@/` is not (`succeeds_readRest_folder` excludes the `@`). And the slash may itself be one of
the two that a host follows, as after `file:\`; then what is added is the host
(`succeeds_readFile_host`).
-/

namespace EnrollmentDesk.UrlReader

open Text

/-! ### Texts that are looked at up to a mark -/

section Marks

variable {p : Char → Bool} {s t a b : List Char} {c : Char}

/-- A search that stops at a mark does not see what comes after it. -/
theorem takeWhile_append_mark (hc : p c = false) :
    (s ++ c :: t).takeWhile p = s.takeWhile p := by
  rw [List.takeWhile_append]
  split
  · next h =>
    rw [List.takeWhile_cons_of_neg (by simp [hc]), List.append_nil]
    exact ((List.takeWhile_prefix p).eq_of_length h).symm
  · rfl

theorem dropWhile_append_mark_ne_nil (hc : p c = false) : (s ++ c :: t).dropWhile p ≠ [] := by
  intro h
  have := List.dropWhile_eq_nil_iff.1 h c (by simp)
  simp [hc] at this

/-- What is left of a text after a search is left of a longer one too, and with it what is added. -/
theorem dropWhile_append_of_ne_nil (h : s.dropWhile p ≠ []) :
    (s ++ t).dropWhile p = s.dropWhile p ++ t := by
  rw [List.dropWhile_append, if_neg (by simpa using h)]

theorem eq_of_cutAt_eq_some (h : cutAt p s = some (a, b)) :
    ∃ c, p c = true ∧ s = a ++ c :: b ∧ s.takeWhile (!p ·) = a := by
  induction s generalizing a b with
  | nil => simp [cutAt] at h
  | cons c s ih =>
    unfold cutAt at h
    split at h
    · next hc =>
      simp only [Option.some.injEq, Prod.mk.injEq] at h
      obtain ⟨rfl, rfl⟩ := h
      exact ⟨c, hc, rfl, by simp [hc]⟩
    · next hc =>
      obtain ⟨⟨a, b⟩, hcut, hab⟩ := Option.map_eq_some_iff.1 h
      simp only [Prod.mk.injEq] at hab
      obtain ⟨rfl, rfl⟩ := hab
      obtain ⟨d, hd, rfl, htake⟩ := ih hcut
      exact ⟨d, hd, rfl, by simp [hc, htake]⟩

theorem all_not_of_cutAt_eq_none (h : cutAt p s = none) : ∀ c ∈ s, p c = false := by
  induction s with
  | nil => simp
  | cons c s ih =>
    unfold cutAt at h
    split at h
    · simp at h
    · next hc =>
      rw [Option.map_eq_none_iff] at h
      simpa [hc] using ih h

theorem takeWhile_of_cutAt_eq_none (h : cutAt p s = none) : s.takeWhile (!p ·) = s := by
  rw [List.takeWhile_eq_self_iff]
  intro c hc
  rw [all_not_of_cutAt_eq_none h c hc]
  rfl

theorem cutAt_eq_none (h : ∀ c ∈ s, p c = false) : cutAt p s = none := by
  cases hcut : cutAt p s with
  | none => rfl
  | some ab =>
    obtain ⟨c, hc, hs, -⟩ := eq_of_cutAt_eq_some hcut
    have := h c (by simp [hs])
    simp [hc] at this

theorem eq_of_cutAtLast_eq_some (h : cutAtLast p s = some (a, b)) :
    ∃ c, p c = true ∧ s = a ++ c :: b := by
  unfold cutAtLast at h
  obtain ⟨⟨b', a'⟩, hcut, hab⟩ := Option.map_eq_some_iff.1 h
  simp only [Prod.mk.injEq] at hab
  obtain ⟨rfl, rfl⟩ := hab
  obtain ⟨c, hc, hs, -⟩ := eq_of_cutAt_eq_some hcut
  exact ⟨c, hc, by simpa using congrArg List.reverse hs⟩

theorem cutAtLast_eq_none (h : ∀ c ∈ s, p c = false) : cutAtLast p s = none := by
  unfold cutAtLast
  rw [cutAt_eq_none (by simpa using h), Option.map_none]

end Marks

/-- The text before the query and the fragment. -/
def front (s : List Char) : List Char :=
  s.takeWhile fun c => !(c = '?' || c = '#')

theorem front_eq (s : List Char) :
    front s = (s.takeWhile (fun c => !decide (c = '#'))).takeWhile (fun c => !decide (c = '?')) := by
  rw [List.takeWhile_takeWhile]
  unfold front
  congr 1
  funext c
  simp

theorem splitTail_fst (special : Bool) (s : List Char) : (splitTail special s).1 = front s := by
  rw [front_eq]
  unfold splitTail
  cases hfragment : cutAt (· = '#') s with
  | none =>
    rw [takeWhile_of_cutAt_eq_none hfragment]
    cases hquery : cutAt (· = '?') s with
    | none => rw [takeWhile_of_cutAt_eq_none hquery]; simp only [hquery]
    | some ab =>
      obtain ⟨_, _, _, htake⟩ := eq_of_cutAt_eq_some hquery
      simp only [hquery, htake]
  | some ab =>
    obtain ⟨_, _, _, hfront⟩ := eq_of_cutAt_eq_some hfragment
    rw [hfront]
    cases hquery : cutAt (· = '?') ab.1 with
    | none => rw [takeWhile_of_cutAt_eq_none hquery]; simp only [hquery]
    | some cd =>
      obtain ⟨_, _, _, htake⟩ := eq_of_cutAt_eq_some hquery
      simp only [hquery, htake]

/-- The text before the tail of a longer text: the slash is in it unless the tail began before. -/
theorem front_append_slash (s t : List Char) :
    front (s ++ '/' :: t) = if (front s).length = s.length then s ++ '/' :: front t else front s := by
  unfold front
  rw [List.takeWhile_append, List.takeWhile_cons_of_pos (by decide)]

/-! ### What can go wrong -/

/-- Nothing went wrong. -/
def Succeeds {α : Type} (x : Except UrlError α) : Prop :=
  ∃ a, x = .ok a

theorem succeeds_ok {α : Type} (a : α) : Succeeds (.ok a) :=
  ⟨a, rfl⟩

/-- The text before the slash or the tail. -/
def authorityText (scheme s : List Char) : List Char :=
  s.takeWhile fun c => !endsAuthority (usualPort? scheme).isSome c

/-- The text from the slash or the tail on. -/
def afterAuthority (scheme s : List Char) : List Char :=
  s.dropWhile fun c => !endsAuthority (usualPort? scheme).isSome c

theorem endsAuthority_slash (special : Bool) : (!endsAuthority special '/') = false := by
  cases special <;> rfl

/-- A slash ends the authority. -/
theorem authorityText_slash (scheme s t : List Char) :
    authorityText scheme (s ++ '/' :: t) = authorityText scheme s :=
  takeWhile_append_mark (endsAuthority_slash _)

theorem afterAuthority_slash_ne_nil (scheme s t : List Char) :
    afterAuthority scheme (s ++ '/' :: t) ≠ [] :=
  dropWhile_append_mark_ne_nil (endsAuthority_slash _)

theorem authorityText_eq_self {scheme s : List Char} (h : afterAuthority scheme s = []) :
    authorityText scheme s = s := by
  unfold authorityText
  rw [List.takeWhile_eq_self_iff]
  exact List.dropWhile_eq_nil_iff.1 h

/-- With a host before it, all that can go wrong is the authority. -/
theorem succeeds_readWithHost_iff {scheme s : List Char} :
    Succeeds (readWithHost scheme s) ↔
      Succeeds (readAuthority scheme (authorityText scheme s)
        !(afterAuthority scheme s).isEmpty) := by
  unfold readWithHost authorityText afterAuthority
  simp only [List.span_eq_takeWhile_dropWhile]
  cases readAuthority scheme (s.takeWhile fun c => !endsAuthority (usualPort? scheme).isSome c)
      !(s.dropWhile fun c => !endsAuthority (usualPort? scheme).isSome c).isEmpty with
  | error e => exact ⟨(nomatch ·), (nomatch ·)⟩
  | ok a => exact ⟨fun _ => succeeds_ok a, fun _ => succeeds_ok _⟩

/-- What comes after a slash does not matter to the host before it. -/
theorem succeeds_readWithHost_slash_iff {scheme s t : List Char} :
    Succeeds (readWithHost scheme (s ++ '/' :: t)) ↔
      Succeeds (readAuthority scheme (authorityText scheme s) true) := by
  rw [succeeds_readWithHost_iff, authorityText_slash,
    List.isEmpty_eq_false_iff.2 (afterAuthority_slash_ne_nil scheme s t), Bool.not_false]

/-- Only of an authority that ends in `@` does it matter whether more comes after it. -/
theorem readAuthority_more {scheme s : List Char} (h : s.getLast? ≠ some '@') (more : Bool) :
    readAuthority scheme s more = readAuthority scheme s false := by
  unfold readAuthority
  cases hcut : cutAtLast (· = '@') s with
  | none => simp
  | some ab =>
    obtain ⟨a, b⟩ := ab
    obtain ⟨c, hc, rfl⟩ := eq_of_cutAtLast_eq_some hcut
    have hb : b.isEmpty = false := by
      cases b with
      | nil => simp_all
      | cons d b => rfl
    simp [hb]

/-- What can be read with a host can be read with a slash after it. -/
theorem succeeds_readWithHost_slash {scheme s : List Char} (hlast : s.getLast? ≠ some '@')
    (t : List Char) (h : Succeeds (readWithHost scheme s)) :
    Succeeds (readWithHost scheme (s ++ '/' :: t)) := by
  rw [succeeds_readWithHost_slash_iff]
  rw [succeeds_readWithHost_iff] at h
  by_cases hrest : afterAuthority scheme s = []
  · -- there was no slash yet, so all of the text is the authority
    rw [authorityText_eq_self hrest] at h ⊢
    rw [readAuthority_more hlast] at h ⊢
    exact h
  · rwa [List.isEmpty_eq_false_iff.2 hrest] at h

/-! ### Names of pages -/

/-- A character that means itself wherever it stands in an address, or the sign of a byte. -/
def isPageChar (c : Char) : Bool :=
  isUnreserved c || c = '%'

/-- A text that has no other characters. -/
def IsPage (s : List Char) : Prop :=
  ∀ c ∈ s, isPageChar c = true

theorem IsPage.ne {s : List Char} (hs : IsPage s) {c d : Char} (hc : c ∈ s)
    (hd : isPageChar d = false) : c ≠ d := by
  rintro rfl
  simp [hs c hc] at hd

theorem isPage_nil : IsPage [] :=
  fun _ h => nomatch h

theorem splitHost_of_forall_ne {s : List Char} (h : ∀ c ∈ s, c ≠ ':') (hopen : ∀ c ∈ s, c ≠ '[')
    (hclose : ∀ c ∈ s, c ≠ ']') : splitHost false s = (s, []) := by
  induction s with
  | nil => rfl
  | cons c s ih =>
    have hc := List.forall_mem_cons.1 h
    have ho := List.forall_mem_cons.1 hopen
    have hcl := List.forall_mem_cons.1 hclose
    simp [splitHost, hc.1, ho.1, hcl.1, ih hc.2 ho.2 hcl.2]

/-- The name of a page is a host in a scheme that is not special. -/
theorem succeeds_readPlainHost_page {s : List Char} (hs : IsPage s) : Succeeds (readPlainHost s) := by
  have hhead : s.head? ≠ some '[' := by
    intro h
    exact hs.ne (List.mem_of_mem_head? h) (d := '[') (by decide) rfl
  have hany : s.any isForbiddenInHost = false := by
    rw [List.any_eq_false]
    intro c hc hforbidden
    unfold isForbiddenInHost at hforbidden
    rw [List.contains_iff_mem] at hforbidden
    simp only [List.mem_cons, List.not_mem_nil, or_false] at hforbidden
    have hpage := hs c hc
    rcases hforbidden with rfl | rfl | rfl | rfl | rfl | rfl | rfl | rfl | rfl | rfl | rfl | rfl |
      rfl | rfl | rfl | rfl | rfl <;> exact absurd hpage (by decide)
  unfold readPlainHost
  rw [if_neg hhead, hany]
  exact succeeds_ok _

theorem succeeds_readAuthority_page {scheme s : List Char}
    (hscheme : (usualPort? scheme).isSome = false) (hs : IsPage s) :
    Succeeds (readAuthority scheme s false) := by
  obtain ⟨host, hhost⟩ := succeeds_readPlainHost_page hs
  have hcut : cutAtLast (· = '@') s = none :=
    cutAtLast_eq_none fun c hc => decide_eq_false (hs.ne hc (by decide))
  have hsplit : splitHost false s = (s, []) :=
    splitHost_of_forall_ne (fun c hc => hs.ne hc (by decide)) (fun c hc => hs.ne hc (by decide))
      (fun c hc => hs.ne hc (by decide))
  have huser : readUser [] = ([], []) := rfl
  refine ⟨⟨[], [], host, none, []⟩, ?_⟩
  unfold readAuthority
  simp only [hscheme, hcut, hsplit, hhost, huser, Option.getD_none, Bool.and_false, Bool.false_and,
    Bool.and_true, List.isEmpty_nil, Bool.not_true, Bool.false_eq_true, if_false]
  rfl

/-- In a scheme that is not special, whatever a page is named can stand after the two slashes. -/
theorem succeeds_readWithHost_page {scheme s : List Char}
    (hscheme : (usualPort? scheme).isSome = false) (hs : IsPage s) :
    Succeeds (readWithHost scheme s) := by
  have hends : afterAuthority scheme s = [] := by
    unfold afterAuthority
    rw [List.dropWhile_eq_nil_iff, hscheme]
    intro c hc
    unfold endsAuthority isSlash
    simp [hs.ne hc (d := '/') (by decide), hs.ne hc (d := '?') (by decide),
      hs.ne hc (d := '#') (by decide)]
  rw [succeeds_readWithHost_iff, hends, authorityText_eq_self hends]
  exact succeeds_readAuthority_page hscheme hs

/-! ### Files -/

/-- The text between the two slashes after which the host of a file stands and the slash after it;
absent if the two are not there. -/
def fileHostText? : List Char → Option (List Char)
  | a :: b :: rest =>
    if isSlash true a && isSlash true b then some (rest.takeWhile fun c => !isSlash true c)
    else none
  | _ => none

/-- A disk, or a host that can be read. -/
def IsFilePlace (typed : List Char) : Prop :=
  isTypedDrive typed = true ∨ Succeeds (readFileHost typed)

theorem isFilePlace_nil : IsFilePlace [] :=
  .inr (succeeds_ok _)

theorem succeeds_readFilePlace_iff {s : List Char} :
    Succeeds (readFilePlace s) ↔ IsFilePlace (s.takeWhile fun c => !isSlash true c) := by
  unfold readFilePlace IsFilePlace
  simp only [List.span_eq_takeWhile_dropWhile]
  by_cases hdrive : isTypedDrive (s.takeWhile fun c => !isSlash true c) = true
  · rw [if_pos hdrive]
    exact ⟨fun _ => .inl hdrive, fun _ => succeeds_ok _⟩
  · rw [if_neg hdrive]
    cases hhost : readFileHost (s.takeWhile fun c => !isSlash true c) with
    | error e => exact ⟨(nomatch ·), fun h => h.elim (absurd · hdrive) (nomatch ·)⟩
    | ok host =>
      refine ⟨fun _ => .inr (succeeds_ok host), fun _ => ?_⟩
      change Succeeds (if host = .name [] then _ else _)
      split <;> exact succeeds_ok _

/-- All that can go wrong with a file is its host. -/
theorem succeeds_readFile_iff {s : List Char} :
    Succeeds (readFile s) ↔ ∀ typed ∈ fileHostText? (front s), IsFilePlace typed := by
  rw [← splitTail_fst true s]
  unfold readFile
  obtain ⟨before, query, fragment⟩ := splitTail true s
  unfold fileHostText?
  rcases before with _ | ⟨a, _ | ⟨b, rest⟩⟩
  · exact ⟨fun _ => by simp, fun _ => succeeds_ok _⟩
  · exact ⟨fun _ => by simp, fun _ => succeeds_ok _⟩
  · dsimp only
    by_cases hslashes : (isSlash true a && isSlash true b) = true
    · rw [if_pos hslashes, if_pos hslashes]
      simp only [Option.mem_some_iff, forall_eq', ← succeeds_readFilePlace_iff]
      cases readFilePlace rest with
      | error e => exact ⟨(nomatch ·), (nomatch ·)⟩
      | ok place => exact ⟨fun _ => succeeds_ok place, fun _ => succeeds_ok _⟩
    · rw [if_neg hslashes, if_neg hslashes]
      exact ⟨fun _ => by simp, fun _ => succeeds_ok _⟩

/-- Once two characters are there, a slash ends the place of the host. -/
theorem fileHostText?_append_slash {s : List Char} (hs : 2 ≤ s.length) (t : List Char) :
    fileHostText? (front (s ++ '/' :: t)) = fileHostText? (front s) := by
  rw [front_append_slash]
  split
  · next hlength =>
    have hfront : front s = s := (List.takeWhile_prefix _).eq_of_length hlength
    rw [hfront]
    match s, hs with
    | a :: b :: rest, _ =>
      simp only [List.cons_append, fileHostText?]
      rw [takeWhile_append_mark (by decide)]
  · rfl

/-- One slash: with another after it, a host is to follow. -/
def opensFileHost : List Char → Bool
  | [c] => isSlash true c
  | _ => false

theorem IsPage.front_eq {s : List Char} (hs : IsPage s) : front s = s := by
  unfold front
  rw [List.takeWhile_eq_self_iff]
  intro c hc
  simp [hs.ne hc (d := '#') (by decide), hs.ne hc (d := '?') (by decide)]

theorem IsPage.isSlash_eq_false {s : List Char} (hs : IsPage s) {c : Char} (hc : c ∈ s) :
    isSlash true c = false := by
  unfold isSlash
  simp [hs.ne hc (d := '/') (by decide), hs.ne hc (d := '\\') (by decide)]

/-- Before two characters are there, the host is what comes after the slash or there is none. -/
theorem fileHostText?_short {s t : List Char} (hs : s.length < 2) (ht : IsPage t) :
    fileHostText? (front (s ++ '/' :: t)) = if opensFileHost s then some t else none := by
  rw [front_append_slash, ht.front_eq]
  match s, hs with
  | [], _ =>
    match t, ht with
    | [], _ => rfl
    | c :: t, ht =>
      have hc := ht.isSlash_eq_false List.mem_cons_self
      simp [front, fileHostText?, opensFileHost, hc]
  | [c], _ =>
    by_cases hc : isSlash true c = true
    · have hfront : front [c] = [c] := by
        unfold isSlash at hc
        simp only [Bool.true_and, Bool.or_eq_true, decide_eq_true_eq] at hc
        rcases hc with rfl | rfl <;> rfl
      have htake : t.takeWhile (fun c => !isSlash true c) = t := by
        rw [List.takeWhile_eq_self_iff]
        exact fun c hc => by rw [ht.isSlash_eq_false hc]; rfl
      rw [hfront, if_pos rfl]
      simp [fileHostText?, opensFileHost, hc, htake, show isSlash true '/' = true from rfl]
    · rw [Bool.not_eq_true] at hc
      have hfront : front [c] = [c] ∨ front [c] = [] := by
        unfold front
        rw [List.takeWhile_cons]
        split
        · exact .inl rfl
        · exact .inr rfl
      rcases hfront with hfront | hfront <;> simp [hfront, fileHostText?, opensFileHost, hc]

/-- A folder of files can be read if the host that is already there can. -/
theorem succeeds_readFile_folder {s : List Char}
    (h : 2 ≤ s.length → ∀ typed ∈ fileHostText? (front s), IsFilePlace typed) :
    Succeeds (readFile (s ++ ['/'])) := by
  rw [succeeds_readFile_iff]
  by_cases hs : 2 ≤ s.length
  · rw [fileHostText?_append_slash hs]
    exact h hs
  · rw [fileHostText?_short (by omega) isPage_nil]
    intro typed htyped
    split at htyped
    · obtain rfl := Option.some.inj htyped
      exact isFilePlace_nil
    · simp at htyped

theorem succeeds_readFile_folder_of_longer {s t : List Char}
    (h : Succeeds (readFile (s ++ '/' :: t))) : Succeeds (readFile (s ++ ['/'])) := by
  refine succeeds_readFile_folder fun hs => ?_
  rw [succeeds_readFile_iff, fileHostText?_append_slash hs] at h
  exact h

theorem succeeds_readFile_page {s t : List Char} (ht : IsPage t) (hs : opensFileHost s = false)
    (h : Succeeds (readFile (s ++ ['/']))) : Succeeds (readFile (s ++ '/' :: t)) := by
  rw [succeeds_readFile_iff] at h ⊢
  by_cases hlength : 2 ≤ s.length
  · rw [fileHostText?_append_slash hlength] at h ⊢
    exact h
  · rw [fileHostText?_short (by omega) ht, hs]
    simp

/-- After one slash, a page is the host of a file. -/
theorem succeeds_readFile_host {s t : List Char} (ht : IsPage t) (hlength : 2 < t.length)
    (hs : opensFileHost s = true) :
    Succeeds (readFile (s ++ '/' :: t)) ↔ Succeeds (readFileHost t) := by
  have hshort : s.length < 2 := by
    match s, hs with
    | [c], _ => simp
  have hdrive : ¬isTypedDrive t = true := by
    unfold isTypedDrive
    split
    · simp at hlength
    · simp
  rw [succeeds_readFile_iff, fileHostText?_short hshort ht, hs]
  simp [IsFilePlace, hdrive]

/-! ### Schemes -/

/-- A scheme is letters and some other characters before the first colon. -/
theorem scheme?_eq_some_iff {s scheme rest : List Char} :
    scheme? s = some (scheme, rest) ↔
      ∃ c cs, s = c :: cs ++ ':' :: rest ∧ (∀ x ∈ c :: cs, isSchemeChar x = true) ∧
        c.isAlpha = true ∧ scheme = (c :: cs).map Char.toLower := by
  unfold scheme?
  rw [List.span_eq_takeWhile_dropWhile]
  constructor
  · intro h
    split at h
    · next c cs rest' hspan =>
      obtain ⟨htake, hdrop⟩ := Prod.mk.inj hspan
      split at h
      · next halpha =>
        simp only [Option.some.injEq, Prod.mk.injEq] at h
        obtain ⟨rfl, rfl⟩ := h
        refine ⟨c, cs, ?_, ?_, halpha, rfl⟩
        · rw [← List.takeWhile_append_dropWhile (p := isSchemeChar) (l := s), htake, hdrop]
        · rw [← htake]
          exact fun x hx => List.mem_takeWhile_imp hx
      · simp at h
    · simp at h
  · rintro ⟨c, cs, rfl, hall, halpha, rfl⟩
    rw [List.takeWhile_append_of_pos hall, List.dropWhile_append_of_pos hall,
      List.takeWhile_cons_of_neg (by decide), List.dropWhile_cons_of_neg (by decide),
      List.append_nil]
    simp [halpha]

theorem scheme?_append {s scheme rest : List Char} (h : scheme? s = some (scheme, rest))
    (t : List Char) : scheme? (s ++ t) = some (scheme, rest ++ t) := by
  obtain ⟨c, cs, rfl, hall, halpha, rfl⟩ := scheme?_eq_some_iff.1 h
  exact scheme?_eq_some_iff.2 ⟨c, cs, by simp, hall, halpha, rfl⟩

theorem suffix_of_scheme? {s scheme rest : List Char} (h : scheme? s = some (scheme, rest)) :
    rest <:+ s := by
  obtain ⟨c, cs, rfl, -⟩ := scheme?_eq_some_iff.1 h
  exact ⟨c :: cs ++ [':'], by simp⟩

/-- The colon of a scheme comes before the first slash. -/
theorem scheme?_of_append_slash {s t scheme rest : List Char}
    (h : scheme? (s ++ '/' :: t) = some (scheme, rest)) :
    ∃ rest', scheme? s = some (scheme, rest') ∧ rest = rest' ++ '/' :: t := by
  obtain ⟨c, cs, hs, hall, halpha, rfl⟩ := scheme?_eq_some_iff.1 h
  rcases List.append_eq_append_iff.1 hs with ⟨u, hu, hslash⟩ | ⟨u, rfl, hcolon⟩
  · -- the slash would be a character of the scheme, or the colon
    cases u with
    | nil => simp at hslash
    | cons d u =>
      obtain ⟨rfl, -⟩ := List.cons.inj hslash
      exact absurd (hall '/' (by rw [hu]; simp)) (by decide)
  · cases u with
    | nil => simp at hcolon
    | cons d u =>
      obtain ⟨rfl, rfl⟩ := List.cons.inj hcolon
      exact ⟨u, scheme?_eq_some_iff.2 ⟨c, cs, rfl, hall, halpha, rfl⟩, rfl⟩

/-! ### Margins -/

/-- The text without the margin in front, and without tabs and line breaks. -/
def trimStart (s : List Char) : List Char :=
  (s.dropWhile isMargin).filter fun c => c ≠ '\t' && c ≠ '\n' && c ≠ '\r'

theorem isKept_of_isMargin_eq_false {c : Char} (h : isMargin c = false) :
    (decide (c ≠ '\t') && decide (c ≠ '\n') && decide (c ≠ '\r')) = true := by
  by_contra hbreak
  simp only [ne_eq, decide_not, Bool.and_eq_true, Bool.not_eq_true', decide_eq_false_iff_not,
    not_and_or, not_not] at hbreak
  rcases hbreak with (rfl | rfl) | rfl <;> exact absurd h (by decide)

/-- From the first character that is no margin, margins are part of the text. -/
theorem dropWhile_isMargin_append {c : Char} (hc : isMargin c = false) (s t : List Char) :
    (s ++ c :: t).dropWhile isMargin = s.dropWhile isMargin ++ c :: t := by
  rw [List.dropWhile_append]
  split
  · next h =>
    rw [List.isEmpty_iff.1 h, List.dropWhile_cons_of_neg (by simp [hc]), List.nil_append]
  · rfl

theorem filter_isKept_eq_self {t : List Char} (ht : ∀ c ∈ t, isMargin c = false) :
    (t.filter fun c => c ≠ '\t' && c ≠ '\n' && c ≠ '\r') = t :=
  List.filter_eq_self.2 fun c hc => isKept_of_isMargin_eq_false (ht c hc)

theorem trimStart_append {c : Char} {t : List Char} (ht : ∀ d ∈ c :: t, isMargin d = false)
    (s : List Char) : trimStart (s ++ c :: t) = trimStart s ++ c :: t := by
  unfold trimStart
  rw [dropWhile_isMargin_append (ht c List.mem_cons_self), List.filter_append,
    filter_isKept_eq_self ht]

/-- Nothing else is dropped from a text without a margin at its end. -/
theorem clean_append {c : Char} {t : List Char} (ht : ∀ d ∈ c :: t, isMargin d = false)
    (s : List Char) : clean (s ++ c :: t) = trimStart s ++ c :: t := by
  have hend : ((s ++ c :: t).dropWhile isMargin).rdropWhile isMargin =
      (s ++ c :: t).dropWhile isMargin := by
    rw [dropWhile_isMargin_append (ht c List.mem_cons_self), List.rdropWhile_eq_self_iff]
    intro hne
    rw [List.getLast_append_of_ne_nil _ (List.cons_ne_nil c t), ht _ (List.getLast_mem _)]
    decide
  change (((s ++ c :: t).dropWhile isMargin).rdropWhile isMargin).filter _ = _
  rw [hend]
  exact trimStart_append ht s

/-- What is dropped at the end comes after what is kept. -/
theorem clean_prefix (s : List Char) : clean s <+: trimStart s := by
  change (((s.dropWhile isMargin).rdropWhile isMargin).filter _) <+: _
  exact (List.rdropWhile_prefix isMargin _).filter _

/-! ### Whole addresses -/

/-- Reads what follows the colon of a scheme. -/
def readRest (scheme rest : List Char) : Except UrlError Url :=
  if scheme = fileScheme then readFile rest
  else if (usualPort? scheme).isSome then readWithHost scheme (rest.dropWhile (isSlash true))
  else
    match rest with
    | '/' :: '/' :: s => readWithHost scheme s
    | s => .ok (readWithoutHost scheme s)

theorem read_eq (s : List Char) :
    read s = (match scheme? (clean s) with
      | none => .error .noScheme
      | some (scheme, rest) => readRest scheme rest) := rfl

theorem succeeds_read_iff {s : List Char} :
    Succeeds (read s) ↔
      ∃ scheme rest, scheme? (clean s) = some (scheme, rest) ∧ Succeeds (readRest scheme rest) := by
  rw [read_eq]
  cases scheme? (clean s) with
  | none => exact ⟨(nomatch ·), (nomatch ·)⟩
  | some p => exact ⟨fun h => ⟨p.1, p.2, rfl, h⟩, fun ⟨_, _, hp, h⟩ => Option.some.inj hp ▸ h⟩

/-- In a scheme with domain names, something comes after the slashes. -/
def IsGrounded (scheme rest : List Char) : Prop :=
  (usualPort? scheme).isSome = true → rest.dropWhile (isSlash true) ≠ []

section Whole

variable {scheme rest t : List Char}

theorem IsGrounded.append (h : IsGrounded scheme rest) (t : List Char) :
    IsGrounded scheme (rest ++ t) := by
  intro hspecial
  rw [dropWhile_append_of_ne_nil (h hspecial)]
  exact List.append_ne_nil_of_left_ne_nil (h hspecial) t

theorem IsGrounded.of_append (h : IsGrounded scheme (rest ++ t)) (ht : ∀ c ∈ t, c = '/') :
    IsGrounded scheme rest := by
  intro hspecial hnil
  refine h hspecial ?_
  rw [List.dropWhile_append, hnil, if_pos List.isEmpty_nil, List.dropWhile_eq_nil_iff]
  intro c hc
  rw [ht c hc]
  rfl

theorem readRest_file : readRest fileScheme rest = readFile rest := by
  unfold readRest
  rw [if_pos rfl]

theorem readRest_special (hspecial : (usualPort? scheme).isSome = true) :
    readRest scheme rest = readWithHost scheme (rest.dropWhile (isSlash true)) := by
  have hfile : scheme ≠ fileScheme := by
    rintro rfl
    exact absurd hspecial (by decide)
  unfold readRest
  rw [if_neg hfile, if_pos hspecial]

/-- In any other scheme, only what comes after two slashes can be wrong. -/
theorem succeeds_readRest_other_iff (hfile : scheme ≠ fileScheme)
    (hspecial : (usualPort? scheme).isSome = false) :
    Succeeds (readRest scheme rest) ↔
      ∀ s, rest = '/' :: '/' :: s → Succeeds (readWithHost scheme s) := by
  unfold readRest
  rw [if_neg hfile, if_neg (by rw [hspecial]; decide)]
  split
  · next s => simp
  · next s hs => exact ⟨fun _ s h => absurd h (hs s), fun _ => succeeds_ok _⟩

/-- In any other scheme, it is the host before the slash that can be wrong. -/
theorem succeeds_readRest_other_slash (hfile : scheme ≠ fileScheme)
    (hspecial : (usualPort? scheme).isSome = false) (ht : IsPage t)
    (h : ∀ r, rest = '/' :: '/' :: r → Succeeds (readWithHost scheme (r ++ '/' :: t))) :
    Succeeds (readRest scheme (rest ++ '/' :: t)) := by
  rw [succeeds_readRest_other_iff hfile hspecial]
  intro s hs
  match rest with
  | [] =>
    obtain ⟨-, rfl⟩ := List.cons.inj hs
    exact absurd rfl (ht.ne List.mem_cons_self (d := '/') (by decide))
  | [c] =>
    -- the slash is the second of the two if `c` is the first, and then the page is the host
    obtain ⟨-, hs⟩ := List.cons.inj hs
    obtain ⟨-, rfl⟩ := List.cons.inj hs
    exact succeeds_readWithHost_page hspecial ht
  | a :: b :: r =>
    simp only [List.cons_append, List.cons.injEq] at hs
    obtain ⟨rfl, rfl, rfl⟩ := hs
    exact h r rfl

/-- With domain names, a host is never empty. -/
theorem isGrounded_of_succeeds (h : Succeeds (readRest scheme rest)) : IsGrounded scheme rest := by
  intro hspecial hnil
  have hempty (more : Bool) : readAuthority scheme [] more = .error .emptyHost := by
    have hcut : cutAtLast (· = '@') [] = none := rfl
    unfold readAuthority
    simp only [hcut, hspecial, splitHost, Option.getD_none, List.length_nil, lt_self_iff_false,
      decide_false, Bool.and_false, Bool.false_and, List.isEmpty_nil, Bool.and_true,
      Bool.false_eq_true, if_false, if_true]
    rfl
  rw [readRest_special hspecial, hnil, succeeds_readWithHost_iff] at h
  unfold authorityText at h
  rw [List.takeWhile_nil, hempty] at h
  exact nomatch h

/-- With domain names, what comes after a slash is never looked at. -/
theorem succeeds_readRest_special_slash_iff (hspecial : (usualPort? scheme).isSome = true)
    (hrest : IsGrounded scheme rest) :
    Succeeds (readRest scheme (rest ++ '/' :: t)) ↔
      Succeeds (readAuthority scheme
        (authorityText scheme (rest.dropWhile (isSlash true))) true) := by
  rw [readRest_special hspecial, dropWhile_append_of_ne_nil (hrest hspecial),
    succeeds_readWithHost_slash_iff]

/-- What can be read with more after a slash can be read without. -/
theorem succeeds_readRest_folder_of_longer (hrest : IsGrounded scheme rest)
    (h : Succeeds (readRest scheme (rest ++ '/' :: t))) :
    Succeeds (readRest scheme (rest ++ ['/'])) := by
  by_cases hfile : scheme = fileScheme
  · subst hfile
    rw [readRest_file] at h ⊢
    exact succeeds_readFile_folder_of_longer h
  cases hspecial : (usualPort? scheme).isSome with
  | true =>
    -- both are the authority before the slash
    rw [succeeds_readRest_special_slash_iff hspecial hrest] at h ⊢
    exact h
  | false =>
    refine succeeds_readRest_other_slash hfile hspecial isPage_nil fun r hr => ?_
    have hlonger := (succeeds_readRest_other_iff hfile hspecial).1 h (r ++ '/' :: t) (by simp [hr])
    rwa [succeeds_readWithHost_slash_iff] at hlonger ⊢

/-- Whether a slash after the text would be the second of the two that the host of a file follows. -/
def opensHost (scheme rest : List Char) : Bool :=
  scheme = fileScheme && opensFileHost rest

theorem getLast?_of_opensHost (h : opensHost scheme rest = true) :
    rest.getLast? = some '/' ∨ rest.getLast? = some '\\' := by
  unfold opensHost at h
  rw [Bool.and_eq_true] at h
  match rest, h.2 with
  | [c], hslash =>
    unfold opensFileHost isSlash at hslash
    simpa using hslash

/-- **A page of a folder** can be read if the folder can, unless the page is a host. -/
theorem succeeds_readRest_page (hrest : IsGrounded scheme rest) (ht : IsPage t)
    (hopens : opensHost scheme rest = false) (h : Succeeds (readRest scheme (rest ++ ['/']))) :
    Succeeds (readRest scheme (rest ++ '/' :: t)) := by
  by_cases hfile : scheme = fileScheme
  · subst hfile
    rw [readRest_file] at h ⊢
    exact succeeds_readFile_page ht (by simpa [opensHost] using hopens) h
  cases hspecial : (usualPort? scheme).isSome with
  | true =>
    rw [succeeds_readRest_special_slash_iff hspecial hrest] at h ⊢
    exact h
  | false =>
    refine succeeds_readRest_other_slash hfile hspecial ht fun r hr => ?_
    have hfolder := (succeeds_readRest_other_iff hfile hspecial).1 h (r ++ ['/']) (by simp [hr])
    rwa [succeeds_readWithHost_slash_iff] at hfolder ⊢

theorem getLast?_ne_of_suffix {s : List Char} {c : Char} (hs : s <:+ rest)
    (h : rest.getLast? ≠ some c) : s.getLast? ≠ some c := by
  obtain ⟨u, rfl⟩ := hs
  intro hlast
  rw [List.getLast?_append, hlast] at h
  exact h rfl

/-- **What can be read can be read with a slash after it**, unless it ends in `@`. -/
theorem succeeds_readRest_folder (hlast : rest.getLast? ≠ some '@')
    (h : Succeeds (readRest scheme rest)) : Succeeds (readRest scheme (rest ++ ['/'])) := by
  by_cases hfile : scheme = fileScheme
  · subst hfile
    rw [readRest_file] at h ⊢
    exact succeeds_readFile_folder fun _ => succeeds_readFile_iff.1 h
  cases hspecial : (usualPort? scheme).isSome with
  | true =>
    have hground := isGrounded_of_succeeds h hspecial
    rw [readRest_special hspecial] at h ⊢
    rw [dropWhile_append_of_ne_nil hground]
    exact succeeds_readWithHost_slash
      (getLast?_ne_of_suffix (List.dropWhile_suffix _) hlast) [] h
  | false =>
    refine succeeds_readRest_other_slash hfile hspecial isPage_nil fun r hr => ?_
    have hhost := (succeeds_readRest_other_iff hfile hspecial).1 h r hr
    exact succeeds_readWithHost_slash
      (getLast?_ne_of_suffix ⟨['/', '/'], by simp [hr]⟩ hlast) [] hhost

end Whole

end EnrollmentDesk.UrlReader
