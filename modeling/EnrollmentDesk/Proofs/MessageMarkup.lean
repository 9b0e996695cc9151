import EnrollmentDesk.Chat.Wording
import EnrollmentDesk.Desk.Notice
import EnrollmentDesk.Proofs.Entity

/-!
# The markup of messages

Messages are sent as marked-up text, and filled with what people have written: names, a phone
number, codes. None of it can change the markup. Whatever is written, a message has the same tags,
and its ampersands begin entities (`Message.people_write_no_markup`).

A message is a chain of pieces: fixed wording, escaped fields, numbers and dates (`Text.IsPiece`).
A piece begins and ends outside of tags, so a chain has the tags of its pieces one after another
(`Text.IsPiece.append`), and only the fixed wording has any. That no field stands inside of a tag is
the point: there, escaped text would be part of the tag like any other.

A new link code is sent with markup as well, but nobody has written it: it is drawn, and not escaped.
-/

namespace EnrollmentDesk

namespace Text

open Numeral

/-! ### Tags -/

/-- An angle: it begins or ends a tag. -/
def isAngle (c : Char) : Bool :=
  c = '<' || c = '>'

/-- Whether one is inside of a tag after a character, given whether one was before it. -/
def inTagAfter (inTag : Bool) (c : Char) : Bool :=
  if c = '<' then true else if c = '>' then false else inTag

/-- The tags of a text, each from its `<` to its `>`, and any other angle. -/
def tagsFrom : Bool → List Char → List Char
  | _, [] => []
  | inTag, c :: s =>
    if inTag || isAngle c then c :: tagsFrom (inTagAfter inTag c) s
    else tagsFrom (inTagAfter inTag c) s

/-- The tags of a text that begins outside of tags. -/
def tagsOf (s : String) : String :=
  .ofList (tagsFrom false s.toList)

variable {s : List Char}

theorem tagsFrom_append (inTag : Bool) (s t : List Char) :
    tagsFrom inTag (s ++ t) = tagsFrom inTag s ++ tagsFrom (s.foldl inTagAfter inTag) t := by
  induction s generalizing inTag with
  | nil => rfl
  | cons c s ih =>
    rw [List.cons_append, tagsFrom, tagsFrom, List.foldl_cons, ih]
    split <;> rfl

/-- The tags have all the angles of a text. -/
theorem filter_isAngle_tagsFrom (inTag : Bool) (s : List Char) :
    (tagsFrom inTag s).filter isAngle = s.filter isAngle := by
  induction s generalizing inTag with
  | nil => rfl
  | cons c s ih =>
    rw [tagsFrom]
    split
    · rw [List.filter_cons, List.filter_cons, ih]
    · next none =>
      have hc : ¬ isAngle c = true := fun h => none (by rw [h, Bool.or_true])
      rw [List.filter_cons_of_neg hc, ih]

/-- A text without angles has no tags, and does not end inside of one. -/
theorem tagsFrom_eq_nil (h : ∀ c ∈ s, isAngle c = false) :
    tagsFrom false s = [] ∧ s.foldl inTagAfter false = false := by
  induction s with
  | nil => exact ⟨rfl, rfl⟩
  | cons c s ih =>
    have hc := h c List.mem_cons_self
    have hafter : inTagAfter false c = false := by
      unfold isAngle at hc
      simp only [Bool.or_eq_false_iff, decide_eq_false_iff_not] at hc
      unfold inTagAfter
      rw [if_neg hc.1, if_neg hc.2]
    rw [tagsFrom, List.foldl_cons, hc, hafter, Bool.or_false, if_neg Bool.false_ne_true]
    exact ih fun a ha => h a (List.mem_cons_of_mem c ha)

/-! ### Pieces of a message -/

/-- A piece of a message, which begins outside of tags. -/
structure IsPiece (tags text : String) : Prop where
  tagsOf_eq : tagsOf text = tags
  /-- It ends outside of tags. -/
  ends : text.toList.foldl inTagAfter false = false
  amp : HasOnlyEntities text.toList

variable {m n a b : String}

/-- **A chain of pieces has their tags**, one after another. -/
theorem IsPiece.append (ha : IsPiece m a) (hb : IsPiece n b) : IsPiece (m ++ n) (a ++ b) where
  tagsOf_eq := by
    -- the second part begins where the first one ends, outside of tags
    calc tagsOf (a ++ b)
      _ = tagsOf a ++ tagsOf b := by
        unfold tagsOf
        rw [String.toList_append, tagsFrom_append, ha.ends, String.ofList_append]
      _ = m ++ n := by rw [ha.tagsOf_eq, hb.tagsOf_eq]
  ends := by rw [String.toList_append, List.foldl_append, ha.ends, hb.ends]
  amp := by
    rw [String.toList_append]
    exact ha.amp.append hb.amp

theorem IsPiece.of_eq (ha : IsPiece m a) (h : m = n) : IsPiece n a :=
  h ▸ ha

theorem isPiece_empty : IsPiece "" "" :=
  ⟨rfl, rfl, hasOnlyEntities_of_not_mem (by decide)⟩

theorem IsPiece.join {α : Type} {tags text : α → String} :
    ∀ {l : List α}, (∀ x ∈ l, IsPiece (tags x) (text x)) →
      IsPiece (String.join (l.map tags)) (String.join (l.map text))
  | [], _ => isPiece_empty
  | x :: l, h => by
    rw [List.map_cons, List.map_cons, String.join_cons, String.join_cons]
    exact (h x List.mem_cons_self).append
      (IsPiece.join fun y hy => h y (List.mem_cons_of_mem x hy))

/-- Fixed wording has the tags that can be read in it. -/
theorem isPiece_fixed (m : String)
    (h : tagsOf a = m ∧ a.toList.foldl inTagAfter false = false ∧ '&' ∉ a.toList) : IsPiece m a :=
  ⟨h.1, h.2.1, hasOnlyEntities_of_not_mem h.2.2⟩

/-- An escaped text has no tags. -/
theorem isPiece_of_isEscaped (h : IsEscaped a.toList) : IsPiece "" a := by
  have angles : ∀ c ∈ a.toList, isAngle c = false := by
    intro c hc
    unfold isAngle
    simp only [Bool.or_eq_false_iff, decide_eq_false_iff_not]
    exact ⟨fun heq => h.lt (heq ▸ hc), fun heq => h.gt (heq ▸ hc)⟩
  obtain ⟨none, ends⟩ := tagsFrom_eq_nil angles
  have htags : tagsOf a = "" := by
    unfold tagsOf
    rw [none]
  exact ⟨htags, ends, h.amp⟩

/-- Whatever a person has written, escaped. -/
theorem isPiece_escape (s : String) : IsPiece "" (escape s) := by
  refine isPiece_of_isEscaped ?_
  rw [toList_escape]
  exact isEscaped_escapeChars _

/-! ### Numbers and dates -/

theorem isEscaped_of_isDigit (h : ∀ c ∈ s, c.isDigit = true) : IsEscaped s := by
  have other : ∀ a : Char, a.isDigit = false → a ∉ s := fun a none ha =>
    Bool.false_ne_true (none.symm.trans (h a ha))
  exact ⟨other '<' (by decide), other '>' (by decide),
    hasOnlyEntities_of_not_mem (other '&' (by decide))⟩

theorem isPiece_ofNat (k : Nat) : IsPiece "" (ofNat k) := by
  refine isPiece_of_isEscaped (isEscaped_of_isDigit ?_)
  unfold ofNat
  rw [String.toList_ofList]
  exact fun _ => isDigit_of_mem_natDigits

theorem isPiece_ofInt : ∀ k : Int, IsPiece "" (ofInt k)
  | .ofNat k => isPiece_ofNat k
  | .negSucc k => (isPiece_fixed "" (by decide)).append (isPiece_ofNat (k + 1))

theorem isPiece_padded (width k : Nat) : IsPiece "" (padded width k) := by
  refine isPiece_of_isEscaped (isEscaped_of_isDigit ?_)
  unfold padded
  rw [String.toList_ofList]
  exact fun _ => isDigit_of_mem_paddedDigits

theorem isPiece_weekdayName (k : Nat) : IsPiece "" (weekdayName k) := by
  unfold weekdayName
  split <;> exact isPiece_fixed _ (by decide)

theorem isPiece_monthName (k : Int) : IsPiece "" (monthName k) := by
  unfold monthName
  split <;> exact isPiece_fixed _ (by decide)

theorem isPiece_yearText (y : Int) : IsPiece "" (yearText y) := by
  unfold yearText
  split
  · exact (isPiece_fixed "" (by decide)).append (isPiece_padded 4 _)
  split
  · exact isPiece_padded 4 _
  · exact (isPiece_fixed "" (by decide)).append (isPiece_padded 4 _)

theorem isPiece_friendlyDate (t : Instant) (zone : Offset) : IsPiece "" (t.friendlyDate zone) :=
  isPiece_weekdayName _
    |>.append (isPiece_fixed "" (by decide))
    |>.append (isPiece_padded 2 _)
    |>.append (isPiece_fixed "" (by decide))
    |>.append (isPiece_monthName _)
    |>.append (isPiece_fixed "" (by decide))
    |>.append (isPiece_yearText _)

theorem isPiece_friendlyDateTime (t : Instant) (zone : Offset) :
    IsPiece "" (t.friendlyDateTime zone) := by
  have clock : IsPiece "" (t.clockText zone) :=
    isPiece_padded 2 _
      |>.append (isPiece_fixed "" (by decide))
      |>.append (isPiece_padded 2 _)
  exact isPiece_friendlyDate t zone
    |>.append (isPiece_fixed "" (by decide))
    |>.append clock

end Text

/-! ### Messages -/

open Text

theorem Notice.isPiece_text (zone : Offset) (r : Registration) (whom : Recipient) :
    IsPiece "<b></b><code></code>" (Notice.text zone r whom) :=
  isPiece_fixed "<b></b>" (by decide)
    |>.append (isPiece_escape whom.childName)
    |>.append (isPiece_fixed "" (by decide))
    |>.append (isPiece_escape whom.className)
    |>.append (isPiece_fixed "" (by decide))
    |>.append (isPiece_friendlyDate whom.classDate zone)
    |>.append (isPiece_fixed "<code>" (by decide))
    |>.append (isPiece_escape r.code)
    |>.append (isPiece_fixed "</code>" (by decide))
    |>.of_eq (by decide)

namespace Wording

theorem isPiece_linked (p : Parent) : IsPiece "<b></b>" (linked p) :=
  isPiece_fixed "<b>" (by decide)
    |>.append (isPiece_escape p.name)
    |>.append (isPiece_fixed "</b>" (by decide))
    |>.append (isPiece_escape p.phone)
    |>.append (isPiece_fixed "" (by decide))
    |>.of_eq (by decide)

/-- The tags of a line of the list: those around the code, if it is shown. -/
def listedTags (r : ListedRegistration) : String :=
  if r.status = .waitlisted then "" else "<code></code>"

theorem isPiece_listedLine (zone : Offset) (r : ListedRegistration) :
    IsPiece (listedTags r) (listedLine zone r) := by
  have code : IsPiece (listedTags r)
      (if r.status = .waitlisted then "Waitlist" else "<code>" ++ escape r.code ++ "</code>") := by
    unfold listedTags
    split
    · exact isPiece_fixed "" (by decide)
    · exact isPiece_fixed "<code>" (by decide)
        |>.append (isPiece_escape r.code)
        |>.append (isPiece_fixed "</code>" (by decide))
        |>.of_eq (by decide)
  exact isPiece_fixed "" (by decide)
    |>.append (isPiece_friendlyDate r.classDate zone)
    |>.append (isPiece_fixed "" (by decide))
    |>.append (isPiece_escape r.className)
    |>.append (isPiece_fixed "" (by decide))
    |>.append (isPiece_escape r.childName)
    |>.append (isPiece_fixed "" (by decide))
    |>.append code
    |>.append (isPiece_fixed "" (by decide))
    |>.of_eq (by simp only [String.empty_append, String.append_empty])

/-- The tags of the list: those of the title and of the lines, if there are any. -/
def listingTags (rs : List ListedRegistration) : String :=
  if rs.isEmpty then "" else "<b></b>" ++ String.join (rs.map listedTags)

theorem isPiece_listing (zone : Offset) (rs : List ListedRegistration) :
    IsPiece (listingTags rs) (listing zone rs) := by
  unfold listingTags listing
  split
  · exact isPiece_fixed "" (by decide)
  · exact isPiece_fixed "<b></b>" (by decide)
      |>.append (IsPiece.join fun r _ => isPiece_listedLine zone r)
      |>.append (isPiece_fixed "" (by decide))
      |>.of_eq String.append_empty

theorem isPiece_statusWord (p : Placement) : IsPiece "" (statusWord p) := by
  have capitals : ∀ s : Status, IsPiece "" s.capitals := by
    intro s
    cases s <;> exact isPiece_fixed _ (by decide)
  unfold statusWord
  split
  · next k _ _ =>
    exact isPiece_fixed "" (by decide)
      |>.append (isPiece_ofNat k)
      |>.append (isPiece_fixed "" (by decide))
  · exact capitals _

theorem isPiece_status (zone : Offset) (p : Placement) :
    IsPiece "<code></code><b></b>" (status zone p) := by
  refine (IsPiece.append (m := "<code></code><b></b>") (n := "") ?_ ?_).of_eq (by decide)
  · exact isPiece_fixed "<code>" (by decide)
      |>.append (isPiece_escape p.registration.code)
      |>.append (isPiece_fixed "</code><b>" (by decide))
      |>.append (isPiece_statusWord p)
      |>.append (isPiece_fixed "</b>" (by decide))
      |>.of_eq (by decide)
  · -- only a child who has come has a line about it
    split
    · next t _ => exact (isPiece_fixed "" (by decide)).append (isPiece_friendlyDateTime t zone)
    · exact isPiece_empty

theorem isPiece_cancellation (c : Cancellation) :
    IsPiece "<code></code>" (cancellation c) := by
  unfold cancellation
  dsimp only
  -- the wordings differ in what follows the code, and it has no tags
  split
  all_goals
    exact isPiece_fixed "<code>" (by decide)
      |>.append (isPiece_escape c.registration.code)
      |>.append (isPiece_fixed "</code>" (by decide))
      |>.of_eq (by decide)

theorem isPiece_checkedIn (r : Registration) : IsPiece "<code></code>" (checkedIn r) :=
  isPiece_fixed "<code>" (by decide)
    |>.append (isPiece_escape r.code)
    |>.append (isPiece_fixed "</code>" (by decide))
    |>.of_eq (by decide)

theorem isPiece_roster (o : Occupancy) : IsPiece "<b></b>" (roster o) :=
  isPiece_fixed "<b>" (by decide)
    |>.append (isPiece_escape o.className)
    |>.append (isPiece_fixed "</b>" (by decide))
    |>.append (isPiece_ofInt o.capacity)
    |>.append (isPiece_fixed "" (by decide))
    |>.append (isPiece_ofInt o.confirmed)
    |>.append (isPiece_fixed "" (by decide))
    |>.append (isPiece_ofInt o.checkedIn)
    |>.append (isPiece_fixed "" (by decide))
    |>.append (isPiece_ofInt o.waitlisted)
    |>.append (isPiece_fixed "" (by decide))
    |>.append (isPiece_ofInt o.available)
    |>.append (isPiece_fixed "" (by decide))
    |>.append (isPiece_ofInt o.fillPercent)
    |>.append (isPiece_fixed "" (by decide))
    |>.of_eq (by decide)

end Wording

/-! ### What people have written -/

/-- The registration without its code. -/
def Registration.anonymous (r : Registration) : Registration :=
  { r with code := "" }

/-- The recipient without names. -/
def Recipient.anonymous (whom : Recipient) : Recipient :=
  { whom with childName := "", className := "" }

/-- The parent without name and phone number. -/
def Parent.anonymous (p : Parent) : Parent :=
  { p with name := "", phone := "" }

/-- The listed registration without names and code. -/
def ListedRegistration.anonymous (r : ListedRegistration) : ListedRegistration :=
  { r with code := "", childName := "", className := "" }

/-- The seats without the name of the class. -/
def Occupancy.anonymous (o : Occupancy) : Occupancy :=
  { o with className := "" }

/-- A message that is sent with markup and filled with what people have written. -/
inductive Message where
  | promotion (zone : Offset) (r : Registration) (whom : Recipient)
  | linked (p : Parent)
  | listing (zone : Offset) (rs : List ListedRegistration)
  | status (zone : Offset) (p : Placement)
  | cancellation (c : Cancellation)
  | checkedIn (r : Registration)
  | roster (o : Occupancy)

namespace Message

/-- The text that is sent. -/
def text : Message → String
  | promotion zone r whom => Notice.text zone r whom
  | linked p => Wording.linked p
  | listing zone rs => Wording.listing zone rs
  | status zone p => Wording.status zone p
  | cancellation c => Wording.cancellation c
  | checkedIn r => Wording.checkedIn r
  | roster o => Wording.roster o

/-- The message without all that people have written. Two messages that agree in this differ in
names, phone numbers and codes only. -/
def anonymous : Message → Message
  | promotion zone r whom => promotion zone r.anonymous whom.anonymous
  | linked p => linked p.anonymous
  | listing zone rs => listing zone (rs.map ListedRegistration.anonymous)
  | status zone p => status zone { p with registration := p.registration.anonymous }
  | cancellation c =>
    cancellation { c with
      registration := c.registration.anonymous
      promoted := c.promoted.map Registration.anonymous }
  | checkedIn r => checkedIn r.anonymous
  | roster o => roster o.anonymous

/-- The tags of the message. -/
def tags : Message → String
  | promotion .. => "<b></b><code></code>"
  | linked _ => "<b></b>"
  | listing _ rs => Wording.listingTags rs
  | status .. => "<code></code><b></b>"
  | cancellation _ | checkedIn _ => "<code></code>"
  | roster _ => "<b></b>"

theorem isPiece : ∀ m : Message, IsPiece m.tags m.text
  | promotion zone r whom => Notice.isPiece_text zone r whom
  | linked p => Wording.isPiece_linked p
  | listing zone rs => Wording.isPiece_listing zone rs
  | status zone p => Wording.isPiece_status zone p
  | cancellation c => Wording.isPiece_cancellation c
  | checkedIn r => Wording.isPiece_checkedIn r
  | roster o => Wording.isPiece_roster o

theorem tags_anonymous (m : Message) : m.anonymous.tags = m.tags := by
  cases m with
  | listing zone rs =>
    show Wording.listingTags (rs.map ListedRegistration.anonymous) = Wording.listingTags rs
    unfold Wording.listingTags
    rw [List.isEmpty_map, List.map_map]
    rfl
  | promotion | linked | status | cancellation | checkedIn | roster => rfl

/-- **People write no markup.** In every message each ampersand begins an entity, and there are no
other tags than those of the wording. So two messages that differ only in what people have written
have the same tags, and the same angles. -/
theorem people_write_no_markup (m : Message) :
    HasOnlyEntities m.text.toList ∧ tagsOf m.text = m.tags ∧
      ∀ n : Message, n.anonymous = m.anonymous →
        tagsOf n.text = tagsOf m.text ∧
          n.text.toList.filter isAngle = m.text.toList.filter isAngle := by
  refine ⟨m.isPiece.amp, m.isPiece.tagsOf_eq, fun n same => ?_⟩
  have hangles : ∀ k : Message, k.text.toList.filter isAngle = k.tags.toList.filter isAngle := by
    intro k
    rw [← k.isPiece.tagsOf_eq, tagsOf, String.toList_ofList, filter_isAngle_tagsFrom]
  have htags : n.tags = m.tags := by
    rw [← n.tags_anonymous, same, m.tags_anonymous]
  rw [n.isPiece.tagsOf_eq, m.isPiece.tagsOf_eq, hangles n, hangles m, htags]
  exact ⟨rfl, rfl⟩

end Message

namespace Sample

/-- The list of a family that has one child in a class and one on its waitlist. -/
def familyListing (childName className : String) : Message :=
  .listing .utc
    [⟨1, "REG-000001", .confirmed, childName, className, ⟨0⟩⟩,
      ⟨2, "REG-000002", .waitlisted, childName, className, ⟨0⟩⟩]

/-- Names that look like tags and entities leave the markup of a list as it is. -/
theorem names_like_tags_are_text :
    (familyListing "<b>Ada" "Art &amp; Craft>").anonymous = (familyListing "Ada" "Yoga").anonymous ∧
      tagsOf (familyListing "<b>Ada" "Art &amp; Craft>").text = "<b></b><code></code>" := by
  have same : (familyListing "<b>Ada" "Art &amp; Craft>").anonymous =
      (familyListing "Ada" "Yoga").anonymous := rfl
  obtain ⟨-, htags, hsame⟩ := Message.people_write_no_markup (familyListing "Ada" "Yoga")
  refine ⟨same, ?_⟩
  calc tagsOf (familyListing "<b>Ada" "Art &amp; Craft>").text
    _ = tagsOf (familyListing "Ada" "Yoga").text := (hsame _ same).1
    _ = (familyListing "Ada" "Yoga").tags := htags
    _ = "<b></b><code></code>" := by decide

end Sample

end EnrollmentDesk
