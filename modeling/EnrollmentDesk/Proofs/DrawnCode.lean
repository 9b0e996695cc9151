import EnrollmentDesk.Proofs.CodeGrammar
import Mathlib.Algebra.Group.Nat.Defs
import Mathlib.Data.List.Induction

/-!
# Which codes a draw could have made

A code that was read looks like one that was handed out: the code word in capitals, a hyphen and six
digits. Whether a draw could have made it is a question about the digits alone, and they need not be
those that a draw is written with. The pattern takes the digits of any script, and capitals are for
ASCII letters only, so the six digits come out as they were typed.

Six ASCII digits are always those of a draw (`Draw.exists_digits_eq`). They are found by their value
(`Nat.ofDigitChars`): it is below a million, and among texts of six digits no other has it. So of
the codes that are read just those are made by draws that have ASCII digits, and each draw is read.
-/

namespace EnrollmentDesk

/-! ### Digits and their value -/

namespace Draw

variable {ds ds' : List Char} {c : Char}

theorem ofDigitChars_concat (ds : List Char) (c : Char) :
    Nat.ofDigitChars 10 (ds ++ [c]) 0 = 10 * Nat.ofDigitChars 10 ds 0 + (c.toNat - 48) := by
  rw [Nat.ofDigitChars_append]
  rfl

/-- So many digits have a value below that power of ten. -/
theorem ofDigitChars_lt (hds : ∀ c ∈ ds, c.isDigit = true) :
    Nat.ofDigitChars 10 ds 0 < 10 ^ ds.length := by
  induction ds using List.reverseRecOn with
  | nil => decide
  | append_singleton ds c ih =>
    have hlt := ih fun a ha => hds a (List.mem_append_left _ ha)
    have hc := RegistrationCode.isDigit_iff_toNat.1 (hds c (by simp))
    rw [ofDigitChars_concat, List.length_append, List.length_singleton, Nat.pow_succ]
    omega

/-- Of texts with so many digits, no two have the same value. -/
theorem eq_of_ofDigitChars_eq (hlength : ds.length = ds'.length)
    (hds : ∀ c ∈ ds, c.isDigit = true) (hds' : ∀ c ∈ ds', c.isDigit = true)
    (same : Nat.ofDigitChars 10 ds 0 = Nat.ofDigitChars 10 ds' 0) : ds = ds' := by
  induction ds using List.reverseRecOn generalizing ds' with
  | nil => exact (List.length_eq_zero_iff.1 hlength.symm).symm
  | append_singleton ds c ih =>
    obtain rfl | ⟨ds', c', rfl⟩ := ds'.eq_nil_or_concat'
    · simp at hlength
    rw [ofDigitChars_concat, ofDigitChars_concat] at same
    -- the last digits are the remainders by ten, and the values of the others are the quotients
    have hc := RegistrationCode.isDigit_iff_toNat.1 (hds c (by simp))
    have hc' := RegistrationCode.isDigit_iff_toNat.1 (hds' c' (by simp))
    have hlast : c.toNat = c'.toNat := by omega
    have hfront : ds = ds' := by
      refine ih (by simpa using hlength) (fun a ha => hds a (by simp [ha]))
        (fun a ha => hds' a (by simp [ha])) ?_
      omega
    rw [hfront, Char.toNat_inj.1 hlast]

/-- The value of the digits of a draw is the draw. -/
theorem ofDigitChars_digits (d : Draw) : Nat.ofDigitChars 10 d.digits.toList 0 = d.val := by
  show Nat.ofDigitChars 10 (String.ofList (Numeral.paddedDigits codeDigits d.val)).toList 0 = d.val
  rw [String.toList_ofList]
  show Nat.ofDigitChars 10 (List.replicate _ '0' ++ Nat.toDigits 10 d.val) 0 = d.val
  rw [Nat.ofDigitChars_append, Nat.ofDigitChars_replicate_zero, Nat.mul_zero,
    Nat.ofDigitChars_ten_toDigits]

/-- **Six ASCII digits are those of a draw.** -/
theorem exists_digits_eq (hlength : ds.length = codeDigits) (hds : ∀ c ∈ ds, c.isDigit = true) :
    ∃ d : Draw, d.digits.toList = ds := by
  have hlt : Nat.ofDigitChars 10 ds 0 < 1000000 := by
    calc Nat.ofDigitChars 10 ds 0
      _ < 10 ^ ds.length := ofDigitChars_lt hds
      _ = 1000000 := by rw [hlength]; rfl
  refine ⟨⟨_, hlt⟩, eq_of_ofDigitChars_eq ?_ (fun _ => RegistrationCode.isDigit_of_mem_digits) hds
    (ofDigitChars_digits _)⟩
  rw [RegistrationCode.length_digits, hlength]

end Draw

/-! ### Codes that were read -/

namespace RegistrationCode

open Text

variable {word : String} {ds : List Char}

theorem toList_make_inCapitals (word : String) (d : Draw) :
    (make (inCapitals word) d).toList = capitals word.toList ++ '-' :: d.digits.toList := by
  rw [toList_make]
  unfold inCapitals
  rw [String.toList_ofList]

/-- A draw could have made a code with six digits exactly if these are ASCII digits. -/
theorem exists_make_iff (hlength : ds.length = codeDigits) :
    (∃ d, String.ofList (capitals word.toList ++ '-' :: ds) = make (inCapitals word) d) ↔
      ∀ c ∈ ds, c.isDigit = true := by
  have hmake : ∀ d, String.ofList (capitals word.toList ++ '-' :: ds) = make (inCapitals word) d ↔
      d.digits.toList = ds := by
    intro d
    rw [← String.toList_inj, String.toList_ofList, toList_make_inCapitals, List.append_cancel_left_eq,
      List.cons.injEq, eq_self, true_and, eq_comm]
  simp only [hmake]
  constructor
  · rintro ⟨d, rfl⟩ c hc
    exact isDigit_of_mem_digits hc
  · exact Draw.exists_digits_eq hlength

/-- The digits of a draw, typed alone, are read as its code. -/
theorem normalize_digits (word : String) (d : Draw) :
    normalize word d.digits = some (make (inCapitals word) d) := by
  have hdigits : ∀ c ∈ d.digits.toList, isDecimal c = true := fun _ => isDecimal_of_mem_digits
  have hblank : ∀ c ∈ d.digits.toList, isBlank c = false := fun c hc =>
    isBlank_of_isDecimal (hdigits c hc)
  refine normalize_eq_some_iff.2 ⟨_, normalizeChars_eq_some_iff.2
    ⟨[], d.digits.toList, ?_, length_digits d, hdigits, .inl rfl, rfl⟩, ?_⟩
  · rw [trimChars_of_not_blank hblank, capitals_of_decimals hdigits]
    rfl
  · rw [← String.toList_inj, String.toList_ofList, toList_make_inCapitals]

/-- No ASCII character has capitals outside ASCII. -/
theorem toNat_toUpper_lt {c : Char} (h : c.toNat < 128) : c.toUpper.toNat < 128 := by
  cases lower : c.isLower with
  | false => rwa [toUpper_of_not_isLower lower]
  | true =>
    rw [toNat_toUpper_of_isLower lower]
    omega

/-- **A code that was read** is the code word in capitals, a hyphen and the six digits that were
typed. A draw could have made it exactly if these are ASCII digits; so one could if nothing but
ASCII was typed. And of each draw the code is read, from its digits alone. -/
theorem read_code_is_drawn_iff (word : String) :
    (∀ typed code, normalize word typed = some code →
      ∃ ds, ds <:+ capitals (trimChars typed.toList) ∧ ds.length = 6 ∧
        (∀ c ∈ ds, isDecimal c = true) ∧
        code = .ofList (capitals word.toList ++ '-' :: ds) ∧
        ((∃ d, code = make (inCapitals word) d) ↔ ∀ c ∈ ds, c.isDigit = true) ∧
        ((∀ c ∈ typed.toList, c.toNat < 128) → ∃ d, code = make (inCapitals word) d)) ∧
    ∀ d, normalize word d.digits = some (make (inCapitals word) d) := by
  refine ⟨fun typed code read => ?_, normalize_digits word⟩
  obtain ⟨cs, hcs, rfl⟩ := normalize_eq_some_iff.1 read
  obtain ⟨rest, ds, htext, hlength, hds, -, rfl⟩ := normalizeChars_eq_some_iff.1 hcs
  refine ⟨ds, ⟨rest, htext.symm⟩, hlength, hds, rfl, exists_make_iff hlength, fun ascii => ?_⟩
  refine (exists_make_iff hlength).2 fun c hc => isDigit_of_isDecimal (hds c hc) ?_
  -- what is read was typed, but for capitals
  have hread : c ∈ capitals (trimChars typed.toList) := htext ▸ List.mem_append_right rest hc
  obtain ⟨a, ha, rfl⟩ := List.mem_map.1 hread
  exact toNat_toUpper_lt (ascii a (mem_of_mem_trimChars ha))

end RegistrationCode

namespace Sample

open RegistrationCode

/-- A code that was typed in ASCII is read as one that a draw could have made. -/
theorem typed_code_is_drawn :
    normalize "REG" "reg 042317" = some "REG-042317" ∧
      ∃ d, "REG-042317" = make (inCapitals "REG") d := by
  obtain ⟨reads, -⟩ := read_code_is_drawn_iff "REG"
  have read : normalize "REG" "reg 042317" = some "REG-042317" := by decide
  have typed : ("reg 042317".toList.all fun c => decide (c.toNat < 128)) = true := by decide
  obtain ⟨ds, -, -, -, -, -, ascii⟩ := reads _ _ read
  exact ⟨read, ascii fun c hc => of_decide_eq_true (List.all_eq_true.1 typed c hc)⟩

/-- The number 042317 in Arabic digits. -/
def arabicNumber : List Char :=
  ['\u0660', '\u0664', '\u0662', '\u0663', '\u0661', '\u0667']

/-- **A code in Arabic digits is read as it was typed**, and no draw makes such a code. -/
theorem arabic_code_is_not_drawn :
    "REG".toList.all Char.isAlphanum = true ∧
      normalize "REG" (.ofList ("REG-".toList ++ arabicNumber)) =
        some (.ofList ("REG-".toList ++ arabicNumber)) ∧
      ¬ ∃ d, String.ofList ("REG-".toList ++ arabicNumber) = make (inCapitals "REG") d := by
  have hcode : "REG-".toList ++ arabicNumber = capitals "REG".toList ++ '-' :: arabicNumber := by
    decide
  refine ⟨by decide, by decide, ?_⟩
  rw [hcode, exists_make_iff rfl]
  exact fun ascii => absurd (ascii _ List.mem_cons_self) (by decide)

end Sample

end EnrollmentDesk
