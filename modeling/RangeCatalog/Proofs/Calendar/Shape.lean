import RangeCatalog.Proofs.Calendar.Instant
import RangeCatalog.Proofs.Calendar.Marks

/-! # The shape of written instants

An instant whose year has four digits is written in twenty characters, and its text is read as the
instant again. Another year is written with a sign, and then no form reads the text: the one with a mark of
universal time takes no sign, and the others take no mark.
-/

namespace RangeCatalog

namespace Stamp

/-! ## The shape -/

/-- Whether a character fills a place. A zero is the place of any digit, another character is its own place. -/
def Fills (place c : Char) : Prop :=
  if place = '0' then c.isDigit = true else c = place

instance (place c : Char) : Decidable (Fills place c) :=
  inferInstanceAs (Decidable (if place = '0' then c.isDigit = true else c = place))

/-- Whether a text has the shape `YYYY-MM-DDTHH:MM:SSZ`. -/
def HasShape (text : String) : Prop :=
  List.Forall₂ Fills "0000-00-00T00:00:00Z".toList text.toList

instance (text : String) : Decidable (HasShape text) :=
  inferInstanceAs (Decidable (List.Forall₂ _ _ _))

private theorem fills_paddedDecimal {width number : Nat} (fits : number < Nat.pow 10 width) (some : 0 < width) :
    List.Forall₂ Fills (List.replicate width '0') (paddedDecimal width number).toList := by
  have digit : ∀ digit < 10, (Nat.digitChar digit).isDigit = true := by decide
  have general (digits : List Nat) (small : ∀ digit ∈ digits, digit < 10) :
      List.Forall₂ Fills (List.replicate digits.length '0') (digits.map Nat.digitChar) := by
    induction digits with
    | nil => exact .nil
    | cons first rest ih =>
      have filled : Fills '0' first.digitChar := digit first (small first List.mem_cons_self)
      exact .cons filled (ih fun other member => small other (List.mem_cons_of_mem first member))
  have padded := general (paddedDigits width number) fun _ => lt_of_mem_paddedDigits
  rwa [length_paddedDigits fits some, ← toList_paddedDecimal] at padded

private theorem fills_mark {mark : Char} (other : mark ≠ '0') {shape chars : List Char}
    (rest : List.Forall₂ Fills shape chars) :
    List.Forall₂ Fills (mark :: shape) (mark :: chars) := by
  refine .cons ?_ rest
  rw [Fills, if_neg other]

variable {fields : Fields}

private theorem Fields.fills_dateText (fits : fields.Fits) :
    List.Forall₂ Fills "0000-00-00".toList fields.dateText.toList := by
  rw [toList_dateText]
  have day := fills_paddedDecimal (show fields.day < Nat.pow 10 2 from fits.day) (by decide)
  have month := fills_paddedDecimal (show fields.month < Nat.pow 10 2 from fits.month) (by decide)
  have year := fills_paddedDecimal (show fields.year.natAbs < Nat.pow 10 4 from fits.natAbs_year_lt)
    (by decide)
  exact List.rel_append year
    (fills_mark (by decide) (List.rel_append month (fills_mark (by decide) day)))

private theorem Fields.fills_timeText (fits : fields.Fits) :
    List.Forall₂ Fills "00:00:00".toList fields.timeText.toList := by
  rw [toList_timeText, toList_minuteText, List.append_assoc]
  have second := fills_paddedDecimal (show fields.second < Nat.pow 10 2 from fits.second) (by decide)
  have minute := fills_paddedDecimal (show fields.minute < Nat.pow 10 2 from fits.minute) (by decide)
  have hour := fills_paddedDecimal (show fields.hour < Nat.pow 10 2 from fits.hour) (by decide)
  exact List.rel_append hour
    (fills_mark (by decide) (List.rel_append minute (fills_mark (by decide) second)))

/-! ## Marks of universal time -/

/-- No lenient form reads a text with a mark of universal time. -/
theorem ofForm?_of_mem {chars : List Char} (member : 'Z' ∈ chars) {form : List Part}
    (lenient : form ∈ lenientForms) : ofForm? chars form = none := by
  have others : .literal 'Z' ∉ form := by
    have all : ∀ form ∈ lenientForms, Part.literal 'Z' ∉ form := by decide
    exact all form lenient
  rw [ofForm?_eq, Option.bind_eq_none_iff]
  rintro ⟨fields, rest⟩ read
  have left : rest ≠ [] := List.ne_nil_of_mem ((leadsTo_of_readParts isMark_zulu others read).mem member)
  exact if_neg (by simpa using left)

/-- A text that starts with a sign and has a mark of universal time is in none of the forms. -/
theorem ofTrimmed?_of_sign {sign : Char} {rest : List Char} (isSign : sign ∈ ['+', '-']) (member : 'Z' ∈ rest) :
    ofTrimmed? (sign :: rest) = none := by
  have notDigit : digitValue? 10 sign = none := by
    simp only [List.mem_cons, List.not_mem_nil, or_false] at isSign
    rcases isSign with rfl | rfl <;> decide
  have year : readExact 4 (sign :: rest) = none := by
    simp only [readExact, readNumber, List.take_succ_cons, spanDigits, notDigit]
    rfl
  have internet : ofInternet? (sign :: rest) = none := by
    rw [ofInternet?, year]
    rfl
  have lenient : lenientForms.findSome? (ofForm? (sign :: rest)) = none :=
    List.findSome?_eq_none_iff.mpr fun _ form => ofForm?_of_mem (List.mem_cons_of_mem _ member) form
  rw [ofTrimmed?, internet]
  exact lenient

end Stamp

namespace Instant

open Stamp

variable {instant : Instant}

private theorem toList_text (short : instant.HasShortYear) :
    instant.text.toList =
      instant.fields.dateText.toList ++ 'T' :: (instant.fields.timeText.toList ++ ['Z']) := by
  rw [text_eq short]
  simp

/-- An instant whose year has four digits is read from its text. -/
theorem ofText?_text (short : instant.HasShortYear) (regular : instant.Regular) :
    ofText? instant.text = some instant := by
  have ends : EndsFraction ['Z'] := by
    intro c member
    obtain rfl := Option.some.inj member
    decide
  have zone : readOffset ['Z'] = some (0, []) := rfl
  have denoted := toInstant?_fields short regular 0
  rw [Int.sub_zero] at denoted
  have whole : IsFraction [] := .inl rfl
  have read := ofTrimmed?_zoned (fits_fields short) (List.mem_cons_self : 'T' ∈ _) whole ends zone denoted
  rwa [ofText?_eq, instant.plain_text.trimChars, toList_text short]

private theorem hasShape_text (short : instant.HasShortYear) : HasShape instant.text := by
  have fits := fits_fields short
  have zone : List.Forall₂ Fills ['Z'] ['Z'] := fills_mark (by decide) .nil
  rw [HasShape, toList_text short]
  exact List.rel_append (Fields.fills_dateText fits)
    (fills_mark (by decide) (List.rel_append (Fields.fills_timeText fits) zone))

/-- Any other year is written with a sign. -/
theorem exists_sign (long : ¬instant.HasShortYear) :
    ∃ sign rest, sign ∈ ['+', '-'] ∧ 'Z' ∈ rest ∧ instant.text.toList = sign :: rest := by
  have year : ∃ sign digits, sign ∈ ['+', '-'] ∧ (yearText instant.date.year).toList = sign :: digits := by
    have other : ¬(0 ≤ instant.date.year ∧ instant.date.year ≤ 9999) := long
    rw [yearText, if_neg other, String.toList_append]
    split_ifs
    · exact ⟨'-', _, by decide, rfl⟩
    · exact ⟨'+', _, by decide, rfl⟩
  obtain ⟨sign, digits, isSign, yearChars⟩ := year
  simp only [text, dateText, String.toList_append, yearChars, List.cons_append]
  exact ⟨sign, _, isSign, by simp, rfl⟩

private theorem ofText?_text_of_long (long : ¬instant.HasShortYear) : ofText? instant.text = none := by
  obtain ⟨sign, rest, isSign, member, chars⟩ := exists_sign long
  rw [ofText?_eq, instant.plain_text.trimChars, chars]
  exact ofTrimmed?_of_sign isSign member

private theorem not_hasShape_text (long : ¬instant.HasShortYear) : ¬HasShape instant.text := by
  obtain ⟨sign, rest, isSign, _, chars⟩ := exists_sign long
  intro shaped
  rw [HasShape, chars] at shaped
  obtain ⟨first, _⟩ := List.forall₂_cons.mp shaped
  simp only [List.mem_cons, List.not_mem_nil, or_false] at isSign
  rcases isSign with rfl | rfl <;> exact absurd first (by decide)

end Instant

namespace Stamp

/-- Whatever text an instant is read from: if its year has four digits, its own text has the shape
`YYYY-MM-DDTHH:MM:SSZ` and is read as the same instant. If the offset or a longer numeral led to another
year, its text does not have the shape and is not read at all. -/
theorem canonical_in_four_digits :
    ∀ (raw : String) (instant : Instant), ofText? raw = some instant →
      (instant.HasShortYear → HasShape instant.text ∧ ofText? instant.text = some instant) ∧
      (¬instant.HasShortYear → ¬HasShape instant.text ∧ ofText? instant.text = none) := by
  intro raw instant read
  refine ⟨?_, ?_⟩
  · intro short
    exact ⟨Instant.hasShape_text short, Instant.ofText?_text short (regular_of_ofText? read)⟩
  · intro long
    exact ⟨Instant.not_hasShape_text long, Instant.ofText?_text_of_long long⟩

/-- A leap second at an offset, and the last minute before the year 0 has begun in universal time. -/
theorem canonical_in_four_digits_at_bounds :
    (ofText? "2017-01-01T05:29:60.7+05:30" = some ⟨1483228799, true⟩ ∧
      HasShape (Instant.mk 1483228799 true).text ∧
      ofText? (Instant.mk 1483228799 true).text = some ⟨1483228799, true⟩) ∧
    (ofText? "0000-01-01T00:00:59+00:01" = some ⟨-62167219201, false⟩ ∧
      ¬HasShape (Instant.mk (-62167219201) false).text ∧
      ofText? (Instant.mk (-62167219201) false).text = none) := by
  have leap : ofText? "2017-01-01T05:29:60.7+05:30" = some ⟨1483228799, true⟩ := by decide +kernel
  have early : ofText? "0000-01-01T00:00:59+00:01" = some ⟨-62167219201, false⟩ := by decide +kernel
  have short : (Instant.mk 1483228799 true).HasShortYear := by
    rw [Instant.HasShortYear]
    decide +kernel
  have long : ¬(Instant.mk (-62167219201) false).HasShortYear := by
    rw [Instant.HasShortYear]
    decide +kernel
  exact ⟨⟨leap, (canonical_in_four_digits _ _ leap).1 short⟩,
    early, (canonical_in_four_digits _ _ early).2 long⟩

/-- The last minute of the year 9999 at an offset behind universal time has a text of 22 characters, which is
not read back. -/
theorem year_of_five_digits_unread :
    ofText? "9999-12-31T23:59:59-00:01" = some (.ofSeconds 253402300859) ∧
      (Instant.ofSeconds 253402300859).text = "+10000-01-01T00:00:59Z" ∧
      ¬HasShape "+10000-01-01T00:00:59Z" ∧ ofText? "+10000-01-01T00:00:59Z" = none := by
  refine ⟨?_, ?_, ?_, ?_⟩ <;> decide +kernel

end Stamp

end RangeCatalog
