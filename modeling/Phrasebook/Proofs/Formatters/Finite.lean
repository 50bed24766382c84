import Phrasebook.Proofs.Formatters.Answers
import Phrasebook.Proofs.Numeric.Significant
import Phrasebook.Proofs.Value.Fraction

/-!
# Finite numbers have digits

A finite number is written plainly before a locale has a say, so it is shown wherever the formatter
of the locale can be made. The one exception are values that are rounded to significant digits and
leave the range of the format by it, which are close to its end.
-/

namespace Phrasebook

open Digit

theorem Decimal.integer_toNumeral_ne_nil (negative : Bool) (x : Decimal) :
    (x.toNumeral negative).integer ≠ [] := by
  unfold toNumeral
  split
  · exact (whole_ofNat _).ne_nil
  · exact (Numeral.ofScaled_spec negative _ _).2.2.ne_nil

theorem Binary64.integer_plainNumeral_ne_nil (negative : Bool) (x : Magnitude) :
    (plainNumeral negative x).integer ≠ [] := by
  rw [plainNumeral]
  exact Decimal.integer_toNumeral_ne_nil negative _

@[simp] theorem Numeral.integer_appendZeros (x : Numeral) (count : Nat) :
    (x.appendZeros count).integer = x.integer := rfl

theorem integer_fractionDigits_ne_nil (negative : Bool) (x : Magnitude) (minimum maximum : Nat) :
    (fractionDigits negative x minimum maximum).integer ≠ [] :=
  (Numeral.ofScaled_spec negative _ _).2.2.ne_nil

theorem significantDigits_of_eq (negative : Bool) (x : Magnitude) (minimum maximum : Nat)
    (v : Binary64) :
    Binary64.roundSignificant (max 1 (min maximum maxSignificantDigits)) (.finite negative x) = v →
      significantDigits negative x minimum maximum =
        match v with
        | .finite s y =>
          let numeral := Binary64.plainNumeral s y
          some (numeral.appendZeros
            (max 1 (min minimum (max 1 (min maximum maxSignificantDigits))) -
              numeral.significantCount))
        | _ => none := by
  -- Both functions become variables before the definition opens, so that nothing evaluates the
  -- powers that rounding goes by.
  obtain ⟨digits, hdigits⟩ : ∃ digits, significantDigits = digits := ⟨_, rfl⟩
  obtain ⟨rounded, hrounded⟩ : ∃ rounded, Binary64.roundSignificant = rounded := ⟨_, rfl⟩
  intro h
  rw [hrounded] at h
  rw [hdigits]
  delta significantDigits at hdigits
  rw [hrounded] at hdigits
  subst hdigits
  cases v <;> simp only [h]

namespace NumberOptions

/-- The digits that significant digits are limited to, as far as so many are shown. -/
def mostSignificant (o : NumberOptions) : Nat :=
  max 1 (min (countOr maxSignificantDigits o.maximumSignificantDigits) maxSignificantDigits)

/-- The value is finite, and not any more when it is rounded to the significant digits that the
options limit it to. -/
def roundsOut (o : NumberOptions) (v : Binary64) : Bool :=
  o.limitsSignificant && v.isFinite && !(v.roundSignificant o.mostSignificant).isFinite

variable {o : NumberOptions} {negative : Bool} {x : Magnitude}

theorem digits_of_significant (h : o.limitsSignificant = true) :
    o.digits negative x =
      (significantDigits negative x (countOr 1 o.minimumSignificantDigits)
        (countOr maxSignificantDigits o.maximumSignificantDigits)).map
      (·.padInteger (min (countOr 1 o.minimumIntegerDigits) maxIntegerDigits)) := by
  unfold digits
  rw [h]
  generalize significantDigits negative x = significant
  dsimp only [if_true]
  cases significant (countOr 1 o.minimumSignificantDigits)
    (countOr maxSignificantDigits o.maximumSignificantDigits) <;> rfl

/-- There are digits, plainly written, unless rounding leaves the range. -/
theorem exists_digits (h : o.roundsOut (.finite negative x) = false) :
    ∃ y, o.digits negative x = some y ∧ Numeral.Plain y.chars := by
  cases hlimits : o.limitsSignificant with
  | false =>
      refine ⟨_, digits_of_fraction hlimits negative x, Numeral.plain_padInteger ?_ _⟩
      exact integer_fractionDigits_ne_nil negative x _ _
  | true =>
      obtain ⟨v, hv⟩ : ∃ v, Binary64.roundSignificant o.mostSignificant (.finite negative x) = v :=
        ⟨_, rfl⟩
      rw [roundsOut, hv] at h
      have hdigits := significantDigits_of_eq negative x (countOr 1 o.minimumSignificantDigits)
        (countOr maxSignificantDigits o.maximumSignificantDigits) v hv
      rw [digits_of_significant hlimits, hdigits]
      cases v with
      | finite s y =>
          refine ⟨_, rfl, Numeral.plain_padInteger ?_ _⟩
          rw [Numeral.integer_appendZeros]
          exact Binary64.integer_plainNumeral_ne_nil s y
      | nan => simp [hlimits, Binary64.isFinite] at h
      | infinite s => simp [hlimits, Binary64.isFinite] at h

theorem exists_of_roundsOut (h : o.roundsOut (.finite negative x) = true) :
    o.limitsSignificant = true ∧
      ∃ v, Binary64.roundSignificant o.mostSignificant (.finite negative x) = v ∧
        v.isFinite = false := by
  obtain ⟨v, hv⟩ : ∃ v, Binary64.roundSignificant o.mostSignificant (.finite negative x) = v :=
    ⟨_, rfl⟩
  rw [roundsOut, hv, Bool.and_eq_true, Bool.and_eq_true, Bool.not_eq_true'] at h
  exact ⟨h.1.1, v, hv, h.2⟩

theorem digits_eq_none (h : o.roundsOut (.finite negative x) = true) :
    o.digits negative x = none := by
  obtain ⟨hlimits, v, hv, hout⟩ := exists_of_roundsOut h
  have hdigits := significantDigits_of_eq negative x (countOr 1 o.minimumSignificantDigits)
    (countOr maxSignificantDigits o.maximumSignificantDigits) v hv
  rw [digits_of_significant hlimits, hdigits]
  cases v with
  | finite s y => cases hout
  | nan => rfl
  | infinite s => rfl

/-- Only values from `10 ^ 307` on are rounded out of the range. -/
theorem le_units_of_roundsOut (h : o.roundsOut (.finite negative x) = true) :
    o.limitsSignificant = true ∧ tenPow 307 * Magnitude.unitsPerOne ≤ x.units := by
  obtain ⟨hlimits, v, hv, hout⟩ := exists_of_roundsOut h
  refine ⟨hlimits, Nat.not_lt.1 fun hbelow => ?_⟩
  have hcount : o.mostSignificant ≤ 7000 := by
    unfold mostSignificant maxSignificantDigits
    clear hbelow
    omega
  have htop : tenPow 307 < twoPow 1022 := by decide +kernel
  obtain ⟨y, hy⟩ := Binary64.exists_roundSignificant hbelow hcount htop (by decide) negative
  obtain rfl : v = .finite negative y := hv.symm.trans hy
  cases hout

end NumberOptions

namespace FormatterTables

variable {source : FormatterSource}

/-! ## Answers

An answer needs a numeral and a formatter. Only the formatter can be missing where rounding stays in
the range. -/

theorem numeral?_of_roundsOut {o : NumberOptions} {v : Binary64} (h : o.roundsOut v = true) :
    specialText? v = none ∧ numeral? o v = none := by
  cases v with
  | finite negative x => exact ⟨rfl, NumberOptions.digits_eq_none h⟩
  | nan => simp [NumberOptions.roundsOut, Binary64.isFinite] at h
  | infinite negative => simp [NumberOptions.roundsOut, Binary64.isFinite] at h

theorem exists_special_or_numeral? {o : NumberOptions} {v : Binary64} (h : o.roundsOut v = false) :
    (∃ text, specialText? v = some text) ∨ specialText? v = none ∧ ∃ y, numeral? o v = some y := by
  cases v with
  | finite negative x =>
      obtain ⟨y, hy, -⟩ := NumberOptions.exists_digits h
      exact .inr ⟨rfl, y, hy⟩
  | nan => exact .inl ⟨_, rfl⟩
  | infinite negative => exact .inl ⟨_, rfl⟩

theorem ok_or_unavailable {α β : Type} (made : Except String α) (answer : α → β) :
    (∃ b, (made.mapError FormatError.unavailable).map answer = .ok b) ∨
      ∃ reason, made = .error reason ∧
        (made.mapError FormatError.unavailable).map answer = .error (.unavailable reason) := by
  cases made with
  | ok a => exact .inl ⟨answer a, rfl⟩
  | error reason => exact .inr ⟨reason, rfl, rfl⟩

theorem formatNumber_of_roundsOut {n : Number} (h : n.options.roundsOut (scaled n) = true)
    (c : FormatterTables source) : (c.formatNumber n).1 = .error .unreadableNumber := by
  obtain ⟨hspecial, hnumeral⟩ := numeral?_of_roundsOut h
  simp only [formatNumber, hspecial, hnumeral]

theorem formatNumber_answers {n : Number} (h : n.options.roundsOut (scaled n) = false)
    (c : FormatterTables source) :
    (∃ text, (c.formatNumber n).1 = .ok text) ∨
      ∃ reason, source.decimalFormat c.locale n.options.useGrouping = .error reason ∧
        (c.formatNumber n).1 = .error (.unavailable reason) := by
  rcases exists_special_or_numeral? h with ⟨text, hspecial⟩ | ⟨hspecial, y, hnumeral⟩
  · refine .inl ⟨text ++ styleSuffix n.options.style, ?_⟩
    simp only [formatNumber, hspecial]
  · simp only [formatNumber, hspecial, hnumeral, decimalFormat_fst]
    exact ok_or_unavailable _ _

theorem pluralCategory_of_roundsOut {n : Number} (h : n.options.roundsOut n.value = true)
    (c : FormatterTables source) : (c.pluralCategory n).1 = .error .unreadableNumber := by
  obtain ⟨hspecial, hnumeral⟩ := numeral?_of_roundsOut (o := { n.options with style := .decimal }) h
  simp only [pluralCategory, hspecial, hnumeral]

theorem pluralCategory_answers {n : Number} (h : n.options.roundsOut n.value = false)
    (c : FormatterTables source) :
    (∃ category, (c.pluralCategory n).1 = .ok category) ∨
      ∃ reason, source.pluralRules c.locale n.options.pluralType = .error reason ∧
        (c.pluralCategory n).1 = .error (.unavailable reason) := by
  -- The style has no part in the digits that significant digits are limited to.
  have hdecimal :
      ({ n.options with style := .decimal } : NumberOptions).roundsOut n.value = false := h
  rcases exists_special_or_numeral? hdecimal with ⟨text, hspecial⟩ | ⟨hspecial, y, hnumeral⟩
  · refine .inl ⟨.other, ?_⟩
    simp only [pluralCategory, hspecial]
  · simp only [pluralCategory, hspecial, hnumeral, pluralRules_fst]
    exact ok_or_unavailable _ _

/-- A finite value is written plainly, with an integer digit, and a number gets its text and its
category from every locale whose formatter can be made. It is different only where the value leaves
the range of the format when it is rounded to significant digits: there are no digits then. That
takes a limit of significant digits and a value of at least `10 ^ 307`. -/
theorem answers_unless_rounded_out (c : FormatterTables source) (n : Number) :
    (∀ (o : NumberOptions) (negative : Bool) (x : Magnitude),
      if o.roundsOut (.finite negative x) then o.digits negative x = none
      else ∃ y, o.digits negative x = some y ∧ Numeral.Plain y.chars) ∧
    (if n.options.roundsOut (scaled n) then (c.formatNumber n).1 = .error .unreadableNumber
      else (∃ text, (c.formatNumber n).1 = .ok text) ∨
        ∃ reason, source.decimalFormat c.locale n.options.useGrouping = .error reason ∧
          (c.formatNumber n).1 = .error (.unavailable reason)) ∧
    (if n.options.roundsOut n.value then (c.pluralCategory n).1 = .error .unreadableNumber
      else (∃ category, (c.pluralCategory n).1 = .ok category) ∨
        ∃ reason, source.pluralRules c.locale n.options.pluralType = .error reason ∧
          (c.pluralCategory n).1 = .error (.unavailable reason)) ∧
    ∀ (o : NumberOptions) (negative : Bool) (x : Magnitude),
      o.roundsOut (.finite negative x) = true →
        o.limitsSignificant = true ∧ tenPow 307 * Magnitude.unitsPerOne ≤ x.units := by
  refine ⟨fun o negative x => ?_, ?_, ?_, fun o negative x => NumberOptions.le_units_of_roundsOut⟩
  · split
    next h => exact NumberOptions.digits_eq_none h
    next h => exact NumberOptions.exists_digits (Bool.eq_false_of_not_eq_true h)
  · split
    next h => exact formatNumber_of_roundsOut h c
    next h => exact formatNumber_answers (Bool.eq_false_of_not_eq_true h) c
  · split
    next h => exact pluralCategory_of_roundsOut h c
    next h => exact pluralCategory_answers (Bool.eq_false_of_not_eq_true h) c

def largestMagnitude : Magnitude := ⟨2 ^ 53 - 1, 2045, by decide, by decide, .inr (by decide)⟩

/-- The largest value, to one significant digit. That would be `2 * 10 ^ 308`. -/
def largestToOneDigit : Number :=
  { value := .finite false largestMagnitude, options := { maximumSignificantDigits := some 1 } }

theorem roundsOut_largestToOneDigit :
    largestToOneDigit.options.roundsOut largestToOneDigit.value = true := by decide +kernel

theorem largestToOneDigit_beyond_bound :
    largestToOneDigit.options.roundsOut largestToOneDigit.value = true ∧
    tenPow 307 * Magnitude.unitsPerOne ≤ largestMagnitude.units := by
  have hanswers :=
    answers_unless_rounded_out (fresh .und : FormatterTables .library) largestToOneDigit
  exact ⟨roundsOut_largestToOneDigit, (hanswers.2.2.2 _ _ _ roundsOut_largestToOneDigit).2⟩

/-- A finite value without digits, and with neither a text nor a category where every formatter can
be made. -/
theorem largest_to_one_digit_unreadable :
    scaled largestToOneDigit = .finite false largestMagnitude ∧
    largestToOneDigit.options.digits false largestMagnitude = none ∧
    ((fresh .und : FormatterTables .library).formatNumber largestToOneDigit).1 =
      .error .unreadableNumber ∧
    ((fresh .und : FormatterTables .library).pluralCategory largestToOneDigit).1 =
      .error .unreadableNumber ∧
    FormatterSource.library.decimalFormat .und true = .ok (.ofLocale .und true) ∧
    FormatterSource.library.pluralRules .und .cardinal = .ok (.ofLocale .und .cardinal) :=
  ⟨rfl, NumberOptions.digits_eq_none roundsOut_largestToOneDigit,
    formatNumber_of_roundsOut roundsOut_largestToOneDigit _,
    pluralCategory_of_roundsOut roundsOut_largestToOneDigit _, rfl, rfl⟩

end FormatterTables

end Phrasebook
