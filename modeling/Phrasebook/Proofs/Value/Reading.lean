import Mathlib.Data.Option.Basic
import Phrasebook.Proofs.Numeric.Numerals
import Phrasebook.Value.Number

/-!
# Numerals are read as they are written

The text of a numeral with an integer digit is read as a number: its value is the one nearest to
what the digits write, with the sign in front, and as many fraction digits as were written are
kept.
-/

namespace Phrasebook

open Digit

namespace Text

theorem dropWhile_isBlank_eq_self {cs : List Char} (h : ∀ c ∈ cs, isBlank c = false) :
    cs.dropWhile isBlank = cs := by
  cases cs with
  | nil => rfl
  | cons c rest => exact List.dropWhile_cons_of_neg (by simp [h c List.mem_cons_self])

/-- Of a text without blanks the blanks around it are taken off. -/
theorem trim_surrounded {before core after : List Char} (hcore : core ≠ [])
    (hbefore : ∀ c ∈ before, isBlank c = true) (hafter : ∀ c ∈ after, isBlank c = true)
    (h : ∀ c ∈ core, isBlank c = false) : trim (before ++ core ++ after) = core := by
  have hfront : (before ++ core ++ after).dropWhile isBlank = core ++ after := by
    obtain ⟨c, rest, rfl⟩ := List.exists_cons_of_ne_nil hcore
    rw [List.append_assoc, List.dropWhile_append_of_pos hbefore]
    exact List.dropWhile_cons_of_neg (by simp [h c List.mem_cons_self])
  have hback : (core ++ after).reverse.dropWhile isBlank = core.reverse := by
    rw [List.reverse_append,
      List.dropWhile_append_of_pos fun c hc => hafter c (List.mem_reverse.1 hc)]
    exact dropWhile_isBlank_eq_self fun c hc => h c (List.mem_reverse.1 hc)
  rw [trim, hfront, hback, List.reverse_reverse]

theorem trim_eq_self {cs : List Char} (h : ∀ c ∈ cs, isBlank c = false) : trim cs = cs := by
  have hreverse : ∀ c ∈ cs.reverse, isBlank c = false := fun c hc => h c (List.mem_reverse.1 hc)
  rw [trim, dropWhile_isBlank_eq_self h, dropWhile_isBlank_eq_self hreverse, List.reverse_reverse]

/-- Blanks are all that is taken off. -/
theorem exists_blanks_trim (cs : List Char) :
    ∃ before after, cs = before ++ trim cs ++ after ∧
      (∀ c ∈ before, isBlank c = true) ∧ ∀ c ∈ after, isBlank c = true := by
  let inner := cs.dropWhile isBlank
  let after := (inner.reverse.takeWhile isBlank).reverse
  have hinner : trim cs ++ after = inner := by
    change (inner.reverse.dropWhile isBlank).reverse ++ after = inner
    rw [← List.reverse_append, List.takeWhile_append_dropWhile, List.reverse_reverse]
  refine ⟨cs.takeWhile isBlank, after, ?_, fun c hc => List.mem_takeWhile_imp hc, fun c hc => ?_⟩
  · rw [List.append_assoc, hinner]
    exact List.takeWhile_append_dropWhile.symm
  · exact List.mem_takeWhile_imp (List.mem_reverse.1 hc)

end Text

namespace Digit

theorem isBlank_toChar (d : Digit) : Text.isBlank d.toChar = false := by
  revert d
  decide

theorem toChar_ne_sign (d : Digit) : d.toChar ≠ '-' ∧ d.toChar ≠ '+' := by
  revert d
  decide

theorem toChar_ne_point (d : Digit) : (d.toChar != '.') = true := by
  revert d
  decide

theorem ne_point_of_mem_map (ds : List Digit) : ∀ c ∈ ds.map toChar, (c != '.') = true := by
  intro c hc
  obtain ⟨d, -, rfl⟩ := List.mem_map.1 hc
  exact toChar_ne_point d

end Digit

namespace Numeral

theorem isBlank_chars (x : Numeral) : ∀ c ∈ x.chars, Text.isBlank c = false := by
  intro c hc
  have hdigits (ds : List Digit) (hmem : c ∈ ds.map toChar) : Text.isBlank c = false := by
    obtain ⟨d, -, rfl⟩ := List.mem_map.1 hmem
    exact isBlank_toChar d
  unfold chars at hc
  rcases List.mem_append.1 hc with hc | hc
  · rcases List.mem_append.1 hc with hc | hc
    · cases hsign : x.negative <;> simp [hsign] at hc
      rw [hc]
      rfl
    · exact hdigits _ hc
  · cases hfraction : x.fraction <;> simp only [hfraction] at hc
    · cases hc
    · rcases List.mem_cons.1 hc with rfl | hc
      · rfl
      · exact hdigits _ hc

def toDecimal (x : Numeral) : Decimal := ⟨value (x.integer ++ x.fraction), -x.fraction.length⟩

/-- The characters behind the sign. -/
def digitChars (x : Numeral) : List Char :=
  x.integer.map toChar ++ (if x.fraction.isEmpty then [] else '.' :: x.fraction.map toChar)

theorem chars_eq (x : Numeral) :
    x.chars = (if x.negative then ['-'] else []) ++ x.digitChars := List.append_assoc ..

theorem takeWhile_digitChars (x : Numeral) :
    x.digitChars.takeWhile (· != '.') = x.integer.map toChar := by
  rw [digitChars, List.takeWhile_append_of_pos (ne_point_of_mem_map x.integer)]
  cases x.fraction <;> simp

theorem drop_dropWhile_digitChars (x : Numeral) :
    (x.digitChars.dropWhile (· != '.')).drop 1 = x.fraction.map toChar := by
  rw [digitChars, List.dropWhile_append_of_pos (ne_point_of_mem_map x.integer)]
  cases x.fraction <;> simp

end Numeral

namespace Number

theorem splitSign_of_no_sign {c : Char} {cs : List Char} (h : c ≠ '-' ∧ c ≠ '+') :
    splitSign (c :: cs) = (false, c :: cs) := by
  unfold splitSign
  split
  · next heq => exact absurd (List.cons.inj heq).1 h.1
  · next heq => exact absurd (List.cons.inj heq).1 h.2
  · rfl

theorem mem_of_mem_splitSign {c : Char} {cs : List Char} (h : c ∈ (splitSign cs).2) : c ∈ cs := by
  unfold splitSign at h
  split at h
  · exact List.mem_cons_of_mem _ h
  · exact List.mem_cons_of_mem _ h
  · exact h

theorem placesOf_cons {c : Char} (h : c ≠ '.') (cs : List Char) :
    placesOf (c :: cs) = placesOf cs := by
  unfold placesOf
  rw [List.dropWhile_cons_of_pos (by simpa using h)]

/-- A sign has no part in the fraction digits. -/
theorem placesOf_splitSign (cs : List Char) : placesOf (splitSign cs).2 = placesOf cs := by
  unfold splitSign
  split
  · exact (placesOf_cons (by decide) _).symm
  · exact (placesOf_cons (by decide) _).symm
  · rfl

/-- Where the characters of numbers lie: behind the ASCII blanks and before the letters. -/
theorem toNat_of_isNumeric {c : Char} (h : isNumeric c = true) : 43 ≤ c.toNat ∧ c.toNat ≤ 57 := by
  simp only [isNumeric, Bool.or_eq_true, beq_iff_eq, Char.isDigit_iff_toNat] at h
  rcases h with ((⟨hlow, hhigh⟩ | rfl) | rfl) | rfl
  · exact ⟨Nat.le_trans (by decide) hlow, hhigh⟩
  all_goals decide

theorem toLower_of_isNumeric {c : Char} (h : isNumeric c = true) : c.toLower = c := by
  have hhigh := (toNat_of_isNumeric h).2
  exact dif_neg fun hletter =>
    absurd (Nat.le_trans (UInt32.le_iff_toNat_le.1 hletter.1) hhigh) (by decide)

theorem isPowerMark_of_isNumeric {c : Char} (h : isNumeric c = true) : isPowerMark c = false := by
  rw [← Bool.not_eq_true]
  intro hmark
  simp only [isPowerMark, Bool.or_eq_true, beq_iff_eq] at hmark
  rcases hmark with rfl | rfl
  · exact absurd h (by decide)
  · exact absurd h (by decide)

section

variable {cs : List Char} (hcs : ∀ c ∈ cs, isNumeric c = true)
include hcs

/-- A word with a letter is no such text. -/
theorem map_toLower_ne (word : String) (letter : Char) (hletter : letter ∈ word.toList)
    (hnumeric : isNumeric letter = false) : String.ofList (cs.map Char.toLower) ≠ word := by
  intro hword
  subst hword
  rw [String.toList_ofList] at hletter
  obtain ⟨c, hc, hlower⟩ := List.mem_map.1 hletter
  rw [toLower_of_isNumeric (hcs c hc)] at hlower
  rw [← hlower, hcs c hc] at hnumeric
  cases hnumeric

/-- There is neither a word nor a power of ten in a text without letters. -/
theorem float?_of_isNumeric :
    float? cs = (significand? (splitSign cs).2).map fun ds =>
      Binary64.ofDecimal (splitSign cs).1 ⟨Digit.value ds, -(placesOf cs : Int)⟩ := by
  have hbody : ∀ c ∈ (splitSign cs).2, isNumeric c = true :=
    fun c hc => hcs c (mem_of_mem_splitSign hc)
  have hmarks : ∀ c ∈ (splitSign cs).2, (!isPowerMark c) = true := by
    intro c hc
    rw [isPowerMark_of_isNumeric (hbody c hc)]
    rfl
  have hinf := map_toLower_ne hbody "inf" 'i' (by decide) (by decide)
  have hinfinity := map_toLower_ne hbody "infinity" 'i' (by decide) (by decide)
  have hnan := map_toLower_ne hbody "nan" 'n' (by decide) (by decide)
  have hmantissa : (splitSign cs).2.takeWhile (!isPowerMark ·) = (splitSign cs).2 :=
    List.takeWhile_eq_self_iff.2 hmarks
  have hpower : (splitSign cs).2.dropWhile (!isPowerMark ·) = [] :=
    List.dropWhile_eq_nil_iff.2 hmarks
  unfold float?
  dsimp only
  rw [if_neg (by simp [hinf, hinfinity]), if_neg hnan, hmantissa, hpower, placesOf_splitSign]
  cases significand? (splitSign cs).2 with
  | none => rfl
  | some ds => simp [power?]

end

/-- A number is read where the text has characters, these are those of numbers, and the general
format has a value for them. -/
theorem parse?_eq_some_iff {text : String} {n : Number} :
    parse? text = some n ↔
      Text.trim text.toList ≠ [] ∧ (∀ c ∈ Text.trim text.toList, isNumeric c = true) ∧
        ∃ value, float? (Text.trim text.toList) = some value ∧
          withPrecision value (UInt64.ofNat (placesOf (Text.trim text.toList))) = n := by
  unfold parse?
  simp only [Option.bind_eq_bind, Option.bind_eq_some_iff, Option.guard_eq_some', Bool.and_eq_true,
    Bool.not_eq_true', List.isEmpty_eq_false_iff, List.all_eq_true, Option.pure_def,
    Option.some.injEq]
  constructor
  · rintro ⟨-, ⟨hne, hnumeric⟩, value, hvalue, hn⟩
    exact ⟨hne, hnumeric, value, hvalue, hn⟩
  · rintro ⟨hne, hnumeric, value, hvalue, hn⟩
    exact ⟨(), ⟨hne, hnumeric⟩, value, hvalue, hn⟩

theorem digits?_map_toChar (ds : List Digit) : digits? (ds.map toChar) = some ds := by
  unfold digits?
  induction ds with
  | nil => rfl
  | cons d ds ih => simp [ih]

theorem isNumeric_map_toChar (ds : List Digit) : ∀ c ∈ ds.map toChar, isNumeric c = true := by
  have hdigit : ∀ d : Digit, isNumeric d.toChar = true := by decide
  intro c hc
  obtain ⟨d, -, rfl⟩ := List.mem_map.1 hc
  exact hdigit d

section

variable {x : Numeral}

theorem isNumeric_chars (x : Numeral) : ∀ c ∈ x.chars, isNumeric c = true := by
  intro c hc
  rw [x.chars_eq] at hc
  rcases List.mem_append.1 hc with hsign | hdigits
  · split at hsign
    · rw [List.mem_singleton.1 hsign]
      rfl
    · cases hsign
  · rcases List.mem_append.1 hdigits with hinteger | hfraction
    · exact isNumeric_map_toChar _ c hinteger
    · split at hfraction
      · cases hfraction
      · rcases List.mem_cons.1 hfraction with rfl | hfraction
        · rfl
        · exact isNumeric_map_toChar _ c hfraction

theorem significand?_digitChars (h : x.integer ≠ []) :
    significand? x.digitChars = some (x.integer ++ x.fraction) := by
  have hsome : (!(x.integer.isEmpty && x.fraction.isEmpty)) = true := by simp [h]
  unfold significand?
  simp only [x.takeWhile_digitChars, x.drop_dropWhile_digitChars, digits?_map_toChar,
    Option.bind_eq_bind, Option.bind_some, hsome]
  rfl

/-- A digit in front is no sign. -/
theorem splitSign_chars (h : x.integer ≠ []) : splitSign x.chars = (x.negative, x.digitChars) := by
  rw [x.chars_eq]
  cases x.negative with
  | true => rfl
  | false =>
      obtain ⟨d, ds, hinteger⟩ := List.exists_cons_of_ne_nil h
      unfold Numeral.digitChars
      rw [hinteger]
      exact splitSign_of_no_sign d.toChar_ne_sign

/-- A numeral is read as the value nearest to what it writes. -/
theorem parse?_text (h : x.integer ≠ []) :
    parse? x.text = some (withPrecision (Binary64.ofDecimal x.negative x.toDecimal)
      (UInt64.ofNat x.fraction.length)) := by
  have htrim : Text.trim x.text.toList = x.chars := by
    rw [Numeral.text, String.toList_ofList, Text.trim_eq_self x.isBlank_chars]
  have hsign := splitSign_chars h
  have hne : x.chars ≠ [] := by simp [x.chars_eq, Numeral.digitChars, h]
  have hplaces : placesOf x.chars = x.fraction.length := by
    rw [← placesOf_splitSign, hsign, placesOf, x.drop_dropWhile_digitChars, List.length_map]
  have hfloat : float? x.chars = some (Binary64.ofDecimal x.negative x.toDecimal) := by
    rw [float?_of_isNumeric (isNumeric_chars x), hsign, significand?_digitChars h, hplaces]
    rfl
  rw [parse?_eq_some_iff, htrim, hplaces]
  exact ⟨hne, isNumeric_chars x, _, hfloat, rfl⟩

end

end Number

end Phrasebook
