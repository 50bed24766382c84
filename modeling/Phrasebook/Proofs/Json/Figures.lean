import Phrasebook.Json.Scalar
import Phrasebook.Json.Writer
import Phrasebook.Proofs.Numeric.ReadingBack

/-!
# Figures that are read back

The figures of a magnitude are those of its shortest decimal, with a zero behind the point where
there would be no digit. Their power of ten is not larger than those that are counted. Whoever reads
the nearest magnitude gets back what was written; of others that is required.
-/

namespace Phrasebook.Json

/-- Figures that are read as a number with a fraction or an exponent. -/
structure Figures.Legible (f : Figures) : Prop where
  whole : Digit.Whole f.integer
  real : f.fraction ≠ [] ∨ f.power ≠ 0
  power_le : f.power.natAbs ≤ Reader.maxExponent

/-- Every magnitude is what its own figures are read as. -/
class NumberSource.Faithful [NumberSource] : Prop where
  magnitude?_figures : ∀ x : Magnitude, magnitude? (magnitudeFigures x) = some x

section

variable {d : Decimal}

theorem figures_positional (h : -5 ≤ d.exponent + (Digit.ofNat d.significand).length - 1 ∧
      d.exponent + (Digit.ofNat d.significand).length - 1 < 16) :
    figures d = { integer := (d.toNumeral false).integer
                  fraction := if (d.toNumeral false).fraction.isEmpty then [.zero]
                    else (d.toNumeral false).fraction } := if_pos h

theorem figures_scientific (h : ¬(-5 ≤ d.exponent + (Digit.ofNat d.significand).length - 1 ∧
      d.exponent + (Digit.ofNat d.significand).length - 1 < 16)) :
    figures d = ⟨(Digit.ofNat d.significand).take 1, (Digit.ofNat d.significand).drop 1,
      d.exponent + (Digit.ofNat d.significand).length - 1⟩ := if_neg h

theorem whole_toNumeral (d : Decimal) : Digit.Whole (d.toNumeral false).integer := by
  unfold Decimal.toNumeral
  split
  · exact Digit.whole_ofNat _
  · exact (Numeral.ofScaled_spec false d.significand (-d.exponent).toNat).2.2

theorem legible_figures (hfits : FitsIn 6000 d.significand) (he : d.exponent.natAbs ≤ 13000) :
    (figures d).Legible := by
  by_cases h : -5 ≤ d.exponent + (Digit.ofNat d.significand).length - 1 ∧
      d.exponent + (Digit.ofNat d.significand).length - 1 < 16
  · rw [figures_positional h]
    refine ⟨whole_toNumeral d, .inl ?_, Nat.zero_le _⟩
    split
    · exact List.cons_ne_nil _ _
    · next hfraction => simpa using hfraction
  · rw [figures_scientific h]
    have hlength := Digit.length_ofNat_le d.significand
    have hlog := hfits.log2_le
    obtain ⟨first, more, hdigits, -⟩ := Digit.whole_ofNat d.significand
    refine ⟨?_, .inr ?_, ?_⟩
    · rw [hdigits]
      exact ⟨first, [], rfl, fun _ => rfl⟩
    · dsimp only
      omega
    · refine Nat.le_trans (m := 30000) ?_ (by decide)
      dsimp only
      omega

/-- The figures write the decimal with at most a few zeros behind it. -/
theorem exists_decimal_figures (d : Decimal) :
    ∃ count ≤ 16, (figures d).decimal = d.withZeros count := by
  have hself : d.withZeros 0 = d := by simp [Decimal.withZeros, tenPow]
  obtain ⟨first, more, hdigits, -⟩ := Digit.whole_ofNat d.significand
  by_cases h : -5 ≤ d.exponent + (Digit.ofNat d.significand).length - 1 ∧
      d.exponent + (Digit.ofNat d.significand).length - 1 < 16
  · rw [figures_positional h]
    by_cases he : 0 ≤ d.exponent
    · -- The zeros of a whole number, and the one behind the point.
      have hnumeral : d.toNumeral false =
          ⟨false, Digit.ofNat (d.significand * tenPow d.exponent.toNat), []⟩ := if_pos he
      rw [hdigits, List.length_cons] at h
      refine ⟨d.exponent.toNat + 1, by omega, ?_⟩
      rw [hnumeral]
      simp only [Figures.decimal, Decimal.withZeros, List.isEmpty_nil, if_true,
        Digit.value_append, Digit.value_ofNat, Decimal.mk.injEq, tenPow_add]
      refine ⟨?_, by simp; omega⟩
      simp [tenPow, Digit.value, Digit.zero, Nat.mul_assoc]
    · have hnumeral : d.toNumeral false =
          .ofScaled false d.significand (-d.exponent).toNat := if_neg he
      obtain ⟨hvalue, hlength, -⟩ :=
        Numeral.ofScaled_spec false d.significand (-d.exponent).toNat
      rw [← hnumeral] at hvalue hlength
      have hfraction : (d.toNumeral false).fraction.isEmpty = false := by
        rw [List.isEmpty_eq_false_iff, ← List.length_pos_iff, hlength]
        omega
      refine ⟨0, Nat.zero_le _, ?_⟩
      rw [hself, hfraction, Figures.decimal]
      simp only [Bool.false_eq_true, if_false, hvalue, hlength]
      congr 1
      omega
  · -- Taking back the digits behind the point gives the exponent of the decimal itself.
    rw [figures_scientific h]
    refine ⟨0, Nat.zero_le _, ?_⟩
    rw [hself, Figures.decimal]
    simp only [List.take_append_drop, Digit.value_ofNat, List.length_drop]
    congr 1
    rw [hdigits, List.length_cons]
    omega

theorem readable_withZeros (hfits : FitsIn 6000 d.significand) {count : Nat} (h : count ≤ 16) :
    (d.withZeros count).Readable :=
  (hfits.mul (.tenPow count)).mono (by omega)

end

theorem legible_magnitudeFigures (x : Magnitude) : (magnitudeFigures x).Legible :=
  legible_figures (x.shortest_bounds .even).1 (x.shortest_bounds .even).2

namespace NumberSource

theorem magnitude?_nearest {f : Figures} {x : Magnitude}
    (h : Binary64.ofDecimal false f.decimal = .finite false x) :
    nearest.magnitude? f = some x := by
  simp only [magnitude?, h]

instance faithful_nearest : Faithful where
  magnitude?_figures x := by
    obtain ⟨count, hcount, hdecimal⟩ := exists_decimal_figures (x.shortest .even)
    have hreadable := readable_withZeros (x.shortest_bounds .even).1 hcount
    apply magnitude?_nearest
    rw [magnitudeFigures, hdecimal]
    exact x.shortest_reads hreadable false

end NumberSource

end Phrasebook.Json
