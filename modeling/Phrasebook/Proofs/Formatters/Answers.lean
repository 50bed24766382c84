import Phrasebook.Formatters

/-!
# What formatters answer

An answer is found in the same way whatever was asked before: the formatters that are kept answer
like new ones of the same locale.
-/

namespace Phrasebook

namespace FormatterTables

variable {source : FormatterSource}

theorem pluralRules_fst (type : PluralType) (c : FormatterTables source) :
    (c.pluralRules type).1 = (source.pluralRules c.locale type).mapError .unavailable :=
  congrArg (Except.mapError _) (Memo.get_value c.plurals type)

theorem decimalFormat_fst (grouping : Bool) (c : FormatterTables source) :
    (c.decimalFormat grouping).1 = (source.decimalFormat c.locale grouping).mapError .unavailable :=
  congrArg (Except.mapError _) (Memo.get_value c.decimals grouping)

theorem dateFormat_fst (options : InstantOptions) (c : FormatterTables source) :
    (c.dateFormat options).1 = (source.dateFormat c.locale options).mapError .unavailable :=
  congrArg (Except.mapError _) (Memo.get_value c.dates options)

@[simp] theorem locale_fresh (l : Locale) : (fresh l : FormatterTables source).locale = l := rfl

theorem formatNumber_fst (n : Number) (c : FormatterTables source) :
    (c.formatNumber n).1 = ((fresh c.locale : FormatterTables source).formatNumber n).1 := by
  unfold formatNumber
  dsimp only
  cases specialText? (scaled n) with
  | some text => rfl
  | none =>
      cases numeral? n.options (scaled n) with
      | none => rfl
      | some numeral => simp only [decimalFormat_fst, locale_fresh]

theorem formatInstant_fst (t : Instant) (c : FormatterTables source) :
    (c.formatInstant t).1 = ((fresh c.locale : FormatterTables source).formatInstant t).1 := by
  unfold formatInstant
  dsimp only
  split
  · rfl
  · split
    · rfl
    · simp only [dateFormat_fst, locale_fresh]

theorem pluralCategory_fst (n : Number) (c : FormatterTables source) :
    (c.pluralCategory n).1 = ((fresh c.locale : FormatterTables source).pluralCategory n).1 := by
  unfold pluralCategory
  cases specialText? n.value with
  | some text => rfl
  | none =>
      dsimp only
      cases numeral? { n.options with style := .decimal } n.value with
      | none => rfl
      | some numeral => simp only [pluralRules_fst, locale_fresh]

theorem formatNumber_locale (n : Number) (c : FormatterTables source) :
    (c.formatNumber n).2.locale = c.locale := by
  unfold formatNumber
  dsimp only
  cases specialText? (scaled n) with
  | some text => rfl
  | none => cases numeral? n.options (scaled n) <;> rfl

theorem formatInstant_locale (t : Instant) (c : FormatterTables source) :
    (c.formatInstant t).2.locale = c.locale := by
  unfold formatInstant
  dsimp only
  split
  · rfl
  · split <;> rfl

theorem pluralCategory_locale (n : Number) (c : FormatterTables source) :
    (c.pluralCategory n).2.locale = c.locale := by
  unfold pluralCategory
  cases specialText? n.value with
  | some text => rfl
  | none =>
      dsimp only
      cases numeral? { n.options with style := .decimal } n.value <;> rfl

end FormatterTables

namespace Formatting

variable {α : Type} {source : FormatterSource}

theorem run_locale (question : Formatting α) (c : FormatterTables source) :
    (question.run c).2.locale = c.locale := by
  induction question generalizing c with
  | done a => rfl
  | locale next ih => exact ih _ _
  | pluralRules type next ih => exact ih _ _
  | decimalFormat grouping next ih => exact ih _ _
  | number n next ih => exact (ih _ _).trans (c.formatNumber_locale n)
  | instant t next ih => exact (ih _ _).trans (c.formatInstant_locale t)
  | category n next ih => exact (ih _ _).trans (c.pluralCategory_locale n)

/-- What was asked before makes no difference to an answer. -/
theorem run_fst (question : Formatting α) {c c' : FormatterTables source}
    (h : c.locale = c'.locale) : (question.run c).1 = (question.run c').1 := by
  induction question generalizing c c' with
  | done a => rfl
  | locale next ih =>
      simp only [run, h]
      exact ih _ h
  | pluralRules type next ih =>
      have hanswer : (c.pluralRules type).1 = (c'.pluralRules type).1 := by
        rw [c.pluralRules_fst, c'.pluralRules_fst, h]
      simp only [run, hanswer]
      exact ih _ h
  | decimalFormat grouping next ih =>
      have hanswer : (c.decimalFormat grouping).1 = (c'.decimalFormat grouping).1 := by
        rw [c.decimalFormat_fst, c'.decimalFormat_fst, h]
      simp only [run, hanswer]
      exact ih _ h
  | number n next ih =>
      have hanswer : (c.formatNumber n).1 = (c'.formatNumber n).1 := by
        rw [c.formatNumber_fst, c'.formatNumber_fst, h]
      simp only [run, hanswer]
      exact ih _ (by rw [c.formatNumber_locale, c'.formatNumber_locale, h])
  | instant t next ih =>
      have hanswer : (c.formatInstant t).1 = (c'.formatInstant t).1 := by
        rw [c.formatInstant_fst, c'.formatInstant_fst, h]
      simp only [run, hanswer]
      exact ih _ (by rw [c.formatInstant_locale, c'.formatInstant_locale, h])
  | category n next ih =>
      have hanswer : (c.pluralCategory n).1 = (c'.pluralCategory n).1 := by
        rw [c.pluralCategory_fst, c'.pluralCategory_fst, h]
      simp only [run, hanswer]
      exact ih _ (by rw [c.pluralCategory_locale, c'.pluralCategory_locale, h])

end Formatting

end Phrasebook
