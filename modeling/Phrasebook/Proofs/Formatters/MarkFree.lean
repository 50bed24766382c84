import Phrasebook.Proofs.Formatters.Answers
import Phrasebook.Proofs.Text.Balance

/-!
# Locales write no marks

What the formatters show is made of the digits and symbols of a locale, of names of months and of
other fixed texts. None of them holds a mark that sets texts off, in any locale, so no formatted
number or instant does.
-/

namespace Phrasebook

/-! ## Numbers -/

namespace NumberSymbols

/-- The symbols hold no marks, and the digits are of a script in front of them. -/
structure MarkFree (y : NumberSymbols) : Prop where
  group : Phrasebook.MarkFree y.group
  decimal : Phrasebook.MarkFree y.decimal
  minus : Phrasebook.MarkFree y.minus
  digits : y.zero + 9 < isolateStart.toNat

instance (y : NumberSymbols) : Decidable y.MarkFree :=
  decidable_of_iff (Phrasebook.MarkFree y.group ∧ Phrasebook.MarkFree y.decimal ∧
      Phrasebook.MarkFree y.minus ∧ y.zero + 9 < isolateStart.toNat)
    ⟨fun h => ⟨h.1, h.2.1, h.2.2.1, h.2.2.2⟩, fun h => ⟨h.group, h.decimal, h.minus, h.digits⟩⟩

theorem markFree_ofSource (source : LocaleSource) : (ofSource source).MarkFree := by
  unfold ofSource
  split <;> decide

theorem markFree_ofSystem? {language system : String} {y : NumberSymbols}
    (h : ofSystem? language system = some y) : y.MarkFree := by
  unfold ofSystem? at h
  split at h
  · cases h
    decide
  · cases h
    decide
  · cases h

theorem digitSystems_before_marks {system : String} {first : Nat}
    (h : digitSystems.lookup system = some first) : first + 9 < isolateStart.toNat := by
  have hall : ∀ d ∈ digitSystems, d.2 + 9 < isolateStart.toNat := by decide
  obtain ⟨before, after, heq, -⟩ := List.lookup_eq_some_iff.1 h
  apply hall (system, first)
  rw [heq]
  simp

theorem markFree_ofLocale (l : Locale) : (ofLocale l).MarkFree := by
  have hsource : (ofSource l.source).MarkFree := markFree_ofSource l.source
  unfold ofLocale
  cases l.keyword? "nu" with
  | none => exact hsource
  | some system =>
      dsimp only
      cases hsystem : ofSystem? l.source.language system with
      | some y => exact markFree_ofSystem? hsystem
      | none =>
          refine ⟨hsource.group, hsource.decimal, hsource.minus, ?_⟩
          cases hdigits : digitSystems.lookup system with
          | none => exact hsource.digits
          | some first => exact digitSystems_before_marks hdigits

variable {y : NumberSymbols}

theorem MarkFree.noMark_digit (h : y.MarkFree) (d : Digit) : NoMark (y.digit d) := by
  apply noMark_ofNat
  have hdigits := h.digits
  omega

theorem MarkFree.digits_map (h : y.MarkFree) (ds : List Digit) :
    ∀ c ∈ ds.map y.digit, NoMark c := by
  intro c hc
  obtain ⟨d, -, rfl⟩ := List.mem_map.1 hc
  exact h.noMark_digit d

theorem MarkFree.count (h : y.MarkFree) (width n : Nat) : Phrasebook.MarkFree (y.count width n) :=
  markFree_ofList.2 (h.digits_map _)

theorem MarkFree.groupDigits (h : y.MarkFree) (ds : List Digit) :
    ∀ c ∈ y.groupDigits ds, NoMark c := by
  induction ds using NumberSymbols.groupDigits.induct with
  | case1 => simp [NumberSymbols.groupDigits]
  | case2 d => simpa [NumberSymbols.groupDigits] using h.noMark_digit d
  | case3 d ds hne ih =>
      have hseparator : ∀ c ∈ if y.separates ds.length then y.group.toList else [], NoMark c := by
        split
        · exact h.group
        · simp
      rw [NumberSymbols.groupDigits]
      · exact List.forall_mem_cons.2 ⟨h.noMark_digit d, List.forall_mem_append.2 ⟨hseparator, ih⟩⟩
      · exact hne

end NumberSymbols

theorem markFree_format {f : DecimalFormat} (h : f.symbols.MarkFree) (x : Numeral) :
    MarkFree (f.format x) := by
  have hminus : MarkFree (if x.negative then f.symbols.minus else "") :=
    markFree_ite h.minus markFree_empty
  have hinteger : MarkFree (.ofList (f.integer x.integer)) := by
    apply markFree_ofList.2
    unfold DecimalFormat.integer
    split
    · exact h.groupDigits x.integer
    · exact h.digits_map x.integer
  have hfraction : MarkFree (if x.fraction.isEmpty then ""
      else f.symbols.decimal ++ .ofList (x.fraction.map f.symbols.digit)) :=
    markFree_ite markFree_empty
      (markFree_append.2 ⟨h.decimal, markFree_ofList.2 (h.digits_map _)⟩)
  exact markFree_append.2 ⟨markFree_append.2 ⟨hminus, hinteger⟩, hfraction⟩

theorem markFree_text (x : Numeral) : MarkFree x.text := by
  have hminus : ∀ c ∈ if x.negative then ['-'] else [], NoMark c := by
    split
    · exact List.forall_mem_singleton.2 (by decide)
    · simp
  have hfraction : ∀ c ∈ if x.fraction.isEmpty then [] else '.' :: x.fraction.map Digit.toChar,
      NoMark c := by
    split
    · simp
    · exact List.forall_mem_cons.2 ⟨by decide, noMark_digits _⟩
  apply markFree_ofList.2
  exact List.forall_mem_append.2 ⟨List.forall_mem_append.2 ⟨hminus, noMark_digits _⟩, hfraction⟩

theorem markFree_plainText (x : Binary64) : MarkFree x.plainText := by
  cases x with
  | nan => decide
  | infinite s => cases s <;> decide
  | finite s x => exact markFree_text _

theorem markFree_integerText (n : Int) : MarkFree (integerText n) := by
  have hminus : MarkFree (if n < 0 then "-" else "") := markFree_ite (by decide) markFree_empty
  exact markFree_append.2 ⟨hminus, markFree_digitsText _⟩

/-! ## Dates -/

def DateStyle.texts (style : DateStyle) : List String :=
  style.glue :: style.months ++ style.fields.filterMap fun f =>
    match f with
    | .literal text => some text
    | _ => none

def DateSymbols.texts (y : DateSymbols) : List String :=
  [y.eras.1, y.eras.2, y.halves.1, y.halves.2] ++
    (y.short.texts ++ y.medium.texts ++ y.long.texts)

namespace DateSymbols

theorem markFree_ofSource (source : LocaleSource) : ∀ s ∈ (ofSource source).texts, MarkFree s := by
  unfold ofSource
  split <;> decide +kernel

theorem markFree_ofLocale (l : Locale) : ∀ s ∈ (ofLocale l).texts, MarkFree s :=
  markFree_ofSource l.source

/-- The texts of each length are among those of the symbols. -/
theorem texts_style (y : DateSymbols) (length : Length) :
    ∀ s ∈ (y.style length).texts, s ∈ y.texts := by
  intro s hs
  cases length <;> simp_all [texts, style]

end DateSymbols

namespace DateFormat

/-- The texts of the symbols hold no marks, nor do the digits. -/
structure MarkFree (f : DateFormat) : Prop where
  symbols : ∀ s ∈ f.symbols.texts, Phrasebook.MarkFree s
  numbers : f.numbers.MarkFree

theorem markFree_ofLocale (l : Locale) (o : InstantOptions) : (ofLocale l o).MarkFree :=
  ⟨DateSymbols.markFree_ofLocale l, NumberSymbols.markFree_ofLocale l⟩

variable {f : DateFormat} (h : f.MarkFree)
include h

theorem MarkFree.style : ∀ s ∈ (f.symbols.style f.length).texts, Phrasebook.MarkFree s := by
  intro s hs
  exact h.symbols s (f.symbols.texts_style f.length s hs)

theorem MarkFree.field (d : Date) {part : DateField}
    (hpart : part ∈ (f.symbols.style f.length).fields) :
    Phrasebook.MarkFree (f.field (f.symbols.style f.length).months d part) := by
  cases part with
  | literal text =>
      apply h.style
      exact List.mem_append_right _ (List.mem_filterMap.2 ⟨_, hpart, rfl⟩)
  | monthName =>
      show Phrasebook.MarkFree ((f.symbols.style f.length).months.getD (d.month - 1) "")
      rw [List.getD_eq_getElem?_getD]
      cases hname : (f.symbols.style f.length).months[d.month - 1]? with
      | none => exact markFree_empty
      | some name =>
          apply h.style
          exact List.mem_append_left _ (List.mem_cons_of_mem _ (List.mem_of_getElem? hname))
  | day | paddedDay | month | paddedMonth | year => exact h.numbers.count _ _
  | shortYear =>
      rw [DateFormat.field]
      split
      · exact h.numbers.count 2 _
      · exact h.numbers.count 1 _

theorem MarkFree.date (d : Date) : Phrasebook.MarkFree (f.date d) := by
  have htext : Phrasebook.MarkFree (.join ((f.symbols.style f.length).fields.map
      (f.field (f.symbols.style f.length).months d))) := by
    apply markFree_join
    intro s hs
    obtain ⟨part, hpart, rfl⟩ := List.mem_map.1 hs
    exact h.field d hpart
  have hera : Phrasebook.MarkFree (if d.year ≤ 0 then f.symbols.eras.2 else f.symbols.eras.1) :=
    markFree_ite (h.symbols _ (by simp [DateSymbols.texts]))
      (h.symbols _ (by simp [DateSymbols.texts]))
  unfold DateFormat.date
  dsimp only
  split
  · split
    · exact markFree_append.2 ⟨hera, htext⟩
    · exact markFree_append.2 ⟨htext, hera⟩
  · exact htext

theorem MarkFree.time (t : TimeOfDay) : Phrasebook.MarkFree (f.time t) := by
  have hcount (width n : Nat) : Phrasebook.MarkFree (f.numbers.count width n) :=
    h.numbers.count width n
  have hrest : Phrasebook.MarkFree
      (":" ++ f.numbers.count 2 t.minute ++ ":" ++ f.numbers.count 2 t.second) := by
    simp only [markFree_append, hcount, and_true]
    decide
  have hnoon :
      Phrasebook.MarkFree (if t.hour < 12 then f.symbols.halves.1 else f.symbols.halves.2) :=
    markFree_ite (h.symbols _ (by simp [DateSymbols.texts]))
      (h.symbols _ (by simp [DateSymbols.texts]))
  have hhalf : Phrasebook.MarkFree
      ("\u202f" ++ if t.hour < 12 then f.symbols.halves.1 else f.symbols.halves.2) :=
    markFree_append.2 ⟨by decide, hnoon⟩
  unfold DateFormat.time
  dsimp only
  split
  · exact markFree_append.2 ⟨hcount _ _, hrest⟩
  · exact markFree_append.2 ⟨markFree_append.2 ⟨hcount _ _, hrest⟩, hhalf⟩
  · exact markFree_append.2 ⟨markFree_append.2 ⟨hcount _ _, hrest⟩, hhalf⟩

theorem MarkFree.format (d : Date) (t : TimeOfDay) : Phrasebook.MarkFree (f.format d t) := by
  have hglue : Phrasebook.MarkFree (f.symbols.style f.length).glue :=
    h.style _ (List.mem_append_left _ List.mem_cons_self)
  unfold DateFormat.format
  split
  · exact markFree_append.2 ⟨markFree_append.2 ⟨h.date d, hglue⟩, h.time t⟩
  · exact h.date d

end DateFormat

/-! ## Answers -/

/-- What the formatters of a locale show has no marks. -/
structure FormatterSource.MarkFree (source : FormatterSource) (l : Locale) : Prop where
  number : ∀ grouping format, source.decimalFormat l grouping = .ok format →
    ∀ numeral, Phrasebook.MarkFree (format.format numeral)
  instant : ∀ options format, source.dateFormat l options = .ok format →
    ∀ date time, Phrasebook.MarkFree (format.format date time)

/-- The library has no marks for any locale. -/
theorem FormatterSource.markFree_library (l : Locale) : library.MarkFree l := by
  constructor
  · rintro grouping _ ⟨⟩ numeral
    exact markFree_format (NumberSymbols.markFree_ofLocale l) numeral
  · rintro options _ ⟨⟩ date time
    exact (DateFormat.markFree_ofLocale l options).format date time

namespace FormatterTables

variable {source : FormatterSource}

theorem markFree_styleSuffix (style : NumberStyle) : MarkFree (styleSuffix style) := by
  cases style <;> decide

theorem markFree_specialText {x : Binary64} {text : String} (h : specialText? x = some text) :
    MarkFree text := by
  unfold specialText? at h
  split at h
  · cases h
    decide
  · cases h
    split <;> decide
  · cases h

/-- A formatter that answers was made. -/
theorem exists_made {α β : Type} {made : Except String α} {answer : α → β} {b : β}
    (h : (made.mapError FormatError.unavailable).map answer = .ok b) :
    ∃ a, made = .ok a ∧ answer a = b := by
  cases made with
  | ok a =>
      cases h
      exact ⟨a, rfl, rfl⟩
  | error reason => cases h

/-- Neither does what the tables show for a number. -/
theorem markFree_formatNumber {n : Number} {c : FormatterTables source} {text : String}
    (hc : source.MarkFree c.locale) (h : (c.formatNumber n).1 = .ok text) : MarkFree text := by
  have hsuffix : MarkFree (styleSuffix n.options.style) := markFree_styleSuffix _
  unfold formatNumber at h
  dsimp only at h
  cases hspecial : specialText? (scaled n) with
  | some special =>
      simp only [hspecial, Except.ok.injEq] at h
      rw [← h]
      exact markFree_append.2 ⟨markFree_specialText hspecial, hsuffix⟩
  | none =>
      cases hnumeral : numeral? n.options (scaled n) with
      | none => simp [hspecial, hnumeral] at h
      | some numeral =>
          simp only [hspecial, hnumeral, decimalFormat_fst] at h
          obtain ⟨format, hformat, rfl⟩ := exists_made h
          exact markFree_append.2 ⟨hc.number _ _ hformat numeral, hsuffix⟩

theorem markFree_formatInstant {t : Instant} {c : FormatterTables source} {text : String}
    (hc : source.MarkFree c.locale) (h : (c.formatInstant t).1 = .ok text) : MarkFree text := by
  unfold formatInstant at h
  dsimp only at h
  split at h
  · cases h
  · split at h
    · cases h
    · simp only [dateFormat_fst] at h
      obtain ⟨format, hformat, rfl⟩ := exists_made h
      exact hc.instant _ _ hformat _ _

end FormatterTables

end Phrasebook
