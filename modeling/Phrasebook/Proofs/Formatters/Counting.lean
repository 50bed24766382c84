import Mathlib.Data.Finset.Card
import Mathlib.Data.List.Perm.Subperm
import Phrasebook.Proofs.Formatters.Answers

/-!
# How many formatters are made

A request needs at most one formatter, and which one can be told from the request alone. Whatever
the requests were, the formatters that are kept are those that were needed and could be made, each
made once, and they are counted. A request that fails before it needs a formatter, or whose
formatter cannot be made, leaves the tables and the count as they were.
-/

namespace Phrasebook

/-! ## What is asked for -/

inductive FormatterKey where
  | plural (type : PluralType)
  | decimal (grouping : Bool)
  | date (options : InstantOptions)
deriving DecidableEq

def FormatterKey.all : List FormatterKey :=
  let lengths := [none, some .full, some .long, some .medium, some .short]
  [.plural .cardinal, .plural .ordinal, .decimal false, .decimal true] ++
    lengths.flatMap fun date => lengths.map fun time => .date ⟨date, time⟩

theorem FormatterKey.mem_all (key : FormatterKey) : key ∈ all := by
  have hlength (o : Option Length) :
      o ∈ [none, some Length.full, some .long, some .medium, some .short] := by
    cases o with
    | none => decide
    | some l => cases l <;> decide
  cases key with
  | plural type => cases type <;> decide
  | decimal grouping => cases grouping <;> decide
  | date options =>
      refine List.mem_append_right _ (List.mem_flatMap.2 ⟨options.date, hlength _, ?_⟩)
      exact List.mem_map.2 ⟨options.time, hlength _, rfl⟩

inductive FormatterRequest where
  | pluralRules (type : PluralType)
  | decimalFormat (grouping : Bool)
  | number (n : Number)
  | instant (t : Instant)
  | category (n : Number)

inductive FormatterAnswer where
  | rules (answer : Except FormatError PluralRules)
  | format (answer : Except FormatError DecimalFormat)
  | text (answer : Except FormatError String)
  | category (answer : Except FormatError PluralCategory)

def Instant.isShown (t : Instant) : Bool :=
  t.hasDate && decide (-9999 ≤ t.utcDate.year ∧ t.utcDate.year ≤ 9999)

/-- The formatter that a request needs, if it comes to that. -/
def FormatterRequest.key? : FormatterRequest → Option FormatterKey
  | .pluralRules type => some (.plural type)
  | .decimalFormat grouping => some (.decimal grouping)
  | .number n =>
    (FormatterTables.numeral? n.options (FormatterTables.scaled n)).map fun _ =>
      .decimal n.options.useGrouping
  | .instant t => if t.isShown then some (.date t.options) else none
  | .category n =>
    (FormatterTables.numeral? { n.options with style := .decimal } n.value).map fun _ =>
      .plural n.options.pluralType

def FormatterSource.makes (source : FormatterSource) (l : Locale) : FormatterKey → Bool
  | .plural type => (source.pluralRules l type).isOk
  | .decimal grouping => (source.decimalFormat l grouping).isOk
  | .date options => (source.dateFormat l options).isOk

/-- The formatters that some requests need and that can be made. -/
def FormatterSource.built (source : FormatterSource) (l : Locale)
    (requests : List FormatterRequest) : Finset FormatterKey :=
  ((requests.filterMap FormatterRequest.key?).filter (source.makes l)).toFinset

namespace FormatterTables

variable {source : FormatterSource}

def serve (r : FormatterRequest) (c : FormatterTables source) :
    FormatterAnswer × FormatterTables source :=
  match r with
  | .pluralRules type => ((c.pluralRules type).map .rules id)
  | .decimalFormat grouping => ((c.decimalFormat grouping).map .format id)
  | .number n => ((c.formatNumber n).map .text id)
  | .instant t => ((c.formatInstant t).map .text id)
  | .category n => ((c.pluralCategory n).map .category id)

def serveAll (requests : List FormatterRequest) (c : FormatterTables source) :
    FormatterTables source :=
  requests.foldl (fun c r => (c.serve r).2) c

/-! ## One formatter -/

def need (c : FormatterTables source) : FormatterKey → FormatterTables source
  | .plural type => (c.pluralRules type).2
  | .decimal grouping => (c.decimalFormat grouping).2
  | .date options => (c.dateFormat options).2

def keys (c : FormatterTables source) : List FormatterKey :=
  c.plurals.keys.map .plural ++ c.decimals.keys.map .decimal ++ c.dates.keys.map .date

theorem nodup_keys (c : FormatterTables source) : c.keys.Nodup := by
  have hplurals : (c.plurals.keys.map FormatterKey.plural).Nodup :=
    c.plurals.distinct.map fun _ _ h => FormatterKey.plural.inj h
  have hdecimals : (c.decimals.keys.map FormatterKey.decimal).Nodup :=
    c.decimals.distinct.map fun _ _ h => FormatterKey.decimal.inj h
  have hdates : (c.dates.keys.map FormatterKey.date).Nodup :=
    c.dates.distinct.map fun _ _ h => FormatterKey.date.inj h
  have hfirst : (c.plurals.keys.map FormatterKey.plural ++
      c.decimals.keys.map FormatterKey.decimal).Nodup := by
    refine List.nodup_append.2 ⟨hplurals, hdecimals, ?_⟩
    intro a ha b hb
    obtain ⟨x, -, rfl⟩ := List.mem_map.1 ha
    obtain ⟨y, -, rfl⟩ := List.mem_map.1 hb
    simp
  refine List.nodup_append.2 ⟨hfirst, hdates, ?_⟩
  intro a ha b hb
  obtain ⟨y, -, rfl⟩ := List.mem_map.1 hb
  rcases List.mem_append.1 ha with ha | ha
  · obtain ⟨x, -, rfl⟩ := List.mem_map.1 ha
    simp
  · obtain ⟨x, -, rfl⟩ := List.mem_map.1 ha
    simp

theorem locale_need (c : FormatterTables source) (key : FormatterKey) :
    (c.need key).locale = c.locale := by
  cases key <;> rfl

/-- A formatter that was needed is kept exactly if it can be made. -/
theorem mem_keys_need {c : FormatterTables source} {key x : FormatterKey} :
    x ∈ (c.need key).keys ↔ x ∈ c.keys ∨ (x = key ∧ source.makes c.locale key) := by
  cases key with
  | plural type =>
      cases x <;> simp [keys, Memo.mem_keys_get, FormatterSource.makes, need,
        pluralRules]
  | decimal grouping =>
      cases x <;> simp [keys, Memo.mem_keys_get, FormatterSource.makes, need,
        decimalFormat]
  | date options =>
      cases x <;> simp [keys, Memo.mem_keys_get, FormatterSource.makes, need,
        dateFormat]

/-- As many formatters were made as are kept. -/
def Counted (c : FormatterTables source) : Prop := c.constructed = c.keys.length

theorem counted_fresh (l : Locale) : (fresh l : FormatterTables source).Counted := rfl

theorem Counted.need {c : FormatterTables source} (h : c.Counted) (key : FormatterKey) :
    (c.need key).Counted := by
  unfold Counted at h ⊢
  cases key with
  | plural type =>
      have hkeys := c.plurals.length_keys_get type
      simp [keys, FormatterTables.need, pluralRules, countIf, hkeys] at h ⊢
      split <;> omega
  | decimal grouping =>
      have hkeys := c.decimals.length_keys_get grouping
      simp [keys, FormatterTables.need, decimalFormat, countIf, hkeys] at h ⊢
      split <;> omega
  | date options =>
      have hkeys := c.dates.length_keys_get options
      simp [keys, FormatterTables.need, dateFormat, countIf, hkeys] at h ⊢
      split <;> omega

theorem constructed_le_need (c : FormatterTables source) (key : FormatterKey) :
    c.constructed ≤ (c.need key).constructed := by
  have hcount (made : Bool) : c.constructed ≤ countIf made c.constructed := by
    unfold countIf
    split <;> omega
  cases key <;> exact hcount _

/-! ## One request -/

theorem numeral?_eq_none_of_special {o : NumberOptions} {x : Binary64} {text : String}
    (h : specialText? x = some text) : numeral? o x = none := by
  cases x <;> simp_all [specialText?, numeral?]

theorem numeral?_eq_none_of_not_finite {o : NumberOptions} {x : Binary64}
    (h : x.isFinite = false) : numeral? o x = none := by
  cases x <;> simp_all [Binary64.isFinite, numeral?]

theorem formatNumber_snd (n : Number) (c : FormatterTables source) :
    (c.formatNumber n).2 = ((FormatterRequest.number n).key?.map c.need).getD c := by
  unfold formatNumber FormatterRequest.key?
  dsimp only
  cases hspecial : specialText? (scaled n) with
  | some text => simp [numeral?_eq_none_of_special hspecial]
  | none => cases numeral? n.options (scaled n) <;> rfl

theorem formatInstant_snd (t : Instant) (c : FormatterTables source) :
    (c.formatInstant t).2 = ((FormatterRequest.instant t).key?.map c.need).getD c := by
  unfold formatInstant FormatterRequest.key? Instant.isShown
  cases hdate : t.hasDate with
  | false => simp [hdate]
  | true =>
      by_cases hyear : t.utcDate.year < -9999 ∨ 9999 < t.utcDate.year
      · have hout : ¬(-9999 ≤ t.utcDate.year ∧ t.utcDate.year ≤ 9999) := by omega
        simp [hdate, hyear, hout]
      · have hin : -9999 ≤ t.utcDate.year ∧ t.utcDate.year ≤ 9999 := by omega
        simp [hdate, hyear, hin, FormatterTables.need]

theorem pluralCategory_snd (n : Number) (c : FormatterTables source) :
    (c.pluralCategory n).2 = ((FormatterRequest.category n).key?.map c.need).getD c := by
  unfold pluralCategory FormatterRequest.key?
  cases hspecial : specialText? n.value with
  | some text => simp [numeral?_eq_none_of_special hspecial]
  | none =>
      dsimp only
      cases numeral? { n.options with style := .decimal } n.value <;> rfl

/-- A request leaves the tables as they are unless it needs a formatter. -/
theorem serve_snd (r : FormatterRequest) (c : FormatterTables source) :
    (c.serve r).2 = (r.key?.map c.need).getD c := by
  cases r with
  | pluralRules type => rfl
  | decimalFormat grouping => rfl
  | number n => exact formatNumber_snd n c
  | instant t => exact formatInstant_snd t c
  | category n => exact pluralCategory_snd n c

theorem serve_fst (r : FormatterRequest) (c : FormatterTables source) :
    (c.serve r).1 = ((fresh c.locale : FormatterTables source).serve r).1 := by
  cases r with
  | pluralRules type => simp [serve, pluralRules_fst]
  | decimalFormat grouping => simp [serve, decimalFormat_fst]
  | number n => simp [serve, c.formatNumber_fst n]
  | instant t => simp [serve, c.formatInstant_fst t]
  | category n => simp [serve, c.pluralCategory_fst n]

/-- A formatter that cannot be made leaves no trace. -/
theorem need_of_not_makes {c : FormatterTables source} {key : FormatterKey}
    (h : source.makes c.locale key = false) : c.need key = c := by
  cases key with
  | plural type =>
      cases hmake : source.pluralRules c.locale type with
      | ok rules => simp [FormatterSource.makes, hmake, Except.isOk, Except.toBool] at h
      | error reason => simp [need, pluralRules, Memo.get_of_error hmake, countIf]
  | decimal grouping =>
      cases hmake : source.decimalFormat c.locale grouping with
      | ok format => simp [FormatterSource.makes, hmake, Except.isOk, Except.toBool] at h
      | error reason => simp [need, decimalFormat, Memo.get_of_error hmake, countIf]
  | date options =>
      cases hmake : source.dateFormat c.locale options with
      | ok format => simp [FormatterSource.makes, hmake, Except.isOk, Except.toBool] at h
      | error reason => simp [need, dateFormat, Memo.get_of_error hmake, countIf]

/-- A request changes the tables only by a formatter that it needs and that can be made. -/
theorem serve_unchanged {r : FormatterRequest} {c : FormatterTables source}
    (h : ∀ key, r.key? = some key → source.makes c.locale key = false) : (c.serve r).2 = c := by
  rw [serve_snd]
  cases hkey : r.key? with
  | none => rfl
  | some key => exact need_of_not_makes (h key hkey)

/-! ## Any number of requests -/

/-- What every formatter that is needed keeps, all requests keep. -/
theorem serveAll_induction {P : FormatterTables source → Prop}
    (hneed : ∀ c key, P c → P (c.need key)) (requests : List FormatterRequest)
    {c : FormatterTables source} (hc : P c) : P (c.serveAll requests) := by
  induction requests generalizing c with
  | nil => exact hc
  | cons r rest ih =>
      have hserved : P (c.serve r).2 := by
        rw [serve_snd]
        cases r.key? with
        | none => exact hc
        | some key => exact hneed c key hc
      exact ih hserved

theorem locale_serveAll (requests : List FormatterRequest) (c : FormatterTables source) :
    (c.serveAll requests).locale = c.locale :=
  serveAll_induction (fun d key h => (d.locale_need key).trans h) requests rfl

theorem Counted.serveAll {c : FormatterTables source} (h : c.Counted)
    (requests : List FormatterRequest) : (c.serveAll requests).Counted :=
  serveAll_induction (fun _ key hd => hd.need key) requests h

theorem constructed_le_serveAll (requests : List FormatterRequest) (c : FormatterTables source) :
    c.constructed ≤ (c.serveAll requests).constructed :=
  serveAll_induction (fun d key h => Nat.le_trans h (d.constructed_le_need key)) requests
    (Nat.le_refl _)

theorem mem_built {l : Locale} {requests : List FormatterRequest} {x : FormatterKey} :
    x ∈ source.built l requests ↔
      (∃ r ∈ requests, r.key? = some x) ∧ source.makes l x = true := by
  simp [FormatterSource.built]

theorem mem_keys_serve {c : FormatterTables source} {r : FormatterRequest} {x : FormatterKey} :
    x ∈ (c.serve r).2.keys ↔ x ∈ c.keys ∨ (r.key? = some x ∧ source.makes c.locale x) := by
  rw [serve_snd]
  cases r.key? with
  | none => simp
  | some key =>
      simp only [Option.map_some, Option.getD_some, mem_keys_need, Option.some.injEq]
      constructor
      · rintro (hx | ⟨rfl, hmakes⟩)
        · exact .inl hx
        · exact .inr ⟨rfl, hmakes⟩
      · rintro (hx | ⟨rfl, hmakes⟩)
        · exact .inl hx
        · exact .inr ⟨rfl, hmakes⟩

/-- What is kept was needed and could be made. -/
theorem mem_keys_serveAll {requests : List FormatterRequest} {c : FormatterTables source}
    {x : FormatterKey} :
    x ∈ (c.serveAll requests).keys ↔ x ∈ c.keys ∨ x ∈ source.built c.locale requests := by
  induction requests generalizing c with
  | nil => simp [serveAll, mem_built]
  | cons r rest ih =>
      have hlocale : (c.serve r).2.locale = c.locale := locale_serveAll [r] c
      have hrest : x ∈ (c.serveAll (r :: rest)).keys ↔
          x ∈ (c.serve r).2.keys ∨ x ∈ source.built c.locale rest := by
        rw [← hlocale]
        exact ih
      rw [hrest, mem_keys_serve, mem_built, mem_built]
      simp only [List.exists_mem_cons_iff]
      tauto

theorem constructed_serveAll_fresh (l : Locale) (requests : List FormatterRequest) :
    ((fresh l : FormatterTables source).serveAll requests).constructed =
      (source.built l requests).card := by
  let c : FormatterTables source := (fresh l).serveAll requests
  have hcounted : c.constructed = c.keys.length := (counted_fresh l).serveAll requests
  have hkeys : c.keys.toFinset = source.built l requests := by
    ext x
    have hfresh : x ∉ (fresh l : FormatterTables source).keys := List.not_mem_nil
    rw [List.mem_toFinset, mem_keys_serveAll]
    exact or_iff_right hfresh
  calc
    c.constructed = c.keys.length := hcounted
    _ = c.keys.toFinset.card := (List.toFinset_card_of_nodup c.nodup_keys).symm
    _ = (source.built l requests).card := by rw [hkeys]

theorem constructed_le (l : Locale) (requests : List FormatterRequest) :
    ((fresh l : FormatterTables source).serveAll requests).constructed ≤ 29 := by
  let c : FormatterTables source := (fresh l).serveAll requests
  have hcounted : c.constructed = c.keys.length := (counted_fresh l).serveAll requests
  have hall : c.keys ⊆ FormatterKey.all := fun key _ => key.mem_all
  have hlength : c.keys.length ≤ 29 := (List.subperm_of_subset c.nodup_keys hall).length_le
  exact hcounted ▸ hlength

theorem isFinite_scaled_of_not_finite {n : Number} (h : n.value.isFinite = false) :
    (scaled n).isFinite = false := by
  unfold scaled
  cases n.options.style with
  | decimal => exact h
  | percent =>
      cases hvalue : n.value with
      | nan => rfl
      | infinite negative => rfl
      | finite negative x => simp [hvalue, Binary64.isFinite] at h

/-- The formatters of a locale, whatever it takes to make them, answer any request after any others
as if it were the first. The count of those that were made never goes down; it is the number of
different formatters that the requests needed and that could be made, and so at most 29. A request
that needs no formatter, or one that cannot be made, changes nothing: so it is with numbers that are
not finite, or are not any more as a percentage, and with instants that have no date to show. -/
theorem served_like_fresh_and_counted (source : FormatterSource) (l : Locale)
    (requests : List FormatterRequest) :
    let new : FormatterTables source := fresh l
    let c := new.serveAll requests
    (∀ r, (c.serve r).1 = (new.serve r).1) ∧
    (∀ more, c.constructed ≤ (c.serveAll more).constructed) ∧
    c.constructed = (source.built l requests).card ∧
    c.constructed ≤ 29 ∧
    (∀ r, (∀ key, r.key? = some key → source.makes l key = false) → (c.serve r).2 = c) ∧
    (∀ n, n.value.isFinite = false ∨ (scaled n).isFinite = false →
      (c.serve (.number n)).2 = c) ∧
    (∀ n, n.value.isFinite = false → (c.serve (.category n)).2 = c) ∧
    ∀ t, t.isShown = false → (c.serve (.instant t)).2 = c := by
  intro new c
  have hlocale : c.locale = l := locale_serveAll requests new
  have hneedless (r : FormatterRequest) (h : r.key? = none) : (c.serve r).2 = c :=
    serve_unchanged fun key hkey => by simp [h] at hkey
  refine ⟨fun r => ?_, fun more => constructed_le_serveAll more c,
    constructed_serveAll_fresh l requests, constructed_le l requests, fun r h => ?_, fun n h => ?_,
    fun n h => ?_, fun t h => ?_⟩
  · rw [serve_fst, hlocale]
  · exact serve_unchanged fun key hkey => hlocale.symm ▸ h key hkey
  · have hscaled : (scaled n).isFinite = false := h.elim isFinite_scaled_of_not_finite id
    exact hneedless _ (by simp [FormatterRequest.key?, numeral?_eq_none_of_not_finite hscaled])
  · exact hneedless _ (by simp [FormatterRequest.key?, numeral?_eq_none_of_not_finite h])
  · exact hneedless _ (by simp [FormatterRequest.key?, h])

/-- A percentage is shown with the format for other numbers, and infinity with none. -/
example :
    let requests : List FormatterRequest :=
      [.number ⟨.infinite false, {}⟩, .number ⟨.ofInt 2, {}⟩,
        .number ⟨.ofInt 2, { style := .percent }⟩, .category ⟨.ofInt 2, {}⟩]
    ((fresh .und : FormatterTables .library).serveAll requests).constructed = 2 := by
  decide +kernel

end FormatterTables

end Phrasebook
