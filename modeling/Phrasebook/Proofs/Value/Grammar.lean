import Phrasebook.Proofs.Value.Reading
import Phrasebook.Proofs.Value.Written
import Phrasebook.Value

/-!
# Which texts are numbers

A text is read as a number exactly where it writes one: a sign or none, then digits with perhaps a
point and more digits behind it, or a point and digits, with blanks around it all. These are the
texts of the general format of floating point that hold digits, signs and points only. Any other
text is kept as it is.
-/

namespace Phrasebook

namespace Number

/-! ## Texts of numbers -/

def AllDigits (cs : List Char) : Prop := ∀ c ∈ cs, c.isDigit = true

instance (cs : List Char) : Decidable (AllDigits cs) :=
  decidable_of_iff (cs.all Char.isDigit = true) List.all_eq_true

/-- A number without a sign, and how many digits stand behind its point. -/
inductive Unsigned : List Char → Nat → Prop where
  | whole {integer : List Char} : integer ≠ [] → AllDigits integer → Unsigned integer 0
  | pointed {integer fraction : List Char} :
      integer ≠ [] → AllDigits integer → AllDigits fraction →
        Unsigned (integer ++ '.' :: fraction) fraction.length
  | fraction {fraction : List Char} :
      fraction ≠ [] → AllDigits fraction → Unsigned ('.' :: fraction) fraction.length

inductive Signed (Rest : List Char → Prop) : List Char → Prop where
  | bare {cs : List Char} : Rest cs → Signed Rest cs
  | minus {cs : List Char} : Rest cs → Signed Rest ('-' :: cs)
  | plus {cs : List Char} : Rest cs → Signed Rest ('+' :: cs)

/-- The text is a number with so many digits behind the point, apart from blanks around it. -/
def Writes (cs : List Char) (places : Nat) : Prop :=
  ∃ before core after, cs = before ++ core ++ after ∧
    (∀ c ∈ before, Text.isBlank c = true) ∧ (∀ c ∈ after, Text.isBlank c = true) ∧
    Signed (Unsigned · places) core

/-- What floating-point numbers without a sign are written as in general: a word for an infinity or
for what is no number, in letters of either case, or a number with perhaps a power of ten. -/
inductive Floating : List Char → Prop where
  | word {cs : List Char} :
      String.ofList (cs.map Char.toLower) ∈ ["inf", "infinity", "nan"] → Floating cs
  | number {cs : List Char} {places : Nat} : Unsigned cs places → Floating cs
  | power {cs exponent : List Char} {places : Nat} {e : Char} :
      Unsigned cs places → e = 'e' ∨ e = 'E' →
        Signed (fun ds => ds ≠ [] ∧ AllDigits ds) exponent → Floating (cs ++ e :: exponent)

/-! ## Digits and signs -/

theorem isSome_digits?_iff {cs : List Char} : (digits? cs).isSome ↔ AllDigits cs := by
  unfold digits? AllDigits
  induction cs with
  | nil => simp
  | cons c cs ih =>
      rw [List.forall_mem_cons, ← ih, List.mapM_cons]
      by_cases hc : c.isDigit = true
      · have hdigit : Digit.ofChar? c = some (Fin.ofNat 10 (c.toNat - 48)) := if_pos hc
        rw [hdigit]
        cases List.mapM Digit.ofChar? cs <;> simp [hc]
      · have hnone : Digit.ofChar? c = none := if_neg hc
        simp [hnone, hc]

theorem length_digits? {cs : List Char} {ds : List Digit} (h : digits? cs = some ds) :
    ds.length = cs.length := by
  unfold digits? at h
  induction cs generalizing ds with
  | nil =>
      cases h
      rfl
  | cons c cs ih =>
      rw [List.mapM_cons] at h
      obtain ⟨d, -, h⟩ := Option.bind_eq_some_iff.1 h
      obtain ⟨rest, hrest, h⟩ := Option.bind_eq_some_iff.1 h
      cases h
      rw [List.length_cons, List.length_cons, ih hrest]

theorem isEmpty_digits? {cs : List Char} {ds : List Digit} (h : digits? cs = some ds) :
    ds.isEmpty = true ↔ cs = [] := by
  rw [List.isEmpty_iff_length_eq_zero, length_digits? h, List.length_eq_zero_iff]

theorem ne_point_of_isDigit {c : Char} (h : c.isDigit = true) : (c != '.') = true := by
  by_contra hc
  obtain rfl : c = '.' := by simpa using hc
  exact absurd h (by decide)

theorem ne_sign_of_isDigit {c : Char} (h : c.isDigit = true) : c ≠ '-' ∧ c ≠ '+' := by
  constructor
  · rintro rfl
    exact absurd h (by decide)
  · rintro rfl
    exact absurd h (by decide)

theorem AllDigits.takeWhile_append {integer : List Char} (h : AllDigits integer)
    (rest : List Char) :
    (integer ++ rest).takeWhile (· != '.') = integer ++ rest.takeWhile (· != '.') :=
  List.takeWhile_append_of_pos fun c hc => ne_point_of_isDigit (h c hc)

theorem AllDigits.dropWhile_append {integer : List Char} (h : AllDigits integer)
    (rest : List Char) :
    (integer ++ rest).dropWhile (· != '.') = rest.dropWhile (· != '.') :=
  List.dropWhile_append_of_pos fun c hc => ne_point_of_isDigit (h c hc)

/-- A text is cut off in front of the first character that does not belong to it. -/
theorem not_of_dropWhile {p : Char → Bool} {c : Char} {cs rest : List Char}
    (h : cs.dropWhile p = c :: rest) : p c = false := by
  have hfirst := List.head_dropWhile_not p (l := cs) (by simp [h])
  simpa [h] using hfirst

/-- What stands before and behind the first point are digits, of which there is one at least. -/
theorem unsigned_iff {cs : List Char} {places : Nat} :
    Unsigned cs places ↔
      AllDigits (cs.takeWhile (· != '.')) ∧ AllDigits ((cs.dropWhile (· != '.')).drop 1) ∧
        ¬(cs.takeWhile (· != '.') = [] ∧ (cs.dropWhile (· != '.')).drop 1 = []) ∧
        placesOf cs = places := by
  constructor
  · intro h
    unfold placesOf
    cases h with
    | @whole integer hne hinteger =>
        have hbefore := hinteger.takeWhile_append []
        have hbehind := hinteger.dropWhile_append []
        rw [List.append_nil] at hbefore hbehind
        rw [hbefore, hbehind]
        exact ⟨by simpa using hinteger, by simp [AllDigits], by simpa using hne, rfl⟩
    | @pointed integer fraction hne hinteger hfraction =>
        rw [hinteger.takeWhile_append, hinteger.dropWhile_append]
        exact ⟨by simpa using hinteger, by simpa using hfraction, by simp [hne], by simp⟩
    | @fraction fraction hne hfraction =>
        exact ⟨by simp [AllDigits], by simpa using hfraction, by simp [hne], by simp⟩
  · rintro ⟨hinteger, hfraction, hne, rfl⟩
    unfold placesOf
    have hsplit : cs = cs.takeWhile (· != '.') ++ cs.dropWhile (· != '.') :=
      List.takeWhile_append_dropWhile.symm
    generalize cs.takeWhile (· != '.') = integer at *
    cases hbehind : cs.dropWhile (· != '.') with
    | nil =>
        rw [hbehind] at hne hsplit
        rw [hsplit, List.append_nil]
        exact .whole (by simpa using hne) hinteger
    | cons c fraction =>
        obtain rfl : c = '.' := by simpa using not_of_dropWhile hbehind
        rw [hbehind] at hsplit
        rw [hbehind] at hne hfraction
        rw [hsplit]
        by_cases hempty : integer = []
        · rw [hempty]
          exact .fraction (by simpa [hempty] using hne) hfraction
        · exact .pointed hempty hinteger hfraction

/-- A number begins with no sign of its own. -/
theorem Unsigned.head_ne_sign {c : Char} {cs : List Char} {places : Nat}
    (h : Unsigned (c :: cs) places) : c ≠ '-' ∧ c ≠ '+' := by
  obtain ⟨hinteger, -⟩ := unsigned_iff.1 h
  constructor
  · rintro rfl
    exact absurd (hinteger '-' (by simp)) (by decide)
  · rintro rfl
    exact absurd (hinteger '+' (by simp)) (by decide)

theorem Unsigned.isNumeric {cs : List Char} {places : Nat} (h : Unsigned cs places) :
    ∀ c ∈ cs, isNumeric c = true := by
  have hdigits {ds : List Char} (hds : AllDigits ds) : ∀ c ∈ ds, Number.isNumeric c = true := by
    intro c hc
    simp [Number.isNumeric, hds c hc]
  cases h with
  | whole _ hinteger => exact hdigits hinteger
  | pointed _ hinteger hfraction =>
      intro c hc
      rcases List.mem_append.1 hc with hc | hc
      · exact hdigits hinteger c hc
      · rcases List.mem_cons.1 hc with rfl | hc
        · rfl
        · exact hdigits hfraction c hc
  | fraction _ hfraction =>
      intro c hc
      rcases List.mem_cons.1 hc with rfl | hc
      · rfl
      · exact hdigits hfraction c hc

theorem isSome_significand?_iff {cs : List Char} :
    (significand? cs).isSome ↔ ∃ places, Unsigned cs places := by
  simp only [unsigned_iff, ← isSome_digits?_iff, exists_and_left, exists_eq', and_true]
  unfold significand?
  cases hinteger : digits? (cs.takeWhile (· != '.')) with
  | none => simp
  | some integer =>
      cases hfraction : digits? ((cs.dropWhile (· != '.')).drop 1) with
      | none => simp
      | some fraction =>
          -- There is a digit exactly if there is a character for one.
          have hempty : (integer.isEmpty && fraction.isEmpty) = true ↔
              cs.takeWhile (· != '.') = [] ∧ (cs.dropWhile (· != '.')).drop 1 = [] := by
            rw [Bool.and_eq_true, isEmpty_digits? hinteger, isEmpty_digits? hfraction]
          rw [← hempty]
          simp only [Option.bind_eq_bind, Option.bind_some, Option.isSome_some, true_and]
          cases integer.isEmpty && fraction.isEmpty with
          | true => simp [guard]
          | false => simp [guard]

/-- Where nothing begins with a sign of its own, the one in front is split off. -/
theorem signed_iff {P : List Char → Prop} {cs : List Char}
    (hP : ∀ c rest, P (c :: rest) → c ≠ '-' ∧ c ≠ '+') : Signed P cs ↔ P (splitSign cs).2 := by
  constructor
  · intro h
    cases h with
    | bare h =>
        cases cs with
        | nil => exact h
        | cons c rest =>
            rw [splitSign_of_no_sign (hP c rest h)]
            exact h
    | minus h => exact h
    | plus h => exact h
  · intro h
    unfold splitSign at h
    split at h
    · exact .minus h
    · exact .plus h
    · exact .bare h

theorem Signed.placesOf_eq {cs : List Char} {places : Nat} (h : Signed (Unsigned · places) cs) :
    placesOf cs = places := by
  have hunsigned := (signed_iff fun c rest => Unsigned.head_ne_sign).1 h
  rw [← placesOf_splitSign]
  exact (unsigned_iff.1 hunsigned).2.2.2

theorem Signed.imp {P Q : List Char → Prop} {cs : List Char} (hPQ : ∀ ds, P ds → Q ds)
    (h : Signed P cs) : Signed Q cs := by
  cases h with
  | bare h => exact .bare (hPQ _ h)
  | minus h => exact .minus (hPQ _ h)
  | plus h => exact .plus (hPQ _ h)

/-! ## The general format -/

theorem isBlank_of_isNumeric {c : Char} (h : isNumeric c = true) : Text.isBlank c = false := by
  obtain ⟨hlow, hhigh⟩ := toNat_of_isNumeric h
  have hblanks : ∀ r ∈ Text.blanks, r.2 ≤ 32 ∨ 133 ≤ r.1 := by decide
  have houtside : ∀ r ∈ Text.blanks, ¬(r.1 ≤ c.toNat ∧ c.toNat ≤ r.2) := by
    intro r hr
    have hr := hblanks r hr
    omega
  simpa [Text.isBlank, Text.Ranges.has] using houtside

/-- Without letters there is neither a word nor a power of ten. -/
theorem Floating.exists_unsigned {cs : List Char} (h : Floating cs)
    (hcs : ∀ c ∈ cs, isNumeric c = true) : ∃ places, Unsigned cs places := by
  cases h with
  | word h =>
      simp only [List.mem_cons, List.not_mem_nil, or_false] at h
      rcases h with h | h | h
      · exact absurd h (map_toLower_ne hcs "inf" 'i' (by decide) (by decide))
      · exact absurd h (map_toLower_ne hcs "infinity" 'i' (by decide) (by decide))
      · exact absurd h (map_toLower_ne hcs "nan" 'n' (by decide) (by decide))
  | number h => exact ⟨_, h⟩
  | power _ he _ =>
      have hletter := hcs _ (List.mem_append_right _ List.mem_cons_self)
      rcases he with rfl | rfl <;> exact absurd hletter (by decide)

theorem Floating.head_ne_sign {c : Char} {cs : List Char} (h : Floating (c :: cs)) :
    c ≠ '-' ∧ c ≠ '+' := by
  generalize hall : c :: cs = all at h
  cases h with
  | word h =>
      rw [← hall] at h
      -- The sign would be the first letter of a word.
      have hfirst (word : String) (hword : String.ofList ((c :: cs).map Char.toLower) = word) :
          word.toList.head? = some c.toLower := by
        rw [← hword, String.toList_ofList]
        rfl
      have hlower : c.toLower = 'i' ∨ c.toLower = 'n' := by
        simp only [List.mem_cons, List.not_mem_nil, or_false] at h
        rcases h with h | h | h
        · exact .inl (Option.some.inj (hfirst _ h)).symm
        · exact .inl (Option.some.inj (hfirst _ h)).symm
        · exact .inr (Option.some.inj (hfirst _ h)).symm
      constructor
      · rintro rfl
        exact absurd hlower (by decide)
      · rintro rfl
        exact absurd hlower (by decide)
  | number h =>
      rw [← hall] at h
      exact h.head_ne_sign
  | @power digits _ _ _ h _ _ =>
      cases digits with
      | nil => exact absurd ⟨rfl, rfl⟩ (unsigned_iff.1 h).2.2.1
      | cons d digits =>
          rw [List.cons_append] at hall
          rw [(List.cons.inj hall).1]
          exact h.head_ne_sign

theorem isSome_power?_iff {e : Char} {cs : List Char} :
    (power? (e :: cs)).isSome ↔ Signed (fun ds => ds ≠ [] ∧ AllDigits ds) cs := by
  rw [signed_iff fun c rest h => ne_sign_of_isDigit (h.2 c List.mem_cons_self),
    ← isSome_digits?_iff]
  unfold power?
  dsimp only
  cases hds : digits? (splitSign cs).2 with
  | none => simp
  | some ds =>
      rw [Ne, ← isEmpty_digits? hds]
      simp only [Option.bind_eq_bind, Option.bind_some, Option.isSome_some, and_true]
      cases ds.isEmpty with
      | true => simp [guard]
      | false => simp [guard]

/-- Without the words, a text of the general format is cut in two in front of the first mark for a
power of ten. -/
theorem floating_iff {cs : List Char} :
    Floating cs ↔ String.ofList (cs.map Char.toLower) ∈ ["inf", "infinity", "nan"] ∨
      (∃ places, Unsigned (cs.takeWhile (!isPowerMark ·)) places) ∧
        (power? (cs.dropWhile (!isPowerMark ·))).isSome := by
  have hmarks {ds : List Char} {places : Nat} (h : Unsigned ds places) :
      ∀ c ∈ ds, (!isPowerMark c) = true := by
    intro c hc
    rw [isPowerMark_of_isNumeric (h.isNumeric c hc)]
    rfl
  constructor
  · intro h
    cases h with
    | word h => exact .inl h
    | number h =>
        rw [List.takeWhile_eq_self_iff.2 (hmarks h), List.dropWhile_eq_nil_iff.2 (hmarks h)]
        exact .inr ⟨⟨_, h⟩, rfl⟩
    | @power ds exponent places e h he hexponent =>
        have hmark : isPowerMark e = true := by rcases he with rfl | rfl <;> rfl
        have htake : (e :: exponent).takeWhile (!isPowerMark ·) = [] :=
          List.takeWhile_cons_of_neg (by simp [hmark])
        have hdrop : (e :: exponent).dropWhile (!isPowerMark ·) = e :: exponent :=
          List.dropWhile_cons_of_neg (by simp [hmark])
        rw [List.takeWhile_append_of_pos (hmarks h), List.dropWhile_append_of_pos (hmarks h),
          htake, hdrop, List.append_nil]
        exact .inr ⟨⟨_, h⟩, isSome_power?_iff.2 hexponent⟩
  · rintro (h | ⟨⟨places, h⟩, hpower⟩)
    · exact .word h
    · have hsplit : cs.takeWhile (!isPowerMark ·) ++ cs.dropWhile (!isPowerMark ·) = cs :=
        List.takeWhile_append_dropWhile
      cases hbehind : cs.dropWhile (!isPowerMark ·) with
      | nil =>
          rw [hbehind, List.append_nil] at hsplit
          rw [hsplit] at h
          exact .number h
      | cons e exponent =>
          have hmark : isPowerMark e = true := by simpa using not_of_dropWhile hbehind
          rw [hbehind] at hpower hsplit
          rw [← hsplit]
          exact .power h (by simpa [isPowerMark] using hmark) (isSome_power?_iff.1 hpower)

/-- Values are read of the texts of the general format. -/
theorem isSome_float?_iff {cs : List Char} : (float? cs).isSome ↔ Signed Floating cs := by
  rw [signed_iff fun c rest => Floating.head_ne_sign, floating_iff, ← isSome_significand?_iff]
  unfold float?
  dsimp only
  split_ifs with hinfinite hnan
  · rcases hinfinite with h | h <;> simp [h]
  · simp [hnan]
  · have hword : String.ofList ((splitSign cs).2.map Char.toLower) ∉
        ["inf", "infinity", "nan"] := by
      simp only [List.mem_cons, List.not_mem_nil, or_false]
      exact fun h => h.elim (fun h => hinfinite (.inl h))
        fun h => h.elim (fun h => hinfinite (.inr h)) hnan
    simp only [hword, false_or]
    cases significand? ((splitSign cs).2.takeWhile (!isPowerMark ·)) with
    | none => simp
    | some ds => cases power? ((splitSign cs).2.dropWhile (!isPowerMark ·)) <;> simp

/-- The numbers are what the general format has without letters. -/
theorem exists_signed_iff_floating {cs : List Char} :
    (∃ places, Signed (Unsigned · places) cs) ↔
      Signed Floating cs ∧ ∀ c ∈ cs, isNumeric c = true := by
  constructor
  · rintro ⟨places, h⟩
    refine ⟨h.imp fun _ => .number, ?_⟩
    cases h with
    | bare h => exact h.isNumeric
    | minus h => exact List.forall_mem_cons.2 ⟨rfl, h.isNumeric⟩
    | plus h => exact List.forall_mem_cons.2 ⟨rfl, h.isNumeric⟩
  · rintro ⟨h, hcs⟩
    cases h with
    | bare h =>
        obtain ⟨places, h⟩ := h.exists_unsigned hcs
        exact ⟨places, .bare h⟩
    | minus h =>
        obtain ⟨places, h⟩ := h.exists_unsigned (List.forall_mem_cons.1 hcs).2
        exact ⟨places, .minus h⟩
    | plus h =>
        obtain ⟨places, h⟩ := h.exists_unsigned (List.forall_mem_cons.1 hcs).2
        exact ⟨places, .plus h⟩

/-! ## Texts -/

/-- Blanks around a number are what is cut off before it is read. -/
theorem writes_iff_trim {cs : List Char} {places : Nat} :
    Writes cs places ↔ Signed (Unsigned · places) (Text.trim cs) := by
  constructor
  · rintro ⟨before, core, after, rfl, hbefore, hafter, h⟩
    have hnumeric := (exists_signed_iff_floating.1 ⟨places, h⟩).2
    have hne : core ≠ [] := by
      rintro rfl
      cases h with
      | bare h => exact (unsigned_iff.1 h).2.2.1 ⟨rfl, rfl⟩
    rw [Text.trim_surrounded hne hbefore hafter fun c hc => isBlank_of_isNumeric (hnumeric c hc)]
    exact h
  · intro h
    obtain ⟨before, after, hcs, hbefore, hafter⟩ := Text.exists_blanks_trim cs
    exact ⟨before, Text.trim cs, after, hcs, hbefore, hafter, h⟩

/-- A number is read where the text is of the general format and has the characters of numbers
only. -/
theorem isSome_parse?_iff_floating {text : String} :
    (parse? text).isSome ↔ Signed Floating (Text.trim text.toList) ∧
      ∀ c ∈ Text.trim text.toList, isNumeric c = true := by
  rw [← isSome_float?_iff, Option.isSome_iff_exists, Option.isSome_iff_exists]
  simp only [parse?_eq_some_iff]
  constructor
  · rintro ⟨n, -, hnumeric, value, hvalue, -⟩
    exact ⟨⟨value, hvalue⟩, hnumeric⟩
  · rintro ⟨⟨value, hvalue⟩, hnumeric⟩
    refine ⟨_, ?_, hnumeric, value, hvalue, rfl⟩
    intro hempty
    rw [hempty] at hvalue
    cases hvalue

theorem isSome_parse?_iff {text : String} :
    (parse? text).isSome ↔ ∃ places, Writes text.toList places := by
  simp only [writes_iff_trim]
  rw [isSome_parse?_iff_floating, exists_signed_iff_floating]

/-- A count of fraction digits that fits into a word is kept, unless it is zero. -/
theorem options_withPrecision {value : Binary64} {places : Nat} (h : places < twoPow 64) :
    (withPrecision value (UInt64.ofNat places)).options =
      { minimumFractionDigits := if places = 0 then none else some (UInt64.ofNat places) } := by
  have hpos : 0 < UInt64.ofNat places ↔ ¬places = 0 := by
    rw [UInt64.lt_iff_toNat_lt, UInt64.toNat_ofNat_of_lt' h]
    exact Nat.pos_iff_ne_zero
  unfold withPrecision
  by_cases hzero : places = 0
  · rw [if_neg fun hlt => hpos.1 hlt hzero, if_pos hzero]
  · rw [if_pos (hpos.2 hzero), if_neg hzero]

theorem Writes.exists_parse? {text : String} {places : Nat} (h : Writes text.toList places) :
    ∃ n, parse? text = some n ∧ n.value ≠ .nan ∧
      (places < twoPow 64 → n.options =
        { minimumFractionDigits := if places = 0 then none else some (UInt64.ofNat places) }) := by
  obtain ⟨n, hn⟩ := Option.isSome_iff_exists.1 (isSome_parse?_iff.2 ⟨places, h⟩)
  have hplaces : writtenPlaces text = places := (writes_iff_trim.1 h).placesOf_eq
  obtain ⟨negative, significand, rfl⟩ := parse?_eq_some hn
  rw [hplaces] at hn
  refine ⟨_, hn, ?_, options_withPrecision⟩
  change Binary64.ofDecimal negative _ ≠ .nan
  rcases Binary64.ofDecimal_cases negative ⟨significand, -(places : Int)⟩ with hvalue | ⟨x, hvalue⟩
  · rw [hvalue]
    simp
  · rw [hvalue]
    simp

/-- A text is read as a number exactly where it writes one with blanks around it, which is where the
text without these blanks is in the general format and has no letters. Then the number asks for the
fraction digits that are written and for nothing else, if their count fits into a word, and it has a
value. Every other text stays the text that it is, blanks included. -/
theorem texts_of_numbers_are_read {γ : Type} (text : String) :
    let core := Text.trim text.toList
    ((parse? text).isSome ↔ ∃ places, Writes text.toList places) ∧
    ((parse? text).isSome ↔ Signed Floating core ∧ ∀ c ∈ core, isNumeric c = true) ∧
    (∀ places, Writes text.toList places →
      ∃ n, parse? text = some n ∧ (Value.ofText text : Value γ) = .number n ∧ n.value ≠ .nan ∧
        (places < twoPow 64 → n.options =
          { minimumFractionDigits := if places = 0 then none else some (UInt64.ofNat places) })) ∧
    ((∀ places, ¬Writes text.toList places) →
      parse? text = none ∧ (Value.ofText text : Value γ) = .text text) := by
  intro core
  refine ⟨isSome_parse?_iff, isSome_parse?_iff_floating, fun places h => ?_, fun h => ?_⟩
  · obtain ⟨n, hn, hvalue, hoptions⟩ := h.exists_parse?
    exact ⟨n, hn, by rw [Value.ofText, hn], hvalue, hoptions⟩
  · have hnone : parse? text = none := by
      rw [← Option.not_isSome_iff_eq_none, isSome_parse?_iff]
      exact fun ⟨places, hplaces⟩ => h places hplaces
    exact ⟨hnone, by rw [Value.ofText, hnone]⟩

/-- Blanks and a sign do not keep a number from being read; a power of ten does. -/
theorem signed_read_powers_kept :
    Writes " +1.50 ".toList 2 ∧ 2 < twoPow 64 ∧
      (∃ n, parse? " +1.50 " = some n ∧ (Value.ofText " +1.50 " : Value Empty) = .number n ∧
        n.options = { minimumFractionDigits := some 2 }) ∧
      (∀ places, ¬Writes "1e5 ".toList places) ∧
      (Value.ofText "1e5 " : Value Empty) = .text "1e5 " := by
  have hwrites : Writes " +1.50 ".toList 2 :=
    ⟨[' '], "+1.50".toList, [' '], rfl, List.forall_mem_singleton.2 rfl,
      List.forall_mem_singleton.2 rfl,
      .plus (@Unsigned.pointed ['1'] ['5', '0'] (by decide) (by decide) (by decide))⟩
  have hfits : 2 < twoPow 64 := by decide
  obtain ⟨-, -, hread, -⟩ := @texts_of_numbers_are_read Empty " +1.50 "
  obtain ⟨n, hn, hvalue, -, hoptions⟩ := hread 2 hwrites
  obtain ⟨haccepts, -, -, hkept⟩ := @texts_of_numbers_are_read Empty "1e5 "
  have hnot : ∀ places, ¬Writes "1e5 ".toList places := fun places hplaces =>
    absurd (haccepts.2 ⟨places, hplaces⟩) (by decide)
  exact ⟨hwrites, hfits, ⟨n, hn, hvalue, hoptions hfits⟩, hnot, (hkept hnot).2⟩

end Number

end Phrasebook
