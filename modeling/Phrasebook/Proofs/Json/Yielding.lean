import Phrasebook.Json.Reader
import Phrasebook.Proofs.Json.Figures

/-!
# What readers make of written scalars

A reader yields a value from a text when it gives that value and leaves what follows, wherever in a
document it starts. Words, strings and numbers are yielded from what the writer puts down for them,
if behind a number stands nothing that would go on with it.
-/

namespace Phrasebook.Json.Reader

variable {α β σ : Type} {before mid after : List Char} {a : α} {b : β}

/-! ## Yielding -/

/-- With `before` ahead the reader gives `a` and leaves `after` ahead. -/
def Yields (reader : Reader α) (before : List Char) (a : α) (after : List Char) : Prop :=
  ∀ s : Cursor, s.rest = before → ∃ t : Cursor, reader s = .ok a t ∧ t.rest = after

theorem yields_pure (a : α) (rest : List Char) : Yields (pure a) rest a rest :=
  fun s hs => ⟨s, rfl, hs⟩

theorem Yields.bind {m : Reader β} {next : β → Reader α} (hm : Yields m before b mid)
    (hnext : Yields (next b) mid a after) : Yields (m >>= next) before a after := by
  intro s hs
  obtain ⟨t, hrun, ht⟩ := hm s hs
  obtain ⟨u, hrun', hu⟩ := hnext t ht
  refine ⟨u, ?_, hu⟩
  change EStateM.bind m next s = _
  simp only [EStateM.bind, hrun, hrun']

theorem Yields.map {m : Reader β} (f : β → α) (hm : Yields m before b after) :
    Yields (f <$> m) before (f b) after := by
  intro s hs
  obtain ⟨t, hrun, ht⟩ := hm s hs
  refine ⟨t, ?_, ht⟩
  change EStateM.map f m s = _
  simp only [EStateM.map, hrun]

theorem yields_peek? (rest : List Char) : Yields peek? rest rest.head? rest := by
  rintro s rfl
  exact ⟨s, rfl, rfl⟩

theorem bind_peek? (next : Option Char → Reader α) (s : Cursor) :
    (peek? >>= next) s = next s.rest.head? s := rfl

theorem yields_steps (rest : List Char) : Yields steps rest (2 * rest.length + 2) rest := by
  rintro s rfl
  exact ⟨s, rfl, rfl⟩

theorem rest_pass (s : Cursor) (c : Char) (rest : List Char) : (s.pass c rest).rest = rest := by
  unfold Cursor.pass
  split <;> rfl

theorem yields_skip (c : Char) (rest : List Char) : Yields skip (c :: rest) () rest := by
  intro s hs
  refine ⟨s.pass c rest, ?_, rest_pass s c rest⟩
  simp only [skip, hs]

/-- Nothing stands between the parts of what the writer puts down. -/
theorem yields_next? {c : Char} (hc : isGap c = false) (rest : List Char) :
    Yields next? (c :: rest) (some c) (c :: rest) := by
  intro s hs
  refine ⟨s, ?_, hs⟩
  simp [next?, hs, overGap, hc]

theorem yields_next?_nil : Yields next? [] none [] := by
  intro s hs
  refine ⟨s, ?_, hs⟩
  simp [next?, hs, overGap]

theorem yields_closedBy {body : Reader α} {close : Reader Unit} (hbody : Yields body before a mid)
    (hclose : Yields close mid () after) : Yields (closedBy body close) before a after := by
  intro s hs
  obtain ⟨t, hrun, ht⟩ := hbody s hs
  obtain ⟨u, hrun', hu⟩ := hclose t ht
  exact ⟨u, by simp only [closedBy, hrun, hrun'], hu⟩

theorem yields_ofExcept {r : Except Cause α} (hr : r = .ok a) (rest : List Char) :
    Yields (ofExcept r) rest a rest := by
  rw [hr]
  exact yields_pure a rest

theorem yields_word (cs rest : List Char) : Yields (word cs) (cs ++ rest) () rest := by
  induction cs with
  | nil => exact yields_pure () rest
  | cons c cs ih =>
      refine (yields_peek? _).bind ?_
      simp only [List.cons_append, List.head?_cons, if_true]
      exact (yields_skip c _).bind ih

/-! ## Digits -/

def EndsDigits (rest : List Char) : Prop := rest.head?.bind Digit.ofChar? = none

theorem endsDigits_point (rest : List Char) : EndsDigits ('.' :: rest) := rfl

theorem endsDigits_exponentChars (n : Int) (rest : List Char) :
    EndsDigits (exponentChars n ++ rest) := rfl

theorem yields_digitsUpTo {fuel : Nat} (ds : List Digit) (hfuel : ds.length ≤ fuel)
    {rest : List Char} (hrest : EndsDigits rest) :
    Yields (digitsUpTo fuel) (ds.map Digit.toChar ++ rest) ds rest := by
  induction fuel generalizing ds with
  | zero =>
      obtain rfl : ds = [] := List.length_eq_zero_iff.1 (Nat.le_zero.1 hfuel)
      exact yields_pure [] rest
  | succ fuel ih =>
      refine (yields_peek? _).bind ?_
      cases ds with
      | nil =>
          have hnone : ([].map Digit.toChar ++ rest).head?.bind Digit.ofChar? = none := hrest
          rw [hnone]
          exact yields_pure [] rest
      | cons d ds =>
          have hsome : ((d :: ds).map Digit.toChar ++ rest).head?.bind Digit.ofChar? = some d :=
            Digit.ofChar?_toChar d
          rw [hsome]
          exact (yields_skip _ _).bind
            ((ih ds (Nat.le_of_succ_le_succ hfuel)).bind (yields_pure _ _))

theorem yields_digits (ds : List Digit) {rest : List Char} (hrest : EndsDigits rest) :
    Yields digits (ds.map Digit.toChar ++ rest) ds rest := by
  refine (yields_steps _).bind (yields_digitsUpTo ds ?_ hrest)
  simp only [List.length_append, List.length_map]
  omega

/-! ## Numbers -/

/-- What does not go on with a number. -/
structure EndsNumber (rest : List Char) : Prop where
  digits : EndsDigits rest
  point : rest.head? ≠ some '.'
  exponent : opensExponent rest.head? = false

theorem le_foldl_value (ds : List Digit) (n : Nat) :
    n ≤ ds.foldl (fun n d => 10 * n + d.val) n := by
  rw [Digit.foldl_value]
  exact Nat.le_add_right_of_le (Nat.le_mul_of_pos_right _ (Nat.pow_pos (by decide)))

theorem yields_exponentUpTo (outOfRange : Bool) {fuel n : Nat} (ds : List Digit)
    (hfuel : ds.length ≤ fuel) {rest : List Char} (hrest : EndsDigits rest)
    (hmax : ds.foldl (fun n d => 10 * n + d.val) n ≤ maxExponent) :
    Yields (exponentUpTo outOfRange fuel n) (ds.map Digit.toChar ++ rest)
      (ds.foldl (fun n d => 10 * n + d.val) n) rest := by
  induction fuel generalizing ds n with
  | zero =>
      obtain rfl : ds = [] := List.length_eq_zero_iff.1 (Nat.le_zero.1 hfuel)
      exact yields_pure n rest
  | succ fuel ih =>
      refine (yields_peek? _).bind ?_
      cases ds with
      | nil =>
          have hnone : ([].map Digit.toChar ++ rest).head?.bind Digit.ofChar? = none := hrest
          rw [hnone]
          exact yields_pure n rest
      | cons d ds =>
          have hsome : ((d :: ds).map Digit.toChar ++ rest).head?.bind Digit.ofChar? = some d :=
            Digit.ofChar?_toChar d
          have hle : 10 * n + d.val ≤ maxExponent := Nat.le_trans (le_foldl_value ds _) hmax
          have hin : (outOfRange && decide (maxExponent < 10 * n + d.val)) = false := by
            simp [Nat.not_lt.2 hle]
          rw [hsome]
          refine (yields_skip _ _).bind ?_
          simp only [hin, Bool.false_eq_true, if_false]
          exact ih ds (Nat.le_of_succ_le_succ hfuel) hmax

theorem yields_exponentDigits {outOfRange : Bool} {n : Nat} (hmax : n ≤ maxExponent)
    {rest : List Char} (hrest : EndsDigits rest) :
    Yields (exponentDigits outOfRange) ((Digit.ofNat n).map Digit.toChar ++ rest) n rest := by
  obtain ⟨first, more, hdigits, -⟩ := Digit.whole_ofNat n
  have hhead : ((Digit.ofNat n).map Digit.toChar ++ rest).head? = some first.toChar := by
    rw [hdigits]
    rfl
  have hvalue : (Digit.ofNat n).foldl (fun n d => 10 * n + d.val) 0 = n := Digit.value_ofNat n
  have hfuel : (Digit.ofNat n).length ≤
      2 * ((Digit.ofNat n).map Digit.toChar ++ rest).length + 2 := by
    simp only [List.length_append, List.length_map]
    omega
  have hrun := yields_exponentUpTo outOfRange (n := 0) (Digit.ofNat n) hfuel hrest (by rwa [hvalue])
  rw [hvalue] at hrun
  refine (yields_peek? _).bind ?_
  rw [hhead]
  simp only [Digit.isDigit_toChar, if_true]
  exact (yields_steps _).bind hrun

theorem yields_exponent {significand : Nat} {n : Int} (hmax : n.natAbs ≤ maxExponent)
    {rest : List Char} (hrest : EndsDigits rest) :
    Yields (exponent significand) (exponentChars n ++ rest) n rest := by
  refine (yields_skip _ _).bind ?_
  by_cases hn : n < 0
  · have hsign (rest : List Char) : Yields exponentSign ('-' :: rest) true rest :=
      (yields_peek? _).bind ((yields_skip _ _).bind (yields_pure true _))
    have hvalue : -(n.natAbs : Int) = n := by omega
    rw [if_pos hn]
    refine (hsign _).bind ((yields_exponentDigits hmax hrest).bind ?_)
    rw [if_pos rfl, hvalue]
    exact yields_pure n rest
  · have hsign (rest : List Char) : Yields exponentSign ('+' :: rest) false rest :=
      (yields_peek? _).bind ((yields_skip _ _).bind (yields_pure false _))
    have hvalue : (n.natAbs : Int) = n := by omega
    rw [if_neg hn]
    refine (hsign _).bind ((yields_exponentDigits hmax hrest).bind ?_)
    rw [if_neg Bool.false_ne_true, hvalue]
    exact yields_pure n rest

theorem ofChar?_head (d : Digit) (ds : List Digit) (rest : List Char) :
    ((d :: ds).map Digit.toChar ++ rest).head? = some d.toChar := rfl

section

variable [NumberSource]

/-- A number is read from its digits on as what stands behind them says. -/
theorem yields_number {negative : Bool} {ds : List Digit} (hds : Digit.Whole ds)
    {rest after : List Char} (hrest : EndsDigits rest) {v : Json}
    (hbehind : Yields (behindWhole negative ds) rest v after) :
    Yields (number negative) (ds.map Digit.toChar ++ rest) v after := by
  obtain ⟨first, more, rfl, hzero⟩ := hds
  have hwhole :
      Yields (wholeDigits first) (more.map Digit.toChar ++ rest) (first :: more) rest := by
    unfold wholeDigits
    split
    · next hfirst =>
      obtain rfl := hzero hfirst
      have hnone : ([].map Digit.toChar ++ rest).head?.bind Digit.ofChar? = none := hrest
      refine (yields_peek? _).bind ?_
      rw [hnone]
      exact yields_pure _ _
    · exact (yields_digits more hrest).bind (yields_pure _ _)
  refine (yields_peek? _).bind ?_
  simp only [ofChar?_head, Digit.ofChar?_toChar]
  exact (yields_skip _ _).bind (hwhole.bind hbehind)

theorem yields_real {negative : Bool} {f : Figures} {x : Magnitude}
    (h : NumberSource.magnitude? f = some x) (rest : List Char) :
    Yields (real negative f) rest (.real (.finite negative x)) rest := by
  unfold real
  rw [h]
  exact yields_pure _ rest

theorem yields_behindWhole_integer {negative : Bool} {ds : List Digit} {v : Json}
    {rest : List Char} (hrest : EndsNumber rest) (h : Yields (whole negative ds) rest v rest) :
    Yields (behindWhole negative ds) rest v rest := by
  refine (yields_peek? _).bind ?_
  split
  · next hpoint => exact absurd hpoint hrest.point
  · rw [if_neg (by simp [hrest.exponent])]
    exact h

section Figures

variable (negative : Bool) {f : Figures} {x : Magnitude} {rest : List Char}
  (hrest : EndsNumber rest) (hpower : f.power.natAbs ≤ maxExponent)
  (h : NumberSource.magnitude? f = some x)
include hrest hpower h

theorem yields_behindWhole_fraction (hfraction : f.fraction ≠ []) :
    Yields (behindWhole negative f.integer)
      ('.' :: (f.fraction.map Digit.toChar ++
        ((if f.power = 0 then [] else exponentChars f.power) ++ rest)))
      (.real (.finite negative x)) rest := by
  have hdigits : EndsDigits ((if f.power = 0 then [] else exponentChars f.power) ++ rest) := by
    split
    · exact hrest.digits
    · exact endsDigits_exponentChars f.power rest
  have hread : Yields fractionDigits
      (f.fraction.map Digit.toChar ++
        ((if f.power = 0 then [] else exponentChars f.power) ++ rest))
      f.fraction ((if f.power = 0 then [] else exponentChars f.power) ++ rest) := by
    refine (yields_digits f.fraction hdigits).bind ?_
    rw [if_neg (by simpa using hfraction)]
    exact yields_pure _ _
  refine (yields_peek? _).bind ((yields_skip _ _).bind (hread.bind ?_))
  refine (yields_peek? _).bind ?_
  by_cases hzero : f.power = 0
  · rw [if_pos hzero, List.nil_append, if_neg (by simp [hrest.exponent])]
    refine (yields_pure 0 _).bind (yields_real ?_ rest)
    rwa [← hzero]
  · have hopens : opensExponent (exponentChars f.power ++ rest).head? = true := rfl
    rw [if_neg hzero, if_pos hopens]
    exact (yields_exponent hpower hrest.digits).bind (yields_real h rest)

theorem yields_behindWhole_exponent (hfraction : f.fraction = []) :
    Yields (behindWhole negative f.integer) (exponentChars f.power ++ rest)
      (.real (.finite negative x)) rest := by
  refine (yields_peek? _).bind ((yields_exponent hpower hrest.digits).bind (yields_real ?_ rest))
  rwa [← hfraction]

end Figures

/-- A written integer of 64 bits. -/
theorem yields_integerDigits {n : Int} (hlow : -(twoPow 63 : Int) ≤ n) (hhigh : n < twoPow 64)
    {rest : List Char} (hrest : EndsNumber rest) :
    Yields (number (decide (n < 0))) ((Digit.ofNat n.natAbs).map Digit.toChar ++ rest) (.integer n)
      rest := by
  refine yields_number (Digit.whole_ofNat _) hrest.digits (yields_behindWhole_integer hrest ?_)
  unfold whole
  dsimp only
  rw [Digit.value_ofNat]
  by_cases hn : n < 0
  · have hvalue : -(n.natAbs : Int) = n := by omega
    rw [if_pos (decide_eq_true hn), if_pos (by omega), hvalue]
    exact yields_pure _ rest
  · have hvalue : (n.natAbs : Int) = n := by omega
    rw [if_neg (by simpa using hn), if_pos (by omega), hvalue]
    exact yields_pure _ rest

/-- Figures are read as the source says, whether they have a fraction or an exponent only. -/
theorem yields_figures {negative : Bool} {f : Figures} {x : Magnitude} (hlegible : f.Legible)
    (h : NumberSource.magnitude? f = some x) {rest : List Char} (hrest : EndsNumber rest) :
    Yields (number negative) (f.chars ++ rest) (.real (.finite negative x)) rest := by
  by_cases hfraction : f.fraction = []
  · have hpower : f.power ≠ 0 := hlegible.real.resolve_left (absurd hfraction)
    have hread := yields_number hlegible.whole (endsDigits_exponentChars f.power rest)
      (yields_behindWhole_exponent negative hrest hlegible.power_le h hfraction)
    simpa [Figures.chars, Numeral.chars, hfraction, hpower] using hread
  · have hread := yields_number hlegible.whole (endsDigits_point _)
      (yields_behindWhole_fraction negative hrest hlegible.power_le h hfraction)
    simpa [Figures.chars, Numeral.chars, hfraction] using hread

/-- A written magnitude, behind its sign. -/
theorem yields_magnitudeFigures [NumberSource.Faithful] (negative : Bool) (x : Magnitude)
    {rest : List Char} (hrest : EndsNumber rest) :
    Yields (number negative) ((magnitudeFigures x).chars ++ rest) (.real (.finite negative x))
      rest :=
  yields_figures (legible_magnitudeFigures x) (NumberSource.Faithful.magnitude?_figures x) hrest

end

/-! ## Strings -/

theorem hexFour?_control : ∀ n < 0x20,
    hexFour? '0' '0' (Text.hexDigit (n / 16)) (Text.hexDigit (n % 16)) = some n := by
  decide

/-- An escape of one character. -/
theorem yields_plainEscape {c d : Char} (h : plainEscape? c = some d) (rest : List Char) :
    Yields escaped (c :: rest) d rest := by
  refine (yields_peek? _).bind ?_
  simp only [List.head?_cons, h]
  exact (yields_skip _ _).bind (yields_pure d rest)

/-- A control, escaped by its code. -/
theorem yields_controlEscape {c : Char} (hc : c.toNat < 0x20) (rest : List Char) :
    Yields escaped
      ('u' :: '0' :: '0' :: Text.hexDigit (c.toNat / 16) :: Text.hexDigit (c.toNat % 16) :: rest) c
      rest := by
  have hcode : Yields hexCode
      ('0' :: '0' :: Text.hexDigit (c.toNat / 16) :: Text.hexDigit (c.toNat % 16) :: rest) c.toNat
      rest := by
    intro s hs
    refine ⟨⟨rest, s.line, s.column + 4⟩, ?_, rfl⟩
    simp only [hexCode, hs, hexFour?_control c.toNat hc]
  have hescaped : Yields escapedCode
      ('0' :: '0' :: Text.hexDigit (c.toNat / 16) :: Text.hexDigit (c.toNat % 16) :: rest) c
      rest := by
    refine hcode.bind ?_
    rw [if_neg (by omega), if_pos (by omega), Char.ofNat_toNat]
    exact yields_pure c rest
  refine (yields_peek? _).bind ?_
  exact (yields_skip _ _).bind hescaped

/-- A character is written as an escape that stands for it, by its code, or as it is. -/
theorem escapeChar_cases (c : Char) :
    (∃ d, plainEscape? d = some c ∧ escapeChar c = ['\\', d]) ∨
      (c.toNat < 0x20 ∧ escapeChar c =
        ['\\', 'u', '0', '0', Text.hexDigit (c.toNat / 16), Text.hexDigit (c.toNat % 16)]) ∨
      (c ≠ '"' ∧ c ≠ '\\' ∧ ¬c.toNat < 0x20 ∧ escapeChar c = [c]) := by
  unfold escapeChar
  by_cases hquote : c = '"'
  · exact .inl ⟨'"', by simp [hquote, plainEscape?], by rw [if_pos hquote]⟩
  rw [if_neg hquote]
  by_cases hbackslash : c = '\\'
  · exact .inl ⟨'\\', by simp [hbackslash, plainEscape?], by rw [if_pos hbackslash]⟩
  rw [if_neg hbackslash]
  by_cases hplain : c = '\x08' ∨ c = '\x0c' ∨ c = '\n' ∨ c = '\r' ∨ c = '\t'
  · rcases hplain with rfl | rfl | rfl | rfl | rfl
    all_goals exact .inl ⟨_, rfl, rfl⟩
  obtain ⟨hb, hf, hn, hr, ht⟩ : c ≠ '\x08' ∧ c ≠ '\x0c' ∧ c ≠ '\n' ∧ c ≠ '\r' ∧ c ≠ '\t' := by
    simpa [not_or] using hplain
  rw [if_neg hb, if_neg hf, if_neg hn, if_neg hr, if_neg ht]
  by_cases hcontrol : c.toNat < 0x20
  · exact .inr (.inl ⟨hcontrol, if_pos hcontrol⟩)
  · exact .inr (.inr ⟨hquote, hbackslash, hcontrol, if_neg hcontrol⟩)

theorem yields_escapeChar (c : Char) {fuel : Nat} {cs rest after : List Char}
    (h : Yields (stringUpTo fuel) rest cs after) :
    Yields (stringUpTo (fuel + 1)) (escapeChar c ++ rest) (c :: cs) after := by
  have hescape {code : List Char} (hcode : Yields escaped (code ++ rest) c rest) :
      Yields (stringUpTo (fuel + 1)) (('\\' :: code) ++ rest) (c :: cs) after := by
    refine (yields_peek? _).bind ?_
    refine (yields_skip _ _).bind (hcode.bind ?_)
    exact h.bind (yields_pure _ _)
  rcases escapeChar_cases c with ⟨d, hd, hchars⟩ | ⟨hcontrol, hchars⟩ |
    ⟨hquote, hbackslash, hcontrol, hchars⟩
  · rw [hchars]
    exact hescape (yields_plainEscape hd rest)
  · rw [hchars]
    exact hescape (yields_controlEscape hcontrol rest)
  · rw [hchars]
    refine (yields_peek? _).bind ?_
    simp only [List.singleton_append, List.head?_cons, if_neg hquote, if_neg hbackslash,
      if_neg hcontrol]
    exact (yields_skip _ _).bind (h.bind (yields_pure _ _))

theorem yields_stringUpTo {fuel : Nat} (cs : List Char) (hfuel : cs.length < fuel)
    (rest : List Char) :
    Yields (stringUpTo fuel) (cs.flatMap escapeChar ++ '"' :: rest) cs rest := by
  induction cs generalizing fuel with
  | nil =>
      obtain ⟨fuel, rfl⟩ := Nat.exists_eq_add_of_lt hfuel
      exact (yields_peek? _).bind ((yields_skip _ _).bind (yields_pure [] rest))
  | cons c cs ih =>
      obtain ⟨fuel, rfl⟩ := Nat.exists_eq_succ_of_ne_zero (Nat.ne_of_gt (Nat.zero_lt_of_lt hfuel))
      rw [List.flatMap_cons, List.append_assoc]
      exact yields_escapeChar c (ih (Nat.lt_of_succ_lt_succ hfuel))

theorem one_le_length_escapeChar (c : Char) : 1 ≤ (escapeChar c).length := by
  rcases escapeChar_cases c with ⟨d, -, hchars⟩ | ⟨-, hchars⟩ | ⟨-, -, -, hchars⟩
  all_goals simp [hchars]

/-- A written string, behind its opening quote. -/
theorem yields_string (text : String) (rest : List Char) :
    Yields string (text.toList.flatMap escapeChar ++ '"' :: rest) text rest := by
  have hlength (cs : List Char) : cs.length ≤ (cs.flatMap escapeChar).length := by
    induction cs with
    | nil => simp
    | cons c cs ih =>
        rw [List.flatMap_cons, List.length_append, List.length_cons]
        have := one_le_length_escapeChar c
        omega
  have hfuel : text.toList.length <
      2 * (text.toList.flatMap escapeChar ++ '"' :: rest).length + 2 := by
    have := hlength text.toList
    simp only [List.length_append]
    omega
  have hresult : Yields (pure (String.ofList text.toList) : Reader String) rest text rest := by
    rw [String.ofList_toList]
    exact yields_pure text rest
  exact (yields_steps _).bind ((yields_stringUpTo text.toList hfuel rest).bind hresult)

end Phrasebook.Json.Reader
