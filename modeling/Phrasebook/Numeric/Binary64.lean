import Phrasebook.Numeric.Power

/-!
# Binary floating point, exactly

The numbers of the language are the values of the binary64 interchange format.  They are
kept as data, not as machine floats: a finite value is a sign and a magnitude
`mantissa * 2 ^ shift` counted in units of `2 ^ -1074`, the least positive value of the format.
Every magnitude has one representation, so equal numbers are equal terms, and every operation is
exact arithmetic on naturals followed by one rounding to nearest, ties to even.
-/

namespace Phrasebook

/-- The integer nearest to `n / d`; of two equally near the even one. -/
def roundHalfEven (n d : Nat) : Nat :=
  let q := n / d
  let twice := 2 * (n % d)
  if twice < d then q
  else if d < twice then q + 1
  else if q % 2 = 0 then q else q + 1

theorem div_le_roundHalfEven (n d : Nat) : n / d ≤ roundHalfEven n d := by
  unfold roundHalfEven
  dsimp only
  repeat' split
  all_goals omega

/-- A finite magnitude: `mantissa * 2 ^ shift` units of `2 ^ -1074`, in the one form that the
format has for it. -/
structure Magnitude where
  mantissa : Nat
  shift : Nat
  mantissa_lt : mantissa < twoPow 53
  shift_lt : shift < 2046
  normal : shift = 0 ∨ twoPow 52 ≤ mantissa
deriving DecidableEq

namespace Magnitude

def unitsPerOne : Nat := twoPow 1074

def units (x : Magnitude) : Nat := x.mantissa * twoPow x.shift

def zero : Magnitude := ⟨0, 0, by decide, by decide, .inl rfl⟩

instance : Inhabited Magnitude := ⟨zero⟩

/-- The shift under which `q` units have a mantissa of at most 53 bits. -/
def shiftFor (q : Nat) : Nat := q.log2 - 52

theorem le_div_twoPow_shiftFor {q : Nat} (h : shiftFor q ≠ 0) :
    twoPow 52 ≤ q / twoPow (shiftFor q) := by
  have hlog : shiftFor q + 52 = q.log2 := by unfold shiftFor at h ⊢; omega
  have hq : q ≠ 0 := by
    rintro rfl
    simp [shiftFor] at h
  rw [Nat.le_div_iff_mul_le (twoPow_pos _), ← twoPow_add, Nat.add_comm, hlog]
  exact twoPow_log2_le hq

/-- The magnitude nearest to `num / den`, ties to the even mantissa; none when it lies beyond the
largest one. -/
def nearest? (num den : Nat) : Option Magnitude :=
  let u := num * unitsPerOne
  let s := shiftFor (u / den)
  let m := roundHalfEven u (den * twoPow s)
  if hs : s < 2046 then
    if hm : m < twoPow 53 then
      some ⟨m, s, hm, hs, by
        by_cases h : s = 0
        · exact .inl h
        · refine .inr (Nat.le_trans (le_div_twoPow_shiftFor h) ?_)
          rw [Nat.div_div_eq_div_mul]
          exact div_le_roundHalfEven u (den * twoPow s)⟩
    else if hs' : s + 1 < 2046 then
      some ⟨twoPow 52, s + 1, by decide, hs', .inr (Nat.le_refl _)⟩
    else none
  else none

end Magnitude

/-- A binary64 value.  All not-a-number patterns are one value. -/
inductive Binary64 where
  | nan
  | infinite (negative : Bool)
  | finite (negative : Bool) (magnitude : Magnitude)
deriving DecidableEq

namespace Binary64

def zero : Binary64 := .finite false .zero

instance : Inhabited Binary64 := ⟨zero⟩

/-- The value nearest to `± num / den`; an infinity beyond the range. -/
def ofRatio (negative : Bool) (num den : Nat) : Binary64 :=
  (Magnitude.nearest? num den).elim (.infinite negative) (.finite negative)

def ofNat (n : Nat) : Binary64 := ofRatio false n 1

def ofInt (n : Int) : Binary64 := ofRatio (decide (n < 0)) n.natAbs 1

def isFinite : Binary64 → Bool
  | .finite .. => true
  | _ => false

/-- Numeric equality: not-a-number differs from itself and the two zeros agree. -/
def equal : Binary64 → Binary64 → Bool
  | .infinite s, .infinite t => s == t
  | .finite s x, .finite t y => x == y && (s == t || x == .zero)
  | _, _ => false

/-- At least zero; both zeros are, not-a-number is not. -/
def isNonNegative : Binary64 → Bool
  | .nan => false
  | .infinite s => !s
  | .finite s x => !s || x == .zero

/-- The whole part of a finite value, cut toward zero. -/
def truncated (negative : Bool) (x : Magnitude) : Int :=
  let n : Int := x.units / Magnitude.unitsPerOne
  if negative then -n else n

/-- The whole part, kept between `lo` and `hi`; not-a-number counts as zero. -/
def saturated (lo hi : Int) : Binary64 → Int
  | .nan => 0
  | .infinite s => if s then lo else hi
  | .finite s x => max lo (min hi (truncated s x))

/-- The whole part as an unsigned 64-bit count, saturating. -/
def toUInt64 (x : Binary64) : UInt64 := UInt64.ofNat (x.saturated 0 (twoPow 64 - 1)).toNat

/-- The whole part as a signed 64-bit number, saturating. -/
def toInt64 (x : Binary64) : Int64 := Int64.ofInt (x.saturated (-twoPow 63) (twoPow 63 - 1))

def scale (k : Nat) : Binary64 → Binary64
  | .finite s x => ofRatio s (x.units * k) Magnitude.unitsPerOne
  | x => x

/-- The rounded quotient.  Zero by zero is no number; anything else by zero is infinite. -/
def div : Binary64 → Binary64 → Binary64
  | .finite s x, .finite t y =>
    if y = .zero then (if x = .zero then .nan else .infinite (s != t))
    else ofRatio (s != t) x.units y.units
  | .infinite s, .finite t _ => .infinite (s != t)
  | .finite s _, .infinite t => .finite (s != t) .zero
  | _, _ => .nan

/-- The value after rounding to single precision: 24 bits of mantissa, units of `2 ^ -149`. -/
def toSingle : Binary64 → Binary64
  | .finite s x =>
    let q := x.units / twoPow 925
    let step := twoPow (925 + (q.log2 - 23))
    let n := roundHalfEven x.units step * step
    if twoPow 128 * Magnitude.unitsPerOne ≤ n then .infinite s
    else ofRatio s n Magnitude.unitsPerOne
  | x => x

end Binary64

end Phrasebook
