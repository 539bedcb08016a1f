import Mathlib.Algebra.Order.Field.Power
import Mathlib.Algebra.Order.Field.Rat
import Mathlib.Data.Rat.Floor

/-!
# Single-precision arithmetic

The sketches compute their percentages and ratios in `float`, with the default rounding of
the ESP32's FPU: round to nearest, ties to even.  A rounded result is read here as the
rational it denotes: `roundBinary precision emin x` is the number with `precision`
significant bits nearest to `x`, the exponent kept at `emin` or above so that the small
values fall on the subnormal grid.  `round32` and `round64` are `float` and `double`.

`Binary32` adds what a finite rational cannot hold, `+∞` and NaN, for the quotients whose
divisor can be zero.  Its finite values carry their own proof that they are floats.  The
modelled code only ever divides unsigned counts, so no negative infinity arises.

What the monitors need of the rounding is proved once: it lands on the grid, it fixes what
is already there, small naturals are floats, and the floor of a non-negative float is one.
-/

namespace Mousetrap.Machine

/-- `Nat.log2 n` for `n < 2 ^ bound`, halving at most `bound` times: by structural
recursion, so that the kernel can evaluate it. -/
def log2Within : Nat → Nat → Nat
  | 0, _ => 0
  | bound + 1, n => if n < 2 then 0 else log2Within bound (n / 2) + 1

theorem log2Within_spec {bound n : Nat} (positive : 0 < n) (fits : n < 2 ^ bound) :
    2 ^ log2Within bound n ≤ n ∧ n < 2 ^ (log2Within bound n + 1) := by
  induction bound generalizing n with
  | zero => omega
  | succ bound induction =>
      rw [log2Within]
      split
      · omega
      · have half := induction (show 0 < n / 2 by omega) (by rw [Nat.pow_succ] at fits; omega)
        rw [Nat.pow_succ, Nat.pow_succ]
        omega

/-- `⌊log₂ |x|⌋` for `x ≠ 0`, from the bit lengths `i` of the numerator and `j` of the
denominator: the quotient lies in `[2 ^ (i - j - 1), 2 ^ (i - j + 1))`, and one comparison
picks the half. -/
def binaryExponent (x : ℚ) : Int :=
  let i := log2Within x.num.natAbs x.num.natAbs
  let j := log2Within x.den x.den
  if x.den * 2 ^ i ≤ x.num.natAbs * 2 ^ j then (i : Int) - j else (i : Int) - j - 1

theorem abs_eq_natAbs_div_den (x : ℚ) : |x| = (x.num.natAbs : ℚ) / x.den := by
  conv_lhs => rw [← Rat.num_div_den x]
  rw [abs_div, Nat.abs_cast, Nat.cast_natAbs, Int.cast_abs]

theorem binaryExponent_spec {x : ℚ} (nonzero : x ≠ 0) :
    (2 : ℚ) ^ binaryExponent x ≤ |x| ∧ |x| < 2 ^ (binaryExponent x + 1) := by
  have numerator := log2Within_spec (Int.natAbs_pos.mpr (Rat.num_ne_zero.mpr nonzero))
    (Nat.lt_two_pow x.num.natAbs)
  have denominator := log2Within_spec x.den_pos (Nat.lt_two_pow x.den)
  simp only [binaryExponent]
  rw [abs_eq_natAbs_div_den]
  generalize log2Within x.num.natAbs x.num.natAbs = i at numerator
  generalize log2Within x.den x.den = j at numerator denominator
  have den : (0 : ℚ) < x.den := by exact_mod_cast x.den_pos
  have scale : ∀ k : Nat, (2 : ℚ) ^ ((i : Int) - j - k) = 2 ^ i / (2 ^ j * 2 ^ k) := by
    intro k
    rw [sub_sub, zpow_sub₀ two_ne_zero, zpow_add₀ two_ne_zero, zpow_natCast, zpow_natCast,
      zpow_natCast]
  have scale₀ := scale 0
  have scale₁ := scale 1
  simp only [Nat.cast_zero, sub_zero, pow_zero, mul_one, Nat.cast_one, pow_one] at scale₀ scale₁
  split
  · next upper =>
      rw [scale₀, show (i : Int) - j + 1 = i + 1 - j by ring, zpow_sub₀ two_ne_zero,
        div_le_div_iff₀ (by positivity) den, div_lt_div_iff₀ den (by positivity)]
      simp only [zpow_natCast]
      constructor
      · exact_mod_cast (by rw [Nat.mul_comm]; exact upper)
      · have : x.num.natAbs * 2 ^ j < 2 ^ (i + 1) * x.den :=
          calc x.num.natAbs * 2 ^ j < 2 ^ (i + 1) * 2 ^ j :=
                Nat.mul_lt_mul_of_pos_right numerator.2 (by positivity)
            _ ≤ 2 ^ (i + 1) * x.den := Nat.mul_le_mul_left _ denominator.1
        exact_mod_cast this
  · next lower =>
      rw [scale₁, show (i : Int) - j - 1 + 1 = i - j by ring, zpow_sub₀ two_ne_zero,
        div_le_div_iff₀ (by positivity) den, div_lt_div_iff₀ den (by positivity)]
      simp only [zpow_natCast]
      constructor
      · have : 2 ^ i * x.den ≤ x.num.natAbs * (2 ^ j * 2) :=
          calc 2 ^ i * x.den ≤ x.num.natAbs * x.den := Nat.mul_le_mul_right _ numerator.1
            _ ≤ x.num.natAbs * (2 ^ j * 2) :=
                Nat.mul_le_mul_left _ (by rw [← Nat.pow_succ]; exact denominator.2.le)
        exact_mod_cast this
      · exact_mod_cast (by rw [Nat.mul_comm (2 ^ i)]; omega)

/-- Round to the nearest integer, ties to the even one. -/
def roundHalfEven (z : ℚ) : Int :=
  if z - ⌊z⌋ < 1 / 2 then ⌊z⌋
  else if 1 / 2 < z - ⌊z⌋ then ⌊z⌋ + 1
  else if ⌊z⌋ % 2 = 0 then ⌊z⌋ else ⌊z⌋ + 1

@[simp]
theorem roundHalfEven_intCast (k : Int) : roundHalfEven k = k := by
  simp [roundHalfEven]

@[simp]
theorem roundHalfEven_zero : roundHalfEven 0 = 0 := by
  simpa using roundHalfEven_intCast 0

theorem roundHalfEven_between (z : ℚ) : ⌊z⌋ ≤ roundHalfEven z ∧ roundHalfEven z ≤ ⌊z⌋ + 1 := by
  unfold roundHalfEven
  split_ifs <;> omega

theorem abs_roundHalfEven_le {z : ℚ} {bound : Nat} (inside : |z| < bound) :
    |roundHalfEven z| ≤ bound := by
  have between := roundHalfEven_between z
  have below : ⌊z⌋ < bound := Int.floor_lt.mpr (by exact_mod_cast (abs_lt.mp inside).2)
  have above : -(bound : Int) ≤ ⌊z⌋ :=
    Int.le_floor.mpr (by push_cast; exact (abs_lt.mp inside).1.le)
  exact abs_le.mpr ⟨by omega, by omega⟩

/-- The spacing of the grid around `x`: `precision` significant bits below its exponent,
which is `emin` at the least. -/
def quantum (precision : Nat) (emin : Int) (x : ℚ) : Int :=
  max (binaryExponent x) emin - (precision - 1 : Nat)

/-- The value with `precision` significant bits nearest to `x`, ties to even. -/
def roundBinary (precision : Nat) (emin : Int) (x : ℚ) : ℚ :=
  roundHalfEven (x / 2 ^ quantum precision emin x) * 2 ^ quantum precision emin x

/-- `float` rounding: 24 significant bits, normal exponents from `-126`. -/
def round32 (x : ℚ) : ℚ :=
  roundBinary 24 (-126) x

/-- `double` rounding: 53 significant bits, normal exponents from `-1022`. -/
def round64 (x : ℚ) : ℚ :=
  roundBinary 53 (-1022) x

/-- The values of the format: an integer of fewer than `precision` bits times a power of
two no smaller than the subnormal spacing. -/
def OnGrid (precision : Nat) (emin : Int) (x : ℚ) : Prop :=
  ∃ m e : Int, x = m * 2 ^ e ∧ |m| < 2 ^ precision ∧ emin - (precision - 1 : Nat) ≤ e

section Grid

variable {precision : Nat} {emin : Int}

theorem quantum_le {m e : Int} (nonzero : m ≠ 0) (small : |m| < 2 ^ precision)
    (fine : emin - (precision - 1 : Nat) ≤ e) (positive : 0 < precision) :
    quantum precision emin (m * 2 ^ e) ≤ e := by
  have spec := (binaryExponent_spec (mul_ne_zero (Int.cast_ne_zero.mpr nonzero)
    (zpow_ne_zero e two_ne_zero))).1
  have below : (2 : ℚ) ^ binaryExponent (m * 2 ^ e) < 2 ^ ((precision : Int) + e) :=
    calc (2 : ℚ) ^ binaryExponent (m * 2 ^ e) ≤ |(m : ℚ)| * 2 ^ e := by
          rwa [abs_mul, abs_of_pos (zpow_pos (two_pos : (0 : ℚ) < 2) e)] at spec
      _ < 2 ^ precision * 2 ^ e :=
          mul_lt_mul_of_pos_right (by exact_mod_cast small) (zpow_pos two_pos e)
      _ = 2 ^ ((precision : Int) + e) := by rw [zpow_add₀ two_ne_zero, zpow_natCast]
  have exponent := (zpow_lt_zpow_iff_right₀ one_lt_two).mp below
  simp only [quantum]
  omega

/-- Rounding fixes the values already on the grid. -/
theorem roundBinary_of_onGrid (positive : 0 < precision) {x : ℚ}
    (grid : OnGrid precision emin x) : roundBinary precision emin x = x := by
  obtain ⟨m, e, rfl, small, fine⟩ := grid
  by_cases zero : m = 0
  · simp [roundBinary, zero]
  have coarse := quantum_le zero small fine positive
  rw [roundBinary]
  generalize quantum precision emin (m * 2 ^ e) = q at coarse ⊢
  have shift : (2 : ℚ) ^ (e - q) = ((2 ^ (e - q).toNat : Nat) : ℚ) := by
    push_cast
    rw [← zpow_natCast, Int.toNat_of_nonneg (by omega)]
  have scaled : (m : ℚ) * 2 ^ e / 2 ^ q = ((m * 2 ^ (e - q).toNat : Int) : ℚ) := by
    rw [mul_div_assoc, ← zpow_sub₀ two_ne_zero, shift]
    push_cast
    rfl
  rw [scaled, roundHalfEven_intCast, ← scaled, div_mul_cancel₀ _ (zpow_ne_zero q two_ne_zero)]

/-- Every rounded value is on the grid: the scaled argument stays below `2 ^ precision`,
and a rounding up to that bound is the first value of the next binade. -/
theorem onGrid_roundBinary (positive : 0 < precision) (x : ℚ) :
    OnGrid precision emin (roundBinary precision emin x) := by
  by_cases zero : x = 0
  · exact ⟨0, emin - (precision - 1 : Nat), by simp [roundBinary, zero], by simp, le_rfl⟩
  have spec := (binaryExponent_spec zero).2
  have fine : emin - (precision - 1 : Nat) ≤ quantum precision emin x := by
    simp only [quantum]
    omega
  have reach : binaryExponent x + 1 ≤ quantum precision emin x + precision := by
    simp only [quantum]
    omega
  rw [roundBinary]
  generalize quantum precision emin x = q at fine reach ⊢
  have inside : |x / 2 ^ q| < (2 ^ precision : Nat) := by
    rw [abs_div, abs_of_pos (zpow_pos (two_pos : (0 : ℚ) < 2) q), div_lt_iff₀ (zpow_pos two_pos q)]
    calc |x| < 2 ^ (binaryExponent x + 1) := spec
      _ ≤ 2 ^ (q + precision) := zpow_le_zpow_right₀ one_le_two reach
      _ = (2 ^ precision : Nat) * 2 ^ q := by
          rw [zpow_add₀ two_ne_zero, zpow_natCast, mul_comm]
          norm_num
  have bound := abs_roundHalfEven_le inside
  push_cast at bound
  generalize roundHalfEven (x / 2 ^ q) = r at bound ⊢
  rcases bound.lt_or_eq with below | edge
  · exact ⟨r, q, rfl, below, fine⟩
  · obtain ⟨half, double, halfPositive⟩ : ∃ half : Int, 2 ^ precision = 2 * half ∧ 0 < half :=
      ⟨2 ^ (precision - 1), by rw [← pow_succ', Nat.sub_add_cancel positive], by positivity⟩
    have split : r = 2 * (r / 2) ∧ |r / 2| < 2 ^ precision := by
      rw [double] at edge ⊢
      rcases abs_eq (by omega) |>.mp edge with up | down <;>
        · constructor <;> [omega; (rw [abs_lt]; omega)]
    refine ⟨r / 2, q + 1, ?_, split.2, by omega⟩
    conv_lhs => rw [split.1]
    rw [zpow_add₀ two_ne_zero]
    push_cast
    ring

end Grid

/-! ## The `float` format -/

theorem round32_of_onGrid {x : ℚ} (grid : OnGrid 24 (-126) x) : round32 x = x :=
  roundBinary_of_onGrid (by decide) grid

theorem onGrid_round32 (x : ℚ) : OnGrid 24 (-126) (round32 x) :=
  onGrid_roundBinary (by decide) x

theorem round32_natCast {n : Nat} (small : n < 2 ^ 24) : round32 n = n :=
  round32_of_onGrid ⟨n, 0, by simp, by rw [Nat.abs_cast]; exact_mod_cast small, by decide⟩

theorem round32_nonneg {x : ℚ} (nonneg : 0 ≤ x) : 0 ≤ round32 x := by
  have scaled : 0 ≤ x / 2 ^ quantum 24 (-126) x := div_nonneg nonneg (zpow_pos two_pos _).le
  have rounded : 0 ≤ roundHalfEven (x / 2 ^ quantum 24 (-126) x) :=
    (Int.floor_nonneg.mpr scaled).trans (roundHalfEven_between _).1
  exact mul_nonneg (Int.cast_nonneg.mpr rounded) (zpow_pos two_pos _).le

theorem onGrid_floor {x : ℚ} (grid : OnGrid 24 (-126) x) (nonneg : 0 ≤ x) :
    OnGrid 24 (-126) (⌊x⌋₊ : ℚ) := by
  by_cases small : x < 2 ^ 24
  · have floor : ⌊x⌋₊ < 2 ^ 24 := (Nat.floor_lt nonneg).mpr (by exact_mod_cast small)
    exact ⟨⌊x⌋₊, 0, by simp, by rw [Nat.abs_cast]; exact_mod_cast floor, by decide⟩
  obtain ⟨m, e, value, bits, fine⟩ := grid
  have integral : 0 ≤ e := by
    by_contra negative
    have shrink : (2 : ℚ) ^ e ≤ 1 := zpow_le_one_of_nonpos₀ one_le_two (by omega)
    have : x < 2 ^ 24 :=
      calc x ≤ |(m : ℚ)| * 2 ^ e := by
            rw [value]
            exact mul_le_mul_of_nonneg_right (le_abs_self _) (zpow_pos two_pos e).le
        _ ≤ |(m : ℚ)| * 1 := mul_le_mul_of_nonneg_left shrink (abs_nonneg _)
        _ < 2 ^ 24 := by rw [mul_one]; exact_mod_cast bits
    exact small this
  have whole : x = ((m * 2 ^ e.toNat : Int) : ℚ) := by
    rw [value]
    push_cast
    rw [← zpow_natCast, Int.toNat_of_nonneg integral]
  have exact : (⌊x⌋₊ : ℚ) = x := by
    have natural : 0 ≤ m * 2 ^ e.toNat := by exact_mod_cast whole ▸ nonneg
    rw [whole, ← Int.floor_toNat, Int.floor_intCast, ← Int.cast_natCast,
      Int.toNat_of_nonneg natural]
  rw [exact, value]
  exact ⟨m, e, rfl, bits, fine⟩

/-- A finite `float`: on the grid and below the overflow threshold `2 ^ 128`. -/
def IsFloat (x : ℚ) : Prop :=
  OnGrid 24 (-126) x ∧ |x| < 2 ^ 128

/-- A `float` value: finite, `+∞`, or NaN. -/
inductive Binary32 where
  | finite (value : ℚ) (isFloat : IsFloat value)
  | infinity
  | nan
  deriving DecidableEq, Repr

theorem onGrid_zero : OnGrid 24 (-126) 0 :=
  ⟨0, 0, by simp, by decide, by decide⟩

namespace Binary32

/-- `0.0f`. -/
def zero : Binary32 :=
  .finite 0 ⟨onGrid_zero, by norm_num⟩

/-- The value of a finite float; `+∞` and NaN have none. -/
def finiteValue : Binary32 → Option ℚ
  | .finite x _ => some x
  | _ => none

theorem isFloat_of_finiteValue {v : Binary32} {x : ℚ} (finite : v.finiteValue = some x) :
    IsFloat x := by
  cases v with
  | finite value isFloat => cases finite; exact isFloat
  | infinity => cases finite
  | nan => cases finite

/-- A result rounded to `float`, `+∞` where it overflows. -/
def ofRat (x : ℚ) : Binary32 :=
  if fits : |round32 x| < 2 ^ 128 then .finite (round32 x) ⟨onGrid_round32 x, fits⟩
  else .infinity

/-- `a / b` for finite non-negative `a` and `b`: `0 / 0` is NaN and a positive number over
zero is `+∞`. -/
def divide (a b : ℚ) : Binary32 :=
  if b = 0 then (if a = 0 then .nan else .infinity) else ofRat (a / b)

theorem divide_nonneg {a b x : ℚ} (numerator : 0 ≤ a) (denominator : 0 ≤ b)
    (finite : (divide a b).finiteValue = some x) : 0 ≤ x := by
  unfold divide at finite
  by_cases zero : b = 0
  · rw [if_pos zero] at finite
    by_cases empty : a = 0
    · rw [if_pos empty] at finite
      cases finite
    · rw [if_neg empty] at finite
      cases finite
  · rw [if_neg zero] at finite
    unfold ofRat at finite
    by_cases fits : |round32 (a / b)| < 2 ^ 128
    · rw [dif_pos fits] at finite
      cases finite
      exact round32_nonneg (div_nonneg numerator denominator)
    · rw [dif_neg fits] at finite
      cases finite

/-- `v > c` for a finite `c`; every comparison with NaN is false. -/
def above : Binary32 → ℚ → Bool
  | .finite x _, c => decide (c < x)
  | .infinity, _ => true
  | .nan, _ => false

/-- `v >= c` for a finite `c`. -/
def atLeast : Binary32 → ℚ → Bool
  | .finite x _, c => decide (c ≤ x)
  | .infinity, _ => true
  | .nan, _ => false

theorem atLeast_of_le {v : Binary32} {low high : ℚ} (le : low ≤ high)
    (holds : v.atLeast high = true) : v.atLeast low = true := by
  cases v with
  | finite x _ => simpa [atLeast] using le.trans (by simpa [atLeast] using holds)
  | infinity => rfl
  | nan => cases holds

/-- The conversion to `uint32_t`: the integer part where it fits, and `none` where C leaves
the conversion undefined: an integer part outside `0 .. 2 ^ 32 - 1`, `+∞` or NaN. -/
def toUInt32 : Binary32 → Option (BitVec 32)
  | .finite x _ => if -1 < x ∧ x < 2 ^ 32 then some (BitVec.ofNat 32 ⌊x⌋₊) else none
  | _ => none

end Binary32

end Mousetrap.Machine
