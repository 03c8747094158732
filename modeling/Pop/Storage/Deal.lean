import Mathlib.Data.List.Basic

/-!
# Deal epochs (`calcDealExpiration`, `Storage.StartDeal`)

`StartDeal` proposes a deal from the requested start epoch or, when that is unset, from the
chain height plus `dealStartBufferHours` hours of blocks; its end epoch is
`calcDealExpiration`, the start plus the minimum duration moved onto the last epoch before a
boundary of the miner's proving period. Epochs are Go `int64`s, kept here as `BitVec 64`, and
Go's `%` is the remainder truncated toward zero (`BitVec.srem`). Over inputs that do not
overflow, `toInt_calcDealExpiration` gives the end epoch as an exact integer: it is aligned on
the proving period and lies less than one period below and two periods above the minimum, and
it reaches the minimum only when the two remainders allow it (`calcDealExpiration_bounds`),
which a negative `PeriodStart` can prevent (`startDeal_ends_before_minimum`).
-/

namespace Pop.Storage
set_option autoImplicit false

/-! ## Go's `int64` -/

/-- `abi.ChainEpoch`, a Go `int64`: two's complement on 64 bits. -/
abbrev ChainEpoch := BitVec 64

/-- `time.Duration`: nanoseconds in an `int64`. -/
abbrev Duration := BitVec 64

/-- `math.MaxInt64`. -/
def maxInt64 : Int := 9223372036854775807

theorem bmod_int64 {x : Int} (lo : -9223372036854775808 ≤ x) (hi : x ≤ maxInt64) :
    x.bmod 18446744073709551616 = x := by
  rw [maxInt64] at hi
  rw [Int.bmod_def]
  split <;> omega

/-- An `int64` sum that does not overflow is the integer sum. -/
theorem toInt_add_of_range {x y : ChainEpoch} {a b : Int} (hx : x.toInt = a) (hy : y.toInt = b)
    (lo : -9223372036854775808 ≤ a + b) (hi : a + b ≤ maxInt64) : (x + y).toInt = a + b := by
  rw [BitVec.toInt_add, hx, hy]
  exact bmod_int64 lo hi

/-- An `int64` difference that does not overflow is the integer difference. -/
theorem toInt_sub_of_range {x y : ChainEpoch} {a b : Int} (hx : x.toInt = a) (hy : y.toInt = b)
    (lo : -9223372036854775808 ≤ a - b) (hi : a - b ≤ maxInt64) : (x - y).toInt = a - b := by
  rw [BitVec.toInt_sub, hx, hy]
  exact bmod_int64 lo hi

/-- `abi.ChainEpoch(u)` for a `uint64` that fits keeps its value. -/
theorem toInt_toBitVec {u : UInt64} (fits : (u.toNat : Int) ≤ maxInt64) :
    u.toBitVec.toInt = u.toNat := by
  have bits : u.toBitVec.toNat = u.toNat := rfl
  rw [maxInt64] at fits
  rw [BitVec.toInt_eq_toNat_cond, bits, if_pos (by simp only [Nat.reducePow]; omega)]

theorem tmod_neg_natCast (k n : Nat) : Int.tmod (-(k : Int)) n = -((k % n : Nat) : Int) := by
  cases k with
  | zero => simp
  | succ k => rfl

/-- A truncated remainder by a positive divisor lies above `-b`. -/
theorem neg_lt_tmod (a : Int) {b : Int} (pos : 0 < b) : -b < a.tmod b := by
  obtain ⟨n, rfl⟩ := Int.eq_ofNat_of_zero_le (Int.le_of_lt pos)
  cases a with
  | ofNat k => exact Int.lt_of_lt_of_le (by omega) (Int.tmod_nonneg _ (Int.ofNat_nonneg k))
  | negSucc k =>
    have lt := Nat.mod_lt (k + 1) (show 0 < n by omega)
    have neg : Int.negSucc k = -((k + 1 : Nat) : Int) := rfl
    rw [neg, tmod_neg_natCast]
    omega

/-- A truncated remainder is congruent to its dividend. -/
theorem tmod_emod (a b : Int) : a.tmod b % b = a % b := by
  rw [Int.tmod_def, Int.sub_eq_add_neg, ← Int.mul_neg, Int.add_mul_emod_self_left]

/-- Go's `%` on `int64` by a positive divisor is the truncated remainder of the integers. -/
theorem toInt_srem {x y : ChainEpoch} (pos : 0 < y.toInt) :
    (x.srem y).toInt = x.toInt.tmod y.toInt := by
  have y_nonneg := BitVec.toInt_pos_iff.mp (Int.le_of_lt pos)
  have y_msb := BitVec.msb_eq_false_iff_two_mul_lt.mpr y_nonneg
  rw [BitVec.toInt_eq_toNat_cond y, if_pos y_nonneg] at pos ⊢
  have rem_lt : ∀ n, n % y.toNat < y.toNat := fun n => Nat.mod_lt n (by omega)
  cases x_msb : x.msb
  case false =>
    have x_nonneg := BitVec.msb_eq_false_iff_two_mul_lt.mp x_msb
    have := rem_lt x.toNat
    simp only [BitVec.srem_eq, x_msb, y_msb]
    rw [BitVec.toInt_eq_toNat_cond x, if_pos x_nonneg, BitVec.toInt_eq_toNat_cond,
      BitVec.toNat_umod, if_pos (by omega)]
    rfl
  case true =>
    have x_neg := BitVec.msb_eq_true_iff_two_mul_ge.mp x_msb
    have := rem_lt (-x).toNat
    have small : -x % y ≠ BitVec.intMin 64 := BitVec.toNat_ne.mpr (by
      rw [BitVec.toNat_umod, BitVec.toNat_intMin]
      simp only [Nat.reducePow, Nat.reduceSub, Nat.reduceMod]
      omega)
    have x_lt := x.isLt
    have negx : (2 ^ 64 - x.toNat) % 2 ^ 64 = 2 ^ 64 - x.toNat := Nat.mod_eq_of_lt (by omega)
    have shift : (x.toNat : Int) - ((2 ^ 64 : Nat) : Int) = -((2 ^ 64 - x.toNat : Nat) : Int) := by
      omega
    simp only [BitVec.srem_eq, x_msb, y_msb]
    rw [BitVec.toInt_neg_of_ne_intMin small, BitVec.toInt_eq_toNat_cond x, if_neg (by omega),
      BitVec.toInt_eq_toNat_cond, BitVec.toNat_umod, if_pos (by omega), BitVec.toNat_neg, negx,
      shift, tmod_neg_natCast]

/-! ## `calcDealExpiration` -/

/-- The fields of `dline.Info` that `calcDealExpiration` reads. -/
structure DlineInfo where
  periodStart : ChainEpoch
  wPoStProvingPeriod : ChainEpoch
  deriving DecidableEq, Repr

/-- Go's `%` on `int64`: the remainder of the quotient truncated toward zero, with the sign
of the dividend; `none` is the panic of a zero divisor. -/
def rem (x y : ChainEpoch) : Option ChainEpoch :=
  if y = 0 then none else some (x.srem y)

/-- `calcDealExpiration(minDuration, md, startEpoch)`. -/
def calcDealExpiration (minDuration : UInt64) (md : DlineInfo) (startEpoch : ChainEpoch) :
    Option ChainEpoch := do
  let minExp := startEpoch + minDuration.toBitVec
  let r ← rem minExp md.wPoStProvingPeriod
  let s ← rem md.periodStart md.wPoStProvingPeriod
  return minExp + md.wPoStProvingPeriod - r + s - 1

/-- `minExp`, the start plus the minimum duration, as an exact integer. -/
def minExpiration (minDuration : UInt64) (startEpoch : ChainEpoch) : Int :=
  startEpoch.toInt + minDuration.toNat

theorem calcDealExpiration_of_ne_zero (minDuration : UInt64) (md : DlineInfo)
    (startEpoch : ChainEpoch) (nonzero : md.wPoStProvingPeriod ≠ 0) :
    calcDealExpiration minDuration md startEpoch =
      some (startEpoch + minDuration.toBitVec + md.wPoStProvingPeriod -
        (startEpoch + minDuration.toBitVec).srem md.wPoStProvingPeriod +
        md.periodStart.srem md.wPoStProvingPeriod - 1) := by
  simp only [calcDealExpiration, rem, if_neg nonzero]
  rfl

/-- A zero proving period panics. -/
theorem calcDealExpiration_zero_period (minDuration : UInt64) (md : DlineInfo)
    (startEpoch : ChainEpoch) (zero : md.wPoStProvingPeriod = 0) :
    calcDealExpiration minDuration md startEpoch = none := by
  simp only [calcDealExpiration, rem, if_pos zero]
  rfl

section Exact

variable (minDuration : UInt64) (md : DlineInfo) (startEpoch : ChainEpoch)
variable (start_nonneg : 0 ≤ startEpoch.toInt) (period_pos : 0 < md.wPoStProvingPeriod.toInt)
variable
  (fits : minExpiration minDuration startEpoch + 2 * md.wPoStProvingPeriod.toInt ≤ maxInt64)
include start_nonneg period_pos fits

/-- Without overflow the end epoch is `minExp + P - minExp % P + PeriodStart % P - 1` over the
integers, with the truncated remainder. -/
theorem toInt_calcDealExpiration :
    ∃ E, calcDealExpiration minDuration md startEpoch = some E ∧
      E.toInt = minExpiration minDuration startEpoch + md.wPoStProvingPeriod.toInt -
        (minExpiration minDuration startEpoch).tmod md.wPoStProvingPeriod.toInt +
        md.periodStart.toInt.tmod md.wPoStProvingPeriod.toInt - 1 := by
  have nonzero : md.wPoStProvingPeriod ≠ 0 := fun zero => by
    rw [zero] at period_pos; exact absurd period_pos (by decide)
  refine ⟨_, calcDealExpiration_of_ne_zero minDuration md startEpoch nonzero, ?_⟩
  rw [minExpiration] at fits ⊢
  generalize md.wPoStProvingPeriod = P at period_pos fits ⊢
  have max : maxInt64 = 9223372036854775807 := rfl
  have duration := @toInt_toBitVec minDuration (by omega)
  have minExp : (startEpoch + minDuration.toBitVec).toInt = startEpoch.toInt + minDuration.toNat :=
    toInt_add_of_range rfl duration (by omega) (by omega)
  have r := Int.tmod_nonneg P.toInt (show 0 ≤ startEpoch.toInt + minDuration.toNat by omega)
  have r' := Int.tmod_lt_of_pos (startEpoch.toInt + minDuration.toNat) period_pos
  have s := neg_lt_tmod md.periodStart.toInt period_pos
  have s' := Int.tmod_lt_of_pos md.periodStart.toInt period_pos
  have minExp_rem : ((startEpoch + minDuration.toBitVec).srem P).toInt =
      (startEpoch.toInt + minDuration.toNat).tmod P.toInt := by
    rw [toInt_srem period_pos, minExp]
  -- (((minExp + P) - minExp % P) + PeriodStart % P) - 1, one operation at a time from the inside
  exact toInt_sub_of_range (toInt_add_of_range (toInt_sub_of_range (toInt_add_of_range minExp rfl
    (by omega) (by omega)) minExp_rem (by omega) (by omega)) (toInt_srem period_pos) (by omega)
    (by omega)) rfl (by omega) (by omega)

/-- Without overflow the end epoch is the last epoch before a boundary of the proving period
(`E + 1 ≡ PeriodStart`), lies less than one period below and two above `minExp`, and reaches
`minExp` exactly when `minExp % P - PeriodStart % P < P`. -/
theorem calcDealExpiration_bounds :
    ∃ E, calcDealExpiration minDuration md startEpoch = some E ∧
      (E.toInt + 1) % md.wPoStProvingPeriod.toInt =
        md.periodStart.toInt % md.wPoStProvingPeriod.toInt ∧
      minExpiration minDuration startEpoch - md.wPoStProvingPeriod.toInt < E.toInt ∧
      E.toInt < minExpiration minDuration startEpoch + 2 * md.wPoStProvingPeriod.toInt ∧
      (minExpiration minDuration startEpoch ≤ E.toInt ↔
        (minExpiration minDuration startEpoch).tmod md.wPoStProvingPeriod.toInt -
          md.periodStart.toInt.tmod md.wPoStProvingPeriod.toInt < md.wPoStProvingPeriod.toInt) := by
  obtain ⟨E, computed, value⟩ :=
    toInt_calcDealExpiration minDuration md startEpoch start_nonneg period_pos fits
  refine ⟨E, computed, ?_⟩
  have m_nonneg : 0 ≤ minExpiration minDuration startEpoch := by
    rw [minExpiration]; omega
  generalize minExpiration minDuration startEpoch = m at m_nonneg value ⊢
  generalize md.wPoStProvingPeriod.toInt = P at period_pos value ⊢
  have r := Int.tmod_nonneg P m_nonneg
  have r' := Int.tmod_lt_of_pos m period_pos
  have s := neg_lt_tmod md.periodStart.toInt period_pos
  have s' := Int.tmod_lt_of_pos md.periodStart.toInt period_pos
  have aligned : E.toInt + 1 = md.periodStart.toInt.tmod P + P * (m.tdiv P + 1) := by
    rw [value, Int.tmod_def m P, Int.mul_add, Int.mul_one]
    omega
  refine ⟨?_, by omega, by omega, by omega⟩
  rw [aligned, Int.add_mul_emod_self_left, tmod_emod]

end Exact

theorem calcDealExpiration_bounds_late_miner :
    0 ≤ (5890 : ChainEpoch).toInt ∧ 0 < (2880 : ChainEpoch).toInt ∧
      minExpiration 518400 5890 + 2 * (2880 : ChainEpoch).toInt ≤ maxInt64 ∧
      ∃ E, calcDealExpiration 518400 ⟨-2780, 2880⟩ 5890 = some E ∧
        (E.toInt + 1) % (2880 : ChainEpoch).toInt =
          (-2780 : ChainEpoch).toInt % (2880 : ChainEpoch).toInt ∧
        minExpiration 518400 5890 - (2880 : ChainEpoch).toInt < E.toInt ∧
        E.toInt < minExpiration 518400 5890 + 2 * (2880 : ChainEpoch).toInt ∧
        (minExpiration 518400 5890 ≤ E.toInt ↔
          (minExpiration 518400 5890).tmod (2880 : ChainEpoch).toInt -
            (-2780 : ChainEpoch).toInt.tmod (2880 : ChainEpoch).toInt <
            (2880 : ChainEpoch).toInt) :=
  ⟨by decide, by decide, by decide,
    calcDealExpiration_bounds 518400 ⟨-2780, 2880⟩ 5890 (by decide) (by decide) (by decide)⟩

/-! ## Durations in epochs -/

/-- `calcEpochs(t)`: the whole epochs in `t`, `t / (EpochDurationSeconds * time.Second)` in
`int64`, truncated toward zero. `EpochDurationSeconds` (30 in specs-actors) is the parameter
`epochDurationSeconds`. -/
def calcEpochs (epochDurationSeconds : UInt64) (t : Duration) : ChainEpoch :=
  t.sdiv (epochDurationSeconds.toBitVec * 1000000000)

/-- `dealStartBufferHours`. -/
def dealStartBufferHours : UInt64 := 49

/-- `StartDeal`'s `dealStart`: the requested epoch, or, when that is unset (`<= 0`), the chain
head's height plus `dealStartBufferHours` hours of `60 * 60 / BlockDelaySecs` blocks, counted
in `uint64`. -/
def dealStart (blockDelaySecs : UInt64) (dealStartEpoch height : ChainEpoch) : ChainEpoch :=
  if dealStartEpoch.sle 0 then
    height + (dealStartBufferHours * (60 * 60 / blockDelaySecs)).toBitVec
  else dealStartEpoch

/-- The `StartEpoch` and `EndEpoch` that `StartDeal` hands `ProposeStorageDeal`, from the
request's `MinBlocksDuration` and `DealStartEpoch`, the chain head's height and the miner's
deadline info; `none` is the panic of a zero proving period. -/
def startDealEpochs (blockDelaySecs minBlocksDuration : UInt64) (dealStartEpoch height : ChainEpoch)
    (md : DlineInfo) : Option (ChainEpoch × ChainEpoch) :=
  let start := dealStart blockDelaySecs dealStartEpoch height
  (calcDealExpiration minBlocksDuration md start).map (start, ·)

/-- At chain height 10, with the start left unset, a miner whose proving period began at epoch
-2780 gets a deal of 518400 epochs that ends 31 epochs before its minimum. -/
theorem startDeal_ends_before_minimum :
    startDealEpochs 30 518400 0 10 ⟨-2780, 2880⟩ = some (5890, 524259) ∧
      (524259 : ChainEpoch).toInt < minExpiration 518400 5890 := by
  decide

end Pop.Storage
