import Mathlib.Data.Int.Init
import Mathlib.Tactic.Ring

/-! The timestamps of the NTP check (`ntp/util.go`). A time goes into a packet as 32-bit seconds
since 1900 and a 32-bit binary fraction of a second; the seconds wrap every `2^32` s on purpose,
and the way back always reads them in the era that starts in 1900. `calcOffset` takes the four
timestamps of an exchange as `time.Duration`s: `Sub` saturates and the sum and the halving are
64-bit. A `time.Time` is taken as its Unix second and the nanosecond within it. -/

namespace Authelia.Ntp

def epochOffset : Int := 2208988800

/-- A `time.Time` as the package reads it: `Unix()` and `Nanosecond()`. -/
structure Time where
  unix : Int
  nsec : Nat
  nsec_lt : nsec < 10 ^ 9
  deriving DecidableEq

theorem fraction_nsec_lt (fraction : UInt32) : (fraction.toNat * 10 ^ 9) >>> 32 < 10 ^ 9 := by
  have hf := fraction.toNat_lt
  rw [Nat.shiftRight_eq_div_pow, Nat.div_lt_iff_lt_mul (Nat.two_pow_pos 32)]
  have : fraction.toNat * 10 ^ 9 < 2 ^ 32 * 10 ^ 9 := Nat.mul_lt_mul_of_pos_right hf (by decide)
  rw [Nat.mul_comm (10 ^ 9)]
  exact this

/-- `secondsAndFractionToTime`: the nanoseconds are `(fraction * 1e9) >> 32`, below a second. -/
def secondsAndFractionToTime (seconds fraction : UInt32) : Time :=
  ⟨seconds.toNat - epochOffset, (fraction.toNat * 10 ^ 9) >>> 32, fraction_nsec_lt fraction⟩

/-- `timeToSecondsAndFraction`: `uint32` keeps the low 32 bits of the seconds since 1900. -/
def timeToSecondsAndFraction (t : Time) : UInt32 × UInt32 :=
  (UInt32.ofNat ((t.unix + epochOffset) % 2 ^ 32).toNat, UInt32.ofNat ((t.nsec <<< 32) / 10 ^ 9))

def roundTrip (t : Time) : Time :=
  secondsAndFractionToTime (timeToSecondsAndFraction t).1 (timeToSecondsAndFraction t).2

def Time.nanosSince (t u : Time) : Int := (t.unix - u.unix) * 10 ^ 9 + ((t.nsec : Int) - u.nsec)

/-- `Time.Sub`: the difference in nanoseconds, saturated to the range of `time.Duration`. -/
def Time.sub (t u : Time) : Int64 :=
  let d := t.nanosSince u
  if d < Int64.minValue.toInt then Int64.minValue
  else if Int64.maxValue.toInt < d then Int64.maxValue
  else Int64.ofInt d

/-- `calcOffset`: the SNTP offset `((T2 - T1) + (T3 - T4)) / 2`, made non-negative. -/
def calcOffset (t1 t2 t3 t4 : Time) : Int64 :=
  let offset := (t2.sub t1 + t3.sub t4) / 2
  if offset < 0 then -offset else offset

/-! ### Through a packet and back -/

theorem toNat_seconds (t : Time) :
    (timeToSecondsAndFraction t).1.toNat = ((t.unix + epochOffset) % 2 ^ 32).toNat := by
  have h0 : 0 ≤ (t.unix + epochOffset) % 2 ^ 32 := Int.emod_nonneg _ (by decide)
  have h1 : (t.unix + epochOffset) % 2 ^ 32 < 2 ^ 32 := Int.emod_lt_of_pos _ (by decide)
  exact UInt32.toNat_ofNat_of_lt' (by rw [UInt32.size]; omega)

theorem toNat_fraction (t : Time) :
    (timeToSecondsAndFraction t).2.toNat = t.nsec * 2 ^ 32 / 10 ^ 9 := by
  have hlt := t.nsec_lt
  rw [timeToSecondsAndFraction, Nat.shiftLeft_eq]
  exact UInt32.toNat_ofNat_of_lt' (by rw [UInt32.size]; omega)

theorem unix_roundTrip (t : Time) :
    (roundTrip t).unix = (t.unix + epochOffset) % 2 ^ 32 - epochOffset := by
  have h0 : 0 ≤ (t.unix + epochOffset) % 2 ^ 32 := Int.emod_nonneg _ (by decide)
  simp only [roundTrip, secondsAndFractionToTime, toNat_seconds, Int.toNat_of_nonneg h0]

theorem nsec_roundTrip (t : Time) :
    (roundTrip t).nsec ≤ t.nsec ∧ t.nsec ≤ (roundTrip t).nsec + 1 := by
  have hlt := t.nsec_lt
  simp only [roundTrip, secondsAndFractionToTime, toNat_fraction, Nat.shiftRight_eq_div_pow]
  omega

theorem unix_roundTrip_of_era_zero {t : Time} (h0 : 0 ≤ t.unix + epochOffset)
    (h1 : t.unix + epochOffset < 2 ^ 32) : (roundTrip t).unix = t.unix := by
  rw [unix_roundTrip, Int.emod_eq_of_lt h0 h1]
  omega

theorem unix_roundTrip_of_era_one {t : Time} (h1 : 2 ^ 32 ≤ t.unix + epochOffset)
    (h2 : t.unix + epochOffset < 2 ^ 33) : (roundTrip t).unix = t.unix - 2 ^ 32 := by
  rw [unix_roundTrip]
  omega

/-! ### The offset -/

theorem toInt_minValue : Int64.minValue.toInt = -2 ^ 63 := by decide

theorem toInt_maxValue : Int64.maxValue.toInt = 2 ^ 63 - 1 := by decide

theorem toInt_sub {t u : Time} (hlo : -2 ^ 63 ≤ t.nanosSince u) (hhi : t.nanosSince u < 2 ^ 63) :
    (t.sub u).toInt = t.nanosSince u := by
  simp only [Time.sub, toInt_minValue, toInt_maxValue, if_neg (Int.not_lt.mpr hlo),
    if_neg (show ¬(2 ^ 63 - 1 < t.nanosSince u) by omega), Int64.toInt_ofInt]
  exact Int.bmod_eq_of_le (by simp only [Int64.size]; omega) (by simp only [Int64.size]; omega)

theorem toInt_calcOffset (t1 t2 t3 t4 : Time) (h21 : (t2.nanosSince t1).natAbs < 2 ^ 62)
    (h34 : (t3.nanosSince t4).natAbs < 2 ^ 62) :
    (calcOffset t1 t2 t3 t4).toInt = ((t2.nanosSince t1 + t3.nanosSince t4).natAbs / 2 : Nat) := by
  have ha := toInt_sub (t := t2) (u := t1) (by omega) (by omega)
  have hb := toInt_sub (t := t3) (u := t4) (by omega) (by omega)
  have habs : ((t2.nanosSince t1 + t3.nanosSince t4).tdiv 2).natAbs =
      (t2.nanosSince t1 + t3.nanosSince t4).natAbs / 2 :=
    Int.natAbs_tdiv (t2.nanosSince t1 + t3.nanosSince t4) 2
  have hsum : (t2.sub t1 + t3.sub t4).toInt = t2.nanosSince t1 + t3.nanosSince t4 := by
    rw [Int64.toInt_add, ha, hb]
    exact Int.bmod_eq_of_le (by omega) (by omega)
  -- The halving rounds towards zero, as the 64-bit division does.
  have hhalf : ((t2.sub t1 + t3.sub t4) / 2).toInt =
      (t2.nanosSince t1 + t3.nanosSince t4).tdiv 2 := by
    have htwo : (2 : Int64).toInt = 2 := by decide
    rw [Int64.toInt_div, hsum, htwo]
    exact Int.bmod_eq_of_le (by omega) (by omega)
  unfold calcOffset
  dsimp only
  split
  · rename_i hneg
    rw [Int64.lt_iff_toInt_lt, Int64.toInt_zero, hhalf] at hneg
    rw [Int64.toInt_neg, hhalf, Int.bmod_eq_of_le (by omega) (by omega)]
    omega
  · rename_i hpos
    rw [Int64.lt_iff_toInt_lt, Int64.toInt_zero, hhalf] at hpos
    rw [hhalf]
    omega

theorem nanosSince_roundTrip_of_era_zero {s : Time} (h0 : 0 ≤ s.unix + epochOffset)
    (h1 : s.unix + epochOffset < 2 ^ 32) (u : Time) :
    (roundTrip s).nanosSince u ≤ s.nanosSince u ∧ s.nanosSince u ≤ (roundTrip s).nanosSince u + 1 := by
  have hunix := unix_roundTrip_of_era_zero h0 h1
  have hnsec := nsec_roundTrip s
  simp only [Time.nanosSince, hunix]
  omega

theorem calcOffset_roundTrip_of_era_zero {t1 t4 s2 s3 : Time}
    (h2₀ : 0 ≤ s2.unix + epochOffset) (h2₁ : s2.unix + epochOffset < 2 ^ 32)
    (h3₀ : 0 ≤ s3.unix + epochOffset) (h3₁ : s3.unix + epochOffset < 2 ^ 32)
    (h21 : (s2.nanosSince t1).natAbs < 2 ^ 62 - 1) (h34 : (s3.nanosSince t4).natAbs < 2 ^ 62 - 1) :
    (calcOffset t1 s2 s3 t4).toInt ≤ (calcOffset t1 (roundTrip s2) (roundTrip s3) t4).toInt + 1 ∧
      (calcOffset t1 (roundTrip s2) (roundTrip s3) t4).toInt ≤ (calcOffset t1 s2 s3 t4).toInt + 1 := by
  have e2 := nanosSince_roundTrip_of_era_zero h2₀ h2₁ t1
  have e3 := nanosSince_roundTrip_of_era_zero h3₀ h3₁ t4
  have hexact := toInt_calcOffset t1 s2 s3 t4 (by omega) (by omega)
  have hround := toInt_calcOffset t1 (roundTrip s2) (roundTrip s3) t4 (by omega) (by omega)
  rw [hexact, hround]
  omega

/-- From 2036-02-07T06:28:16Z on, a time through a packet comes back `2^32` seconds (136 years)
early, so an exchange with a server whose clock agrees exactly reports an offset of more than 136
years. A fraction of one nanosecond is lost as well. -/
theorem calcOffset_after_ntp_era_rollover (s : Time) (h1 : 2 ^ 32 ≤ s.unix + epochOffset)
    (h2 : s.unix + epochOffset < 2 ^ 33) :
    (roundTrip s).unix = s.unix - 2 ^ 32 ∧
      (calcOffset s s s s).toInt = 0 ∧
      4294967296000000000 ≤ (calcOffset s (roundTrip s) (roundTrip s) s).toInt ∧
      roundTrip ⟨0, 1, by decide⟩ = ⟨0, 0, by decide⟩ := by
  have hunix := unix_roundTrip_of_era_one h1 h2
  have hnsec := nsec_roundTrip s
  have hself : s.nanosSince s = 0 := by
    simp [Time.nanosSince]
  have hback : (roundTrip s).nanosSince s =
      -(2 ^ 32 * 10 ^ 9) - ((s.nsec : Int) - (roundTrip s).nsec) := by
    simp only [Time.nanosSince, hunix]
    ring
  refine ⟨hunix, ?_, ?_, by decide⟩
  · rw [toInt_calcOffset s s s s (by rw [hself]; decide) (by rw [hself]; decide), hself]
    rfl
  · rw [toInt_calcOffset s (roundTrip s) (roundTrip s) s (by omega) (by omega)]
    omega

/-- The first second of the second NTP era, 2036-02-07T06:28:16Z. -/
def ntpEraRollover : Time := ⟨2085978496, 0, by decide⟩

theorem calcOffset_after_ntp_era_rollover_2036 :
    2 ^ 32 ≤ ntpEraRollover.unix + epochOffset ∧ ntpEraRollover.unix + epochOffset < 2 ^ 33 ∧
      4294967296000000000 ≤
        (calcOffset ntpEraRollover (roundTrip ntpEraRollover) (roundTrip ntpEraRollover)
          ntpEraRollover).toInt := by
  have h1 : 2 ^ 32 ≤ ntpEraRollover.unix + epochOffset := by decide
  have h2 : ntpEraRollover.unix + epochOffset < 2 ^ 33 := by decide
  exact ⟨h1, h2, (calcOffset_after_ntp_era_rollover ntpEraRollover h1 h2).2.2.1⟩

-- The rollover second comes back as 1900-01-01T00:00:00Z.
example : roundTrip ntpEraRollover = ⟨-2208988800, 0, by decide⟩ := by decide

end Authelia.Ntp
