import Mathlib.Data.Rat.Floor
import Authelia.Utils.Time

/-! `DecodeTimeDuration` (`configuration/decode_hooks.go`), the decoding of every configured
duration. Each kind of number is a count of seconds multiplied by `time.Second` in `int64`; only
a float above `durationMax.Seconds()` is clamped to `durationMax`. A float64 is taken as its exact
value, a rational: `%.0f` rounds it half to even and `strconv.Atoi` reads the digits back, clamping
what does not fit. The error of the string case is kept without the text that wraps it. -/

namespace Authelia.Configuration
open Go Utils

def durationMax : Int64 := Int64.maxValue

/-- What `durationMax.Seconds()` returns: the float64 nearest to `9223372036.854775807`. -/
def durationMaxSeconds : ℚ := 4835703278458517 / 524288

/-- `%.0f` rounds the exact value of a float half to even. -/
def roundHalfEven (x : ℚ) : Int :=
  if x - ⌊x⌋ < 1 / 2 then ⌊x⌋
  else if 1 / 2 < x - ⌊x⌋ then ⌊x⌋ + 1
  else if ⌊x⌋ % 2 = 0 then ⌊x⌋ else ⌊x⌋ + 1

/-- `fmt.Sprintf("%.0f", x)`; a negative value that rounds to zero prints as `-0`. -/
def formatFloat0 (x : ℚ) : List Char :=
  (if x < 0 then ['-'] else []) ++ itoa (roundHalfEven x).natAbs

/-- The value `DecodeTimeDuration` is handed, by the kind of its type; `time.Duration` is matched
by type before the kind `int64` is. -/
inductive DecodeData
  | string (s : List Char)
  | int (n : Int64)
  | int8 (n : Int8)
  | int16 (n : Int16)
  | int32 (n : Int32)
  | float64 (x : ℚ)
  | duration (d : Int64)
  | int64 (n : Int64)
  | other

def decodeTimeDuration : DecodeData → Except ParseDurationError Int64
  | .string s => parseDurationString s
  | .int n => .ok (second * n)
  | .int8 n => .ok (second * n.toInt64)
  | .int16 n => .ok (second * n.toInt64)
  | .int32 n => .ok (second * n.toInt64)
  | .float64 x =>
    if durationMaxSeconds < x then .ok durationMax
    else .ok (second * (atoi (formatFloat0 x)).1)
  | .duration d => .ok d
  | .int64 n => .ok (second * n)
  | .other => .ok 0

/-! ### Which kinds are exact -/

def DecodeData.intSeconds : DecodeData → Option Int
  | .int n | .int64 n => some n.toInt
  | .int8 n => some n.toInt
  | .int16 n => some n.toInt
  | .int32 n => some n.toInt
  | _ => none

theorem toInt_second_mul_eq_iff (n : Int64) :
    (second * n).toInt = 10 ^ 9 * n.toInt ↔
      -2 ^ 63 ≤ 10 ^ 9 * n.toInt ∧ 10 ^ 9 * n.toInt < 2 ^ 63 := by
  refine ⟨fun h => ?_, fun h => toInt_second_mul_of_lt h.1 h.2⟩
  have hlo := Int64.le_toInt (second * n)
  have hhi := Int64.toInt_lt (second * n)
  rw [h] at hlo hhi
  exact ⟨hlo, hhi⟩

/-- Ten billion seconds: as an `int`, an `int64` or a string of digits the product wraps to a
negative duration, while the float clamps; a float just under the clamp rounds up and wraps. -/
theorem decodeTimeDuration_wraps_past_int64 :
    decodeTimeDuration (.int 10000000000) = .ok (-8446744073709551616) ∧
      decodeTimeDuration (.int64 10000000000) = .ok (-8446744073709551616) ∧
      decodeTimeDuration (.string "10000000000".toList) = .ok (-8446744073709551616) ∧
      decodeTimeDuration (.float64 10000000000) = .ok durationMax ∧
      decodeTimeDuration (.float64 (36893488147 / 4)) = .ok (-9223372036709551616) := by
  decide +kernel

end Authelia.Configuration
