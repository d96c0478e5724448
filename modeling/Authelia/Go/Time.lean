import Mathlib.Data.Int.Init
import Mathlib.Algebra.Group.Int.Defs
import Authelia.Go.Strings

/-! The parts of packages `time` and `strconv` that read durations. `time.Duration` and `int` are
64-bit, so products wrap as `Int64` does. `strconv.Atoi` reports a value out of range together
with the nearest representable value; `time.ParseDuration` parses `[-+]?([0-9]*(\.[0-9]*)?unit)+`
with the overflow checks of its loop. Its float64 scaling of a fraction is taken here in exact
arithmetic (a fraction never reaches it from the callers modelled). -/

namespace Go

def second : Int64 := 1000000000

def formatInt (n : Int64) : List Char :=
  if n < 0 then '-' :: itoa n.toInt.natAbs else itoa n.toInt.toNat

@[simp] theorem toInt_second : second.toInt = 10 ^ 9 := by decide

theorem toInt_second_mul (n : Int64) :
    (second * n).toInt = (10 ^ 9 * n.toInt).bmod (2 ^ 64) := by
  rw [Int64.toInt_mul, toInt_second]

theorem toInt_second_mul_of_lt {n : Int64} (hlo : -2 ^ 63 ≤ 10 ^ 9 * n.toInt)
    (hhi : 10 ^ 9 * n.toInt < 2 ^ 63) : (second * n).toInt = 10 ^ 9 * n.toInt := by
  rw [toInt_second_mul]
  exact Int.bmod_eq_of_le (by omega) (by omega)

/-! ### `strconv.Atoi` -/

inductive NumError
  | errSyntax
  | errRange
  deriving DecidableEq, Repr

def digitsValue : List Char → Nat → Option Nat
  | [], n => some n
  | c :: cs, n => if c.isDigit then digitsValue cs (10 * n + (c.toNat - '0'.toNat)) else none

/-- The optional sign `[-+]?` that `strconv.Atoi` and `time.ParseDuration` consume first: whether
it is a minus, and the rest. -/
def splitSign : List Char → Bool × List Char
  | '-' :: r => (true, r)
  | '+' :: r => (false, r)
  | r => (false, r)

theorem splitSign_of_ne {c : Char} (hminus : c ≠ '-') (hplus : c ≠ '+') (cs : List Char) :
    splitSign (c :: cs) = (false, c :: cs) := by
  unfold splitSign
  split
  · rename_i heq
    exact absurd (List.cons_eq_cons.mp heq).1 hminus
  · rename_i heq
    exact absurd (List.cons_eq_cons.mp heq).1 hplus
  · rfl

/-- `strconv.Atoi` on a 64-bit platform: the value and the error it returns with it. -/
def atoi (s : List Char) : Int64 × Option NumError :=
  let (neg, digits) := splitSign s
  if digits = [] then (0, some .errSyntax)
  else
    match digitsValue digits 0 with
    | none => (0, some .errSyntax)
    | some n =>
      if neg then
        if n ≤ 2 ^ 63 then (Int64.ofInt (-n), none) else (Int64.minValue, some .errRange)
      else if n < 2 ^ 63 then (Int64.ofNat n, none) else (Int64.maxValue, some .errRange)

theorem atoi_of_digits {s : List Char} (hs : s ≠ []) (hdigits : ∀ c ∈ s, c.isDigit = true)
    {n : Nat} (hn : digitsValue s 0 = some n) (hlt : n < 2 ^ 63) :
    atoi s = (Int64.ofNat n, none) := by
  obtain ⟨c, cs, rfl⟩ := List.exists_cons_of_ne_nil hs
  have hc := hdigits c List.mem_cons_self
  have hminus : c ≠ '-' := by
    rintro rfl
    exact absurd hc (by decide)
  have hplus : c ≠ '+' := by
    rintro rfl
    exact absurd hc (by decide)
  simp only [atoi, splitSign_of_ne hminus hplus, hn, reduceCtorEq, if_false, Bool.false_eq_true]
  rw [if_pos hlt]

/-! ### `time.ParseDuration` -/

inductive DurationError
  | invalid
  | missingUnit
  | unknownUnit (u : List Char)
  deriving DecidableEq, Repr

def unitMap : List (List Char × Nat) :=
  [("ns".toList, 1), ("us".toList, 1000), (['µ', 's'], 1000), (['μ', 's'], 1000),
    ("ms".toList, 1000000), ("s".toList, 1000000000), ("m".toList, 60000000000),
    ("h".toList, 3600000000000)]

/-- `leadingInt` from the value `x` of the digits before: `none` once the value passes
`1 << 63`. The text it leaves is what follows the digits. -/
def leadingInt : List Char → Nat → Option Nat
  | [], x => some x
  | c :: cs, x =>
    if c.isDigit then
      if 2 ^ 63 / 10 < x then none
      else if 2 ^ 63 < x * 10 + (c.toNat - '0'.toNat) then none
      else leadingInt cs (x * 10 + (c.toNat - '0'.toNat))
    else some x

/-- `leadingFraction`: the digits as a numerator over `scale`, ignoring those past overflow. -/
def leadingFraction : List Char → Nat → Nat → Bool → Nat × Nat
  | [], x, scale, _ => (x, scale)
  | c :: cs, x, scale, overflow =>
    if c.isDigit then
      if overflow || (2 ^ 63 - 1) / 10 < x || 2 ^ 63 < x * 10 + (c.toNat - '0'.toNat) then
        leadingFraction cs x scale true
      else leadingFraction cs (x * 10 + (c.toNat - '0'.toNat)) (scale * 10) false
    else (x, scale)

/-- The runes a unit is made of: anything but a period or a digit. -/
def isUnitRune (c : Char) : Bool := !(c == '.' || c.isDigit)

/-- The text after the number `[0-9]*(\.[0-9]*)?` at the start of `s`. -/
def afterNumber (s : List Char) : List Char :=
  match s.dropWhile Char.isDigit with
  | '.' :: r => r.dropWhile Char.isDigit
  | r => r

/-- The fraction of the number at the start of `s`, with whether it has digits. -/
def fractionOf (s : List Char) : Nat × Nat × Bool :=
  match s.dropWhile Char.isDigit with
  | '.' :: r =>
    ((leadingFraction r 0 1 false).1, (leadingFraction r 0 1 false).2,
      (r.dropWhile Char.isDigit).length != r.length)
  | _ => (0, 1, false)

theorem length_dropWhile_le (p : Char → Bool) (s : List Char) :
    (s.dropWhile p).length ≤ s.length :=
  (List.dropWhile_suffix p).length_le

theorem length_afterNumber_le (s : List Char) : (afterNumber s).length ≤ s.length := by
  unfold afterNumber
  split
  · rename_i r hr
    have h := length_dropWhile_le Char.isDigit s
    have h' := length_dropWhile_le Char.isDigit r
    rw [hr, List.length_cons] at h
    omega
  · exact length_dropWhile_le Char.isDigit s

theorem length_dropWhile_lt {p : Char → Bool} {s : List Char} (h : s.takeWhile p ≠ []) :
    (s.dropWhile p).length < s.length := by
  have hsum := congrArg List.length (List.takeWhile_append_dropWhile (p := p) (l := s))
  rw [List.length_append] at hsum
  have hpos : 0 < (s.takeWhile p).length := List.length_pos_iff.mpr h
  omega

def parseDurationLoop : List Char → Nat → Except DurationError Nat
  | [], d => .ok d
  | c :: cs, d =>
    if !(c == '.' || c.isDigit) then .error .invalid
    else
      match leadingInt (c :: cs) 0 with
      | none => .error .invalid
      | some v =>
        let pre := ((c :: cs).dropWhile Char.isDigit).length != (c :: cs).length
        let (f, scale, post) := fractionOf (c :: cs)
        if !pre && !post then .error .invalid
        else
          let s := afterNumber (c :: cs)
          if _hu : s.takeWhile isUnitRune = [] then .error .missingUnit
          else
            match unitMap.lookup (s.takeWhile isUnitRune) with
            | none => .error (.unknownUnit (s.takeWhile isUnitRune))
            | some unit =>
              if 2 ^ 63 / unit < v then .error .invalid
              else
                let v := if 0 < f then v * unit + f * unit / scale else v * unit
                if 2 ^ 63 < v then .error .invalid
                else if 2 ^ 63 < d + v then .error .invalid
                else parseDurationLoop (s.dropWhile isUnitRune) (d + v)
termination_by s => s.length
decreasing_by
  exact Nat.lt_of_lt_of_le (length_dropWhile_lt _hu) (length_afterNumber_le _)

def parseDuration (s : List Char) : Except DurationError Int64 :=
  let (neg, s') := splitSign s
  if s' = ['0'] then .ok 0
  else if s' = [] then .error .invalid
  else
    match parseDurationLoop s' 0 with
    | .error e => .error e
    | .ok d =>
      if neg then .ok (-(Int64.ofNat d))
      else if 2 ^ 63 - 1 < d then .error .invalid
      else .ok (Int64.ofNat d)

end Go
