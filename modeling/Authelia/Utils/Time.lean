import Authelia.Go.Time
import Authelia.Go.Replace
import Authelia.Utils.Strings

/-! `ParseDurationString` (`utils/time.go`). A string of digits is a number of seconds; anything
else is rewritten by `StandardizeDurationString` into units `time.ParseDuration` knows, token by
token: every match of `reDurationStandard` in the text with spaces and "and" removed. Text between
the matches is never looked at, and quantities are multiplied in 64-bit `int`. -/

namespace Authelia.Utils
open Go

def reOnlyNumericMatch (s : List Char) : Bool := !s.isEmpty && s.all Char.isDigit

/-- `\s` of RE2: tab, newline, form feed, carriage return and space. -/
def isRegexSpace (c : Char) : Bool :=
  c == ' ' || c == '\t' || c == '\n' || c == '\x0c' || c == '\r'

def isDurationUnitRune (c : Char) : Bool := !c.isDigit && !isRegexSpace c

/-- A match of `(?P<Duration>[1-9]\d*?)(?P<Unit>[^\d\s]+)` at the start of the text, as its
quantity, its unit and the text after it. The unit cannot start with a digit, so the lazy digits
run to the end of the digits, and the unit is the longest run of its class after them. -/
def durationMatchAt : List Char → Option (List Char × List Char × List Char)
  | [] => none
  | c :: cs =>
    if '1' ≤ c ∧ c ≤ '9' then
      let r := cs.dropWhile Char.isDigit
      if r.takeWhile isDurationUnitRune = [] then none
      else
        some (c :: cs.takeWhile Char.isDigit, r.takeWhile isDurationUnitRune,
          r.dropWhile isDurationUnitRune)
    else none

theorem length_rest_lt_of_durationMatchAt {s q u rest : List Char}
    (h : durationMatchAt s = some (q, u, rest)) : rest.length < s.length := by
  match s, h with
  | c :: cs, h =>
    simp only [durationMatchAt] at h
    split_ifs at h with hc hu
    cases h
    have h₁ := length_dropWhile_lt hu
    have h₂ := length_dropWhile_le Char.isDigit cs
    simp only [List.length_cons]
    omega

/-- `reDurationStandard.FindAllStringSubmatch(s, -1)`, each match as its quantity and unit: the
leftmost match, then the matches after it; a rune that starts no match is skipped. -/
def findAllDurationMatches : List Char → List (List Char × List Char)
  | [] => []
  | c :: cs =>
    match _h : durationMatchAt (c :: cs) with
    | some (q, u, rest) => (q, u) :: findAllDurationMatches rest
    | none => findAllDurationMatches cs
termination_by s => s.length
decreasing_by
  · exact length_rest_lt_of_durationMatchAt _h
  · exact Nat.lt_succ_self cs.length

def standardDurationUnits : List (List Char) :=
  ["ns".toList, "us".toList, ['µ', 's'], ['μ', 's'], "ms".toList, "s".toList, "m".toList,
    "h".toList]

def hoursInDay : Int64 := 24

def hoursInWeek : Int64 := hoursInDay * 7

def hoursInMonth : Int64 := hoursInDay * 30

def hoursInYear : Int64 := hoursInDay * 365

def errFmtUnitNotValid : List Char := "the unit '%s' is not valid".toList

def standardizeQuantityAndUnits (qty : Int64) (unit : List Char) :
    Except (List Char) (List Char) :=
  if isStringInSlice unit standardDurationUnits then .ok (formatInt qty ++ unit)
  else if String.utf8Len unit = 1 then
    if unit = ['d'] then .ok (formatInt (qty * hoursInDay) ++ ['h'])
    else if unit = ['w'] then .ok (formatInt (qty * hoursInWeek) ++ ['h'])
    else if unit = ['M'] then .ok (formatInt (qty * hoursInMonth) ++ ['h'])
    else if unit = ['y'] then .ok (formatInt (qty * hoursInYear) ++ ['h'])
    else .error (sprintf errFmtUnitNotValid [unit])
  else if unit = "millisecond".toList ∨ unit = "milliseconds".toList then
    .ok (formatInt qty ++ "ms".toList)
  else if unit = "second".toList ∨ unit = "seconds".toList then .ok (formatInt qty ++ ['s'])
  else if unit = "minute".toList ∨ unit = "minutes".toList then .ok (formatInt qty ++ ['m'])
  else if unit = "hour".toList ∨ unit = "hours".toList then .ok (formatInt qty ++ ['h'])
  else if unit = "day".toList ∨ unit = "days".toList then
    .ok (formatInt (qty * hoursInDay) ++ ['h'])
  else if unit = "week".toList ∨ unit = "weeks".toList then
    .ok (formatInt (qty * hoursInWeek) ++ ['h'])
  else if unit = "month".toList ∨ unit = "months".toList then
    .ok (formatInt (qty * hoursInMonth) ++ ['h'])
  else if unit = "year".toList ∨ unit = "years".toList then
    .ok (formatInt (qty * hoursInYear) ++ ['h'])
  else .error (sprintf errFmtUnitNotValid [unit])

def errFmtCouldNotParse : List Char := "could not parse '%s' as a duration".toList

def errFmtUnitsPortion : List Char :=
  "could not parse the units portion of '%s' in duration string '%s': %w".toList

def atoiErrorText (num : List Char) : NumError → List Char
  | .errSyntax => "strconv.Atoi: parsing \"".toList ++ num ++ "\": invalid syntax".toList
  | .errRange => "strconv.Atoi: parsing \"".toList ++ num ++ "\": value out of range".toList

/-- One match of the loop of `StandardizeDurationString`, appended to the output so far. -/
def standardizeMatch (input : List Char) (output : List Char) (m : List Char × List Char) :
    Except (List Char) (List Char) :=
  match atoi m.1 with
  | (_, some e) => .error (atoiErrorText m.1 e)
  | (q, none) =>
    match standardizeQuantityAndUnits q m.2 with
    | .error e => .error (sprintf errFmtUnitsPortion [m.1 ++ m.2, input, e])
    | .ok o => .ok (output ++ o)

def standardizeDurationString (input : List Char) : Except (List Char) (List Char) :=
  if input = [] then .ok "0s".toList
  else
    let input := replaceAll input "and".toList []
    let found := findAllDurationMatches (replaceAll input [' '] [])
    if found = [] then .error (sprintf errFmtCouldNotParse [input])
    else found.foldlM (standardizeMatch input) []

inductive ParseDurationError
  | atoi (text : List Char)
  | standardize (text : List Char)
  | time (e : DurationError)
  deriving DecidableEq, Repr

def parseDurationString (input : List Char) : Except ParseDurationError Int64 :=
  if reOnlyNumericMatch input then
    match atoi input with
    | (_, some e) => .error (.atoi (atoiErrorText input e))
    | (seconds, none) => .ok (second * seconds)
  else
    match standardizeDurationString input with
    | .error e => .error (.standardize e)
    | .ok out =>
      match parseDuration out with
      | .error e => .error (.time e)
      | .ok d => .ok d

/-! ### What the parse reads -/

theorem parseDurationString_of_digits {s : List Char} (hs : reOnlyNumericMatch s = true) {n : Nat}
    (hn : digitsValue s 0 = some n) (hlt : n < 2 ^ 63) :
    parseDurationString s = .ok (second * Int64.ofNat n) := by
  have hs' := hs
  simp only [reOnlyNumericMatch, Bool.and_eq_true, Bool.not_eq_true', List.isEmpty_eq_false_iff,
    List.all_eq_true] at hs'
  rw [parseDurationString, if_pos hs, atoi_of_digits hs'.1 hs'.2 hn hlt]

theorem findAllDurationMatches_cons_of_not_start {c : Char} (hc : ¬('1' ≤ c ∧ c ≤ '9'))
    (cs : List Char) : findAllDurationMatches (c :: cs) = findAllDurationMatches cs := by
  have hnone : durationMatchAt (c :: cs) = none := by simp only [durationMatchAt, if_neg hc]
  rw [findAllDurationMatches]
  split
  · rename_i heq
    rw [hnone] at heq
    cases heq
  · rfl

theorem standardizeMatch_toOption (input input' output : List Char) (m : List Char × List Char) :
    (standardizeMatch input output m).toOption = (standardizeMatch input' output m).toOption := by
  unfold standardizeMatch
  split
  · rfl
  · split <;> rfl

theorem foldlM_standardizeMatch_toOption (input input' : List Char) :
    ∀ (ms : List (List Char × List Char)) (output : List Char),
      (ms.foldlM (standardizeMatch input) output).toOption =
        (ms.foldlM (standardizeMatch input') output).toOption
  | [], _ => rfl
  | m :: ms, output => by
    have hstep := standardizeMatch_toOption input input' output m
    simp only [List.foldlM_cons]
    cases h : standardizeMatch input output m with
    | error e =>
      cases h' : standardizeMatch input' output m with
      | error e' => rfl
      | ok o' => simp [h, h', Except.toOption] at hstep
    | ok o =>
      cases h' : standardizeMatch input' output m with
      | error e' => simp [h, h', Except.toOption] at hstep
      | ok o' =>
        simp only [h, h', Except.toOption, Option.some.injEq] at hstep
        subst hstep
        exact foldlM_standardizeMatch_toOption input input' ms o

theorem parseDurationString_toOption {s : List Char} (hnum : reOnlyNumericMatch s = false) :
    (parseDurationString s).toOption =
      (standardizeDurationString s).toOption.bind fun out => (parseDuration out).toOption := by
  rw [parseDurationString, if_neg (by simp [hnum])]
  cases standardizeDurationString s with
  | error e => rfl
  | ok out =>
    rcases h : parseDuration out with e | d <;> simp [h, Except.toOption, Option.bind]

theorem parseDurationString_minus_cons {s : List Char} (hs : s ≠ [])
    (hnum : reOnlyNumericMatch s = false) :
    (parseDurationString ('-' :: s)).toOption = (parseDurationString s).toOption := by
  have hnum' : reOnlyNumericMatch ('-' :: s) = false := by simp [reOnlyNumericMatch]
  have hand : "and".toList.isPrefixOf ('-' :: s) = false := by simp [List.isPrefixOf]
  have hspace : ∀ t : List Char, [' '].isPrefixOf ('-' :: t) = false := by
    simp [List.isPrefixOf]
  -- the minus survives both removals and is then skipped by the matcher
  have hfound : findAllDurationMatches (replaceAll (replaceAll ('-' :: s) "and".toList [])
      [' '] []) = findAllDurationMatches (replaceAll (replaceAll s "and".toList []) [' '] []) := by
    rw [replaceAll_cons_of_not_isPrefixOf [] (by simp) hand,
      replaceAll_cons_of_not_isPrefixOf [] (by simp) (hspace _),
      findAllDurationMatches_cons_of_not_start (by decide)]
  have hstd : (standardizeDurationString ('-' :: s)).toOption =
      (standardizeDurationString s).toOption := by
    simp only [standardizeDurationString, reduceCtorEq, if_false, if_neg hs, hfound]
    split
    · rfl
    · exact foldlM_standardizeMatch_toOption _ _ _ _
  rw [parseDurationString_toOption hnum', parseDurationString_toOption hnum, hstd]

/-- Outside its grammar: the minus of "-5s" is skipped and the duration is positive, ten billion
seconds wrap to a negative duration, and a number of days whose product with 24 wraps past zero
comes out as minus sixteen hours. -/
theorem parseDurationString_accepts_outside_grammar :
    parseDurationString "-5s".toList = .ok 5000000000 ∧
      parseDurationString "10000000000".toList = .ok (-8446744073709551616) ∧
      parseDurationString "768614336404564650d".toList = .ok (-57600000000000) := by
  decide +kernel

end Authelia.Utils
