import Authelia.Go.Strings

/-! The string helpers of `internal/utils` that the matchers and the validators call. -/

namespace Authelia.Utils
open Go

def isStringInSlice (needle : List Char) (haystack : List (List Char)) : Bool :=
  haystack.any fun b => b == needle

/-- `IsStringInSliceF`, with the comparison passed as `isEqual needle item`. -/
def isStringInSliceF (needle : List Char) (haystack : List (List Char))
    (isEqual : List Char → List Char → Bool) : Bool :=
  haystack.any fun b => isEqual needle b

def isStringSliceContainsAny (needles haystack : List (List Char)) : Bool :=
  needles.any fun n => isStringInSlice n haystack

section CaseFolding
variable (F : CaseFolding)

def isStringInSliceFold (needle : List Char) (haystack : List (List Char)) : Bool :=
  haystack.any fun b => equalFold F b needle

/-- `StringHasSuffixFold`: the length test guards the slice, so it never panics. -/
def stringHasSuffixFold (s suffix : List Char) : Bool :=
  decide (String.utf8Len suffix ≤ String.utf8Len s) &&
    equalFold F (dropBytes s (String.utf8Len s - String.utf8Len suffix)) suffix

/-- `HasDomainSuffix`: the hostname is the domain, or ends with it behind a period. -/
def hasDomainSuffix (domain domainSuffix : List Char) : Bool :=
  if domainSuffix.isEmpty then false
  else if equalFold F domain domainSuffix then true
  else (hasPrefix domainSuffix ['.'] && stringHasSuffixFold F domain domainSuffix) ||
    stringHasSuffixFold F domain ('.' :: domainSuffix)

theorem stringHasSuffixFold_of_lt {s suffix : List Char}
    (h : String.utf8Len s < String.utf8Len suffix) : stringHasSuffixFold F s suffix = false := by
  simp [stringHasSuffixFold, Nat.not_le.mpr h]

@[simp] theorem stringHasSuffixFold_append (u v : List Char) :
    stringHasSuffixFold F (u ++ v) v = true := by
  simp [stringHasSuffixFold]

@[simp] theorem stringHasSuffixFold_self (s : List Char) : stringHasSuffixFold F s s = true := by
  simpa using stringHasSuffixFold_append F [] s

theorem hasDomainSuffix_of_lt {domain domainSuffix : List Char}
    (hlen : domain.length < domainSuffix.length)
    (hbytes : String.utf8Len domain < String.utf8Len domainSuffix) :
    hasDomainSuffix F domain domainSuffix = false := by
  have heq : equalFold F domain domainSuffix = false := by
    rw [Bool.eq_false_iff]
    exact fun h => hlen.ne (length_eq_of_equalFold F h)
  have hdot : String.utf8Len domain < String.utf8Len ('.' :: domainSuffix) := by
    rw [String.utf8Len_cons]
    omega
  simp [hasDomainSuffix, heq, stringHasSuffixFold_of_lt F hbytes, stringHasSuffixFold_of_lt F hdot]

theorem hasDomainSuffix_append_period (u : List Char) {s : List Char} (hs : s ≠ []) :
    hasDomainSuffix F (u ++ '.' :: s) s = true := by
  simp [hasDomainSuffix, hs]

theorem isStringInSliceFold_iff (needle : List Char) (haystack : List (List Char)) :
    isStringInSliceFold F needle haystack = true ↔ ∃ b ∈ haystack, equalFold F b needle = true := by
  simp [isStringInSliceFold]

end CaseFolding

theorem isStringInSlice_iff (needle : List Char) (haystack : List (List Char)) :
    isStringInSlice needle haystack = true ↔ needle ∈ haystack := by
  simp [isStringInSlice]

/-- `isStringSlicesDifferent`, with the membership test passed as `method`: the lengths differ, or
some item of `a` is not found in `b`. -/
def isStringSlicesDifferentF (a b : List (List Char))
    (method : List Char → List (List Char) → Bool) : Bool :=
  a.length != b.length || a.any fun s => !method s b

def isStringSlicesDifferent (a b : List (List Char)) : Bool :=
  isStringSlicesDifferentF a b isStringInSlice

theorem subset_of_isStringSlicesDifferent_eq_false {a b : List (List Char)}
    (h : isStringSlicesDifferent a b = false) : a.length = b.length ∧ ∀ x ∈ a, x ∈ b := by
  simp only [isStringSlicesDifferent, isStringSlicesDifferentF, Bool.or_eq_false_iff,
    bne_eq_false_iff_eq, List.any_eq_false, Bool.not_eq_true', Bool.not_eq_false] at h
  exact ⟨h.1, fun x hx => (isStringInSlice_iff x b).mp (h.2 x hx)⟩

theorem isStringInSlice_eq_contains (needle : List Char) (haystack : List (List Char)) :
    isStringInSlice needle haystack = haystack.contains needle := by
  rw [Bool.eq_iff_iff, isStringInSlice_iff, List.contains_iff_mem]

end Authelia.Utils
