import Mathlib.Data.List.Basic

/-! A compiled `regexp.Regexp`, seen through the methods the code calls. The matching engine itself
is the standard library's; the model keeps what every caller relies on: a match yields one entry per
capture group, so indexing the result by a group number is in bounds. -/

namespace Go

/-- A compiled pattern. `findStringSubmatch s` is `FindStringSubmatch`: `none` when there is no
match, otherwise the leftmost match followed by one entry per capture group (an unmatched group
gives the empty string). `subexpNames` is `SubexpNames`, whose entry 0 stands for the whole match. -/
structure Regexp where
  subexpNames : List (List Char)
  findStringSubmatch : List Char → Option (List (List Char))
  length_submatch : ∀ s m, findStringSubmatch s = some m → m.length = subexpNames.length

namespace Regexp

/-- `MatchString`: whether `s` contains a match, i.e. `FindStringSubmatch` is not nil. -/
def matchString (r : Regexp) (s : List Char) : Bool := (r.findStringSubmatch s).isSome

end Regexp

end Go
