import Authelia.Go.Path
import Authelia.Go.Url

/-! `utils.URLPathFullClean` (`url.go`), the path `authorization.NewObject` gives the access
control rules: the URL path through `path.Clean`, a trailing slash kept, the raw query appended.
The path part is a fixed point of the same clean-up, and a rooted path reaches the rules without
`.` or `..` elements. -/

namespace Authelia.Utils
open Go

/-- `URLPathFullClean`. The source measures the path in bytes; it only compares that length with
one and reads the last byte against a slash, and both tests agree on characters. -/
def urlPathFullClean (u : URL) : List Char :=
  let lengthPath := u.path.length
  let lengthQuery := u.rawQuery.length
  let appendForwardSlash := decide (1 < lengthPath) && u.path.getLast? == some '/'
  if lengthPath == 1 && lengthQuery == 0 then u.path
  else if lengthPath == 1 then Path.clean u.path ++ '?' :: u.rawQuery
  else if lengthQuery != 0 && appendForwardSlash then Path.clean u.path ++ '/' :: '?' :: u.rawQuery
  else if lengthQuery != 0 then Path.clean u.path ++ '?' :: u.rawQuery
  else if appendForwardSlash then Path.clean u.path ++ ['/']
  else Path.clean u.path

def fullCleanPath (path : List Char) : List Char :=
  Path.clean path ++ if decide (1 < path.length) && path.getLast? == some '/' then ['/'] else []

def fullCleanQuery (rawQuery : List Char) : List Char :=
  if rawQuery = [] then [] else '?' :: rawQuery

theorem urlPathFullClean_eq (u : URL) :
    urlPathFullClean u = fullCleanPath u.path ++ fullCleanQuery u.rawQuery := by
  unfold urlPathFullClean fullCleanPath fullCleanQuery
  by_cases hlen : u.path.length = 1
  · -- a one-byte path is clean and has no trailing slash to keep
    obtain ⟨c, hc⟩ := List.length_eq_one_iff.mp hlen
    have hclean : Path.clean u.path = u.path := by rw [hc, Path.clean_singleton]
    by_cases hq : u.rawQuery = [] <;> simp [hlen, hq, hclean]
  · by_cases hq : u.rawQuery = []
    · by_cases hslash : (decide (1 < u.path.length) && u.path.getLast? == some '/') = true
      · simp only [hslash] at ⊢
        simp [hlen, hq]
      · simp only [Bool.not_eq_true] at hslash
        simp [hlen, hq, hslash]
    · by_cases hslash : (decide (1 < u.path.length) && u.path.getLast? == some '/') = true
      · simp only [hslash] at ⊢
        simp [hlen, hq]
      · simp only [Bool.not_eq_true] at hslash
        simp [hlen, hq, hslash]

theorem fullCleanPath_fullCleanPath (path : List Char) :
    fullCleanPath (fullCleanPath path) = fullCleanPath path := by
  have hne := Path.clean_ne_nil path
  by_cases hslash : (decide (1 < path.length) && path.getLast? == some '/') = true
  · -- the kept slash makes the cleaned path end in a slash again, which is kept again
    have hkeep : (decide (1 < (Path.clean path ++ ['/']).length) &&
        (Path.clean path ++ ['/']).getLast? == some '/') = true := by
      have := List.length_pos_iff.mpr hne
      simp only [List.length_append, List.length_singleton, List.getLast?_append, List.getLast?_singleton,
        Option.some_or, beq_self_eq_true, Bool.and_true, decide_eq_true_eq]
      omega
    have hpath : fullCleanPath path = Path.clean path ++ ['/'] := by rw [fullCleanPath, if_pos hslash]
    rw [hpath, fullCleanPath, if_pos hkeep, Path.clean_append_slash hne, Path.clean_clean]
  · -- a clean path ends in a slash only as the root, which is too short to keep one
    have hkeep : ¬(decide (1 < (Path.clean path).length) && (Path.clean path).getLast? == some '/') = true := by
      intro hc
      simp only [Bool.and_eq_true, decide_eq_true_eq, beq_iff_eq] at hc
      have hroot := Path.clean_eq_root_of_getLast? hc.2
      rw [hroot] at hc
      exact absurd hc.1 (by decide)
    have hpath : fullCleanPath path = Path.clean path := by
      rw [fullCleanPath, if_neg hslash, List.append_nil]
    rw [hpath, fullCleanPath, if_neg hkeep, List.append_nil, Path.clean_clean]

theorem urlPathFullClean_fullCleanPath (u : URL) :
    urlPathFullClean { u with path := fullCleanPath u.path } = urlPathFullClean u := by
  rw [urlPathFullClean_eq, urlPathFullClean_eq]
  exact congrArg (· ++ fullCleanQuery u.rawQuery) (fullCleanPath_fullCleanPath u.path)

theorem fullCleanPath_of_rooted {path : List Char} (h : path.head? = some '/') :
    (fullCleanPath path).head? = some '/' ∧
      ∀ e ∈ Path.elements (fullCleanPath path), Path.Element e ∧ e ≠ Path.dotDot := by
  obtain ⟨hhead, helems⟩ := Path.elements_clean_of_rooted h
  have hne := Path.clean_ne_nil path
  refine ⟨by rw [fullCleanPath, List.head?_append_of_ne_nil _ hne, hhead], ?_⟩
  rw [fullCleanPath]
  split
  · rwa [Path.elements_append_slash]
  · rwa [List.append_nil]

end Authelia.Utils
