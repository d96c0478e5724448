import Mathlib.Data.List.Nodup

/-! Appending what is not there yet: the loop that extends a slice with each item it does not
already hold. Its result is the slice it started from followed by the new items without repeats,
each where it first appears (`foldl_append_absent`); `eraseDups` keeps first occurrences. -/

namespace List

variable {α : Type} [BEq α] [LawfulBEq α]

theorem nodup_eraseDups (l : List α) : l.eraseDups.Nodup := by
  match l with
  | [] => simp
  | a :: as =>
    rw [eraseDups_cons, nodup_cons]
    refine ⟨?_, nodup_eraseDups (as.filter fun b => !b == a)⟩
    simp [mem_eraseDups]
termination_by l.length
decreasing_by simpa using Nat.lt_succ_of_le (length_filter_le (fun b => !b == a) as)

theorem eraseDups_eq_self {l : List α} (h : l.Nodup) : l.eraseDups = l := by
  induction l with
  | nil => rfl
  | cons a as ih =>
    rw [nodup_cons] at h
    have hfilter : (as.filter fun b => !b == a) = as := by
      refine filter_eq_self.mpr fun b hb => ?_
      have hne : b ≠ a := fun hba => h.1 (hba ▸ hb)
      simpa using hne
    rw [eraseDups_cons, hfilter, ih h.2]

theorem foldl_append_absent (xs acc : List α) :
    xs.foldl (fun acc x => if acc.contains x then acc else acc ++ [x]) acc =
      acc ++ (xs.filter fun x => !acc.contains x).eraseDups := by
  induction xs generalizing acc with
  | nil => simp
  | cons x xs ih =>
    rw [foldl_cons]
    by_cases hx : acc.contains x
    · rw [if_pos hx, ih, filter_cons_of_neg (by simpa using hx)]
    · -- The new item is appended, and the test against the longer slice drops its repeats.
      have hnew : (xs.filter fun y => !(acc ++ [x]).contains y) =
          ((xs.filter fun y => !acc.contains y).filter fun b => !b == x) := by
        rw [filter_filter]
        refine filter_congr fun y _ => ?_
        by_cases hy : y = x <;> simp [hy]
      rw [if_neg hx, ih, filter_cons_of_pos (by simpa using hx), eraseDups_cons, hnew, append_assoc,
        singleton_append]

end List
