import Mathlib.Data.List.Infix

/-! The functions of package `strings` that cut and rewrite text: `ReplaceAll`, `Contains`, `Cut`,
`SplitN`, `Join` and `FieldsFunc`. A match of a non-empty pattern can only start at the pattern's
first rune, so text without that rune passes `ReplaceAll` unchanged. -/

namespace Go

/-- The scan of `strings.ReplaceAll` for a non-empty pattern; `skip` counts the runes of a match
that has already been replaced. -/
def replaceAllFrom (old new : List Char) : List Char → Nat → List Char
  | [], _ => []
  | _ :: cs, skip + 1 => replaceAllFrom old new cs skip
  | c :: cs, 0 =>
    if old.isPrefixOf (c :: cs) then new ++ replaceAllFrom old new cs (old.length - 1)
    else c :: replaceAllFrom old new cs 0

/-- `strings.ReplaceAll`; an empty pattern matches before every rune and at the end. -/
def replaceAll (s old new : List Char) : List Char :=
  if old.isEmpty then new ++ s.flatMap (· :: new) else replaceAllFrom old new s 0

def contains (s substr : List Char) : Bool := decide (substr <:+: s)

/-- `strings.Cut`: the text before and after the first occurrence of `sep`. -/
def cut (s sep : List Char) : Option (List Char × List Char) :=
  match s with
  | [] => if sep.isEmpty then some ([], []) else none
  | c :: cs =>
    if sep.isPrefixOf (c :: cs) then some ([], (c :: cs).drop sep.length)
    else (cut cs sep).map fun (before, after) => (c :: before, after)

/-- `strings.SplitN` for a non-empty separator and a count `n ≥ 0`: at most `n` pieces, the last
one the unsplit rest. -/
def splitN (s sep : List Char) : Nat → List (List Char)
  | 0 => []
  | 1 => [s]
  | n + 2 =>
    match cut s sep with
    | some (before, after) => before :: splitN after sep (n + 1)
    | none => [s]

def join (elems : List (List Char)) (sep : List Char) : List Char := sep.intercalate elems

/-- `strings.FieldsFunc`: the non-empty runs of runes between runes that `f` reports. `f` is
called once per rune, in order, and may carry state as a Go closure does; `field` is the run so
far. -/
def fieldsFunc {σ : Type} (f : σ → Char → Bool × σ) (st : σ) (s : List Char) :
    List (List Char) :=
  go st [] s
where
  go : σ → List Char → List Char → List (List Char)
    | _, field, [] => if field = [] then [] else [field]
    | st, field, c :: cs =>
      let (sep, st') := f st c
      if sep then (if field = [] then go st' [] cs else field :: go st' [] cs)
      else go st' (field ++ [c]) cs

section FieldsFunc
variable {σ : Type} {f : σ → Char → Bool × σ}

theorem fieldsFunc_go_of_sep {st st' : σ} {c : Char} (h : f st c = (true, st'))
    (field cs : List Char) :
    fieldsFunc.go f st field (c :: cs) =
      if field = [] then fieldsFunc.go f st' [] cs else field :: fieldsFunc.go f st' [] cs := by
  simp [fieldsFunc.go, h]

theorem fieldsFunc_go_of_not_sep {st st' : σ} {c : Char} (h : f st c = (false, st'))
    (field cs : List Char) :
    fieldsFunc.go f st field (c :: cs) = fieldsFunc.go f st' (field ++ [c]) cs := by
  simp [fieldsFunc.go, h]

end FieldsFunc

section ReplaceAll
variable {old : List Char} (new : List Char)

theorem replaceAllFrom_append_length (xs rest : List Char) :
    replaceAllFrom old new (xs ++ rest) xs.length = replaceAllFrom old new rest 0 := by
  induction xs with
  | nil => rfl
  | cons c cs ih => exact ih

theorem replaceAll_nil (hold : old ≠ []) : replaceAll [] old new = [] := by
  simp [replaceAll, hold, replaceAllFrom]

theorem replaceAll_append_of_eq (hold : old ≠ []) (rest : List Char) :
    replaceAll (old ++ rest) old new = new ++ replaceAll rest old new := by
  obtain ⟨c, cs, rfl⟩ := List.exists_cons_of_ne_nil hold
  have hskip : replaceAllFrom (c :: cs) new (cs ++ rest) cs.length =
      replaceAllFrom (c :: cs) new rest 0 := replaceAllFrom_append_length new cs rest
  simp only [replaceAll, List.isEmpty_cons, Bool.false_eq_true, if_false, List.cons_append]
  rw [replaceAllFrom, if_pos (by simp), List.length_cons, Nat.add_sub_cancel, hskip]

theorem replaceAll_cons_of_not_isPrefixOf (hold : old ≠ []) {c : Char} {cs : List Char}
    (h : old.isPrefixOf (c :: cs) = false) :
    replaceAll (c :: cs) old new = c :: replaceAll cs old new := by
  simp [replaceAll, hold, replaceAllFrom, h]

theorem replaceAll_append_of_not_mem {b : Char} (hb : old.head? = some b) {w : List Char}
    (hw : b ∉ w) (rest : List Char) :
    replaceAll (w ++ rest) old new = w ++ replaceAll rest old new := by
  have hold : old ≠ [] := by
    rintro rfl
    cases hb
  induction w with
  | nil => rfl
  | cons c cs ih =>
    have hc : old.isPrefixOf (c :: (cs ++ rest)) = false := by
      obtain ⟨d, ds, rfl⟩ := List.exists_cons_of_ne_nil hold
      have hbc : b ≠ c := fun h => hw (h ▸ List.mem_cons_self)
      simp only [List.head?_cons, Option.some.injEq] at hb
      simp [List.isPrefixOf, hb, hbc]
    rw [List.cons_append, replaceAll_cons_of_not_isPrefixOf new hold hc,
      ih (fun h => hw (List.mem_cons_of_mem c h)), List.cons_append]

theorem replaceAll_singleton (d : Char) (s : List Char) :
    replaceAll s [d] new = s.flatMap fun c => if c = d then new else [c] := by
  induction s with
  | nil => exact replaceAll_nil new (List.cons_ne_nil d [])
  | cons c cs ih =>
    by_cases hcd : c = d
    · subst hcd
      rw [← List.singleton_append, replaceAll_append_of_eq new (List.cons_ne_nil c []), ih]
      simp
    · have hno : [d].isPrefixOf (c :: cs) = false := by
        simp [List.isPrefixOf, Ne.symm hcd]
      rw [replaceAll_cons_of_not_isPrefixOf new (List.cons_ne_nil d []) hno, ih]
      simp [hcd]

end ReplaceAll

theorem splitN_two_head {c : Char} (s : List Char) :
    (splitN s [c] 2).head? = some (s.takeWhile (· != c)) := by
  induction s with
  | nil => simp [splitN, cut]
  | cons d ds ih =>
    by_cases hcd : d = c
    · subst hcd
      simp [splitN, cut, List.isPrefixOf]
    · have hne : (d != c) = true := by simpa using hcd
      cases hcut : cut ds [c] with
      | none =>
        have hds : ds = ds.takeWhile (· != c) := by
          simpa [splitN, hcut] using ih
        simpa [splitN, cut, List.isPrefixOf, Ne.symm hcd, hcut, hne] using hds
      | some p =>
        have hds : p.1 = ds.takeWhile (· != c) := by
          simpa [splitN, hcut] using ih
        simpa [splitN, cut, List.isPrefixOf, Ne.symm hcd, hcut, hne] using hds

end Go
