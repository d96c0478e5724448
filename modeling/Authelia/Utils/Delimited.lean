import Authelia.Go.Replace

/-! `StringJoinDelimitedEscaped` and `StringSplitDelimitedEscaped` (`utils/strings.go`), and the
column type `StringSlicePipeDelimited` that stores a string slice with them (`model/types.go`).
The joiner escapes the delimiter with a backslash and leaves backslashes alone. The splitter's
flag toggles on every backslash and is cleared by any other rune except the delimiter, so it is
still set after an escaped delimiter. The encoding round-trips on elements without a backslash in
which every delimiter is followed by another rune (`stringSplitDelimitedEscaped_join`), and not
beyond. -/

namespace Authelia.Utils
open Go

def stringJoinDelimitedEscaped (value : List (List Char)) (delimiter : Char) : List Char :=
  join (value.map fun v => replaceAll v [delimiter] ['\\', delimiter]) [delimiter]

/-- The closure `StringSplitDelimitedEscaped` hands `FieldsFunc`, with the flag it captures. -/
def splitDelimitedStep (delimiter : Char) (escape : Bool) (r : Char) : Bool × Bool :=
  let escape := if r == '\\' then !escape else if escape && r != delimiter then false else escape
  (!escape && r == delimiter, escape)

def stringSplitDelimitedEscaped (value : List Char) (delimiter : Char) : List (List Char) :=
  (fieldsFunc (splitDelimitedStep delimiter) false value).map fun v =>
    replaceAll v ['\\', delimiter] [delimiter]

abbrev StringSlicePipeDelimited := List (List Char)

def StringSlicePipeDelimited.value (s : StringSlicePipeDelimited) : List Char :=
  stringJoinDelimitedEscaped s '|'

/-- `StringSlicePipeDelimited.Scan` of a string column; a NULL leaves the slice as it was. -/
def StringSlicePipeDelimited.scan (s : StringSlicePipeDelimited) (value : Option (List Char)) :
    StringSlicePipeDelimited :=
  match value with
  | some v => stringSplitDelimitedEscaped v '|'
  | none => s

/-- Every delimiter of the element is followed, inside it, by a rune other than the delimiter. -/
def delimitersFollowed (d : Char) : List Char → Bool
  | [] => true
  | [c] => c != d
  | c :: c' :: cs => (c != d || c' != d) && delimitersFollowed d (c' :: cs)

section Escape
variable {d : Char}

def escapeDelimiter (d : Char) (x : List Char) : List Char :=
  x.flatMap fun c => if c = d then ['\\', d] else [c]

@[simp] theorem escapeDelimiter_nil : escapeDelimiter d [] = [] := rfl

theorem escapeDelimiter_cons_self (cs : List Char) :
    escapeDelimiter d (d :: cs) = '\\' :: d :: escapeDelimiter d cs := by
  simp [escapeDelimiter]

theorem escapeDelimiter_cons_of_ne {c : Char} (hcd : c ≠ d) (cs : List Char) :
    escapeDelimiter d (c :: cs) = c :: escapeDelimiter d cs := by
  simp [escapeDelimiter, hcd]

theorem replaceAll_delimiter (x : List Char) :
    replaceAll x [d] ['\\', d] = escapeDelimiter d x :=
  replaceAll_singleton _ d x

theorem escapeDelimiter_ne_nil {x : List Char} (hx : x ≠ []) : escapeDelimiter d x ≠ [] := by
  obtain ⟨c, cs, rfl⟩ := List.exists_cons_of_ne_nil hx
  by_cases hc : c = d
  · subst hc
    simp [escapeDelimiter_cons_self]
  · simp [escapeDelimiter_cons_of_ne hc]

theorem replaceAll_escapeDelimiter : ∀ {x : List Char}, '\\' ∉ x →
    replaceAll (escapeDelimiter d x) ['\\', d] [d] = x
  | [], _ => replaceAll_nil _ (List.cons_ne_nil _ _)
  | c :: cs, hx => by
    have ih : replaceAll (escapeDelimiter d cs) ['\\', d] [d] = cs :=
      replaceAll_escapeDelimiter fun h => hx (List.mem_cons_of_mem c h)
    have hc : c ≠ '\\' := fun h => hx (h ▸ List.mem_cons_self)
    by_cases hcd : c = d
    · subst hcd
      rw [escapeDelimiter_cons_self]
      show replaceAll (['\\', c] ++ escapeDelimiter c cs) ['\\', c] [c] = c :: cs
      rw [replaceAll_append_of_eq _ (List.cons_ne_nil _ _), ih]
      rfl
    · have hno : ['\\', d].isPrefixOf (c :: escapeDelimiter d cs) = false := by
        simp [List.isPrefixOf, Ne.symm hc]
      rw [escapeDelimiter_cons_of_ne hcd, replaceAll_cons_of_not_isPrefixOf _ (List.cons_ne_nil _ _) hno,
        ih]

end Escape

/-! ### The splitter over a joined slice -/

section Split
variable {d : Char}

theorem splitDelimitedStep_delimiter (hd : d ≠ '\\') : splitDelimitedStep d false d = (true, false) := by
  simp [splitDelimitedStep, hd]

theorem splitDelimitedStep_of_ne {c : Char} (hc : c ≠ '\\') (hcd : c ≠ d) (e : Bool) :
    splitDelimitedStep d e c = (false, false) := by
  cases e <;> simp [splitDelimitedStep, hc, hcd]

theorem fieldsFunc_go_escapeDelimiter (hd : d ≠ '\\') :
    ∀ (x : List Char) (e : Bool) (field rest : List Char), '\\' ∉ x →
      delimitersFollowed d x = true → x ≠ [] → (e = true → x.head? ≠ some d) →
      fieldsFunc.go (splitDelimitedStep d) e field (escapeDelimiter d x ++ rest) =
        fieldsFunc.go (splitDelimitedStep d) false (field ++ escapeDelimiter d x) rest
  | [], _, _, _, _, _, hne, _ => absurd rfl hne
  | [c], e, field, rest, hx, hf, _, _ => by
    have hcd : c ≠ d := by simpa [delimitersFollowed] using hf
    have hc : c ≠ '\\' := fun h => hx (h ▸ List.mem_singleton_self c)
    rw [escapeDelimiter_cons_of_ne hcd, escapeDelimiter_nil, List.cons_append, List.nil_append,
      fieldsFunc_go_of_not_sep (splitDelimitedStep_of_ne hc hcd e)]
  | c :: c' :: cs, e, field, rest, hx, hf, _, he => by
    simp only [delimitersFollowed, Bool.and_eq_true, Bool.or_eq_true, bne_iff_ne] at hf
    obtain ⟨hpair, hf'⟩ := hf
    have hc : c ≠ '\\' := fun h => hx (h ▸ List.mem_cons_self)
    have hx' : '\\' ∉ c' :: cs := fun h => hx (List.mem_cons_of_mem c h)
    by_cases hcd : c = d
    · -- an escaped delimiter sets the flag, which the ordinary rune after it clears
      have he' : e = false := by
        cases e
        · rfl
        · exact absurd (by simp [hcd]) (he rfl)
      have hc' : c' ≠ d := hpair.resolve_left (not_not.mpr hcd)
      have h₁ : splitDelimitedStep d false '\\' = (false, true) := by simp [splitDelimitedStep]
      have h₂ : splitDelimitedStep d true d = (false, true) := by
        simp [splitDelimitedStep, hd]
      rw [he', hcd, escapeDelimiter_cons_self, List.cons_append, List.cons_append,
        fieldsFunc_go_of_not_sep h₁, fieldsFunc_go_of_not_sep h₂,
        fieldsFunc_go_escapeDelimiter hd (c' :: cs) true _ rest hx' hf' (List.cons_ne_nil _ _)
          (fun _ => by simpa using hc')]
      simp
    · rw [escapeDelimiter_cons_of_ne hcd, List.cons_append,
        fieldsFunc_go_of_not_sep (splitDelimitedStep_of_ne hc hcd e),
        fieldsFunc_go_escapeDelimiter hd (c' :: cs) false _ rest hx' hf' (List.cons_ne_nil _ _)
          (fun h => absurd h Bool.false_ne_true)]
      simp

theorem fieldsFunc_join (hd : d ≠ '\\') :
    ∀ xs : List (List Char), (∀ x ∈ xs, x ≠ [] ∧ '\\' ∉ x ∧ delimitersFollowed d x = true) →
      fieldsFunc (splitDelimitedStep d) false (join (xs.map (escapeDelimiter d)) [d]) =
        xs.map (escapeDelimiter d)
  | [], _ => rfl
  | [x], hxs => by
    obtain ⟨hne, hx, hf⟩ := hxs x List.mem_cons_self
    have hscan := fieldsFunc_go_escapeDelimiter hd x false [] [] hx hf hne
      (fun h => absurd h Bool.false_ne_true)
    rw [List.append_nil] at hscan
    simp only [fieldsFunc, join, List.map_cons, List.map_nil, List.intercalate_singleton, hscan,
      List.nil_append, fieldsFunc.go, escapeDelimiter_ne_nil hne, if_false]
  | x :: y :: ys, hxs => by
    obtain ⟨hne, hx, hf⟩ := hxs x List.mem_cons_self
    have ih := fieldsFunc_join hd (y :: ys) fun z hz => hxs z (List.mem_cons_of_mem x hz)
    -- the delimiter after the element is a split, with the flag clear
    simp only [fieldsFunc, join, List.map_cons, List.intercalate_cons_cons, List.append_assoc,
      List.singleton_append] at ih ⊢
    rw [fieldsFunc_go_escapeDelimiter hd x false [] _ hx hf hne
        (fun h => absurd h Bool.false_ne_true), List.nil_append, fieldsFunc_go_of_sep (splitDelimitedStep_delimiter hd),
      if_neg (escapeDelimiter_ne_nil hne), ih]

theorem stringSplitDelimitedEscaped_join (hd : d ≠ '\\') (xs : List (List Char))
    (hxs : ∀ x ∈ xs, x ≠ [] ∧ '\\' ∉ x ∧ delimitersFollowed d x = true) :
    stringSplitDelimitedEscaped (stringJoinDelimitedEscaped xs d) d = xs := by
  have hmap : xs.map (fun v => replaceAll v [d] ['\\', d]) = xs.map (escapeDelimiter d) :=
    List.map_congr_left fun x _ => replaceAll_delimiter x
  unfold stringSplitDelimitedEscaped stringJoinDelimitedEscaped
  rw [hmap, fieldsFunc_join hd xs hxs, List.map_map]
  conv_rhs => rw [← List.map_id xs]
  refine List.map_congr_left fun x hx => ?_
  exact replaceAll_escapeDelimiter (hxs x hx).2.1

theorem StringSlicePipeDelimited.scan_value (s xs : StringSlicePipeDelimited)
    (hxs : ∀ x ∈ xs, x ≠ [] ∧ '\\' ∉ x ∧ delimitersFollowed '|' x = true) :
    s.scan (some xs.value) = xs :=
  stringSplitDelimitedEscaped_join (by decide) xs hxs

/-- Past those elements the round trip fails: an element ending in a pipe or in a backslash runs
into the next one, and two pipes in a row split the element after them. -/
theorem scan_value_merges_escaped_elements :
    StringSlicePipeDelimited.scan []
        (some (StringSlicePipeDelimited.value ["a|".toList, "b".toList])) = ["a||b".toList] ∧
      StringSlicePipeDelimited.scan []
        (some (StringSlicePipeDelimited.value ["a\\".toList, "b".toList])) = ["a|b".toList] ∧
      StringSlicePipeDelimited.scan []
        (some (StringSlicePipeDelimited.value ["a||b".toList])) = ["a|\\".toList, "b".toList] := by
  decide

end Split

end Authelia.Utils
