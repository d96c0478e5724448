import Mathlib.Data.List.Basic
import Mathlib.Data.String.Basic

/-! Go strings as the runtime sees them. A string is its sequence of runes, `len` counts the bytes
of its UTF-8 encoding (`String.utf8Len`), and slicing is by byte offset. A slice out of range is a
runtime panic, which the model writes as `none`. -/

namespace Go

/-- `utf8.RuneError`, what a byte that starts no valid encoding decodes to. -/
def runeError : Char := '�'

/-- `s[n:]` for a byte offset `n`. A cut inside a rune keeps its trailing bytes, and each of them
decodes on its own to `runeError`. -/
def dropBytes : List Char → Nat → List Char
  | s, 0 => s
  | [], _ + 1 => []
  | c :: cs, n + 1 =>
    if c.utf8Size ≤ n + 1 then dropBytes cs (n + 1 - c.utf8Size)
    else List.replicate (c.utf8Size - (n + 1)) runeError ++ cs

/-- `s[:n]` for a byte offset `n`; the leading bytes of a cut rune decode to `runeError`. -/
def takeBytes : List Char → Nat → List Char
  | _, 0 => []
  | [], _ + 1 => []
  | c :: cs, n + 1 =>
    if c.utf8Size ≤ n + 1 then c :: takeBytes cs (n + 1 - c.utf8Size)
    else List.replicate (n + 1) runeError

/-- `s[i:]`, which panics unless `0 ≤ i ≤ len(s)`. -/
def sliceFrom (s : List Char) (i : Int) : Option (List Char) :=
  if 0 ≤ i ∧ i ≤ String.utf8Len s then some (dropBytes s i.toNat) else none

/-- `s[:i]`, which panics unless `0 ≤ i ≤ len(s)`. -/
def sliceTo (s : List Char) (i : Int) : Option (List Char) :=
  if 0 ≤ i ∧ i ≤ String.utf8Len s then some (takeBytes s i.toNat) else none

/-- `strings.Index`: the byte offset of the first occurrence of `sub` in `s`, or `-1`. -/
def index (s sub : List Char) : Int :=
  if sub.isPrefixOf s then 0
  else
    match s with
    | [] => -1
    | c :: cs => if index cs sub < 0 then -1 else c.utf8Size + index cs sub

/-- `strings.HasPrefix`; on valid UTF-8 a byte prefix is a rune prefix. -/
def hasPrefix (s pre : List Char) : Bool := pre.isPrefixOf s

def trimPrefix (s pre : List Char) : List Char := if hasPrefix s pre then s.drop pre.length else s

/-- `strings.Trim`: drop the leading and trailing runes that are in `cutset`. -/
def trim (s cutset : List Char) : List Char :=
  ((s.dropWhile cutset.contains).reverse.dropWhile cutset.contains).reverse

/-- `fmt.Sprintf` for the verbs the callers use (`%s`, `%d`, `%w`, `%T`), with each argument
already printed; a verb with no argument left prints as `%!v(MISSING)`. -/
def sprintf : List Char → List (List Char) → List Char
  | '%' :: _ :: format, arg :: args => arg ++ sprintf format args
  | '%' :: verb :: format, [] => "%!".toList ++ verb :: "(MISSING)".toList ++ sprintf format []
  | c :: format, args => c :: sprintf format args
  | [], _ => []

/-- `strconv.Itoa`, the printing of `%d`. -/
def itoa (n : Nat) : List Char := (toString n).toList

/-- `xs[i]` on a slice, which panics unless `0 ≤ i < len(xs)`. -/
def elemAt {α : Type} (xs : List α) (i : Int) : Option α :=
  if 0 ≤ i then xs[i.toNat]? else none

/-- The Unicode tables behind `unicode.ToLower`, `unicode.ToUpper` and `unicode.SimpleFold`. Two
runes are equal under simple case folding exactly when their `foldKey`s agree (the key names the
orbit of `SimpleFold`). On ASCII the tables are the letter case of `Char.toLower`/`Char.toUpper`. -/
structure CaseFolding where
  lower : Char → Char
  upper : Char → Char
  foldKey : Char → Char
  lower_ascii : ∀ c : Char, c.toNat < 128 → lower c = c.toLower
  upper_ascii : ∀ c : Char, c.toNat < 128 → upper c = c.toUpper
  foldKey_ascii : ∀ c d : Char, c.toNat < 128 → d.toNat < 128 →
    (foldKey c = foldKey d ↔ c.toLower = d.toLower)

section CaseFolding
variable (F : CaseFolding)

/-- `strings.EqualFold`: rune by rune equality under simple Unicode case folding. -/
def equalFold (s t : List Char) : Bool := s.map F.foldKey == t.map F.foldKey

def toLower (s : List Char) : List Char := s.map F.lower

def toUpper (s : List Char) : List Char := s.map F.upper

end CaseFolding

/-! ### Byte offsets -/

@[simp] theorem dropBytes_zero (s : List Char) : dropBytes s 0 = s := by
  cases s <;> rfl

@[simp] theorem takeBytes_zero (s : List Char) : takeBytes s 0 = [] := by
  cases s <;> rfl

theorem dropBytes_cons_of_le {c : Char} {cs : List Char} {n : Nat} (h : c.utf8Size ≤ n) :
    dropBytes (c :: cs) n = dropBytes cs (n - c.utf8Size) := by
  obtain ⟨m, rfl⟩ : ∃ m, n = m + 1 := ⟨n - 1, by have := c.utf8Size_pos; omega⟩
  simp only [dropBytes, if_pos h]

theorem takeBytes_cons_of_le {c : Char} {cs : List Char} {n : Nat} (h : c.utf8Size ≤ n) :
    takeBytes (c :: cs) n = c :: takeBytes cs (n - c.utf8Size) := by
  obtain ⟨m, rfl⟩ : ∃ m, n = m + 1 := ⟨n - 1, by have := c.utf8Size_pos; omega⟩
  simp only [takeBytes, if_pos h]

@[simp] theorem dropBytes_append_utf8Len (u v : List Char) :
    dropBytes (u ++ v) (String.utf8Len u) = v := by
  induction u with
  | nil => simp
  | cons c cs ih =>
    rw [List.cons_append, String.utf8Len_cons, dropBytes_cons_of_le (by omega)]
    simpa using ih

@[simp] theorem takeBytes_append_utf8Len (u v : List Char) :
    takeBytes (u ++ v) (String.utf8Len u) = u := by
  induction u with
  | nil => simp
  | cons c cs ih =>
    rw [List.cons_append, String.utf8Len_cons, takeBytes_cons_of_le (by omega)]
    simpa using ih

theorem sliceFrom_append_utf8Len (u v : List Char) :
    sliceFrom (u ++ v) (String.utf8Len u) = some v := by
  rw [sliceFrom, if_pos (by simp only [String.utf8Len_append]; omega)]
  simp

theorem sliceTo_append_utf8Len (u v : List Char) :
    sliceTo (u ++ v) (String.utf8Len u) = some u := by
  rw [sliceTo, if_pos (by simp only [String.utf8Len_append]; omega)]
  simp

theorem utf8Len_pos_of_ne_nil {s : List Char} (h : s ≠ []) : 0 < String.utf8Len s := by
  obtain ⟨c, cs, rfl⟩ := List.exists_cons_of_ne_nil h
  have := c.utf8Size_pos
  rw [String.utf8Len_cons]
  omega

theorem sliceFrom_eq_none_of_neg {s : List Char} {i : Int} (h : i < 0) : sliceFrom s i = none := by
  simp only [sliceFrom]
  rw [if_neg (by omega)]

/-! ### `strings.Index` -/

theorem exists_split_of_index_nonneg {s sub : List Char} (h : 0 ≤ index s sub) :
    ∃ u v, s = u ++ v ∧ String.utf8Len u = index s sub ∧ sub.IsPrefix v := by
  induction s with
  | nil =>
    by_cases hp : sub.isPrefixOf []
    · exact ⟨[], [], rfl, by simp [index, hp], List.isPrefixOf_iff_prefix.mp hp⟩
    · simp [index, hp] at h
  | cons c cs ih =>
    by_cases hp : sub.isPrefixOf (c :: cs)
    · exact ⟨[], c :: cs, rfl, by simp [index, hp], List.isPrefixOf_iff_prefix.mp hp⟩
    · have hcs : 0 ≤ index cs sub := by
        by_contra hneg
        simp [index, hp, show index cs sub < 0 by omega] at h
      obtain ⟨u, v, rfl, hu, hv⟩ := ih hcs
      refine ⟨c :: u, v, rfl, ?_, hv⟩
      simp only [index, hp, Bool.false_eq_true, if_false, String.utf8Len_cons]
      rw [if_neg (by omega)]
      omega

theorem exists_slices_of_index_nonneg {s sub : List Char} (h : 0 ≤ index s sub) :
    ∃ u v, s = u ++ v ∧ sub.IsPrefix v ∧ sliceTo s (index s sub) = some u ∧
      sliceFrom s (index s sub) = some v := by
  obtain ⟨u, v, rfl, hu, hv⟩ := exists_split_of_index_nonneg h
  refine ⟨u, v, rfl, hv, ?_, ?_⟩
  · rw [← hu]
    exact sliceTo_append_utf8Len u v
  · rw [← hu]
    exact sliceFrom_append_utf8Len u v

theorem index_le_utf8Len {s sub : List Char} (h : 0 ≤ index s sub) :
    index s sub ≤ String.utf8Len s := by
  obtain ⟨u, v, rfl, hu, -⟩ := exists_split_of_index_nonneg h
  rw [← hu, String.utf8Len_append]
  omega

theorem sliceFrom_index_isSome {s sub : List Char} (h : 0 ≤ index s sub) :
    (sliceFrom s (index s sub)).isSome := by
  have hle := index_le_utf8Len h
  simp only [sliceFrom]
  rw [if_pos ⟨h, hle⟩]
  rfl

theorem sliceTo_index_isSome {s sub : List Char} (h : 0 ≤ index s sub) :
    (sliceTo s (index s sub)).isSome := by
  have hle := index_le_utf8Len h
  simp only [sliceTo]
  rw [if_pos ⟨h, hle⟩]
  rfl

theorem index_eq_neg_one_or_nonneg (s sub : List Char) : index s sub = -1 ∨ 0 ≤ index s sub := by
  induction s with
  | nil => by_cases hp : sub.isPrefixOf [] <;> simp [index, hp]
  | cons c cs ih =>
    by_cases hp : sub.isPrefixOf (c :: cs)
    · simp [index, hp]
    · simp only [index, hp, Bool.false_eq_true, if_false]
      split <;> omega

theorem index_singleton_eq_neg_one {s : List Char} {c : Char} (h : c ∉ s) : index s [c] = -1 := by
  induction s with
  | nil => simp [index]
  | cons d ds ih =>
    have hd : c ≠ d := fun hcd => h (hcd ▸ List.mem_cons_self)
    have hds : c ∉ ds := fun hm => h (List.mem_cons_of_mem d hm)
    have hp : [c].isPrefixOf (d :: ds) = false := by simp [List.isPrefixOf, hd]
    simp only [index, hp, ih hds, Bool.false_eq_true, if_false]
    rw [if_pos (by omega)]

/-! ### Case folding -/

section CaseFolding
variable (F : CaseFolding)

@[simp] theorem equalFold_self (s : List Char) : equalFold F s s = true := by
  simp [equalFold]

theorem equalFold_comm (s t : List Char) : equalFold F s t = equalFold F t s := by
  simp only [equalFold, Bool.beq_comm]

theorem length_eq_of_equalFold {s t : List Char} (h : equalFold F s t = true) :
    s.length = t.length := by
  simpa using congrArg List.length (beq_iff_eq.mp h)

theorem equalFold_nil_left (t : List Char) : equalFold F [] t = t.isEmpty := by
  cases t <;> simp [equalFold]

theorem toLower_of_ascii {s : List Char} (h : s.all (·.toNat < 128) = true) :
    toLower F s = s.map Char.toLower :=
  List.map_congr_left fun c hc => F.lower_ascii c (by simpa using List.all_eq_true.mp h c hc)

theorem toUpper_of_ascii {s : List Char} (h : s.all (·.toNat < 128) = true) :
    toUpper F s = s.map Char.toUpper :=
  List.map_congr_left fun c hc => F.upper_ascii c (by simpa using List.all_eq_true.mp h c hc)

theorem equalFold_of_ascii {s t : List Char} (hs : s.all (·.toNat < 128) = true)
    (ht : t.all (·.toNat < 128) = true) :
    equalFold F s t = (s.map Char.toLower == t.map Char.toLower) := by
  induction s generalizing t with
  | nil => cases t <;> simp [equalFold]
  | cons c cs ih =>
    cases t with
    | nil => simp [equalFold]
    | cons d ds =>
      simp only [List.all_cons, Bool.and_eq_true, decide_eq_true_eq] at hs ht
      have hcd := F.foldKey_ascii c d hs.1 ht.1
      have hrest := ih hs.2 ht.2
      simp only [equalFold, List.map_cons, List.cons_beq_cons] at hrest ⊢
      rw [hrest]
      congr 1
      exact Bool.eq_iff_iff.mpr (by simpa using hcd)

end CaseFolding

end Go

namespace Go

/-- The tables restricted to their ASCII behaviour: every rune outside ASCII is its own case. -/
def CaseFolding.ascii : CaseFolding where
  lower := Char.toLower
  upper := Char.toUpper
  foldKey := Char.toLower
  lower_ascii _ _ := rfl
  upper_ascii _ _ := rfl
  foldKey_ascii _ _ _ _ := Iff.rfl

end Go
