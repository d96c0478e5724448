import Mathlib.Data.List.Basic
import Mathlib.Data.List.TakeWhile

/-! `path.Clean`, the lexical clean-up of a slash-separated path that `utils.URLPathFullClean`
applies to every URL path before the access control rules see it. The source is one loop over the
bytes of the path that writes to a buffer, backs up over the last element for a `..`, and keeps in
`dotdot` the length of the buffer's prefix that `..` may not remove (the root slash, or the `..`
elements a relative path starts with).

The model is that loop, with the buffer kept last byte first. Above it stands the rule `Clean`
documents, one element at a time over a stack of kept elements (`push`); `clean_eq_cleanSpec` says
the loop computes it. From the stack invariant follow the shape of every result (`clean_shape`)
and that cleaning twice is cleaning once (`clean_clean`). -/

namespace Go.Path

/-! ### The loop of the source -/

/-- `r == n || path[r] == '/'`: the element under the reader ends here. -/
def elementEnds : List Char → Bool
  | [] => true
  | c :: _ => c == '/'

/-- The copy of a real element: `for ; r < n && path[r] != '/'; r++ { out.append(path[r]) }`. -/
def copyElement : List Char → List Char → List Char × List Char
  | [], out => ([], out)
  | c :: rest, out => if c == '/' then (c :: rest, out) else copyElement rest (c :: out)

/-- `out.w--`, then `for out.w > dotdot && out.index(out.w) != '/' { out.w-- }`: each pass drops a
byte and then reads it, so the loop stops once it has dropped a slash or reached `dotdot`. -/
def backtrack (dotdot : Nat) : List Char → List Char
  | [] => []
  | c :: out => if dotdot < out.length && c != '/' then backtrack dotdot out else out

/-- The `..` case: back up over the last element when the buffer holds more than `dotdot`;
otherwise a relative path gets a `..` element, which `..` may not remove later, and a rooted path
stays at its root. -/
def dotDotElement (rooted : Bool) (out : List Char) (dotdot : Nat) : List Char × Nat :=
  if dotdot < out.length then (backtrack dotdot out, dotdot)
  else if !rooted then
    let out' := '.' :: '.' :: (if 0 < out.length then '/' :: out else out)
    (out', out'.length)
  else (out, dotdot)

theorem length_copyElement_le (rest out : List Char) :
    (copyElement rest out).1.length ≤ rest.length := by
  induction rest generalizing out with
  | nil => simp [copyElement]
  | cons c rest ih =>
    unfold copyElement
    split
    · exact Nat.le_refl _
    · exact Nat.le_trans (ih _) (Nat.le_succ _)

/-- `if rooted && out.w != 1 || !rooted && out.w != 0 { out.append('/') }`: the slash before a
real element, unless the buffer is at its start. -/
def separate (rooted : Bool) (out : List Char) : List Char :=
  if rooted && out.length != 1 || !rooted && out.length != 0 then '/' :: out else out

/-- The main loop of `Clean` from the reader on (`path` is what is left to read), the buffer `out`
last byte first. -/
def cleanLoop (rooted : Bool) (path out : List Char) (dotdot : Nat) : List Char :=
  match path with
  | [] => out
  | c :: rest =>
    if c == '/' then
      -- empty path element
      cleanLoop rooted rest out dotdot
    else if c == '.' && elementEnds rest then
      -- `.` element
      cleanLoop rooted rest out dotdot
    else if c == '.' && rest.head? == some '.' && elementEnds rest.tail then
      -- `..` element
      cleanLoop rooted rest.tail (dotDotElement rooted out dotdot).1 (dotDotElement rooted out dotdot).2
    else
      -- real path element
      cleanLoop rooted (copyElement rest (c :: separate rooted out)).1
        (copyElement rest (c :: separate rooted out)).2 dotdot
termination_by path.length
decreasing_by
  all_goals simp only [List.length_cons, List.length_tail]
  all_goals first | omega | exact Nat.lt_succ_of_le (length_copyElement_le _ _)

def clean (path : List Char) : List Char :=
  if path.isEmpty then ['.']
  else
    let rooted := path.head? == some '/'
    let out := if rooted then cleanLoop rooted path.tail ['/'] 1 else cleanLoop rooted path [] 0
    -- turn an empty result into `.`
    if out.isEmpty then ['.'] else out.reverse

/-! ### The rules, one element at a time -/

def dotDot : List Char := ['.', '.']

/-- The elements of a path: the runs of bytes between its slashes, empty ones left out. -/
def elements : List Char → List (List Char)
  | [] => []
  | c :: rest =>
    if c = '/' then elements rest
    else (c :: rest.takeWhile (· != '/')) :: elements (rest.dropWhile (· != '/'))
termination_by p => p.length
decreasing_by
  all_goals simp only [List.length_cons]
  all_goals first | omega | exact Nat.lt_succ_of_le (List.dropWhile_suffix _).length_le

/-- The rule for one element, over the stack of the elements kept so far (top first): `.` is
dropped; `..` drops the element before it, unless there is none or it is a `..` itself, and then a
relative path keeps the `..` while a rooted one drops it; any other element is kept. -/
def push (rooted : Bool) (st : List (List Char)) (e : List Char) : List (List Char) :=
  if e = ['.'] then st
  else if e = dotDot then
    match st with
    | top :: rest => if top = dotDot then dotDot :: st else rest
    | [] => if rooted then [] else [dotDot]
  else e :: st

def rootOf (rooted : Bool) : List Char := if rooted then ['/'] else []

/-- A stack written out as a path: the root, then its elements bottom first between slashes. -/
def render (rooted : Bool) (st : List (List Char)) : List Char :=
  rootOf rooted ++ ['/'].intercalate st.reverse

/-- What `Clean` is documented to do: the rules over every element in turn, and `.` when nothing
is left. -/
def cleanSpec (path : List Char) : List Char :=
  let rooted := path.head? == some '/'
  let out := render rooted ((elements path).foldl (push rooted) [])
  if out.isEmpty then ['.'] else out

/-! ### Stacks the rules build -/

def Element (e : List Char) : Prop := e ≠ [] ∧ '/' ∉ e ∧ e ≠ ['.']

/-- A stack the rules build: real elements on top of `k` `..` elements, and no `..` when rooted. -/
structure Kept (rooted : Bool) (reals : List (List Char)) (k : Nat) : Prop where
  reals_ok : ∀ e ∈ reals, Element e ∧ e ≠ dotDot
  rooted_k : rooted = true → k = 0

theorem element_dotDot : Element dotDot := by
  refine ⟨?_, ?_, ?_⟩ <;> decide

theorem Kept.elements {rooted : Bool} {reals : List (List Char)} {k : Nat} (h : Kept rooted reals k) :
    ∀ e ∈ reals ++ List.replicate k dotDot, Element e := by
  intro e he
  rcases List.mem_append.mp he with he | he
  · exact (h.reals_ok e he).1
  · rw [List.eq_of_mem_replicate he]
    exact element_dotDot

theorem Kept.nil (rooted : Bool) : Kept rooted [] 0 := ⟨by simp, fun _ => rfl⟩

theorem Kept.cons {rooted : Bool} {e : List Char} {reals : List (List Char)} {k : Nat}
    (h : Kept rooted reals k) (he : Element e) (hdd : e ≠ dotDot) : Kept rooted (e :: reals) k :=
  ⟨by
    intro x hx
    rcases List.mem_cons.mp hx with rfl | hx
    · exact ⟨he, hdd⟩
    · exact h.reals_ok x hx, h.rooted_k⟩

theorem Kept.tail {rooted : Bool} {e : List Char} {reals : List (List Char)} {k : Nat}
    (h : Kept rooted (e :: reals) k) : Kept rooted reals k :=
  ⟨fun x hx => h.reals_ok x (List.mem_cons_of_mem e hx), h.rooted_k⟩

theorem push_dot (rooted : Bool) (st : List (List Char)) : push rooted st ['.'] = st := by
  simp [push]

theorem push_of_ne {rooted : Bool} {st : List (List Char)} {e : List Char} (he : e ≠ ['.'])
    (hdd : e ≠ dotDot) : push rooted st e = e :: st := by
  simp [push, he, hdd]

theorem push_dotDot_cons (rooted : Bool) {e : List Char} (reals : List (List Char)) (k : Nat)
    (he : e ≠ dotDot) :
    push rooted ((e :: reals) ++ List.replicate k dotDot) dotDot = reals ++ List.replicate k dotDot := by
  have hdot : dotDot ≠ ['.'] := by decide
  simp [push, hdot, he]

theorem push_dotDot_replicate {rooted : Bool} {k : Nat} (hk : rooted = true → k = 0) :
    push rooted (List.replicate k dotDot) dotDot =
      List.replicate (if rooted then k else k + 1) dotDot := by
  cases k with
  | zero => cases rooted <;> rfl
  | succ k =>
    -- a rooted stack holds no `..`
    have hrooted : rooted = false := by
      cases rooted with
      | false => rfl
      | true => exact absurd (hk rfl) (Nat.succ_ne_zero k)
    subst hrooted
    simp [push, dotDot, List.replicate_succ]

theorem push_kept {rooted : Bool} {reals : List (List Char)} {k : Nat} (h : Kept rooted reals k)
    {e : List Char} (hne : e ≠ []) (hslash : '/' ∉ e) :
    ∃ reals' k', Kept rooted reals' k' ∧
      push rooted (reals ++ List.replicate k dotDot) e = reals' ++ List.replicate k' dotDot := by
  by_cases hdot : e = ['.']
  · exact ⟨reals, k, h, by rw [hdot, push_dot]⟩
  by_cases hdd : e = dotDot
  · subst hdd
    cases reals with
    | nil =>
      refine ⟨[], if rooted then k else k + 1, ⟨by simp, fun hr => ?_⟩, ?_⟩
      · simpa [hr] using h.rooted_k hr
      · simpa using push_dotDot_replicate h.rooted_k
    | cons top reals =>
      exact ⟨reals, k, h.tail, push_dotDot_cons rooted reals k (h.reals_ok top (by simp)).2⟩
  · exact ⟨e :: reals, k, h.cons ⟨hne, hslash, hdot⟩ hdd, by rw [push_of_ne hdot hdd]; rfl⟩

/-! ### Cutting a path into elements -/

theorem elements_slash (rest : List Char) : elements ('/' :: rest) = elements rest := by
  rw [elements, if_pos rfl]

theorem elements_of_ne_slash {c : Char} (hc : c ≠ '/') (rest : List Char) :
    elements (c :: rest) =
      (c :: rest.takeWhile (· != '/')) :: elements (rest.dropWhile (· != '/')) := by
  rw [elements, if_neg hc]

theorem not_mem_takeWhile (rest : List Char) : '/' ∉ rest.takeWhile (· != '/') := by
  intro h
  simpa using List.mem_takeWhile_imp h

theorem element_of_mem_elements {path : List Char} :
    ∀ {e}, e ∈ elements path → e ≠ [] ∧ '/' ∉ e := by
  induction path using elements.induct with
  | case1 => simp [elements]
  | case2 rest ih =>
    rw [elements_slash]
    exact ih
  | case3 c rest hc ih =>
    intro e he
    rw [elements_of_ne_slash hc] at he
    rcases List.mem_cons.mp he with rfl | he
    · refine ⟨List.cons_ne_nil _ _, ?_⟩
      rintro (_ | ⟨_, h⟩)
      · exact hc rfl
      · exact not_mem_takeWhile rest h
    · exact ih he

theorem foldl_push_kept {rooted : Bool} :
    ∀ (es : List (List Char)) {reals : List (List Char)} {k : Nat}, Kept rooted reals k →
      (∀ e ∈ es, e ≠ [] ∧ '/' ∉ e) →
      ∃ reals' k', Kept rooted reals' k' ∧
        es.foldl (push rooted) (reals ++ List.replicate k dotDot) = reals' ++ List.replicate k' dotDot
  | [], reals, k, h, _ => ⟨reals, k, h, rfl⟩
  | e :: es, _, _, h, hes => by
    obtain ⟨reals', k', h', hpush⟩ :=
      push_kept h (hes e List.mem_cons_self).1 (hes e List.mem_cons_self).2
    rw [List.foldl_cons, hpush]
    exact foldl_push_kept es h' fun x hx => hes x (List.mem_cons_of_mem e hx)

/-! ### Cutting an element as the loop does -/

theorem takeWhile_eq_nil_iff (rest : List Char) :
    rest.takeWhile (· != '/') = [] ↔ elementEnds rest = true := by
  cases rest with
  | nil => simp [elementEnds]
  | cons c rest => by_cases hc : c = '/' <;> simp [elementEnds, hc]

theorem dropWhile_of_elementEnds {rest : List Char} (h : elementEnds rest = true) :
    rest.dropWhile (· != '/') = rest := by
  cases rest with
  | nil => rfl
  | cons c rest =>
    have hc : c = '/' := by simpa [elementEnds] using h
    simp [hc]

theorem copyElement_eq (rest out : List Char) :
    copyElement rest out = (rest.dropWhile (· != '/'), (rest.takeWhile (· != '/')).reverse ++ out) := by
  induction rest generalizing out with
  | nil => rfl
  | cons c rest ih =>
    by_cases hc : c = '/'
    · simp [copyElement, hc]
    · simp [copyElement, hc, ih]

theorem elements_dot {c : Char} {rest : List Char} (h : (c == '.' && elementEnds rest) = true) :
    elements (c :: rest) = ['.'] :: elements rest := by
  obtain ⟨rfl, hends⟩ : c = '.' ∧ elementEnds rest = true := by simpa using h
  rw [elements_of_ne_slash (by decide), (takeWhile_eq_nil_iff rest).mpr hends,
    dropWhile_of_elementEnds hends]

theorem elements_dotDot {c : Char} {rest : List Char}
    (h : (c == '.' && rest.head? == some '.' && elementEnds rest.tail) = true) :
    elements (c :: rest) = dotDot :: elements rest.tail := by
  obtain ⟨⟨rfl, hhead⟩, hends⟩ : (c = '.' ∧ rest.head? = some '.') ∧ elementEnds rest.tail = true := by
    simpa using h
  obtain ⟨t, rfl⟩ : ∃ t, rest = '.' :: t := by
    cases rest with
    | nil => cases hhead
    | cons d t => exact ⟨t, by simpa using hhead⟩
  simp only [List.tail_cons] at hends ⊢
  have htake : ('.' :: t).takeWhile (· != '/') = ['.'] := by
    rw [List.takeWhile_cons_of_pos (by decide), (takeWhile_eq_nil_iff t).mpr hends]
  have hdrop : ('.' :: t).dropWhile (· != '/') = t := by
    rw [List.dropWhile_cons_of_pos (by decide), dropWhile_of_elementEnds hends]
  rw [elements_of_ne_slash (by decide), htake, hdrop]
  rfl

theorem element_of_real {c : Char} {rest : List Char} (hc : ¬(c == '/') = true)
    (hdot : ¬(c == '.' && elementEnds rest) = true)
    (hdd : ¬(c == '.' && rest.head? == some '.' && elementEnds rest.tail) = true) :
    Element (c :: rest.takeWhile (· != '/')) ∧ c :: rest.takeWhile (· != '/') ≠ dotDot := by
  have hc' : c ≠ '/' := by simpa using hc
  refine ⟨⟨List.cons_ne_nil _ _, ?_, ?_⟩, ?_⟩
  · rintro (_ | ⟨_, h⟩)
    · exact hc' rfl
    · exact not_mem_takeWhile rest h
  · intro h
    obtain ⟨rfl, htake⟩ := List.cons_eq_cons.mp h
    exact hdot (by simpa using (takeWhile_eq_nil_iff rest).mp htake)
  · intro h
    obtain ⟨rfl, htake⟩ := List.cons_eq_cons.mp h
    -- the element is `..`: the reader sees `.`, `.` and then the end of the element
    cases rest with
    | nil => cases htake
    | cons d t =>
      have hd : d ≠ '/' := fun hd => by simp [hd] at htake
      rw [List.takeWhile_cons_of_pos (by simpa using hd)] at htake
      obtain ⟨rfl, ht⟩ := List.cons_eq_cons.mp htake
      exact hdd (by simpa using (takeWhile_eq_nil_iff t).mp ht)

/-! ### The buffer of a stack -/

/-- The buffer the loop holds for a stack: its elements between slashes, last byte first. -/
def joinRev : List (List Char) → List Char
  | [] => []
  | [e] => e.reverse
  | e :: st => e.reverse ++ '/' :: joinRev st

theorem joinRev_cons (e : List Char) (st : List (List Char)) :
    joinRev (e :: st) = e.reverse ++ if st = [] then [] else '/' :: joinRev st := by
  cases st <;> simp [joinRev]

theorem joinRev_eq_nil_iff {st : List (List Char)} (h : ∀ e ∈ st, e ≠ []) :
    joinRev st = [] ↔ st = [] := by
  cases st with
  | nil => simp [joinRev]
  | cons e st => simp [joinRev_cons, h e List.mem_cons_self]

theorem intercalate_append_singleton {α : Type} (sep : List α) {l : List (List α)} (hl : l ≠ [])
    (x : List α) : sep.intercalate (l ++ [x]) = sep.intercalate l ++ sep ++ x := by
  induction l with
  | nil => exact absurd rfl hl
  | cons a l ih =>
    cases l with
    | nil => simp [List.intercalate_cons_cons]
    | cons b l =>
      have ih' := ih (List.cons_ne_nil b l)
      rw [List.cons_append] at ih'
      rw [List.cons_append, List.cons_append, List.intercalate_cons_cons, ih',
        List.intercalate_cons_cons]
      simp

theorem reverse_joinRev (st : List (List Char)) :
    (joinRev st).reverse = ['/'].intercalate st.reverse := by
  induction st with
  | nil => rfl
  | cons e st ih =>
    rw [joinRev_cons]
    by_cases hst : st = []
    · subst hst
      simp
    · rw [if_neg hst, List.reverse_cons, intercalate_append_singleton _ (by simpa using hst)]
      simp [ih]

theorem render_eq (rooted : Bool) (st : List (List Char)) :
    render rooted st = (joinRev st ++ rootOf rooted).reverse := by
  rw [List.reverse_append, reverse_joinRev]
  cases rooted <;> rfl

theorem length_joinRev_replicate_le (reals : List (List Char)) (k : Nat) :
    (joinRev (List.replicate k dotDot)).length ≤ (joinRev (reals ++ List.replicate k dotDot)).length := by
  induction reals with
  | nil => exact Nat.le_refl _
  | cons e reals ih =>
    rw [List.cons_append, joinRev_cons]
    split
    · rename_i hnil
      rw [(List.append_eq_nil_iff.mp hnil).2]
      exact Nat.zero_le _
    · simp only [List.length_append, List.length_cons]
      omega

/-! ### Backing up over an element -/

theorem backtrack_append_slash {dotdot : Nat} {x rest : List Char} (hx : '/' ∉ x)
    (hd : dotdot ≤ rest.length) : backtrack dotdot (x ++ '/' :: rest) = rest := by
  induction x with
  | nil => simp [backtrack]
  | cons c x ih =>
    have hc : c ≠ '/' := fun h => hx (h ▸ List.mem_cons_self)
    have hlen : dotdot < x.length + (rest.length + 1) := by omega
    rw [List.cons_append, backtrack, if_pos (by simp [hc, hlen])]
    exact ih fun h => hx (List.mem_cons_of_mem c h)

theorem backtrack_append_of_length {dotdot : Nat} {x rest : List Char} (hx : '/' ∉ x) (hne : x ≠ [])
    (hd : dotdot = rest.length) : backtrack dotdot (x ++ rest) = rest := by
  induction x with
  | nil => exact absurd rfl hne
  | cons c x ih =>
    have hc : c ≠ '/' := fun h => hx (h ▸ List.mem_cons_self)
    rw [List.cons_append, backtrack]
    by_cases hx' : x = []
    · subst hx'
      simp [hd]
    · have hlen : dotdot < x.length + rest.length := by
        have := List.length_pos_iff.mpr hx'
        omega
      rw [if_pos (by simp [hc, hlen])]
      exact ih (fun h => hx (List.mem_cons_of_mem c h)) hx'

/-! ### The loop computes the rules -/

/-- The loop's buffer and `dotdot` hold the stack `reals` over `k` `..` elements: `dotdot` is
the length of what the root and the `..` elements take. -/
structure Holds (rooted : Bool) (out : List Char) (dotdot : Nat) (reals : List (List Char))
    (k : Nat) : Prop extends Kept rooted reals k where
  out_eq : out = joinRev (reals ++ List.replicate k dotDot) ++ rootOf rooted
  dotdot_eq : dotdot = (joinRev (List.replicate k dotDot) ++ rootOf rooted).length

theorem Holds.init (rooted : Bool) : Holds rooted (rootOf rooted) (rootOf rooted).length [] 0 :=
  { Kept.nil rooted with out_eq := rfl, dotdot_eq := rfl }

theorem Holds.stack_elements {rooted : Bool} {out : List Char} {dotdot : Nat}
    {reals : List (List Char)} {k : Nat} (h : Holds rooted out dotdot reals k) :
    ∀ e ∈ reals ++ List.replicate k dotDot, e ≠ [] :=
  fun e he => (h.toKept.elements e he).1

theorem separate_eq {rooted : Bool} {out : List Char} {dotdot : Nat} {reals : List (List Char)}
    {k : Nat} (h : Holds rooted out dotdot reals k) :
    separate rooted out = if reals ++ List.replicate k dotDot = [] then out else '/' :: out := by
  have hcond : (rooted && out.length != 1 || !rooted && out.length != 0) = true ↔
      ¬reals ++ List.replicate k dotDot = [] := by
    rw [← (joinRev_eq_nil_iff h.stack_elements).not, h.out_eq, ← List.length_eq_zero_iff.not]
    cases rooted <;> simp [rootOf]
  by_cases hst : reals ++ List.replicate k dotDot = []
  · rw [separate, if_neg (fun hc => hcond.mp hc hst), if_pos hst]
  · rw [separate, if_pos (hcond.mpr hst), if_neg hst]

theorem holds_real {rooted : Bool} {out : List Char} {dotdot : Nat} {reals : List (List Char)}
    {k : Nat} (h : Holds rooted out dotdot reals k) {e : List Char} (he : Element e)
    (hdd : e ≠ dotDot) : Holds rooted (e.reverse ++ separate rooted out) dotdot (e :: reals) k := by
  refine { h.toKept.cons he hdd with out_eq := ?_, dotdot_eq := h.dotdot_eq }
  rw [separate_eq h, List.cons_append, joinRev_cons, List.append_assoc, h.out_eq]
  by_cases hst : reals ++ List.replicate k dotDot = []
  · rw [if_pos hst, if_pos hst, hst]
    rfl
  · rw [if_neg hst, if_neg hst]
    rfl

theorem dotDotElement_of_lt {rooted : Bool} {out : List Char} {dotdot : Nat}
    (h : dotdot < out.length) : dotDotElement rooted out dotdot = (backtrack dotdot out, dotdot) :=
  if_pos h

theorem dotDotElement_rooted {out : List Char} {dotdot : Nat} (h : ¬dotdot < out.length) :
    dotDotElement true out dotdot = (out, dotdot) := by
  rw [dotDotElement, if_neg h]
  rfl

theorem dotDotElement_relative {out : List Char} {dotdot : Nat} (h : ¬dotdot < out.length) :
    dotDotElement false out dotdot =
      ('.' :: '.' :: (if 0 < out.length then '/' :: out else out),
        ('.' :: '.' :: (if 0 < out.length then '/' :: out else out)).length) := by
  rw [dotDotElement, if_neg h]
  rfl

theorem holds_dotDotElement {rooted : Bool} {out : List Char} {dotdot : Nat}
    {reals : List (List Char)} {k : Nat} (h : Holds rooted out dotdot reals k) :
    ∃ reals' k', Holds rooted (dotDotElement rooted out dotdot).1 (dotDotElement rooted out dotdot).2
      reals' k' ∧ push rooted (reals ++ List.replicate k dotDot) dotDot = reals' ++ List.replicate k' dotDot := by
  cases reals with
  | nil =>
    -- nothing to back up over: the buffer is all root and `..` elements
    have hfull : ¬dotdot < out.length := by
      rw [h.out_eq, h.dotdot_eq, List.nil_append]
      exact Nat.lt_irrefl _
    cases rooted with
    | true =>
      have hk := h.rooted_k rfl
      subst hk
      rw [dotDotElement_rooted hfull]
      exact ⟨[], 0, h, by simpa using push_dotDot_replicate h.rooted_k⟩
    | false =>
      have hout : out = joinRev (List.replicate k dotDot) := by simpa [rootOf] using h.out_eq
      have hnil : out = [] ↔ List.replicate k dotDot = [] := by
        rw [hout]
        exact joinRev_eq_nil_iff fun e he => by
          rw [List.eq_of_mem_replicate he]
          exact element_dotDot.1
      -- a relative path gets one more `..`, which later `..` elements may not remove
      have hbuf : ('.' :: '.' :: if 0 < out.length then '/' :: out else out) =
          joinRev (List.replicate (k + 1) dotDot) := by
        rw [List.replicate_succ, joinRev_cons]
        by_cases hk : List.replicate k dotDot = []
        · rw [if_neg (by simp [hnil.mpr hk]), if_pos hk, hnil.mpr hk]
          rfl
        · rw [if_pos (List.length_pos_iff.mpr fun h => hk (hnil.mp h)), if_neg hk, hout]
          rfl
      rw [dotDotElement_relative hfull, hbuf]
      exact ⟨[], k + 1, ⟨⟨by simp, nofun⟩, by simp [rootOf], by simp [rootOf]⟩,
        by simpa using push_dotDot_replicate h.rooted_k⟩
  | cons top reals =>
    have htop := h.reals_ok top List.mem_cons_self
    have hslash : '/' ∉ top.reverse := by simpa using htop.1.2.1
    have hne : top.reverse ≠ [] := by simpa using htop.1.1
    have hout : out = top.reverse ++ ((if reals ++ List.replicate k dotDot = [] then [] else
        '/' :: joinRev (reals ++ List.replicate k dotDot)) ++ rootOf rooted) := by
      rw [h.out_eq, List.cons_append, joinRev_cons, List.append_assoc]
    -- back up over `top` and, when something is left, the slash before it
    have hback : dotdot < out.length ∧
        backtrack dotdot out = joinRev (reals ++ List.replicate k dotDot) ++ rootOf rooted := by
      have hle := length_joinRev_replicate_le reals k
      have hpos := List.length_pos_iff.mpr hne
      by_cases hst : reals ++ List.replicate k dotDot = []
      · have hk : k = 0 := by simpa using (List.append_eq_nil_iff.mp hst).2
        subst hk
        have hd : dotdot = (rootOf rooted).length := by simpa [joinRev] using h.dotdot_eq
        rw [if_pos hst, List.nil_append] at hout
        rw [hout, backtrack_append_of_length hslash hne hd, hst, List.length_append]
        exact ⟨by omega, rfl⟩
      · rw [if_neg hst, List.cons_append] at hout
        have hd : dotdot ≤ (joinRev (reals ++ List.replicate k dotDot) ++ rootOf rooted).length := by
          rw [h.dotdot_eq, List.length_append, List.length_append]
          omega
        rw [hout, backtrack_append_slash hslash hd, List.length_append, List.length_cons]
        exact ⟨by omega, rfl⟩
    rw [dotDotElement_of_lt hback.1]
    exact ⟨reals, k, { h.toKept.tail with out_eq := hback.2, dotdot_eq := h.dotdot_eq },
      push_dotDot_cons rooted reals k htop.2⟩

theorem cleanLoop_eq (rooted : Bool) (path out : List Char) (dotdot : Nat) :
    ∀ {reals k}, Holds rooted out dotdot reals k →
      cleanLoop rooted path out dotdot =
        joinRev ((elements path).foldl (push rooted) (reals ++ List.replicate k dotDot)) ++
          rootOf rooted := by
  induction path, out, dotdot using cleanLoop.induct rooted with
  | case1 out dotdot =>
    intro reals k h
    rw [cleanLoop, elements, List.foldl_nil]
    exact h.out_eq
  | case2 out dotdot c rest hc ih =>
    intro reals k h
    obtain rfl : c = '/' := by simpa using hc
    rw [cleanLoop, if_pos hc, elements_slash]
    exact ih h
  | case3 out dotdot c rest hc hdot ih =>
    intro reals k h
    rw [cleanLoop, if_neg hc, if_pos hdot, elements_dot hdot, List.foldl_cons, push_dot]
    exact ih h
  | case4 out dotdot c rest hc hdot hdd ih =>
    intro reals k h
    obtain ⟨reals', k', h', hpush⟩ := holds_dotDotElement h
    rw [cleanLoop, if_neg hc, if_neg hdot, if_pos hdd, elements_dotDot hdd, List.foldl_cons, hpush]
    exact ih h'
  | case5 out dotdot c rest hc hdot hdd ih =>
    intro reals k h
    obtain ⟨he, hne⟩ := element_of_real hc hdot hdd
    have hc' : c ≠ '/' := by simpa using hc
    rw [cleanLoop, if_neg hc, if_neg hdot, if_neg hdd, elements_of_ne_slash hc', List.foldl_cons,
      push_of_ne he.2.2 hne]
    -- the copy loop writes the element and leaves the reader at the slash after it
    have h' := holds_real h he hne
    rw [List.reverse_cons, List.append_assoc, List.singleton_append] at h'
    rw [copyElement_eq] at ih ⊢
    exact ih h'

theorem clean_eq_cleanSpec (path : List Char) : clean path = cleanSpec path := by
  cases path with
  | nil => simp [clean, cleanSpec, elements, render, rootOf]
  | cons c rest =>
    by_cases hc : c = '/'
    · subst hc
      have hloop := cleanLoop_eq true rest ['/'] 1 (Holds.init true)
      simp only [List.replicate_zero, List.append_nil] at hloop
      simp [clean, cleanSpec, hloop, elements_slash, render_eq, rootOf]
    · have hcb : (c == '/') = false := by simpa using hc
      have hloop := cleanLoop_eq false (c :: rest) [] 0 (Holds.init false)
      simp only [List.replicate_zero, List.append_nil, rootOf] at hloop
      simp [clean, cleanSpec, hcb, hloop, render_eq, rootOf]

/-! ### What `Clean` returns -/

theorem takeWhile_dropWhile_append {y : List Char} (hy : '/' ∉ y) (z : List Char) :
    (y ++ z).takeWhile (· != '/') = y ++ z.takeWhile (· != '/') ∧
      (y ++ z).dropWhile (· != '/') = z.dropWhile (· != '/') := by
  induction y with
  | nil => exact ⟨rfl, rfl⟩
  | cons c y ih =>
    have hc : c ≠ '/' := fun h => hy (h ▸ List.mem_cons_self)
    have hc' : (c != '/') = true := by simpa using hc
    obtain ⟨htake, hdrop⟩ := ih fun h => hy (List.mem_cons_of_mem c h)
    rw [List.cons_append, List.takeWhile_cons_of_pos (p := fun x => x != '/') hc',
      List.dropWhile_cons_of_pos (p := fun x => x != '/') hc', htake, hdrop]
    exact ⟨rfl, rfl⟩

theorem elements_append_of_elementEnds {e : List Char} (hne : e ≠ []) (hslash : '/' ∉ e)
    {z : List Char} (hz : elementEnds z = true) : elements (e ++ z) = e :: elements z := by
  obtain ⟨c, y, rfl⟩ := List.exists_cons_of_ne_nil hne
  have hc : c ≠ '/' := fun h => hslash (h ▸ List.mem_cons_self)
  obtain ⟨htake, hdrop⟩ := takeWhile_dropWhile_append (fun h => hslash (List.mem_cons_of_mem c h)) z
  rw [List.cons_append, elements_of_ne_slash hc, htake, hdrop, (takeWhile_eq_nil_iff z).mpr hz,
    dropWhile_of_elementEnds hz, List.append_nil]

theorem elements_intercalate :
    ∀ (l : List (List Char)), (∀ e ∈ l, e ≠ [] ∧ '/' ∉ e) → elements (['/'].intercalate l) = l
  | [], _ => by simp [elements]
  | [e], h => by
    have he := h e List.mem_cons_self
    simpa [elements] using elements_append_of_elementEnds he.1 he.2 (z := []) rfl
  | e :: e' :: l, h => by
    have he := h e List.mem_cons_self
    rw [List.intercalate_cons_cons, List.append_assoc, List.singleton_append,
      elements_append_of_elementEnds he.1 he.2 rfl, elements_slash,
      elements_intercalate (e' :: l) fun x hx => h x (List.mem_cons_of_mem e hx)]

theorem elements_render (rooted : Bool) {st : List (List Char)} (h : ∀ e ∈ st, Element e) :
    elements (render rooted st) = st.reverse := by
  have hread : elements (['/'].intercalate st.reverse) = st.reverse :=
    elements_intercalate _ fun e he => ⟨(h e (List.mem_reverse.mp he)).1, (h e (List.mem_reverse.mp he)).2.1⟩
  cases rooted with
  | false => exact hread
  | true => rw [render, rootOf, if_pos rfl, List.singleton_append, elements_slash, hread]

theorem rooted_render (rooted : Bool) {st : List (List Char)} (h : ∀ e ∈ st, Element e) :
    ((render rooted st).head? == some '/') = rooted := by
  cases rooted with
  | true => rfl
  | false =>
    -- the first byte is the first byte of the bottom element, which is no slash
    simp only [render, rootOf, if_neg Bool.false_ne_true, List.nil_append]
    cases hrev : st.reverse with
    | nil => rfl
    | cons e l =>
      have he := h e (List.mem_reverse.mp (hrev ▸ List.mem_cons_self))
      obtain ⟨c, y, rfl⟩ := List.exists_cons_of_ne_nil he.1
      have hc : c ≠ '/' := fun hc => he.2.1 (hc ▸ List.mem_cons_self)
      cases l with
      | nil => simpa using hc
      | cons e' l => simpa [List.intercalate_cons_cons] using hc

theorem foldl_push_replicate_relative (j : Nat) :
    ∀ i, (List.replicate j dotDot).foldl (push false) (List.replicate i dotDot) =
      List.replicate (i + j) dotDot := by
  induction j with
  | zero => intro i; rfl
  | succ j ih =>
    intro i
    rw [List.replicate_succ, List.foldl_cons, @push_dotDot_replicate false i nofun, if_neg Bool.false_ne_true,
      ih (i + 1)]
    congr 1
    omega

theorem foldl_push_reverse {rooted : Bool} {reals : List (List Char)} {k : Nat}
    (h : Kept rooted reals k) :
    (reals ++ List.replicate k dotDot).reverse.foldl (push rooted) [] = reals ++ List.replicate k dotDot := by
  -- first the `..` elements at the bottom
  have hbottom : (List.replicate k dotDot).foldl (push rooted) [] = List.replicate k dotDot := by
    cases rooted with
    | true => rw [h.rooted_k rfl]; rfl
    | false => simpa using foldl_push_replicate_relative k 0
  rw [List.reverse_append, List.reverse_replicate, List.foldl_append, hbottom]
  -- then the real elements, each kept on top
  induction reals with
  | nil => rfl
  | cons e reals ih =>
    have he := h.reals_ok e List.mem_cons_self
    rw [List.reverse_cons, List.foldl_append, ih h.tail, List.foldl_cons, List.foldl_nil,
      push_of_ne he.1.2.2 he.2, List.cons_append]

theorem clean_shape (path : List Char) :
    ∃ reals k, Kept (path.head? == some '/') reals k ∧
      ((render (path.head? == some '/') (reals ++ List.replicate k dotDot) ≠ [] ∧
        clean path = render (path.head? == some '/') (reals ++ List.replicate k dotDot)) ∨
      (render (path.head? == some '/') (reals ++ List.replicate k dotDot) = [] ∧ clean path = ['.'])) := by
  obtain ⟨reals, k, hkept, hfold⟩ := foldl_push_kept (elements path) (Kept.nil _)
    fun e he => element_of_mem_elements he
  refine ⟨reals, k, hkept, ?_⟩
  rw [clean_eq_cleanSpec, cleanSpec]
  rw [List.nil_append, List.replicate_zero] at hfold
  rw [hfold]
  by_cases hnil : render (path.head? == some '/') (reals ++ List.replicate k dotDot) = []
  · exact Or.inr ⟨hnil, by simp [hnil]⟩
  · exact Or.inl ⟨hnil, by simp [hnil]⟩

theorem clean_clean (path : List Char) : clean (clean path) = clean path := by
  obtain ⟨reals, k, hkept, ⟨hne, hclean⟩ | ⟨-, hclean⟩⟩ := clean_shape path
  · rw [hclean, clean_eq_cleanSpec, cleanSpec]
    rw [rooted_render _ hkept.elements, elements_render _ hkept.elements, foldl_push_reverse hkept]
    simp [hne]
  · rw [hclean]
    simp [clean_eq_cleanSpec, cleanSpec, elements, push, render, rootOf]

theorem elements_clean_of_rooted {path : List Char} (h : path.head? = some '/') :
    (clean path).head? = some '/' ∧ ∀ e ∈ elements (clean path), Element e ∧ e ≠ dotDot := by
  have hrooted : (path.head? == some '/') = true := by simp [h]
  obtain ⟨reals, k, hkept, hout⟩ := clean_shape path
  rw [hrooted] at hkept hout
  have hk : k = 0 := hkept.rooted_k rfl
  subst hk
  -- a rooted writing is never empty, so the result is the writing itself
  have hclean : clean path = render true reals := by
    rcases hout with ⟨-, hclean⟩ | ⟨hnil, -⟩
    · simpa using hclean
    · simp [render, rootOf] at hnil
  have hreals : ∀ e ∈ reals, Element e := fun e he => (hkept.reals_ok e he).1
  refine ⟨by simp [hclean, render, rootOf], ?_⟩
  rw [hclean, elements_render true hreals]
  intro e he
  exact hkept.reals_ok e (List.mem_reverse.mp he)

theorem takeWhile_dropWhile_append_slash (t : List Char) :
    (t ++ ['/']).takeWhile (· != '/') = t.takeWhile (· != '/') ∧
      (t ++ ['/']).dropWhile (· != '/') = t.dropWhile (· != '/') ++ ['/'] := by
  induction t with
  | nil => exact ⟨rfl, rfl⟩
  | cons c t ih =>
    by_cases hc : c = '/'
    · subst hc
      exact ⟨rfl, rfl⟩
    · have hc' : (c != '/') = true := by simpa using hc
      rw [List.cons_append, List.takeWhile_cons_of_pos (p := fun x => x != '/') hc',
        List.takeWhile_cons_of_pos (p := fun x => x != '/') hc',
        List.dropWhile_cons_of_pos (p := fun x => x != '/') hc',
        List.dropWhile_cons_of_pos (p := fun x => x != '/') hc', ih.1, ih.2]
      exact ⟨rfl, rfl⟩

theorem elements_append_slash (path : List Char) : elements (path ++ ['/']) = elements path := by
  induction path using elements.induct with
  | case1 => rw [List.nil_append, elements_slash]
  | case2 rest ih => rw [List.cons_append, elements_slash, elements_slash, ih]
  | case3 c rest hc ih =>
    obtain ⟨htake, hdrop⟩ := takeWhile_dropWhile_append_slash rest
    rw [List.cons_append, elements_of_ne_slash hc, elements_of_ne_slash hc, htake, hdrop, ih]

theorem clean_append_slash {path : List Char} (hne : path ≠ []) : clean (path ++ ['/']) = clean path := by
  have hhead : (path ++ ['/']).head? = path.head? := List.head?_append_of_ne_nil _ hne
  have helems : elements (path ++ ['/']) = elements path := elements_append_slash path
  rw [clean_eq_cleanSpec, clean_eq_cleanSpec, cleanSpec, cleanSpec, hhead, helems]

theorem clean_ne_nil (path : List Char) : clean path ≠ [] := by
  obtain ⟨reals, k, -, ⟨hne, hclean⟩ | ⟨-, hclean⟩⟩ := clean_shape path
  · rwa [hclean]
  · rw [hclean]
    exact List.cons_ne_nil _ _

theorem clean_singleton (c : Char) : clean [c] = [c] := by
  rw [clean_eq_cleanSpec, cleanSpec]
  by_cases hslash : c = '/'
  · subst hslash
    simp [elements_slash, elements, render, rootOf]
  · have hcb : (c == '/') = false := by simpa using hslash
    have helems : elements [c] = [[c]] := by
      have h := elements_append_of_elementEnds (List.cons_ne_nil c []) (by simpa using Ne.symm hslash)
        (z := []) rfl
      rwa [List.append_nil, elements] at h
    by_cases hdot : c = '.'
    · subst hdot
      simp [helems, push, render, rootOf]
    · have hne : [c] ≠ dotDot := by simp [dotDot, hdot]
      simp [hcb, helems, push_of_ne (by simpa using hdot) hne, render, rootOf]

theorem getLast?_render (rooted : Bool) {top : List Char} (htop : top ≠ [])
    (rest : List (List Char)) : (render rooted (top :: rest)).getLast? = top.getLast? := by
  rw [render, List.reverse_cons]
  by_cases hrest : rest.reverse = []
  · rw [hrest, List.nil_append, List.intercalate_singleton, List.getLast?_append_of_ne_nil _ htop]
  · rw [intercalate_append_singleton _ hrest, ← List.append_assoc,
      List.getLast?_append_of_ne_nil _ htop]

theorem clean_eq_root_of_getLast? {path : List Char} (h : (clean path).getLast? = some '/') :
    clean path = ['/'] := by
  obtain ⟨reals, k, hkept, ⟨hne, hclean⟩ | ⟨-, hclean⟩⟩ := clean_shape path
  · rw [hclean] at h ⊢
    cases hst : reals ++ List.replicate k dotDot with
    | nil =>
      -- an empty stack writes the root alone
      cases hr : (path.head? == some '/') <;> simp_all [render, rootOf]
    | cons top rest =>
      -- otherwise the path ends with its top element, which holds no slash
      have htop := hkept.elements top (hst ▸ List.mem_cons_self)
      rw [hst, getLast?_render _ htop.1] at h
      obtain ⟨ys, rfl⟩ := List.getLast?_eq_some_iff.mp h
      exact absurd (List.mem_append_right ys List.mem_cons_self) htop.2.1
  · rw [hclean] at h
    cases h

end Go.Path
