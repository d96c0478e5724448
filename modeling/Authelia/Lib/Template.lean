import Authelia.Go.Replace

/-! Templates of literal text and brace-delimited placeholders `{name}`. A match of a placeholder
starts at an opening brace, and the only opening braces of a template are those of its
placeholders, so `ReplaceAll` of one placeholder fills exactly its own holes (`replaceAll_render`).
Replacing placeholders one after another is then their simultaneous substitution
(`substitute_fill`), as long as no inserted value opens a brace: `Template.fill` asks for that. -/

namespace Template
open Go

/-- A placeholder name never holds a brace. -/
@[ext] structure Placeholder where
  name : List Char
  not_mem_name : '{' ∉ name ∧ '}' ∉ name
  deriving DecidableEq

namespace Placeholder

def text (p : Placeholder) : List Char := '{' :: (p.name ++ ['}'])

@[simp] theorem head?_text (p : Placeholder) : p.text.head? = some '{' := rfl

theorem text_ne_nil (p : Placeholder) : p.text ≠ [] := List.cons_ne_nil _ _

theorem eq_of_prefix_append {x : Char} :
    ∀ {u v r : List Char}, x ∉ u → x ∉ v → u ++ [x] <+: v ++ x :: r → u = v
  | [], [], _, _, _, _ => rfl
  | [], b :: v, r, _, hv, h => by
    have hxb : x = b := (List.cons_prefix_cons.mp h).1
    exact absurd (hxb ▸ List.mem_cons_self) hv
  | a :: u, [], r, hu, _, h => by
    have hax : a = x := (List.cons_prefix_cons.mp h).1
    exact absurd (hax ▸ List.mem_cons_self) hu
  | a :: u, b :: v, r, hu, hv, h => by
    obtain ⟨hab, h'⟩ := List.cons_prefix_cons.mp h
    rw [hab, eq_of_prefix_append (fun hm => hu (List.mem_cons_of_mem a hm))
      (fun hm => hv (List.mem_cons_of_mem b hm)) h']

theorem eq_of_isPrefixOf {p q : Placeholder} (rest : List Char)
    (h : q.text.isPrefixOf (p.text ++ rest) = true) : q = p := by
  rw [List.isPrefixOf_iff_prefix] at h
  simp only [text, List.cons_append, List.cons_prefix_cons, true_and, List.append_assoc] at h
  exact Placeholder.ext (eq_of_prefix_append q.not_mem_name.2 p.not_mem_name.2 h)

end Placeholder

inductive Segment
  | text (s : List Char)
  | hole (p : Placeholder)
  deriving DecidableEq

namespace Segment

def render : Segment → List Char
  | text s => s
  | hole p => p.text

def fill (p : Placeholder) (v : List Char) : Segment → Segment
  | hole q => if q = p then text v else hole q
  | text s => text s

end Segment

end Template

open Template in
/-- A template whose literal text never opens a brace. -/
structure Template where
  segments : List Segment
  literal_brace_free : ∀ s, Segment.text s ∈ segments → '{' ∉ s

namespace Template
open Go

def render (t : Template) : List Char := t.segments.flatMap Segment.render

def fill (t : Template) (p : Placeholder) (v : List Char) (hv : '{' ∉ v) : Template where
  segments := t.segments.map (Segment.fill p v)
  literal_brace_free := by
    intro s hs
    obtain ⟨seg, hseg, hfill⟩ := List.mem_map.mp hs
    cases seg with
    | text s' =>
      cases hfill
      exact t.literal_brace_free s hseg
    | hole q =>
      simp only [Segment.fill] at hfill
      split at hfill
      · cases hfill
        exact hv
      · cases hfill

/-- The simultaneous substitution: a hole whose placeholder has a value takes it, the others
keep their text. -/
def substitute (σ : Placeholder → Option (List Char)) (t : Template) : List Char :=
  t.segments.flatMap fun
    | .text s => s
    | .hole p => (σ p).getD p.text

section Replace
variable (p : Placeholder) (v : List Char)

theorem replaceAll_flatMap_render :
    ∀ segs : List Segment, (∀ s, Segment.text s ∈ segs → '{' ∉ s) →
      replaceAll (segs.flatMap Segment.render) p.text v =
        (segs.map (Segment.fill p v)).flatMap Segment.render
  | [], _ => replaceAll_nil v p.text_ne_nil
  | .text s :: segs, h => by
    have hs : '{' ∉ s := h s List.mem_cons_self
    have ih := replaceAll_flatMap_render segs fun s' hs' => h s' (List.mem_cons_of_mem _ hs')
    simp only [List.flatMap_cons, Segment.render, List.map_cons, Segment.fill]
    rw [replaceAll_append_of_not_mem v (Placeholder.head?_text p) hs, ih]
  | .hole q :: segs, h => by
    have ih := replaceAll_flatMap_render segs fun s' hs' => h s' (List.mem_cons_of_mem _ hs')
    simp only [List.flatMap_cons, Segment.render, List.map_cons, Segment.fill]
    by_cases hqp : q = p
    · -- the hole of the placeholder itself is a match
      subst hqp
      rw [if_pos rfl, replaceAll_append_of_eq v q.text_ne_nil, ih]
    · -- another placeholder: no match at its brace, and none inside its name
      rw [if_neg hqp]
      have hq : ∀ rest, q.text ++ rest = '{' :: (q.name ++ ['}'] ++ rest) := by
        simp [Placeholder.text]
      have hno : p.text.isPrefixOf ('{' :: (q.name ++ ['}'] ++ segs.flatMap Segment.render)) =
          false := by
        rw [Bool.eq_false_iff, ← hq]
        exact fun hm => hqp (Placeholder.eq_of_isPrefixOf _ hm).symm
      have hname : '{' ∉ q.name ++ ['}'] := by
        simpa using q.not_mem_name.1
      rw [hq, hq, replaceAll_cons_of_not_isPrefixOf v p.text_ne_nil hno,
        replaceAll_append_of_not_mem v (Placeholder.head?_text p) hname, ih]

theorem replaceAll_render (t : Template) (hv : '{' ∉ v) :
    replaceAll t.render p.text v = (t.fill p v hv).render :=
  replaceAll_flatMap_render p v t.segments t.literal_brace_free

theorem render_eq_substitute (t : Template) : t.render = t.substitute fun _ => none := by
  unfold render substitute
  congr 1

theorem substitute_fill (σ : Placeholder → Option (List Char)) (t : Template) (hv : '{' ∉ v) :
    (t.fill p v hv).substitute σ = t.substitute fun q => if q = p then some v else σ q := by
  unfold substitute fill
  rw [List.flatMap_map]
  congr 1
  funext seg
  cases seg with
  | text s => rfl
  | hole q =>
    by_cases hqp : q = p
    · subst hqp
      simp [Segment.fill]
    · simp [Segment.fill, hqp]

theorem hole_mem_of_mem_fill {t : Template} {hv : '{' ∉ v} {q : Placeholder}
    (h : Segment.hole q ∈ (t.fill p v hv).segments) : Segment.hole q ∈ t.segments := by
  obtain ⟨seg, hseg, hfill⟩ := List.mem_map.mp h
  cases seg with
  | text s => cases hfill
  | hole r =>
    simp only [Segment.fill] at hfill
    split at hfill
    · cases hfill
    · cases hfill
      exact hseg

theorem fill_of_not_mem {t : Template} (hv : '{' ∉ v) (h : Segment.hole p ∉ t.segments) :
    (t.fill p v hv).render = t.render := by
  show (t.segments.map (Segment.fill p v)).flatMap Segment.render = t.segments.flatMap Segment.render
  rw [List.map_congr_left (g := id), List.map_id]
  intro seg hseg
  cases seg with
  | text s => rfl
  | hole q =>
    have hqp : q ≠ p := by
      rintro rfl
      exact h hseg
    simp [Segment.fill, hqp]

theorem contains_render {t : Template} (h : Segment.hole p ∈ t.segments) :
    contains t.render p.text = true := by
  unfold contains render
  rw [decide_eq_true_eq]
  rw [List.flatMap_def]
  exact List.infix_of_mem_flatten (List.mem_map_of_mem h)

theorem ite_replaceAll {t₀ t : Template} (b : Bool) (hv : '{' ∉ v)
    (hsub : ∀ q, Segment.hole q ∈ t.segments → Segment.hole q ∈ t₀.segments) :
    (if (b || contains t₀.render p.text) = true then replaceAll t.render p.text v else t.render) =
      (t.fill p v hv).render := by
  split
  · exact replaceAll_render p v t hv
  · rename_i hnot
    refine (fill_of_not_mem p v hv fun hmem => hnot ?_).symm
    rw [contains_render p (hsub p hmem), Bool.or_true]

end Replace

end Template
