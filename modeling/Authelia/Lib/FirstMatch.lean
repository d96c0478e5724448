import Mathlib.Data.List.Basic

/-! First-match search with a check that can fail: `List.findM?` and `List.anyM` in `Option`,
where `none` is an error that ends the search. When no check fails, the search is the plain
`List.find?`, also when the elements searched are the images of a list that carries the answers.
A check that fails nowhere the other does and accepts everything the other accepts gives a search
with the same two properties. -/

namespace Option

/-- `y` covers `x`: it returns wherever `x` returns, and returns `true` wherever `x` does. -/
def Covers (x y : Option Bool) : Prop :=
  ∀ b, x = some b → ∃ c, y = some c ∧ (b = true → c = true)

theorem Covers.refl (x : Option Bool) : x.Covers x :=
  fun b hb => ⟨b, hb, id⟩

theorem Covers.eq_some_true {x y : Option Bool} (h : x.Covers y) (hx : x = some true) :
    y = some true := by
  obtain ⟨c, hc, htrue⟩ := h true hx
  rw [hc, htrue rfl]

end Option

namespace List

variable {α β : Type}

theorem findM?_map_eq_some_find? {f : β → α} {p : α → Option Bool} {q : β → Bool} :
    ∀ {l : List β}, (∀ b ∈ l, p (f b) = some (q b)) →
      (l.map f).findM? p = some ((l.find? q).map f)
  | [], _ => rfl
  | b :: l, h => by
    have hb : p (f b) = some (q b) := h b mem_cons_self
    have hl : ∀ c ∈ l, p (f c) = some (q c) := fun c hc => h c (mem_cons_of_mem _ hc)
    simp only [map_cons, findM?, hb, find?_cons, Option.bind_eq_bind, Option.bind_some]
    cases q b with
    | true => rfl
    | false => exact findM?_map_eq_some_find? hl

theorem anyM_covers {f g : α → Option Bool} :
    ∀ {l : List α}, (∀ a ∈ l, (f a).Covers (g a)) → (l.anyM f).Covers (l.anyM g)
  | [], _ => Option.Covers.refl _
  | a :: l, h => by
    intro b hb
    have ha := h a mem_cons_self
    have hl : ∀ c ∈ l, (f c).Covers (g c) := fun c hc => h c (mem_cons_of_mem _ hc)
    simp only [anyM, Option.bind_eq_bind] at hb ⊢
    obtain ⟨fa, hfa, hb⟩ := Option.bind_eq_some_iff.mp hb
    obtain ⟨ga, hga, hfg⟩ := ha fa hfa
    rw [hga, Option.bind_some]
    cases ga with
    | true => exact ⟨true, rfl, fun _ => rfl⟩
    | false =>
      -- `g` rejects `a`, so `f` did too and both searches go on with the rest
      cases fa with
      | true => exact absurd (hfg rfl) Bool.false_ne_true
      | false => exact anyM_covers hl b hb

end List
