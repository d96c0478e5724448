import Mathlib.Data.List.Basic

/-! Left-to-right maps that thread a state: the shape of a loop that rewrites the entries of a
slice in place while it pushes to an accumulator. A relation that every call establishes between
the state it gets and the state it returns holds from the first state to every later one. -/

namespace List

variable {α β σ : Type}

/-- Map `f` over the list from the left, passing each call the state the previous one returned. -/
def mapAccumL (f : α → σ → β × σ) : List α → σ → List β × σ
  | [], s => ([], s)
  | a :: as, s =>
    let r := f a s
    let rs := mapAccumL f as r.2
    (r.1 :: rs.1, rs.2)

@[simp] theorem mapAccumL_nil (f : α → σ → β × σ) (s : σ) : mapAccumL f [] s = ([], s) := rfl

@[simp] theorem mapAccumL_cons (f : α → σ → β × σ) (a : α) (as : List α) (s : σ) :
    mapAccumL f (a :: as) s =
      ((f a s).1 :: (mapAccumL f as (f a s).2).1, (mapAccumL f as (f a s).2).2) := rfl

@[simp] theorem length_mapAccumL (f : α → σ → β × σ) (l : List α) (s : σ) :
    (mapAccumL f l s).1.length = l.length := by
  induction l generalizing s with
  | nil => rfl
  | cons a as ih => simp [ih]

section Rel
variable {R : σ → σ → Prop} (hrefl : ∀ s, R s s) (htrans : ∀ s t u, R s t → R t u → R s u)
include hrefl htrans

theorem rel_mapAccumL {f : α → σ → β × σ} (hf : ∀ a s, R s (f a s).2) (l : List α) (s : σ) :
    R s (mapAccumL f l s).2 := by
  induction l generalizing s with
  | nil => exact hrefl s
  | cons a as ih => exact htrans _ _ _ (hf a s) (ih (f a s).2)

theorem rel_foldl_of_step {f : σ → α → σ} (hf : ∀ s a, R s (f s a)) (l : List α) (s : σ) :
    R s (l.foldl f s) := by
  induction l generalizing s with
  | nil => exact hrefl s
  | cons a as ih => exact htrans _ _ _ (hf s a) (ih (f s a))

theorem exists_rel_mapAccumL_of_mem {f : α → σ → β × σ} (hf : ∀ a s, R s (f a s).2)
    {l : List α} {s : σ} {b : β} (hb : b ∈ (mapAccumL f l s).1) :
    ∃ a ∈ l, ∃ t, R s t ∧ (f a t).1 = b ∧ R (f a t).2 (mapAccumL f l s).2 := by
  induction l generalizing s with
  | nil => cases hb
  | cons a as ih =>
    rcases mem_cons.mp hb with rfl | hbs
    · exact ⟨a, mem_cons_self, s, hrefl s, rfl, rel_mapAccumL hrefl htrans hf as (f a s).2⟩
    · obtain ⟨a', ha', t, hst, hb', ht⟩ := ih hbs
      exact ⟨a', mem_cons_of_mem a ha', t, htrans _ _ _ (hf a s) hst, hb', ht⟩

end Rel

end List
