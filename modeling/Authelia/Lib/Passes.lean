import Mathlib.Data.List.Forall2

/-! Passes over a list in the error monad: a loop that rewrites every entry and stops at the first
failure, run once per pass. When every entry goes through all passes on its own, the passes over
the whole list succeed with the entries so rewritten, whatever the order of the failures would have
been. -/

@[simp] theorem Except.ok_bind {ε α β : Type} (a : α) (f : α → Except ε β) :
    (Except.ok a >>= f) = f a := rfl

@[simp] theorem Except.error_bind {ε α β : Type} (e : ε) (f : α → Except ε β) :
    (Except.error e >>= f) = Except.error e := rfl

theorem Except.bind_eq_ok {ε α β : Type} {x : Except ε α} {f : α → Except ε β} {b : β}
    (h : (x >>= f) = .ok b) : ∃ a, x = .ok a ∧ f a = .ok b := by
  cases x with
  | error e => cases h
  | ok a => exact ⟨a, rfl, h⟩

namespace List

variable {ε α β : Type}

theorem mapM_eq_ok_of_forall₂ {f : α → Except ε β} {as : List α} {bs : List β}
    (h : Forall₂ (fun a b => f a = .ok b) as bs) : as.mapM f = .ok bs := by
  induction h with
  | nil => rfl
  | cons hab _ ih => rw [List.mapM_cons, hab, ih]; rfl

theorem forall₂_of_mapM_eq_ok {f : α → Except ε β} :
    ∀ {as : List α} {bs : List β}, as.mapM f = .ok bs → Forall₂ (fun a b => f a = .ok b) as bs
  | [], _, h => by
    cases h
    exact .nil
  | a :: as, bs, h => by
    rw [List.mapM_cons] at h
    obtain ⟨b, hb, h⟩ := Except.bind_eq_ok h
    obtain ⟨bs', hbs, h⟩ := Except.bind_eq_ok h
    cases h
    exact .cons hb (forall₂_of_mapM_eq_ok hbs)

theorem Forall₂.of_bind_eq_ok {f g : α → Except ε α} :
    ∀ {as bs : List α}, Forall₂ (fun a b => (f a >>= g) = .ok b) as bs →
      ∃ cs, Forall₂ (fun a c => f a = .ok c) as cs ∧ Forall₂ (fun c b => g c = .ok b) cs bs
  | [], [], .nil => ⟨[], .nil, .nil⟩
  | a :: _, _ :: _, .cons hab h => by
    obtain ⟨cs, hf, hg⟩ := Forall₂.of_bind_eq_ok h
    cases hfa : f a with
    | error e => rw [hfa] at hab; cases hab
    | ok c =>
      rw [hfa] at hab
      exact ⟨c :: cs, .cons hfa hf, .cons hab hg⟩

theorem foldlM_mapM_eq_ok {fs : List (α → Except ε α)} {as bs : List α}
    (h : Forall₂ (fun a b => fs.foldlM (fun x f => f x) a = .ok b) as bs) :
    fs.foldlM (fun s f => s.mapM f) as = .ok bs := by
  induction fs generalizing as with
  | nil =>
    have : Forall₂ (· = ·) as bs := h.imp fun _ _ hab => Except.ok.inj hab
    rw [forall₂_eq_eq_eq] at this
    subst this
    rfl
  | cons f fs ih =>
    simp only [List.foldlM_cons] at h ⊢
    obtain ⟨cs, hf, hg⟩ := Forall₂.of_bind_eq_ok h
    rw [mapM_eq_ok_of_forall₂ hf]
    exact ih hg

section Filter
variable {γ : Type} {key : α → γ} (keep : γ → Bool)

theorem mapM_filter_eq_ok {f : α → Except ε α} (hkey : ∀ a b, f a = .ok b → key b = key a)
    {as bs : List α} (h : as.mapM f = .ok bs) :
    (as.filter fun a => keep (key a)).mapM f = .ok (bs.filter fun a => keep (key a)) := by
  apply mapM_eq_ok_of_forall₂
  refine rel_filter (fun a b hab => ?_) (forall₂_of_mapM_eq_ok h)
  simp only [hkey a b hab]

theorem foldlM_mapM_filter_eq_ok {fs : List (α → Except ε α)}
    (hkey : ∀ f ∈ fs, ∀ a b, f a = .ok b → key b = key a) :
    ∀ {as bs : List α}, fs.foldlM (fun s f => s.mapM f) as = .ok bs →
      fs.foldlM (fun s f => s.mapM f) (as.filter fun a => keep (key a)) =
        .ok (bs.filter fun a => keep (key a)) := by
  induction fs with
  | nil =>
    intro as bs h
    cases h
    rfl
  | cons f fs ih =>
    intro as bs h
    rw [List.foldlM_cons] at h ⊢
    obtain ⟨cs, hf, hfs⟩ := Except.bind_eq_ok h
    rw [mapM_filter_eq_ok keep (hkey f mem_cons_self) hf, Except.ok_bind]
    exact ih (fun g hg => hkey g (mem_cons_of_mem f hg)) hfs

end Filter

theorem foldlM_eq_pure_of_forall {m : Type → Type} [Monad m] [LawfulMonad m] {σ : Type}
    {f : σ → α → m σ} {s : σ} : ∀ {l : List α}, (∀ a ∈ l, f s a = pure s) → l.foldlM f s = pure s
  | [], _ => rfl
  | a :: as, h => by
    rw [List.foldlM_cons, h a mem_cons_self, pure_bind]
    exact foldlM_eq_pure_of_forall fun b hb => h b (mem_cons_of_mem a hb)

end List
