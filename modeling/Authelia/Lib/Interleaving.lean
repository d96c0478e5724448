import Mathlib.Logic.Relation
import Mathlib.Data.List.Basic

/-! Processes that share a store and run one atomic statement at a time, in any order. A
configuration holds the store and the local state of each process; a step lets one process run its
next statement. What holds of the first configuration and is kept by every step holds of every
configuration an interleaving reaches. -/

namespace Interleaving

/-- The next atomic statement of a process: from its local state and the store, its new local
state and the new store, or `none` once the process has finished. -/
structure Program (σ π : Type) where
  step : π → σ → Option (π × σ)

structure Config (σ π : Type) where
  store : σ
  procs : List π

namespace Program
variable {σ π : Type} (P : Program σ π)

def stepAt (c : Config σ π) (i : Nat) : Option (Config σ π) :=
  match c.procs[i]? with
  | none => none
  | some p => (P.step p c.store).map fun r => ⟨r.2, c.procs.set i r.1⟩

/-- A schedule: the processes in the order in which they run a statement. -/
def run (c : Config σ π) : List Nat → Option (Config σ π)
  | [] => some c
  | i :: is => (P.stepAt c i).bind fun c' => run c' is

def Step (c c' : Config σ π) : Prop := ∃ i, P.stepAt c i = some c'

def Reachable (c₀ c : Config σ π) : Prop := Relation.ReflTransGen P.Step c₀ c

theorem stepAt_eq_some {c c' : Config σ π} {i : Nat} (h : P.stepAt c i = some c') :
    ∃ hi : i < c.procs.length, ∃ p' s', P.step c.procs[i] c.store = some (p', s') ∧
      c' = ⟨s', c.procs.set i p'⟩ := by
  unfold stepAt at h
  split at h
  · cases h
  · next p hp =>
    obtain ⟨hi, rfl⟩ := List.getElem?_eq_some_iff.mp hp
    obtain ⟨⟨p', s'⟩, hstep, rfl⟩ := Option.map_eq_some_iff.mp h
    exact ⟨hi, p', s', hstep, rfl⟩

theorem countP_set_add {q : π → Bool} {l : List π} {i : Nat} (h : i < l.length) (p' : π) :
    (l.set i p').countP q + (if q l[i] then 1 else 0) = l.countP q + (if q p' then 1 else 0) := by
  rw [List.countP_set h]
  have := List.boole_getElem_le_countP (p := q) h
  omega

theorem reachable_of_run {c₀ c : Config σ π} :
    ∀ {is : List Nat}, P.run c₀ is = some c → P.Reachable c₀ c
  | [], h => by
    cases h
    exact Relation.ReflTransGen.refl
  | i :: is, h => by
    obtain ⟨c', hc', hrun⟩ := Option.bind_eq_some_iff.mp h
    exact Relation.ReflTransGen.head ⟨i, hc'⟩ (reachable_of_run hrun)

theorem Reachable.invariant {Inv : Config σ π → Prop} {c₀ c : Config σ π}
    (h : P.Reachable c₀ c) (h₀ : Inv c₀) (hstep : ∀ c c', Inv c → P.Step c c' → Inv c') :
    Inv c := by
  induction h with
  | refl => exact h₀
  | tail _ hstep' ih => exact hstep _ _ ih hstep'

theorem countP_le_of_flag {q : π → Bool} {flag : σ → Bool}
    (hstep : ∀ p s p' s', P.step p s = some (p', s') →
      (flag s' = flag s ∧ (q p' = true → q p = true)) ∨ (flag s = false ∧ flag s' = true))
    {c₀ c : Config σ π} (h : P.Reachable c₀ c)
    (h₀ : c₀.procs.countP q ≤ if flag c₀.store then 1 else 0) :
    c.procs.countP q ≤ if flag c.store then 1 else 0 := by
  refine @Reachable.invariant σ π P (fun c => c.procs.countP q ≤ if flag c.store then 1 else 0)
    c₀ c h h₀ ?_
  rintro c c' hc ⟨i, hi⟩
  obtain ⟨hlt, p', s', hs, rfl⟩ := P.stepAt_eq_some hi
  have hcount := countP_set_add (q := q) hlt p'
  dsimp only
  rcases hstep _ _ _ _ hs with ⟨hflag, hq⟩ | ⟨hoff, hon⟩
  · -- the flag is kept, and the process that ran is in the class after only if it was before
    rw [hflag]
    by_cases hp' : q p' = true
    · simp only [hp', hq hp', if_true] at hcount
      omega
    · simp only [hp', Bool.false_eq_true, if_false] at hcount
      split at hcount <;> omega
  · -- the flag goes up: the class was empty, and only the process that ran can join it
    rw [hon, if_pos rfl]
    simp only [hoff, Bool.false_eq_true, if_false] at hc
    split at hcount <;> split at hcount <;> omega

theorem countP_le_of_flag_of_eq_zero {q : π → Bool} {flag : σ → Bool}
    (hstep : ∀ p s p' s', P.step p s = some (p', s') →
      (flag s' = flag s ∧ (q p' = true → q p = true)) ∨ (flag s = false ∧ flag s' = true))
    {c₀ c : Config σ π} (h : P.Reachable c₀ c) (h₀ : c₀.procs.countP q = 0) :
    c.procs.countP q ≤ if flag c.store then 1 else 0 :=
  P.countP_le_of_flag hstep h (by rw [h₀]; exact Nat.zero_le _)

/-- A class of processes that only a one-way flag lets a process join, and that starts empty,
never holds more than one process. -/
theorem countP_le_one_of_flag {q : π → Bool} {flag : σ → Bool}
    (hstep : ∀ p s p' s', P.step p s = some (p', s') →
      (flag s' = flag s ∧ (q p' = true → q p = true)) ∨ (flag s = false ∧ flag s' = true))
    {c₀ c : Config σ π} (h : P.Reachable c₀ c) (h₀ : c₀.procs.countP q = 0) :
    c.procs.countP q ≤ 1 := by
  have hflag := P.countP_le_of_flag_of_eq_zero hstep h h₀
  split at hflag <;> omega

theorem countP_eq_zero_of_flag {q : π → Bool} {flag : σ → Bool}
    (hstep : ∀ p s p' s', P.step p s = some (p', s') →
      (flag s' = flag s ∧ (q p' = true → q p = true)) ∨ (flag s = false ∧ flag s' = true))
    {c₀ c : Config σ π} (h : P.Reachable c₀ c) (hflag : flag c₀.store = true)
    (h₀ : c₀.procs.countP q = 0) : c.procs.countP q = 0 := by
  refine (@Reachable.invariant σ π P (fun c => flag c.store = true ∧ c.procs.countP q = 0)
    c₀ c h ⟨hflag, h₀⟩ ?_).2
  rintro c c' ⟨hc, hcount⟩ ⟨i, hi⟩
  obtain ⟨hlt, p', s', hs, rfl⟩ := P.stepAt_eq_some hi
  have hset := countP_set_add (q := q) hlt p'
  rcases hstep _ _ _ _ hs with ⟨hkeep, hq⟩ | ⟨hoff, -⟩
  · -- the process that ran was outside the class, so it stays outside
    have hp : q c.procs[i] = false := by
      rw [List.countP_eq_zero] at hcount
      simpa using hcount _ (List.getElem_mem hlt)
    have hp' : q p' = false := by
      cases hq' : q p'
      · rfl
      · simp [hq hq'] at hp
    refine ⟨hkeep.trans hc, ?_⟩
    simp only [hp, hp', Bool.false_eq_true, if_false] at hset
    dsimp only
    omega
  · simp [hc] at hoff

theorem Reachable.forall_procs {I : σ → π → Prop}
    (hframe : ∀ p s p' s', P.step p s = some (p', s') → ∀ q, I s q → I s' q)
    (hstep : ∀ p s p' s', P.step p s = some (p', s') → I s p → I s' p')
    {c₀ c : Config σ π} (h : P.Reachable c₀ c) (h₀ : ∀ p ∈ c₀.procs, I c₀.store p) :
    ∀ p ∈ c.procs, I c.store p := by
  refine @Reachable.invariant σ π P (fun c => ∀ p ∈ c.procs, I c.store p) c₀ c h h₀ ?_
  rintro c c' hc ⟨i, hi⟩
  obtain ⟨hlt, p', s', hs, rfl⟩ := P.stepAt_eq_some hi
  intro q hq
  rcases List.mem_or_eq_of_mem_set hq with hq | rfl
  · exact hframe _ _ _ _ hs q (hc q hq)
  · exact hstep _ _ _ _ hs (hc _ (List.getElem_mem hlt))

theorem Reachable.trans {c₀ c c' : Config σ π} (h : P.Reachable c₀ c) (h' : P.Reachable c c') :
    P.Reachable c₀ c' :=
  Relation.ReflTransGen.trans h h'

end Program

end Interleaving
