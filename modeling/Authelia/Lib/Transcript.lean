import Mathlib.Data.List.Basic

/-! A machine that answers one request at a time, and the transcript of a run: each request with
its answer, in order. An invariant that relates the state to the transcript so far, and that each
request keeps, holds at every request of every run (`exists_of_transcript_eq`); a property of one
answer then follows for every request from the state it was answered in. -/

namespace Transcript

variable {σ ι ω : Type} (step : σ → ι → ω × σ)

/-- The requests answered in order, from state `s`. -/
def run : σ → List ι → List (ι × ω) × σ
  | s, [] => ([], s)
  | s, i :: is =>
    let (o, s') := step s i
    let (rest, s'') := run s' is
    ((i, o) :: rest, s'')

@[simp] theorem run_nil (s : σ) : run step s [] = ([], s) := rfl

theorem run_cons_fst (s : σ) (i : ι) (is : List ι) :
    (run step s (i :: is)).1 = (i, (step s i).1) :: (run step (step s i).2 is).1 := rfl

theorem exists_of_transcript_eq (Inv : σ → List (ι × ω) → Prop)
    (hstep : ∀ s hist i, Inv s hist → Inv (step s i).2 (hist ++ [(i, (step s i).1)])) :
    ∀ (is : List ι) (s : σ) (hist pre post : List (ι × ω)) (i : ι) (o : ω), Inv s hist →
      (run step s is).1 = pre ++ (i, o) :: post →
      ∃ s', Inv s' (hist ++ pre) ∧ (step s' i).1 = o
  | [], _, _, pre, _, _, _, _, h => by
    simp at h
  | j :: is, s, hist, pre, post, i, o, hinv, h => by
    rw [run_cons_fst] at h
    cases pre with
    | nil =>
      -- the request is the first one: it is answered from `s`
      obtain ⟨⟨rfl, rfl⟩, -⟩ := List.cons_eq_cons.mp h
      exact ⟨s, by simpa using hinv, rfl⟩
    | cons e pre =>
      obtain ⟨rfl, h'⟩ := List.cons_eq_cons.mp h
      have := exists_of_transcript_eq Inv hstep is (step s j).2 (hist ++ [(j, (step s j).1)])
        pre post i o (hstep s hist j hinv) h'
      simpa using this

end Transcript
