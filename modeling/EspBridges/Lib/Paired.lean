import EspBridges.Lib.Machine
import Mathlib.Data.List.Forall2

namespace EspBridges.Paired

variable {σ ι ο : Type} (next : σ → ι → σ) (answer : σ → ι → ο)

def answers : σ → List ι → List ο
  | _, [] => []
  | s, i :: is => answer s i :: answers (next s i) is

def total (s : σ) (i : ι) : Option σ := some (next s i)

variable {next answer}

theorem guarded_cons {ok : σ → ι → Prop} {s : σ} {i : ι} {is : List ι} :
    Machine.Guarded (total next) ok s (i :: is) ↔
      ok s i ∧ Machine.Guarded (total next) ok (next s i) is := by
  constructor
  · exact fun h => h _ rfl
  · rintro h s' hs
    cases hs
    exact h

theorem guarded_of_forall {ok : σ → ι → Prop} {s : σ} {is : List ι} (h : ∀ s, ∀ i ∈ is, ok s i) :
    Machine.Guarded (total next) ok s is := by
  induction is generalizing s with
  | nil => trivial
  | cons i is ih =>
    exact guarded_cons.mpr ⟨h s i (.head _), ih fun s j hj => h s j (.tail _ hj)⟩

section Relation

variable {R : σ → σ → Prop} {E : ι → ι → Prop} {ok : σ → ι → Prop} {s s' : σ} {is is' : List ι}

theorem answers_eq (hstep : ∀ s s', ∀ i ∈ is, ∀ i', R s s' → E i i' → ok s i →
      answer s' i' = answer s i ∧ R (next s i) (next s' i'))
    (hR : R s s') (hE : List.Forall₂ E is is') (hok : Machine.Guarded (total next) ok s is) :
    answers next answer s' is' = answers next answer s is := by
  induction hE generalizing s s' with
  | nil => rfl
  | cons hhead _ ih =>
    obtain ⟨hhere, hrest⟩ := guarded_cons.mp hok
    obtain ⟨hanswer, hkept⟩ := hstep _ _ _ (.head _) _ hR hhead hhere
    have htail := ih (fun s s' i hi => hstep s s' i (.tail _ hi)) hkept hrest
    rw [answers, answers, hanswer, htail]

theorem guarded_transfer {good : σ → ι → Prop}
    (hstep : ∀ s s', ∀ i ∈ is, ∀ i', R s s' → E i i' → ok s i →
      good s' i' ∧ R (next s i) (next s' i'))
    (hR : R s s') (hE : List.Forall₂ E is is') (hok : Machine.Guarded (total next) ok s is) :
    Machine.Guarded (total next) good s' is' := by
  induction hE generalizing s s' with
  | nil => trivial
  | cons hhead _ ih =>
    obtain ⟨hhere, hrest⟩ := guarded_cons.mp hok
    obtain ⟨hgood, hkept⟩ := hstep _ _ _ (.head _) _ hR hhead hhere
    exact guarded_cons.mpr ⟨hgood, ih (fun s s' i hi => hstep s s' i (.tail _ hi)) hkept hrest⟩

/-- An input that is not `ok` shows, in an answer that is not `good` or in two that differ, when
it is taken in the place of one it is related to. -/
theorem guarded_of_answers {good : σ → ι → Prop} (hrefl : ∀ i, E i i)
    (hbreak : ∀ s, ∀ i ∈ is, ¬ ok s i → (∃ i', E i i' ∧ ¬ good s i') ∨
      ∃ i' i'', E i i' ∧ E i i'' ∧ answer s i' ≠ answer s i'')
    (hsame : ∀ js js', List.Forall₂ E is js → List.Forall₂ E is js' →
      answers next answer s js = answers next answer s js')
    (hgood : ∀ js, List.Forall₂ E is js → Machine.Guarded (total next) good s js) :
    Machine.Guarded (total next) ok s is := by
  have hself : ∀ js : List ι, List.Forall₂ E js js := fun js => List.forall₂_same.mpr fun i _ => hrefl i
  induction is generalizing s with
  | nil => exact trivial
  | cons i is ih =>
    have hhere : ok s i := by
      apply Classical.byContradiction
      intro hnot
      rcases hbreak s i (.head _) hnot with ⟨i', hi', hbad⟩ | ⟨i', i'', hi', hi'', hne⟩
      · exact hbad (guarded_cons.mp (hgood _ (.cons hi' (hself is)))).1
      · have heq := hsame _ _ (.cons hi' (hself is)) (.cons hi'' (hself is))
        exact hne (List.cons.inj heq).1
    refine guarded_cons.mpr ⟨hhere, ih ?_ ?_ ?_⟩
    · exact fun s' j hj => hbreak s' j (.tail _ hj)
    · intro js js' hjs hjs'
      have heq := hsame _ _ (.cons (hrefl i) hjs) (.cons (hrefl i) hjs')
      exact (List.cons.inj heq).2
    · exact fun js hjs => (guarded_cons.mp (hgood _ (.cons (hrefl i) hjs))).2

end Relation

end EspBridges.Paired
