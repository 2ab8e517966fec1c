import Mathlib.Order.Basic

/-!
# Runs of labelled steps

A system is a function that gives the state after a step with a label, or nothing
when the step is not enabled. A label names the thread that moves and what it
does, so a list of labels is an interleaving of the threads, and a statement about
every list is about every interleaving.

* `run_append`: a run in two parts;
* `run_invariant`: what every step keeps holds after every run;
* `run_invariant_along`: the same for the runs whose steps all meet a condition;
* `run_monotone`: a preorder that every step respects relates the ends of a run;
* `run_switch`: a property that a run gains is gained in one of its steps.
-/

namespace ATB.Trace

variable {S L : Type} (step : S → L → Option S)

/-- The state after the steps with these labels. -/
def run : S → List L → Option S
  | s, [] => some s
  | s, l :: ls => (step s l).bind fun s' => run s' ls

/-- Every step of the run meets the condition in the state in which it is taken. -/
def Along (P : S → L → Prop) : S → List L → Prop
  | _, [] => True
  | s, l :: ls => P s l ∧ ∀ s', step s l = some s' → Along P s' ls

instance Along.decidable (P : S → L → Prop) [∀ s l, Decidable (P s l)] :
    (s : S) → (ls : List L) → Decidable (Along step P s ls)
  | _, [] => .isTrue trivial
  | s, l :: ls =>
    have : Decidable (∀ s', step s l = some s' → Along step P s' ls) :=
      match h : step s l with
      | none => .isTrue (by simp)
      | some s' =>
        have := Along.decidable P s' ls
        decidable_of_iff (Along step P s' ls) (by simp)
    inferInstanceAs (Decidable (_ ∧ _))

variable {step} {s s' s'' : S} {l : L} {ls ls' : List L}

theorem run_nil : run step s [] = some s' ↔ s = s' := by simp [run]

theorem run_cons : run step s (l :: ls) = some s'' ↔ ∃ s', step s l = some s' ∧ run step s' ls = some s'' := by
  simp [run, Option.bind_eq_some_iff]

theorem run_append :
    run step s (ls ++ ls') = some s'' ↔ ∃ s', run step s ls = some s' ∧ run step s' ls' = some s'' := by
  induction ls generalizing s with
  | nil => simp [run]
  | cons l ls ih =>
    simp only [List.cons_append, run_cons, ih]
    constructor
    · rintro ⟨s₁, h₁, s₂, h₂, h₃⟩
      exact ⟨s₂, ⟨s₁, h₁, h₂⟩, h₃⟩
    · rintro ⟨s₂, ⟨s₁, h₁, h₂⟩, h₃⟩
      exact ⟨s₁, h₁, s₂, h₂, h₃⟩

theorem run_concat : run step s (ls ++ [l]) = some s'' ↔ ∃ s', run step s ls = some s' ∧ step s' l = some s'' := by
  rw [run_append]
  simp only [run_cons, run_nil, exists_eq_right]

/-- What every step that meets the condition keeps holds after every run of such steps. -/
theorem run_invariant_along {P : S → L → Prop} (Inv : S → Prop)
    (hstep : ∀ s l s', step s l = some s' → P s l → Inv s → Inv s')
    (h : run step s ls = some s') (hP : Along step P s ls) (hs : Inv s) : Inv s' := by
  induction ls generalizing s with
  | nil =>
    rw [run_nil] at h
    exact h ▸ hs
  | cons l ls ih =>
    obtain ⟨s₁, h₁, h₂⟩ := run_cons.mp h
    exact ih h₂ (hP.2 s₁ h₁) (hstep s l s₁ h₁ hP.1 hs)

theorem along_of_forall {P : S → L → Prop} (h : ∀ s l, P s l) (s : S) (ls : List L) : Along step P s ls := by
  induction ls generalizing s with
  | nil => trivial
  | cons l ls ih => exact ⟨h s l, fun s' _ => ih s'⟩

theorem Along.mono {P Q : S → L → Prop} (h : ∀ s l, P s l → Q s l) (hP : Along step P s ls) : Along step Q s ls := by
  induction ls generalizing s with
  | nil => trivial
  | cons l ls ih => exact ⟨h s l hP.1, fun s' hs => ih (hP.2 s' hs)⟩

theorem along_of_mem {P : L → Prop} (h : ∀ l ∈ ls, P l) (s : S) : Along step (fun _ l => P l) s ls := by
  induction ls generalizing s with
  | nil => trivial
  | cons l ls ih =>
    exact ⟨h l (List.mem_cons_self ..), fun s' _ => ih (fun l hl => h l (List.mem_cons_of_mem _ hl)) s'⟩

theorem Along.and {P Q : S → L → Prop} (hP : Along step P s ls) (hQ : Along step Q s ls) :
    Along step (fun s l => P s l ∧ Q s l) s ls := by
  induction ls generalizing s with
  | nil => trivial
  | cons l ls ih => exact ⟨⟨hP.1, hQ.1⟩, fun s' h => ih (hP.2 s' h) (hQ.2 s' h)⟩

theorem along_append {P : S → L → Prop} (h : run step s ls = some s') :
    Along step P s (ls ++ ls') ↔ Along step P s ls ∧ Along step P s' ls' := by
  induction ls generalizing s with
  | nil =>
    rw [run_nil] at h
    simp [Along, h]
  | cons l ls ih =>
    obtain ⟨s₁, h₁, h₂⟩ := run_cons.mp h
    simp only [List.cons_append, Along, h₁, Option.some.injEq, forall_eq', ih h₂, and_assoc]

/-- What every step keeps holds after every run. -/
theorem run_invariant (Inv : S → Prop) (hstep : ∀ s l s', step s l = some s' → Inv s → Inv s')
    (h : run step s ls = some s') (hs : Inv s) : Inv s' :=
  run_invariant_along (P := fun _ _ => True) Inv (fun s l s' h _ => hstep s l s' h) h
    (along_of_forall (fun _ _ => trivial) s ls) hs

/-- A preorder that every step respects relates the ends of every run. -/
theorem run_monotone {α : Type} [Preorder α] (f : S → α) (hstep : ∀ s l s', step s l = some s' → f s' ≤ f s)
    (h : run step s ls = some s') : f s' ≤ f s :=
  run_invariant (fun x => f x ≤ f s) (fun _ l _ h hx => (hstep _ l _ h).trans hx) h le_rfl

/-- A property that holds after a run and not before it is gained in one of its steps. -/
theorem run_switch {P : S → Prop} (h : run step s ls = some s') (hs : ¬ P s) (hs' : P s') :
    ∃ ls₁ l ls₂ x y, ls = ls₁ ++ l :: ls₂ ∧ run step s ls₁ = some x ∧ step x l = some y ∧ ¬ P x ∧ P y := by
  induction ls generalizing s with
  | nil =>
    rw [run_nil] at h
    exact absurd (h ▸ hs') hs
  | cons l ls ih =>
    obtain ⟨s₁, h₁, h₂⟩ := run_cons.mp h
    by_cases hP : P s₁
    · exact ⟨[], l, ls, s, s₁, rfl, rfl, h₁, hs, hP⟩
    · obtain ⟨ls₁, l', ls₂, x, y, rfl, hx, hy⟩ := ih h₂ hP
      exact ⟨l :: ls₁, l', ls₂, x, y, rfl, run_cons.mpr ⟨s₁, h₁, hx⟩, hy⟩

end ATB.Trace
