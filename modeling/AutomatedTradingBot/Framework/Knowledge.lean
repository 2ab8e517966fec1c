import AutomatedTradingBot.Framework.Trace

/-!
# Records that become known

A history is a list of records. Each rests on others and is known from a time, and the
history is read at a cut-off by taking what is known by then.

* `closed_knownAt_iff`: what is known lacks nothing that it rests on, at every cut-off,
  exactly when no record is known before what it rests on;
* `run_ordered_iff`: a history that grows by records that rest on what it has is so
  exactly when every step is in time.
-/

namespace ATB.Knowledge

variable {D T : Type} [Preorder T]

/-- The records that a list has rest on records that it has. -/
def Closed (restsOn : D → List D) (l : List D) : Prop := ∀ d ∈ l, ∀ e ∈ restsOn d, e ∈ l

section Known

variable (known : D → T) (restsOn : D → List D)

/-- The record is not known before what it rests on. -/
def InTime (d : D) : Prop := ∀ e ∈ restsOn d, known e ≤ known d

/-- No record of the history is known before what it rests on. -/
def Ordered (history : List D) : Prop := ∀ d ∈ history, InTime known restsOn d

variable [DecidableLE T]

/-- What is known at a cut-off. -/
def knownAt (cutoff : T) (history : List D) : List D := history.filter fun d => decide (known d ≤ cutoff)

end Known

variable {known : D → T} {restsOn : D → List D} {history : List D}

theorem mem_knownAt [DecidableLE T] {cutoff : T} {d : D} :
    d ∈ knownAt known cutoff history ↔ d ∈ history ∧ known d ≤ cutoff := by
  simp [knownAt]

theorem closed_knownAt_iff [DecidableLE T] (h : Closed restsOn history) :
    (∀ cutoff, Closed restsOn (knownAt known cutoff history)) ↔ Ordered known restsOn history := by
  constructor
  · intro hclosed d hd e he
    -- what `d` rests on is known when `d` is
    have hknown := hclosed (known d) d (mem_knownAt.mpr ⟨hd, le_rfl⟩) e he
    exact (mem_knownAt.mp hknown).2
  · intro hordered cutoff d hd e he
    obtain ⟨hd, hcutoff⟩ := mem_knownAt.mp hd
    exact mem_knownAt.mpr ⟨h d hd e he, (hordered d hd e he).trans hcutoff⟩

section Append

variable {d : D}

theorem closed_append (h : Closed restsOn history) (hd : ∀ e ∈ restsOn d, e ∈ history) :
    Closed restsOn (history ++ [d]) := by
  intro x hx e he
  rcases List.mem_append.mp hx with hx | hx
  · exact List.mem_append_left _ (h x hx e he)
  · rw [List.mem_singleton.mp hx] at he
    exact List.mem_append_left _ (hd e he)

theorem ordered_append :
    Ordered known restsOn (history ++ [d]) ↔ Ordered known restsOn history ∧ InTime known restsOn d := by
  simp only [Ordered, List.forall_mem_append, List.forall_mem_singleton]

end Append

section Run

variable {L : Type} {step : List D → L → Option (List D)} {P : List D → L → Prop}

/-- A run of steps that each append a record: its history is closed, and in order exactly
when its steps are in time. -/
theorem run_ordered_iff
    (hstep : ∀ history l history', step history l = some history' → ∃ d, history' = history ++ [d] ∧
      (∀ e ∈ restsOn d, e ∈ history) ∧ (InTime known restsOn d ↔ P history l))
    {history history' : List D} {ls : List L} (h : Trace.run step history ls = some history')
    (hclosed : Closed restsOn history) :
    Closed restsOn history' ∧
      (Ordered known restsOn history' ↔ Ordered known restsOn history ∧ Trace.Along step P history ls) := by
  induction ls generalizing history with
  | nil =>
    rw [Trace.run_nil] at h
    subst h
    exact ⟨hclosed, by simp [Trace.Along]⟩
  | cons l ls ih =>
    obtain ⟨middle, hl, hrest⟩ := Trace.run_cons.mp h
    obtain ⟨d, rfl, hground, htime⟩ := hstep history l middle hl
    obtain ⟨hclosed', hordered⟩ := ih hrest (closed_append hclosed hground)
    refine ⟨hclosed', ?_⟩
    rw [hordered, ordered_append, htime, and_assoc]
    simp only [Trace.Along, hl, Option.some.injEq, forall_eq']

end Run

end ATB.Knowledge
