import Mathlib
import AutomatedTradingBot.Source.Stage5.Admission

/-!
# Cut-overs of the admission controller

The smallest cut-over that stands, pending or effective, never increases, and a
ticket is admitted only below it; the serialization lock keeps a publication and
the admitted work apart. Both hold for every interleaving.

* `step_cases`: what one step of a thread can do;
* `smallest_step`, `exclusive_step`: what one step keeps;
* `restriction_cutover_safety`: no late admission, no overtaken work, no cut-over
  taken back.
-/

namespace ATB.Proof.G00

open ATB.G00 ATB.Trace

/-- A cut-over, where none stands above every ticket. -/
def top : Option Int → WithTop Int
  | none => ⊤
  | some c => c

/-- The smallest of the pending and effective cut-overs. -/
def smallest {ι : Type} (s : Controller ι) : WithTop Int := min (top s.pendingCutover) (top s.effectiveCutover)

theorem top_lower (c : Int) (o : Option Int) : top (lower c o) = min (top o) c := by
  cases o <;> simp [lower, top]

theorem checkCutover_eq_ok {pending effective : Option Int} {ticket : Int} :
    checkCutover pending effective ticket = .ok () ↔ (ticket : WithTop Int) < min (top pending) (top effective) := by
  cases pending <;> cases effective <;> simp [checkCutover, top, List.min?_cons, ite_eq_right_iff]

variable {ι : Type} {s s' : Controller ι} {t : ι} {a : Action}

theorem requestRestriction_eq_some {c : Int} :
    (s.requestRestriction c).toOption = some s' ↔
      0 ≤ c ∧ s' = { s with pendingCutover := lower c s.pendingCutover } := by
  by_cases hc : c < 0
  · simp [Controller.requestRestriction, hc, Except.toOption]
  · simp [Controller.requestRestriction, hc, Except.toOption, not_lt.mp hc, eq_comm]

theorem smallest_lower (c : Int) :
    smallest { s with pendingCutover := lower c s.pendingCutover } = min (smallest s) c := by
  simp only [smallest, top_lower]
  rw [min_assoc, min_assoc, min_comm (c : WithTop Int)]

theorem smallest_cutOver (c : Int) : smallest (s.cutOver c) = min (smallest s) c := by
  by_cases hc : s.pendingCutover = some c
  · have e : min (top none) (min (top s.effectiveCutover) (c : WithTop Int)) = min (top s.effectiveCutover) c :=
      min_eq_right le_top
    simp only [smallest, Controller.cutOver, if_pos hc, top_lower, e]
    rw [hc, min_comm (top (some c)), min_assoc]
    exact congrArg _ (min_self _).symm
  · simp only [smallest, Controller.cutOver, if_neg hc, top_lower, min_assoc]

variable [DecidableEq ι]

@[simp] theorem setCall_calls_self (call : Call) : (s.setCall t call).calls t = call := Function.update_self ..

theorem setCall_calls_ne {u : ι} (h : u ≠ t) (call : Call) : (s.setCall t call).calls u = s.calls u :=
  Function.update_of_ne h ..

/-- What one step can do. -/
theorem step_cases (h : step s (t, a) = some s') :
    (∃ c, (a = .requestRestriction c ∧ s' = { s with pendingCutover := lower c s.pendingCutover } ∨
        a = .publishRestriction c ∧ s.calls t = .idle ∧
          s' = { s with pendingCutover := lower c s.pendingCutover }.setCall t (.publishing c))) ∨
      (∃ k, a = .admitVerified k ∧ s.calls t = .idle ∧ s' = s.setCall t (.admitting k)) ∨
      (a = .acquire ∧ s.serializationLock = none ∧
        ((∃ c, s' = s.take t (.cutting c)) ∨ ∃ k, s' = s.take t (.checking k))) ∨
      (∃ c, a = .cutOver ∧ s.calls t = .cutting c ∧ s' = (s.cutOver c).leave t) ∨
      (∃ k, a = .check ∧ s.calls t = .checking k ∧
        (k < smallest s ∧ s' = s.setCall t (.inFlight k) ∨ s' = s.leave t)) ∨
      ∃ k, a = .complete ∧ s.calls t = .inFlight k ∧ s' = s.leave t := by
  simp only [step] at h
  split at h
  · next c =>
    obtain rfl := (requestRestriction_eq_some.mp h).2
    exact .inl ⟨c, .inl ⟨rfl, rfl⟩⟩
  · next c hc =>
    obtain ⟨s₁, h₁, rfl⟩ := Option.map_eq_some_iff.mp h
    obtain rfl := (requestRestriction_eq_some.mp h₁).2
    exact .inl ⟨c, .inr ⟨rfl, hc, rfl⟩⟩
  · next k hk =>
    cases h
    exact .inr (.inl ⟨k, rfl, hk, rfl⟩)
  · next c hc =>
    split at h <;> cases h
    exact .inr (.inr (.inl ⟨rfl, ‹_›, .inl ⟨c, rfl⟩⟩))
  · next k hk =>
    split at h <;> cases h
    exact .inr (.inr (.inl ⟨rfl, ‹_›, .inr ⟨k, rfl⟩⟩))
  · next c hc =>
    cases h
    exact .inr (.inr (.inr (.inl ⟨c, rfl, hc, rfl⟩)))
  · next k hk =>
    split at h <;> cases h
    · next hok => exact .inr (.inr (.inr (.inr (.inl ⟨k, rfl, hk, .inl ⟨checkCutover_eq_ok.mp hok, rfl⟩⟩))))
    · exact .inr (.inr (.inr (.inr (.inl ⟨k, rfl, hk, .inr rfl⟩))))
  · next k hk =>
    cases h
    exact .inr (.inr (.inr (.inr (.inr ⟨k, rfl, hk, rfl⟩))))
  · cases h

/-! ## What one step keeps -/

/-- The smallest cut-over never increases. -/
theorem smallest_step (l : ι × Action) (h : step s l = some s') : smallest s' ≤ smallest s := by
  obtain ⟨c, ⟨-, rfl⟩ | ⟨-, -, rfl⟩⟩ | ⟨k, -, -, rfl⟩ | ⟨-, -, ⟨c, rfl⟩ | ⟨k, rfl⟩⟩ | ⟨c, -, -, rfl⟩ |
    ⟨k, -, -, ⟨-, rfl⟩ | rfl⟩ | ⟨k, -, -, rfl⟩ := step_cases h
  · exact (smallest_lower c).trans_le (min_le_left ..)
  · exact (smallest_lower c).trans_le (min_le_left ..)
  · exact le_rfl
  · exact le_rfl
  · exact le_rfl
  · exact (smallest_cutOver c).trans_le (min_le_left ..)
  all_goals exact le_rfl

/-- A call that is inside the serialization lock. -/
def Holds : Call → Prop
  | .cutting _ | .checking _ | .inFlight _ => True
  | .idle | .publishing _ | .admitting _ => False

/-- Only the thread that holds the serialization lock is inside it. -/
def Exclusive (s : Controller ι) : Prop := ∀ t, Holds (s.calls t) → s.serializationLock = some t

theorem Exclusive.setCall (hs : Exclusive s) {call : Call} (h : Holds call → s.serializationLock = some t) :
    Exclusive (s.setCall t call) := by
  intro u hu
  by_cases hut : u = t
  · subst hut
    rw [setCall_calls_self] at hu
    exact h hu
  · rw [setCall_calls_ne hut] at hu
    exact hs u hu

theorem Exclusive.take (hs : Exclusive s) (h : s.serializationLock = none) (call : Call) :
    Exclusive (s.take t call) := by
  intro u hu
  by_cases hut : u = t
  · rw [hut]; rfl
  · rw [Controller.take, setCall_calls_ne hut] at hu
    rw [hs u hu] at h
    cases h

/-- When the holder leaves, nobody is inside. -/
theorem Exclusive.leave (hs : Exclusive s) (h : Holds (s.calls t)) (u : ι) : ¬ Holds ((s.leave t).calls u) := by
  intro hu
  by_cases hut : u = t
  · subst hut
    rw [Controller.leave, setCall_calls_self] at hu
    exact hu
  · rw [Controller.leave, setCall_calls_ne hut] at hu
    have hlock := (hs u hu).symm.trans (hs t h)
    exact hut (Option.some.inj hlock)

theorem exclusive_step (l : ι × Action) (h : step s l = some s') (hs : Exclusive s) : Exclusive s' := by
  obtain ⟨c, ⟨-, rfl⟩ | ⟨-, -, rfl⟩⟩ | ⟨k, -, -, rfl⟩ | ⟨-, hfree, ⟨c, rfl⟩ | ⟨k, rfl⟩⟩ | ⟨c, -, hc, rfl⟩ |
    ⟨k, -, hk, ⟨-, rfl⟩ | rfl⟩ | ⟨k, -, hk, rfl⟩ := step_cases h
  · exact hs
  · exact Exclusive.setCall (s := { s with pendingCutover := _ }) hs False.elim
  · exact hs.setCall False.elim
  · exact hs.take hfree _
  · exact hs.take hfree _
  · exact fun u hu => absurd hu (Exclusive.leave (s := s.cutOver c) hs (by rw [Controller.cutOver, hc]; trivial) u)
  · exact hs.setCall fun _ => hs _ (by rw [hk]; trivial)
  · exact fun u hu => absurd hu (hs.leave (by rw [hk]; trivial) u)
  · exact fun u hu => absurd hu (hs.leave (by rw [hk]; trivial) u)

omit [DecidableEq ι] in
theorem exclusive_init : Exclusive (Controller.init : Controller ι) := fun _ h => h.elim

/-! ## What every run keeps -/

/-- A ticket that a step puts in flight is below the smallest cut-over. -/
theorem admitted_below {u : ι} {k : Int} (h : step s (u, .check) = some s') (hk : s'.calls u = .inFlight k) :
    k < smallest s := by
  obtain ⟨c, ⟨e, -⟩ | ⟨e, -⟩⟩ | ⟨_, e, -⟩ | ⟨e, -⟩ | ⟨_, e, -⟩ | ⟨k', -, -, ⟨hlt, rfl⟩ | rfl⟩ | ⟨_, e, -⟩ :=
    step_cases h
  any_goals cases e
  · rw [setCall_calls_self] at hk
    cases hk
    exact hlt
  · rw [Controller.leave, setCall_calls_self] at hk
    cases hk

/-- Work that a step leaves in flight was in flight, or is below the smallest cut-over. -/
theorem inFlight_step (l : ι × Action) (h : step s l = some s') {u : ι} {k : Int} (hk : s'.calls u = .inFlight k) :
    s.calls u = .inFlight k ∨ k < smallest s := by
  obtain ⟨t, a⟩ := l
  by_cases hut : u = t
  · subst hut
    obtain ⟨c, ⟨-, rfl⟩ | ⟨-, -, rfl⟩⟩ | ⟨_, -, -, rfl⟩ | ⟨-, -, ⟨c, rfl⟩ | ⟨_, rfl⟩⟩ | ⟨c, -, -, rfl⟩ |
      ⟨_, -, -, ⟨hlt, rfl⟩ | rfl⟩ | ⟨_, -, -, rfl⟩ := step_cases h
    · exact .inl hk
    all_goals simp only [Controller.take, Controller.leave, setCall_calls_self] at hk
    all_goals cases hk
    exact .inr hlt
  · refine .inl ?_
    rw [← hk]
    obtain ⟨c, ⟨-, rfl⟩ | ⟨-, -, rfl⟩⟩ | ⟨_, -, -, rfl⟩ | ⟨-, -, ⟨c, rfl⟩ | ⟨_, rfl⟩⟩ | ⟨c, -, -, rfl⟩ |
      ⟨_, -, -, ⟨hlt, rfl⟩ | rfl⟩ | ⟨_, -, -, rfl⟩ := step_cases h
    · rfl
    all_goals simp only [Controller.take, Controller.leave, setCall_calls_ne hut, Controller.cutOver]

/-- A request that returns brings the smallest cut-over down to it. -/
theorem smallest_of_request {c : Int} (h : step s (t, a) = some s')
    (ha : a = .requestRestriction c ∨ a = .publishRestriction c) : smallest s' ≤ c := by
  obtain ⟨c', ⟨rfl, rfl⟩ | ⟨rfl, -, rfl⟩⟩ | ⟨_, rfl, -⟩ | ⟨rfl, -⟩ | ⟨_, rfl, -⟩ | ⟨_, rfl, -⟩ | ⟨_, rfl, -⟩ :=
    step_cases h
  all_goals rcases ha with e | e <;> cases e
  · exact (smallest_lower c).trans_le (min_le_right ..)
  · exact (smallest_lower c).trans_le (min_le_right ..)

/-- Over every interleaving of any number of threads: once `request_restriction(c)` has
returned, also inside `publish_restriction`, no ticket `≥ c` is admitted; once
`publish_restriction(c)` has returned, no ticket `≥ c` is in flight; and the smallest of
the pending and effective cut-overs never increases. -/
theorem restriction_cutover_safety {ls : List (ι × Action)} (h : run step Controller.init ls = some s) :
    (∀ t a c s₁, step s (t, a) = some s₁ → a = .requestRestriction c ∨ a = .publishRestriction c →
      ∀ ls' s₂, run step s₁ ls' = some s₂ →
        ∀ u k s₃, step s₂ (u, .check) = some s₃ → s₃.calls u = .inFlight k → k < c) ∧
    (∀ t c s₁, s.calls t = .cutting c → step s (t, .cutOver) = some s₁ →
      ∀ ls' s₂, run step s₁ ls' = some s₂ → ∀ u k, s₂.calls u = .inFlight k → k < c) ∧
    ∀ ls' s₂, run step s ls' = some s₂ → smallest s₂ ≤ smallest s := by
  have hmono : ∀ {s s' : Controller ι} {ls}, run step s ls = some s' → smallest s' ≤ smallest s :=
    fun h => run_monotone smallest (fun _ l _ h => smallest_step l h) h
  refine ⟨?_, ?_, fun ls' s₂ => hmono⟩
  · intro t a c s₁ h₁ ha ls' s₂ h₂ u k s₃ h₃ hk
    have hlt := (admitted_below h₃ hk).trans_le ((hmono h₂).trans (smallest_of_request h₁ ha))
    exact WithTop.coe_lt_coe.mp hlt
  · intro t c s₁ hc h₁ ls' s₂ h₂
    have hex : Exclusive s := run_invariant Exclusive (fun _ l _ h => exclusive_step l h) h exclusive_init
    have hs₁ : s₁ = (s.cutOver c).leave t := by simpa [step, hc] using h₁.symm
    have hsmall : smallest s₁ ≤ c := by
      rw [hs₁]
      exact (smallest_cutOver (s := s) c).trans_le (min_le_right ..)
    have hempty : ∀ u k, s₁.calls u = .inFlight k → k < c := by
      intro u k hk
      refine absurd (?_ : Holds (s₁.calls u)) ?_
      · rw [hk]; trivial
      · rw [hs₁]
        exact Exclusive.leave (s := s.cutOver c) hex (by rw [Controller.cutOver, hc]; trivial) u
    have hinv := run_invariant (fun x => (∀ u k, x.calls u = .inFlight k → k < c) ∧ smallest x ≤ c)
      (fun x l x' hx hi => ⟨fun u k hk => ?_, (smallest_step l hx).trans hi.2⟩) h₂ ⟨hempty, hsmall⟩
    · exact hinv.1
    · rcases inFlight_step l hx hk with hk | hlt
      · exact hi.1 u k hk
      · exact WithTop.coe_lt_coe.mp (hlt.trans_le hi.2)

/-- A ticket 3 is in flight when the cut-over 2 is asked for; it is published when the ticket
has completed, and every ticket from 2 on is refused from then on. -/
theorem restriction_cutover_safety_sample :
    ∃ s s₁ : Controller Nat,
      run step Controller.init [(0, .admitVerified 3), (0, .acquire), (0, .check), (1, .publishRestriction 2),
        (0, .complete), (1, .acquire)] = some s ∧ s.calls 1 = .cutting 2 ∧ step s (1, .cutOver) = some s₁ ∧
      ∀ ls' s₂, run step s₁ ls' = some s₂ → ∀ u k, s₂.calls u = .inFlight k → k < 2 := by
  obtain ⟨s, h, hc⟩ : ∃ s : Controller Nat,
      run step Controller.init [(0, .admitVerified 3), (0, .acquire), (0, .check), (1, .publishRestriction 2),
        (0, .complete), (1, .acquire)] = some s ∧ s.calls 1 = .cutting 2 := ⟨_, rfl, rfl⟩
  have h₁ : step s (1, .cutOver) = some ((s.cutOver 2).leave 1) := by simp [step, hc]
  exact ⟨s, _, h, hc, h₁, (restriction_cutover_safety h).2.1 1 2 _ hc h₁⟩

end ATB.Proof.G00
