import Mathlib.Data.List.GetD
import Mathlib.Tactic.SplitIfs
import AutomatedTradingBot.Source.Stage5.AuthorityGate

/-!
# Turns at the gate

* `inv_step`: the counters count the turns, and a writer in its body is alone;
* `told_step`: a step leaves no reader behind, except where the last writer gives up
  while a reader waits;
* `gate_turns`: what holds in every order of steps;
* `reader_stranded`: a reader that waits at a gate that it could pass.
-/

namespace ATB.Proof.AuthorityGate

open ATB.Stage5.AuthorityGate

/-! ## Counting turns -/

def isActive (role : Role) (t : Turn) : Bool := t.role = role ∧ t.phase = .active

def isWaiting (role : Role) (t : Turn) : Bool := t.role = role ∧ (t.phase = .waiting true ∨ t.phase = .waiting false)

theorem countP_modify {α : Type} {p : α → Bool} {f : α → α} {l : List α} {i : ℕ} {a : α} (h : l[i]? = some a) :
    (l.modify i f).countP p + (if p a then 1 else 0) = l.countP p + if p (f a) then 1 else 0 := by
  induction l generalizing i with
  | nil => simp at h
  | cons b l ih =>
    cases i with
    | zero =>
      simp only [List.getElem?_cons_zero, Option.some.injEq] at h
      subst h
      simp only [List.modify_zero_cons, List.countP_cons]
      omega
    | succ i =>
      simp only [List.getElem?_cons_succ] at h
      simp only [List.modify_succ_cons, List.countP_cons]
      have := ih h
      omega

theorem two_le_countP {α : Type} {p : α → Bool} {l : List α} {i j : ℕ} {a b : α} (hij : i < j) (hi : l[i]? = some a)
    (hj : l[j]? = some b) (ha : p a = true) (hb : p b = true) : 2 ≤ l.countP p := by
  have htake : a ∈ l.take j := List.mem_of_getElem? ((List.getElem?_take_of_lt hij).trans hi)
  have hdrop : b ∈ l.drop j := List.mem_of_getElem? (i := 0) (by rw [List.getElem?_drop, Nat.add_zero, hj])
  have h₁ := List.countP_pos_iff.mpr ⟨a, htake, ha⟩
  have h₂ := List.countP_pos_iff.mpr ⟨b, hdrop, hb⟩
  rw [← List.take_append_drop j l, List.countP_append]
  omega

variable {g g' : Gate} {i j : ℕ} {role : Role} {late b : Bool} {l : Label}

theorem isActive_notified (role : Role) (t : Turn) : isActive role (Gate.notified t) = isActive role t := by
  obtain ⟨r, phase⟩ := t
  cases phase with
  | waiting b => simp [Gate.notified, isActive]
  | active => rfl
  | ended => rfl

theorem isWaiting_notified (role : Role) (t : Turn) : isWaiting role (Gate.notified t) = isWaiting role t := by
  obtain ⟨r, phase⟩ := t
  cases phase with
  | waiting b => cases b <;> simp [Gate.notified, isWaiting]
  | active => rfl
  | ended => rfl

theorem countP_notified {p : Turn → Bool} (h : ∀ t, p (Gate.notified t) = p t) (l : List Turn) :
    (l.map Gate.notified).countP p = l.countP p := by
  rw [List.countP_map]
  exact List.countP_congr fun t _ => by simp [h]

/-! ## The invariant -/

/-- The counters are the numbers of turns, and an active writer excludes readers. -/
structure Inv (g : Gate) : Prop where
  readers : g.activeReaders = g.turns.countP (isActive .reader)
  waiting : g.waitingWriters = g.turns.countP (isWaiting .writer)
  writers : g.turns.countP (isActive .writer) = if g.writerActive = true then 1 else 0
  exclusive : g.writerActive = true → g.activeReaders = 0

theorem inv_initial : Inv Gate.initial := ⟨rfl, rfl, rfl, fun h => absurd h (by decide)⟩

/-- A turn before its loop, as one that was released. -/
def joined (g : Gate) (role : Role) : Gate := { g.announce role with turns := g.turns ++ [⟨role, .waiting true⟩] }

theorem inv_joined (h : Inv g) (role : Role) : Inv (joined g role) := by
  obtain ⟨hreaders, hwaiting, hwriters, hexclusive⟩ := h
  cases role with
  | reader =>
    refine ⟨?_, ?_, ?_, hexclusive⟩
    · simp [joined, Gate.announce, List.countP_append, isActive, hreaders]
    · simp [joined, Gate.announce, List.countP_append, isWaiting, hwaiting]
    · simp only [joined, Gate.announce, List.countP_append, hwriters]
      rfl
  | writer =>
    refine ⟨?_, ?_, ?_, hexclusive⟩
    · simp [joined, Gate.announce, List.countP_append, isActive, hreaders]
    · simp [joined, Gate.announce, List.countP_append, isWaiting, hwaiting]
    · simp only [joined, Gate.announce, List.countP_append, hwriters]
      rfl

theorem modify_concat {α : Type} (f : α → α) (a : α) (l : List α) : (l ++ [a]).modify l.length f = l ++ [f a] := by
  induction l with
  | nil => rfl
  | cons b l ih => simp [ih]

theorem attempt_turns (g : Gate) (turns : List Turn) (role : Role) (late : Bool) :
    ({ g with turns := turns } : Gate).attempt role late =
      ({ (g.attempt role late).1 with turns := turns }, (g.attempt role late).2) := by
  have hwait : ({ g with turns := turns } : Gate).mustWait role = g.mustWait role := by cases role <;> rfl
  simp only [Gate.attempt, hwait]
  by_cases h : g.mustWait role = true
  · rw [if_pos h, if_pos h]
    cases late
    · rfl
    · cases role <;> rfl
  · rw [if_neg h, if_neg h]
    cases role <;> rfl

theorem turns_announce (g : Gate) (role : Role) : (g.announce role).turns = g.turns := by cases role <;> rfl

theorem turns_attempt (g : Gate) (role : Role) (late : Bool) : (g.attempt role late).1.turns = g.turns := by
  have h := attempt_turns g g.turns role late
  exact congrArg (fun r => r.1.turns) h

/-- Entering is joining and looking. -/
theorem step_enter (g : Gate) (role : Role) (late : Bool) :
    g.step (.enter role late) = (joined g role).step (.wake g.turns.length late) := by
  have hturn : (joined g role).turns[g.turns.length]? = some ⟨role, .waiting true⟩ := by simp [joined]
  simp only [Gate.step]
  rw [hturn]
  simp only [joined, attempt_turns, Gate.setPhase, modify_concat, turns_attempt, turns_announce]

theorem step_wake (h : g.step (.wake i late) = some g') : ∃ role, g.turns[i]? = some ⟨role, .waiting true⟩ ∧
    (g.mustWait role = true ∧ late = true ∧ g' = (g.giveUp role).setPhase i .ended ∨
      g.mustWait role = true ∧ late = false ∧ g' = g.setPhase i (.waiting false) ∨
      g.mustWait role = false ∧ g' = (g.activate role).setPhase i .active) := by
  simp only [Gate.step] at h
  split at h
  · next role hturn =>
    refine ⟨role, hturn, ?_⟩
    simp only [Gate.attempt] at h
    split_ifs at h with hwait hlate
    · exact .inl ⟨hwait, hlate, (Option.some.inj h).symm⟩
    · exact .inr (.inl ⟨hwait, Bool.not_eq_true _ ▸ hlate, (Option.some.inj h).symm⟩)
    · exact .inr (.inr ⟨Bool.not_eq_true _ ▸ hwait, (Option.some.inj h).symm⟩)
  · cases h

theorem step_timeOut (h : g.step (.timeOut i) = some g') :
    ∃ role b, g.turns[i]? = some ⟨role, .waiting b⟩ ∧ g' = (g.giveUp role).setPhase i .ended := by
  simp only [Gate.step] at h
  split at h
  · next role b hturn => exact ⟨role, b, hturn, (Option.some.inj h).symm⟩
  · cases h

theorem step_leave (h : g.step (.leave i) = some g') :
    ∃ role, g.turns[i]? = some ⟨role, .active⟩ ∧ g' = (g.setPhase i .ended).release role := by
  simp only [Gate.step] at h
  split at h
  · next role hturn => exact ⟨role, hturn, (Option.some.inj h).symm⟩
  · cases h

theorem countP_setPhase {t : Turn} (p : Turn → Bool) (phase : Phase) (ht : g.turns[i]? = some t) :
    (g.setPhase i phase).turns.countP p + (if p t then 1 else 0) =
      g.turns.countP p + if p { t with phase := phase } then 1 else 0 :=
  countP_modify ht

theorem inv_giveUp (h : Inv g) (ht : g.turns[i]? = some ⟨role, .waiting b⟩) :
    Inv ((g.giveUp role).setPhase i .ended) := by
  obtain ⟨hreaders, hwaiting, hwriters, hexclusive⟩ := h
  have hr := countP_setPhase (isActive .reader) .ended ht
  have hw := countP_setPhase (isWaiting .writer) .ended ht
  have ha := countP_setPhase (isActive .writer) .ended ht
  cases role with
  | reader =>
    simp [isActive, isWaiting] at hr hw ha
    exact ⟨by rw [← hr] at hreaders; exact hreaders, by rw [← hw] at hwaiting; exact hwaiting,
      by rw [← ha] at hwriters; exact hwriters, hexclusive⟩
  | writer =>
    simp [isActive, isWaiting] at hr hw ha
    refine ⟨by rw [← hr] at hreaders; exact hreaders, ?_, by rw [← ha] at hwriters; exact hwriters, hexclusive⟩
    show g.waitingWriters - 1 = (((g.setPhase i .ended).turns.countP (isWaiting .writer) : ℕ) : Int)
    omega

theorem inv_wait (h : Inv g) (ht : g.turns[i]? = some ⟨role, .waiting b⟩) (b' : Bool) :
    Inv (g.setPhase i (.waiting b')) := by
  obtain ⟨hreaders, hwaiting, hwriters, hexclusive⟩ := h
  have hr := countP_setPhase (isActive .reader) (.waiting b') ht
  have hw := countP_setPhase (isWaiting .writer) (.waiting b') ht
  have ha := countP_setPhase (isActive .writer) (.waiting b') ht
  simp [isActive, isWaiting] at hr hw ha
  exact ⟨by rw [← hr] at hreaders; exact hreaders, by rw [← hw] at hwaiting; exact hwaiting,
    by rw [← ha] at hwriters; exact hwriters, hexclusive⟩

theorem inv_admit (h : Inv g) (ht : g.turns[i]? = some ⟨role, .waiting b⟩) (hgo : g.mustWait role = false) :
    Inv ((g.activate role).setPhase i .active) := by
  obtain ⟨hreaders, hwaiting, hwriters, hexclusive⟩ := h
  have hr := countP_setPhase (isActive .reader) .active ht
  have hw := countP_setPhase (isWaiting .writer) .active ht
  have ha := countP_setPhase (isActive .writer) .active ht
  cases role with
  | reader =>
    simp [isActive, isWaiting] at hr hw ha
    simp only [Gate.mustWait, Bool.or_eq_false_iff, decide_eq_false_iff_not, not_not] at hgo
    refine ⟨?_, by rw [← hw] at hwaiting; exact hwaiting, by rw [← ha] at hwriters; exact hwriters,
      fun hactive => absurd (hgo.1.symm.trans hactive) Bool.false_ne_true⟩
    show g.activeReaders + 1 = (((g.setPhase i .active).turns.countP (isActive .reader) : ℕ) : Int)
    omega
  | writer =>
    simp [isActive, isWaiting] at hr hw ha
    simp only [Gate.mustWait, Bool.or_eq_false_iff, decide_eq_false_iff_not, not_not] at hgo
    refine ⟨by rw [← hr] at hreaders; exact hreaders, ?_, ?_, fun _ => hgo.2⟩
    · show g.waitingWriters - 1 = (((g.setPhase i .active).turns.countP (isWaiting .writer) : ℕ) : Int)
      omega
    · show (g.setPhase i .active).turns.countP (isActive .writer) = 1
      rw [ha, hwriters, hgo.1]
      rfl

theorem inv_leave (h : Inv g) (ht : g.turns[i]? = some ⟨role, .active⟩) : Inv ((g.setPhase i .ended).release role) := by
  obtain ⟨hreaders, hwaiting, hwriters, hexclusive⟩ := h
  have hr := countP_setPhase (isActive .reader) .ended ht
  have hw := countP_setPhase (isWaiting .writer) .ended ht
  have ha := countP_setPhase (isActive .writer) .ended ht
  rw [← countP_notified (isActive_notified .reader)] at hr
  rw [← countP_notified (isWaiting_notified .writer)] at hw
  rw [← countP_notified (isActive_notified .writer)] at ha
  cases role with
  | reader =>
    simp [isActive, isWaiting, -List.countP_map] at hr hw ha
    refine ⟨?_, by rw [← hw] at hwaiting; exact hwaiting, by rw [← ha] at hwriters; exact hwriters, fun hactive => ?_⟩
    · show g.activeReaders - 1 = ((((g.setPhase i .ended).turns.map Gate.notified).countP (isActive .reader) : ℕ) : Int)
      omega
    · have := hexclusive hactive
      omega
  | writer =>
    simp [isActive, isWaiting, -List.countP_map] at hr hw ha
    refine ⟨by rw [← hr] at hreaders; exact hreaders, by rw [← hw] at hwaiting; exact hwaiting, ?_,
      fun hactive => absurd hactive Bool.false_ne_true⟩
    show ((g.setPhase i .ended).turns.map Gate.notified).countP (isActive .writer) = 0
    split_ifs at hwriters <;> omega

theorem inv_step (h : g.step l = some g') (hinv : Inv g) : Inv g' := by
  have hwake : ∀ {g : Gate} {i late}, g.step (.wake i late) = some g' → Inv g → Inv g' := by
    intro g i late h hinv
    obtain ⟨role, ht, ⟨-, -, rfl⟩ | ⟨-, -, rfl⟩ | ⟨hgo, rfl⟩⟩ := step_wake h
    · exact inv_giveUp hinv ht
    · exact inv_wait hinv ht false
    · exact inv_admit hinv ht hgo
  cases l with
  | enter role late => exact hwake (step_enter g role late ▸ h) (inv_joined hinv role)
  | wake i late => exact hwake h hinv
  | timeOut i =>
    obtain ⟨role, b, ht, rfl⟩ := step_timeOut h
    exact inv_giveUp hinv ht
  | leave i =>
    obtain ⟨role, ht, rfl⟩ := step_leave h
    exact inv_leave hinv ht

/-! ## Readers that wait -/

/-- No writer is active or waiting. -/
def clear (g : Gate) : Bool := !g.writerActive && decide (g.waitingWriters = 0)

def waits (g : Gate) (role : Role) (i : ℕ) : Bool :=
  match g.turns[i]? with
  | some ⟨r, .waiting _⟩ => decide (r = role)
  | _ => false

/-- The gate, and the readers in `wait` that `notify_all` has reached since no writer is active or waiting. -/
structure Watch where
  gate : Gate
  told : ℕ → Bool

def notifies : Label → Bool
  | .leave _ => true
  | _ => false

def Watch.step (w : Watch) (l : Label) : Option Watch :=
  (w.gate.step l).map fun g =>
    ⟨g, fun i => clear g && (clear w.gate && w.told i || notifies l && waits w.gate .reader i)⟩

def Watch.initial : Watch := ⟨Gate.initial, fun _ => false⟩

/-- A writer gives up. -/
def givesUp (g : Gate) : Label → Bool
  | .wake i late => late && g.mustWait .writer && waits g .writer i
  | .timeOut i => waits g .writer i
  | _ => false

/-- The last writer gives up while a reader waits. -/
def strands (g : Gate) (l : Label) : Bool :=
  givesUp g l && !g.writerActive && decide (g.waitingWriters = 1) && g.turns.any (isWaiting .reader)

/-- Whenever no writer is active or waiting, the readers in `wait` have been notified since. -/
def Told (w : Watch) : Prop := clear w.gate = true → ∀ i, waits w.gate .reader i = true → w.told i = true

theorem clear_iff : clear g = true ↔ g.writerActive = false ∧ g.waitingWriters = 0 := by simp [clear]

theorem waits_iff : waits g role i = true ↔ ∃ b, g.turns[i]? = some ⟨role, .waiting b⟩ := by
  unfold waits
  split
  · next r b h => simp [h]
  · next h =>
    simp only [Bool.false_eq_true, false_iff]
    rintro ⟨b, hb⟩
    exact h _ _ hb

theorem waits_setPhase {phase : Phase} (hphase : ∀ b, phase ≠ .waiting b)
    (h : waits (g.setPhase i phase) role j = true) : i ≠ j ∧ waits g role j = true := by
  obtain ⟨b, hb⟩ := waits_iff.mp h
  rw [Gate.setPhase, List.getElem?_modify] at hb
  obtain ⟨t, ht, hb⟩ := Option.map_eq_some_iff.mp hb
  split_ifs at hb with hij
  · exact absurd (congrArg Turn.phase hb) (hphase b)
  · exact ⟨hij, waits_iff.mpr ⟨b, by rw [ht, ← hb]⟩⟩

theorem waits_notified {turns : List Turn} (h : waits { g with turns := turns.map Gate.notified } role j = true) :
    waits { g with turns := turns } role j = true := by
  obtain ⟨b, hb⟩ := waits_iff.mp h
  obtain ⟨⟨r, phase⟩, ht, hb⟩ := Option.map_eq_some_iff.mp ((List.getElem?_map ..).symm.trans hb)
  cases phase with
  | waiting b' =>
    obtain rfl : r = role := congrArg Turn.role hb
    exact waits_iff.mpr ⟨b', ht⟩
  | active => cases congrArg Turn.phase hb
  | ended => cases congrArg Turn.phase hb

theorem waits_joined {r : Role} (hne : g.turns.length ≠ j) (h : waits (joined g r) role j = true) : waits g role j = true := by
  obtain ⟨b, hb⟩ := waits_iff.mp h
  have hlt := (List.getElem?_eq_some_iff.mp hb).1
  rw [joined, List.length_append, List.length_singleton] at hlt
  rw [joined, List.getElem?_append_left (by omega)] at hb
  exact waits_iff.mpr ⟨b, hb⟩

theorem one_le_waitingWriters (hinv : Inv g) (ht : g.turns[i]? = some ⟨.writer, .waiting b⟩) : 1 ≤ g.waitingWriters := by
  have hpos : 0 < g.turns.countP (isWaiting .writer) :=
    List.countP_pos_iff.mpr ⟨_, List.mem_of_getElem? ht, by cases b <;> rfl⟩
  rw [hinv.waiting]
  omega

theorem zero_le_waitingWriters (hinv : Inv g) : 0 ≤ g.waitingWriters := by
  rw [hinv.waiting]
  omega

/-- A reader that waits at a gate without writers after a step waited at one before, unless all are notified. -/
theorem waits_step (hinv : Inv g) (h : g.step l = some g') (hl : strands g l = false) (hclear : clear g' = true)
    (hwaits : waits g' .reader j = true) : waits g .reader j = true ∧ (notifies l = true ∨ clear g = true) := by
  have hgiveUp : ∀ {i b role}, g.turns[i]? = some ⟨role, .waiting b⟩ →
      (role = .writer → g.writerActive = false → g.waitingWriters = 1 → ¬ g.turns.any (isWaiting .reader) = true) →
      g' = (g.giveUp role).setPhase i .ended → waits g .reader j = true ∧ clear g = true := by
    rintro i b role ht hlast rfl
    obtain ⟨-, hj⟩ := waits_setPhase (fun _ => Phase.noConfusion) hwaits
    cases role with
    | reader => exact ⟨hj, hclear⟩
    | writer =>
      obtain ⟨hactive, hzero⟩ := clear_iff.mp hclear
      have hone : g.waitingWriters = 1 := by
        have : g.waitingWriters - 1 = 0 := hzero
        omega
      obtain ⟨b', hb'⟩ := waits_iff.mp hj
      exact absurd (List.any_eq_true.mpr ⟨_, List.mem_of_getElem? hb', by cases b' <;> rfl⟩) (hlast rfl hactive hone)
  cases l with
  | enter role late =>
    rw [step_enter] at h
    obtain ⟨r, ht, hcases⟩ := step_wake h
    obtain rfl : r = role := by
      rw [joined, List.getElem?_concat_length] at ht
      exact (congrArg Turn.role (Option.some.inj ht)).symm
    have hold : ∀ {g₁ : Gate} {phase : Phase}, (∀ b, phase ≠ .waiting b) → g₁.turns = (joined g r).turns →
        g' = g₁.setPhase g.turns.length phase → waits g .reader j = true := by
      rintro g₁ phase hphase hturns rfl
      obtain ⟨hne, hj⟩ := waits_setPhase hphase hwaits
      rw [waits, hturns] at hj
      exact waits_joined hne hj
    obtain ⟨-, -, hg⟩ | ⟨hwait, -, rfl⟩ | ⟨hgo, hg⟩ := hcases
    · refine ⟨hold (fun _ => Phase.noConfusion) (by cases r <;> rfl) hg, .inr ?_⟩
      subst hg
      cases r with
      | reader => exact hclear
      | writer =>
        obtain ⟨hactive, hzero⟩ := clear_iff.mp hclear
        have : g.waitingWriters + 1 - 1 = 0 := hzero
        exact clear_iff.mpr ⟨hactive, by omega⟩
    · obtain ⟨hactive, hzero⟩ := clear_iff.mp hclear
      cases r with
      | reader =>
        have hnot : (joined g .reader).mustWait .reader = false := by
          rw [Gate.mustWait, show (joined g .reader).writerActive = false from hactive,
            show (joined g .reader).waitingWriters = 0 from hzero]
          rfl
        exact absurd (hnot.symm.trans hwait) Bool.false_ne_true
      | writer =>
        have : g.waitingWriters + 1 = 0 := hzero
        have := zero_le_waitingWriters hinv
        omega
    · cases r with
      | reader =>
        refine ⟨@hold ((joined g .reader).activate .reader) .active (fun _ => Phase.noConfusion) rfl hg, .inr ?_⟩
        subst hg
        exact hclear
      | writer =>
        subst hg
        exact absurd (clear_iff.mp hclear).1 (by simp [Gate.setPhase, Gate.activate])
  | wake i late =>
    obtain ⟨role, ht, ⟨hwait, hlate, hg⟩ | ⟨hwait, -, rfl⟩ | ⟨-, rfl⟩⟩ := step_wake h
    · refine (hgiveUp ht ?_ hg).imp id .inr
      rintro rfl hactive hone hany
      simp [strands, givesUp, waits_iff.mpr ⟨true, ht⟩, hactive, hone, hany, hwait, hlate] at hl
    · obtain ⟨hactive, hzero⟩ := clear_iff.mp hclear
      cases role with
      | reader =>
        have hnot : g.mustWait .reader = false := by
          rw [Gate.mustWait, show g.writerActive = false from hactive, show g.waitingWriters = 0 from hzero]
          rfl
        exact absurd (hnot.symm.trans hwait) Bool.false_ne_true
      | writer =>
        have := one_le_waitingWriters hinv ht
        have : g.waitingWriters = 0 := hzero
        omega
    · cases role with
      | reader => exact ⟨(waits_setPhase (fun _ => Phase.noConfusion) hwaits).2, .inr hclear⟩
      | writer => exact absurd (clear_iff.mp hclear).1 (by simp [Gate.setPhase, Gate.activate])
  | timeOut i =>
    obtain ⟨role, b, ht, hg⟩ := step_timeOut h
    refine (hgiveUp ht ?_ hg).imp id .inr
    rintro rfl hactive hone hany
    simp [strands, givesUp, waits_iff.mpr ⟨b, ht⟩, hactive, hone, hany] at hl
  | leave i =>
    obtain ⟨role, ht, rfl⟩ := step_leave h
    refine ⟨?_, .inl rfl⟩
    cases role with
    | reader => exact (waits_setPhase (fun _ => Phase.noConfusion) (waits_notified hwaits)).2
    | writer => exact (waits_setPhase (fun _ => Phase.noConfusion) (waits_notified hwaits)).2

theorem told_step {w w' : Watch} (hinv : Inv w.gate) (h : w.step l = some w') (hl : strands w.gate l = false)
    (ht : Told w) : Told w' := by
  obtain ⟨g', hg, rfl⟩ := Option.map_eq_some_iff.mp h
  intro hclear i hi
  obtain ⟨hwaits, htold⟩ := waits_step hinv hg hl hclear hi
  simp only [hclear, hwaits, Bool.true_and, Bool.and_true, Bool.or_eq_true, Bool.and_eq_true]
  exact htold.symm.imp (fun hc => ⟨hc, ht hc i hwaits⟩) id

/-! ## Every order of steps -/

/-- Two turns are in their bodies together only as readers. -/
def Exclusive (g : Gate) : Prop := ∀ (i j : ℕ) (role : Role),
  g.turns[i]? = some ⟨.writer, .active⟩ → g.turns[j]? = some ⟨role, .active⟩ → i = j

theorem exclusive_of_inv (hinv : Inv g) : Exclusive g := by
  intro i j role hi hj
  have hwriter : 0 < g.turns.countP (isActive .writer) := List.countP_pos_iff.mpr ⟨_, List.mem_of_getElem? hi, rfl⟩
  have hw := hinv.writers
  cases role with
  | reader =>
    have hreader : 0 < g.turns.countP (isActive .reader) := List.countP_pos_iff.mpr ⟨_, List.mem_of_getElem? hj, rfl⟩
    have hr := hinv.readers
    split_ifs at hw with hactive
    · have := hinv.exclusive hactive
      omega
    · omega
  | writer =>
    by_contra hne
    have htwo : 2 ≤ g.turns.countP (isActive .writer) := by
      rcases Nat.lt_or_gt_of_ne hne with hlt | hgt
      · exact two_le_countP hlt hi hj rfl rfl
      · exact two_le_countP hgt hj hi rfl rfl
    split_ifs at hw <;> omega

theorem counters_of_ended (hinv : Inv g) (hended : ∀ t ∈ g.turns, t.phase = .ended) :
    g.activeReaders = 0 ∧ g.waitingWriters = 0 := by
  have hnone : ∀ {p : Turn → Bool}, (∀ r, p ⟨r, .ended⟩ = false) → g.turns.countP p = 0 := by
    intro p hp
    refine List.countP_eq_zero.mpr fun t ht => ?_
    obtain ⟨r, phase⟩ := t
    obtain rfl : phase = .ended := hended _ ht
    rw [hp r]
    exact Bool.false_ne_true
  rw [hinv.readers, hinv.waiting, hnone fun r => by simp [isActive], hnone fun r => by simp [isWaiting]]
  exact ⟨rfl, rfl⟩

/-- In every order of steps the turns exclude each other and are counted; no reader is left behind in an order
of steps in which the last writer does not give up while a reader waits. -/
theorem gate_turns {labels : List Label} {w : Watch} (h : Trace.run Watch.step Watch.initial labels = some w) :
    Exclusive w.gate ∧ 0 ≤ w.gate.activeReaders ∧ 0 ≤ w.gate.waitingWriters ∧
      ((∀ t ∈ w.gate.turns, t.phase = .ended) → w.gate.activeReaders = 0 ∧ w.gate.waitingWriters = 0) ∧
      (Trace.Along Watch.step (fun w l => strands w.gate l = false) Watch.initial labels → Told w) := by
  have hstep : ∀ (w : Watch) l w', w.step l = some w' → Inv w.gate → Inv w'.gate := by
    intro w l w' h hinv
    obtain ⟨g', hg, rfl⟩ := Option.map_eq_some_iff.mp h
    exact inv_step hg hinv
  have hinv : Inv w.gate := Trace.run_invariant (fun w => Inv w.gate) hstep h inv_initial
  refine ⟨exclusive_of_inv hinv, ?_, zero_le_waitingWriters hinv, counters_of_ended hinv, fun halong => ?_⟩
  · rw [hinv.readers]
    omega
  · exact (Trace.run_invariant_along (fun w => Inv w.gate ∧ Told w)
      (fun w l w' h hl hw => ⟨hstep w l w' h hw.1, told_step hw.1 h hl hw.2⟩) h halong
      ⟨inv_initial, fun _ i hi => absurd hi Bool.false_ne_true⟩).2

namespace Sample

/-- A writer waits for a reader, and another reader for the writer, which times out. -/
def giveUp : List Label := [.enter .reader false, .enter .writer false, .enter .reader false, .timeOut 1]

/-- The writer has its turn, and then the second reader. -/
def succeed : List Label :=
  [.enter .reader false, .enter .writer false, .enter .reader false, .leave 0, .wake 1 false, .wake 2 false, .leave 1]

end Sample

theorem gate_turns_sample : ∃ w, Trace.run Watch.step Watch.initial Sample.succeed = some w ∧ Told w ∧
    clear w.gate = true ∧ waits w.gate .reader 2 = true := by
  have hrun : ∃ w, Trace.run Watch.step Watch.initial Sample.succeed = some w := by
    rw [← Option.isSome_iff_exists]
    decide
  obtain ⟨w, hw⟩ := hrun
  have hfinal : (Trace.run Watch.step Watch.initial Sample.succeed).map
      (fun w => (clear w.gate, waits w.gate .reader 2)) = some (true, true) := by decide
  rw [hw, Option.map_some, Option.some.injEq, Prod.mk.injEq] at hfinal
  exact ⟨w, hw, (gate_turns hw).2.2.2.2 (by decide), hfinal⟩

/-- The second reader waits, without a notification, at a gate without writers. -/
theorem reader_stranded : ∃ w, Trace.run Watch.step Watch.initial Sample.giveUp = some w ∧ ¬ Told w := by
  have hfinal : (Trace.run Watch.step Watch.initial Sample.giveUp).map
      (fun w => (clear w.gate, waits w.gate .reader 2, w.told 2)) = some (true, true, false) := by decide
  obtain ⟨w, hw, h⟩ := Option.map_eq_some_iff.mp hfinal
  obtain ⟨hclear, hwaits, htold⟩ : clear w.gate = true ∧ waits w.gate .reader 2 = true ∧ w.told 2 = false := by
    simpa using h
  exact ⟨w, hw, fun ht => Bool.false_ne_true (htold.symm.trans (ht hclear 2 hwaits))⟩

end ATB.Proof.AuthorityGate
