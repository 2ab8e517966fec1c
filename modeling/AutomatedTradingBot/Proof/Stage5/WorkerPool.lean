import AutomatedTradingBot.Source.Stage5.WorkerPool

/-!
# Ownership of worker slots

* `slot_ownership`: over every interleaving of calls of `execute` in which the
  journal answers every read after a release, a slot is leased to at most one call,
  and a call retires only the slot that it holds.
-/

namespace ATB.Proof.WorkerPool

open ATB.Stage5.WorkerPool ATB.Trace

/-- The slot of a call from `_lease` up to `_release` or up to the end of the call. -/
def slotOf : Point → Option Nat
  | .idle | .lease | .recordCapacityDenied | .readBack _ => none
  | .prepareProtectedDispatch s | .admitVerified s | .send s | .receive s | .resolved s _ | .release s _ | .hold s
  | .confirm s | .recover s _ | .recoverHold s | .failedBeforeEffect s | .retire s _ _ => some s

/-- The slot of a call that has not failed. -/
def inUse : Point → Option Nat
  | .idle | .lease | .recordCapacityDenied | .readBack _ | .recover .. | .recoverHold _ | .failedBeforeEffect _
  | .retire .. => none
  | .prepareProtectedDispatch s | .admitVerified s | .send s | .receive s | .resolved s _ | .release s _ | .hold s
  | .confirm s => some s

variable {ι : Type} [DecidableEq ι] {p p' : Supervisor ι} {e : Event ι} {t u : ι} {s : Nat}

/-! ## What a step of a call can do -/

/-- The journal does not answer the read after a release with a record. -/
def ReadBackFails (p : Supervisor ι) (e : Event ι) : Prop :=
  ∃ t reply s, e = .work t reply ∧ p.calls t = .readBack s ∧ ∀ state, reply ≠ .record (some state)

/-- The steps of the call `t` from a program point. -/
inductive Move (p : Supervisor ι) (t : ι) : Point → Supervisor ι → Prop where
  | lease {s : Nat} {rest : List Nat} (h : p.available = s :: rest) :
      Move p t .lease
        ((({ p with available := rest }.setSlot s { p.slot s with leased := true, lifecycle := .leased }).setHolder s
          (some t)).setCall t (.prepareProtectedDispatch s))
  | go {c c' : Point} (hs : slotOf c' = slotOf c) (hu : inUse c' = inUse c ∨ inUse c' = none) :
      Move p t c (p.setCall t c')
  | set {c c' : Point} {s : Nat} {x : Slot} (hs : slotOf c' = slotOf c) (hu : inUse c' = none)
      (hx : x.retired = (p.slot s).retired) : Move p t c ((p.setSlot s x).setCall t c')
  | release (s : Nat) (safe : Bool) : Move p t (.release s safe) ((p.release s safe).setCall t (.readBack s))
  | mark (s : Nat) (clause : Clause) :
      Move p t (.retire s .mark clause) ((p.markRetired s).setCall t (.retire s .terminate clause))
  | leave {c : Point} {s : Nat} {x : Slot} (hs : slotOf c = some s) (hx : x.retired = (p.slot s).retired) :
      Move p t c ((p.setSlot s x).leave t s)

omit [DecidableEq ι] in
theorem setSlot_self (p : Supervisor ι) (s : Nat) : p.setSlot s (p.slot s) = p := by
  simp [Supervisor.setSlot]

theorem Move.leave' {c : Point} (hs : slotOf c = some s) : Move p t c (p.leave t s) := by
  have h := Move.leave (p := p) (t := t) hs (x := p.slot s) rfl
  rwa [setSlot_self] at h

theorem attempt_move {c next : Point} {effect : Bool} {reply : Reply} (hc : slotOf c = some s) (hu : inUse c = some s)
    (hs : slotOf next = some s) (ht : inUse next = some s)
    (h : Supervisor.advance.attempt p t s effect reply next = some p') : Move p t c p' := by
  unfold Supervisor.advance.attempt at h
  split at h <;> cases h
  · exact .go (hs.trans hc.symm) (.inl (ht.trans hu.symm))
  · exact .go (.trans rfl hc.symm) (.inr rfl)
  · exact .go (.trans rfl hc.symm) (.inr rfl)
  · exact .go (.trans rfl hc.symm) (.inr rfl)

theorem signal_move {c : Point} {reply : Reply} {clause : Clause} {stage : Stage} (hc : slotOf c = some s)
    (h : Supervisor.advance.signal p t s reply clause stage = some p') : Move p t c p' := by
  unfold Supervisor.advance.signal at h
  split at h
  · cases h
    exact .go (.trans rfl hc.symm) (.inr rfl)
  · split at h
    · split at h <;> cases h
      · exact .go (.trans rfl hc.symm) (.inr rfl)
      · exact .leave' hc
      · exact .leave' hc
    · cases h
  · cases h

/-- Unless it is a read after a release that fails. -/
theorem advance_move {c : Point} {reply : Reply} (h : p.advance t reply c = some p')
    (hback : ∀ s, c = .readBack s → ∃ state, reply = .record (some state)) : Move p t c p' := by
  cases c with
  | idle => cases h
  | lease =>
    simp only [Supervisor.advance, Supervisor.lease] at h
    split at h <;> cases h
    · exact .go rfl (.inl rfl)
    · next ha => exact .lease ha
  | recordCapacityDenied =>
    cases h
    exact .go rfl (.inl rfl)
  | prepareProtectedDispatch s => exact attempt_move rfl rfl rfl rfl h
  | admitVerified s => exact attempt_move rfl rfl rfl rfl h
  | send s => exact attempt_move rfl rfl rfl rfl h
  | resolved s safe => exact attempt_move rfl rfl rfl rfl h
  | receive s =>
    simp only [Supervisor.advance] at h
    split at h <;> cases h
    · split
      · exact .go rfl (.inl rfl)
      · exact .go rfl (.inr rfl)
    · exact .go rfl (.inl rfl)
    · exact .go rfl (.inr rfl)
  | release s safe =>
    cases h
    exact .release s safe
  | readBack s =>
    obtain ⟨state, rfl⟩ := hback s rfl
    cases h
    exact .go rfl (.inl rfl)
  | hold s =>
    simp only [Supervisor.advance] at h
    split at h <;> cases h
    · exact .go rfl (.inl rfl)
    all_goals exact .go rfl (.inr rfl)
  | confirm s =>
    simp only [Supervisor.advance] at h
    split at h <;> cases h
    all_goals exact .go rfl (.inr rfl)
  | recover s effect =>
    simp only [Supervisor.advance] at h
    split at h
    · cases h
      exact .go rfl (.inr rfl)
    · split at h <;> cases h
      all_goals first | exact .go rfl (.inr rfl) | exact .leave' rfl
  | recoverHold s =>
    simp only [Supervisor.advance] at h
    split at h <;> cases h
    all_goals first | exact .go rfl (.inr rfl) | exact .leave' rfl
  | failedBeforeEffect s =>
    simp only [Supervisor.advance] at h
    split at h <;> cases h
    all_goals first | exact .go rfl (.inr rfl) | exact .leave' rfl
  | retire s stage clause =>
    cases stage with
    | mark =>
      cases h
      exact .mark s clause
    | terminate => exact signal_move rfl h
    | kill => exact signal_move rfl h
    | close =>
      simp only [Supervisor.advance] at h
      split at h <;> cases h
      · exact .set rfl rfl rfl
      · exact .set rfl rfl rfl
    | finish =>
      cases h
      exact .leave rfl rfl

/-! ## The invariant -/

/-- A call has a slot exactly when it holds it, what is available is held by nobody and not
retired, and no slot in use is retired. -/
structure Owned (p : Supervisor ι) : Prop where
  holder : ∀ t s, p.holder s = some t ↔ slotOf (p.calls t) = some s
  nodup : p.available.Nodup
  free : ∀ s ∈ p.available, p.holder s = none ∧ (p.slot s).retired = false ∧ s < p.next
  used : ∀ t s, inUse (p.calls t) = some s → (p.slot s).retired = false
  known : ∀ s t, p.holder s = some t → s < p.next

theorem slotOf_of_inUse {c : Point} (h : inUse c = some s) : slotOf c = some s := by
  cases c <;> first | exact h | cases h

/-- A call moves on with the slot that it has. -/
theorem Owned.setCall (hp : Owned p) {c : Point} (hs : slotOf c = slotOf (p.calls t))
    (hu : inUse c = inUse (p.calls t) ∨ inUse c = none) : Owned (p.setCall t c) where
  holder u s := by
    by_cases h : u = t
    · subst h
      simp only [Supervisor.setCall, Function.update_self, hs]
      exact hp.holder u s
    · simp only [Supervisor.setCall, Function.update_of_ne h]
      exact hp.holder u s
  nodup := hp.nodup
  free := hp.free
  used u s h' := by
    by_cases h : u = t
    · subst h
      simp only [Supervisor.setCall, Function.update_self] at h'
      rcases hu with hu | hu
      · exact hp.used u s (hu ▸ h')
      · rw [hu] at h'
        cases h'
    · simp only [Supervisor.setCall, Function.update_of_ne h] at h'
      exact hp.used u s h'
  known := hp.known

omit [DecidableEq ι] in
/-- What matters of the slots is which of those handed out are retired. -/
theorem Owned.congr (hp : Owned p) (hc : p'.calls = p.calls) (hh : p'.holder = p.holder)
    (ha : p'.available.Sublist p.available) (hr : ∀ r < p.next, (p'.slot r).retired = (p.slot r).retired)
    (hn : p.next ≤ p'.next) : Owned p' where
  holder t s := by rw [hc, hh, hp.holder]
  nodup := hp.nodup.sublist ha
  free s hs := by
    obtain ⟨hnone, hret, hlt⟩ := hp.free s (ha.subset hs)
    exact ⟨hh ▸ hnone, (hr s hlt).trans hret, hlt.trans_le hn⟩
  used t s hs := by
    rw [hc] at hs
    have hlt := hp.known s t ((hp.holder t s).mpr (slotOf_of_inUse hs))
    exact (hr s hlt).trans (hp.used t s hs)
  known s t hs := (hp.known s t (hh ▸ hs)).trans_le hn

omit [DecidableEq ι] in
theorem Owned.setSlot (hp : Owned p) {x : Slot} (hx : x.retired = (p.slot s).retired) : Owned (p.setSlot s x) := by
  refine hp.congr rfl rfl (List.Sublist.refl _) (fun r _ => ?_) le_rfl
  by_cases h : r = s
  · subst h
    simp only [Supervisor.setSlot, Function.update_self, hx]
  · simp only [Supervisor.setSlot, Function.update_of_ne h]

/-- The slot of a call that holds it and leaves it. -/
theorem Owned.drop (hp : Owned p) (hs : slotOf (p.calls t) = some s) {c : Point} (hc : slotOf c = none)
    (hu : inUse c = none) : Owned ((p.setHolder s none).setCall t c) where
  holder u r := by
    have hheld : p.holder s = some t := (hp.holder t s).mpr hs
    by_cases hr : r = s
    · subst hr
      simp only [Supervisor.setCall, Supervisor.setHolder, Function.update_self, reduceCtorEq, false_iff]
      by_cases hut : u = t
      · subst hut
        simp [hc]
      · rw [Function.update_of_ne hut, ← hp.holder u r, hheld]
        simpa using Ne.symm hut
    · simp only [Supervisor.setCall, Supervisor.setHolder, Function.update_of_ne hr]
      by_cases hut : u = t
      · subst hut
        simp only [Function.update_self, hc, reduceCtorEq, iff_false]
        rw [hp.holder u r, hs]
        simpa using Ne.symm hr
      · rw [Function.update_of_ne hut]
        exact hp.holder u r
  nodup := hp.nodup
  free r hr := by
    obtain ⟨hnone, hret, hlt⟩ := hp.free r hr
    refine ⟨?_, hret, hlt⟩
    by_cases h : r = s
    · subst h
      exact Function.update_self ..
    · simpa only [Supervisor.setCall, Supervisor.setHolder, Function.update_of_ne h] using hnone
  used u r hr := by
    by_cases hut : u = t
    · subst hut
      simp only [Supervisor.setCall, Function.update_self, hu, reduceCtorEq] at hr
    · simp only [Supervisor.setCall, Function.update_of_ne hut] at hr
      exact hp.used u r hr
  known r u hr := by
    by_cases h : r = s
    · subst h
      simp [Supervisor.setCall, Supervisor.setHolder] at hr
    · simp only [Supervisor.setCall, Supervisor.setHolder, Function.update_of_ne h] at hr
      exact hp.known r u hr

theorem Owned.leave (hp : Owned p) (hs : slotOf (p.calls t) = some s) : Owned (p.leave t s) := by
  rw [Supervisor.leave, if_pos ((hp.holder t s).mpr hs)]
  exact hp.drop hs rfl rfl

/-- The block of `_lease`. -/
theorem Owned.lease (hp : Owned p) {rest : List Nat} (ha : p.available = s :: rest) (hc : slotOf (p.calls t) = none)
    {x : Slot} (hx : x.retired = (p.slot s).retired) :
    Owned ((({ p with available := rest }.setSlot s x).setHolder s (some t)).setCall t
      (.prepareProtectedDispatch s)) := by
  obtain ⟨hnone, hret, hlt⟩ := hp.free s (ha ▸ List.mem_cons_self ..)
  have hnodup : (s :: rest).Nodup := ha ▸ hp.nodup
  have hrest : ∀ r ∈ rest, r ≠ s := fun r hr he => (List.nodup_cons.mp hnodup).1 (he ▸ hr)
  have hfree : ∀ r ∈ rest, p.holder r = none ∧ (p.slot r).retired = false ∧ r < p.next :=
    fun r hr => hp.free r (ha ▸ List.mem_cons_of_mem _ hr)
  refine ⟨fun u r => ?_, (List.nodup_cons.mp hnodup).2, fun r hr => ?_, fun u r hr => ?_, fun r u hr => ?_⟩
  · by_cases hr : r = s
    · subst hr
      simp only [Supervisor.setCall, Supervisor.setHolder, Function.update_self, Option.some.injEq]
      by_cases hut : u = t
      · subst hut
        simp [slotOf]
      · rw [Function.update_of_ne hut, Supervisor.setSlot, ← hp.holder u r, hnone]
        simpa using Ne.symm hut
    · simp only [Supervisor.setCall, Supervisor.setHolder, Supervisor.setSlot, Function.update_of_ne hr]
      by_cases hut : u = t
      · subst hut
        rw [hp.holder u r, hc]
        simpa [slotOf] using Ne.symm hr
      · rw [Function.update_of_ne hut]
        exact hp.holder u r
  · simp only [Supervisor.setCall, Supervisor.setHolder, Supervisor.setSlot, Function.update_of_ne (hrest r hr)]
    exact hfree r hr
  · have hunretired : ∀ r, (p.slot r).retired = false → (Function.update p.slot s x r).retired = false := by
      intro r hunret
      by_cases h : r = s
      · rw [h, Function.update_self, hx, hret]
      · rwa [Function.update_of_ne h]
    refine hunretired r ?_
    by_cases hut : u = t
    · subst hut
      simp only [Supervisor.setCall, Function.update_self, inUse, Option.some.injEq] at hr
      exact hr ▸ hret
    · simp only [Supervisor.setCall, Function.update_of_ne hut] at hr
      exact hp.used u r hr
  · by_cases h : r = s
    · exact h ▸ hlt
    · simp only [Supervisor.setCall, Supervisor.setHolder, Supervisor.setSlot, Function.update_of_ne h] at hr
      exact hp.known r u hr

omit [DecidableEq ι] in
/-- A slot that nobody holds becomes available. -/
theorem Owned.publish (hp : Owned p) (hnone : p.holder s = none) (hret : (p.slot s).retired = false) (hlt : s < p.next)
    (hnot : s ∉ p.available) : Owned { p with available := p.available ++ [s] } where
  holder := hp.holder
  nodup := List.nodup_append.mpr ⟨hp.nodup, List.nodup_singleton s, by
    rintro a ha b hb rfl
    exact hnot (List.mem_singleton.mp hb ▸ ha)⟩
  free r hr := by
    rcases List.mem_append.mp hr with hr | hr
    · exact hp.free r hr
    · obtain rfl := List.mem_singleton.mp hr
      exact ⟨hnone, hret, hlt⟩
  used := hp.used
  known := hp.known

theorem Owned.release (hp : Owned p) {safe : Bool} (hc : p.calls t = .release s safe) :
    Owned ((p.release s safe).setCall t (.readBack s)) := by
  have hs : slotOf (p.calls t) = some s := by rw [hc]; rfl
  have hheld : p.holder s = some t := (hp.holder t s).mpr hs
  have hdrop := hp.drop hs (c := .readBack s) rfl rfl
  have hunret : (p.slot s).retired = false := hp.used t s (by rw [hc]; rfl)
  have hset : ∀ x : Slot, x.retired = (p.slot s).retired →
      Owned (((p.setHolder s none).setCall t (.readBack s)).setSlot s x) := fun x hx => hdrop.setSlot hx
  simp only [Supervisor.release]
  split
  · refine (hset { p.slot s with safe := safe, leased := false, lifecycle := .idle } rfl).publish (s := s)
      (Function.update_self ..) ?_ (hp.known s t hheld) ?_
    · simpa [Supervisor.setSlot] using hunret
    · intro hmem
      cases (hp.free s hmem).1.symm.trans hheld
  · exact hset { p.slot s with safe := safe, leased := false } rfl

/-- The first block of `_retire`, by the call that holds the slot. -/
theorem Owned.markRetired (hp : Owned p) {clause : Clause} (hc : p.calls t = .retire s .mark clause) :
    Owned ((p.markRetired s).setCall t (.retire s .terminate clause)) := by
  have hs : slotOf (p.calls t) = some s := by rw [hc]; rfl
  have hheld : p.holder s = some t := (hp.holder t s).mpr hs
  have hmoved : Owned (p.setCall t (.retire s .terminate clause)) := hp.setCall hs.symm (.inr rfl)
  have hslot : ∀ r, r ≠ s → ((p.markRetired s).slot r).retired = (p.slot r).retired := by
    intro r hr
    simp only [Supervisor.markRetired, Supervisor.setSlot, Function.update_of_ne hr]
  refine ⟨hmoved.holder, hp.nodup.erase s, fun r hr => ?_, fun u r hr => ?_, hp.known⟩
  · have hmem := List.mem_of_mem_erase hr
    have hne : r ≠ s := by
      rintro rfl
      cases (hp.free r hmem).1.symm.trans hheld
    obtain ⟨hnone, hret, hlt⟩ := hp.free r hmem
    exact ⟨hnone, (hslot r hne).trans hret, hlt⟩
  · have hne : r ≠ s := by
      -- the slot is that of the call that retires it
      rintro rfl
      obtain rfl : u = t := by
        have hu := (hmoved.holder u r).mpr (slotOf_of_inUse hr)
        exact Option.some.inj (hu.symm.trans hheld)
      simp [Supervisor.setCall, inUse] at hr
    exact (hslot r hne).trans (hmoved.used u r hr)

theorem owned_move (hp : Owned p) (h : Move p t (p.calls t) p') : Owned p' := by
  generalize hc : p.calls t = c at h
  cases h with
  | lease ha => exact hp.lease ha (by rw [hc]; rfl) rfl
  | go hs hu => exact hp.setCall (by rw [hc, hs]) (by rwa [hc])
  | set hs hu hx => exact (hp.setSlot hx).setCall (t := t) (hs.trans (congrArg slotOf hc.symm)) (.inr hu)
  | release s safe => exact hp.release hc
  | mark s clause => exact hp.markRetired hc
  | leave hs hx => exact (hp.setSlot hx).leave ((congrArg slotOf hc).trans hs)

omit [DecidableEq ι] in
/-- A new worker takes the place of a retired one. -/
theorem Owned.replaceNext (hp : Owned p) (rest : List Nat) : Owned (p.replaceNext s rest) := by
  have hnot : p.next ∉ p.available := fun h => Nat.lt_irrefl _ (hp.free _ h).2.2
  have hnone : p.holder p.next = none := by
    cases h : p.holder p.next with
    | none => rfl
    | some u => exact absurd (hp.known _ u h) (Nat.lt_irrefl _)
  rw [Supervisor.replaceNext]
  split
  · have hgrown : Owned { p.setSlot p.next .fresh with next := p.next + 1 } := by
      refine hp.congr rfl rfl (List.Sublist.refl _) (fun r hr => ?_) (Nat.le_succ _)
      simp only [Supervisor.setSlot, Function.update_of_ne (Nat.ne_of_lt hr)]
    have h := hgrown.publish (s := p.next) hnone (by simp [Supervisor.setSlot, Slot.fresh]) (Nat.lt_succ_self _) hnot
    exact h.congr rfl rfl (List.Sublist.refl _) (fun _ _ => rfl) le_rfl
  · refine hp.congr rfl rfl List.erase_sublist (fun r hr => ?_) (Nat.le_succ _)
    simp only [Supervisor.markRetired, Supervisor.setSlot, Function.update_of_ne (Nat.ne_of_lt hr)]

/-- A step that is not a failing read after a release keeps the ownership. -/
theorem owned_step (h : p.step e = some p') (hno : ¬ ReadBackFails p e) (hp : Owned p) : Owned p' := by
  cases e with
  | execute t =>
    simp only [Supervisor.step] at h
    split at h <;> cases h
    next hidle => exact hp.setCall (by rw [hidle]; rfl) (.inr rfl)
  | work t reply =>
    refine owned_move hp (advance_move h fun s hs => ?_)
    by_contra hne
    exact hno ⟨t, reply, s, rfl, hs, fun state he => hne ⟨state, he⟩⟩
  | die s =>
    cases h
    exact hp.setSlot rfl
  | replaceRetired =>
    simp only [Supervisor.step] at h
    split at h <;> cases h
    exact hp.congr rfl rfl (List.Sublist.refl _) (fun _ _ => rfl) le_rfl
  | replace spawned =>
    simp only [Supervisor.step] at h
    split at h <;> cases h
    · exact hp.congr rfl rfl (List.Sublist.refl _) (fun _ _ => rfl) le_rfl
    · split
      · exact hp.replaceNext _
      · exact hp.congr rfl rfl (List.Sublist.refl _) (fun _ _ => rfl) le_rfl

omit [DecidableEq ι] in
theorem owned_init (capacity : Nat) : Owned (Supervisor.init capacity : Supervisor ι) where
  holder _ _ := by simp [Supervisor.init, slotOf]
  nodup := List.nodup_range
  free s hs := ⟨rfl, rfl, List.mem_range.mp hs⟩
  used _ _ h := by cases h
  known _ _ h := by cases h

/-! ## Every run -/

/-- The step leases the slot to the call. -/
def Leases (p : Supervisor ι) (e : Event ι) (p' : Supervisor ι) (t : ι) (s : Nat) : Prop :=
  (∃ reply, e = .work t reply) ∧ p.calls t = .lease ∧ p'.calls t = .prepareProtectedDispatch s

/-- The step is one of the call's steps of `_retire`: it marks the slot, terminates or kills its
process, closes its pipes, or records its end. -/
def Retires (p : Supervisor ι) (e : Event ι) (t : ι) (s : Nat) : Prop :=
  ∃ reply stage clause, e = .work t reply ∧ p.calls t = .retire s stage clause

/-- The step puts a new worker in the place of the slot. -/
def Replaces (p : Supervisor ι) (e : Event ι) (s : Nat) : Prop :=
  e = .replace true ∧ ∃ rest, p.replacing = some (s :: rest) ∧ s ∈ p.slots ∧ (p.slot s).retired = true

/-- Over every interleaving in which each read after a release is answered with a record: a slot
is held by the one call that has leased it and has neither released it nor ended, a slot is leased
only when no call holds it, every step of `_retire` is taken by the call that holds the slot, and
no slot in use is replaced. -/
theorem slot_ownership {capacity : Nat} {es : List (Event ι)}
    (h : run Supervisor.step (Supervisor.init capacity) es = some p)
    (hc : Along Supervisor.step (fun p e => ¬ ReadBackFails p e) (Supervisor.init capacity) (es ++ [e]))
    (h' : p.step e = some p') :
    (∀ t s, p.holder s = some t ↔ slotOf (p.calls t) = some s) ∧
    (∀ t s, Leases p e p' t s → p.holder s = none ∧ p'.holder s = some t) ∧
    (∀ t s, Retires p e t s → p.holder s = some t) ∧
    ∀ s, Replaces p e s → ∀ t, inUse (p.calls t) ≠ some s := by
  have halong := (along_append h).mp hc
  have hp : Owned p := run_invariant_along Owned (fun _ _ _ hx hno hi => owned_step hx hno hi) h halong.1
    (owned_init capacity)
  have hp' : Owned p' := owned_step h' halong.2.1 hp
  refine ⟨hp.holder, ?_, ?_, ?_⟩
  · rintro t s ⟨⟨reply, rfl⟩, hlease, hs⟩
    refine ⟨?_, (hp'.holder t s).mpr (by rw [hs]; rfl)⟩
    simp only [Supervisor.step, hlease, Supervisor.advance, Supervisor.lease] at h'
    split at h' <;> cases h'
    · simp [Supervisor.setCall] at hs
    · next ha =>
      simp only [Supervisor.setCall, Function.update_self, Point.prepareProtectedDispatch.injEq] at hs
      exact (hp.free s (ha ▸ hs ▸ List.mem_cons_self ..)).1
  · rintro t s ⟨reply, stage, clause, rfl, hs⟩
    exact (hp.holder t s).mpr (by rw [hs]; rfl)
  · rintro s ⟨-, rest, -, -, hret⟩ t hu
    rw [hp.used t s hu] at hret
    cases hret

namespace Sample

/-- A call gets an acknowledgement and releases its slot. -/
def acknowledged : List (Event Bool) :=
  [.execute false, .work false .returns, .work false .returns, .work false .returns, .work false .returns,
   .work false (.message (some (.outcome true true))), .work false .returns, .work false .returns]

/-- Another call leases the slot. -/
def leased : List (Event Bool) := acknowledged ++ ([.execute true, .work true .returns] : List (Event Bool))

/-- The second call gets no answer and is about to retire its slot. -/
def timedOut : List (Event Bool) :=
  leased ++ ([.work false (.record (some .recoveredCommitted)), .work true .returns, .work true .returns,
    .work true .returns, .work true (.message none), .work true .returns,
    .work true (.record (some .ambiguousHold))] : List (Event Bool))

/-- No call reads back without getting a record. -/
def answered (p : Supervisor Bool) : Event Bool → Bool
  | .work _ (.record (some _)) => true
  | .work t _ =>
    match p.calls t with
    | .readBack _ => false
    | _ => true
  | _ => true

theorem not_readBackFails {p : Supervisor Bool} {e : Event Bool} (h : answered p e = true) : ¬ ReadBackFails p e := by
  rintro ⟨t, reply, s, rfl, hs, hne⟩
  cases reply with
  | record state =>
    cases state with
    | none => simp [answered, hs] at h
    | some state => exact hne state rfl
  | _ => simp [answered, hs] at h

end Sample

open Sample in
/-- The second call retires the slot that it holds, which the first has released. -/
theorem slot_ownership_sample : ∃ p p' : Supervisor Bool,
    run Supervisor.step (Supervisor.init 1) timedOut = some p ∧ p.step (.work true .returns) = some p' ∧
      Retires p (.work true .returns) true 0 ∧ p.holder 0 = some true := by
  have halong : Along Supervisor.step (fun p e => answered p e = true) (Supervisor.init 1)
      (timedOut ++ [.work true .returns]) := by decide
  obtain ⟨p, p', hp, hp', hpoint⟩ : ∃ p p' : Supervisor Bool,
      run Supervisor.step (Supervisor.init 1) timedOut = some p ∧ p.step (.work true .returns) = some p' ∧
        p.calls true = .retire 0 .mark .body := ⟨_, _, rfl, rfl, rfl⟩
  have hret : Retires p (.work true .returns) true 0 := ⟨.returns, .mark, .body, rfl, hpoint⟩
  exact ⟨p, p', hp, hp', hret, (slot_ownership hp (halong.mono fun _ _ => not_readBackFails) hp').2.2.1 true 0 hret⟩

open Sample in
/-- When the read after its release misses its deadline, a call retires the slot that has been
leased to another call, and terminates the worker while the other call waits for it. -/
theorem foreign_slot_retired : ∃ p p' : Supervisor Bool,
    run Supervisor.step (Supervisor.init 1) (leased ++ [.work false .deadlineExceeded]) = some p ∧
      p.step (.work false .returns) = some p' ∧ Retires p (.work false .returns) false 0 ∧ p.holder 0 = some true ∧
      p'.calls true = .prepareProtectedDispatch 0 ∧ (p'.slot 0).retired = true ∧
      Retires p' (.work false .returns) false 0 ∧ p'.holder 0 = some true :=
  ⟨_, _, rfl, rfl, ⟨.returns, .mark, .journalUnavailable, rfl, rfl⟩, rfl, rfl, rfl,
    ⟨.returns, .terminate, .journalUnavailable, rfl, rfl⟩, rfl⟩

end ATB.Proof.WorkerPool
