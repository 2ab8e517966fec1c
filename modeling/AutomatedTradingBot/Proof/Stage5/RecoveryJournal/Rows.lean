import AutomatedTradingBot.Source.Stage5.RecoveryJournal

/-!
# What a transaction does to an attempt

An attempt is followed through its state, whether its effect is uncertain, and
whether a terminal conflict is retained for it. `Move` lists what a transaction can
do to these three; everything that is said about runs of the journal is a case
analysis of it.

* `apply_move`: a transaction that commits makes one of the moves;
* `step_rows`: a step of the journal changes the rows only by a transaction that
  commits.
-/

namespace ATB.Proof.RecoveryJournal

open ATB.Stage5 ATB.Trace

/-! ## Rows of the store -/

section Store

variable {st : Store} {k k' : Key} {f : Intent → Intent} {r : Intent}

theorem key_of_find? (h : st.find? k = some r) : r.key = k := by
  simpa using List.find?_some h

theorem find?_update_self (h : st.find? k = some r) (hf : ∀ r, (f r).key = r.key) :
    (st.update k f).find? k = some (f r) := by
  have hk := key_of_find? h
  simp only [Store.find?, Store.update, List.find?_map] at h ⊢
  have e : (fun r : Intent => decide (r.key = k)) ∘ (fun r => if r.key = k then f r else r) = fun r => decide (r.key = k) := by
    funext r
    by_cases hr : r.key = k <;> simp [hr, hf]
  rw [e, h]
  simp [hk]

theorem find?_update_ne (hf : ∀ r, (f r).key = r.key) (h : k' ≠ k) : (st.update k f).find? k' = st.find? k' := by
  simp only [Store.find?, Store.update, List.find?_map]
  have e : (fun r : Intent => decide (r.key = k')) ∘ (fun r => if r.key = k then f r else r) =
      fun r => decide (r.key = k') := by
    funext r
    by_cases hr : r.key = k <;> simp [hr, hf]
  rw [e]
  cases hr : st.intents.find? fun r => decide (r.key = k') with
  | none => rfl
  | some r =>
    have hk : r.key = k' := by simpa using List.find?_some hr
    have hne : r.key ≠ k := fun e => h (hk.symm.trans e)
    simp [hne]

theorem find?_append_self {st' : Store} (h : st.find? k = none) (hi : st'.intents = st.intents ++ [r])
    (hr : r.key = k) : st'.find? k = some r := by
  simp only [Store.find?] at h ⊢
  simp [hi, List.find?_append, h, hr]

theorem find?_append_ne {st' : Store} (hi : st'.intents = st.intents ++ [r]) (hr : r.key ≠ k) :
    st'.find? k = st.find? k := by
  simp [Store.find?, hi, List.find?_append, hr]

end Store

/-! ## Moves -/

/-- The state of an attempt, and whether its effect is uncertain. -/
def status (st : Store) (k : Key) : Option (RecoveryState × Bool) :=
  (st.find? k).map fun r => (r.state, r.transactionUncertain)

/-- What a transaction does to an attempt. -/
inductive Move (tx : Tx) (k : Key) (st st' : Store) : Prop where
  | same (hs : status st' k = status st k) (hc : st'.hasConflict k = st.hasConflict k)
  | recordIntent (hs : status st k = none) (hs' : status st' k = some (.intent, false))
      (hc : st'.hasConflict k = st.hasConflict k)
  | prepare (hs : status st k = none) (hs' : status st' k = some (.effectPossible, true))
      (hc : st'.hasConflict k = st.hasConflict k)
  | markEffectPossible (u : Bool) (hs : status st k = some (.intent, u))
      (hs' : status st' k = some (.effectPossible, true)) (hc : st'.hasConflict k = st.hasConflict k)
  | hold (htx : ∃ e, tx = .hold k e ∨ tx = .unresolved k e) (p : RecoveryState × Bool) (hs : status st k = some p)
      (hs' : status st' k = some (.ambiguousHold, true)) (hc : st'.hasConflict k = st.hasConflict k)
  | resolved (committed : Bool) (htx : ∃ j e, tx = .resolved k committed j e) (u : Bool)
      (hs : status st k = some (.effectPossible, u)) (hn : st.hasConflict k = false)
      (hs' : status st' k = some (if committed then .recoveredCommitted else .recoveredDenied, false))
      (hc : st'.hasConflict k = st.hasConflict k)
  | forget (htx : tx = .capacityDenied k ∨ ∃ e, tx = .failedBeforeEffect k e) (p : RecoveryState × Bool)
      (hs : status st k = some p) (hp : p.1.held = false) (hn : st.hasConflict k = false) (s : RecoveryState)
      (hs' : status st' k = some (s, false)) (hr : s = .capacityDenied ∨ s = .failedBeforeEffect)
      (hc : st'.hasConflict k = st.hasConflict k)
  | terminal (o : TerminalOutcome) (htx : ∃ d g r, tx = .recordTerminal k d g o r) (p : RecoveryState × Bool)
      (hs : status st k = some p) (hp : p.1 = .ambiguousHold ∨ p.1 = .unresolved) (hn : st.hasConflict k = false)
      (hs' : status st' k = some (.ofOutcome o, false)) (hc : st'.hasConflict k = st.hasConflict k)
  | conflict (htx : ∃ d g o r, tx = .recordTerminal k d g o r) (p : RecoveryState × Bool) (hs : status st k = some p)
      (hp : st.hasConflict k = true ∨ p.1.recovered = true)
      (hs' : status st' k = some (.ambiguousHold, true)) (hc : st'.hasConflict k = true)

theorem status_of_find? {st : Store} {k : Key} {r : Intent} (h : st.find? k = some r) :
    status st k = some (r.state, r.transactionUncertain) := by rw [status, h]; rfl

theorem status_update {st : Store} {k : Key} {f : Intent → Intent} {r : Intent} (h : st.find? k = some r)
    (hf : ∀ r, (f r).key = r.key) :
    status (st.update k f) k = some ((f r).state, (f r).transactionUncertain) :=
  status_of_find? (find?_update_self h hf)

/-- What `_transition` does: nothing to the other attempts, and its guards for this one. -/
theorem transition_cases {st st' : Store} {k : Key} {s : RecoveryState} {u i : Bool} {j : Option Json}
    {e : Option String} {x : Option RecoveryState} {now : Int} (h : st.transition k s u i j e x now = .ok st') :
    st'.conflicts = st.conflicts ∧ (∀ k', k' ≠ k → st'.find? k' = st.find? k') ∧
      ∃ p, status st k = some p ∧ (∀ y ∈ x, p.1 = y) ∧ status st' k = some (s, u) ∧
        (u = false → st.hasConflict k = false ∧ p.1.held = false) := by
  rw [Store.transition] at h
  split at h
  · cases h
  · next hg =>
    split at h
    · cases h
    · next r hr =>
      split at h
      · cases h
      · next hx =>
        cases h
        refine ⟨rfl, fun k' hk' => find?_update_ne (fun _ => rfl) hk', _, status_of_find? hr, ?_, ?_, ?_⟩
        · intro y hy
          by_contra hne
          exact hx ⟨y, hy, hne⟩
        · exact status_update hr fun _ => rfl
        · intro hu
          simp only [hu, true_and, not_or, hr, Option.mem_def, Option.some.injEq, exists_eq_left', Bool.not_eq_true] at hg
          exact hg

theorem status_congr {st st' : Store} {k : Key} (h : st'.find? k = st.find? k) : status st' k = status st k := by
  rw [status, h, status]

theorem hasConflict_congr {st st' : Store} (h : st'.conflicts = st.conflicts) (k : Key) :
    st'.hasConflict k = st.hasConflict k := by rw [Store.hasConflict, h, Store.hasConflict]

theorem find?_holdConflict_ne (st : Store) {k k' : Key} (h : k' ≠ k) (now : Int) :
    (st.holdConflict k now).find? k' = st.find? k' :=
  find?_update_ne (fun _ => rfl) h

theorem status_holdConflict (st : Store) {k : Key} {r : Intent} (h : st.find? k = some r) (now : Int) :
    status (st.holdConflict k now) k = some (.ambiguousHold, true) :=
  status_update h fun _ => rfl

/-- `resolve_authenticated_terminal` does nothing to the other attempts. -/
theorem recordTerminal_cases {st : Store} {k : Key} {d g n : String} {o : TerminalOutcome} {now : Int}
    {q : Store × Bool} (h : st.recordTerminal k d g n o now = .ok q) :
    (∀ k', k' ≠ k → q.1.find? k' = st.find? k' ∧ q.1.hasConflict k' = st.hasConflict k') ∧
      ∃ p, status st k = some p ∧
        ((st.hasConflict k = true ∨ p.1.recovered = true) ∧ status q.1 k = some (.ambiguousHold, true) ∧
            q.1.hasConflict k = true ∨
          (p.1 = .ambiguousHold ∨ p.1 = .unresolved) ∧ st.hasConflict k = false ∧
            status q.1 k = some (.ofOutcome o, false) ∧ q.1.hasConflict k = st.hasConflict k) := by
  rw [Store.recordTerminal] at h
  split at h
  · cases h
  · next r hr =>
    split at h
    · cases h
    split at h
    · next hc =>
      cases h
      exact ⟨fun k' hk' => ⟨find?_holdConflict_ne st hk' now, rfl⟩, _, status_of_find? hr,
        .inl ⟨.inl hc, status_holdConflict st hr now, hc⟩⟩
    next hc =>
    split at h
    · next hrec =>
      split at h
      · cases h
      · cases h
        refine ⟨fun k' hk' => ⟨find?_holdConflict_ne _ hk' now, ?_⟩, _, status_of_find? hr,
          .inl ⟨.inr hrec, status_holdConflict _ hr now, ?_⟩⟩
        · have hne : ¬ k = k' := fun e => hk' e.symm
          simp [Store.hasConflict, Store.retainConflict, Store.holdConflict, Store.setGate, Store.update, hne]
        · simp [Store.hasConflict, Store.retainConflict, Store.holdConflict, Store.setGate, Store.update]
    split at h
    · cases h
    · next hst =>
      cases h
      refine ⟨fun k' hk' => ⟨find?_update_ne (fun _ => rfl) hk', rfl⟩, _, status_of_find? hr,
        .inr ⟨?_, by simpa using hc, status_update hr fun _ => rfl, rfl⟩⟩
      by_contra hne
      rw [not_or] at hne
      exact hst hne

/-- A transition of another attempt leaves this one, and one of this attempt passed its guards. -/
theorem move_of_transition {tx : Tx} {st st' : Store} {k₀ k : Key} {s : RecoveryState} {u i : Bool} {j : Option Json}
    {e : Option String} {x : Option RecoveryState} {now : Int} (h : st.transition k₀ s u i j e x now = .ok st')
    (hk : k = k₀ → st'.hasConflict k = st.hasConflict k → ∀ p, status st k = some p → (∀ y ∈ x, p.1 = y) →
      status st' k = some (s, u) → (u = false → st.hasConflict k = false ∧ p.1.held = false) → Move tx k st st') :
    Move tx k st st' := by
  obtain ⟨hc, hne, p, hp, hx, hs, hg⟩ := transition_cases h
  by_cases e : k = k₀
  · subst e
    exact hk rfl (hasConflict_congr hc k) p hp hx hs hg
  · exact .same (status_congr (hne k e)) (hasConflict_congr hc k)

theorem move_recordIntent {tx : Tx} {st st' : Store} {k₀ k : Key} {d g : String} {now : Int}
    (h : st.recordIntent k₀ d g now = .ok st') : Move tx k st st' := by
  rw [Store.recordIntent] at h
  split at h
  · split at h <;> cases h
    exact .same rfl rfl
  · next hn =>
    cases h
    by_cases e : k = k₀
    · subst e
      exact .recordIntent (by rw [status, hn]; rfl) ((status_of_find? (find?_append_self hn rfl rfl)).trans rfl) rfl
    · exact .same (status_congr (find?_append_ne rfl fun e' => e e'.symm)) rfl

theorem move_bindWorker {tx : Tx} {st st' : Store} {k₀ k : Key} {pid now : Int}
    (h : st.bindWorker k₀ pid now = .ok st') : Move tx k st st' := by
  rw [Store.bindWorker] at h
  split at h
  · next r hr =>
    split at h <;> cases h
    refine .same ?_ rfl
    by_cases e : k = k₀
    · subst e
      rw [status_of_find? hr]
      exact status_update hr fun _ => rfl
    · exact status_congr (find?_update_ne (fun _ => rfl) e)
  · cases h

theorem move_prepare {tx : Tx} {st st' : Store} {a : Admission} {k : Key} {pid now : Int} {g : String}
    (h : st.prepareProtectedDispatch a pid g now = .ok st') : Move tx k st st' := by
  rw [Store.prepareProtectedDispatch] at h
  split at h
  · cases h
  · next hg =>
    cases h
    rw [not_or, Bool.not_eq_true, Option.isSome_eq_false_iff, Option.isNone_iff_eq_none] at hg
    by_cases e : k = a.key
    · subst e
      exact .prepare (by rw [status, hg.2]; rfl)
        ((status_of_find? (find?_append_self hg.2 rfl rfl)).trans rfl) rfl
    · exact .same (status_congr (find?_append_ne rfl fun e' => e e'.symm)) rfl

/-- A transaction that commits makes one of the moves. -/
theorem apply_move {tx : Tx} {now : Int} {st : Store} {q : Store × Bool} (h : tx.apply now st = .ok q) (k : Key) :
    Move tx k st q.1 := by
  cases tx
  case initializeRows newStore a b c =>
    cases h
    cases newStore <;> exact .same rfl rfl
  case recordTerminal k₀ d g o r =>
    obtain ⟨hne, p, hp, hcases⟩ := recordTerminal_cases h
    by_cases e : k = k₀
    · subst e
      rcases hcases with ⟨hc, hs, hc'⟩ | ⟨hst, hc, hs, hc'⟩
      · exact .conflict ⟨d, g, o, r, rfl⟩ p hp hc hs hc'
      · exact .terminal o ⟨d, g, r, rfl⟩ p hp hst hc hs hc'
    · exact .same (status_congr (hne k e).1) (hne k e).2
  all_goals
    simp only [Tx.apply, bind_eq_ok, pure_eq_ok] at h
    obtain ⟨st', h, rfl⟩ := h
  case recordIntent => exact move_recordIntent h
  case bindWorker => exact move_bindWorker h
  case prepareProtectedDispatch => exact move_prepare h
  case reserveAdmissionEvidence =>
    rw [Store.reserveAdmissionEvidence] at h
    split at h <;> cases h
    exact .same rfl rfl
  case capacityDenied =>
    refine move_of_transition h ?_
    rintro rfl hc p hp - hs hg
    exact .forget (.inl rfl) p hp (hg rfl).2 (hg rfl).1 _ hs (.inl rfl) hc
  case failedBeforeEffect k₀ e =>
    refine move_of_transition h ?_
    rintro rfl hc p hp - hs hg
    exact .forget (.inr ⟨e, rfl⟩) p hp (hg rfl).2 (hg rfl).1 _ hs (.inr rfl) hc
  case markEffectPossible =>
    refine move_of_transition h ?_
    rintro rfl hc p hp hx hs -
    obtain ⟨s, u⟩ := p
    obtain rfl := hx .intent rfl
    exact .markEffectPossible u hp hs hc
  case hold k₀ e =>
    refine move_of_transition h ?_
    rintro rfl hc p hp - hs -
    exact .hold ⟨e, .inl rfl⟩ p hp hs hc
  case unresolved k₀ e =>
    refine move_of_transition h ?_
    rintro rfl hc p hp - hs -
    exact .hold ⟨e, .inr rfl⟩ p hp hs hc
  case resolved k₀ committed j e =>
    refine move_of_transition h ?_
    rintro rfl hc p hp hx hs hg
    obtain ⟨s, u⟩ := p
    obtain rfl := hx .effectPossible rfl
    exact .resolved committed ⟨j, e, rfl⟩ u hp (hg rfl).1 hs hc

/-! ## Steps of the journal -/

/-- The tables, which are empty before the store is created. -/
def rows {ι : Type} (w : World ι) : Store := w.store.getD Store.empty

/-- The attempts and the conflicts are as they were. -/
def SameRows {ι : Type} (w w' : World ι) : Prop :=
  (rows w').intents = (rows w).intents ∧ (rows w').conflicts = (rows w).conflicts

/-- The transaction commits, and its rows are those of the next state. -/
def Commits {ι : Type} (w w' : World ι) (now : Int) (tx : Tx) : Prop :=
  w.writer = none ∧ ∃ q, tx.apply now (rows w) = .ok q ∧ w'.store = some q.1

theorem rows_of_store {ι : Type} {w : World ι} {st : Store} (h : w.store = some st) : rows w = st := by
  rw [rows, h]; rfl

section Perform

variable {ι : Type} {py : Platform} {w w' : World ι} {t : ι} {now : Int} {fault : Fault} {next : Next}

theorem sameRows_refl (w : World ι) : SameRows w w := ⟨rfl, rfl⟩

theorem SameRows.find? (h : SameRows w w') (k : Key) : (rows w').find? k = (rows w).find? k := by
  rw [Store.find?, h.1, Store.find?]

theorem commit_rows {tx : Tx} (h : w.commit now fault tx = some (w', next)) :
    SameRows w w' ∨ Commits w w' now tx := by
  have hcommits : ∀ {st q}, w.store = some st → ¬ w.writer.isSome → tx.apply now st = .ok q →
      Commits w { w with store := some q.1 } now tx := by
    intro st q hst hw hq
    exact ⟨by simpa using hw, q, by rw [rows_of_store hst]; exact hq, rfl⟩
  unfold World.commit at h
  split at h
  · cases h
    exact .inl (sameRows_refl w)
  · next st hst =>
    split at h
    · cases h
    next hw =>
    split at h
    · cases h
      exact .inl (sameRows_refl w)
    · next hq =>
      cases h
      exact .inr (hcommits hst hw hq)
    · next hq =>
      cases h
      exact .inr (hcommits hst hw hq)
  · next st hst =>
    split at h
    · cases h
    next hw =>
    split at h
    · cases h
    · next hq =>
      cases h
      exact .inr (hcommits hst hw hq)
  · next st durable hst =>
    split at h
    · cases h
    next hw =>
    split at h
    · cases h
    · next hq =>
      cases h
      cases durable
      · refine .inl ?_
        rw [SameRows, rows_of_store hst]
        exact ⟨rfl, rfl⟩
      · exact .inr (hcommits hst hw hq)
  · cases h

theorem perform_rows {work : Work} (h : w.perform py t now fault work = some (w', next)) :
    SameRows w w' ∨ ∃ tx, work = .commit tx ∧ Commits w w' now tx := by
  cases work
  case commit tx =>
    rcases commit_rows h with h | h
    · exact .inl h
    · exact .inr ⟨tx, rfl, h⟩
  case openGate bootstrap receipt =>
    refine .inl ?_
    simp only [World.perform] at h
    split at h
    · cases h
    next st hst =>
    have hsame : ∀ b : Bool, SameRows w { w with
        store := some (if b then (if bootstrap then st.consumeBootstrap else st).setGate .opened receipt.nonce now else st)
        writer := none } := by
      intro b
      rw [SameRows, rows_of_store hst]
      cases b <;> cases bootstrap <;> exact ⟨rfl, rfl⟩
    split at h
    · cases h
      exact hsame true
    · next durable =>
      cases h
      exact hsame durable
    · cases h
  case closeGate reason =>
    refine .inl ?_
    simp only [World.perform] at h
    split at h <;> cases h
    · cases hst : w.store with
      | none => simp [SameRows, rows, hst]
      | some st => simp [SameRows, rows, hst, Store.closeGate]
    · exact sameRows_refl w
  case createStore =>
    refine .inl ?_
    simp only [World.perform, Option.some.injEq, Prod.mk.injEq] at h
    obtain ⟨rfl, -⟩ := h
    cases hst : w.store with
    | none => simp [SameRows, rows, hst]
    | some st => simp [SameRows, rows, hst]
  case evaluateRequalify op digest receipt fetched =>
    refine .inl ?_
    simp only [World.perform] at h
    split at h
    · cases h
      exact sameRows_refl w
    · obtain ⟨row, -, h⟩ := Option.bind_eq_some_iff.mp h
      split at h <;> cases h <;> exact sameRows_refl w
    · cases h
  -- the other steps leave the store alone
  all_goals
    refine .inl ?_
    simp only [World.perform, World.orElse] at h
    (repeat' split at h) <;> cases h <;> exact sameRows_refl w

end Perform

section Step

variable {ι : Type} [DecidableEq ι] {py : Platform} {w w' : World ι}

@[simp] theorem store_proceed (t : ι) (rest : List Work) (next : Next) : (w.proceed t rest next).store = w.store := by
  cases next <;> rfl

/-- The step of a thread, and how its call goes on. -/
theorem work_cases {t : ι} {now : Int} {fault : Fault} (h : w.step py (.work t now fault) = some w') :
    ∃ work rest w₁ next, w.threads t = work :: rest ∧ w.perform py t now fault work = some (w₁, next) ∧
      w' = w₁.proceed t rest next := by
  simp only [World.step] at h
  split at h
  · cases h
  · next work rest ht =>
    obtain ⟨⟨w₁, next⟩, hp, rfl⟩ := Option.map_eq_some_iff.mp h
    exact ⟨work, rest, w₁, next, ht, hp, rfl⟩

/-- The rows change only by a transaction that commits. -/
theorem step_rows {e : Event ι} (h : w.step py e = some w') :
    SameRows w w' ∨ ∃ t now fault tx rest, e = .work t now fault ∧ w.threads t = .commit tx :: rest ∧
      Commits w w' now tx := by
  cases e with
  | reopen t authority challenge =>
    simp only [World.step] at h
    split at h <;> cases h
    exact .inl (sameRows_refl w)
  | call t operation =>
    simp only [World.step] at h
    split at h
    · split at h <;> cases h
      exact .inl (sameRows_refl w)
    · cases h
  | work t now fault =>
    obtain ⟨work, rest, w₁, next, ht, hp, rfl⟩ := work_cases h
    rcases perform_rows hp with hs | ⟨tx, rfl, hc⟩
    · left
      simpa only [SameRows, rows, store_proceed] using hs
    · right
      refine ⟨t, now, fault, tx, rest, rfl, ht, ?_⟩
      simpa only [Commits, store_proceed] using hc
  | stop =>
    cases h
    exact .inl (sameRows_refl w)

/-- A step leaves an attempt as it is, or is a transaction that moves it. -/
theorem step_move {e : Event ι} (h : w.step py e = some w') (k : Key) :
    status (rows w') k = status (rows w) k ∧ (rows w').hasConflict k = (rows w).hasConflict k ∨
      ∃ t now fault tx rest, e = .work t now fault ∧ w.threads t = .commit tx :: rest ∧
        Move tx k (rows w) (rows w') := by
  rcases step_rows h with hs | ⟨t, now, fault, tx, rest, rfl, ht, -, q, hq, hst⟩
  · exact .inl ⟨status_congr (hs.find? k), hasConflict_congr hs.2 k⟩
  · rw [rows_of_store hst]
    exact .inr ⟨t, now, fault, tx, rest, rfl, ht, apply_move hq k⟩

/-- A retained conflict is retained through every step. -/
theorem conflict_step {e : Event ι} (h : w.step py e = some w') {k : Key} (hc : (rows w).hasConflict k = true) :
    (rows w').hasConflict k = true := by
  rcases step_move h k with ⟨-, hc'⟩ | ⟨t, now, fault, tx, rest, rfl, ht, hm⟩
  · rw [hc', hc]
  · cases hm with
    | conflict _ _ _ _ _ hc' => exact hc'
    | _ => simp_all

end Step

end ATB.Proof.RecoveryJournal
