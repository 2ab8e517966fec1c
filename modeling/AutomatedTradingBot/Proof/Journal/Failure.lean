import AutomatedTradingBot.Proof.Journal.Refinement

/-!
# Calls that raise

A call that raises before it has written anything leaves the journal as it was. A
call that raises after its record was written does not: the record stays, and
`recover` refuses it from then on. `Breaks` is that case: the command is accepted
against the recovered state and its id is used, or its number has nine digits.

* `preserved_iff`: on a journal that recovers, a call that raises leaves the
  recovered state as it was if and only if it does not break the journal;
* `failed_calls_preserve`: the same along every run of calls that do not break it;
* `reused_id_breaks`: a run of two calls after which nothing recovers.
-/

namespace ATB.Proof.Journal

open ATB.Journal

/-- The call passes every check that is made before its record is written, but the record
cannot be replayed: its id stands in the journal, or the journal is full. -/
def Breaks (py : Platform) (cfg : JournalConfig) (dir : Directory) (id : String) (c : Command) : Prop :=
  dir.locked = false ∧ ∃ prior digest data, recover py cfg dir = .ok prior ∧
    prepare py cfg prior id c.name c.payload = .ok (digest, data) ∧
    (Used dir id ∨ prior.sequence = 99999999)

/-- If the call raises, the journal still recovers, to the state that it had. -/
def Preserved (py : Platform) (cfg : JournalConfig) (dir : Directory) (id : String) (c : Command) : Prop :=
  ∀ before, recover py cfg dir = .ok before → ∀ e, (call py cfg dir id c).2 = .error e →
    ∃ after, recover py cfg (call py cfg dir id c).1 = .ok after ∧ after.sequence = before.sequence ∧
      after.stateDigest = before.stateDigest ∧ after.oms = before.oms ∧ after.ledger = before.ledger

variable {py : Platform} {cfg : JournalConfig}

section Step

variable {dir : Directory} {prior : StateSnapshot} {id : String} {c : Command}

theorem full_iff (h : recover py cfg dir = .ok prior) :
    prior.sequence = 99999999 ↔ 10 ^ 8 ≤ prior.sequence + 1 := by
  have := recover_room h
  omega

/-- After a call that breaks the journal nothing recovers. -/
theorem not_recover_of_breaks (hb : Breaks py cfg dir id c) (snap : StateSnapshot) :
    recover py cfg (call py cfg dir id c).1 ≠ .ok snap := by
  obtain ⟨hfree, prior, digest, data, h, hprep, hbad⟩ := hb
  rw [full_iff h] at hbad
  rcases call_cases id c h with ⟨hl | ⟨e, he⟩, -⟩ | ⟨-, digest', data', hprep', hc⟩
  · rw [hfree] at hl; cases hl
  · rw [hprep] at he; cases he
  · rw [hprep] at hprep'
    cases hprep'
    rw [hc]
    exact (recover_written h (sorted_payload c) (fields?_payload c) hprep).2 hbad snap

/-- A call that does not break the journal raises and leaves it, or succeeds. -/
theorem call_of_not_breaks (h : recover py cfg dir = .ok prior) (hb : ¬ Breaks py cfg dir id c) :
    (call py cfg dir id c).1 = dir ∨ ∃ result, (call py cfg dir id c).2 = .ok result := by
  rcases call_cases id c h with ⟨-, e, he⟩ | ⟨hfree, digest, data, hprep, -⟩
  · exact Or.inl (by rw [he])
  · have hgood : ¬ (Used dir id ∨ 10 ^ 8 ≤ prior.sequence + 1) := fun hbad =>
      hb ⟨hfree, prior, digest, data, h, hprep, hbad.imp_right (full_iff h).mpr⟩
    rw [not_or, not_le] at hgood
    obtain ⟨oms, ledger, content, -, -, -, hc⟩ := call_accepted h hfree hprep hgood.1 hgood.2
    exact Or.inr ⟨_, by rw [hc]⟩

theorem preserved_iff (h : recover py cfg dir = .ok prior) :
    Preserved py cfg dir id c ↔ ¬ Breaks py cfg dir id c := by
  constructor
  · intro hp hb
    have hnone := not_recover_of_breaks hb
    cases hc : (call py cfg dir id c).2 with
    | ok result => exact hnone result (call_ok h hc).1
    | error e =>
      obtain ⟨after, hafter, -⟩ := hp prior h e hc
      exact hnone after hafter
  · intro hb before hbefore e he
    rcases call_of_not_breaks h hb with hdir | ⟨result, hok⟩
    · exact ⟨before, by rw [hdir]; exact hbefore, rfl, rfl, rfl, rfl⟩
    · rw [hok] at he; cases he

theorem recover_call (h : recover py cfg dir = .ok prior) (hb : ¬ Breaks py cfg dir id c) :
    ∃ after, recover py cfg (call py cfg dir id c).1 = .ok after := by
  rcases call_of_not_breaks h hb with hdir | ⟨result, hok⟩
  · exact ⟨prior, by rw [hdir]; exact h⟩
  · exact ⟨result, (call_ok h hok).1⟩

end Step

/-! ## Runs -/

/-- The directory after a run of calls, whether they raise or not. -/
def afterCalls (py : Platform) (cfg : JournalConfig) (dir : Directory) (calls : List (String × Command)) :
    Directory :=
  calls.foldl (fun dir c => (call py cfg dir c.1 c.2).1) dir

/-- No call of the run breaks the journal as the call finds it. -/
def NoneBreaks (py : Platform) (cfg : JournalConfig) (dir : Directory) : List (String × Command) → Prop
  | [] => True
  | c :: calls => ¬ Breaks py cfg dir c.1 c.2 ∧ NoneBreaks py cfg (call py cfg dir c.1 c.2).1 calls

theorem recover_afterCalls {dir : Directory} {opened : StateSnapshot} {calls : List (String × Command)}
    (h : recover py cfg dir = .ok opened) (hrun : NoneBreaks py cfg dir calls) :
    ∃ snap, recover py cfg (afterCalls py cfg dir calls) = .ok snap := by
  induction calls generalizing dir opened with
  | nil => exact ⟨opened, h⟩
  | cons c calls ih =>
    obtain ⟨next, hnext⟩ := recover_call h hrun.1
    exact ih hnext hrun.2

/-- Along every run of calls that do not break the journal it recovers, and there a further
call that raises leaves the recovered state as it was if and only if it does not break it. -/
theorem failed_calls_preserve {dir : Directory} {opened : StateSnapshot} {calls : List (String × Command)}
    (hopen : recover py cfg dir = .ok opened) (hrun : NoneBreaks py cfg dir calls) (id : String) (c : Command) :
    (∃ snap, recover py cfg (afterCalls py cfg dir calls) = .ok snap) ∧
      (Preserved py cfg (afterCalls py cfg dir calls) id c ↔
        ¬ Breaks py cfg (afterCalls py cfg dir calls) id c) := by
  obtain ⟨snap, hsnap⟩ := recover_afterCalls hopen hrun
  exact ⟨⟨snap, hsnap⟩, preserved_iff hsnap⟩

theorem failed_calls_preserve_sample : ∃ dir, (∃ snap, recover Sample.platform Sample.journal dir = .ok snap) ∧
    (Preserved Sample.platform Sample.journal dir "cancel-1" (.cancel Sample.orderId) ↔
      ¬ Breaks Sample.platform Sample.journal dir "cancel-1" (.cancel Sample.orderId)) := by
  obtain ⟨dir, prior, -, hprior, -⟩ := Sample.submitted
  exact ⟨dir, failed_calls_preserve hprior (show NoneBreaks _ _ dir [] from trivial) _ _⟩

/-- An order is submitted as `c1` and then cancelled as `c1`: the cancellation raises, and
the journal does not recover any more. -/
theorem reused_id_breaks : ∃ dir, runAll Sample.platform Sample.journal ⟨false, []⟩ [("c1", Sample.submission)] =
    .ok dir ∧ ¬ Preserved Sample.platform Sample.journal dir "c1" (.cancel Sample.orderId) := by
  obtain ⟨dir, prior, hrun, hprior, hfree, -, hused, hprep⟩ := Sample.submitted
  obtain ⟨digest, data, hcancel⟩ := hprep "c1" Sample.steps_ok.1
  refine ⟨dir, hrun, fun hp => (preserved_iff hprior).mp hp ?_⟩
  exact ⟨hfree, prior, digest, data, hprior, hcancel, Or.inl ((hused "c1").mpr rfl)⟩

end ATB.Proof.Journal
