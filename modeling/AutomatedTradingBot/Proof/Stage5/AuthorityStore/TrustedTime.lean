import AutomatedTradingBot.Framework.Trace
import AutomatedTradingBot.Proof.Stage5.AuthorityStore.Steps

/-!
# Trusted time never runs backwards

The high water of the store is text, and both of its comparisons are comparisons of
text. Every caller writes an instant with `isoformat`, whose texts sort as the
instants, with a fraction of a second or without one. Over every sequence of
admissions, publications and recoveries, cut off or not, the high water never moves
back, and admissions are made at instants that do not decrease.
-/

namespace ATB.Proof.AuthorityStore

open ATB.Durable ATB.Stage5.AuthorityStore

/-- A call of the store, with the writes that it gets to make. -/
inductive Call where
  | admission (observed : Datetime) (writes : Option Nat)
  | publish (commandId payloadDigest : String) (successor : AuthorityState) (result : String) (writes : Option Nat)
  | recover (writes : Option Nat)

/-- The store and the instants of the admissions that were made, in their order. -/
structure Clocked where
  store : Store
  admitted : List Datetime

namespace Clocked

def highWater (k : Clocked) : String := k.store.database.state.trustedTimeHighWater

/-- The instant of an admission, when it was made. -/
def made {α : Type} (observed : Datetime) : Except (Stop StoreError) α → List Datetime
  | .ok _ => [observed]
  | .error _ => []

/-- `DatabaseCurrentAuthority` passes `observed_at.isoformat()`. -/
def step (env : Environment) (k : Clocked) : Call → Option Clocked
  | .admission observed n =>
    let r := (admissionWitness env observed.isoformat).run k.store n
    some ⟨r.2, k.admitted ++ made observed r.1⟩
  | .publish c p x r n => some ⟨((publish env c p x r).run k.store n).2, k.admitted⟩
  | .recover n => some ⟨((recover env).run k.store n).2, k.admitted⟩

end Clocked

/-- A published successor has the text of an instant as its high water. -/
def Canonical : Call → Prop
  | .publish _ _ x _ _ => ∃ t : Datetime, x.trustedTimeHighWater = t.isoformat
  | _ => True

/-! ## The invariant -/

/-- The high water is the text of an instant at or after `t`. -/
def Reached (t : Datetime) (db : Database) : Prop :=
  ∃ u : Datetime, db.state.trustedTimeHighWater = u.isoformat ∧ t ≤ u

/-- Admissions were made in order, and none of them after the high water. -/
structure Ordered (k : Clocked) (t : Datetime) : Prop where
  text : k.highWater = t.isoformat
  admitted : k.admitted.Pairwise (· ≤ ·)
  bounded : ∀ a ∈ k.admitted, a ≤ t

variable {env : Environment} {s : Store} {t observed : Datetime}

theorem not_text_lt {a b : Datetime} : ¬ a.isoformat < b.isoformat ↔ b ≤ a := by
  rw [Datetime.isoformat_lt_isoformat, Datetime.not_lt]

theorem checkTimes_spec {state : AuthorityState} {expired : Bool} (ht : state.trustedTimeHighWater = t.isoformat)
    (h : checkTimes env state observed.isoformat = .ok expired) : t ≤ observed := by
  unfold checkTimes at h
  obtain ⟨o, ho, h⟩ := bind_eq_ok.mp h
  obtain ⟨w, hw, h⟩ := bind_eq_ok.mp h
  obtain ⟨_, -, h⟩ := bind_eq_ok.mp h
  obtain ⟨_, -, h⟩ := bind_eq_ok.mp h
  obtain ⟨o', ho', h⟩ := bind_eq_ok.mp h
  obtain ⟨w', hw', h⟩ := bind_eq_ok.mp h
  obtain ⟨_, -, h⟩ := bind_eq_ok.mp h
  obtain ⟨_, -, h⟩ := bind_eq_ok.mp h
  obtain ⟨hle, -⟩ := raiseIf_bind_eq_ok.mp h
  rw [orRaise_eq_ok] at ho hw ho' hw'
  rw [env.fromisoformat_isoformat, ho', Option.some.injEq, Option.some.injEq] at ho
  rw [ht, env.fromisoformat_isoformat, hw', Option.some.injEq, Option.some.injEq] at hw
  rw [ho, hw]
  exact Datetime.not_lt.mp hle

/-- An admission keeps the high water at or after where it was, and at or after its own instant when it is made. -/
theorem admission_spec (ht : s.database.state.trustedTimeHighWater = t.isoformat) {n : Option Nat}
    {result : Except (Stop StoreError) AuthorityState} {s' : Store}
    (hrun : (admissionWitness env observed.isoformat).run s n = (result, s')) :
    Reached t s'.database ∧ ∀ state, result = .ok state → t ≤ observed ∧ Reached observed s'.database := by
  have hw : wp (admissionWitness env observed.isoformat) _ s :=
    wp_admissionWitness (J := Reached t) ⟨t, ht, Datetime.le_refl t⟩ fun db expired _ hdb hle =>
      ⟨observed, hdb, not_text_lt.mp (by rwa [hdb, ht] at hle)⟩
  have hreached := run_of_wp hw (fun _ _ h => h.1) n
  rw [hrun] at hreached
  refine ⟨hreached, ?_⟩
  rintro state rfl
  have hmade := run_of_ok hw (congrArg Prod.fst hrun)
  rw [hrun] at hmade
  obtain ⟨-, htimes, hstate⟩ := hmade
  refine ⟨checkTimes_spec ht htimes, ?_⟩
  rcases hstate with hdb | ⟨hdb, hle⟩
  · exact ⟨observed, hdb, Datetime.le_refl observed⟩
  · rw [ht] at hle
    exact ⟨t, by rw [hdb, ht], not_text_lt.mp hle⟩

theorem publish_spec (ht : s.database.state.trustedTimeHighWater = t.isoformat) {c p : String} {x : AuthorityState}
    {r : String} {u : Datetime} (hx : x.trustedTimeHighWater = u.isoformat) {n : Option Nat} {s' : Store}
    (hrun : ((publish env c p x r).run s n).2 = s') : Reached t s'.database := by
  have hs : Reached t s.database := ⟨t, ht, Datetime.le_refl t⟩
  have hw : wp (publish env c p x r) (post (fun _ s' => Reached t s'.database) fun s' => Reached t s'.database) s := by
    refine wp_publish (I := fun s' => Reached t s'.database) hs fun _ _ _ => ?_
    refine advance_of_database hs fun db hdb => ?_
    obtain ⟨rfl, -, -, hle⟩ := commitSuccessor_spec hdb
    rw [hx, ht] at hle
    exact ⟨u, hx, not_text_lt.mp hle⟩
  rw [← hrun]
  exact run_of_wp hw (fun _ _ h => h) n

/-! ## Runs -/

/-- The store moves to a later high water, and no admission is made. -/
theorem Ordered.reached {k : Clocked} {s' : Store} (ho : Ordered k t) (hs : Reached t s'.database) :
    ∃ u, t ≤ u ∧ Ordered ⟨s', k.admitted⟩ u := by
  obtain ⟨u, hu, htu⟩ := hs
  exact ⟨u, htu, hu, ho.admitted, fun a ha => Datetime.le_trans (ho.bounded a ha) htu⟩

/-- An admission is made. -/
theorem Ordered.admission {k : Clocked} {s' : Store} (ho : Ordered k t) (hto : t ≤ observed)
    (hs : Reached observed s'.database) : ∃ u, t ≤ u ∧ Ordered ⟨s', k.admitted ++ [observed]⟩ u := by
  obtain ⟨u, hu, hou⟩ := hs
  refine ⟨u, Datetime.le_trans hto hou, hu, List.pairwise_append.mpr ⟨ho.admitted, List.pairwise_singleton _ _, ?_⟩, ?_⟩
  · intro a ha b hb
    rw [List.mem_singleton.mp hb]
    exact Datetime.le_trans (ho.bounded a ha) hto
  · intro a ha
    rcases List.mem_append.mp ha with ha | ha
    · exact Datetime.le_trans (ho.bounded a ha) (Datetime.le_trans hto hou)
    · rw [List.mem_singleton.mp ha]
      exact hou

theorem Ordered.step {k k' : Clocked} {l : Call} (ho : Ordered k t) (hl : Canonical l) (hs : k.step env l = some k') :
    ∃ u, t ≤ u ∧ Ordered k' u := by
  cases l with
  | admission observed n =>
    obtain ⟨result, s', hrun⟩ : ∃ result s', (admissionWitness env observed.isoformat).run k.store n = (result, s') :=
      ⟨_, _, rfl⟩
    rw [Clocked.step, hrun, Option.some.injEq] at hs
    obtain ⟨hreached, hmade⟩ := admission_spec ho.text hrun
    rw [← hs]
    cases result with
    | error e =>
      rw [Clocked.made, List.append_nil]
      exact ho.reached hreached
    | ok state =>
      obtain ⟨hto, hs'⟩ := hmade state rfl
      exact ho.admission hto hs'
  | publish c p x r n =>
    obtain ⟨s', hrun⟩ : ∃ s', ((publish env c p x r).run k.store n).2 = s' := ⟨_, rfl⟩
    obtain ⟨u, hx⟩ := hl
    rw [Clocked.step, hrun, Option.some.injEq] at hs
    rw [← hs]
    exact ho.reached (publish_spec ho.text hx hrun)
  | recover n =>
    have hdb := recover_database env k.store n
    obtain ⟨s', hrun⟩ : ∃ s', ((recover env).run k.store n).2 = s' := ⟨_, rfl⟩
    rw [Clocked.step, hrun, Option.some.injEq] at hs
    rw [hrun] at hdb
    rw [← hs]
    exact ho.reached ⟨t, by rw [hdb]; exact ho.text, Datetime.le_refl t⟩

theorem Ordered.run {k k' : Clocked} {ls : List Call} (ho : Ordered k t) (hls : ∀ l ∈ ls, Canonical l)
    (hr : Trace.run (Clocked.step env) k ls = some k') : ∃ u, t ≤ u ∧ Ordered k' u := by
  refine Trace.run_invariant_along (fun k' => ∃ u, t ≤ u ∧ Ordered k' u) ?_ hr (Trace.along_of_mem hls k)
    ⟨t, Datetime.le_refl t, ho⟩
  rintro k₁ l k₂ hs hl ⟨u, htu, hu⟩
  obtain ⟨v, huv, hv⟩ := hu.step hl hs
  exact ⟨v, Datetime.le_trans htu huv, hv⟩

/-- Over every run from a store whose high water is the text of an instant, between any two of its states:
the high water is the text of an instant and does not go back, admissions are made at instants that do not
decrease, and texts compare as the instants they denote. -/
theorem trusted_time_never_runs_backwards {env : Environment} {s : Store} {t : Datetime} {calls calls' : List Call}
    {k k' : Clocked} (ht : s.database.state.trustedTimeHighWater = t.isoformat)
    (hcalls : ∀ l ∈ calls ++ calls', Canonical l) (hr : Trace.run (Clocked.step env) ⟨s, []⟩ calls = some k)
    (hr' : Trace.run (Clocked.step env) k calls' = some k') :
    (∃ u u' : Datetime, k.highWater = u.isoformat ∧ k'.highWater = u'.isoformat ∧ u ≤ u') ∧
      k'.admitted.Pairwise (· ≤ ·) ∧ ∀ a b : Datetime, Text.before a.isoformat b.isoformat = true ↔ a < b := by
  have h₀ : Ordered ⟨s, []⟩ t := ⟨ht, List.Pairwise.nil, fun _ h => absurd h List.not_mem_nil⟩
  obtain ⟨u, -, hu⟩ := h₀.run (fun l hl => hcalls l (List.mem_append_left _ hl)) hr
  obtain ⟨u', huu, hu'⟩ := hu.run (fun l hl => hcalls l (List.mem_append_right _ hl)) hr'
  refine ⟨⟨u, u', hu.text, hu'.text, huu⟩, hu'.admitted, fun a b => ?_⟩
  rw [Text.before_iff, Datetime.isoformat_lt_isoformat]

namespace Sample

def nine : Datetime := ⟨2026, 1, 5, 9, 0, 0, 0, by decide⟩

def justAfter : Datetime := ⟨2026, 1, 5, 9, 0, 0, 500000, by decide⟩

def store : Store := ⟨⟨first, []⟩, some first.stateDigest, none⟩

theorem admission_made : ((Clocked.step environment ⟨store, []⟩ (.admission justAfter none)).map Clocked.admitted) =
    some [justAfter] := by decide +kernel

end Sample

theorem trusted_time_never_runs_backwards_sample :
    ∃ k, Trace.run (Clocked.step Sample.environment) ⟨Sample.store, []⟩ [.admission Sample.justAfter none] = some k ∧
      k.admitted = [Sample.justAfter] ∧
      (∃ u u' : Datetime, k.highWater = u.isoformat ∧ k.highWater = u'.isoformat ∧ u ≤ u') ∧
      k.admitted.Pairwise (· ≤ ·) ∧ ∀ a b : Datetime, Text.before a.isoformat b.isoformat = true ↔ a < b := by
  obtain ⟨k, hk, hadmitted⟩ := Option.map_eq_some_iff.mp Sample.admission_made
  have hr : Trace.run (Clocked.step Sample.environment) ⟨Sample.store, []⟩ [.admission Sample.justAfter none] = some k :=
    Trace.run_cons.mpr ⟨k, hk, Trace.run_nil.mpr rfl⟩
  refine ⟨k, hr, hadmitted, trusted_time_never_runs_backwards (t := Sample.nine) (by decide +kernel) ?_ hr
    (Trace.run_nil.mpr rfl)⟩
  intro l hl
  rw [List.append_nil, List.mem_singleton] at hl
  rw [hl]
  trivial

end ATB.Proof.AuthorityStore
