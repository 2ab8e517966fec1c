import AutomatedTradingBot.Proof.Stage5.PostgresSerializable.Database

/-!
# At most one durable commit

* `body_wp`, `turn_wp`, `turns_wp`: what an attempt, and the whole loop, of one `execute`
  comes to, whatever the others do;
* `execute_at_most_once`: the whole system, in every interleaving.
-/

namespace ATB.Proof.PostgresSerializable

open ATB.Calls
open ATB.Stage5.PostgresSerializable

variable {ι : Type} [DecidableEq ι] {envelope : ι → Envelope} {α : Type} {t : ι} {f : Facts ι} {c : Nat} {l : Locals}
  {db : Database ι} {request : OperationRequest} {context : AttemptContext}

/-! ## The operation -/

/-- The transaction after a call that may have written. -/
def Written (t : ι) (f : Facts ι) (c : Nat) (d : Option DurableOutcome) (k : Call) (r : Except Error α) (db : Database ι) :
    Prop :=
  match r with
  | .ok _ => ∃ v, Holds t { f with usage := f.usage.after k, session := some (c, reading t d v) } db
  | .error _ => Holds t { f.close with usage := f.usage.after k } db

omit [DecidableEq ι] in
theorem Written.later {d : Option DurableOutcome} {k : Call} {r : Except Error α} {db db' : Database ι}
    (h : Written t f c d k r db) (hr : Rely t db db') : Written t f c d k r db' := by
  cases r with
  | ok a =>
    obtain ⟨v, hv⟩ := h
    exact ⟨v, hv.later hr⟩
  | error e => exact Holds.later h hr

theorem Holds.write {d v w : Option DurableOutcome} {k : Call} (h : Holds t f db) (hf : f.session = some (c, reading t d v))
    (hinv : Inv envelope db) (hm : Moves t db k (db.set c { db.transactions c with view := w })) (hk : ∀ j, k ≠ .commit j) :
    Holds t { f with usage := f.usage.after k, session := some (c, reading t d w) }
      ((db.set c { db.transactions c with view := w }).log t k) := by
  have hx := (h.session c _ hf).1
  refine (h.after hm hinv hk).enter ?_ rfl (by simp [reading])
  simp [Database.log, Database.set, hx, reading]

theorem verifyAttempt_wp {d v : Option DurableOutcome} (hdb : Holds t f db) (hf : f.session = some (c, reading t d v)) :
    (Backend.verifyAttempt c context).wp (discipline envelope) t
      (fun r l' db => l' = l ∧ Written t f c d (.verifyAttempt c context) r db) l db := by
  refine wp_call (Q := Written t f c d (.verifyAttempt c context)) (fun hq hr => hq.later hr) hdb (fits_of_uncounted rfl)
    (fun k hk => by cases hk) ?_
  intro db x r db' hinv hdb hserve
  have hmoves := serve_moves hserve
  cases x <;> simp only [Database.serve, reduceCtorEq, Option.some.injEq, Prod.mk.injEq, Option.ite_none_right_eq_some]
    at hserve
  · obtain ⟨rfl, rfl⟩ := hserve
    exact hdb.after hmoves hinv (by simp)
  · obtain ⟨-, rfl, rfl⟩ := hserve
    exact ⟨_, hdb.write hf hinv hmoves (by simp)⟩

theorem execute_wp {d v : Option DurableOutcome} {evidence : VerifiedAttemptEvidence} (hdb : Holds t f db)
    (hf : f.session = some (c, reading t d v)) (hexecutes : f.usage.executes < (envelope t).maxAttempts)
    (hproof : evidence.timeProofId ∉ f.usage.proofs) :
    (Backend.execute c context evidence).wp (discipline envelope) t
      (fun r l' db => l' = l ∧ Written t f c d (.execute c context evidence) r db) l db := by
  refine wp_call (Q := Written t f c d (.execute c context evidence)) (fun hq hr => hq.later hr) hdb (fun h => ?_)
    (fun k hk => by cases hk) ?_
  · exact ⟨h.connects, hexecutes, h.commits, List.nodup_cons.mpr ⟨hproof, h.proofs⟩⟩
  intro db x r db' hinv hdb hserve
  have hmoves := serve_moves hserve
  cases x <;> simp only [Database.serve, reduceCtorEq, Option.some.injEq, Prod.mk.injEq, Option.ite_none_right_eq_some]
    at hserve
  · obtain ⟨rfl, rfl⟩ := hserve
    exact hdb.after hmoves hinv (by simp)
  · obtain ⟨-, rfl, rfl⟩ := hserve
    exact ⟨_, hdb.write hf hinv hmoves (by simp)⟩

/-- What has been spent, and that every TimeProof used has been seen. -/
structure Spent (l : Locals) (u : Usage) (connects executes commits : Nat) : Prop where
  connects : u.connects ≤ connects
  executes : u.executes ≤ executes
  commits : u.commits ≤ commits
  nodup : u.proofs.Nodup
  seen : ∀ p ∈ u.proofs, p ∈ l.seenProofs

theorem validateEvidence_fresh {evidence : VerifiedAttemptEvidence} {seenProofs : List String}
    (h : validateEvidence evidence request context seenProofs = .ok ()) : evidence.timeProofId ∉ seenProofs := by
  simp only [validateEvidence] at h
  split at h
  · cases h
  split at h
  · cases h
  split at h
  · cases h
  · assumption

omit [DecidableEq ι] in
theorem Spent.mono {u : Usage} {a b m a' b' m' : Nat} (h : Spent l u a b m) (ha : a ≤ a') (hb : b ≤ b') (hm : m ≤ m') :
    Spent l u a' b' m' :=
  ⟨h.connects.trans ha, h.executes.trans hb, h.commits.trans hm, h.nodup, h.seen⟩

omit [DecidableEq ι] in
theorem Spent.execute {u : Usage} {a b m : Nat} {evidence : VerifiedAttemptEvidence} (h : Spent l u a b m)
    (hfresh : evidence.timeProofId ∉ l.seenProofs) (digest : String) (c : Nat) (context : AttemptContext) :
    Spent { l with seenProofs := evidence.timeProofId :: l.seenProofs, evidenceDigest := digest }
      (u.after (.execute c context evidence)) a (b + 1) m where
  connects := h.connects
  executes := Nat.succ_le_succ h.executes
  commits := h.commits
  nodup := List.nodup_cons.mpr ⟨fun hp => hfresh (h.seen _ hp), h.nodup⟩
  seen := by
    intro p hp
    rcases List.mem_cons.mp hp with rfl | hp
    · exact List.mem_cons_self ..
    · exact List.mem_cons_of_mem _ (h.seen p hp)

/-- No transaction of this `execute` has committed or can still commit. -/
abbrev quietFacts (u : Usage) : Facts ι := ⟨u, true, none, none⟩

/-- The same, with a transaction under way. -/
abbrev sessionFacts (u : Usage) (c : Nat) (x : Transaction ι) : Facts ι := ⟨u, true, none, some (c, x)⟩

/-- What the operation comes to: the transaction sees the outcome that is returned. -/
def Executed (t : ι) (c a b m : Nat) (l : Locals) (r : Except Error DurableOutcome) (l' : Locals) (db : Database ι) : Prop :=
  l'.attempts = l.attempts ∧ ∃ u, Spent l' u a b m ∧
    match r with
    | .ok o => Holds t (sessionFacts u c (reading t none (some o))) db
    | .error _ => Holds t (quietFacts u) db

theorem protectedOperation_wp {u : Usage} {a b m : Nat} {v : Option DurableOutcome}
    (hdb : Holds t (sessionFacts u c (reading t none v)) db) (hspent : Spent l u a b m)
    (hb : b < (envelope t).maxAttempts) :
    (protectedOperation request c context).wp (discipline envelope) t (Executed t c a (b + 1) m l) l db := by
  have hspent' := hspent.mono le_rfl (Nat.le_succ b) le_rfl
  refine Code.wp_bind (verifyAttempt_wp hdb rfl) ?_ ?_
  · rintro evidence l' db - ⟨rfl, v₁, hdb⟩
    refine Code.wp_get_bind ?_
    refine (does_check (R := fun r => r = validateEvidence evidence request context l'.seenProofs) rfl).andThen hdb ?_ ?_
    · intro _ db hvalid hdb
      have hfresh := validateEvidence_fresh hvalid.symm
      replace hdb : Holds t (sessionFacts u c (reading t none v₁)) db := hdb
      have hexecuted := hspent.execute hfresh evidence.verificationDigest c context
      refine Code.wp_modify_bind (Code.wp_modify_bind ?_)
      refine Code.wp_bind (execute_wp hdb rfl (hspent.executes.trans_lt hb) fun h => hfresh (hspent.seen _ h)) ?_ ?_
      · rintro outcome l₁ db - ⟨rfl, v₂, hdb⟩
        refine (does_check (R := fun _ => True) trivial).andThen hdb (fun _ db _ hdb => ?_) fun e db _ h =>
          ⟨rfl, _, hexecuted, h.base⟩
        refine (does_lookupChecked rfl).andThen hdb (fun durable db hdurable hdb => ?_) fun e db _ h =>
          ⟨rfl, _, hexecuted, h.base⟩
        obtain rfl := hdurable durable rfl
        split
        · next heq =>
          subst heq
          exact Code.wp_pure fun db' _ hr => ⟨rfl, _, hexecuted, hdb.later hr⟩
        · exact Code.wp_throw fun db' _ hr => ⟨rfl, _, hexecuted, (hdb.later hr).base⟩
      · rintro e l₁ db - ⟨rfl, h⟩
        exact ⟨rfl, _, hexecuted, h⟩
    · intro e db _ h
      exact ⟨rfl, u, hspent', h.base⟩
  · rintro e l' db - ⟨rfl, h⟩
    exact ⟨rfl, u, hspent', h⟩

/-! ## Commit -/

/-- What is known after `COMMIT`: the outcome is durable, or the transaction is aborted, or nothing. -/
def Committed (t : ι) (u : Usage) (o : DurableOutcome) (r : Except Error Unit) (db : Database ι) : Prop :=
  match r with
  | .ok _ => Holds t ⟨u, false, some o, none⟩ db
  | .error e => Holds t ⟨u, decide (e.sqlstate = some "40001"), none, none⟩ db

omit [DecidableEq ι] in
theorem Committed.later {u : Usage} {o : DurableOutcome} {r : Except Error Unit} {db db' : Database ι}
    (h : Committed t u o r db) (hr : Rely t db db') : Committed t u o r db' := by
  cases r <;> exact Holds.later h hr

theorem commit_wp {u : Usage} {o : DurableOutcome} (hdb : Holds t (sessionFacts u c (reading t none (some o))) db)
    (hu : u.commits < (envelope t).maxAttempts) :
    (commit c).wp (discipline envelope) t (fun r l' db => l' = l ∧ Committed t (u.after (.commit c)) o r db) l db := by
  refine wp_call (Q := Committed t (u.after (.commit c)) o) (fun hq hr => hq.later hr) hdb (fun h => ?_) ?_ ?_
  · exact ⟨h.connects, h.executes, hu, h.proofs⟩
  · rintro k hk
    cases hk
    exact ⟨_, rfl, rfl, rfl⟩
  intro db x r db' hinv hdb hserve
  have hx := (hdb.session c _ rfl).1
  have hmoves := serve_moves hserve
  have husage : usage ((db'.log t (.commit c)).history t) = u.after (.commit c) := by
    rw [log_history, if_pos rfl, usage_cons, hmoves.history, hdb.usage]
  cases x <;> simp only [Database.serve, reduceCtorEq, Option.some.injEq, Prod.mk.injEq, Option.ite_none_right_eq_some,
    Option.map_eq_some_iff] at hserve
  · obtain ⟨-, rfl, rfl⟩ := hserve
    refine ⟨husage, by simp, ?_, by simp⟩
    rintro o' ho'
    cases ho'
    simp [Database.log, Database.land, hx, reading]
  · next e fate =>
    obtain ⟨⟨-, hfate⟩, db₁, hsettle, rfl, rfl⟩ := hserve
    refine ⟨husage, fun hq k hk => ?_, by simp, by simp⟩
    obtain rfl := hfate (of_decide_eq_true hq)
    cases hsettle
    rw [log_history, if_pos rfl, List.mem_cons] at hk
    rcases hk with hk | hk
    · cases hk
      simp [Database.log, Database.set, hx, reading]
    · obtain ⟨howner, hstatus⟩ := hdb.quiet rfl k hk
      have hover := hmoves.over hinv howner (by simp [hstatus]) (by simp [hstatus])
      exact ⟨hover ▸ howner, hover ▸ hstatus⟩

/-- What has been read back is durable. -/
def Recovered (t : ι) (u : Usage) (r : Except Error (Option DurableOutcome × Bool)) (db : Database ι) : Prop :=
  match r with
  | .ok (o, _) => Holds t ⟨u, false, o, none⟩ db
  | .error _ => Holds t ⟨u, false, none, none⟩ db

/-- An exception of `_readback` is taken for no outcome. -/
theorem recovered_none {u : Usage} {Q : Except Error (Option DurableOutcome × Bool) → Locals → Database ι → Prop}
    (hQ : ∀ r db, Returns r → Recovered t u r db → Q r l db) (hdb : Holds t ⟨u, false, none, none⟩ db) :
    (pure (none, false) : M (Option DurableOutcome × Bool)).wp (discipline envelope) t Q l db :=
  Code.wp_pure fun db' _ hr => hQ _ db' (returns_ok _) (hdb.later hr)

theorem readback_wp {u : Usage} {deadline : Int} {attempt : Nat} {key : String} (hdb : Holds t ⟨u, false, none, none⟩ db)
    (hu : u.connects ≤ (envelope t).maxAttempts) :
    (readback request deadline attempt key).wp (discipline envelope) t
      (fun r l' db => l' = l ∧ Returns r ∧ Recovered t (u.after .connectionFactory) r db) l db := by
  refine Code.wp_tryCatch (M := fun r l' db => l' = l ∧ Recovered t (u.after .connectionFactory) r db) ?_ ?_ ?_
  · refine Code.wp_bind (connectionFactory_wp hdb hu) ?_ ?_
    · rintro c l' db - ⟨rfl, hdb⟩
      refine Code.wp_tryCatch (M := fun r l'' db => l'' = l' ∧ Recovered t (u.after .connectionFactory) r db) ?_ ?_ ?_
      · refine Code.wp_bind (begin_wp hdb rfl) ?_ fun e l'' db _ h => h
        rintro id l'' db - ⟨rfl, d, hdb⟩
        refine (does_lookupChecked rfl).andThen hdb (fun o db ho hdb => ?_) fun e db _ h => ⟨rfl, h.base⟩
        obtain rfl := ho o rfl
        refine (does_cleanup (f := ⟨u.after .connectionFactory, false, o, none⟩) rfl c true).andThen hdb.close
          (fun clean db _ hdb => Code.wp_pure fun db' _ hr => ⟨rfl, hdb.later hr⟩) fun e db h _ => h.elim
      · exact fun a l'' db _ h => h
      · rintro e l'' db - ⟨rfl, hdb⟩
        refine (does_cleanup (f := ⟨u.after .connectionFactory, false, none, none⟩) rfl c true).andThen hdb
          (fun clean db _ hdb => recovered_none (fun r db _ h => ⟨rfl, h⟩) hdb) fun e db h _ => h.elim
    · exact fun e l' db _ h => h
  · rintro a l' db - ⟨rfl, h⟩
    exact ⟨rfl, returns_ok a, h⟩
  · rintro e l' db - ⟨rfl, hdb⟩
    exact recovered_none (fun r db hr h => ⟨rfl, hr, h⟩) hdb

/-! ## Attempts -/

/-- Every transaction that was to commit is aborted. -/
def Quiet (t : ι) (db : Database ι) : Prop :=
  ∀ c, .commit c ∈ db.history t → (db.transactions c).owner = some t ∧ (db.transactions c).status = .aborted

omit [DecidableEq ι] in
theorem Holds.toQuiet {u : Usage} (h : Holds t (quietFacts u) db) : Quiet t db := h.quiet rfl

/-- The result is the durable outcome, or it is unknown; and it is no other unknown than that of a
commit when a transaction of this `execute` has committed or may still commit. -/
def Reported (t : ι) (r : EnvelopeResult) (db : Database ι) : Prop :=
  db.durable = some r.outcome ∨
    r.outcome.status = .restrictiveUnknown ∧ (r.outcome.resultCode = "COMMIT_OUTCOME_UNKNOWN" ∨ Quiet t db)

/-- How a turn of the loop with this attempt can end, of `n` attempts. -/
def Ended (t : ι) (n attempt : Nat) (E : Error → Locals → Database ι → Prop) (r : Except Error Flow) (l : Locals)
    (db : Database ι) : Prop :=
  match r with
  | .ok (.result r) => Reported t r db ∧ r.attempts.length ≤ n
  | .ok .next =>
    attempt < n ∧ l.attempts.length ≤ attempt ∧ ∃ u, Spent l u attempt attempt attempt ∧ Holds t (quietFacts u) db
  | .ok .stop => l.attempts.length ≤ n ∧ Quiet t db
  | .error e => E e l db

/-- How the body of `try` can raise: a record of this attempt has been made only before the pause,
where the deadline may have passed. -/
def Raised (t : ι) (n attempt : Nat) (e : Error) (l : Locals) (db : Database ι) : Prop :=
  (∃ u, Spent l u attempt attempt attempt ∧ Holds t (quietFacts u) db) ∧
    (l.attempts.length < attempt ∨
      l.attempts.length ≤ attempt ∧ attempt < n ∧ ∃ message, e = .deadlineExhausted message)

theorem release_wp {rolled : Bool} (hdb : Holds t f db) (hf : f.session = none) :
    (release c rolled).wp (discipline envelope) t
      (fun r l' db => Returns r ∧ l' = { l with connection := none } ∧ Holds t f db) l db :=
  (does_cleanup hf c rolled).andThen hdb
    (fun clean _ _ hdb => Code.wp_modify_bind (Code.wp_pure fun _ _ hr => ⟨returns_ok clean, rfl, hdb.later hr⟩))
    fun _ _ h _ => h.elim

theorem giveUp_wp {code : String} {unresolved : Bool} {n attempt : Nat} {E : Error → Locals → Database ι → Prop}
    (h : (discipline envelope).Later t (fun db => code = "COMMIT_OUTCOME_UNKNOWN" ∨ Quiet t db) db)
    (hl : l.attempts.length ≤ n) :
    (giveUp request code unresolved).wp (discipline envelope) t (Ended t n attempt E) l db :=
  Code.wp_get_bind (Code.wp_pure fun db' hinv hr => ⟨.inr ⟨rfl, h db' hinv hr⟩, hl⟩)

theorem finish_wp {o : DurableOutcome} {clean : Bool} {n attempt : Nat} {E : Error → Locals → Database ι → Prop}
    (h : (discipline envelope).Later t (fun db => db.durable = some o) db) (hl : l.attempts.length ≤ n) :
    (finish o clean).wp (discipline envelope) t (Ended t n attempt E) l db :=
  Code.wp_get_bind (Code.wp_pure fun db' hinv hr => ⟨.inl (h db' hinv hr), hl⟩)

/-- A record more. -/
theorem record_wp {attempt : Nat} {key disposition : String} {g : Unit → M α}
    {Q : Except Error α → Locals → Database ι → Prop}
    (h : ∀ l', l'.attempts.length = l.attempts.length + 1 → l'.seenProofs = l.seenProofs →
      (g ()).wp (discipline envelope) t Q l' db) :
    (record request attempt key disposition >>= g).wp (discipline envelope) t Q l db :=
  Code.wp_modify_bind (h _ (by simp) rfl)

omit [DecidableEq ι] in
theorem Spent.seen_eq {l' : Locals} {u : Usage} {a b m : Nat} (h : Spent l u a b m) (hl : l'.seenProofs = l.seenProofs) :
    Spent l' u a b m := ⟨h.connects, h.executes, h.commits, h.nodup, hl ▸ h.seen⟩

theorem commitFailed_aborted_wp {u : Usage} {k : Nat} {deadline : Int} {key : String} {e : Error}
    (he : e.sqlstate = some "40001") (hdb : Holds t (quietFacts u) db) (hspent : Spent l u (k + 1) (k + 1) (k + 1))
    (hl : l.attempts.length ≤ k) (hk : k < (envelope t).maxAttempts) :
    (commitFailed (envelope t) request deadline key (k + 1) c e).wp (discipline envelope) t
      (Ended t (envelope t).maxAttempts (k + 1) (Raised t (envelope t).maxAttempts (k + 1))) l db := by
  rw [commitFailed, if_pos he]
  refine Code.wp_bind (release_wp hdb rfl) ?_ fun e l' db _ h => h.1.elim
  rintro clean l₁ db - ⟨-, rfl, hdb⟩
  refine record_wp fun l' hl' hseen => ?_
  have hlength : l'.attempts.length ≤ k + 1 := hl' ▸ Nat.succ_le_succ hl
  have hspent' : Spent l' u (k + 1) (k + 1) (k + 1) := hspent.seen_eq hseen
  split
  · exact giveUp_wp (fun db' _ hr => .inr (hdb.later hr).toQuiet) (hlength.trans hk)
  split
  · exact Code.wp_pure fun db' _ hr => ⟨hlength.trans hk, (hdb.later hr).toQuiet⟩
  · next hlast =>
    have hlt : k + 1 < (envelope t).maxAttempts := lt_of_le_of_ne hk hlast
    refine (does_backoff (envelope t) deadline (k + 1)).andThen hdb (fun _ db _ hdb => ?_) fun e db hr h => ?_
    · exact Code.wp_pure fun db' _ hr => ⟨hlt, hlength, u, hspent', hdb.later hr⟩
    · exact ⟨⟨u, hspent', h⟩, .inr ⟨hlength, hlt, hr e rfl⟩⟩

theorem commitFailed_unknown_wp {u : Usage} {k : Nat} {deadline : Int} {key : String} {e : Error}
    (he : e.sqlstate ≠ some "40001") (hdb : Holds t ⟨u, false, none, none⟩ db) (hu : u.connects ≤ k + 1)
    (hl : l.attempts.length ≤ k) (hk : k < (envelope t).maxAttempts) {E : Error → Locals → Database ι → Prop} :
    (commitFailed (envelope t) request deadline key (k + 1) c e).wp (discipline envelope) t
      (Ended t (envelope t).maxAttempts (k + 1) E) l db := by
  have hlength : l.attempts.length + 1 ≤ (envelope t).maxAttempts := (Nat.succ_le_succ hl).trans hk
  rw [commitFailed, if_neg he]
  refine Code.wp_bind (release_wp hdb rfl) ?_ fun e l' db _ h => h.1.elim
  rintro released l₁ db - ⟨-, rfl, hdb⟩
  split
  · refine record_wp fun l' hl' _ => ?_
    exact giveUp_wp (fun _ _ _ => .inl rfl) (hl' ▸ hlength)
  · refine Code.wp_bind (readback_wp hdb (hu.trans hk)) ?_ fun e l' db _ h => h.2.1.elim
    rintro ⟨recovered, clean⟩ l₁ db - ⟨rfl, -, hdb⟩
    cases recovered with
    | none =>
      refine record_wp fun l' hl' _ => ?_
      exact giveUp_wp (fun _ _ _ => .inl rfl) (hl' ▸ hlength)
    | some o =>
      refine record_wp fun l' hl' _ => ?_
      exact finish_wp (fun db' _ hr => (Holds.later hdb hr).known o rfl) (hl' ▸ hlength)

/-- The commit of a transaction that is ready, and what follows it. -/
theorem commit_result_wp {u : Usage} {k : Nat} {deadline : Int} {key : String} {o : DurableOutcome}
    (hdb : Holds t (sessionFacts u c (reading t none (some o))) db) (hspent : Spent l u (k + 1) (k + 1) k)
    (hl : l.attempts.length ≤ k) (hk : k < (envelope t).maxAttempts) :
    (do
      let error ← tryCatch (commit c >>= fun _ => pure none) fun e => pure (some e)
      match error with
      | some error => commitFailed (envelope t) request deadline key (k + 1) c error
      | none => do
        let clean ← release c false
        record request (k + 1) key (if clean then "COMMITTED" else "COMMITTED_CLEANUP_UNRESOLVED")
        finish o clean : M Flow).wp (discipline envelope) t
      (Ended t (envelope t).maxAttempts (k + 1) (Raised t (envelope t).maxAttempts (k + 1))) l db := by
  have hcommitted : Spent l (u.after (.commit c)) (k + 1) (k + 1) (k + 1) :=
    ⟨hspent.connects, hspent.executes, Nat.succ_le_succ hspent.commits, hspent.nodup, hspent.seen⟩
  refine Code.wp_bind
    (M := fun r l' db => l' = l ∧ ∃ error, r = .ok error ∧
      Committed t (u.after (.commit c)) o (error.elim (.ok ()) .error) db) ?_ ?_ ?_
  · refine Code.wp_tryCatch
      (M := fun r l' db => l' = l ∧ Committed t (u.after (.commit c)) o (r.map fun _ => ()) db ∧
        ∀ a, r = .ok a → a = none) ?_ ?_ ?_
    · refine Code.wp_bind (commit_wp hdb (hspent.commits.trans_lt hk)) ?_ ?_
      · rintro _ l' db - ⟨rfl, h⟩
        exact Code.wp_pure fun db' _ hr => ⟨rfl, Committed.later h hr, fun a ha => (Except.ok.inj ha).symm⟩
      · rintro e l' db - ⟨rfl, h⟩
        exact ⟨rfl, h, fun a ha => by cases ha⟩
    · rintro a l' db - ⟨rfl, h, ha⟩
      obtain rfl := ha a rfl
      exact ⟨rfl, none, rfl, h⟩
    · rintro e l' db - ⟨rfl, h, -⟩
      exact Code.wp_pure fun db' _ hr => ⟨rfl, some e, rfl, Committed.later h hr⟩
  · rintro error l' db - ⟨rfl, error', he, h⟩
    cases he
    cases error with
    | some e =>
      by_cases he : e.sqlstate = some "40001"
      · have hquiet : Holds t (quietFacts (u.after (.commit c))) db := by
          simpa [Committed, he] using h
        exact commitFailed_aborted_wp he hquiet hcommitted hl hk
      · have hunknown : Holds t ⟨u.after (.commit c), false, none, none⟩ db := by
          simpa [Committed, he] using h
        exact commitFailed_unknown_wp he hunknown hcommitted.connects hl hk
    | none =>
      refine Code.wp_bind (release_wp (f := ⟨u.after (.commit c), false, some o, none⟩) h rfl) ?_ fun e l' db _ h => h.1.elim
      rintro clean l₁ db - ⟨-, rfl, hdb⟩
      refine record_wp fun l' hl' _ => ?_
      exact finish_wp (fun db' _ hr => (hdb.later hr).known o rfl) (hl' ▸ (Nat.succ_le_succ hl).trans hk)
  · rintro e l' db - ⟨-, error, he, -⟩
    cases he

theorem body_wp {u : Usage} {k : Nat} {deadline : Int} {key : String} (hdb : Holds t (quietFacts u) db)
    (hspent : Spent l u k k k) (hl : l.attempts.length ≤ k) (hk : k < (envelope t).maxAttempts) :
    (body (envelope t) request deadline key (k + 1)).wp (discipline envelope) t
      (Ended t (envelope t).maxAttempts (k + 1) (Raised t (envelope t).maxAttempts (k + 1))) l db := by
  have hlength : l.attempts.length + 1 ≤ (envelope t).maxAttempts := (Nat.succ_le_succ hl).trans hk
  have hraise : ∀ {e : Error} {l' : Locals} {u' : Usage} {db : Database ι}, l'.attempts = l.attempts →
      Spent l' u' (k + 1) (k + 1) k → Holds t (quietFacts u') db → Raised t (envelope t).maxAttempts (k + 1) e l' db :=
    fun h hs hdb => ⟨⟨_, hs.mono le_rfl le_rfl (Nat.le_succ k), hdb⟩, .inl (h ▸ Nat.lt_succ_of_le hl)⟩
  have hconnected : Spent l (u.after .connectionFactory) (k + 1) k k :=
    ⟨Nat.succ_le_succ hspent.connects, hspent.executes, hspent.commits, hspent.nodup, hspent.seen⟩
  have hconnected' := hconnected.mono le_rfl (Nat.le_succ k) le_rfl
  refine (does_ensure deadline).andThen hdb (fun _ db _ hdb => ?_) fun e db _ h =>
    hraise rfl (hspent.mono (Nat.le_succ k) (Nat.le_succ k) le_rfl) h
  refine Code.wp_bind (connectionFactory_wp hdb (hspent.connects.trans hk.le)) ?_ ?_
  · rintro c l₁ db - ⟨rfl, hdb⟩
    refine Code.wp_modify_bind ?_
    refine Code.wp_bind (begin_wp hdb rfl) ?_ ?_
    · rintro id l₁ db - ⟨rfl, d, hdb⟩
      refine Code.wp_modify_bind ?_
      refine (does_lookupChecked rfl).andThen hdb (fun existing db ho hdb => ?_) fun e db _ h =>
        hraise rfl (hconnected'.seen_eq rfl) h.base
      obtain rfl := ho existing rfl
      cases existing with
      | some o =>
        refine Code.wp_bind (release_wp (f := ⟨u.after .connectionFactory, true, some o, none⟩) hdb.close rfl) ?_
          fun e l' db _ h => h.1.elim
        rintro clean l₁ db - ⟨-, rfl, hdb⟩
        refine record_wp fun l' hl' _ => ?_
        exact finish_wp (fun db' _ hr => (hdb.later hr).known o rfl) (hl' ▸ hlength)
      | none =>
        refine Code.wp_bind (protectedOperation_wp hdb (hconnected.seen_eq rfl) hk) ?_ ?_
        · rintro o l' db - ⟨hattempts, u', hspent', hdb⟩
          exact commit_result_wp hdb hspent' (hattempts ▸ hl) hk
        · rintro e l' db - ⟨hattempts, u', hspent', hdb⟩
          exact hraise hattempts hspent' hdb
    · rintro e l₁ db - ⟨rfl, h⟩
      exact hraise rfl (hconnected'.seen_eq rfl) h
  · rintro e l₁ db - ⟨rfl, h⟩
    exact hraise rfl hconnected' h

/-! ## The loop -/

theorem abandon_wp {u : Usage} (hdb : Holds t (quietFacts u) db) :
    abandon.wp (discipline envelope) t
      (fun r l' db => Returns r ∧ l'.attempts = l.attempts ∧ l'.seenProofs = l.seenProofs ∧ Holds t (quietFacts u) db) l
      db := by
  refine Code.wp_get_bind ?_
  split
  · exact Code.wp_pure fun db' _ hr => ⟨returns_ok _, rfl, rfl, hdb.later hr⟩
  · refine Code.wp_mono (release_wp hdb rfl) ?_
    rintro r l' db - ⟨hr, rfl, hdb⟩
    exact ⟨hr, rfl, rfl, hdb⟩

theorem deadlineClause_wp {u : Usage} {n attempt : Nat} {key : String} {E : Error → Locals → Database ι → Prop}
    (hdb : Holds t (quietFacts u) db) (hl : l.attempts.length < n) :
    (deadlineClause request key attempt).wp (discipline envelope) t (Ended t n attempt E) l db := by
  refine Code.wp_bind (abandon_wp hdb) ?_ fun e l' db _ h => h.1.elim
  rintro clean l₁ db - ⟨-, hattempts, -, hdb⟩
  refine record_wp fun l' hl' _ => ?_
  refine giveUp_wp (fun db' _ hr => .inr (hdb.later hr).toQuiet) ?_
  rw [hl', hattempts]
  exact hl

theorem exceptionClause_wp {u : Usage} {k : Nat} {deadline : Int} {key : String} {e : Error}
    (hdb : Holds t (quietFacts u) db) (hspent : Spent l u (k + 1) (k + 1) (k + 1)) (hl : l.attempts.length ≤ k)
    (hk : k < (envelope t).maxAttempts) :
    (exceptionClause (envelope t) request deadline key (k + 1) e).wp (discipline envelope) t
      (Ended t (envelope t).maxAttempts (k + 1) fun _ _ db => Quiet t db) l db := by
  refine Code.wp_bind (abandon_wp hdb) ?_ fun e l' db _ h => h.1.elim
  rintro clean l₁ db - ⟨-, hattempts, hseen₁, hdb⟩
  split
  · refine record_wp fun l' hl' hseen => ?_
    have hlength : l'.attempts.length ≤ k + 1 := by
      rw [hl', hattempts]
      exact Nat.succ_le_succ hl
    have hspent' : Spent l' u (k + 1) (k + 1) (k + 1) := hspent.seen_eq (hseen.trans hseen₁)
    split
    · exact giveUp_wp (fun db' _ hr => .inr (hdb.later hr).toQuiet) (hlength.trans hk)
    split
    · exact Code.wp_pure fun db' _ hr => ⟨hlength.trans hk, (hdb.later hr).toQuiet⟩
    · next hlast =>
      have hlt : k + 1 < (envelope t).maxAttempts := lt_of_le_of_ne hk hlast
      refine Code.wp_tryCatch
        (M := fun r l₂ db => l₂ = l' ∧ Holds t (quietFacts u) db ∧ Timed r ∧ ∀ a, r = .ok a → a = .next) ?_ ?_ ?_
      · refine (does_backoff (envelope t) deadline (k + 1)).andThen hdb (fun _ db _ hdb => ?_) fun e db hr h => ?_
        · exact Code.wp_pure fun db' _ hr =>
            ⟨rfl, hdb.later hr, timed_ok _, fun a ha => (Except.ok.inj ha).symm⟩
        · exact ⟨rfl, h, hr.pass, fun a ha => by cases ha⟩
      · rintro a l₂ db - ⟨rfl, hdb, -, ha⟩
        obtain rfl := ha a rfl
        exact ⟨hlt, hlength, u, hspent', hdb⟩
      · rintro e l₂ db - ⟨rfl, hdb, he, -⟩
        obtain ⟨message, rfl⟩ := he e rfl
        exact giveUp_wp (fun db' _ hr => .inr (hdb.later hr).toQuiet) (hlength.trans hk)
  · exact Code.wp_throw fun db' _ hr => (hdb.later hr).toQuiet

theorem turn_wp {u : Usage} {k : Nat} {deadline : Int} {key : String} (hdb : Holds t (quietFacts u) db)
    (hspent : Spent l u k k k) (hl : l.attempts.length ≤ k) (hk : k < (envelope t).maxAttempts) :
    (turn (envelope t) request deadline key (k + 1)).wp (discipline envelope) t
      (Ended t (envelope t).maxAttempts (k + 1) fun _ _ db => Quiet t db) l db := by
  refine Code.wp_modify_bind (Code.wp_tryCatch (body_wp hdb (hspent.seen_eq rfl) hl hk) ?_ ?_)
  · intro flow l' db _ h
    cases flow <;> exact h
  · rintro e l' db - ⟨⟨u', hspent', hdb⟩, hl'⟩
    have hdeadline : l'.attempts.length < (envelope t).maxAttempts := by omega
    split
    · exact deadlineClause_wp hdb hdeadline
    · next hne =>
      refine exceptionClause_wp hdb hspent' ?_ hk
      rcases hl' with hl' | ⟨-, -, message, rfl⟩
      · exact Nat.le_of_lt_succ hl'
      · exact absurd rfl (hne message)

/-- What one `execute` reports. -/
def Answered (t : ι) (n : Nat) (r : Except Error EnvelopeResult) (db : Database ι) : Prop :=
  match r with
  | .ok r => Reported t r db ∧ r.attempts.length ≤ n
  | .error _ => Quiet t db

theorem exhausted_wp {n : Nat} (hdb : (discipline envelope).Later t (Quiet t) db) (hl : l.attempts.length ≤ n) :
    (unknown request "SERIALIZATION_RETRY_EXHAUSTED" false).wp (discipline envelope) t (fun r _ db => Answered t n r db) l
      db :=
  Code.wp_get_bind (Code.wp_pure fun db' hinv hr => ⟨.inr ⟨rfl, .inr (hdb db' hinv hr)⟩, hl⟩)

omit [DecidableEq ι] in
theorem Quiet.later {db db' : Database ι} (h : Quiet t db) (hr : Rely t db db') : Quiet t db' := by
  intro c hc
  rw [hr.history] at hc
  obtain ⟨howner, hstatus⟩ := h c hc
  rw [hr.transactions c howner (by simp [hstatus])]
  exact ⟨howner, hstatus⟩

omit [DecidableEq ι] in
theorem Reported.later {r : EnvelopeResult} {db db' : Database ι} (h : Reported t r db) (hr : Rely t db db') :
    Reported t r db' :=
  h.imp (hr.durable _) fun h => ⟨h.1, h.2.imp id fun hq => hq.later hr⟩

/-- By induction on the attempts that are left. -/
theorem turns_wp {u : Usage} {k remaining : Nat} {deadline : Int} {key : String} (hdb : Holds t (quietFacts u) db)
    (hspent : Spent l u k k k) (hl : l.attempts.length ≤ k) (hk : k + remaining = (envelope t).maxAttempts) :
    (turns (envelope t) request deadline key remaining (k + 1)).wp (discipline envelope) t
      (fun r _ db => Answered t (envelope t).maxAttempts r db) l db := by
  induction remaining generalizing k l u db with
  | zero => exact exhausted_wp (fun db' _ hr => (hdb.later hr).toQuiet) (hl.trans (by omega))
  | succ remaining ih =>
    refine Code.wp_bind (turn_wp hdb hspent hl (by omega)) ?_ fun e l' db _ h => h
    rintro flow l' db - h
    cases flow with
    | result r => exact Code.wp_pure fun db' _ hr => ⟨h.1.later hr, h.2⟩
    | next =>
      obtain ⟨hlt, hl', u', hspent', hdb'⟩ := h
      exact ih hdb' hspent' hl' (by omega)
    | stop => exact exhausted_wp (fun db' _ hr => h.2.later hr) h.1

theorem execute_answers (hdb : Holds t (quietFacts ⟨0, 0, 0, []⟩) db) :
    (execute (envelope t) request).wp (discipline envelope) t
      (fun r _ db => Answered t (envelope t).maxAttempts r db) .fresh db := by
  refine does_clockNs.andThen hdb (fun now db _ hdb => ?_) fun e db _ h => h.toQuiet
  refine (does_check (R := fun _ => True) trivial).andThen hdb (fun key db _ hdb => ?_) fun e db _ h => h.toQuiet
  exact turns_wp hdb ⟨le_rfl, le_rfl, le_rfl, .nil, by simp⟩ le_rfl (Nat.zero_add _)

/-! ## Every interleaving -/

/-- Over any number of calls of `execute` with one request, in every interleaving: the operation takes
effect at most once; a committed or denied result is the durable outcome; a call one of whose
transactions has committed or may still commit returns the durable outcome or that it is unknown; and
each call makes a bounded number of attempts, with a TimeProof of its own for each. -/
theorem execute_at_most_once (request : OperationRequest) (envelope : ι → Envelope) (durable : Option DurableOutcome)
    (labels : List (Label ι Choice (Nat × Bool)))
    (s : State ι (Database ι) Call Reply (Except Error EnvelopeResult × Locals))
    (h : Trace.run Database.system.step (start request envelope durable) labels = some s) :
    s.shared.commits.length ≤ 1 ∧
    (∀ t r l, s.programs t = .ret (.ok r, l) → r.outcome.status = .committed ∨ r.outcome.status = .denied →
      s.shared.durable = some r.outcome) ∧
    (∀ t c r l, s.programs t = .ret (r, l) → .commit c ∈ s.shared.history t →
      (s.shared.transactions c).status = .committed ∨ (s.shared.transactions c).status = .inFlight →
      ∃ r', r = .ok r' ∧ (s.shared.durable = some r'.outcome ∨
        r'.outcome.status = .restrictiveUnknown ∧ r'.outcome.resultCode = "COMMIT_OUTCOME_UNKNOWN")) ∧
    (∀ t, (s.shared.history t).countP Call.isConnect ≤ (envelope t).maxAttempts + 1 ∧
      (s.shared.history t).countP Call.isExecute ≤ (envelope t).maxAttempts ∧
      (s.shared.history t).countP Call.isCommit ≤ (envelope t).maxAttempts) ∧
    (∀ t r l, s.programs t = .ret (.ok r, l) → r.attempts.length ≤ (envelope t).maxAttempts) ∧
    ∀ t, ((s.shared.history t).filterMap Call.proof).Nodup := by
  have hinit : Inv envelope (Database.fresh durable : Database ι) :=
    ⟨Nat.zero_le _, fun h => absurd rfl h, fun _ h => (by cases h), fun _ _ => rfl,
      fun t => ⟨Nat.zero_le _, Nat.zero_le _, Nat.zero_le _, .nil⟩⟩
  have hholds : ∀ t, Holds t (quietFacts ⟨0, 0, 0, []⟩) (Database.fresh durable : Database ι) := fun t =>
    ⟨rfl, fun _ _ h => (by cases h), fun _ h => (by cases h), fun _ _ h => (by cases h)⟩
  have hstart : ∀ t, ((start request envelope durable).programs t).wp (discipline envelope) t
      (fun r db => Answered t (envelope t).maxAttempts r.1 db) (start request envelope durable).shared :=
    fun t => execute_answers (hholds t)
  obtain ⟨hinv, hprograms⟩ := System.run_wp h hinit hstart
  have hdone : ∀ t r l, s.programs t = .ret (r, l) → Answered t (envelope t).maxAttempts r s.shared := by
    intro t r l hr
    have hp := hprograms t
    rw [hr] at hp
    exact Discipline.Later.now hp hinv
  refine ⟨hinv.once, fun t r l hr hs => ?_, fun t c r l hr hc hs => ?_, fun t => ?_, fun t r l hr => (hdone t _ l hr).2,
    fun t => (hinv.fits t).proofs⟩
  · rcases (hdone t _ l hr).1 with hd | ⟨hunknown, -⟩
    · exact hd
    · rw [hunknown] at hs
      rcases hs with hs | hs <;> cases hs
  · have hloud : ¬ Quiet t s.shared := by
      intro hq
      rw [(hq c hc).2] at hs
      rcases hs with hs | hs <;> cases hs
    cases r with
    | ok r =>
      refine ⟨r, rfl, ?_⟩
      rcases (hdone t _ l hr).1 with hd | ⟨hunknown, hcode | hq⟩
      · exact .inl hd
      · exact .inr ⟨hunknown, hcode⟩
      · exact absurd hq hloud
    | error e => exact absurd (hdone t _ l hr) hloud
  · exact ⟨(hinv.fits t).connects, (hinv.fits t).executes, (hinv.fits t).commits⟩

/-! ## Samples -/

def sampleRequest : OperationRequest := ⟨"OP-1", "PORTFOLIO:P1", 7, 11, [("g00_ticket_id", .str "G00-1")], "digest"⟩

def sampleEnvelope : Envelope := ⟨1, 5000, [5], by decide, by decide, by decide⟩

def sampleOutcome : DurableOutcome := ⟨"OP-1", "digest", .committed, "RESERVED", 5000, 5000⟩

def sampleEvidence : VerifiedAttemptEvidence :=
  ⟨"OP-1", "digest", 1, "100", "200", "PORTFOLIO:P1", 7, 11, "I01", "TP-1", "VERIFY-1"⟩

/-- A connection with a transaction that has looked for the outcome. -/
def sampleLookup : List Choice :=
  [.returns, .clock 0, .returns, .returns, .returns, .clock 0, .returns, .returns, .returns,
    .row (some ["serializable", "100", "200"]), .returns]

/-- An attempt up to `COMMIT`. -/
def sampleAttempt : List Choice :=
  ([.clock 0, .clock 0] : List Choice) ++ sampleLookup ++
    ([.verified sampleEvidence none, .executed sampleOutcome (some sampleOutcome), .returns] : List Choice)

def callsOf (t : Bool) (choices : List Choice) : List (Label Bool Choice (Nat × Bool)) := choices.map (.call t)

/-- A commit that takes effect, whose acknowledgement is lost. -/
def lostAcknowledgement : List (Label Bool Choice (Nat × Bool)) :=
  callsOf false
    (sampleAttempt ++ ([.commitRaises (.raised none) .landed, .flag true] : List Choice) ++ sampleLookup ++
      ([.flag true, .flag true] : List Choice))

/-- A commit that fails, and another `execute` under the same TimeProof. -/
def sameTimeProof : List (Label Bool Choice (Nat × Bool)) :=
  callsOf false
      (sampleAttempt ++ ([.commitRaises (.raised (some "40001")) .aborted, .flag true, .flag true] : List Choice)) ++
    callsOf true (sampleAttempt ++ ([.returns, .flag true] : List Choice))

def outcomeOf : Program Call Reply (Except Error EnvelopeResult × Locals) → Option DurableOutcome
  | .ret (.ok r, _) => some r.outcome
  | _ => none

theorem execute_at_most_once_lost_acknowledgement :
    ∃ s, Trace.run Database.system.step (start sampleRequest (fun _ => sampleEnvelope) none) lostAcknowledgement = some s ∧
      outcomeOf (s.programs false) = some sampleOutcome ∧ s.shared.commits.length ≤ 1 := by
  have h : (Trace.run Database.system.step (start sampleRequest (fun _ => sampleEnvelope) none) lostAcknowledgement).map
      (fun s => outcomeOf (s.programs false)) = some (some sampleOutcome) := by decide +kernel
  obtain ⟨s, hs, ho⟩ := Option.map_eq_some_iff.mp h
  exact ⟨s, hs, ho, (execute_at_most_once sampleRequest (fun _ => sampleEnvelope) none lostAcknowledgement s hs).1⟩

/-- The TimeProofs that have been seen are forgotten when `execute` returns. -/
theorem timeProof_used_by_two_attempts :
    ∃ s, Trace.run Database.system.step (start sampleRequest (fun _ => sampleEnvelope) none) sameTimeProof = some s ∧
      "TP-1" ∈ (s.shared.history false).filterMap Call.proof ∧
      "TP-1" ∈ (s.shared.history true).filterMap Call.proof := by
  have h : (Trace.run Database.system.step (start sampleRequest (fun _ => sampleEnvelope) none) sameTimeProof).map
      (fun s => ((s.shared.history false).filterMap Call.proof, (s.shared.history true).filterMap Call.proof)) =
      some (["TP-1"], ["TP-1"]) := by decide +kernel
  obtain ⟨s, hs, hp⟩ := Option.map_eq_some_iff.mp h
  obtain ⟨hfalse, htrue⟩ := Prod.mk.inj hp
  exact ⟨s, hs, by rw [hfalse]; exact List.mem_singleton_self _, by rw [htrue]; exact List.mem_singleton_self _⟩

end ATB.Proof.PostgresSerializable
