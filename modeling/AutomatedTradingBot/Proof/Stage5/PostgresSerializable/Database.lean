import AutomatedTradingBot.Source.Stage5.PostgresSerializable

/-!
# The database of the serializable envelope

* `serve_moves`: what a call can do to the database;
* `discipline`: what holds of the database at any time, and what one `execute` may rely
  on while others run;
* `wp_call`: the rule for one call, from what is known before it (`Holds`);
* `Does`: the rule for code that leaves what is known as it is;
* `begin_wp`, `does_lookupChecked`: a transaction sees the durable outcome.
-/

namespace ATB.Proof.PostgresSerializable

open ATB.Calls
open ATB.Stage5.PostgresSerializable

variable {ι : Type}

/-! ## What holds at any time -/

/-- What a call of `execute` has done so far. -/
structure Usage where
  connects : Nat
  executes : Nat
  commits : Nat
  proofs : List String

def usage (h : List Call) : Usage :=
  ⟨h.countP Call.isConnect, h.countP Call.isExecute, h.countP Call.isCommit, h.filterMap Call.proof⟩

/-- At most `n` attempts, with a connection more to read back, and no TimeProof used twice. -/
structure Usage.Fits (u : Usage) (n : Nat) : Prop where
  connects : u.connects ≤ n + 1
  executes : u.executes ≤ n
  commits : u.commits ≤ n
  proofs : u.proofs.Nodup

/-- The transaction has found no outcome, and has one now. -/
def Ready (x : Transaction ι) : Prop := x.snapshot = some none ∧ x.view.isSome = true

structure Inv (envelope : ι → Envelope) (db : Database ι) : Prop where
  once : db.commits.length ≤ 1
  durable : db.commits ≠ [] → db.durable.isSome = true
  inFlight : ∀ c, (db.transactions c).status = .inFlight → Ready (db.transactions c)
  unopened : ∀ c, db.next ≤ c → db.transactions c = ⟨none, .idle, none, none⟩
  fits : ∀ t, (usage (db.history t)).Fits (envelope t).maxAttempts

/-- What a call of `execute` can rely on: a durable outcome stays, and nobody else touches its
transactions, but for a `COMMIT` under way. -/
structure Rely (t : ι) (db db' : Database ι) : Prop where
  history : db'.history t = db.history t
  durable : ∀ o, db.durable = some o → db'.durable = some o
  transactions : ∀ c, (db.transactions c).owner = some t → (db.transactions c).status ≠ .inFlight →
    db'.transactions c = db.transactions c

theorem Rely.refl (t : ι) (db : Database ι) : Rely t db db := ⟨rfl, fun _ h => h, fun _ _ _ => rfl⟩

theorem Rely.trans {t : ι} {db₁ db₂ db₃ : Database ι} (h : Rely t db₁ db₂) (h' : Rely t db₂ db₃) : Rely t db₁ db₃ where
  history := h'.history.trans h.history
  durable o ho := h'.durable o (h.durable o ho)
  transactions c hc hs := by
    have hx := h.transactions c hc hs
    rw [h'.transactions c (hx ▸ hc) (hx ▸ hs), hx]

variable {envelope : ι → Envelope}

theorem set_transactions {db : Database ι} {c k : Nat} {x : Transaction ι} :
    (db.set c x).transactions k = if k = c then x else db.transactions k := by
  simp [Database.set, Function.update_apply]

theorem Inv.opened_of_owner {db : Database ι} {c : Nat} {t : ι} (h : Inv envelope db)
    (hc : (db.transactions c).owner = some t) : c < db.next := by
  by_contra hn
  rw [h.unopened c (Nat.not_lt.mp hn)] at hc
  cases hc

theorem Inv.opened_of_inFlight {db : Database ι} {c : Nat} (h : Inv envelope db)
    (hc : (db.transactions c).status = .inFlight) : c < db.next := by
  by_contra hn
  rw [h.unopened c (Nat.not_lt.mp hn)] at hc
  cases hc

theorem inv_set {db : Database ι} {c : Nat} {x : Transaction ι} (h : Inv envelope db) (hc : c < db.next)
    (hx : x.status = .inFlight → Ready x) : Inv envelope (db.set c x) where
  once := h.once
  durable := h.durable
  inFlight k hk := by
    rw [set_transactions] at hk ⊢
    split at hk
    · next he => rw [if_pos he]; exact hx hk
    · next he => rw [if_neg he]; exact h.inFlight k hk
  unopened k hk := by
    have hne : k ≠ c := fun he => Nat.not_lt.mpr hk (he ▸ hc)
    rw [set_transactions, if_neg hne]
    exact h.unopened k hk
  fits := h.fits

theorem rely_set {db : Database ι} {c : Nat} {x : Transaction ι} {u : ι}
    (hc : (db.transactions c).owner = some u → (db.transactions c).status = .inFlight) : Rely u db (db.set c x) where
  history := rfl
  durable _ h := h
  transactions k hk hs := by
    rw [set_transactions]
    split
    · next he =>
      subst he
      exact absurd (hc hk) hs
    · rfl

theorem inv_land {db : Database ι} {c : Nat} (h : Inv envelope db) (hc : c < db.next)
    (hready : Ready (db.transactions c)) (hser : db.serializable c = true) : Inv envelope (db.land c) := by
  have hnone : db.durable = none := by
    simp only [Database.serializable, hready.1, Option.some.injEq, decide_eq_true_eq] at hser
    exact hser.symm
  have hcommits : db.commits = [] := by
    by_contra hne
    have := h.durable hne
    rw [hnone] at this
    cases this
  have hset := inv_set (x := { db.transactions c with status := .committed }) h hc (by simp)
  exact ⟨by simp [Database.land, hcommits], fun _ => hready.2, hset.inFlight, hset.unopened, h.fits⟩

theorem rely_land {db : Database ι} {c : Nat} {u : ι} (hready : Ready (db.transactions c)) (hser : db.serializable c = true)
    (hc : (db.transactions c).owner = some u → (db.transactions c).status = .inFlight) : Rely u db (db.land c) where
  history := rfl
  durable o ho := by
    simp only [Database.serializable, hready.1, ho, decide_eq_true_eq] at hser
    cases hser
  transactions := (rely_set hc).transactions

theorem settle_ok {db db' : Database ι} {c : Nat} {fate : Fate} (h : db.settle c fate = some db')
    (hinv : Inv envelope db) (hc : c < db.next) (hready : Ready (db.transactions c)) :
    Inv envelope db' ∧
      ∀ v, ((db.transactions c).owner = some v → (db.transactions c).status = .inFlight) → Rely v db db' := by
  cases fate with
  | landed =>
    obtain ⟨hser, hdb'⟩ := Option.ite_none_right_eq_some.mp h
    cases hdb'
    exact ⟨inv_land hinv hc hready hser, fun v hv => rely_land hready hser hv⟩
  | aborted =>
    cases h
    exact ⟨inv_set hinv hc (by simp), fun v hv => rely_set hv⟩
  | inFlight =>
    cases h
    exact ⟨inv_set hinv hc (fun _ => hready), fun v hv => rely_set hv⟩

/-! ## What a call does to the database -/

variable [DecidableEq ι]

/-- What a call of `t` can do to the database. -/
inductive Moves (t : ι) (db : Database ι) : Call → Database ι → Prop where
  | same (c : Call) : Moves t db c db
  | connect :
      Moves t db .connectionFactory { db.set db.next ⟨some t, .idle, none, none⟩ with next := db.next + 1 }
  | change (c : Call) (k : Nat) (x : Transaction ι) (hc : ∀ j, c ≠ .commit j) (howner : (db.transactions k).owner = some t)
      (hstatus : (db.transactions k).status = .idle ∨ (db.transactions k).status = .active) (hx : x.owner = some t)
      (hx' : x.status ≠ .inFlight) : Moves t db c (db.set k x)
  | settle (k : Nat) (fate : Fate) (db' : Database ι) (howner : (db.transactions k).owner = some t)
      (hstatus : (db.transactions k).status = .active) (h : db.settle k fate = some db') : Moves t db (.commit k) db'

theorem isActive_iff {db : Database ι} {t : ι} {c : Nat} :
    db.isActive t c = true ↔ (db.transactions c).owner = some t ∧ (db.transactions c).status = .active := by
  simp [Database.isActive]

theorem query_moves {db : Database ι} {t : ι} {c : Nat} (h : db.isActive t c = true) (k : Call) (hk : ∀ j, k ≠ .commit j) :
    Moves t db k (db.query c) := by
  obtain ⟨howner, hstatus⟩ := isActive_iff.mp h
  simp only [Database.query]
  split
  · exact .same k
  · exact .change k c _ hk howner (.inr hstatus) howner (by simp [hstatus])

theorem runSql_moves {db db' : Database ι} {t : ι} {c : Nat} {statement : Statement}
    (h : db.runSql t c statement = some db') : Moves t db (.sql c statement) db' := by
  cases statement with
  | beginSerializable =>
    simp only [Database.runSql] at h
    split at h
    · next hx =>
      cases h
      exact .change _ c _ (by simp) hx.1 (.inl hx.2) hx.1 (by simp)
    · cases h
  | setConfig name timeout =>
    simp only [Database.runSql] at h
    split at h
    · next hx =>
      cases h
      exact query_moves hx _ (by simp)
    · cases h
  | identity =>
    simp only [Database.runSql] at h
    split at h
    · next hx =>
      cases h
      exact query_moves hx _ (by simp)
    · cases h

theorem view_moves {db : Database ι} {t : ι} {c : Nat} (h : db.isActive t c = true) (view : Option DurableOutcome) (k : Call)
    (hk : ∀ j, k ≠ .commit j) : Moves t db k (db.set c { db.transactions c with view := view }) := by
  obtain ⟨howner, hstatus⟩ := isActive_iff.mp h
  exact .change k c _ hk howner (.inr hstatus) howner (by simp [hstatus])

theorem serve_moves {db db' : Database ι} {t : ι} {c : Call} {x : Choice} {r : Reply c}
    (h : db.serve t c x = some (r, db')) : Moves t db c db' := by
  cases c with
  | connectionFactory =>
    cases x <;> simp only [Database.serve, reduceCtorEq, Option.some.injEq, Prod.mk.injEq] at h
    · exact h.2 ▸ .same _
    · exact h.2 ▸ .connect
  | sql c statement =>
    cases x <;> simp only [Database.serve, reduceCtorEq, Option.some.injEq, Prod.mk.injEq, Option.map_eq_some_iff] at h
    · exact h.2 ▸ .same _
    · obtain ⟨db₁, hdb₁, -, rfl⟩ := h
      exact runSql_moves hdb₁
  | verifyAttempt c context =>
    cases x <;> simp only [Database.serve, reduceCtorEq, Option.some.injEq, Prod.mk.injEq, Option.ite_none_right_eq_some] at h
    · exact h.2 ▸ .same _
    · obtain ⟨hactive, -, rfl⟩ := h
      exact view_moves hactive _ _ (by simp)
  | execute c context evidence =>
    cases x <;> simp only [Database.serve, reduceCtorEq, Option.some.injEq, Prod.mk.injEq, Option.ite_none_right_eq_some] at h
    · exact h.2 ▸ .same _
    · obtain ⟨hactive, -, rfl⟩ := h
      exact view_moves hactive _ _ (by simp)
  | commit c =>
    cases x <;> simp only [Database.serve, reduceCtorEq, Option.some.injEq, Prod.mk.injEq, Option.ite_none_right_eq_some,
      Option.map_eq_some_iff] at h
    · obtain ⟨⟨hactive, hser⟩, -, rfl⟩ := h
      obtain ⟨howner, hstatus⟩ := isActive_iff.mp hactive
      exact .settle c .landed _ howner hstatus (if_pos hser)
    · obtain ⟨⟨hactive, -⟩, db₁, hdb₁, -, rfl⟩ := h
      obtain ⟨howner, hstatus⟩ := isActive_iff.mp hactive
      exact .settle c _ _ howner hstatus hdb₁
  | rollback c =>
    cases x <;> simp only [Database.serve, reduceCtorEq, Option.some.injEq, Prod.mk.injEq] at h
    · exact h.2 ▸ .same _
    · obtain ⟨-, rfl⟩ := h
      split
      · next hb =>
        obtain ⟨howner, hstatus⟩ := isActive_iff.mp hb.2
        exact .change _ c _ (by simp) howner (.inr hstatus) howner (by simp)
      · exact .same _
  | lookup c context =>
    cases x <;> simp only [Database.serve, reduceCtorEq, Option.some.injEq, Prod.mk.injEq, Option.ite_none_right_eq_some] at h
    · exact h.2 ▸ .same _
    · exact h.2.2 ▸ .same _
  | _ =>
    cases x <;> simp only [Database.serve, reduceCtorEq, Option.some.injEq, Prod.mk.injEq] at h <;> exact h.2 ▸ .same _

omit [DecidableEq ι] in
theorem Moves.history {t : ι} {db db' : Database ι} {c : Call} (h : Moves t db c db') : db'.history = db.history := by
  cases h with
  | same => rfl
  | connect => rfl
  | change => rfl
  | settle k fate db' howner hstatus h =>
    cases fate with
    | landed => rw [← Option.some.inj (Option.ite_none_right_eq_some.mp h).2]; rfl
    | aborted => cases h; rfl
    | inFlight => cases h; rfl

omit [DecidableEq ι] in
/-- A transaction that is over stays as it is. -/
theorem Moves.over {t : ι} {db db' : Database ι} {c : Call} (h : Moves t db c db') (hinv : Inv envelope db) {j : Nat}
    (howner : (db.transactions j).owner = some t) (hidle : (db.transactions j).status ≠ .idle)
    (hactive : (db.transactions j).status ≠ .active) : db'.transactions j = db.transactions j := by
  cases h with
  | same => rfl
  | connect =>
    have hne : j ≠ db.next := Nat.ne_of_lt (hinv.opened_of_owner howner)
    simp only [set_transactions, if_neg hne]
  | change c k x hc hk hstatus hx hx' =>
    have hne : j ≠ k := by
      rintro rfl
      exact hstatus.elim hidle hactive
    rw [set_transactions, if_neg hne]
  | settle k fate db' hk hstatus h =>
    have hne : j ≠ k := by
      rintro rfl
      exact hactive hstatus
    cases fate with
    | landed =>
      rw [← Option.some.inj (Option.ite_none_right_eq_some.mp h).2, Database.land]
      simp only [set_transactions, if_neg hne]
    | aborted => cases h; rw [set_transactions, if_neg hne]
    | inFlight => cases h; rw [set_transactions, if_neg hne]

omit [DecidableEq ι] in
theorem Moves.durable {t : ι} {db db' : Database ι} {c : Call} (h : Moves t db c db') (hc : ∀ k, c ≠ .commit k) :
    db'.durable = db.durable := by
  cases h with
  | settle k => exact absurd rfl (hc k)
  | _ => rfl

omit [DecidableEq ι] in
/-- A call keeps what holds at any time and what the others rely on, if it commits only what is
ready. -/
theorem Moves.ok {t : ι} {db db' : Database ι} {c : Call} (h : Moves t db c db') (hinv : Inv envelope db)
    (hready : ∀ k, c = .commit k → (db.transactions k).owner = some t → Ready (db.transactions k)) :
    Inv envelope db' ∧ ∀ u, u ≠ t → Rely u db db' := by
  cases h with
  | same => exact ⟨hinv, fun u _ => .refl u db⟩
  | connect =>
    have hnext : db.transactions db.next = ⟨none, .idle, none, none⟩ := hinv.unopened _ le_rfl
    refine ⟨⟨hinv.once, hinv.durable, fun k hk => ?_, fun k hk => ?_, hinv.fits⟩, fun u _ => ⟨rfl, fun _ h => h, ?_⟩⟩
    · simp only [set_transactions] at hk ⊢
      split at hk
      · cases hk
      · next hne => rw [if_neg hne]; exact hinv.inFlight k hk
    · have hne : k ≠ db.next := Nat.ne_of_gt hk
      simp only [set_transactions, if_neg hne]
      exact hinv.unopened k (Nat.le_of_succ_le hk)
    · intro k hk _
      have hne : k ≠ db.next := by
        rintro rfl
        rw [hnext] at hk
        cases hk
      simp only [set_transactions, if_neg hne]
  | change c k x hc howner hstatus hx hx' =>
    refine ⟨inv_set hinv (hinv.opened_of_owner howner) fun h => absurd h hx', fun u hu => rely_set fun h => ?_⟩
    rw [howner] at h
    exact absurd (Option.some.inj h).symm hu
  | settle k fate db' howner hstatus h =>
    obtain ⟨hinv', hrely⟩ := settle_ok h hinv (hinv.opened_of_owner howner) (hready k rfl howner)
    refine ⟨hinv', fun u hu => hrely u fun h => ?_⟩
    rw [howner] at h
    exact absurd (Option.some.inj h).symm hu

theorem log_history {t : ι} {db : Database ι} {c : Call} {u : ι} :
    (db.log t c).history u = if u = t then c :: db.history t else db.history u := by
  simp [Database.log, Function.update_apply]

theorem inv_log {t : ι} {db : Database ι} {c : Call} (h : Inv envelope db)
    (hfits : (usage (c :: db.history t)).Fits (envelope t).maxAttempts) : Inv envelope (db.log t c) where
  once := h.once
  durable := h.durable
  inFlight := h.inFlight
  unopened := h.unopened
  fits u := by
    rw [log_history]
    split
    · next hu => rw [hu]; exact hfits
    · exact h.fits u

theorem rely_log {t u : ι} {db db' : Database ι} {c : Call} (hu : u ≠ t) (h : Rely u db db') : Rely u db (db'.log t c) where
  history := by rw [log_history, if_neg hu]; exact h.history
  durable := h.durable
  transactions := h.transactions

variable (envelope) in
def discipline : Discipline (Database.system (ι := ι)) where
  Inv := Inv envelope
  Rely := Rely
  refl := .refl
  trans := .trans
  other {db e db'} h hinv := by
    obtain ⟨c, lands⟩ := e
    simp only [Database.system, Database.resolve] at h
    split at h
    · cases h
    · next hstatus =>
      have hstatus : (db.transactions c).status = .inFlight := not_not.mp hstatus
      have hsettle := fun fate (h : db.settle c fate = some db') =>
        settle_ok h hinv (hinv.opened_of_inFlight hstatus) (hinv.inFlight c hstatus)
      split at h
      · exact ⟨(hsettle _ h).1, fun u => (hsettle _ h).2 u fun _ => hstatus⟩
      · exact ⟨(hsettle _ h).1, fun u => (hsettle _ h).2 u fun _ => hstatus⟩

/-! ## What a call of `execute` knows -/

/-- What is known at a point of the code: what it has done, whether all its transactions that were to
commit are aborted, an outcome that is durable, and the transaction under way. -/
structure Facts (ι : Type) where
  usage : Usage
  quiet : Bool
  known : Option DurableOutcome
  session : Option (Nat × Transaction ι)

structure Holds (t : ι) (f : Facts ι) (db : Database ι) : Prop where
  usage : usage (db.history t) = f.usage
  quiet : f.quiet = true → ∀ c, .commit c ∈ db.history t →
    (db.transactions c).owner = some t ∧ (db.transactions c).status = .aborted
  known : ∀ o, f.known = some o → db.durable = some o
  session : ∀ c x, f.session = some (c, x) → db.transactions c = x ∧ x.owner = some t ∧ x.status ≠ .inFlight

omit [DecidableEq ι] in
theorem Holds.later {t : ι} {f : Facts ι} {db db' : Database ι} (h : Holds t f db) (hr : Rely t db db') : Holds t f db' where
  usage := by rw [hr.history, h.usage]
  quiet hq c hc := by
    rw [hr.history] at hc
    obtain ⟨howner, hstatus⟩ := h.quiet hq c hc
    rw [hr.transactions c howner (by simp [hstatus])]
    exact ⟨howner, hstatus⟩
  known o ho := hr.durable o (h.known o ho)
  session c x hx := by
    obtain ⟨hc, howner, hstatus⟩ := h.session c x hx
    rw [hr.transactions c (hc ▸ howner) (hc ▸ hstatus)]
    exact ⟨hc, howner, hstatus⟩

/-- The transaction under way is not looked at any more. -/
def Facts.close (f : Facts ι) : Facts ι := { f with session := none }

omit [DecidableEq ι] in
theorem Holds.close {t : ι} {f : Facts ι} {db : Database ι} (h : Holds t f db) : Holds t f.close db :=
  ⟨h.usage, h.quiet, h.known, fun _ _ hx => by cases hx⟩

def Usage.after (u : Usage) (c : Call) : Usage :=
  ⟨u.connects + if c.isConnect then 1 else 0, u.executes + if c.isExecute then 1 else 0,
    u.commits + if c.isCommit then 1 else 0, c.proof.toList ++ u.proofs⟩

theorem usage_cons (c : Call) (h : List Call) : usage (c :: h) = (usage h).after c := by
  cases c <;> simp [usage, Usage.after, List.countP_cons, List.filterMap_cons, Call.isConnect, Call.isExecute,
    Call.isCommit, Call.proof]

/-- A call that the bounds do not count. -/
def Call.uncounted (c : Call) : Bool := !c.isConnect && !c.isExecute && !c.isCommit

theorem Usage.after_uncounted {u : Usage} {c : Call} (h : Call.uncounted c = true) : u.after c = u := by
  cases c <;> simp_all [Call.uncounted, Usage.after, Call.isConnect, Call.isExecute, Call.isCommit, Call.proof]

/-- What is known without the transaction under way after a call. -/
theorem Holds.after {t : ι} {f : Facts ι} {db db' : Database ι} {c : Call} (h : Holds t f db) (hm : Moves t db c db')
    (hinv : Inv envelope db) (hc : ∀ k, c ≠ .commit k) :
    Holds t { f.close with usage := f.usage.after c } (db'.log t c) where
  usage := by rw [log_history, if_pos rfl, usage_cons, hm.history, h.usage]
  quiet hq k hk := by
    have hk : .commit k ∈ db.history t := by
      rw [log_history, if_pos rfl, hm.history] at hk
      exact (List.mem_cons.mp hk).resolve_left fun he => hc k he.symm
    obtain ⟨howner, hstatus⟩ := h.quiet hq k hk
    have hover := hm.over hinv howner (by simp [hstatus]) (by simp [hstatus])
    exact ⟨hover ▸ howner, hover ▸ hstatus⟩
  known o ho := (hm.durable hc).trans (h.known o ho)
  session _ _ hx := by cases hx

/-- The rule for one call. -/
theorem wp_call {α : Type} {t : ι} {f : Facts ι} {c : Call} {g : Reply c → Except Error α}
    {Q : Except Error α → Database ι → Prop} (hQ : ∀ {r db db'}, Q r db → Rely t db db' → Q r db') {l : Locals}
    {db : Database ι} (hdb : Holds t f db)
    (hfits : f.usage.Fits (envelope t).maxAttempts → (f.usage.after c).Fits (envelope t).maxAttempts)
    (hready : ∀ k, c = .commit k → ∃ x, f.session = some (k, x) ∧ Ready x)
    (h : ∀ db x r db', Inv envelope db → Holds t f db → db.serve t c x = some (r, db') → Q (g r) (db'.log t c)) :
    (Code.raising (.call c fun r => .ret (g r)) : M α).wp (discipline envelope) t (fun r l' db => l' = l ∧ Q r db) l
      db := by
  refine Code.wp_raising ?_
  intro db₁ hinv hr x r db₂ hx
  have hdb₁ := hdb.later hr
  obtain ⟨⟨r', db'⟩, hserve, heq⟩ := Option.map_eq_some_iff.mp hx
  cases heq
  have hmoves := serve_moves hserve
  have hready' : ∀ k, c = .commit k → (db₁.transactions k).owner = some t → Ready (db₁.transactions k) := by
    intro k hk _
    obtain ⟨x, hsession, hx⟩ := hready k hk
    exact (hdb₁.session k x hsession).1 ▸ hx
  obtain ⟨hinv', hrely⟩ := hmoves.ok hinv hready'
  have hpost := h db₁ x r' db' hinv hdb₁ hserve
  refine ⟨inv_log hinv' ?_, fun u hu => rely_log hu (hrely u hu), fun db₃ _ hr' => ⟨rfl, hQ hpost hr'⟩⟩
  rw [usage_cons, hmoves.history, hdb₁.usage]
  exact hfits (hdb₁.usage ▸ hinv.fits t)

/-! ## Code that keeps what is known -/

variable (envelope) in
/-- The code ends as `R` says, and leaves the local variables and what is known as they are. -/
def Does {α : Type} (t : ι) (f : Facts ι) (x : M α) (R : Except Error α → Prop) : Prop :=
  ∀ l db, Holds t f db → x.wp (discipline envelope) t (fun r l' db => l' = l ∧ R r ∧ Holds t f db) l db

section Does

variable {α β : Type} {t : ι} {f : Facts ι} {x : M α} {g : α → M β} {R R' : Except Error α → Prop}
  {S : Except Error β → Prop}

theorem Does.mono (h : Does envelope t f x R) (hR : ∀ r, R r → R' r) : Does envelope t f x R' :=
  fun l db hdb => Code.wp_mono (h l db hdb) fun r _ _ _ hr => ⟨hr.1, hR r hr.2.1, hr.2.2⟩

theorem does_pure {a : α} (h : R (.ok a)) : Does envelope t f (pure a) R :=
  fun _ _ hdb => Code.wp_pure fun _ _ hr => ⟨rfl, h, hdb.later hr⟩

theorem does_throw {e : Error} (h : R (.error e)) : Does envelope t f (throw e) R :=
  fun _ _ hdb => Code.wp_throw fun _ _ hr => ⟨rfl, h, hdb.later hr⟩

theorem does_check {r : Except Error α} (h : R r) : Does envelope t f (check r) R :=
  fun _ _ hdb => Code.wp_raising fun _ _ hr => ⟨rfl, h, hdb.later hr⟩

theorem Does.bind (hx : Does envelope t f x R) (hok : ∀ a, R (.ok a) → Does envelope t f (g a) S)
    (herror : ∀ e, R (.error e) → S (.error e)) : Does envelope t f (x >>= g) S := by
  refine fun l db hdb => Code.wp_bind (hx l db hdb) ?_ ?_
  · rintro a l' db' - ⟨rfl, ha, hdb'⟩
    exact hok a ha l' db' hdb'
  · rintro e l' db' - ⟨rfl, he, hdb'⟩
    exact ⟨rfl, herror e he, hdb'⟩

theorem Does.tryCatch {h : Error → M α} (hx : Does envelope t f x R) (hok : ∀ a, R (.ok a) → R' (.ok a))
    (herror : ∀ e, R (.error e) → Does envelope t f (h e) R') : Does envelope t f (tryCatch x h) R' := by
  refine fun l db hdb => Code.wp_tryCatch (hx l db hdb) ?_ ?_
  · rintro a l' db' - ⟨rfl, ha, hdb'⟩
    exact ⟨rfl, hok a ha, hdb'⟩
  · rintro e l' db' - ⟨rfl, he, hdb'⟩
    exact herror e he l' db' hdb'

/-- No exception. -/
def Returns (r : Except Error α) : Prop := ∃ a, r = .ok a

theorem returns_ok (a : α) : Returns (.ok a) := ⟨a, rfl⟩

theorem Returns.elim {P : Prop} {e : Error} (h : Returns (.error e : Except Error α)) : P := by
  obtain ⟨_, h⟩ := h
  cases h

theorem Does.quietly {h : Error → α} (hx : Does envelope t f x R) :
    Does envelope t f (MonadExcept.tryCatch x fun e => pure (h e)) Returns :=
  hx.tryCatch (fun a _ => returns_ok a) fun e _ => does_pure (returns_ok (h e))

theorem Does.ite {c : Prop} [Decidable c] {y : M α} (hx : c → Does envelope t f x R) (hy : ¬ c → Does envelope t f y R) :
    Does envelope t f (if c then x else y) R := by
  split
  · next h => exact hx h
  · next h => exact hy h

omit [DecidableEq ι] in
theorem Holds.unlogged [DecidableEq ι] {db : Database ι} {c : Call} (h : Holds t f db) (hc : Call.uncounted c = true) :
    Holds t f (db.log t c) where
  usage := by rw [log_history, if_pos rfl, usage_cons, h.usage, Usage.after_uncounted hc]
  quiet hq k hk := by
    rw [log_history, if_pos rfl] at hk
    refine h.quiet hq k ((List.mem_cons.mp hk).resolve_left ?_)
    rintro rfl
    cases hc
  known := h.known
  session := h.session

/-- A call that does nothing to the database. -/
theorem does_still {c : Call} {g : Reply c → Except Error α} (hc : Call.uncounted c = true) (hR : ∀ r, R (g r))
    (h : ∀ (db : Database ι) x r db', db.serve t c x = some (r, db') → db' = db) :
    Does envelope t f (Code.raising (.call c fun r => .ret (g r))) R := by
  refine fun l db hdb => wp_call (Q := fun r db => R r ∧ Holds t f db) (fun hq hr => ⟨hq.1, hq.2.later hr⟩) hdb ?_ ?_ ?_
  · rw [Usage.after_uncounted hc]
    exact id
  · rintro k rfl
    cases hc
  · rintro db x r db' - hdb hserve
    rw [h db x r db' hserve]
    exact ⟨hR _, hdb.unlogged hc⟩

/-- The only exception is that the deadline has passed. -/
def Timed (r : Except Error α) : Prop := ∀ e, r = .error e → ∃ message, e = .deadlineExhausted message

theorem timed_ok (a : α) : Timed (.ok a) := fun _ h => by cases h

theorem timed_deadline (message : String) : Timed (.error (.deadlineExhausted message) : Except Error α) :=
  fun _ h => ⟨message, (Except.error.inj h).symm⟩

theorem Timed.pass {e : Error} (h : Timed (.error e : Except Error α)) : Timed (.error e : Except Error β) := by
  obtain ⟨message, rfl⟩ := h e rfl
  exact timed_deadline message

theorem does_clockNs : Does envelope t f clockNs Timed := by
  refine does_still rfl (fun r => timed_ok r) fun db x r db' h => ?_
  cases x <;> simp only [Database.serve, reduceCtorEq, Option.some.injEq, Prod.mk.injEq] at h
  exact h.2.symm

theorem does_sleeper (delay : Nat) : Does envelope t f (sleeper delay) Timed := by
  refine does_still rfl (fun r => timed_ok r) fun db x r db' h => ?_
  cases x <;> simp only [Database.serve, reduceCtorEq, Option.some.injEq, Prod.mk.injEq] at h
  exact h.2.symm

theorem does_remainingNs (deadline : Int) : Does envelope t f (remainingNs deadline) Timed :=
  does_clockNs.bind (fun _ _ => does_pure (timed_ok _)) fun _ he => he.pass

theorem does_remainingMs (deadline : Int) : Does envelope t f (remainingMs deadline) Timed :=
  (does_remainingNs deadline).bind
    (fun _ _ => .ite (fun _ => does_throw (timed_deadline _)) fun _ => does_pure (timed_ok _)) fun _ he => he.pass

theorem does_ensure (deadline : Int) : Does envelope t f (ensure deadline) Timed :=
  (does_remainingNs deadline).bind
    (fun _ _ => .ite (fun _ => does_throw (timed_deadline _)) fun _ => does_pure (timed_ok _)) fun _ he => he.pass

theorem does_backoff (e : Envelope) (deadline : Int) (attempt : Nat) :
    Does envelope t f (backoff e deadline attempt) Timed := by
  refine .ite (fun _ => does_ensure deadline) fun _ => (does_remainingMs deadline).bind (fun _ _ => ?_) fun _ he => he.pass
  refine .ite (fun _ => does_throw (timed_deadline _)) fun _ => ?_
  exact (does_sleeper _).bind (fun _ _ => does_ensure deadline) fun _ he => he.pass

theorem does_setDeadline (c : Nat) : Does envelope t f (setDeadline c) fun _ => True := by
  refine does_still rfl (fun _ => trivial) fun db x r db' h => ?_
  cases x <;> simp only [Database.serve, reduceCtorEq, Option.some.injEq, Prod.mk.injEq] at h <;> exact h.2.symm

theorem does_cursor (c : Nat) : Does envelope t f (cursor c) fun _ => True := by
  refine does_still rfl (fun _ => trivial) fun db x r db' h => ?_
  cases x <;> simp only [Database.serve, reduceCtorEq, Option.some.injEq, Prod.mk.injEq] at h <;> exact h.2.symm

theorem does_fetchone (c : Nat) : Does envelope t f (fetchone c) fun _ => True := by
  refine does_still rfl (fun _ => trivial) fun db x r db' h => ?_
  cases x <;> simp only [Database.serve, reduceCtorEq, Option.some.injEq, Prod.mk.injEq] at h <;> exact h.2.symm

theorem does_cancel (c : Nat) : Does envelope t f (cancel c) fun _ => True := by
  refine does_still rfl (fun _ => trivial) fun db x r db' h => ?_
  cases x <;> simp only [Database.serve, reduceCtorEq, Option.some.injEq, Prod.mk.injEq] at h <;> exact h.2.symm

theorem does_close (c : Nat) : Does envelope t f (close c) fun _ => True := by
  refine does_still rfl (fun _ => trivial) fun db x r db' h => ?_
  cases x <;> simp only [Database.serve, reduceCtorEq, Option.some.injEq, Prod.mk.injEq] at h <;> exact h.2.symm

theorem does_terminate (c : Nat) : Does envelope t f (terminate c) fun _ => True := by
  refine does_still rfl (fun _ => trivial) fun db x r db' h => ?_
  cases x <;> simp only [Database.serve, reduceCtorEq, Option.some.injEq, Prod.mk.injEq] at h <;> exact h.2.symm

theorem does_rollback (hf : f.session = none) (c : Nat) : Does envelope t f (rollback c) fun _ => True := by
  have hclose : { f.close with usage := f.usage.after (.rollback c) } = f := by
    rw [Usage.after_uncounted rfl, Facts.close, ← hf]
  refine fun l db hdb => wp_call (Q := fun _ db => True ∧ Holds t f db) (fun hq hr => ⟨hq.1, hq.2.later hr⟩) hdb ?_ ?_ ?_
  · rw [Usage.after_uncounted rfl]
    exact id
  · rintro k hk
    cases hk
  · intro db x r db' hinv hdb hserve
    have hafter := hdb.after (serve_moves hserve) hinv (by simp)
    rw [hclose] at hafter
    exact ⟨trivial, hafter⟩

/-- `_cleanup` does not raise. -/
theorem does_cleanup (hf : f.session = none) (c : Nat) (rolled : Bool) : Does envelope t f (cleanup c rolled) Returns := by
  unfold cleanup
  refine .bind (R := Returns) ?_ (fun clean _ => ?_) fun _ h => h.elim
  · exact .ite (fun _ => (does_rollback hf c).quietly) fun _ => does_pure (returns_ok true)
  refine .bind (R := Returns) ?_ (fun _ _ => ?_) fun _ h => h.elim
  · exact .ite (fun _ => does_pure (returns_ok true)) fun _ => (does_cancel c).quietly
  refine .bind (does_close c).quietly (fun closed _ => ?_) fun _ h => h.elim
  refine .bind (R := Returns) ?_ (fun _ _ => does_pure (returns_ok _)) fun _ h => h.elim
  exact .ite (fun _ => does_pure (returns_ok ())) fun _ => (does_terminate c).quietly

end Does

/-! ## Transactions -/

/-- What is known without the transaction and the outcome. -/
def Facts.base (f : Facts ι) : Facts ι := { f with known := none, session := none }

omit [DecidableEq ι] in
theorem Holds.base {t : ι} {f : Facts ι} {db : Database ι} (h : Holds t f db) : Holds t f.base db :=
  ⟨h.usage, h.quiet, fun _ ho => (by cases ho), fun _ _ hx => (by cases hx)⟩

omit [DecidableEq ι] in
theorem Holds.enter {t : ι} {f : Facts ι} {db : Database ι} {c : Nat} {x : Transaction ι} (h : Holds t f db)
    (hc : db.transactions c = x) (howner : x.owner = some t) (hstatus : x.status ≠ .inFlight) :
    Holds t { f with session := some (c, x) } db where
  usage := h.usage
  quiet := h.quiet
  known := h.known
  session c' x' hx := by
    cases hx
    exact ⟨hc, howner, hstatus⟩

/-- A connection that has just been opened. -/
def opened (t : ι) : Transaction ι := ⟨some t, .idle, none, none⟩

/-- A transaction that has begun. -/
def begun (t : ι) : Transaction ι := ⟨some t, .active, none, none⟩

/-- A transaction that found `d`, and now sees `v`. -/
def reading (t : ι) (d v : Option DurableOutcome) : Transaction ι := ⟨some t, .active, some d, v⟩

section Transactions

variable {α β : Type} {t : ι} {f : Facts ι} {c : Nat} {l : Locals} {db : Database ι}

/-- Code that keeps what is known, and then more. -/
theorem Does.andThen {x : M α} {g : α → M β} {R : Except Error α → Prop} {Q : Except Error β → Locals → Database ι → Prop}
    (hx : Does envelope t f x R) (hdb : Holds t f db)
    (hok : ∀ a db, R (.ok a) → Holds t f db → (g a).wp (discipline envelope) t Q l db)
    (herror : ∀ e db, R (.error e) → Holds t f db → Q (.error e) l db) :
    (x >>= g).wp (discipline envelope) t Q l db := by
  refine Code.wp_bind (hx l db hdb) ?_ ?_
  · rintro a l' db' - ⟨rfl, ha, hdb'⟩
    exact hok a db' ha hdb'
  · rintro e l' db' - ⟨rfl, he, hdb'⟩
    exact herror e db' he hdb'

def Connected (t : ι) (f : Facts ι) (r : Except Error Nat) (db : Database ι) : Prop :=
  match r with
  | .ok c => Holds t { f with usage := f.usage.after .connectionFactory, session := some (c, opened t) } db
  | .error _ => Holds t { f.close with usage := f.usage.after .connectionFactory } db

theorem connectionFactory_wp (hdb : Holds t f db) (hfits : f.usage.connects ≤ (envelope t).maxAttempts) :
    connectionFactory.wp (discipline envelope) t (fun r l' db => l' = l ∧ Connected t f r db) l db := by
  refine wp_call (Q := Connected t f) (fun {r _ _} hq hr => ?_) hdb (fun h => ?_) (fun k hk => by cases hk) ?_
  · cases r <;> exact Holds.later hq hr
  · exact ⟨Nat.succ_le_succ hfits, h.executes, h.commits, h.proofs⟩
  · intro db x r db' hinv hdb hserve
    have hafter := hdb.after (serve_moves hserve) hinv (by simp)
    cases x <;> simp only [Database.serve, reduceCtorEq, Option.some.injEq, Prod.mk.injEq] at hserve
    · obtain ⟨rfl, rfl⟩ := hserve
      exact hafter
    · obtain ⟨rfl, rfl⟩ := hserve
      exact hafter.enter (by simp [Database.log, Database.set, opened]) rfl (by simp [opened])

def Entered (t : ι) (f : Facts ι) (c : Nat) (x : Transaction ι) (r : Except Error α) (db : Database ι) : Prop :=
  match r with
  | .ok _ => Holds t { f with session := some (c, x) } db
  | .error _ => Holds t f.close db

omit [DecidableEq ι] in
theorem Entered.later {x : Transaction ι} {r : Except Error α} {db db' : Database ι} (h : Entered t f c x r db)
    (hr : Rely t db db') : Entered t f c x r db' := by
  cases r <;> exact Holds.later h hr

theorem fits_of_uncounted {u : Usage} {k : Call} (hk : Call.uncounted k = true) {n : Nat} (h : u.Fits n) :
    (u.after k).Fits n := by
  rw [Usage.after_uncounted hk]
  exact h

theorem sql_begin_wp (hdb : Holds t f db) (hf : f.session = some (c, opened t)) :
    (sql c .beginSerializable).wp (discipline envelope) t (fun r l' db => l' = l ∧ Entered t f c (begun t) r db) l
      db := by
  refine wp_call (Q := Entered t f c (begun t)) (fun hq hr => hq.later hr) hdb (fits_of_uncounted rfl)
    (fun k hk => by cases hk) ?_
  intro db x r db' hinv hdb hserve
  have hx := (hdb.session c _ hf).1
  have hafter := hdb.after (serve_moves hserve) hinv (by simp)
  rw [Usage.after_uncounted rfl] at hafter
  cases x <;> simp only [Database.serve, reduceCtorEq, Option.some.injEq, Prod.mk.injEq, Option.map_eq_some_iff,
    Database.runSql, hx, opened] at hserve
  · obtain ⟨rfl, rfl⟩ := hserve
    exact hafter
  · simp only [and_self, if_true, Option.some.injEq] at hserve
    obtain ⟨_, rfl, rfl, rfl⟩ := hserve
    exact hafter.enter (by simp [Database.log, Database.set, begun]) rfl (by simp [begun])

/-- What `d` says of the durable outcome, and the transaction that found it. -/
def Facts.read (f : Facts ι) (t : ι) (c : Nat) (d : Option DurableOutcome) : Facts ι :=
  { f with known := d, session := some (c, reading t d d) }

def Found (t : ι) (f : Facts ι) (c : Nat) (r : Except Error α) (db : Database ι) : Prop :=
  match r with
  | .ok _ => ∃ d, Holds t (f.read t c d) db
  | .error _ => Holds t f.base db

omit [DecidableEq ι] in
theorem Found.later {r : Except Error α} {db db' : Database ι} (h : Found t f c r db) (hr : Rely t db db') :
    Found t f c r db' := by
  cases r with
  | ok a =>
    obtain ⟨d, hd⟩ := h
    exact ⟨d, hd.later hr⟩
  | error e => exact Holds.later h hr

theorem setConfig_wp {name : String} {timeout : Int} (hdb : Holds t f db) (hf : f.session = some (c, begun t)) :
    (sql c (.setConfig name timeout)).wp (discipline envelope) t (fun r l' db => l' = l ∧ Found t f c r db) l db := by
  refine wp_call (Q := Found t f c) (fun hq hr => hq.later hr) hdb (fits_of_uncounted rfl) (fun k hk => by cases hk) ?_
  intro db x r db' hinv hdb hserve
  have hx := (hdb.session c _ hf).1
  have hafter := hdb.base.after (serve_moves hserve) hinv (by simp)
  rw [Usage.after_uncounted rfl] at hafter
  have hactive : db.isActive t c = true := isActive_iff.mpr (by rw [hx]; exact ⟨rfl, rfl⟩)
  cases x <;> simp only [Database.serve, reduceCtorEq, Option.some.injEq, Prod.mk.injEq, Option.map_eq_some_iff,
    Database.runSql, hactive, if_true, Database.query, hx, begun] at hserve
  · obtain ⟨rfl, rfl⟩ := hserve
    exact hafter
  · obtain ⟨_, rfl, rfl, rfl⟩ := hserve
    refine ⟨db.durable, ⟨hafter.usage, hafter.quiet, fun _ ho => ho, ?_⟩⟩
    intro c' x' hx'
    cases hx'
    exact ⟨by simp [Database.log, Database.set, reading], rfl, by simp [reading]⟩

/-- A query of a transaction that has its snapshot. -/
theorem does_query {d v : Option DurableOutcome} {statement : Statement} (hf : f.session = some (c, reading t d v))
    (hs : statement ≠ .beginSerializable) : Does envelope t f (sql c statement) fun _ => True := by
  refine fun l db hdb => wp_call (Q := fun _ db => True ∧ Holds t f db) (fun hq hr => ⟨hq.1, hq.2.later hr⟩) hdb
    (fits_of_uncounted rfl) (fun k hk => by cases hk) ?_
  intro db x r db' hinv hdb hserve
  have hx := (hdb.session c _ hf).1
  have hactive : db.isActive t c = true := isActive_iff.mpr (by rw [hx]; exact ⟨rfl, rfl⟩)
  have hrun : db.runSql t c statement = some db := by
    cases statement with
    | beginSerializable => exact absurd rfl hs
    | _ => simp only [Database.runSql, hactive, if_true, Database.query, hx, reading]
  have hsame : db' = db := by
    cases x <;> simp only [Database.serve, reduceCtorEq, Option.some.injEq, Prod.mk.injEq, Option.map_eq_some_iff, hrun]
      at hserve
    · exact hserve.2.symm
    · obtain ⟨_, rfl, -, rfl⟩ := hserve
      rfl
  rw [hsame]
  exact ⟨trivial, hdb.unlogged rfl⟩

omit [DecidableEq ι] in
theorem Entered.base_of_error {x : Transaction ι} {e : Error} (h : Entered t f c x (.error e : Except Error α) db) :
    Holds t f.base db := Holds.base (f := f.close) h

/-- `_begin`: a transaction that sees the durable outcome. -/
theorem begin_wp {deadline : Int} (hdb : Holds t f db) (hf : f.session = some (c, opened t)) :
    (begin c deadline).wp (discipline envelope) t (fun r l' db => l' = l ∧ Found t f c r db) l db := by
  have hread : ∀ {d : Option DurableOutcome} {e : Error} {db : Database ι}, Holds t (f.read t c d) db →
      l = l ∧ Found t f c (.error e : Except Error Identity) db := fun h => ⟨rfl, h.base⟩
  refine (does_ensure deadline).andThen hdb (fun _ db _ hdb => ?_) fun e db _ h => ⟨rfl, h.base⟩
  refine (does_setDeadline c).andThen hdb (fun _ db _ hdb => ?_) fun e db _ h => ⟨rfl, h.base⟩
  refine (does_cursor c).andThen hdb (fun _ db _ hdb => ?_) fun e db _ h => ⟨rfl, h.base⟩
  refine Code.wp_bind (sql_begin_wp hdb hf) ?_ fun e l' db _ h => ⟨h.1, h.2.base_of_error⟩
  rintro _ l' db - ⟨rfl, hdb⟩
  replace hdb : Holds t { f with session := some (c, begun t) } db := hdb
  refine (does_remainingMs deadline).andThen hdb (fun timeout db _ hdb => ?_) fun e db _ h => ⟨rfl, h.base⟩
  refine Code.wp_bind (setConfig_wp hdb rfl) ?_ fun e l' db _ h => ⟨h.1, h.2⟩
  rintro _ l' db - ⟨rfl, d, hdb⟩
  replace hdb : Holds t (f.read t c d) db := hdb
  refine (does_query rfl (by simp)).andThen hdb (fun _ db _ hdb => ?_) fun e db _ h => hread h
  refine (does_query rfl (by simp)).andThen hdb (fun _ db _ hdb => ?_) fun e db _ h => hread h
  refine (does_fetchone c).andThen hdb (fun row db _ hdb => ?_) fun e db _ h => hread h
  refine Code.wp_mono (does_check (R := fun _ => True) trivial _ db hdb) fun r l' db _ h => ⟨h.1, ?_⟩
  cases r with
  | ok id => exact ⟨d, h.2.2⟩
  | error e => exact h.2.2.base

/-- `lookup` returns what the transaction sees. -/
theorem does_lookup {context : AttemptContext} {d v : Option DurableOutcome} (hf : f.session = some (c, reading t d v)) :
    Does envelope t f (Backend.lookup c context) fun r => ∀ o, r = .ok o → o = v := by
  refine fun l db hdb => wp_call (Q := fun r db => (∀ o, r = .ok o → o = v) ∧ Holds t f db)
    (fun hq hr => ⟨hq.1, hq.2.later hr⟩) hdb (fits_of_uncounted rfl) (fun k hk => by cases hk) ?_
  intro db x r db' hinv hdb hserve
  have hx := (hdb.session c _ hf).1
  cases x <;> simp only [Database.serve, reduceCtorEq, Option.some.injEq, Prod.mk.injEq, Option.ite_none_right_eq_some, hx,
    reading] at hserve
  · obtain ⟨rfl, rfl⟩ := hserve
    exact ⟨fun o ho => (by cases ho), hdb.unlogged rfl⟩
  · obtain ⟨-, rfl, rfl⟩ := hserve
    exact ⟨fun o ho => (Except.ok.inj ho).symm, hdb.unlogged rfl⟩

theorem does_lookupChecked {request : OperationRequest} {context : AttemptContext} {d v : Option DurableOutcome}
    (hf : f.session = some (c, reading t d v)) :
    Does envelope t f (lookupChecked request c context) fun r => ∀ o, r = .ok o → o = v := by
  refine (does_lookup hf).bind (fun o ho => ?_) fun e _ o ho => by cases ho
  refine (does_check (R := fun _ => True) trivial).bind (fun _ _ => does_pure fun o' ho' => ?_) fun e _ o ho => by cases ho
  rw [← Except.ok.inj ho']
  exact ho o rfl

end Transactions

end ATB.Proof.PostgresSerializable
