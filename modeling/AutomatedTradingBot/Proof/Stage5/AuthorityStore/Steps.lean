import AutomatedTradingBot.Source.Stage5.AuthorityStore

/-!
# What the operations of the authority store do

Every operation that moves the store goes through the same four durable steps: the
pending successor, the commit, the anchor, and the end of the pending successor.
`Advance` lists the stores at which it can stop, and the rules below give what holds
wherever an operation stops from what holds at these.

* `wp_publish`: publication;
* `wp_recover`: recovery, by the two repairs it makes;
* `wp_admissionWitness`: an admission, with or without an advance of the high water.
-/

namespace ATB.Proof.AuthorityStore

open ATB.Durable ATB.Stage5.AuthorityStore

variable {env : Environment} {s : Store} {I : Store → Prop}

/-- The witness says that the store may operate. -/
def reportsOperational (s : Store) : Bool :=
  match readAnchor s, readPending s with
  | .ok anchor, .ok pending => (classifyRecovery anchor pending s.database.state.stateDigest).operational
  | _, _ => false

theorem registryRead_eq_ok {name : String} {value read : Option String} :
    registryRead name value = .ok read ↔ value ≠ some "" ∧ read = value := by
  simp only [registryRead, raiseIf_bind_eq_ok, pure_eq_ok]
  exact and_congr_right fun _ => eq_comm

theorem readAnchor_eq_ok {anchor : String} : readAnchor s = .ok anchor ↔ anchor ≠ "" ∧ s.authorityAnchor = some anchor := by
  simp only [readAnchor, bind_eq_ok, registryRead_eq_ok, orRaise_eq_ok]
  constructor
  · rintro ⟨value, ⟨hne, rfl⟩, h⟩
    exact ⟨fun e => hne (by rw [h, e]), h⟩
  · rintro ⟨hne, h⟩
    exact ⟨_, ⟨fun e => hne (Option.some.inj (h.symm.trans e)), rfl⟩, h⟩

theorem readPending_eq_ok {pending : Option String} :
    readPending s = .ok pending ↔ s.authorityPending ≠ some "" ∧ pending = s.authorityPending := registryRead_eq_ok

theorem read_eq_ok {database : Database} {state : AuthorityState} :
    read env database = .ok state ↔ database.state.verify env = .ok () ∧ state = database.state := by
  simp only [Stage5.AuthorityStore.read, bind_eq_ok, pure_eq_ok]
  constructor
  · rintro ⟨⟨⟩, h, rfl⟩
    exact ⟨h, rfl⟩
  · rintro ⟨h, rfl⟩
    exact ⟨(), h, rfl⟩

theorem operational_iff {anchor : String} {pending : Option String} {database : String} :
    (classifyRecovery anchor pending database).operational = true ↔ anchor = database ∧ pending = none := by
  unfold classifyRecovery
  split
  · rename_i h
    exact ⟨fun e => (by cases e), fun e => absurd e.2 h.1⟩
  · split
    · rename_i h
      exact ⟨fun _ => h, fun _ => rfl⟩
    · rename_i h
      refine ⟨fun e => ?_, fun e => absurd e h⟩
      repeat' split at e
      all_goals cases e

/-- The store reports itself operational exactly when the anchor is that of the database and
nothing is pending. -/
theorem reportsOperational_iff : reportsOperational s = true ↔
    s.database.state.stateDigest ≠ "" ∧ s.authorityAnchor = some s.database.state.stateDigest ∧
      s.authorityPending = none := by
  unfold reportsOperational
  split
  · rename_i anchor pending ha hp
    rw [readAnchor_eq_ok] at ha
    rw [readPending_eq_ok] at hp
    rw [operational_iff]
    constructor
    · rintro ⟨rfl, e⟩
      exact ⟨ha.1, ha.2, hp.2.symm.trans e⟩
    · rintro ⟨-, h, e⟩
      exact ⟨Option.some.inj (ha.2.symm.trans h), hp.2.trans e⟩
  · rename_i hno
    refine ⟨fun e => (by cases e), fun ⟨hne, h, e⟩ => ?_⟩
    exact (hno _ _ (readAnchor_eq_ok.mpr ⟨hne, h⟩) (readPending_eq_ok.mpr ⟨by rw [e]; simp, rfl⟩)).elim

/-! ## The four steps -/

/-- Where an advance of the store to the digest `d` can stop, when it commits one of some databases. -/
structure Advance (I : Store → Prop) (s : Store) (d : String) (commits : Database → Prop) : Prop where
  start : I s
  pending : I { s with authorityPending := some d }
  committed : ∀ db, commits db → I { s with database := db, authorityPending := some d }
  anchored : ∀ db, commits db → I ⟨db, some d, some d⟩
  settled : ∀ db, commits db → I ⟨db, some d, none⟩

/-- The store is unchanged and operational, and this is its state. -/
def Ready (env : Environment) (s : Store) (state : AuthorityState) (t : Store) : Prop :=
  t = s ∧ state = s.database.state ∧ s.database.state.verify env = .ok () ∧ reportsOperational s = true

theorem wp_operationalState (hI : I s) : wp (operationalState env) (post (Ready env s) I) s := by
  unfold operationalState
  refine wp_get_bind ?_
  refine wp_check_bind hI ?_
  intro state hstate
  refine wp_check_bind hI ?_
  intro anchor hanchor
  refine wp_check_bind hI ?_
  intro pending hpending
  refine wp_check_bind hI ?_
  intro _ hop
  obtain ⟨hverify, rfl⟩ := read_eq_ok.mp hstate
  refine wp_pure ⟨rfl, rfl, hverify, ?_⟩
  rw [raiseIf_eq_ok, Bool.not_eq_false, operational_iff] at hop
  obtain ⟨hne, ha⟩ := readAnchor_eq_ok.mp hanchor
  exact reportsOperational_iff.mpr ⟨hop.1 ▸ hne, hop.1 ▸ ha, (readPending_eq_ok.mp hpending).2.symm.trans hop.2⟩

theorem wp_writePending {d : String} {G : Unit → Store → Prop} (hI : I s)
    (h : G () { s with authorityPending := some d }) : wp (writePending d) (post G I) s := by
  unfold writePending
  refine wp_get_bind ?_
  refine wp_check_bind hI ?_
  intro _ _
  refine wp_check_bind hI ?_
  intro _ _
  exact wp_write hI h

theorem wp_announce {d message : String} {G : Unit → Store → Prop} (hI : I s)
    (hpending : I { s with authorityPending := some d }) (h : G () { s with authorityPending := some d }) :
    wp (announce d message) (post G I) s := by
  unfold announce
  refine wp_bind (wp_writePending (G := fun _ t => t = { s with authorityPending := some d }) hI rfl) ?_
  rintro - t rfl
  refine wp_get_bind ?_
  refine wp_check_bind hpending ?_
  intro _ _
  exact wp_check hpending fun _ _ => h

theorem wp_commit {expected c p : String} {x : AuthorityState} {r : String} {G : Unit → Store → Prop} (hI : I s)
    (h : ∀ db, commitSuccessor env expected c p x r s.database = .ok db → G () { s with database := db }) :
    wp (commit env expected c p x r) (post G I) s := by
  unfold commit
  refine wp_get_bind ?_
  refine wp_check_bind hI ?_
  intro db hdb
  exact wp_write hI (h db hdb)

theorem wp_clearPending {d : String} {G : Unit → Store → Prop} (hI : I s)
    (h : s.authorityPending = some d → G () { s with authorityPending := none }) :
    wp (clearPending d) (post G I) s := by
  unfold clearPending
  refine wp_get_bind ?_
  refine wp_check_bind hI ?_
  intro pending hpending
  refine wp_check_bind hI ?_
  intro _ hd
  rw [raiseIf_eq_ok, not_not] at hd
  exact wp_write hI (h ((readPending_eq_ok.mp hpending).2.symm.trans hd))

theorem wp_settle {d m m' : String} {G : Unit → Store → Prop} (hI : I s) (ha : I { s with authorityAnchor := some d })
    (hn : I { s with authorityAnchor := some d, authorityPending := none })
    (h : G () { s with authorityAnchor := some d, authorityPending := none }) :
    wp (Stage5.AuthorityStore.settle d m m') (post G I) s := by
  unfold Stage5.AuthorityStore.settle writeAnchor
  refine wp_write_bind hI ?_
  refine wp_get_bind ?_
  refine wp_check_bind ha ?_
  intro _ _
  refine wp_check_bind ha ?_
  intro _ _
  refine wp_bind (wp_clearPending (I := I) (G := fun _ t => t = { s with authorityAnchor := some d, authorityPending := none })
    ha fun _ => rfl) ?_
  rintro - t rfl
  refine wp_get_bind ?_
  refine wp_check_bind hn ?_
  intro _ _
  exact wp_check hn fun _ _ => h

/-! ## The commit -/

theorem requireSuccessor_spec {current x : AuthorityState} {u : Unit} (h : requireSuccessor current x = .ok u) :
    x.sequence = current.sequence + 1 ∧ ¬ x.trustedTimeHighWater < current.trustedTimeHighWater := by
  obtain ⟨hx, -⟩ := raiseIf_bind_eq_ok.mp h
  simp only [not_or, not_not, Text.before_iff] at hx
  exact ⟨hx.2.2.2.1, hx.2.2.2.2.2⟩

/-- What is committed is the successor, and it follows the state of the database. -/
theorem commitSuccessor_spec {e c p : String} {x : AuthorityState} {r : String} {db db' : Database}
    (h : commitSuccessor env e c p x r db = .ok db') :
    db'.state = x ∧ x.verify env = .ok () ∧ x.sequence = db.state.sequence + 1 ∧
      ¬ x.trustedTimeHighWater < db.state.trustedTimeHighWater := by
  simp only [commitSuccessor, bind_eq_ok, pure_eq_ok, read_eq_ok] at h
  obtain ⟨⟨⟩, hverify, -, -, -, -, -, -, -, -, -, -, -, ⟨-, rfl⟩, u, hx, -, -, rfl⟩ := h
  exact ⟨rfl, hverify, requireSuccessor_spec hx⟩

/-! ## The operations -/

theorem commandResult_eq_none {db : Database} {c p d : String} (h : commandResult env db c p d = .ok none) :
    Dict.get? c db.commands = none := by
  unfold commandResult at h
  split at h
  · assumption
  · simp only [bind_eq_ok, pure_eq_ok, reduceCtorEq, and_false, exists_const, exists_false] at h

/-- A publication stops where the advance to its successor can, or before it. -/
theorem wp_publish {c p : String} {x : AuthorityState} {r : String} (hI : I s)
    (h : s.database.state.verify env = .ok () → reportsOperational s = true → Dict.get? c s.database.commands = none →
      Advance I s x.stateDigest fun db =>
        commitSuccessor env s.database.state.stateDigest c p x r s.database = .ok db) :
    wp (publish env c p x r) (post (fun _ => I) I) s := by
  unfold publish
  refine wp_bind (wp_operationalState hI) ?_
  rintro state t ⟨rfl, rfl, hverify, hop⟩
  refine wp_get_bind ?_
  refine wp_check_bind hI ?_
  intro prior hprior
  cases prior with
  | some result => exact wp_pure hI
  | none =>
    have ha := h hverify hop (commandResult_eq_none hprior)
    unfold publishNew
    refine wp_bind (wp_announce (G := fun _ u => u = { t with authorityPending := some x.stateDigest })
      ha.start ha.pending rfl) ?_
    rintro - _ rfl
    refine wp_bind (wp_commit (G := fun _ u => ∃ db, commitSuccessor env t.database.state.stateDigest c p x r t.database = .ok db ∧
      u = { t with database := db, authorityPending := some x.stateDigest }) ha.pending fun db hdb => ⟨db, hdb, rfl⟩) ?_
    rintro - _ ⟨db, hdb, rfl⟩
    have hc := ha.committed db hdb
    refine wp_get_bind ?_
    refine wp_check_bind hc ?_
    intro _ _
    refine wp_check_bind hc ?_
    intro _ _
    exact wp_bind (wp_settle (G := fun _ => I) hc (ha.anchored db hdb) (ha.settled db hdb) (ha.settled db hdb))
      fun _ _ h => wp_pure h

theorem advance_of_classify {anchor : String} {pending : Option String} {database : String}
    (h : (classifyRecovery anchor pending database).disposition = .completeAnchorAdvance) : pending = some database := by
  unfold classifyRecovery at h
  repeat' split at h
  all_goals first | (rename_i h'; exact h'.1) | cases h

theorem resolution_of_classify {anchor : String} {pending : Option String} {database : String}
    (h : (classifyRecovery anchor pending database).disposition = .completePendingResolution) :
    pending = some database ∧ anchor = database := by
  unfold classifyRecovery at h
  repeat' split at h
  all_goals first | (rename_i h'; exact ⟨h'.1.trans (congrArg some h'.2), h'.2⟩) | cases h

/-- Recovery of an operational store returns its state and writes nothing. -/
theorem wp_recover_of_operational (hv : s.database.state.verify env = .ok ()) (ho : reportsOperational s = true) :
    wp (recover env) (post (fun state t => state = s.database.state ∧ t = s) fun _ => False) s := by
  obtain ⟨hne, ha, hp⟩ := reportsOperational_iff.mp ho
  have hread : read env s.database = .ok s.database.state := read_eq_ok.mpr ⟨hv, rfl⟩
  have hanchor : readAnchor s = .ok s.database.state.stateDigest := readAnchor_eq_ok.mpr ⟨hne, ha⟩
  have hpending : readPending s = .ok none := readPending_eq_ok.mpr ⟨by rw [hp]; simp, hp.symm⟩
  have hclass : classifyRecovery s.database.state.stateDigest none s.database.state.stateDigest = ⟨.normalSuccessor, true⟩ := by
    simp [classifyRecovery]
  unfold recover
  refine wp_get_bind ?_
  refine wp_ok_bind hread ?_
  refine wp_ok_bind hpending ?_
  refine wp_ok_bind hanchor ?_
  refine wp_bind (P := fun _ t => t = s) ?_ ?_
  · rw [recover.repair, hclass, if_neg (by simp), if_neg (by simp), raiseIf_of_not (by simp)]
    exact ⟨fun _ => rfl⟩
  · rintro - t rfl
    refine wp_get_bind ?_
    refine wp_ok_bind hanchor ?_
    refine wp_ok_bind hpending ?_
    rw [hclass]
    exact wp_ok_bind (raiseIf_of_not (by simp)) (wp_pure ⟨rfl, rfl⟩)

theorem wp_resolve {d : String} {G : Unit → Store → Prop} (hI : I s) (h : G () { s with authorityPending := none }) :
    wp (recover.resolve (some d)) (post G I) s := by
  unfold recover.resolve
  exact wp_ok_bind rfl (wp_clearPending hI fun _ => h)

/-- The pending successor is what the database holds, and is now anchored. -/
def Completed (s t : Store) : Prop :=
  s.authorityPending = some s.database.state.stateDigest ∧ t = ⟨s.database, some s.database.state.stateDigest, none⟩

/-- The store is as it was, or with the anchor advanced to a pending successor that the database holds. -/
def Unrecovered (s t : Store) : Prop :=
  t = s ∨ s.authorityPending = some s.database.state.stateDigest ∧
    t = { s with authorityAnchor := some s.database.state.stateDigest }

/-- Recovery of a store that is not operational completes a successor, or gives up. -/
theorem wp_recover (ho : reportsOperational s = false) :
    wp (recover env) (post (fun state t => state = s.database.state ∧ Completed s t) (Unrecovered s)) s := by
  have hI : Unrecovered s s := Or.inl rfl
  unfold recover
  refine wp_get_bind ?_
  refine wp_check_bind hI ?_
  intro state hstate
  obtain ⟨-, rfl⟩ := read_eq_ok.mp hstate
  refine wp_check_bind hI ?_
  intro pending hpending
  refine wp_check_bind hI ?_
  intro anchor hanchor
  obtain ⟨hne, ha⟩ := readAnchor_eq_ok.mp hanchor
  have hp := (readPending_eq_ok.mp hpending).2
  refine wp_bind (P := fun _ t => s.database.state.stateDigest ≠ "" ∧ Completed s t) ?_ ?_
  · unfold recover.repair
    split
    · rename_i hd
      have hd := advance_of_classify hd
      have hne : s.database.state.stateDigest ≠ "" := fun e =>
        (readPending_eq_ok.mp hpending).1 (by rw [← hp, hd, e])
      have hanchored : Unrecovered s { s with authorityAnchor := some s.database.state.stateDigest } :=
        Or.inr ⟨hp.symm.trans hd, rfl⟩
      unfold writeAnchor
      refine wp_write_bind hI ?_
      refine wp_get_bind ?_
      refine wp_check_bind hanchored ?_
      intro _ _
      refine wp_check_bind hanchored ?_
      intro _ _
      rw [hd]
      exact wp_resolve hanchored ⟨hne, hp.symm.trans hd, rfl⟩
    · split
      · rename_i hd
        obtain ⟨hd, he⟩ := resolution_of_classify hd
        rw [hd]
        refine wp_resolve hI ⟨he ▸ hne, hp.symm.trans hd, ?_⟩
        rw [← he, ← ha]
      · refine wp_check hI ?_
        intro _ hop
        rw [raiseIf_eq_ok, Bool.not_eq_false, operational_iff] at hop
        obtain ⟨rfl, hnone⟩ := hop
        exact absurd (reportsOperational_iff.mpr ⟨hne, ha, hp.symm.trans hnone⟩) (by rw [ho]; decide)
  · rintro - t ⟨hne, hd, rfl⟩
    refine wp_get_bind ?_
    refine wp_ok_bind (readAnchor_eq_ok.mpr ⟨hne, rfl⟩) ?_
    refine wp_ok_bind (readPending_eq_ok.mpr ⟨by simp, rfl⟩) ?_
    refine wp_ok_bind (raiseIf_of_not ?_) (wp_pure ⟨rfl, hd, rfl⟩)
    rw [Bool.not_eq_false, operational_iff]
    exact ⟨rfl, rfl⟩

/-- The database is as it was. -/
def SameDatabase (s t : Store) : Prop := t.database = s.database

theorem wp_resolve_database {t : Store} {pending : Option String} (ht : SameDatabase s t) :
    wp (recover.resolve pending) (post (fun _ => SameDatabase s) (SameDatabase s)) t := by
  unfold recover.resolve
  refine wp_check_bind ht ?_
  intro _ _
  exact wp_clearPending ht fun _ => ht

/-- Recovery leaves the database. -/
theorem wp_recover_database : wp (recover env) (post (fun _ => SameDatabase s) (SameDatabase s)) s := by
  have hs : SameDatabase s s := rfl
  have hanchored : ∀ d, SameDatabase s { s with authorityAnchor := some d } := fun _ => rfl
  unfold recover
  refine wp_get_bind ?_
  refine wp_check_bind hs ?_
  intro _ _
  refine wp_check_bind hs ?_
  intro _ _
  refine wp_check_bind hs ?_
  intro _ _
  refine wp_bind (P := fun _ => SameDatabase s) ?_ ?_
  · unfold recover.repair writeAnchor
    split
    · refine wp_write_bind hs ?_
      refine wp_get_bind ?_
      refine wp_check_bind (hanchored _) ?_
      intro _ _
      refine wp_check_bind (hanchored _) ?_
      intro _ _
      exact wp_resolve_database (hanchored _)
    · split
      · exact wp_resolve_database hs
      · exact wp_check hs fun _ _ => hs
  · intro _ t ht
    refine wp_get_bind ?_
    refine wp_check_bind ht ?_
    intro _ _
    refine wp_check_bind ht ?_
    intro _ _
    refine wp_check_bind ht ?_
    intro _ _
    exact wp_pure ht

theorem recover_database (env : Environment) (s : Store) (n : Option Nat) : ((recover env).run s n).2.database = s.database :=
  run_of_wp (wp_recover_database (s := s)) (fun _ _ h => h) n

/-- A retry writes nothing. -/
theorem wp_retryResult {c p : String} (hI : I s) : wp (retryResult env c p) (post (fun _ => I) I) s := by
  unfold retryResult
  refine wp_bind (wp_operationalState hI) ?_
  rintro _ t ⟨rfl, -⟩
  refine wp_get_bind ?_
  refine wp_check_bind hI ?_
  intro _ _
  exact wp_check hI fun _ _ => hI

/-- The steps of an advance in a row. -/
theorem wp_advance {d m m' m'' e c p : String} {x : AuthorityState} {r : String} {β : Type} {G : β → Store → Prop}
    {f : Unit → Durable.Operation Store StoreError β}
    (ha : Advance I s d fun db => commitSuccessor env e c p x r s.database = .ok db)
    (h : ∀ db, commitSuccessor env e c p x r s.database = .ok db → wp (f ()) (post G I) ⟨db, some d, none⟩) :
    wp (announce d m >>= fun _ => commit env e c p x r >>= fun _ => Stage5.AuthorityStore.settle d m' m'' >>= f) (post G I) s := by
  refine wp_bind (wp_announce (G := fun _ u => u = { s with authorityPending := some d }) ha.start ha.pending rfl) ?_
  rintro - _ rfl
  refine wp_bind (wp_commit (G := fun _ u => ∃ db, commitSuccessor env e c p x r s.database = .ok db ∧
    u = { s with database := db, authorityPending := some d }) ha.pending fun db hdb => ⟨db, hdb, rfl⟩) ?_
  rintro - _ ⟨db, hdb, rfl⟩
  refine wp_bind (wp_settle (G := fun _ u => u = ⟨db, some d, none⟩) (ha.committed db hdb) (ha.anchored db hdb)
    (ha.settled db hdb) rfl) ?_
  rintro - _ rfl
  exact h db hdb

/-- Where only the database counts, an advance can stop where the commit leaves it. -/
theorem advance_of_database {J : Database → Prop} {d : String} {commits : Database → Prop} (h : J s.database)
    (hc : ∀ db, commits db → J db) : Advance (fun t => J t.database) s d commits where
  start := h
  pending := h
  committed := hc
  anchored := hc
  settled := hc

/-- The state after an expiry. -/
def expiredState (env : Environment) (state : AuthorityState) (observedAt : String) : AuthorityState :=
  let body := { state.toAuthorityBody with
    sequence := state.sequence + 1, trustedTimeHighWater := observedAt, authorityStatus := .expired }
  AuthorityState.create env { body with authorityHead := digest env body.json }

/-- The state after an advance of the high water. -/
def advancedState (env : Environment) (state : AuthorityState) (observedAt : String) : AuthorityState :=
  AuthorityState.create env { state.toAuthorityBody with
    sequence := state.sequence + 1, trustedTimeHighWater := observedAt }

/-- An admission commits nothing, or the expiry, or an advance of the high water. It yields the state that it leaves. -/
theorem wp_admission {J : Database → Prop} {observedAt : String} (hJ : J s.database)
    (hexpire : ∀ c p r db, checkTimes env s.database.state observedAt = .ok true →
      commitSuccessor env s.database.state.stateDigest c p (expiredState env s.database.state observedAt) r s.database = .ok db →
      J db)
    (hadvance : ∀ c p r db, checkTimes env s.database.state observedAt = .ok false →
      commitSuccessor env s.database.state.stateDigest c p (advancedState env s.database.state observedAt) r s.database = .ok db →
      J db) :
    wp (admissionWitness env observedAt)
      (post (fun state t => state = t.database.state ∧ J t.database ∧ checkTimes env s.database.state observedAt = .ok false ∧
          (t.database = s.database ∧ ¬ s.database.state.trustedTimeHighWater < observedAt ∨
            t.database.state = advancedState env s.database.state observedAt))
        fun t => J t.database) s := by
  unfold admissionWitness
  refine wp_bind (wp_operationalState (I := fun t : Store => J t.database) hJ) ?_
  rintro state t ⟨rfl, rfl, -, -⟩
  refine wp_check_bind (I := fun t : Store => J t.database) hJ ?_
  intro expired htimes
  split
  · rename_i hexpired
    subst hexpired
    have hmoved := fun c p r db => hexpire c p r db htimes
    unfold expire
    refine wp_advance (I := fun t : Store => J t.database) (advance_of_database hJ fun db => hmoved _ _ _ db) fun db hdb => ?_
    exact wp_check (I := fun t : Store => J t.database) (hmoved _ _ _ db hdb) fun _ h => (by cases h)
  · rename_i hexpired
    rw [Bool.not_eq_true] at hexpired
    subst hexpired
    split
    · have hmoved := fun c p r db => hadvance c p r db htimes
      unfold advanceTime
      refine wp_advance (I := fun t : Store => J t.database) (advance_of_database hJ fun db => hmoved _ _ _ db) fun db hdb => ?_
      have hx := (commitSuccessor_spec hdb).1
      exact wp_pure ⟨hx.symm, hmoved _ _ _ db hdb, htimes, Or.inr hx⟩
    · rename_i hbefore
      rw [Text.before_iff] at hbefore
      exact wp_pure ⟨rfl, hJ, htimes, Or.inl ⟨rfl, hbefore⟩⟩

/-- An admission leaves the database as it was or with the observed time as its high water, and when
it is made the high water is not below the observed time. -/
theorem wp_admissionWitness {J : Database → Prop} {observedAt : String} (hJ : J s.database)
    (h : ∀ db expired, checkTimes env s.database.state observedAt = .ok expired →
      db.state.trustedTimeHighWater = observedAt →
      ¬ db.state.trustedTimeHighWater < s.database.state.trustedTimeHighWater → J db) :
    wp (admissionWitness env observedAt)
      (post (fun _ t => J t.database ∧ checkTimes env s.database.state observedAt = .ok false ∧
          (t.database.state.trustedTimeHighWater = observedAt ∨
            t.database = s.database ∧ ¬ s.database.state.trustedTimeHighWater < observedAt))
        fun t => J t.database) s := by
  have hmoved : ∀ {c p r db x expired}, x.trustedTimeHighWater = observedAt →
      checkTimes env s.database.state observedAt = .ok expired →
      commitSuccessor env s.database.state.stateDigest c p x r s.database = .ok db → J db := by
    intro c p r db x expired hx htimes hdb
    obtain ⟨rfl, -, -, hle⟩ := commitSuccessor_spec hdb
    exact h db expired htimes hx hle
  refine wp_mono (wp_admission hJ (fun _ _ _ _ => hmoved rfl) fun _ _ _ _ => hmoved rfl) ?_ fun _ h => h
  rintro state t ⟨-, hJt, htimes, ⟨hsame, hle⟩ | hx⟩
  · exact ⟨hJt, htimes, Or.inr ⟨hsame, hle⟩⟩
  · exact ⟨hJt, htimes, Or.inl (by rw [hx]; rfl)⟩

/-! ## Publications that are not cut off -/

section Publish

variable {db : Database} {c p : String} {x : AuthorityState} {r : String}

theorem commitSuccessor_eq_ok {body : Json} (hv : s.database.state.verify env = .ok ()) (hx : x.verify env = .ok ())
    (hr : Json.loads (Text.chars r) = some body) (hd : differs (resultStateDigest body) x.stateDigest = .ok false)
    (hs : sameDigest s.database.state.stateDigest s.database.state.stateDigest = .ok true)
    (hq : requireSuccessor s.database.state x = .ok ()) (hn : Dict.get? c s.database.commands = none) :
    commitSuccessor env s.database.state.stateDigest c p x r s.database =
      .ok ⟨x, Dict.set c ⟨p, digest env (.str (hex r)), r⟩ s.database.commands⟩ := by
  have hnew : requireNew s.database c p = .ok () := by rw [requireNew, hn]
  have hread : Stage5.AuthorityStore.read env s.database = .ok s.database.state := read_eq_ok.mpr ⟨hv, rfl⟩
  simp only [commitSuccessor, hx, hr, hd, hs, hq, hnew, hread, orRaise, ok_bind, raiseIf, Bool.false_eq_true,
    Bool.true_eq_false, if_false]
  rfl

theorem operationalState_ends (hv : s.database.state.verify env = .ok ()) (ho : reportsOperational s = true) :
    Ends (operationalState env) s (.ok s.database.state) s := by
  obtain ⟨hne, ha, hp⟩ := reportsOperational_iff.mp ho
  have hpending : s.authorityPending ≠ some "" := by rw [hp]; simp
  unfold operationalState
  refine Ends.get ?_
  refine (Ends.check (read_eq_ok.mpr ⟨hv, rfl⟩)).bind ?_
  refine (Ends.check (readAnchor_eq_ok.mpr ⟨hne, ha⟩)).bind ?_
  refine (Ends.check (readPending_eq_ok.mpr ⟨hpending, rfl⟩)).bind ?_
  refine (Ends.check (raiseIf_of_not ?_)).bind (Ends.pure _ _)
  rw [Bool.not_eq_false, operational_iff]
  exact ⟨rfl, hp⟩

theorem announce_ends (hp : s.authorityPending = none) {d : String} (hd : d ≠ "") (m : String) :
    Ends (announce d m) s (.ok ()) { s with authorityPending := some d } := by
  have hd' : some d ≠ some "" := fun e => hd (Option.some.inj e)
  have hw : Ends (writePending d) s (.ok ()) { s with authorityPending := some d } := by
    unfold writePending
    refine Ends.get ?_
    refine (Ends.check (readPending_eq_ok.mpr ⟨by rw [hp]; simp, hp.symm⟩)).bind ?_
    exact (Ends.check (raiseIf_of_not (by simp))).bind (Ends.write _ _)
  unfold announce
  refine hw.bind ?_
  refine Ends.get ?_
  refine (Ends.check (readPending_eq_ok.mpr ⟨hd', rfl⟩)).bind ?_
  exact Ends.check (raiseIf_of_not (by simp))

theorem commit_ends {e : String} (hc : commitSuccessor env e c p x r s.database = .ok db) :
    Ends (commit env e c p x r) s (.ok ()) { s with database := db } := by
  unfold commit
  refine Ends.get ?_
  refine Ends.bind (Ends.check hc) ?_
  exact Ends.write _ _

theorem settle_ends {d : String} (hp : s.authorityPending = some d) (hd : d ≠ "") (m m' : String) :
    Ends (Stage5.AuthorityStore.settle d m m') s (.ok ()) ⟨s.database, some d, none⟩ := by
  have hd' : some d ≠ some "" := fun e => hd (Option.some.inj e)
  have hc : Ends (clearPending d) { s with authorityAnchor := some d } (.ok ()) ⟨s.database, some d, none⟩ := by
    unfold clearPending
    refine Ends.get ?_
    refine (Ends.check (readPending_eq_ok.mpr ⟨by rw [hp]; exact hd', hp.symm⟩)).bind ?_
    exact (Ends.check (raiseIf_of_not (by simp))).bind (Ends.write _ _)
  unfold Stage5.AuthorityStore.settle writeAnchor
  refine (Ends.write _ _).bind ?_
  refine Ends.get ?_
  refine (Ends.check (readAnchor_eq_ok.mpr ⟨hd, rfl⟩)).bind ?_
  refine (Ends.check (raiseIf_of_not (by simp))).bind ?_
  refine hc.bind ?_
  refine Ends.get ?_
  refine (Ends.check (readPending_eq_ok.mpr ⟨by simp, rfl⟩)).bind ?_
  exact Ends.check (raiseIf_of_not (by simp))

/-- A publication of a new command that is not cut off comes to the commit of its successor, -/
theorem publish_ends {t : Store} {result : Except (Stop StoreError) String} (hv : s.database.state.verify env = .ok ())
    (ho : reportsOperational s = true) (hn : Dict.get? c s.database.commands = none)
    (h : Ends (publishNew env s.database.state c p x r) s result t) : Ends (publish env c p x r) s result t := by
  have hresult : commandResult env s.database c p s.database.state.stateDigest = .ok none := by rw [commandResult, hn]
  unfold publish
  refine (operationalState_ends hv ho).bind ?_
  refine Ends.get ?_
  exact (Ends.check hresult).bind h

/-- goes on to the end when the successor is committed, -/
theorem publish_run (hv : s.database.state.verify env = .ok ()) (ho : reportsOperational s = true)
    (hn : Dict.get? c s.database.commands = none) (hd : x.stateDigest ≠ "")
    (hc : commitSuccessor env s.database.state.stateDigest c p x r s.database = .ok db) :
    Ends (publish env c p x r) s (.ok r) ⟨db, some x.stateDigest, none⟩ := by
  obtain ⟨-, -, hp⟩ := reportsOperational_iff.mp ho
  obtain ⟨hx, hverify, -⟩ := commitSuccessor_spec hc
  have hread : Stage5.AuthorityStore.read env db = .ok x := read_eq_ok.mpr ⟨by rw [hx]; exact hverify, hx.symm⟩
  have hsame : ¬ x.stateDigest ≠ x.stateDigest := not_not.mpr rfl
  have hcommit : Ends (commit env s.database.state.stateDigest c p x r) { s with authorityPending := some x.stateDigest }
      (.ok ()) ⟨db, s.authorityAnchor, some x.stateDigest⟩ := commit_ends hc
  have hsettle := settle_ends (s := ⟨db, s.authorityAnchor, some x.stateDigest⟩) rfl hd "anchor readback failed"
    "pending witness resolution failed"
  refine publish_ends hv ho hn ?_
  unfold publishNew
  refine (announce_ends hp hd _).bind ?_
  refine hcommit.bind ?_
  refine Ends.get ?_
  dsimp only
  refine (Ends.check hread).bind ?_
  refine (Ends.check (raiseIf_of_not hsame)).bind ?_
  exact hsettle.bind (Ends.pure _ _)

/-- and leaves the successor pending when it is refused. -/
theorem publish_refused (hv : s.database.state.verify env = .ok ()) (ho : reportsOperational s = true)
    (hn : Dict.get? c s.database.commands = none) (hd : x.stateDigest ≠ "")
    (hc : ∀ db, commitSuccessor env s.database.state.stateDigest c p x r s.database ≠ .ok db) :
    ((publish env c p x r).run s none).2 = { s with authorityPending := some x.stateDigest } := by
  obtain ⟨-, -, hp⟩ := reportsOperational_iff.mp ho
  cases hy : commitSuccessor env s.database.state.stateDigest c p x r s.database with
  | ok db => exact absurd hy (hc db)
  | error e =>
    have h : Ends (publishNew env s.database.state c p x r) s (.error (.raised e))
        { s with authorityPending := some x.stateDigest } := by
      unfold publishNew commit
      refine (announce_ends hp hd _).bind ?_
      exact Ends.stop (Ends.get (Ends.stop (Ends.raised hy)))
    rw [(publish_ends hv ho hn h).run]

end Publish

/-! ## A store -/

namespace Sample

/-- The SHA-256 hashes of the texts that the sample hashes, by the length of the text. -/
def hashes : List (Nat × Nat) :=
  [(50, 0x169671014b08eba6f15e73594b83bc41d601fcec8e069c6a6218e71152323ddb),
   (204, 0x4d9a925b5c441dac8553f6b2d96ccb837f6e29a926fd37aa6944223a9cbddc41),
   (206, 0x14a572876493f6c39ab29e398adaf548a1f5bca258866431a7106981a5354fcb),
   (208, 0x2438f2b8e263d24f065e68a23427fcda20cec413122c2b3774714360f08fbd32),
   (290, 0xe163be8976c52e957a50e4abf43aa7ca9b8200dab728404cbd9f118b9dd673b6),
   (552, 0xc6c3bf6e8d3c3037dddecde88f405be46c0f4297199bc48f4b79a205a682cf3f),
   (554, 0x7f37e96eb565cccd7cfae98fe3e9f6a2f5c6840d5c8681437859059688802e2f),
   (555, 0xb3a5d53d1650736b548144ccbfee22e74fbc10103aae35ba036203340ac2ec9a),
   (559, 0xa0f2a28076e2acee826de1e676b06779f4fe22ba737f3c3a21d1f81824ce70b8),
   (561, 0x45dd89c78c23d5e1a16442fd92bcb933eba97b0ab7e08c1b0e058979c92b2ccd)]

def environment : Environment where
  py :=
    { isNfc := fun _ => true
      sha256 := fun text => ⟨((hashes.find? fun h => h.1 = text.length).map Prod.snd).getD 0 % 2 ^ 256,
        Nat.mod_lt _ (Nat.two_pow_pos 256)⟩ }
  fromisoformat text := (Datetime.fromIsoformat? text).map fun r => if r.2 = some 0 then some r.1 else none
  fromisoformat_isoformat t := by rw [Datetime.fromIsoformat?_isoformat]; rfl

def body : AuthorityBody where
  domainIdentity := "domain"
  storeEpoch := "epoch"
  sequence := 1
  authorityId := "authority"
  authorityHead := "head"
  authorityGeneration := 1
  authorityStatus := .active
  authorityValidFrom := "2026-01-05T09:00:00+00:00"
  authorityExpiresAt := "2026-01-05T17:00:00+00:00"
  currency := "USD"
  providerDescriptorDigest := "descriptor"
  providerImplementationIdentity := "provider"
  policyId := "policy"
  policyVersion := 1
  trustedTimeHighWater := "2026-01-05T09:00:00+00:00"
  currentKeyId := "key"
  currentKeyVersion := 1
  keyRecords := ["key:1:SIGN_CURRENT"]

def first : AuthorityState := ⟨body, "c6c3bf6e8d3c3037dddecde88f405be46c0f4297199bc48f4b79a205a682cf3f"⟩

/-- Its successor. -/
def second : AuthorityState :=
  ⟨{ body with sequence := 2, authorityHead := "head-1" }, "7f37e96eb565cccd7cfae98fe3e9f6a2f5c6840d5c8681437859059688802e2f"⟩

end Sample

end ATB.Proof.AuthorityStore
