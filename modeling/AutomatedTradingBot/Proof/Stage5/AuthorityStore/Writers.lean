import AutomatedTradingBot.Proof.Stage5.AuthorityStore.Fence
import AutomatedTradingBot.Proof.Stage5.AuthorityStore.Rejected
import AutomatedTradingBot.Proof.Stage5.AuthorityStore.Results

/-!
# Concurrent writers

Calls of the service that are not cut off, in any interleaving. A publication writes the
pending successor before its successor is refused, so a management request or key
command that has been overtaken disables the store.

* `perform_outcome`: a section that is undisturbed leaves the store, or commits one
  successor and leaves it operational;
* `writers_run`: what undisturbed runs keep;
* `writers_disable`: two management requests that leave the store disabled.
-/

namespace ATB.Proof.AuthorityStore

open ATB.Durable ATB.Stage5.AuthorityStore
open ATB.Stage5 (dumpsAscii)

variable {env : Environment} {cfg : ServiceConfiguration} {s : Store}

/-! ## Sections that are not cut off -/

theorem retry_ends {c p : String} (hv : s.database.state.verify env = .ok ()) (ho : reportsOperational s = true) :
    ∃ r, Ends (retryResult env c p) s r s ∧ ∀ text, r = .ok text → Named text s.database.state.stateDigest := by
  cases hx : commandResult env s.database c p s.database.state.stateDigest with
  | error e =>
    refine ⟨.error (.raised e), ?_, fun _ h => by cases h⟩
    unfold retryResult
    refine (operationalState_ends hv ho).bind ?_
    exact Ends.get (Ends.stop (Ends.raised hx))
  | ok prior =>
    cases prior with
    | none =>
      refine ⟨.error (.raised (.authorityService "stale Management authority head")), ?_, fun _ h => by cases h⟩
      unfold retryResult
      refine (operationalState_ends hv ho).bind ?_
      refine Ends.get ?_
      exact (Ends.check hx).bind (Ends.raised rfl)
    | some text =>
      refine ⟨.ok text, ?_, ?_⟩
      · unfold retryResult
        refine (operationalState_ends hv ho).bind ?_
        refine Ends.get ?_
        exact (Ends.check hx).bind (Ends.check rfl)
      · rintro _ ⟨⟩
        exact named_commandResult hx

/-- A publication that does not commit. -/
theorem publish_ends_unchanged {c p r : String} {x : AuthorityState} (hv : s.database.state.verify env = .ok ())
    (ho : reportsOperational s = true) (hn : Dict.get? c s.database.commands ≠ none) :
    ∃ result, Ends (publish env c p x r) s result s ∧ ∀ text, result = .ok text → Named text s.database.state.stateDigest := by
  cases hx : commandResult env s.database c p s.database.state.stateDigest with
  | error e =>
    refine ⟨.error (.raised e), ?_, fun _ h => by cases h⟩
    unfold publish
    refine (operationalState_ends hv ho).bind ?_
    exact Ends.get (Ends.stop (Ends.raised hx))
  | ok prior =>
    cases prior with
    | none => exact absurd (commandResult_eq_none hx) hn
    | some text =>
      refine ⟨.ok text, ?_, ?_⟩
      · unfold publish
        refine (operationalState_ends hv ho).bind ?_
        refine Ends.get ?_
        exact (Ends.check hx).bind (Ends.pure _ _)
      · rintro _ ⟨⟩
        exact named_commandResult hx

/-! ### Admissions -/

theorem verify_advanced {state : AuthorityState} {now : Datetime} (hv : state.verify env = .ok ()) :
    (advancedState env state now.isoformat).verify env = .ok () := by
  have hsequence : (0 : ℤ) ≤ state.sequence + 1 := by
    have := sequence_verified hv
    omega
  exact verify_create hv hsequence (head_verified hv) ⟨now, env.fromisoformat_isoformat now⟩

theorem requireSuccessor_advanced {state : AuthorityState} {observedAt : String}
    (h : Text.before state.trustedTimeHighWater observedAt = true) :
    requireSuccessor state (advancedState env state observedAt) = .ok () := by
  have hlt : ¬ Text.before observedAt state.trustedTimeHighWater = true := by
    rw [Text.before_iff] at h ⊢
    exact not_lt.mpr h.le
  have hlt' : ¬ Text.before (advancedState env state observedAt).trustedTimeHighWater state.trustedTimeHighWater = true := hlt
  unfold requireSuccessor
  rw [raiseIf_of_not, ok_bind]
  · have hgeneration : (advancedState env state observedAt).authorityGeneration = state.authorityGeneration := rfl
    rw [if_pos hgeneration, raiseIf_of_not]
    simp [advancedState, AuthorityState.create]
  · rintro (h | h | h | h | h | h)
    · exact h rfl
    · exact h rfl
    · exact h rfl
    · exact h rfl
    · exact h.1 rfl
    · exact hlt' h

theorem admitUnder_advanced {call : AdmitCall} {state : AuthorityState} {now : Datetime} {a : SignedAdmission}
    (hv : state.verify env = .ok ()) (h : admitUnder env cfg call state = .ok a) :
    admitUnder env cfg call (advancedState env state now.isoformat) = .ok a := by
  obtain ⟨_, -, h⟩ := bind_eq_ok.mp h
  unfold admitUnder
  rw [verify_advanced hv, ok_bind]
  exact h

/-- The admission does not find the authority expired, and one that advances the time does so under a command of its
own and is made. -/
def AdmitsUndisturbed (env : Environment) (cfg : ServiceConfiguration) (call : AdmitCall) (db : Database) : Prop :=
  checkTimes env db.state call.now.isoformat ≠ .ok true ∧
    (checkTimes env db.state call.now.isoformat = .ok false →
      Text.before db.state.trustedTimeHighWater call.now.isoformat = true →
      Dict.get? ("TRUSTED_TIME:" ++ call.now.isoformat) db.commands = none ∧ ∃ a, admitUnder env cfg call db.state = .ok a)

theorem advanceTime_ends {now : Datetime} (hv : s.database.state.verify env = .ok ()) (ho : reportsOperational s = true)
    (hbefore : Text.before s.database.state.trustedTimeHighWater now.isoformat = true)
    (hn : Dict.get? ("TRUSTED_TIME:" ++ now.isoformat) s.database.commands = none) :
    ∃ db, db.state = advancedState env s.database.state now.isoformat ∧
      Ends (advanceTime env s.database.state now.isoformat) s (.ok db.state) ⟨db, some db.state.stateDigest, none⟩ := by
  obtain ⟨-, -, hp⟩ := reportsOperational_iff.mp ho
  have hx : (advancedState env s.database.state now.isoformat).verify env = .ok () := verify_advanced hv
  have hne := stateDigest_ne_empty hx
  obtain ⟨db, hdb⟩ := commit_accepted (p := digest env (.obj [("observed_at", .str now.isoformat)])) hv hx
    (named_commandText ("TRUSTED_TIME:" ++ now.isoformat) _) (requireSuccessor_advanced hbefore) hn
  have hstate := (commitSuccessor_spec hdb).1
  refine ⟨db, hstate, ?_⟩
  rw [hstate]
  have hsettle := settle_ends (s := ⟨db, s.authorityAnchor, some (advancedState env s.database.state now.isoformat).stateDigest⟩)
    rfl hne "trusted-time anchor readback failed" "trusted-time pending resolution failed"
  unfold advanceTime
  refine (announce_ends hp hne _).bind ?_
  refine Ends.bind (commit_ends hdb) ?_
  exact hsettle.bind (Ends.pure _ _)

theorem admitExclusive_ends {call : AdmitCall} (hv : s.database.state.verify env = .ok ()) (ho : reportsOperational s = true)
    (h : AdmitsUndisturbed env cfg call s.database) :
    (∃ r, Ends (AuthorityService.admitExclusive env cfg call) s r s) ∨
      ∃ a db, db.state = advancedState env s.database.state call.now.isoformat ∧
        Ends (AuthorityService.admitExclusive env cfg call) s (.ok a) ⟨db, some db.state.stateDigest, none⟩ := by
  unfold AuthorityService.admitExclusive admissionWitness
  cases htimes : checkTimes env s.database.state call.now.isoformat with
  | error e =>
    refine Or.inl ⟨.error (.raised e), Ends.stop ?_⟩
    refine (operationalState_ends hv ho).bind ?_
    exact Ends.stop (Ends.raised htimes)
  | ok expired =>
    cases expired with
    | true => exact absurd htimes h.1
    | false =>
      by_cases hbefore : Text.before s.database.state.trustedTimeHighWater call.now.isoformat = true
      · obtain ⟨hn, a, ha⟩ := h.2 htimes hbefore
        obtain ⟨db, hstate, hends⟩ := advanceTime_ends hv ho hbefore hn
        refine Or.inr ⟨a, db, hstate, Ends.bind ?_ (Ends.check (hstate ▸ admitUnder_advanced hv ha))⟩
        refine (operationalState_ends hv ho).bind ?_
        refine (Ends.check htimes).bind ?_
        rw [if_neg (by simp), if_pos hbefore]
        exact hends
      · have hends : Ends (admissionWitness env call.now.isoformat) s (.ok s.database.state) s := by
          unfold admissionWitness
          refine (operationalState_ends hv ho).bind ?_
          refine (Ends.check htimes).bind ?_
          rw [if_neg (by simp), if_neg hbefore]
          exact Ends.pure _ _
        unfold admissionWitness at hends
        cases ha : admitUnder env cfg call s.database.state with
        | error e => exact Or.inl ⟨.error (.raised e), hends.bind (Ends.raised ha)⟩
        | ok a => exact Or.inl ⟨.ok a, hends.bind (Ends.check ha)⟩

/-! ### All sections -/

/-- The section commits, if anything, a successor that the store accepts. -/
def SectionUndisturbed (env : Environment) (cfg : ServiceConfiguration) (db : Database) : Section → Prop
  | .publish _ commandId _ successor _ => Dict.get? commandId db.commands = none →
      successor.verify env = .ok () ∧ requireSuccessor db.state successor = .ok ()
  | .admitCall call => AdmitsUndisturbed env cfg call db
  | _ => True

/-- What the section of a call was made from. -/
def Prepared (call : AuthorityCall) : Section → Prop
  | .publish current _ _ successor result => Named result successor.stateDigest ∧
      ∀ request, call = .manage request → requestText request "expected_authority_head" = some current.authorityHead
  | .admitCall _ => ∀ request, call ≠ .manage request
  | _ => True

/-- The reply tells of a state. -/
def Tells (v : AuthorityState) : Reply → Prop
  | .result text => Named text v.stateDigest
  | .state x => x = v
  | .admission a => checkAuthority a.envelope v = .ok ()
  | .released => True

/-- The section may commit. -/
def commits : Section → Bool
  | .publish .. => true
  | .admitCall _ => true
  | _ => false

/-- How an undisturbed section ends. -/
structure SectionEnds (env : Environment) (cfg : ServiceConfiguration) (σ : Section) (s : Store)
    (r : Except (Stop StoreError) Reply) (t : Store) : Prop where
  run : (σ.perform env cfg).run s none = (r, t)
  tells : ∀ reply, r = .ok reply → Tells t.database.state reply
  moved : t = s ∨ (∃ reply, r = .ok reply) ∧ t.database.state.verify env = .ok () ∧ reportsOperational t = true ∧
    t.database.state.sequence = s.database.state.sequence + 1 ∧ commits σ = true
  published : ∀ current c p x r, σ = .publish current c p x r → t = s ∨ t.database.state = x

/-- A section that goes on as an operation that leaves the store, -/
theorem sectionEnds_of_unchanged {α : Type} {x : Durable.Operation Store StoreError α} {reply : α → Reply} {σ : Section}
    {r : Except (Stop StoreError) α} (hσ : σ.perform env cfg = x >>= fun a => pure (reply a)) (hx : Ends x s r s)
    (htells : ∀ a, r = .ok a → Tells s.database.state (reply a)) : ∃ r t, SectionEnds env cfg σ s r t := by
  cases r with
  | error e => exact ⟨_, s, by rw [hσ]; exact hx.stop.run, fun _ h => (by cases h), .inl rfl, fun _ _ _ _ _ _ => .inl rfl⟩
  | ok a =>
    have hend : Ends (x >>= fun a => pure (reply a)) s (.ok (reply a)) s := hx.bind (Ends.pure (reply a) s)
    refine ⟨_, s, by rw [hσ]; exact hend.run, ?_, .inl rfl, fun _ _ _ _ _ _ => .inl rfl⟩
    rintro _ ⟨⟩
    exact htells a rfl

/-- or that settles a successor. -/
theorem sectionEnds_of_settled {α : Type} {x : Durable.Operation Store StoreError α} {reply : α → Reply} {σ : Section} {a : α}
    {db : Database} (hσ : σ.perform env cfg = x >>= fun a => pure (reply a))
    (hx : Ends x s (.ok a) ⟨db, some db.state.stateDigest, none⟩) (hv : db.state.verify env = .ok ())
    (hnext : db.state.sequence = s.database.state.sequence + 1) (hcommits : commits σ = true)
    (htells : Tells db.state (reply a)) (hpublished : ∀ current c p x r, σ = .publish current c p x r → db.state = x) : ∃ r t, SectionEnds env cfg σ s r t := by
  have hend : Ends (x >>= fun a => pure (reply a)) s (.ok (reply a)) ⟨db, some db.state.stateDigest, none⟩ :=
    hx.bind (Ends.pure (reply a) _)
  refine ⟨.ok (reply a), ⟨db, some db.state.stateDigest, none⟩, by rw [hσ]; exact hend.run, ?_, .inr ⟨⟨_, rfl⟩, hv, ?_, hnext,
    hcommits⟩, fun current c p x r h => .inr (hpublished current c p x r h)⟩
  · rintro _ ⟨⟩
    exact htells
  · exact reportsOperational_iff.mpr ⟨stateDigest_ne_empty hv, rfl, rfl⟩

/-- A section that reads. -/
theorem sectionEnds_of_wp {σ : Section} {P : Reply → Prop}
    (h : wp (σ.perform env cfg) (post (fun reply t => t = s ∧ P reply) fun t => t = s) s)
    (htells : ∀ reply, P reply → Tells s.database.state reply) : ∃ r t, SectionEnds env cfg σ s r t := by
  have ht : ((σ.perform env cfg).run s none).2 = s := run_of_wp h (fun _ _ h => h.1) none
  refine ⟨((σ.perform env cfg).run s none).1, s, Prod.ext rfl ht, fun reply hr => ?_, .inl rfl, fun _ _ _ _ _ _ => .inl rfl⟩
  exact htells reply (run_of_ok h hr).2

theorem perform_publish {call : AuthorityCall} {current : AuthorityState} {c p r : String} {x : AuthorityState}
    (hv : s.database.state.verify env = .ok ()) (ho : reportsOperational s = true)
    (hp : Prepared call (.publish current c p x r)) (h : SectionUndisturbed env cfg s.database (.publish current c p x r)) :
    ∃ result t, SectionEnds env cfg (.publish current c p x r) s result t := by
  by_cases hn : Dict.get? c s.database.commands = none
  · obtain ⟨hx, hq⟩ := h hn
    obtain ⟨db, hdb⟩ := commit_accepted (p := p) hv hx hp.1 hq hn
    obtain ⟨hstate, -, hnext, -⟩ := commitSuccessor_spec hdb
    have hpublish : Ends (publish env c p x r) s (.ok r) ⟨db, some db.state.stateDigest, none⟩ := by
      rw [hstate]
      exact publish_run hv ho hn (stateDigest_ne_empty hx) hdb
    rw [← hstate] at hx hnext
    refine sectionEnds_of_settled rfl hpublish hx hnext rfl ?_ ?_
    · rw [hstate]
      exact hp.1
    · rintro _ _ _ _ _ ⟨⟩
      exact hstate
  · obtain ⟨result, hends, hnamed⟩ := publish_ends_unchanged (p := p) (x := x) (r := r) hv ho hn
    exact sectionEnds_of_unchanged rfl hends hnamed

theorem perform_admitCall {call : AdmitCall} (hv : s.database.state.verify env = .ok ()) (ho : reportsOperational s = true)
    (h : AdmitsUndisturbed env cfg call s.database) : ∃ r t, SectionEnds env cfg (.admitCall call) s r t := by
  have hanswers : ∀ {t a}, Ends (AuthorityService.admitExclusive env cfg call) s (.ok a) t →
      checkAuthority a.envelope t.database.state = .ok () := by
    intro t a hends
    have hend : Ends ((Section.admitCall call).perform env cfg) s (.ok (.admission a)) t := hends.bind (Ends.pure _ t)
    have hwp : wp ((Section.admitCall call).perform env cfg) _ s := wp_perform trivial
    have hanswer := run_of_ok (n := none) hwp (congrArg Prod.fst hend.run)
    rw [hend.run] at hanswer
    exact hanswer.2
  rcases admitExclusive_ends hv ho h with ⟨r, hends⟩ | ⟨a, db, hstate, hends⟩
  · refine sectionEnds_of_unchanged rfl hends ?_
    rintro a rfl
    exact hanswers hends
  · have hx : db.state.verify env = .ok () := hstate ▸ verify_advanced hv
    have hnext : db.state.sequence = s.database.state.sequence + 1 := by
      rw [hstate]
      rfl
    exact sectionEnds_of_settled rfl hends hx hnext rfl (hanswers hends) (by rintro _ _ _ _ _ ⟨⟩)

theorem perform_ends {call : AuthorityCall} {σ : Section} (hv : s.database.state.verify env = .ok ())
    (ho : reportsOperational s = true) (hp : Prepared call σ) (h : SectionUndisturbed env cfg s.database σ) :
    ∃ r t, SectionEnds env cfg σ s r t := by
  cases σ with
  | retry commandId payloadDigest =>
    obtain ⟨r, hends, hnamed⟩ := retry_ends (p := payloadDigest) (c := commandId) hv ho
    exact sectionEnds_of_unchanged rfl hends hnamed
  | publish current commandId payloadDigest successor result => exact perform_publish hv ho hp h
  | admitCall call => exact perform_admitCall hv ho h
  | recover =>
    have hwp : wp ((Section.recover).perform env cfg) (post (fun reply t => t = s ∧ reply = .state s.database.state) fun t => t = s) s := by
      refine wp_bind (wp_mono (wp_recover_of_operational hv ho) (fun _ _ h => h) fun _ h => h.elim) ?_
      rintro _ _ ⟨rfl, rfl⟩
      exact wp_pure ⟨rfl, rfl⟩
    exact sectionEnds_of_wp hwp fun reply h => by rw [h]; rfl
  | fence call =>
    have hwp : wp ((Section.fence call).perform env cfg) (post (fun reply t => t = s ∧ reply = .state s.database.state) fun t => t = s) s := by
      refine wp_bind (wp_enterFence call) ?_
      rintro _ _ ⟨rfl, rfl, -⟩
      exact wp_pure ⟨rfl, rfl⟩
    exact sectionEnds_of_wp hwp fun reply h => by rw [h]; rfl

theorem prepared_load {call : AuthorityCall} {db : Database} {σ : Section} (h : call.load env cfg db = .ok σ) :
    Prepared call σ := by
  cases call with
  | manage request =>
    obtain ⟨commandId, -, h⟩ := bind_eq_ok.mp h
    obtain ⟨current, -, h⟩ := bind_eq_ok.mp h
    split at h
    · cases h
      trivial
    · rename_i hhead
      obtain ⟨body, -, h⟩ := bind_eq_ok.mp h
      cases h
      refine ⟨named_managedText _ _, ?_⟩
      rintro _ ⟨⟩
      exact not_not.mp hhead
  | key action commandId keyId version =>
    obtain ⟨current, -, h⟩ := bind_eq_ok.mp h
    obtain ⟨successor, -, h⟩ := bind_eq_ok.mp h
    cases h
    exact ⟨named_commandText _ _, fun _ h => by cases h⟩
  | admitCall call =>
    obtain ⟨-, h⟩ := raiseIf_bind_eq_ok.mp h
    cases h
    rintro _ ⟨⟩
  | recover =>
    cases h
    trivial
  | fence call =>
    obtain ⟨_, -, h⟩ := bind_eq_ok.mp h
    cases h
    trivial

/-! ## Runs -/

/-- The call has gone through its section, and has not raised. -/
def succeeded : Phase → Bool
  | .published => true
  | .returned _ => true
  | _ => false

/-- The databases of the run, newest first. -/
def committed (s : Store) (c : Config) : List Database := c.commits.map Commit.database ++ [s.database]

structure Settled (d : Deployment) (s : Store) (c : Config) : Prop where
  inv : Fenced d.env s.database.state.authorityHead c
  verified : c.store.database.state.verify d.env = .ok ()
  operational : reportsOperational c.store = true
  prepared : ∀ i σ, remaining (c.phase i) = some σ → Prepared (d.call i) σ
  done : ∀ k ∈ c.commits, succeeded (c.phase k.call) = true
  once : (c.commits.map Commit.call).Nodup
  current : ∃ rest, committed s c = c.store.database :: rest
  chain : (committed s c).IsChain fun newer older => newer.state.sequence = older.state.sequence + 1
  told : ∀ i reply, c.phase i = .returned reply → ∃ db ∈ committed s c, Tells db.state reply
  managed : ∀ k ∈ c.commits, ∀ request, d.call k.call = .manage request →
    ∃ b l, (.renewed b :: l) <:+ c.log ∧ b.sequence = k.database.state.sequence ∧
      requestText request "expected_authority_head" = some (Fencing.head (bodyDigest d.env) s.database.state.authorityHead l)

variable {d : Deployment} {c c' : Config} {i : ℕ} {ph : Phase}

/-- A step of a call that leaves the store. -/
theorem Settled.goto (h : Settled d s c) (hinv : Fenced d.env s.database.state.authorityHead c') (hstore : c'.store = c.store)
    (hlog : c.log <:+ c'.log) (hcommits : c'.commits = c.commits) (hphase : c'.phase = Function.update c.phase i ph)
    (hprepared : ∀ σ, remaining ph = some σ → Prepared (d.call i) σ)
    (hsucceeded : succeeded (c.phase i) = true → succeeded ph = true)
    (htold : ∀ reply, ph = .returned reply → Tells c.store.database.state reply) : Settled d s c' := by
  have hsame : committed s c' = committed s c := by rw [committed, committed, hcommits]
  refine ⟨hinv, by rw [hstore]; exact h.verified, by rw [hstore]; exact h.operational, ?_, ?_, by rw [hcommits]; exact h.once,
    by rw [hsame, hstore]; exact h.current, by rw [hsame]; exact h.chain, ?_, ?_⟩
  · intro j σ hj
    rw [hphase] at hj
    by_cases e : j = i
    · subst e
      rw [Function.update_self] at hj
      exact hprepared σ hj
    · rw [Function.update_of_ne e] at hj
      exact h.prepared j σ hj
  · intro k hk
    rw [hcommits] at hk
    rw [hphase]
    have hkept := h.done k hk
    by_cases e : k.call = i
    · rw [e, Function.update_self]
      exact hsucceeded (e ▸ hkept)
    · rw [Function.update_of_ne e]
      exact hkept
  · intro j reply hj
    rw [hsame]
    rw [hphase] at hj
    by_cases e : j = i
    · subst e
      rw [Function.update_self] at hj
      obtain ⟨rest, hrest⟩ := h.current
      exact ⟨_, by rw [hrest]; exact List.mem_cons_self .., htold reply hj⟩
    · rw [Function.update_of_ne e] at hj
      exact h.told j reply hj
  · intro k hk request hcall
    rw [hcommits] at hk
    obtain ⟨b, l, hl, hrest⟩ := h.managed k hk request hcall
    exact ⟨b, l, hl.trans hlog, hrest⟩

/-- The events of a section come before the log. -/
theorem after_eq {σ : Section} {r : Except (Stop StoreError) Reply} {t : Store}
    (h : (σ.perform d.env d.cfg).run c.store none = (r, t)) :
    d.after c i σ none = { c with
      store := t
      log := σ.events c.store.database t.database r ++ c.log
      commits := if t.database = c.store.database then c.commits else ⟨i, t.database⟩ :: c.commits } := by
  simp only [Deployment.after, h]

/-- The phase of a call after its section. -/
def concluded (d : Deployment) (i : ℕ) (σ : Section) (t : Store) (r : Except (Stop StoreError) Reply) : Phase :=
  match r, σ with
  | .error stop, _ => .stopped stop
  | .ok _, .fence call => .fenced call.admission t
  | .ok reply, _ => if (d.call i).readsBack then .published else .returned reply

theorem conclude_fields {σ : Section} {r : Except (Stop StoreError) Reply} :
    (d.conclude i σ r c).store = c.store ∧ (d.conclude i σ r c).log = c.log ∧ (d.conclude i σ r c).commits = c.commits ∧
      (d.conclude i σ r c).phase = Function.update c.phase i (concluded d i σ c.store r) := by
  cases r with
  | error stop => exact ⟨rfl, rfl, rfl, rfl⟩
  | ok reply => cases σ <;> exact ⟨rfl, rfl, rfl, rfl⟩

theorem remaining_concluded {σ : Section} {t : Store} {r : Except (Stop StoreError) Reply} :
    remaining (concluded d i σ t r) = none := by
  unfold concluded
  repeat' split
  all_goals rfl

theorem settled_unchanged (h : Settled d s c) {σ : Section} (hi : c.phase i = .locked σ)
    {r : Except (Stop StoreError) Reply} (hends : SectionEnds d.env d.cfg σ c.store r c.store) :
    Settled d s (d.conclude i σ r (d.after c i σ none)) := by
  have hinv := fenced_perform h.inv hi
  rw [hends.run] at hinv
  rw [after_eq hends.run] at hinv ⊢
  rw [if_pos rfl] at hinv ⊢
  obtain ⟨hstore, hlog, hcommits, hphase⟩ := @conclude_fields d { c with
    store := c.store, log := σ.events c.store.database c.store.database r ++ c.log, commits := c.commits } i σ r
  refine h.goto hinv hstore (hlog ▸ List.suffix_append _ _) hcommits hphase ?_ ?_ ?_
  · rw [remaining_concluded]
    rintro _ ⟨⟩
  · rw [hi]
    rintro ⟨⟩
  · intro reply hreply
    refine hends.tells reply ?_
    unfold concluded at hreply
    split at hreply
    · cases hreply
    · cases hreply
    · split at hreply
      · cases hreply
      · cases hreply
        rfl

/-- A management request commits under the head that it expects. -/
theorem managed_commit (h : Settled d s c) {σ : Section} (hi : c.phase i = .locked σ) {reply : Reply} {t : Store}
    (hends : SectionEnds d.env d.cfg σ c.store (.ok reply) t)
    (hnext : t.database.state.sequence = c.store.database.state.sequence + 1) (hcommits : commits σ = true) {request : Json}
    (hcall : d.call i = .manage request) :
    ∃ b l, (.renewed b :: l) <:+ σ.events c.store.database t.database (.ok reply) ++ c.log ∧
      b.sequence = t.database.state.sequence ∧
      requestText request "expected_authority_head" = some (Fencing.head (bodyDigest d.env) s.database.state.authorityHead l) := by
  have hprepared := h.prepared i σ (by rw [hi]; rfl)
  have hloaded := h.inv.loaded i σ (by rw [hi]; rfl)
  cases σ with
  | publish current cp p x r =>
    have hne := ne_of_sequence hnext
    have hrenews : (Section.publish current cp p x r).renews c.store.database t.database = true := decide_eq_true hne
    obtain ⟨-, hsame, b, hx, hsequence, -⟩ := hloaded
    have hstate : t.database.state = x := (hends.published _ _ _ _ _ rfl).resolve_left fun e => hne (by rw [e])
    have hcurrent : current.sequence = c.store.database.state.sequence := by
      rw [hstate, hx, sequence_successorOf] at hnext
      omega
    refine ⟨renewal c.store.database t.database, c.log, ?_, rfl, ?_⟩
    · simp only [Section.events, hrenews, if_true]
      exact List.suffix_rfl
    · rw [hprepared.2 request hcall, hsame hcurrent, h.inv.heads.head]
  | admitCall call => exact absurd hcall (hprepared request)
  | retry _ _ => cases hcommits
  | recover => cases hcommits
  | fence _ => cases hcommits

theorem settled_committed (h : Settled d s c) {σ : Section} (hi : c.phase i = .locked σ) {reply : Reply} {t : Store}
    (hends : SectionEnds d.env d.cfg σ c.store (.ok reply) t) (hv : t.database.state.verify d.env = .ok ())
    (ho : reportsOperational t = true) (hnext : t.database.state.sequence = c.store.database.state.sequence + 1)
    (hcommits : commits σ = true) : Settled d s (d.conclude i σ (.ok reply) (d.after c i σ none)) := by
  have hinv := fenced_perform h.inv hi
  rw [hends.run] at hinv
  rw [after_eq hends.run] at hinv ⊢
  have hne := ne_of_sequence hnext
  rw [if_neg hne] at hinv ⊢
  have hnew : i ∉ c.commits.map Commit.call := by
    intro hmem
    obtain ⟨k, hk, rfl⟩ := List.mem_map.mp hmem
    have hdone := h.done k hk
    rw [hi] at hdone
    cases hdone
  have hconcluded : concluded d i σ t (.ok reply) = if (d.call i).readsBack then .published else .returned reply := by
    cases σ <;> first | rfl | cases hcommits
  obtain ⟨hstore, hlog, hcommitted, hphase⟩ := @conclude_fields d { c with
    store := t, log := σ.events c.store.database t.database (.ok reply) ++ c.log, commits := ⟨i, t.database⟩ :: c.commits } i σ
    (.ok reply)
  obtain ⟨rest, hrest⟩ := h.current
  have hdatabases : committed s (d.conclude i σ (.ok reply) { c with
      store := t, log := σ.events c.store.database t.database (.ok reply) ++ c.log,
      commits := ⟨i, t.database⟩ :: c.commits }) = t.database :: committed s c := by
    rw [committed, hcommitted]
    rfl
  refine ⟨hinv, by rw [hstore]; exact hv, by rw [hstore]; exact ho, ?_, ?_, ?_, ?_, ?_, ?_, ?_⟩
  · intro j σ' hj
    rw [hphase] at hj
    by_cases e : j = i
    · subst e
      rw [Function.update_self, remaining_concluded] at hj
      cases hj
    · rw [Function.update_of_ne e] at hj
      exact h.prepared j σ' hj
  · intro k hk
    rw [hcommitted] at hk
    rw [hphase]
    rcases List.mem_cons.mp hk with rfl | hk
    · rw [Function.update_self, hconcluded]
      split <;> rfl
    · rw [Function.update_of_ne fun e : k.call = i => hnew (e ▸ List.mem_map_of_mem hk)]
      exact h.done k hk
  · rw [hcommitted]
    exact List.nodup_cons.mpr ⟨hnew, h.once⟩
  · rw [hdatabases, hstore]
    exact ⟨_, rfl⟩
  · rw [hdatabases, hrest]
    exact List.isChain_cons_cons.mpr ⟨hnext, hrest ▸ h.chain⟩
  · intro j reply' hj
    rw [hdatabases]
    rw [hphase] at hj
    by_cases e : j = i
    · subst e
      rw [Function.update_self, hconcluded] at hj
      split at hj
      · cases hj
      · cases hj
        exact ⟨_, List.mem_cons_self .., hends.tells reply rfl⟩
    · rw [Function.update_of_ne e] at hj
      obtain ⟨db, hdb, ht⟩ := h.told j reply' hj
      exact ⟨db, List.mem_cons_of_mem _ hdb, ht⟩
  · intro k hk request hcall
    rw [hcommitted] at hk
    rw [hlog]
    rcases List.mem_cons.mp hk with rfl | hk
    · exact managed_commit h hi hends hnext hcommits hcall
    · obtain ⟨b, l, hl, hrest⟩ := h.managed k hk request hcall
      exact ⟨b, l, hl.trans (List.suffix_append _ _), hrest⟩

def PhaseUndisturbed (d : Deployment) (db : Database) : Phase → Prop
  | .locked σ => SectionUndisturbed d.env d.cfg db σ
  | _ => True

/-- The condition on a step: the section that it performs is undisturbed, and nothing crashes. -/
def Undisturbed (d : Deployment) (c : Config) : Label → Prop
  | .call i .perform => PhaseUndisturbed d c.store.database (c.phase i)
  | .call _ _ => True
  | .crash _ _ => False

theorem settled_perform (h : Settled d s c) {σ : Section} (hi : c.phase i = .locked σ)
    (hu : SectionUndisturbed d.env d.cfg c.store.database σ) :
    Settled d s (d.conclude i σ ((σ.perform d.env d.cfg).run c.store none).1 (d.after c i σ none)) := by
  obtain ⟨r, t, hends⟩ := perform_ends h.verified h.operational (h.prepared i σ (by rw [hi]; rfl)) hu
  rw [hends.run]
  rcases hends.moved with rfl | ⟨⟨reply, rfl⟩, hv, ho, hnext, hcommits⟩
  · exact settled_unchanged h hi hends
  · exact settled_committed h hi hends hv ho hnext hcommits

theorem released_of_finish {call : AuthorityCall} {a : SignedAdmission} {request : Option Json} {reply : Reply}
    (h : Deployment.finish (call.released a request) = .returned reply) : reply = .released := by
  cases hr : call.released a request with
  | error e =>
    rw [hr] at h
    cases h
  | ok reply' =>
    rw [hr] at h
    cases h
    unfold AuthorityCall.released at hr
    split at hr
    · obtain ⟨-, hr⟩ := raiseIf_bind_eq_ok.mp hr
      cases hr
      rfl
    · cases hr

theorem settled_act (h : Settled d s c) {action : Action} (hu : Undisturbed d c (.call i action))
    (hs : d.act c i action (c.phase i) = some c') : Settled d s c' := by
  have hinv := fenced_act h.inv hs
  generalize hi : c.phase i = ph₀ at hs
  have hremaining : ∀ σ, remaining ph₀ = some σ → Prepared (d.call i) σ := fun σ hσ => h.prepared i σ (hi ▸ hσ)
  unfold Deployment.act at hs
  split at hs
  · split at hs
    · rename_i σ hload
      cases hs
      refine h.goto hinv rfl List.suffix_rfl rfl rfl ?_ (by rw [hi]; rintro ⟨⟩) (by rintro _ ⟨⟩)
      rintro _ ⟨⟩
      exact prepared_load hload
    · cases hs
      exact h.goto hinv rfl List.suffix_rfl rfl rfl (by rintro _ ⟨⟩) (by rw [hi]; rintro ⟨⟩) (by rintro _ ⟨⟩)
  · dsimp only at hs
    split at hs
    · cases hs
    · cases hs
      exact h.goto hinv rfl List.suffix_rfl rfl rfl hremaining (by rw [hi]; rintro ⟨⟩) (by rintro _ ⟨⟩)
  · dsimp only at hs
    split at hs
    · cases hs
      exact h.goto hinv rfl List.suffix_rfl rfl rfl hremaining (by rw [hi]; rintro ⟨⟩) (by rintro _ ⟨⟩)
    · cases hs
  · dsimp only at hs
    split at hs
    · cases hs
      exact h.goto hinv rfl List.suffix_rfl rfl rfl hremaining (by rw [hi]; rintro ⟨⟩) (by rintro _ ⟨⟩)
    · cases hs
  · split at hs
    · cases hs
      exact h.goto hinv rfl List.suffix_rfl rfl rfl (by rintro _ ⟨⟩) (by rw [hi]; rintro ⟨⟩) (by rintro _ ⟨⟩)
    · cases hs
  · cases hs
    exact h.goto hinv rfl List.suffix_rfl rfl rfl (by rintro _ ⟨⟩) (by rw [hi]; rintro ⟨⟩) (by rintro _ ⟨⟩)
  · cases hs
    exact h.goto hinv rfl List.suffix_rfl rfl rfl (by rintro _ ⟨⟩) (by rw [hi]; rintro ⟨⟩) (by rintro _ ⟨⟩)
  · split at hs
    · cases hs
      exact h.goto hinv rfl List.suffix_rfl rfl rfl hremaining (by rw [hi]; rintro ⟨⟩) (by rintro _ ⟨⟩)
    · cases hs
  · cases hs
    refine settled_perform h hi ?_
    have hphase : PhaseUndisturbed d c.store.database (c.phase i) := hu
    rw [hi] at hphase
    exact hphase
  · rename_i request admission entry
    cases hs
    refine h.goto hinv rfl List.suffix_rfl rfl rfl ?_ (by rw [hi]; rintro ⟨⟩) ?_
    · rw [remaining_finish]
      rintro _ ⟨⟩
    · intro reply hreply
      rw [released_of_finish hreply]
      trivial
  · cases hs
    have hread : (Reply.state <$> Stage5.AuthorityStore.read d.env c.store.database : Except StoreError Reply) =
        .ok (.state c.store.database.state) := by
      rw [read_eq_ok.mpr ⟨h.verified, rfl⟩]
      rfl
    rw [hread] at hinv ⊢
    refine h.goto hinv rfl List.suffix_rfl rfl rfl (by rintro _ ⟨⟩) (fun _ => rfl) ?_
    rintro _ ⟨⟩
    rfl
  · cases hs

theorem settled_initial (d : Deployment) (hv : s.database.state.verify d.env = .ok ()) (ho : reportsOperational s = true) :
    Settled d s (Config.initial s) where
  inv := fenced_initial d.env s
  verified := hv
  operational := ho
  prepared _ _ h := by cases h
  done _ h := by cases h
  once := List.nodup_nil
  current := ⟨[], rfl⟩
  chain := .singleton _
  told _ _ h := by cases h
  managed _ h := by cases h

theorem settled_run {ls : List Label} (hv : s.database.state.verify d.env = .ok ()) (ho : reportsOperational s = true)
    (h : Trace.run d.step (Config.initial s) ls = some c)
    (hu : Trace.Along d.step (Undisturbed d) (Config.initial s) ls) : Settled d s c := by
  refine Trace.run_invariant_along (Settled d s) (fun c l c' hs hu hc => ?_) h hu (settled_initial d hv ho)
  cases l with
  | call i action => exact settled_act hc hu hs
  | crash p writes => exact hu.elim

/-- The sequences of the databases decrease. -/
theorem sequences_decrease {l : List Database}
    (h : l.IsChain fun newer older => newer.state.sequence = older.state.sequence + 1) :
    l.Pairwise fun newer older => older.state.sequence < newer.state.sequence := by
  have : IsTrans Database fun newer older => older.state.sequence < newer.state.sequence := ⟨fun _ _ _ h h' => h'.trans h⟩
  rw [← List.isChain_iff_pairwise]
  exact h.imp fun _ _ h => by omega

/-- Two management requests under the same head do not both commit. -/
theorem managed_once (h : Settled d s c) (hfree : CollisionFree d.env s.database.state.authorityHead c.log) {k k' : Commit}
    (hk : k ∈ c.commits) (hk' : k' ∈ c.commits) {request request' : Json} (hcall : d.call k.call = .manage request)
    (hcall' : d.call k'.call = .manage request')
    (hhead : requestText request "expected_authority_head" = requestText request' "expected_authority_head") :
    k = k' := by
  obtain ⟨b, l, hl, hsequence, hexpected⟩ := h.managed k hk request hcall
  obtain ⟨b', l', hl', hsequence', hexpected'⟩ := h.managed k' hk' request' hcall'
  have hsame : Fencing.head (bodyDigest d.env) s.database.state.authorityHead l =
      Fencing.head (bodyDigest d.env) s.database.state.authorityHead l' := by
    rw [hexpected, hexpected'] at hhead
    exact Option.some.inj hhead
  have hn := nodup_heads h.inv.heads hfree
  have heq : b = b' := by
    rcases List.suffix_or_suffix_of_suffix hl hl' with hsuffix | hsuffix
    · rcases List.suffix_cons_iff.mp hsuffix with e | hbefore
      · exact Fencing.Event.renewed.inj (List.cons.inj e).1
      · exact absurd hsame.symm (Fencing.head_ne_of_renewed hn hbefore ((List.suffix_cons _ _).trans hl'))
    · rcases List.suffix_cons_iff.mp hsuffix with e | hbefore
      · exact (Fencing.Event.renewed.inj (List.cons.inj e).1).symm
      · exact absurd hsame (Fencing.head_ne_of_renewed hn hbefore ((List.suffix_cons _ _).trans hl))
  have hpairwise := (List.pairwise_append.mp (sequences_decrease h.chain)).1
  have hdistinct : (c.commits.map fun k => k.database.state.sequence).Nodup := by
    rw [List.Nodup, List.pairwise_map]
    exact (List.pairwise_map.mp hpairwise).imp fun hlt => (ne_of_lt hlt).symm
  exact List.inj_on_of_nodup_map hdistinct hk hk' (by rw [← hsequence, ← hsequence', heq])

/-- In a run from an operational store whose sections are undisturbed the store is operational in every state; the
states committed follow one another; what a call returns tells of one of them; a call commits at most once, and one
that has not succeeded has committed nothing; and of the management requests that expect one head at most one commits. -/
theorem writers_run {ls : List Label} (hv : s.database.state.verify d.env = .ok ()) (ho : reportsOperational s = true)
    (h : Trace.run d.step (Config.initial s) ls = some c)
    (hu : Trace.Along d.step (Undisturbed d) (Config.initial s) ls) :
    c.store.database.state.verify d.env = .ok () ∧ reportsOperational c.store = true ∧
      (∃ rest, committed s c = c.store.database :: rest) ∧
      (committed s c).IsChain (fun newer older => newer.state.sequence = older.state.sequence + 1) ∧
      (∀ i reply, c.phase i = .returned reply → ∃ db ∈ committed s c, Tells db.state reply) ∧
      (((committed s c).map fun db => db.state.stateDigest).Nodup → ∀ i text, c.phase i = .returned (.result text) →
        ∃! db, db ∈ committed s c ∧ Named text db.state.stateDigest) ∧
      (c.commits.map Commit.call).Nodup ∧
      (∀ k ∈ c.commits, c.phase k.call = .published ∨ ∃ reply, c.phase k.call = .returned reply) ∧
      (CollisionFree d.env s.database.state.authorityHead c.log →
        ∀ k ∈ c.commits, ∀ k' ∈ c.commits, ∀ request request', d.call k.call = .manage request →
          d.call k'.call = .manage request' →
          requestText request "expected_authority_head" = requestText request' "expected_authority_head" → k = k') := by
  have hs := settled_run hv ho h hu
  refine ⟨hs.verified, hs.operational, hs.current, hs.chain, hs.told, fun hdigests i text hi => ?_, hs.once, fun k hk => ?_, ?_⟩
  · obtain ⟨db, hdb, hnamed⟩ := hs.told i _ hi
    refine ⟨db, ⟨hdb, hnamed⟩, ?_⟩
    rintro db' ⟨hdb', hnamed'⟩
    exact List.inj_on_of_nodup_map hdigests hdb' hdb (named_unique hnamed' hnamed)
  · have hdone := hs.done k hk
    cases hphase : c.phase k.call with
    | published => exact .inl rfl
    | returned reply => exact .inr ⟨reply, rfl⟩
    | _ =>
      rw [hphase] at hdone
      cases hdone
  · intro hfree k hk k' hk' request request' hcall hcall' hhead
    exact managed_once hs hfree hk hk' hcall hcall' hhead

/-! ## Samples -/

instance decidableOk {ε α : Type} : (x : Except ε α) → Decidable (∃ a, x = .ok a)
  | .ok a => .isTrue ⟨a, rfl⟩
  | .error _ => .isFalse (by simp)

instance (env : Environment) (cfg : ServiceConfiguration) (call : AdmitCall) (db : Database) :
    Decidable (AdmitsUndisturbed env cfg call db) :=
  inferInstanceAs (Decidable (_ ∧ (_ → _ → _ ∧ _)))

instance (env : Environment) (cfg : ServiceConfiguration) (db : Database) : (σ : Section) →
    Decidable (SectionUndisturbed env cfg db σ)
  | .publish .. => inferInstanceAs (Decidable (_ → _ ∧ _))
  | .admitCall _ => inferInstanceAs (Decidable (AdmitsUndisturbed ..))
  | .retry .. => .isTrue trivial
  | .recover => .isTrue trivial
  | .fence _ => .isTrue trivial

instance (d : Deployment) (db : Database) : (ph : Phase) → Decidable (PhaseUndisturbed d db ph)
  | .locked _ => inferInstanceAs (Decidable (SectionUndisturbed ..))
  | .idle | .ready _ | .waiting _ | .entered _ | .fenced .. | .published | .returned _ | .stopped _ => .isTrue trivial

instance (d : Deployment) (c : Config) : (l : Label) → Decidable (Undisturbed d c l)
  | .call _ .perform => inferInstanceAs (Decidable (PhaseUndisturbed ..))
  | .call _ .load | .call _ .announce | .call _ .enter | .call _ .timeOut | .call _ .lock | .call _ (.release _)
  | .call _ .readBack => .isTrue trivial
  | .crash .. => .isFalse fun h => h

/-! ## A writer alone -/

section Alone

variable {d : Deployment} {c : Config} {i : ℕ}

/-- The three steps of a writer before its section. -/
theorem run_turn {σ : Section} (hphase : c.phase i = .ready σ)
    (hσ : σ.isReader = false) (hlock : c.fileLock = none) (hgate : c.gate (d.process i) = {}) :
    Trace.run d.step c [.call i .announce, .call i .enter, .call i .lock] =
      some { c with
        fileLock := some i
        gate := Function.update c.gate (d.process i) { writerActive := true }
        phase := Function.update c.phase i (.locked σ) } := by
  simp [Trace.run, Deployment.step, Deployment.act, Deployment.goto, Deployment.setGate, hphase, hσ, hgate, hlock]

/-- Where a writer is after its section. -/
def ending (call : AuthorityCall) : Except (Stop StoreError) Reply → Phase
  | .error stop => .stopped stop
  | .ok reply => if call.readsBack then .published else .returned reply

/-- A writer that is alone at its gate and finds no lock goes through its section, and leaves both as they were. -/
theorem run_goOn {σ : Section} {r : Except (Stop StoreError) Reply} {t : Store}
    (hphase : c.phase i = .ready σ) (hσ : σ.isReader = false) (hlock : c.fileLock = none)
    (hgate : c.gate (d.process i) = {}) (hrun : (σ.perform d.env d.cfg).run c.store none = (r, t)) :
    Trace.run d.step c [.call i .announce, .call i .enter, .call i .lock, .call i .perform] =
      some ⟨t, none, c.gate, Function.update c.phase i (ending (d.call i) r), σ.events c.store.database t.database r ++ c.log,
        if t.database = c.store.database then c.commits else ⟨i, t.database⟩ :: c.commits⟩ := by
  have hturn := run_turn hphase hσ hlock hgate
  have hback : Function.update c.gate (d.process i) {} = c.gate := by rw [← hgate, Function.update_eq_self]
  refine (Trace.run_append (s := c) : _ ↔ ∃ _, Trace.run d.step c [_, _, _] = _ ∧ Trace.run d.step _ [_] = _).mpr ⟨_, hturn, ?_⟩
  refine Trace.run_cons.mpr ⟨_, ?_, Trace.run_nil.mpr rfl⟩
  simp only [Deployment.step, Deployment.act, Function.update_self, Deployment.after, hrun]
  cases r with
  | error stop =>
    simp [Deployment.conclude, Deployment.goto, Deployment.unlock, Deployment.leave,
      Deployment.setGate, hσ, ending, hback]
  | ok reply =>
    cases σ with
    | fence call => cases hσ
    | _ => simp [Deployment.conclude, Deployment.goto, Deployment.unlock, Deployment.leave,
      Deployment.setGate, hσ, ending, hback]

/-- A management request under the current head is loaded as the publication of its successor. -/
theorem load_manage {db : Database} {request : Json} {commandId : String} {body : AuthorityBody}
    (hv : db.state.verify env = .ok ()) (hc : managedCommandId request = .ok commandId)
    (hhead : requestText request "expected_authority_head" = some db.state.authorityHead)
    (hbody : managedBody db.state request = .ok body) :
    (AuthorityCall.manage request).load env cfg db = .ok (.publish db.state commandId (digest env request)
      (successorOf env body) (managedText commandId (successorOf env body))) := by
  have hread : Stage5.AuthorityStore.read env db = .ok db.state := read_eq_ok.mpr ⟨hv, rfl⟩
  refine bind_eq_ok.mpr ⟨_, hc, bind_eq_ok.mpr ⟨_, hread, ?_⟩⟩
  rw [if_neg (not_not.mpr hhead)]
  exact bind_eq_ok.mpr ⟨_, hbody, rfl⟩

/-- Under another head it is loaded as the repetition of a command. -/
theorem load_manage_retry {db : Database} {request : Json} {commandId : String} (hv : db.state.verify env = .ok ())
    (hc : managedCommandId request = .ok commandId)
    (hhead : requestText request "expected_authority_head" ≠ some db.state.authorityHead) :
    (AuthorityCall.manage request).load env cfg db = .ok (.retry commandId (digest env request)) := by
  have hread : Stage5.AuthorityStore.read env db = .ok db.state := read_eq_ok.mpr ⟨hv, rfl⟩
  refine bind_eq_ok.mpr ⟨_, hc, bind_eq_ok.mpr ⟨_, hread, ?_⟩⟩
  rw [if_pos hhead]
  rfl

theorem step_load {σ : Section} (hphase : c.phase i = .idle) (h : (d.call i).load d.env d.cfg c.store.database = .ok σ) :
    d.step c (.call i .load) = some { c with phase := Function.update c.phase i (.ready σ) } := by
  simp [Deployment.step, Deployment.act, Deployment.goto, hphase, h]

end Alone

namespace Sample

def manage (commandId operation : String) : AuthorityCall :=
  .manage (.obj [("command_id", .str commandId), ("operation", .str operation), ("expected_authority_head", .str "head")])

/-- Two management requests under one head. -/
def writers : Deployment where
  env := environment
  cfg := service
  call i := if i = 1 then manage "m1" "REVOKE" else manage "m2" "ROTATE_SUPERSEDE"
  process i := i

/-- The rest of a writer, once it has loaded. -/
def goOn (i : ℕ) : List Label := [.call i .announce, .call i .enter, .call i .lock, .call i .perform]

/-- The second request is loaded after the first has committed. -/
def apart : List Label := writer 1 ++ [.call 2 .load]

/-- Both requests are loaded before either is performed. -/
def together : List Label := [.call 1 .load, .call 2 .load] ++ goOn 1 ++ goOn 2

def ended : Phase → Option Bool
  | .returned _ => some true
  | .stopped _ => some false
  | _ => none

def initialStore : Store := ⟨⟨first, []⟩, some first.stateDigest, none⟩

def command (i : ℕ) : String := if i = 1 then "m1" else "m2"
def status (i : ℕ) : RetainedAuthorityStatus := if i = 1 then .revoked else .superseded
def request (i : ℕ) : Json :=
  .obj [("command_id", .str (command i)), ("operation", .str (if i = 1 then "REVOKE" else "ROTATE_SUPERSEDE")),
    ("expected_authority_head", .str "head")]

/-- What a writer makes of the first state. -/
def changed (i : ℕ) : AuthorityState := successorOf environment { first.toAuthorityBody with sequence := 2, authorityStatus := status i }

theorem changed_verify (i : ℕ) : (changed i).verify environment = .ok () := verify_successorOf first_verify (by decide)

theorem requireSuccessor_changed (i : ℕ) : requireSuccessor first (changed i) = .ok () :=
  requireSuccessor_successorOf (.inr (by unfold status; split <;> decide))

/-- The section of a writer that is loaded first. -/
def publication (i : ℕ) : Section :=
  .publish first (command i) (digest environment (request i)) (changed i) (managedText (command i) (changed i))

theorem call_writers (i : ℕ) : writers.call i = .manage (request i) := by
  by_cases h : i = 1 <;> simp [writers, manage, request, command, h]

theorem managed_request (i : ℕ) : managedCommandId (request i) = .ok (command i) ∧
    requestText (request i) "expected_authority_head" = some "head" ∧
    managedBody first (request i) = .ok { first.toAuthorityBody with sequence := 2, authorityStatus := status i } := by
  unfold request command status
  split
  · exact ⟨rfl, rfl, rfl⟩
  · exact ⟨rfl, rfl, rfl⟩

theorem load_first (i : ℕ) : (writers.call i).load writers.env writers.cfg ⟨first, []⟩ = .ok (publication i) := by
  obtain ⟨hc, hhead, hbody⟩ := managed_request i
  rw [call_writers]
  exact load_manage first_verify hc hhead hbody

/-- The store after the first section. -/
def changedStore (i : ℕ) (row : CommandRow) : Store := ⟨⟨changed i, Dict.set (command i) row initialStore.database.commands⟩, some (changed i).stateDigest, none⟩

theorem perform_first (i : ℕ) : ∃ row, ((publication i).perform environment service).run initialStore none =
    (.ok (.result (managedText (command i) (changed i))), changedStore i row) := by
  obtain ⟨row, h⟩ : ∃ row, Ends (publish environment (command i) (digest environment (request i)) (changed i)
      (managedText (command i) (changed i))) initialStore (.ok (managedText (command i) (changed i))) (changedStore i row) :=
    ⟨_, publish_accepted (s := initialStore) first_verify (reportsOperational_settled first_verify) (changed_verify i)
      (named_managedText (command i) _) (requireSuccessor_changed i) rfl⟩
  have hends : Ends ((publication i).perform environment service) initialStore
      (.ok (.result (managedText (command i) (changed i)))) (changedStore i row) :=
    h.bind (Ends.pure (Reply.result (managedText (command i) (changed i))) (changedStore i row))
  exact ⟨row, hends.run⟩

theorem changed_ne (i : ℕ) (commands commands' : List (String × CommandRow)) :
    (⟨changed i, commands⟩ : Database) ≠ ⟨first, commands'⟩ := by
  intro h
  have hsequence : (changed i).sequence = first.sequence := congrArg (fun db => db.state.sequence) h
  exact absurd (show (2 : ℤ) = 1 from hsequence) (by decide)

/-- The configuration after a load. -/
def loaded (c : Config) (i : ℕ) : Config := { c with phase := Function.update c.phase i (.ready (publication i)) }

/-- Both writers have loaded. -/
def bothLoaded : Config := loaded (loaded (Config.initial initialStore) 1) 2

theorem loaded_phase (c : Config) (i : ℕ) : (loaded c i).phase i = .ready (publication i) := Function.update_self ..

theorem step_loaded {c : Config} {i : ℕ} (hphase : c.phase i = .idle) (hstore : c.store = initialStore) :
    writers.step c (.call i .load) = some (loaded c i) :=
  step_load hphase (hstore ▸ load_first i)

/-- The configuration after the first section. -/
def afterFirst (phase : ℕ → Phase) (i : ℕ) (row : CommandRow) (log : List Stage5.AuthorityStore.Event) : Config where
  store := changedStore i row
  fileLock := none
  gate _ := {}
  phase := Function.update phase i (.returned (.result (managedText (command i) (changed i))))
  log := log
  commits := [⟨i, (changedStore i row).database⟩]

theorem afterFirst_phase (phase : ℕ → Phase) (i : ℕ) (row : CommandRow) (log : List Stage5.AuthorityStore.Event) :
    (afterFirst phase i row log).phase i = .returned (.result (managedText (command i) (changed i))) := Function.update_self ..

theorem run_first {c : Config} {i : ℕ} (hphase : c.phase i = .ready (publication i)) (hstore : c.store = initialStore)
    (hlock : c.fileLock = none) (hgate : c.gate = fun _ => {}) (hcommits : c.commits = []) :
    ∃ row log, Trace.run writers.step c (goOn i) = some (afterFirst c.phase i row log) := by
  obtain ⟨row, hperform⟩ := perform_first i
  have hperform' : ((publication i).perform writers.env writers.cfg).run c.store none =
      (.ok (.result (managedText (command i) (changed i))), changedStore i row) := hstore ▸ hperform
  have hgo := run_goOn (d := writers) hphase rfl hlock (congrFun hgate _) hperform'
  have hne : ¬ (changedStore i row).database = c.store.database := by
    rw [hstore]
    exact changed_ne i _ _
  rw [if_neg hne, hgate, hcommits, call_writers] at hgo
  exact ⟨row, _, hgo⟩

theorem refused_second {i j : ℕ} (row : CommandRow) : Refused environment (changedStore i row) (command j)
    (digest environment (request j)) (changed j) (managedText (command j) (changed j)) := by
  intro db hdb
  obtain ⟨-, -, hsequence, -⟩ := commitSuccessor_spec hdb
  exact absurd (show (2 : ℤ) = 2 + 1 from hsequence) (by decide)

/-- The second section is refused: its successor is not that of the state that it finds. -/
theorem perform_second {i j : ℕ} (hij : command j ≠ command i) (row : CommandRow) :
    ∃ e, ((publication j).perform environment service).run (changedStore i row) none =
      (.error (.raised e), { changedStore i row with authorityPending := some (changed j).stateDigest }) := by
  have hn : Dict.get? (command j) (changedStore i row).database.commands = none := by
    rw [changedStore, Dict.get?_set_ne hij.symm]
    rfl
  obtain ⟨e, h⟩ := publish_rejected_ends (s := changedStore i row) (changed_verify i)
    (reportsOperational_settled (changed_verify i)) hn (refused_second row)
  have hends : Ends ((publication j).perform environment service) (changedStore i row) (.error (.raised e))
      { changedStore i row with authorityPending := some (changed j).stateDigest } := Ends.stop (x := publish environment _ _ _ _) h
  exact ⟨e, hends.run⟩

theorem along_writer (i : ℕ) : Trace.Along writers.step (Undisturbed writers) (Config.initial initialStore) (writer i) := by
  have hload : writers.step (Config.initial initialStore) (.call i .load) = some (loaded (Config.initial initialStore) i) :=
    step_loaded rfl rfl
  have hturn := run_turn (d := writers) (loaded_phase (Config.initial initialStore) i) rfl rfl rfl
  have hlocked : Trace.run writers.step (Config.initial initialStore)
      [.call i .load, .call i .announce, .call i .enter, .call i .lock] = some _ := Trace.run_cons.mpr ⟨_, hload, hturn⟩
  refine (Trace.along_append hlocked).mpr (show _ ∧ Trace.Along _ _ _ [Label.call i .perform] from ⟨?_, ?_, fun _ _ => trivial⟩)
  · exact ⟨trivial, fun _ _ => ⟨trivial, fun _ _ => ⟨trivial, fun _ _ => ⟨trivial, fun _ _ => trivial⟩⟩⟩⟩
  · have hphase : Function.update (loaded (Config.initial initialStore) i).phase i (.locked (publication i)) i =
        Phase.locked (publication i) := Function.update_self ..
    refine show PhaseUndisturbed writers _ (Function.update (loaded (Config.initial initialStore) i).phase i _ i) from ?_
    rw [hphase]
    exact fun _ => ⟨changed_verify i, requireSuccessor_changed i⟩
end Sample

theorem writers_run_sample : ∃ c, Trace.run Sample.writers.step (Config.initial Sample.initialStore) Sample.apart = some c ∧
    (c.commits.map Commit.call, Sample.ended (c.phase 1), Sample.ended (c.phase 2)) = ([1], some true, none) ∧
    reportsOperational c.store = true := by
  have hload := Sample.step_loaded (c := Config.initial Sample.initialStore) (i := 1) rfl rfl
  obtain ⟨row, log, hgo⟩ := Sample.run_first (c := Sample.loaded (Config.initial Sample.initialStore) 1) (i := 1)
    (Sample.loaded_phase _ 1) rfl rfl rfl rfl
  have hhead : requestText (Sample.request 2) "expected_authority_head" ≠ some (Sample.changed 1).authorityHead := by
    intro h
    have hlength := congrArg (fun t => t.toList.length) (Option.some.inj h)
    simp [Sample.changed, successorOf, AuthorityState.create, digest, Platform.hexdigest, Uuid.length_hexChars] at hlength
  have hretry : (AuthorityCall.manage (Sample.request 2)).load Sample.environment Sample.service
      (Sample.changedStore 1 row).database = .ok _ :=
    load_manage_retry (Sample.changed_verify 1) (Sample.managed_request 2).1 hhead
  have hlast := step_load (d := Sample.writers) (i := 2)
    (c := Sample.afterFirst (Sample.loaded (Config.initial Sample.initialStore) 1).phase 1 row log) rfl
    (by rw [Sample.call_writers]; exact hretry)
  have hwriter : Trace.run Sample.writers.step (Config.initial Sample.initialStore) (Sample.writer 1) = some _ :=
    Trace.run_cons.mpr ⟨_, hload, hgo⟩
  have hrun : Trace.run Sample.writers.step (Config.initial Sample.initialStore) Sample.apart = some _ :=
    Trace.run_append.mpr ⟨_, hwriter, Trace.run_cons.mpr ⟨_, hlast, Trace.run_nil.mpr rfl⟩⟩
  have hu : Trace.Along Sample.writers.step (Undisturbed Sample.writers) (Config.initial Sample.initialStore) Sample.apart := by
    refine (Trace.along_append hwriter).mpr ⟨Sample.along_writer 1, ?_⟩
    exact ⟨True.intro, fun _ _ => True.intro⟩
  exact ⟨_, hrun, rfl, (writers_run (d := Sample.writers) (s := Sample.initialStore) Sample.first_verify
    (reportsOperational_settled Sample.first_verify) hrun hu).2.1⟩

/-- Two management requests, each of which succeeds alone, leave the store disabled. -/
theorem writers_disable :
    Sample.first.verify Sample.writers.env = .ok () ∧ reportsOperational Sample.initialStore = true ∧
      (∀ i ∈ [1, 2], ((Trace.run Sample.writers.step (Config.initial Sample.initialStore) (Sample.writer i)).bind
        fun c => Sample.ended (c.phase i)) = some true) ∧
      ((Trace.run Sample.writers.step (Config.initial Sample.initialStore) Sample.together).map fun c =>
        (Sample.ended (c.phase 1), Sample.ended (c.phase 2), reportsOperational c.store)) = some (some true, some false, false) := by
  refine ⟨Sample.first_verify, reportsOperational_settled Sample.first_verify, fun i _ => ?_, ?_⟩
  · obtain ⟨row, log, hgo⟩ := Sample.run_first (Sample.loaded_phase (Config.initial Sample.initialStore) i) rfl rfl rfl rfl
    have hrun : Trace.run Sample.writers.step (Config.initial Sample.initialStore) (Sample.writer i) = some _ :=
      Trace.run_cons.mpr ⟨_, Sample.step_loaded rfl rfl, hgo⟩
    rw [hrun, Option.bind_some, Sample.afterFirst_phase]
    rfl
  · obtain ⟨row, log, hfirst⟩ := Sample.run_first
      (c := Sample.bothLoaded) (i := 1) rfl rfl rfl rfl rfl
    obtain ⟨e, hperform⟩ := Sample.perform_second (i := 1) (j := 2) (by decide) row
    have hsecond := run_goOn (d := Sample.writers) (i := 2)
      (c := Sample.afterFirst Sample.bothLoaded.phase 1 row log)
      rfl rfl rfl rfl hperform
    have hloads : Trace.run Sample.writers.step (Config.initial Sample.initialStore) [.call 1 .load, .call 2 .load] =
        some Sample.bothLoaded :=
      Trace.run_cons.mpr ⟨_, Sample.step_loaded rfl rfl, Trace.run_cons.mpr ⟨_, Sample.step_loaded rfl rfl,
        Trace.run_nil.mpr rfl⟩⟩
    obtain ⟨c, hrun, hphase₁, hphase₂, hstore⟩ : ∃ c,
        Trace.run Sample.writers.step (Config.initial Sample.initialStore) Sample.together = some c ∧
          Sample.ended (c.phase 1) = some true ∧ c.phase 2 = .stopped (.raised e) ∧
          c.store = { Sample.changedStore 1 row with authorityPending := some (Sample.changed 2).stateDigest } :=
      ⟨_, Trace.run_append.mpr ⟨_, Trace.run_append.mpr ⟨_, hloads, hfirst⟩, hsecond⟩, rfl,
        Function.update_self (β := fun _ => Phase) 2 (.stopped (.raised e))
          (Sample.afterFirst Sample.bothLoaded.phase 1 row log).phase, rfl⟩
    have hdisabled : reportsOperational c.store = false := by
      rw [hstore, Bool.eq_false_iff]
      intro h
      obtain ⟨-, -, hp⟩ := reportsOperational_iff.mp h
      cases hp
    rw [hrun, Option.map_some, hphase₁, hphase₂, hdisabled]
    rfl

end ATB.Proof.AuthorityStore
