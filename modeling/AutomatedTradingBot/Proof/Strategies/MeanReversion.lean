import AutomatedTradingBot.Proof.Governance.Records
import AutomatedTradingBot.Proof.Resolution.Calendar
import AutomatedTradingBot.Proof.Strategies.Allocation
import AutomatedTradingBot.Proof.Strategies.Sessions
import AutomatedTradingBot.Source.Strategies.MeanReversion

/-!
# What the mean-reversion strategy allocates

* `eval_construct`: the construction, over whatever answers its calls;
* `construct_correct`: what an accepted request selects and allocates;
* `sessions_exact`: the sessions that an accepted request decides and executes in;
* `strategy_allocation`: the three strategies.
-/

namespace ATB.Proof.Strategies

open ATB.Strategies ATB.Strategies.MeanReversion EqualShares Best
open ATB.Governance (ResearchGovernor Call Reply)

section MeanReversion

variable {env : Environment} {r : MeanReversionRequest} {governor : ResearchGovernor}

/-- A construction that raised is done, and one that did not goes on. -/
theorem eval_construct {S : Type} {answer : S → (c : Call) → Reply c × S} {s : S} :
    (constructMeanReversionPortfolio env governor r).run.eval answer s =
      match r.checkBefore env with
      | .error e => (.error e, s)
      | .ok _ =>
        match (governor.requireAdmitted env.py r.plan r.researchRun).run.eval answer s with
        | (.error e, s') => (.error (.governance e), s')
        | (.ok _, s') => (r.construct env, s') := by
  unfold constructMeanReversionPortfolio
  cases hcheck : r.checkBefore env with
  | error e => rfl
  | ok u =>
    set admitted := (governor.requireAdmitted env.py r.plan r.researchRun).run
    change (((admitted >>= fun x => .ret (x.mapError MeanReversion.Raised.governance)) >>= ExceptT.bindCont fun _ =>
      (liftExcept (r.construct env) : Construction MeanReversionPortfolio)) : Calls.Program Call Reply _).eval answer s = _
    rw [Calls.Program.eval_bind, Calls.Program.eval_bind]
    cases hadmitted : admitted.eval answer s with
    | mk outcome s' =>
      cases outcome with
      | error e => rfl
      | ok event => cases r.construct env <;> rfl

/-- What the accepted request of a mean-reversion portfolio has. -/
structure MeanReversionAccepted (env : Environment) (r : MeanReversionRequest) (sessions : CalendarDay × CalendarDay) :
    Prop where
  check : r.checkAfter = .ok ()
  calendar : decisionAndExecutionSessions r.calendarDays r.decisionTime r.releaseTime = .ok sessions
  score : ∃ window, signalWindow r.calendarDays sessions.1 = .ok window ∧
    ∀ c ∈ r.candidates, r.score env window sessions.1.localDate c = .ok ()

theorem construct_eq_ok {p : MeanReversionPortfolio} :
    r.construct env = .ok p ↔ ∃ sessions, MeanReversionAccepted env r sessions ∧ r.portfolio sessions = p := by
  simp only [MeanReversionRequest.construct, bind_eq_ok, mapError_eq_ok, forM_eq_ok, exists_const, pure_eq_ok]
  constructor
  · rintro ⟨_, hcheck, sessions, hsessions, window, hwindow, hscore, e⟩
    exact ⟨sessions, ⟨hcheck, hsessions, window, hwindow, hscore⟩, e⟩
  · rintro ⟨sessions, ⟨hcheck, hsessions, window, hwindow, hscore⟩, e⟩
    exact ⟨(), hcheck, sessions, hsessions, window, hwindow, hscore, e⟩

theorem checkAfter_eq_ok : r.checkAfter = .ok () ↔
    ¬ (r.manifest.runId ≠ r.researchRun.runId ∨ r.manifest.experimentId ≠ r.plan.experimentId) ∧
      qualified r.qualification ∧ 0 < r.hypotheticalCapital ∧
      (r.candidates.map MeanReversionCandidate.instrumentId).Nodup := by
  simp only [MeanReversionRequest.checkAfter, refuse, positiveDecimal, bind_eq_ok, raiseIf_eq_ok, exists_const, not_le,
    not_not]

def MeanReversionTarget.position (t : MeanReversionTarget) : Position := ⟨t.allocationPrice, t.wholeShares, t.allocatedCash⟩

/-- What a portfolio selects and allocates: a selected name whose share buys nothing is left. -/
def MeanReversionCorrect (r : MeanReversionRequest) (p : MeanReversionPortfolio) : Prop :=
  ∃ chosen, IsBest MeanReversionCandidate.key (r.candidates.length / 5) r.candidates chosen ∧
    p.selectedCount = chosen.length ∧
    (p.targets.map fun t => (t.instrumentId, t.rank, t.signal, t.allocationPrice)) =
      ((chosen.zipIdx 1).filter fun c => c.1.allocationPrice ≤ r.hypotheticalCapital / chosen.length).map
        (fun c => (c.1.instrumentId, c.2, c.1.signal, c.1.allocationPrice)) ∧
    p.unfundedInstruments =
      (chosen.filter fun c => r.hypotheticalCapital / chosen.length < c.allocationPrice).map (·.instrumentId) ∧
    Allocates r.hypotheticalCapital chosen.length (p.targets.map MeanReversionTarget.position) p.residualCash

theorem mean_reversion_count : r.count = r.candidates.length / 5 := by
  rw [MeanReversionRequest.count, selectedCount_eq, MeanReversionRequest.scored, (List.perm_insertionSort _ _).length_eq]

theorem mean_reversion_keys (h : (r.candidates.map MeanReversionCandidate.instrumentId).Nodup) :
    (r.candidates.map MeanReversionCandidate.key).Nodup :=
  nodup_keys (fun _ _ e => (Prod.ext_iff.mp (toLex_inj.mp e)).2) h

/-- A share buys something when it is no less than the price. -/
theorem shares_pos_iff {c : MeanReversionCandidate} (hc : 0 < c.allocationPrice) :
    0 < r.shares c ↔ c.allocationPrice ≤ r.cashPerName := by
  have h := @mul_le_iff r.cashPerName _ hc 1
  rw [Int.cast_one, mul_one] at h
  rw [h, units, ← Int.add_one_le_iff, zero_add]
  rfl

theorem price_pos {window : Calendars.LocalDate × Calendars.LocalDate} {date : Calendars.LocalDate}
    {c : MeanReversionCandidate} (h : r.score env window date c = .ok ()) : 0 < c.allocationPrice := by
  simp only [MeanReversionRequest.score, MeanReversionRequest.validatePrice, positiveDecimal, refuse, bind_eq_ok,
    raiseIf_eq_ok, exists_const, not_le] at h
  obtain ⟨_, -, _, -, h, -⟩ := h
  exact h

/-- The order of the candidates does not matter. -/
theorem construct_perm {p : MeanReversionPortfolio} (h : r.construct env = .ok p)
    {candidates : List MeanReversionCandidate} (hp : candidates.Perm r.candidates) :
    { r with candidates := candidates }.construct env = .ok p := by
  obtain ⟨sessions, haccepted, rfl⟩ := construct_eq_ok.mp h
  obtain ⟨hrun, hq, hcapital, hnodup⟩ := checkAfter_eq_ok.mp haccepted.check
  have hscored : { r with candidates := candidates }.scored = r.scored :=
    (insertionSort_key_eq_of_perm (mean_reversion_keys hnodup) hp.symm).symm
  have hcount : { r with candidates := candidates }.count = r.count := congrArg selectedCount (congrArg _ hscored)
  have hselected : { r with candidates := candidates }.selected = r.selected := by
    rw [MeanReversionRequest.selected, hscored, hcount]
    rfl
  have hshares : { r with candidates := candidates }.shares = r.shares := by
    funext c
    simp only [MeanReversionRequest.shares, MeanReversionRequest.cashPerName, hcount]
  have htarget : { r with candidates := candidates }.target = r.target := by
    funext entry
    simp only [MeanReversionRequest.target, hcount, hshares]
  refine construct_eq_ok.mpr ⟨sessions, ⟨?_, haccepted.calendar, ?_⟩, ?_⟩
  · exact checkAfter_eq_ok.mpr ⟨hrun, hq, hcapital, (hp.map _).nodup_iff.mpr hnodup⟩
  · obtain ⟨window, hwindow, hscore⟩ := haccepted.score
    exact ⟨window, hwindow, fun c hc => hscore c (hp.mem_iff.mp hc)⟩
  · simp only [MeanReversionRequest.portfolio, MeanReversionRequest.targets, MeanReversionRequest.unfunded, hscored,
      hcount, hselected, hshares, htarget]

theorem construct_correct {p : MeanReversionPortfolio} (h : r.construct env = .ok p) : MeanReversionCorrect r p := by
  obtain ⟨sessions, haccepted, rfl⟩ := construct_eq_ok.mp h
  obtain ⟨-, -, hcapital, hnodup⟩ := checkAfter_eq_ok.mp haccepted.check
  have hbest : IsBest MeanReversionCandidate.key (r.candidates.length / 5) r.candidates r.selected := by
    rw [← mean_reversion_count]
    exact isBest_best (mean_reversion_keys hnodup) (mean_reversion_count ▸ Nat.div_le_self _ _)
  have hcount : r.selected.length = r.count := hbest.length.trans mean_reversion_count.symm
  have hprice : ∀ c ∈ r.selected, 0 < c.allocationPrice := by
    intro c hc
    obtain ⟨window, -, hscore⟩ := haccepted.score
    exact price_pos (hscore c (hbest.mem c hc))
  have hcash : r.cashPerName = r.hypotheticalCapital / r.selected.length := by rw [MeanReversionRequest.cashPerName, hcount]
  refine ⟨r.selected, hbest, hcount.symm, ?_, ?_, ?_⟩
  · rw [MeanReversionRequest.portfolio, MeanReversionRequest.targets, List.map_map]
    have hfilter : ((r.selected.zipIdx 1).filter fun entry => 0 < r.shares entry.1) =
        (r.selected.zipIdx 1).filter fun c => c.1.allocationPrice ≤ r.hypotheticalCapital / r.selected.length := by
      refine List.filter_congr fun e he => decide_eq_decide.mpr ?_
      rw [shares_pos_iff (hprice e.1 (List.fst_mem_of_mem_zipIdx he)), hcash]
    rw [hfilter]
    rfl
  · have hfilter : (r.selected.filter fun c => r.shares c ≤ 0) =
        r.selected.filter fun c => r.hypotheticalCapital / r.selected.length < c.allocationPrice := by
      refine List.filter_congr fun c hc => decide_eq_decide.mpr ?_
      rw [← not_lt, shares_pos_iff (hprice c hc), hcash, not_le]
    rw [← hfilter]
    rfl
  · have hlength : ((r.selected.zipIdx 1).filter fun entry => 0 < r.shares entry.1).length ≤ r.selected.length :=
      (List.length_filter_le _ _).trans_eq List.length_zipIdx
    have hall := @allocates _ _ _ _ (fun e => e.1.allocationPrice) hcapital hlength
      fun e he => hprice e.1 (List.fst_mem_of_mem_zipIdx (List.mem_of_mem_filter he))
    rw [hcount] at hall ⊢
    simp only [MeanReversionRequest.portfolio, MeanReversionRequest.targets, List.map_map] at hall ⊢
    exact hall

/-- The endpoints of the candidates are those of the window. -/
theorem endpoint_dates {window : Calendars.LocalDate × Calendars.LocalDate} {date : Calendars.LocalDate}
    {c : MeanReversionCandidate} (h : r.score env window date c = .ok ()) :
    c.start.sessionDate = window.1 ∧ c.stop.sessionDate = window.2 := by
  simp only [MeanReversionRequest.score, MeanReversionRequest.validateEndpoint, refuse, bind_eq_ok, raiseIf_eq_ok,
    exists_const, not_not] at h
  obtain ⟨⟨-, hstart, -⟩, ⟨-, hstop, -⟩, -⟩ := h
  exact ⟨hstart, hstop⟩

theorem accepted_of_eval {S : Type} {answer : S → (c : Call) → Reply c × S} {s : S} {p : MeanReversionPortfolio}
    (h : ((constructMeanReversionPortfolio env governor r).run.eval answer s).1 = .ok p) :
    r.construct env = .ok p ∧ ∀ candidates, candidates.Perm r.candidates →
      (constructMeanReversionPortfolio env governor { r with candidates := candidates }).run.eval answer s =
        (constructMeanReversionPortfolio env governor r).run.eval answer s := by
  rw [eval_construct] at h
  split at h
  · cases h
  · rename_i hcheck
    split at h
    · cases h
    · rename_i hadmitted
      refine ⟨h, fun candidates hp => ?_⟩
      have hcheck' : { r with candidates := candidates }.checkBefore env = r.checkBefore env := by
        have hnil : candidates = [] ↔ r.candidates = [] :=
          ⟨fun e => List.nil_perm.mp (e ▸ hp), fun e => List.perm_nil.mp (e ▸ hp)⟩
        simp only [MeanReversionRequest.checkBefore, refuse, raiseIf_congr hnil]
      rw [eval_construct, eval_construct, hcheck', hcheck]
      dsimp only
      rw [hadmitted]
      exact congrArg (·, _) ((construct_perm h hp).trans h.symm)

/-- What an admitted run constructs. -/
theorem eval_of_admitted {S : Type} {answer : S → (c : Call) → Reply c × S} {s s' : S} {event : Governance.JournalEvent}
    (hcheck : r.checkBefore env = .ok ())
    (hadmitted : (governor.requireAdmitted env.py r.plan r.researchRun).run.eval answer s = (.ok event, s')) :
    (constructMeanReversionPortfolio env governor r).run.eval answer s = (r.construct env, s') := by
  rw [eval_construct, hcheck]
  dsimp only
  rw [hadmitted]

end MeanReversion

/-- The decision session is the last trading session of the week of the decision, and closed
before it; the execution session is the first after it, with every weekday between accounted
for; the release is within it; and five trading sessions end between the two dates of the
endpoints. -/
theorem sessions_exact (days : List CalendarDay) (decisionTime releaseTime : Timestamp) (session execution : CalendarDay)
    (h : decisionAndExecutionSessions days decisionTime releaseTime = .ok (session, execution)) :
    IsDecision days decisionTime session ∧ IsExecution days session releaseTime execution ∧
      decisionTime.value < releaseTime.value ∧
      (∀ days', days'.Perm days →
        decisionAndExecutionSessions days' decisionTime releaseTime = .ok (session, execution)) ∧
      ∀ env (r : MeanReversionRequest) p, r.calendarDays.Perm days → r.decisionTime = decisionTime →
        r.releaseTime = releaseTime → r.construct env = .ok p →
          ∃ window, IsWindow days session window ∧
            ∀ c ∈ r.candidates, c.start.sessionDate = window.1 ∧ c.stop.sessionDate = window.2 := by
  obtain ⟨hdays, hsession, hexecution, hrelease⟩ := sessions_of_accepted h
  have hperm : ∀ days', days'.Perm days →
      decisionAndExecutionSessions days' decisionTime releaseTime = .ok (session, execution) :=
    fun days' hp => (decisionAndExecutionSessions_perm hdays hp).trans h
  refine ⟨hsession, hexecution, hrelease, hperm, ?_⟩
  rintro env r p hp rfl rfl hconstruct
  obtain ⟨sessions, haccepted, -⟩ := construct_eq_ok.mp hconstruct
  cases haccepted.calendar.symm.trans (hperm _ hp)
  obtain ⟨window, hwindow, hscore⟩ := haccepted.score
  rw [signalWindow_perm hdays hp] at hwindow
  exact ⟨window, isWindow_of_signalWindow hwindow, fun c hc => endpoint_dates (hscore c hc)⟩

namespace Sample

open ATB.Calendars
open Resolution.CalendarSample (calendar versionId rule policy)
open Resolution.Sample (uuid)

/-! ### The calendar -/

theorem real_day (n : Nat) : 1 ≤ n % 28 + 1 ∧ n % 28 + 1 ≤ daysInMonth 2026 1 := by
  have h : daysInMonth 2026 1 = 31 := rfl
  omega

/-- A day of January 2026, from 0. -/
def date (n : Nat) : LocalDate :=
  ⟨2026, 1, n % 28 + 1, by decide, by decide, real_day n, by decide, by decide, by decide, by decide⟩

def clock (n hour : Nat) : Timestamp :=
  ⟨⟨2026, 1, n % 28 + 1, hour % 24, 0, 0, 0, by decide, by decide, real_day n, by omega, by decide, by decide, by decide⟩⟩

theorem not_exclusive : ¬ (false = true ∧ false = true) := by decide

theorem no_fold : ∀ f ∈ (none : Option Nat), false = true ∧ f ≤ 1 := by simp

def wall (hour : Nat) : LocalWallTime :=
  ⟨hour % 24, 0, 0, 0, some 0, false, false, none, by omega, by decide, not_exclusive, no_fold⟩

def tradingDay (n : Nat) : TradingDayDefinition :=
  ⟨calendar, versionId 1, date n, .regularTradingDay, [], policy, .valid⟩

theorem walls_existent : (wall 9).nonexistent = false ∧ (wall 17).nonexistent = false := by decide

theorem walls_unambiguous : ∀ t ∈ [wall 9, wall 17], t.ambiguous = true → t.fold ≠ none := by decide

theorem wall_lt : (wall 9).key < (wall 17).key := by decide

theorem clock_lt (n : Nat) : (clock n 9).value < (clock n 17).value := by
  rw [Datetime.lt_def, Datetime.key, Datetime.key]
  simp only [clock]
  omega

def session (n : Nat) : SessionDefinition where
  calendarId := calendar
  calendarVersionId := versionId 1
  localDate := date n
  sessionKind := .regular
  scheduleVariation := .standard
  localOpen := wall 9
  localClose := wall 17
  utcOpen := clock n 9
  utcClose := clock n 17
  timezoneRuleRef := rule
  evidenceRefs := []
  validationPolicyId := policy
  validationState := .valid
  existent := walls_existent
  unambiguous := walls_unambiguous
  localPositive := wall_lt
  utcPositive := clock_lt n

/-- The digest that the sample hashes everything to. -/
def zeros : String := "sha256:0000000000000000000000000000000000000000000000000000000000000000"

/-- A regular trading day from 9 to 17. -/
def day (n : Nat) : CalendarDay where
  calendarId := calendar
  localDate := date n
  result := ⟨.established, some (versionId 1), some (tradingDay n), some (session n), some (clock n 9), some (clock n 17),
    some "timezone-rule:atis/2025b", some ⟨zeros⟩, some zeros, [], [], .uniqueAuthoritativeSession⟩
  constructed := rfl

/-- A Friday, a week, and the Monday after it, in another order. -/
def days : List CalendarDay := [day 11, day 1, day 4, day 5, day 8, day 7, day 6]

end Sample

theorem sessions_exact_sample : IsDecision Sample.days (Sample.clock 8 20) (Sample.day 8) ∧
    IsExecution Sample.days (Sample.day 8) (Sample.clock 11 10) (Sample.day 11) := by
  have h : decisionAndExecutionSessions Sample.days (Sample.clock 8 20) (Sample.clock 11 10) =
      .ok (Sample.day 8, Sample.day 11) := by decide +kernel
  have hexact := sessions_exact Sample.days (Sample.clock 8 20) (Sample.clock 11 10) (Sample.day 8) (Sample.day 11) h
  exact ⟨hexact.1, hexact.2.1⟩

/-- What the three strategies select and allocate, on every request that they accept. -/
theorem strategy_allocation :
    (∀ r p, Momentum.constructMomentumPortfolio r = .ok p → MomentumCorrect r p) ∧
    (∀ r p, Trend.constructTrendPortfolio r = .ok p → TrendCorrect r p) ∧
    ∀ env governor r (S : Type) (answer : S → (c : Call) → Reply c × S) s p,
      ((constructMeanReversionPortfolio env governor r).run.eval answer s).1 = .ok p →
        MeanReversionCorrect r p ∧ ∀ candidates, candidates.Perm r.candidates →
          (constructMeanReversionPortfolio env governor { r with candidates := candidates }).run.eval answer s =
            (constructMeanReversionPortfolio env governor r).run.eval answer s := by
  refine ⟨fun _ _ h => momentum_correct h, fun _ _ h => trend_correct h, fun env governor r S answer s p h => ?_⟩
  obtain ⟨hconstruct, hperm⟩ := accepted_of_eval h
  exact ⟨construct_correct hconstruct, hperm⟩

namespace Sample

open ATB.Calendars (LocalDate)
open ATB.Governance ATB.Proof.Governance
open Resolution.Sample (uuid)

/-! ### The plan and its journal -/

theorem digest_pos : 0 < 2 ^ 256 := Nat.two_pow_pos 256

def platform : Platform := ⟨fun _ => true, fun _ => ⟨0, digest_pos⟩⟩

theorem isResearchIds : isResearchId ("atis:research:project:v1:" ++ zeros) = true ∧
    isResearchId ("atis:research:hypothesis:v1:" ++ zeros) = true ∧
    isResearchId ("atis:research:experiment:v1:" ++ zeros) = true :=
  ⟨by decide +kernel, by decide +kernel, by decide +kernel⟩

def projectId : ResearchProjectId := ⟨"atis:research:project:v1:" ++ zeros, isResearchIds.1⟩
def hypothesisId : HypothesisId := ⟨"atis:research:hypothesis:v1:" ++ zeros, isResearchIds.2.1⟩
def experimentId : ExperimentId := ⟨"atis:research:experiment:v1:" ++ zeros, isResearchIds.2.2⟩
def runId : ResearchRunId := ⟨"atis:research:run:v1:" ++ zeros⟩

def plan : FrozenResearchPlan where
  hypothesis := ⟨hypothesisId, projectId, "p"⟩
  experiment := ⟨experimentId, hypothesisId, zeros, "v", "w"⟩
  configurationDigest := zeros
  parameterDomain := ["d"]
  objective := "o"
  datasetId := "dataset"
  datasetVersion := "1"
  partitionRole := .development
  maximumAdmittedTrials := 1
  ownerApprovalReference := "approval"
  policyIdentity := "policy"
  predecessorPlanDigest := none
  planDigest := zeros

def approval : ApprovalEvidence :=
  ⟨"owner", "source", "task", "S4_08_PLAN_APPROVAL", zeros, none, hypothesisId.value, experimentId.value, zeros,
    "dataset", "1", "DEVELOPMENT", 1, "policy", "approval", zeros⟩

def run : ResearchRun := ⟨runId, experimentId, zeros, none⟩

def governor : ResearchGovernor where
  journal :=
    { journalIdentity := "journal"
      epoch := "epoch"
      checkpoint := some ⟨"journal", "epoch", 2, some zeros, "trust", zeros⟩
      trust := ⟨"trust", .engineeringSimulation, fun _ _ => .ok (), fun _ => .ok ()⟩ }

def event (sequence : Nat) (p : Proposal) : JournalEvent :=
  { p.provisional [] with sequence := sequence, contentDigest := zeros }

def acceptance : Proposal where
  eventId := "plan:" ++ zeros
  kind := .planAccepted
  experimentId := experimentId
  runId := none
  plan := plan
  disposition := "ACCEPTED"
  reasons := []
  details := itemsOf (acceptanceDetails governor plan approval)

/-- The journal of an admitted trial. -/
def journal : List JournalEvent := [event 1 acceptance, event 2 (ResearchGovernor.admission plan run)]

def answer (s : Unit) : (c : Call) → Reply c × Unit
  | .recover _ => (.ok journal, s)
  | .stage => ((), s)
  | .link _ _ => (true, s)
  | .discard => ((), s)

/-! ### The requests -/

theorem isIdentity_policy : isIdentity "policy" = true := by decide
theorem isIdentity_one : isIdentity "1" = true := by decide
theorem isIdentity_evidence : isIdentity "evidence" = true := by decide

theorem references_nonempty : ["evidence"] ≠ [] := by decide
theorem references_nodup : ["evidence"].Nodup := by decide
theorem references_identity : ∀ ref ∈ ["evidence"], isIdentity ref = true := by decide

theorem explained_pass : AssessmentState.pass ≠ .pass → ([] : List String) ≠ [] := fun h => absurd rfl h

theorem start_real : RealTime 2024 1 1 0 0 0 0 := by decide
theorem stop_real : RealTime 2026 12 31 0 0 0 0 := by decide

def assessment (i : Fin 10) : DimensionAssessment where
  dimension := dimensions.get i
  state := .pass
  evidenceRefs := ["evidence"]
  reasons := []
  known := List.get_mem _ _
  evidenceRefs_nonempty := references_nonempty
  evidenceRefs_nodup := references_nodup
  evidenceRefs_identity := references_identity
  explained := explained_pass

def qualification : DatasetQualification where
  qualificationId := "atis:research:dataset-qualification:v1:" ++ zeros
  datasetId := "dataset"
  datasetVersion := "1"
  manifestDigest := zeros
  provenanceDigest := zeros
  policy := ⟨"policy", "1", "evidence", isIdentity_policy, isIdentity_one, isIdentity_evidence⟩
  level := .g1
  claimCeiling := .engineeringOnly
  assessments := (List.finRange 10).map assessment
  coverage := ⟨⟨2024, 1, 1, start_real⟩, ⟨2026, 12, 31, stop_real⟩, by decide⟩
  limitations := []
  predecessorQualificationId := none
  lifecycle := .current
  invalidationReasons := []
  supersededBy := none

def manifest : ResearchEvidenceManifest :=
  ⟨projectId, hypothesisId, experimentId, runId, ⟨zeros, true⟩, ["observation"], [], none, .valid, [],
    "RESEARCH_ONLY_NO_TRADING_AUTHORITY", zeros⟩

def instrument (n : Nat) : InstrumentId := ⟨uuid n⟩

def monthly (n : Nat) (monthEnd : LocalDate) (index : ℚ) : TotalReturnEndpoint :=
  ⟨instrument n, monthEnd, index, clock 0 0, "dataset", "1", ⟨.eligible, clock 8 20⟩⟩

def momentum : Momentum.MomentumRequest where
  candidates := [2, 4, 1, 3, 5].map fun n =>
    ⟨instrument n, monthly n ⟨2024, 12, 31, by decide⟩ 100, monthly n ⟨2025, 11, 30, by decide⟩ (100 + n), 30⟩
  qualification := qualification
  researchRun := run
  decisionTime := clock 8 20
  releaseTime := clock 8 21
  fillTime := clock 8 22
  hypotheticalCapital := 1000
  fixtureMinimum := false

def trend : Trend.TrendRequest where
  candidates := [2, 4, 1, 3, 5].map fun n =>
    ⟨instrument n, .equity, monthly n ⟨2024, 12, 31, by decide⟩ 103, monthly n ⟨2025, 12, 31, by decide⟩ (100 + n), 30⟩
  qualification := qualification
  researchRun := run
  decisionTime := clock 8 20
  releaseTime := clock 8 21
  fillTime := clock 8 22
  hypotheticalCapital := 1000

def environment : Environment := ⟨platform, fun _ => ⟨fun _ _ => .ok true, fun _ _ => .ok true⟩, fun _ => "0"⟩

def pitEvidence (n day : Nat) : MeanReversion.PitEligibilityEvidence :=
  { researchRunId := runId, configurationDigest := zeros, observationId := "observation", inputIds := [],
    instrumentId := instrument n, datasetId := "dataset", qualificationId := qualification.qualificationId,
    inputWindowEnd := clock day 17, availableAt := clock day 18, valueDigest := zeros, decisionTime := clock 8 20 }

def daily (n day : Nat) (index : ℚ) : SessionReturnEndpoint :=
  ⟨instrument n, date day, index, clock day 18, "dataset", "1", pitEvidence n day⟩

def meanReversion : MeanReversionRequest where
  candidates := [2, 4, 1, 3, 5].map fun n => ⟨instrument n, daily n 1 100, daily n 8 (100 - n), 30, pitEvidence n 8⟩
  qualification := qualification
  qualificationPredecessors := []
  researchRun := run
  plan := plan
  manifest := manifest
  calendarDays := days
  decisionTime := clock 8 20
  releaseTime := clock 11 10
  hypotheticalCapital := 1000

/-- What is accepted is a portfolio. -/
theorem exists_of_isSome {ε α : Type} {x : Except ε α} (h : x.toOption.isSome = true) : ∃ a, x = .ok a := by
  obtain ⟨a, ha⟩ := Option.isSome_iff_exists.mp h
  exact ⟨a, ok_of_toOption ha⟩

theorem constructed : (Momentum.constructMomentumPortfolio momentum).toOption.isSome = true ∧
    (Trend.constructTrendPortfolio trend).toOption.isSome = true ∧ plan.Constructed platform :=
  ⟨by decide +kernel, by decide +kernel, by decide +kernel⟩

theorem accepted : governor.acceptedPlansOf platform journal = .ok [(zeros, plan)] := by
  have hfirst : governor.acceptedPlan platform [] (event 1 acceptance) = .ok [(zeros, plan)] :=
    acceptedPlan_acceptance rfl rfl constructed.2.2 rfl
  have hsecond : governor.acceptedPlan platform [(zeros, plan)] (event 2 (ResearchGovernor.admission plan run)) =
      .ok [(zeros, plan)] := if_pos (by decide)
  rw [ResearchGovernor.acceptedPlansOf, journal, List.foldlM_cons, hfirst, ok_bind, List.foldlM_cons, hsecond, ok_bind,
    List.foldlM_nil]
  rfl

theorem eval_history : (Action.history .governor).run.eval answer () = (.ok journal, ()) := rfl

theorem eval_acceptedPlans : (governor.acceptedPlans platform).run.eval answer () = (.ok [(zeros, plan)], ()) := by
  rw [ResearchGovernor.acceptedPlans, eval_bind_ok eval_history, eval_lift, accepted]

/-- The details of the admission of the run. -/
def admissionDetails : List (String × String) :=
  [("replay_of", "none"), ("maximum", "1"), ("reproducibility", zeros)]

theorem admitted : (governor.requireAdmitted platform plan run).run.eval answer () =
    (.ok (event 2 (ResearchGovernor.admission plan run)), ()) := by
  have hrun : governor.checkRun platform plan run = .ok () := by decide +kernel
  have hlineage : (governor.lineage platform plan).run.eval answer () = (.ok [plan], ()) := by
    have h : ResearchGovernor.lineageIn [(zeros, plan)] plan = .ok [plan] := by decide +kernel
    rw [ResearchGovernor.lineage, eval_bind_ok eval_acceptedPlans, eval_lift, h]
  have htrusted : governor.journal.requireCheckpointed journal = .ok () := by decide +kernel
  have honly : ResearchGovernor.onlyAdmission run.runId journal = .ok (event 2 (ResearchGovernor.admission plan run)) := by
    decide +kernel
  have hdetails : detailMap (event 2 (ResearchGovernor.admission plan run)) = .ok admissionDetails :=
    detailMap_eq (by decide +kernel) ⟨by decide, by decide, by decide⟩
  have hbinds : ResearchGovernor.binds plan run admissionDetails (event 2 (ResearchGovernor.admission plan run)) := by
    decide +kernel
  have hstate : (governor.trialState platform run.runId).run.eval answer () = (.ok (some .admitted), ()) := by
    have h : ResearchGovernor.trialStateIn journal run.runId = .ok (some .admitted) := by decide +kernel
    rw [ResearchGovernor.trialState, eval_bind_ok eval_acceptedPlans, eval_bind_ok eval_history, eval_lift, h]
  have hbudget : ¬ plan.maximumAdmittedTrials < (journal.filter fun e =>
      e.kind = .trialAdmitted ∧ e.planDigest ∈ [plan].map FrozenResearchPlan.planDigest).length := by
    decide +kernel
  rw [ResearchGovernor.requireAdmitted, eval_bind_ok (eval_lift.trans (congrArg (·, ()) hrun)), eval_bind_ok hlineage,
    eval_bind_ok eval_history, eval_bind_ok (eval_lift.trans (congrArg (·, ()) htrusted)),
    eval_bind_ok (eval_lift.trans (congrArg (·, ()) honly)), eval_bind_ok (eval_lift.trans (congrArg (·, ()) hdetails)),
    eval_bind_ok (eval_lift.trans (congrArg (·, ()) (raiseIf_of_not (not_not.mpr hbinds)))), eval_bind_ok hstate,
    eval_bind_ok (eval_lift.trans (congrArg (·, ()) (raiseIf_of_not (not_not.mpr rfl)))),
    eval_bind_ok (eval_lift.trans (congrArg (·, ()) (raiseIf_of_not hbudget)))]
  rfl

theorem meanReversion_accepted : meanReversion.checkBefore environment = .ok () ∧
    (meanReversion.construct environment).toOption.isSome = true :=
  ⟨by decide +kernel, by decide +kernel⟩

end Sample

theorem strategy_allocation_sample :
    (∃ p, Momentum.constructMomentumPortfolio Sample.momentum = .ok p ∧ MomentumCorrect Sample.momentum p) ∧
    (∃ p, Trend.constructTrendPortfolio Sample.trend = .ok p ∧ TrendCorrect Sample.trend p) ∧
    ∃ p, ((constructMeanReversionPortfolio Sample.environment Sample.governor Sample.meanReversion).run.eval
      Sample.answer ()).1 = .ok p ∧ MeanReversionCorrect Sample.meanReversion p := by
  obtain ⟨p, hp⟩ := Sample.exists_of_isSome Sample.constructed.1
  obtain ⟨q, hq⟩ := Sample.exists_of_isSome Sample.constructed.2.1
  obtain ⟨m, hm⟩ := Sample.exists_of_isSome Sample.meanReversion_accepted.2
  have hm' : ((constructMeanReversionPortfolio Sample.environment Sample.governor Sample.meanReversion).run.eval
      Sample.answer ()).1 = .ok m :=
    (congrArg Prod.fst (eval_of_admitted Sample.meanReversion_accepted.1 Sample.admitted)).trans hm
  exact ⟨⟨p, hp, strategy_allocation.1 _ _ hp⟩, ⟨q, hq, strategy_allocation.2.1 _ _ hq⟩,
    m, hm', (strategy_allocation.2.2 _ _ _ _ _ _ _ hm').1⟩

end ATB.Proof.Strategies
