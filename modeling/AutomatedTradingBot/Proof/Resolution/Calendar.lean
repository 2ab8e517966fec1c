import AutomatedTradingBot.Proof.Resolution.LookAhead
import AutomatedTradingBot.Source.CalendarResolution

/-!
# A calendar resolution reads what is known

`known` deletes from the candidates what is known only after the cut-off. Every part
of the resolver reads the candidates through a filter that keeps only what is known,
so each comes out the same on `known`; the currentness assessments are the exception,
where a later one changes the reason of a result and nothing else.

* `visible_known`: the visible versions and facts are the same;
* `selectVersion_known`, `resolveSession_known`: the parts before and after the
  currentness;
* `calendar_no_look_ahead`: the answer of the resolver.
-/

namespace ATB.Proof.Resolution

open ATB.Instruments ATB.Calendars

/-- The fact is bound to a version that is known only after the cut-off. -/
def ofLaterVersion (query : CalendarSessionResolutionQuery) (versions : List CalendarVersion) (id : CalendarVersionId) :
    Bool :=
  decide (id ∈ versions.map CalendarVersion.calendarVersionId) && decide (id ∉ visibleIds query versions)

/-- The candidates without what is known only after the cut-off. -/
def known (query : CalendarSessionResolutionQuery) (c : CalendarSessionResolutionCandidates) :
    CalendarSessionResolutionCandidates :=
  { c with
    calendarVersions := visibleVersions query c.calendarVersions
    historicalCoverages :=
      c.historicalCoverages.filter fun f => !ofLaterVersion query c.calendarVersions f.calendarVersionId
    tradingDayDefinitions :=
      c.tradingDayDefinitions.filter fun f => !ofLaterVersion query c.calendarVersions f.calendarVersionId
    sessionDefinitions :=
      c.sessionDefinitions.filter fun f => !ofLaterVersion query c.calendarVersions f.calendarVersionId
    negativeCoverage := c.negativeCoverage.filter fun n => decide (n.knowledgeFrom.value ≤ query.knowledgeCutoff.value)
    currentnessAssessments :=
      c.currentnessAssessments.filter fun a => decide (a.knowledgeFrom.value ≤ query.knowledgeCutoff.value)
    correctionAuthorityAssessments :=
      c.correctionAuthorityAssessments.filter fun a => decide (a.knowledgeFrom.value ≤ query.knowledgeCutoff.value) }

section Known

variable (env : Environment) (query : CalendarSessionResolutionQuery) (c : CalendarSessionResolutionCandidates)

theorem visibleVersions_idem (versions : List CalendarVersion) :
    visibleVersions query (visibleVersions query versions) = visibleVersions query versions := by
  rw [visibleVersions, visibleVersions, List.filter_filter]
  simp only [Bool.and_self]

theorem visibleIds_idem (versions : List CalendarVersion) :
    visibleIds query (visibleVersions query versions) = visibleIds query versions := by
  rw [visibleIds, visibleVersions_idem, visibleIds]

/-- A visible fact is not of a later version. -/
theorem filter_visible {F : Type} (id : F → CalendarVersionId) (facts : List F) :
    (facts.filter fun f => !ofLaterVersion query c.calendarVersions (id f)).filter
        (fun f => decide (id f ∈ visibleIds query c.calendarVersions)) =
      facts.filter fun f => decide (id f ∈ visibleIds query c.calendarVersions) := by
  rw [List.filter_filter]
  refine List.filter_congr fun f _ => ?_
  by_cases h : id f ∈ visibleIds query c.calendarVersions <;> simp [ofLaterVersion, h]

theorem visible_known : visible query (known query c) = visible query c := by
  simp only [visible, known, visibleVersions_idem, visibleIds_idem, filter_visible]

theorem withinLimits_known (h : c.withinLimits) : (known query c).withinLimits := by
  simp only [CalendarSessionResolutionCandidates.withinLimits, List.mem_cons, List.not_mem_nil, or_false,
    forall_eq_or_imp, forall_eq] at h ⊢
  obtain ⟨hv, hc, hd, hs, ht, hu, ha⟩ := h
  exact ⟨(List.length_filter_le _ _).trans hv, (List.length_filter_le _ _).trans hc,
    (List.length_filter_le _ _).trans hd, (List.length_filter_le _ _).trans hs, ht,
    (List.length_filter_le _ _).trans hu, (List.length_filter_le _ _).trans ha⟩

theorem negativeCoverage_known : (known query c).negativeCoverage =
    c.negativeCoverage.filter fun n => decide (n.knowledgeFrom.value ≤ query.knowledgeCutoff.value) := rfl

theorem validNegative_known (py : Platform) (coverage : CalendarCandidateSetCoverage) (evidence : List EvidenceKey) :
    validNegative py query (known query c).negativeCoverage coverage evidence =
      validNegative py query c.negativeCoverage coverage evidence := by
  rw [validNegative, validNegative, negativeCoverage_known]
  refine filter_filter_of_imp (fun n hn => ?_) c.negativeCoverage
  simp only [Bool.and_eq_true] at hn
  exact hn.1.1.1.2

theorem negativeOrMissing_known (py : Platform) (coverage : CalendarCandidateSetCoverage) (evidence : List EvidenceKey) :
    negativeOrMissing py query (known query c).negativeCoverage coverage evidence =
      negativeOrMissing py query c.negativeCoverage coverage evidence := by
  rw [negativeOrMissing, validNegative_known, negativeOrMissing]

theorem authorityFor_known (successor predecessor : CalendarVersionId) :
    authorityFor query (known query c).correctionAuthorityAssessments successor predecessor =
      authorityFor query c.correctionAuthorityAssessments successor predecessor := by
  rw [authorityFor, authorityFor, known, List.filter_filter]
  refine List.filter_congr fun a _ => ?_
  by_cases h : a.knowledgeFrom.value ≤ query.knowledgeCutoff.value <;> simp [h]

theorem admit_known (seen : Visible) :
    admitVersion query (known query c).correctionAuthorityAssessments seen =
      admitVersion query c.correctionAuthorityAssessments seen := by
  funext so version
  simp only [admitVersion, authorityFor_known]

theorem selectVersion_known (coverage : CalendarCandidateSetCoverage) (seen : Visible) :
    selectVersion env query (known query c) coverage seen = selectVersion env query c coverage seen := by
  rw [selectVersion, selectVersion, negativeOrMissing_known, admit_known]

theorem timezoneRuleCorpora_known : (known query c).timezoneRuleCorpora = c.timezoneRuleCorpora := rfl

theorem candidateSetCoverage_known : (known query c).candidateSetCoverage = c.candidateSetCoverage := rfl

theorem resolveSession_known (coverage : CalendarCandidateSetCoverage) (seen : Visible) (selected : CalendarVersion)
    (authorities : List CalendarCorrectionAuthorityAssessment) (currentness : CalendarCurrentnessAssessment) :
    resolveSession env query (known query c) coverage seen selected authorities currentness =
      resolveSession env query c coverage seen selected authorities currentness := by
  simp only [resolveSession, selectDay, negativeOrMissing_known, selectSession, checkNegative,
    validNegative_known, timezoneRuleCorpora_known]

end Known

/-! ## The answer -/

/-- What a result says but for its reason and its evidence. -/
structure CalendarAnswer where
  disposition : ResolutionDisposition
  selectedCalendarVersionId : Option CalendarVersionId
  tradingDay : Option TradingDayDefinition
  session : Option SessionDefinition
  utcOpen : Option Timestamp
  utcClose : Option Timestamp
deriving DecidableEq

def answerOf (r : CalendarSessionResolutionResult) : CalendarAnswer :=
  ⟨r.disposition, r.selectedCalendarVersionId, r.tradingDay, r.session, r.utcOpen, r.utcClose⟩

/-- The answer with which the computation stops. -/
def answerOfStop : Stop → Outcome CalendarAnswer
  | .returned r => .ok (answerOf r)
  | .raised e => .error e

/-- The answer of the resolver, from where its computation ends. -/
theorem answerOf_resolveCalendarSession (env : Environment) (query : CalendarSessionResolutionQuery)
    (c : CalendarSessionResolutionCandidates) :
    answerOf <$> resolveCalendarSession env query c =
      match (resolution env query c).mapError answerOfStop with
      | .ok r => .ok (answerOf r)
      | .error o => o := by
  rw [resolveCalendarSession]
  rcases resolution env query c with (r | e) | r <;> rfl

/-- A later assessment is no reason to take a version for current, and none against it. -/
theorem selectCurrentness_known (query : CalendarSessionResolutionQuery) (c : CalendarSessionResolutionCandidates)
    (selected : CalendarVersion) :
    (selectCurrentness query (known query c).currentnessAssessments selected).mapError answerOfStop =
      (selectCurrentness query c.currentnessAssessments selected).mapError answerOfStop := by
  have happlicable : (currentnessOf query (known query c).currentnessAssessments selected).filter
        (fun a => decide (a.knowledgeFrom.value ≤ query.knowledgeCutoff.value)) =
      (currentnessOf query c.currentnessAssessments selected).filter
        fun a => decide (a.knowledgeFrom.value ≤ query.knowledgeCutoff.value) := by
    rw [currentnessOf, currentnessOf, known, List.filter_filter, List.filter_filter, List.filter_filter]
    refine List.filter_congr fun a _ => ?_
    by_cases h : a.knowledgeFrom.value ≤ query.knowledgeCutoff.value <;> simp [h]
  simp only [selectCurrentness, happlicable]
  generalize (currentnessOf query c.currentnessAssessments selected).filter _ = applicable
  -- only the reason for no applicable assessment looks at the others
  by_cases hnone : applicable = []
  · simp only [hnone, raiseIf_of, error_bind]
    rfl
  · simp only [raiseIf_of_not hnone, ok_bind]

/-- Deleting what is known only after the cut-off, with the facts of the deleted versions,
leaves the answer as it was. -/
theorem calendar_no_look_ahead (env : Environment) (query : CalendarSessionResolutionQuery)
    (candidates : CalendarSessionResolutionCandidates) (h : candidates.withinLimits) :
    answerOf <$> resolveCalendarSession env query (known query candidates) =
      answerOf <$> resolveCalendarSession env query candidates := by
  rw [answerOf_resolveCalendarSession, answerOf_resolveCalendarSession]
  have hresolution : (resolution env query (known query candidates)).mapError answerOfStop =
      (resolution env query candidates).mapError answerOfStop := by
    have hlimits : ∀ e : Stop, raiseIf (¬ (known query candidates).withinLimits) e =
        raiseIf (¬ candidates.withinLimits) e := by
      intro e
      rw [raiseIf_of_not (not_not.mpr h), raiseIf_of_not (not_not.mpr (withinLimits_known query candidates h))]
    simp only [resolution, hlimits, visible_known, candidateSetCoverage_known, selectVersion_known,
      resolveSession_known]
    refine mapError_bind rfl fun _ => mapError_bind rfl fun _ => mapError_bind rfl fun coverage =>
      mapError_bind rfl fun _ => mapError_bind rfl fun selection =>
        mapError_bind (selectCurrentness_known query candidates selection.1) fun currentness => rfl
  rw [hresolution]

namespace CalendarSample

open Sample (uuid uuid_uuid4 instant evidence)

def calendar : CalendarId := ⟨uuid 1, uuid_uuid4 1⟩
def versionId (n : Nat) : CalendarVersionId := ⟨uuid n, uuid_uuid4 n⟩
def newYear : LocalDate := ⟨2026, 1, 1, by decide⟩
def policy : String := "validation-policy:atis/calendar"

def rule : TimezoneRuleRef :=
  ⟨"Europe/London", "timezone-rule:atis/2025b", ⟨"sha256:" ++ String.ofList (List.replicate 64 '1')⟩,
    [evidence "rule" ("sha256:" ++ String.ofList (List.replicate 64 '2'))], policy, .valid⟩

def first : CalendarVersion :=
  { calendarVersionId := versionId 1, calendarId := calendar, marketCode := "UK", venueCode := "XLON",
    effectiveFrom := instant 0, effectiveTo := none, knowledgeFrom := instant 0, timezoneRuleRef := rule,
    evidenceRefs := [evidence "version" ("sha256:" ++ String.ofList (List.replicate 64 '3'))],
    validationPolicyId := policy, validationState := .valid, supersedesVersionId := none, correctionReason := none,
    correctionEvidenceRefs := [], positive := by simp, notSelf := by simp, corrected := ⟨rfl, rfl⟩ }

/-- A correction that is known a second after the cut-off. -/
def second : CalendarVersion :=
  { first with
    calendarVersionId := versionId 2, knowledgeFrom := instant 11, supersedesVersionId := some (versionId 1),
    correctionReason := some "SOURCE_CORRECTION",
    correctionEvidenceRefs := [evidence "correction" ("sha256:" ++ String.ofList (List.replicate 64 '4'))],
    positive := by simp [first], notSelf := by decide, corrected := by simp }

def covered : HistoricalCoverage :=
  { calendarId := calendar, calendarVersionId := versionId 1, localDateFrom := newYear,
    localDateTo := ⟨2027, 1, 1, by decide⟩, coverageState := .covered, coverageKnowledgeFrom := none,
    evidenceRefs := [evidence "covered" ("sha256:" ++ String.ofList (List.replicate 64 '5'))],
    validationPolicyId := policy, validationState := .valid, positive := by decide }

def holiday : TradingDayDefinition :=
  { calendarId := calendar, calendarVersionId := versionId 1, localDate := newYear, dayKind := .exchangeHoliday,
    evidenceRefs := [evidence "day" ("sha256:" ++ String.ofList (List.replicate 64 '6'))],
    validationPolicyId := policy, validationState := .valid }

def query : CalendarSessionResolutionQuery :=
  ⟨calendar, newYear, .regular, instant 10, instant 10, instant 20, by decide⟩

def currentness : CalendarCurrentnessAssessment :=
  { calendarId := calendar, calendarVersionId := versionId 1, knowledgeFrom := instant 5, evaluationAt := instant 5,
    validFrom := instant 0, validTo := none, state := .current, validationPolicyId := policy,
    evidenceRefs := [evidence "currentness" ("sha256:" ++ String.ofList (List.replicate 64 '7'))],
    validationState := .valid, positive := by simp }

/-- SHA-256 of the records of the sample, by the lengths of their texts. -/
def digests : List (Nat × Nat) :=
  [(1132, 0x7549a0dd86f84b336215a1796a4fcbebb033ac8ad6ea72236ff596e23bfc8321),
   (614, 0x3e3c64236e962d8ecc2c9b366025a2ed9f197367f65d1d3de4937038ccf42e08),
   (543, 0x71b9461d3a772be71d3129473f7a2e7f75569677122b85639993ad38b9449958)]

def environment : Environment where
  py :=
    { isNfc := fun _ => true
      sha256 := fun text => ⟨((digests.find? fun d => d.1 = text.length).map Prod.snd).getD 0 % 2 ^ 256,
        Nat.mod_lt _ (Nat.two_pow_pos 256)⟩ }
  fromBytes _ := ⟨"sha256:" ++ String.ofList (List.replicate 64 '1')⟩

def manifest : CalendarCandidateSetCoverage :=
  { calendarId := calendar, localDate := newYear, sessionKind := .regular, effectiveAsOf := instant 10,
    knowledgeCutoff := instant 10, evaluationAt := instant 20, knowledgeFrom := instant 9,
    candidateVersionIds := [versionId 1],
    candidateFactDescriptors :=
      [⟨"TRADING_DAY", versionId 1, "2026-01-01", none,
          "sha256:71b9461d3a772be71d3129473f7a2e7f75569677122b85639993ad38b9449958"⟩,
        ⟨"HISTORICAL_COVERAGE", versionId 1, "2026-01-01/2027-01-01", none,
          "sha256:3e3c64236e962d8ecc2c9b366025a2ed9f197367f65d1d3de4937038ccf42e08"⟩],
    evidenceRefs := [evidence "manifest" ("sha256:" ++ String.ofList (List.replicate 64 '8'))],
    validationPolicyId := policy, validationState := .valid }

/-- The correction, a day of its own and its assessment come after the cut-off. -/
def candidates : CalendarSessionResolutionCandidates :=
  { calendarVersions := [first, second]
    historicalCoverages := [covered]
    tradingDayDefinitions := [holiday, { holiday with calendarVersionId := versionId 2, dayKind := .regularTradingDay }]
    sessionDefinitions := []
    timezoneRuleCorpora := []
    candidateSetCoverage := some manifest
    negativeCoverage := none
    currentnessAssessments := [currentness, { currentness with knowledgeFrom := instant 11, state := .stale }]
    correctionAuthorityAssessments := [] }

end CalendarSample

theorem calendar_no_look_ahead_sample :
    answerOf <$> resolveCalendarSession CalendarSample.environment CalendarSample.query
        (known CalendarSample.query CalendarSample.candidates) =
      .ok ⟨.established, some (CalendarSample.versionId 1), some CalendarSample.holiday, none, none, none⟩ ∧
    answerOf <$> resolveCalendarSession CalendarSample.environment CalendarSample.query
        (known CalendarSample.query CalendarSample.candidates) =
      answerOf <$> resolveCalendarSession CalendarSample.environment CalendarSample.query CalendarSample.candidates :=
  ⟨by decide +kernel, calendar_no_look_ahead CalendarSample.environment CalendarSample.query CalendarSample.candidates
    (by decide)⟩

end ATB.Proof.Resolution
