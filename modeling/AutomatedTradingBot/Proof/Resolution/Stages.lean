import AutomatedTradingBot.Framework.Refusal
import AutomatedTradingBot.Proof.Resolution.Calendar

/-!
# The stages of a calendar resolution

What a stage returns, in terms of the candidates that it looks at.

* `resolution_fails`: a property of every early result holds of how the computation stops;
* `checkManifest_eq`: the checks of the manifest that look at no fact come first;
* `selectVersion_eq`: the loop over the effective versions stops at the first that is
  refused, and the versions that it takes depend on the assessments alone;
* `resolved`: how the resolver ends, from where its computation does.
-/

namespace ATB.Proof.Resolution

open ATB.Instruments ATB.Calendars

local instance lawfulBEq_text : LawfulBEq (List Char) := inferInstance

/-! ## How a resolution stops -/

/-- A property of every early result of a resolution. -/
structure StopRule (c : CalendarSessionResolutionCandidates) (P : Stop → Prop) : Prop where
  stop : ∀ d reason, d ≠ .established → P (stop d reason)
  negative : ∀ n ∈ c.negativeCoverage,
    P (.returned (emptyResult .absent .authoritativeNegativeCoverage n.evidenceRefs))
  conflict : ∀ refs evidence, minimalEvidence refs = some evidence →
    P (.returned (emptyResult .conflicting .positiveNegativeSessionConflict evidence))

section Fails

variable {c : CalendarSessionResolutionCandidates} {P : Stop → Prop} (rule : StopRule c P)
  (env : Environment) (query : CalendarSessionResolutionQuery)

include rule

theorem StopRule.notEstablished (reason : CalendarSessionResolutionReason) : P (ATB.Calendars.stop .notEstablished reason) :=
  rule.stop _ _ (by decide)

theorem StopRule.conflicting (reason : CalendarSessionResolutionReason) : P (ATB.Calendars.stop .conflicting reason) :=
  rule.stop _ _ (by decide)

theorem StopRule.incompleteOrSurplus (surplus : Bool) : P (ATB.Calendars.incompleteOrSurplus surplus) :=
  rule.notEstablished _

theorem negativeOrMissing_stops (py : Platform) (coverage : CalendarCandidateSetCoverage) (evidence : List EvidenceKey) :
    P (negativeOrMissing py query c.negativeCoverage coverage evidence) := by
  rw [negativeOrMissing]
  split
  · rename_i n hn
    exact rule.negative n (Option.mem_filter_iff.mp (Option.mem_def.mpr hn)).1
  · exact rule.notEstablished _

theorem checkManifest_fails (py : Platform) (coverage : Option CalendarCandidateSetCoverage) (seen : Visible) :
    Fails P (checkManifest py query coverage seen) := by
  refine .bind (.orRaise (rule.notEstablished _)) fun _ => .bind (.raiseIf (rule.notEstablished _)) fun _ =>
    .bind (.raiseIf (rule.notEstablished _)) fun _ => .bind (.raiseIf (rule.notEstablished _)) fun _ =>
    .bind (.raiseIf (rule.incompleteOrSurplus _)) fun _ => .bind (.raiseIf (rule.incompleteOrSurplus _)) fun _ =>
    .bind (.raiseIf (rule.notEstablished _)) fun _ => .ok _

theorem checkLineage_fails (py : Platform) (seen : Visible) : Fails P (checkLineage py query seen) :=
  .bind (.raiseIf (rule.conflicting _)) fun _ => .raiseIf (rule.conflicting _)

theorem admit_fails (assessments : List CalendarCorrectionAuthorityAssessment) (seen : Visible)
    (so : List CalendarVersion × List CalendarCorrectionAuthorityAssessment) (version : CalendarVersion) :
    Fails P (admitVersion query assessments seen so version) := by
  rw [admitVersion]
  split
  · exact .ok _
  · refine .bind (.raiseIf (rule.notEstablished _)) fun _ => .bind (.raiseIf (rule.notEstablished _)) fun _ =>
      .bind (.raiseIf (rule.notEstablished _)) fun _ => .bind (.raiseIf (rule.conflicting _)) fun _ => ?_
    split
    · exact .ok _
    · exact .ok _

theorem selectVersion_fails (coverage : CalendarCandidateSetCoverage) (seen : Visible) :
    Fails P (selectVersion env query c coverage seen) := by
  refine .bind (.raiseIf (rule.notEstablished _)) fun _ =>
    .bind (.raiseIf (negativeOrMissing_stops rule query _ _ _)) fun _ => .bind (.raiseIf (rule.notEstablished _)) fun _ =>
    .bind (.foldlM (admit_fails rule query _ seen) _ _) fun admitted => ?_
  obtain ⟨admissible, used⟩ := admitted
  dsimp only
  split
  · exact .ok _
  · split
    · exact .error (rule.conflicting _)
    · exact .error (rule.stop _ _ (by decide))

theorem selectCurrentness_fails (assessments : List CalendarCurrentnessAssessment) (selected : CalendarVersion) :
    Fails P (selectCurrentness query assessments selected) := by
  refine .bind (.raiseIf (rule.notEstablished _)) fun _ => .bind (.raiseIf (rule.notEstablished _)) fun _ =>
    .bind (.orRaise (rule.notEstablished _)) fun _ => .bind (.raiseIf (rule.conflicting _)) fun _ =>
    .bind (.raiseIf (rule.notEstablished _)) fun _ => .bind (.raiseIf (rule.notEstablished _)) fun _ => .ok _

theorem selectCoverage_fails (seen : Visible) (selected : CalendarVersion) :
    Fails P (selectCoverage query seen selected) := by
  refine .bind (.raiseIf (rule.conflicting _)) fun _ => .bind (.orRaise (rule.notEstablished _)) fun _ =>
    .bind (.raiseIf (rule.notEstablished _)) fun _ => .bind (.raiseIf (rule.conflicting _)) fun _ =>
    .bind (.raiseIf (rule.notEstablished _)) fun _ => .ok _

theorem selectDay_fails (py : Platform) (coverage : CalendarCandidateSetCoverage) (seen : Visible)
    (selected : CalendarVersion) : Fails P (selectDay py query c.negativeCoverage coverage seen selected) := by
  refine .bind (.orRaise (negativeOrMissing_stops rule query _ _ _)) fun _ =>
    .bind (.raiseIf (rule.conflicting _)) fun _ => .bind (.raiseIf (rule.notEstablished _)) fun _ => .ok _

theorem checkNegative_fails (coverage : CalendarCandidateSetCoverage) (seen : Visible) (day : TradingDayDefinition) :
    Fails P (checkNegative env query c.negativeCoverage coverage seen day) := by
  rw [checkNegative]
  split
  · exact .ok _
  · split
    · exact .error (rule.notEstablished _)
    · rename_i evidence hevidence
      exact .error (rule.conflict _ evidence hevidence)

/-- The property of what the verification of the boundaries raises. -/
theorem checkBoundaries_fails (hraised : ∀ e, P (.raised e)) (corpora : List TimezoneRuleCorpusInput)
    (selected : CalendarVersion) (session : SessionDefinition) :
    Fails P (checkBoundaries env corpora selected session) := by
  refine .bind (.raiseIf (rule.notEstablished _)) fun _ => .bind (.raiseIf (rule.conflicting _)) fun _ =>
    .bind (.orRaise (rule.notEstablished _)) fun _ => .bind (.raiseIf (rule.notEstablished _)) fun _ => ?_
  intro e he
  rcases hv : session.verifyUtcBoundaries env _ with e' | u
  · rw [hv] at he
    cases he
    dsimp only
    split
    · exact hraised e'
    · split
      · exact rule.conflicting _
      · exact rule.notEstablished _
  · rw [hv] at he
    cases he

theorem selectSession_fails (hraised : ∀ e, P (.raised e)) (coverage : CalendarCandidateSetCoverage) (seen : Visible)
    (selected : CalendarVersion) (day : TradingDayDefinition) :
    Fails P (selectSession env query c coverage seen selected day) := by
  refine .bind (checkNegative_fails rule env query coverage seen day) fun _ =>
    .bind (.orRaise (rule.notEstablished _)) fun session => .bind (.raiseIf (rule.conflicting _)) fun _ =>
    .bind (checkBoundaries_fails rule env hraised _ selected session) fun _ => .ok _

theorem resolveSession_fails (hraised : ∀ e, P (.raised e)) (coverage : CalendarCandidateSetCoverage) (seen : Visible)
    (selected : CalendarVersion) (authorities : List CalendarCorrectionAuthorityAssessment)
    (currentness : CalendarCurrentnessAssessment) :
    Fails P (resolveSession env query c coverage seen selected authorities currentness) := by
  refine .bind (selectCoverage_fails rule query seen selected) fun _ =>
    .bind (selectDay_fails rule query env.py coverage seen selected) fun day => ?_
  split
  · exact .bind (.raiseIf (rule.conflicting _)) fun _ => .ok _
  · exact .bind (selectSession_fails rule env query hraised coverage seen selected day) fun _ => .ok _

theorem resolution_fails (hraised : ∀ e, P (.raised e)) : Fails P (resolution env query c) := by
  refine .bind (.raiseIf (rule.notEstablished _)) fun _ => .bind (.raiseIf (rule.notEstablished _)) fun _ =>
    .bind (checkManifest_fails rule query env.py _ _) fun coverage => .bind (checkLineage_fails rule query env.py _) fun _ =>
    .bind (selectVersion_fails rule env query coverage _) fun selection =>
    .bind (selectCurrentness_fails rule query _ selection.1) fun currentness =>
    resolveSession_fails rule env query hraised coverage _ selection.1 selection.2 currentness

end Fails

/-- A result with which the computation stops establishes nothing. -/
def Denies : Stop → Prop
  | .returned r => r.disposition ≠ .established
  | .raised _ => True

theorem denies (c : CalendarSessionResolutionCandidates) : StopRule c Denies where
  stop _ _ h := h
  negative _ _ := ResolutionDisposition.noConfusion
  conflict _ _ _ := ResolutionDisposition.noConfusion

/-! ## The manifest -/

/-- The identities that a manifest must list. -/
def expectedIds (versions : List CalendarVersion) : List CalendarVersionId :=
  (versions.map CalendarVersion.calendarVersionId).dedup.insertionSort fun a b => a.toString ≤ b.toString

/-- The descriptors that a manifest must list. -/
def descriptors (py : Platform) (seen : Visible) : List CalendarFactDescriptor :=
  (seen.facts.map (CalendarFactDescriptor.fromFact py)).insertionSort fun a b => a.canonical ≤ b.canonical

/-- The checks of a manifest that look at no fact. -/
def checkHeader (query : CalendarSessionResolutionQuery) (coverage : Option CalendarCandidateSetCoverage)
    (versions : List CalendarVersion) : Except Stop CalendarCandidateSetCoverage := do
  let coverage ← orRaise (stop .notEstablished .candidateSetCoverageMissing) coverage
  raiseIf (coverage.queryMatches query = false) (stop .notEstablished .candidateSetCoverageMismatch)
  raiseIf (query.knowledgeCutoff.value < coverage.knowledgeFrom.value) (stop .notEstablished .candidateSetCoverageFuture)
  raiseIf (coverage.validationState ≠ .valid) (stop .notEstablished .candidateSetCoverageNotAuthoritative)
  raiseIf (coverage.candidateVersionIds ≠ expectedIds versions)
    (incompleteOrSurplus (coverage.candidateVersionIds.any fun i => decide (i ∉ expectedIds versions)))
  return coverage

/-- The checks of a manifest that look at the facts. -/
def checkListed (py : Platform) (coverage : CalendarCandidateSetCoverage) (seen : Visible) : Except Stop Unit := do
  raiseIf (coverage.candidateFactDescriptors ≠ descriptors py seen)
    (incompleteOrSurplus (coverage.candidateFactDescriptors.any fun d =>
      decide (d.canonical ∉ (descriptors py seen).map CalendarFactDescriptor.canonical)))
  raiseIf (intersects (keys coverage.evidenceRefs) seen.evidence = true)
    (stop .notEstablished .candidateSelfCertifiedCoverage)

theorem checkManifest_eq (py : Platform) (query : CalendarSessionResolutionQuery)
    (coverage : Option CalendarCandidateSetCoverage) (seen : Visible) :
    checkManifest py query coverage seen = do
      let coverage ← checkHeader query coverage seen.versions
      checkListed py coverage seen
      return coverage := by
  simp only [checkManifest, checkHeader, checkListed, bind_assoc, pure_bind]
  rfl

theorem checkManifest_eq_ok {py : Platform} {query : CalendarSessionResolutionQuery}
    {coverage : Option CalendarCandidateSetCoverage} {seen : Visible} {m : CalendarCandidateSetCoverage} :
    checkManifest py query coverage seen = .ok m ↔
      checkHeader query coverage seen.versions = .ok m ∧ checkListed py m seen = .ok () := by
  simp only [checkManifest_eq, bind_eq_ok, pure_eq_ok]
  constructor
  · rintro ⟨_, h, _, hl, e⟩
    exact e ▸ ⟨h, hl⟩
  · rintro ⟨h, hl⟩
    exact ⟨m, h, (), hl, rfl⟩

/-! ## The version -/

theorem head?_of_length_one {α : Type} {l : List α} {a : α} (hl : l.length = 1) (ha : a ∈ l) : l.head? = some a := by
  obtain ⟨b, rfl⟩ := List.length_eq_one_iff.mp hl
  rw [List.mem_singleton.mp ha]
  rfl

theorem mem_tips {versions : List CalendarVersion} {v : CalendarVersion} :
    v ∈ tips versions ↔ v ∈ versions ∧ ∀ x ∈ versions, x.supersedesVersionId ≠ some v.calendarVersionId := by
  simp only [tips, List.mem_filter, List.mem_filterMap, decide_eq_true_eq, not_exists, not_and, ne_eq]

section Version

variable (query : CalendarSessionResolutionQuery) (assessments : List CalendarCorrectionAuthorityAssessment)

/-- The valid assessments of the correction that a version is. -/
def validFor (version : CalendarVersion) : List CalendarCorrectionAuthorityAssessment :=
  match version.supersedesVersionId with
  | none => []
  | some predecessor =>
    (authorityFor query assessments version.calendarVersionId predecessor).filter fun a =>
      decide (a.validationState = .valid)

/-- Why a version is refused, if it is. -/
def refusal (seen : Visible) (version : CalendarVersion) : Option Stop :=
  match version.supersedesVersionId with
  | none => none
  | some predecessor =>
    let valid := validFor query assessments version
    if authorityFor query assessments version.calendarVersionId predecessor = [] then
      some (stop .notEstablished .correctionAuthorityMissing)
    else if valid = [] then some (stop .notEstablished .correctionAuthorityNotEstablished)
    else if ∃ a ∈ valid, ∀ k ∈ keys a.evidenceRefs, k ∈ excludedEvidence seen version predecessor then
      some (stop .notEstablished .correctionAuthoritySelfCertified)
    else if (valid.map CalendarCorrectionAuthorityAssessment.decision).dedup.length ≠ 1 then
      some (stop .conflicting .correctionAuthorityConflict)
    else none

/-- The version is no correction, or an authorized one. -/
def admitted (version : CalendarVersion) : Bool :=
  version.supersedesVersionId.isNone || (validFor query assessments version).any fun a => decide (a.decision = .authorized)

/-- One version taken into the admissible ones, with the assessments that were used. -/
def take (so : List CalendarVersion × List CalendarCorrectionAuthorityAssessment) (version : CalendarVersion) :
    List CalendarVersion × List CalendarCorrectionAuthorityAssessment :=
  if admitted query assessments version then (so.1 ++ [version], so.2 ++ validFor query assessments version) else so

theorem admitVersion_eq (seen : Visible) (so : List CalendarVersion × List CalendarCorrectionAuthorityAssessment)
    (version : CalendarVersion) : admitVersion query assessments seen so version =
      (refusal query assessments seen version).elim (.ok (take query assessments so version)) .error := by
  cases hp : version.supersedesVersionId with
  | none => simp only [admitVersion, refusal, take, admitted, validFor, hp, Option.isNone_none, Bool.true_or, if_true,
      List.append_nil, Option.elim_none]
  | some predecessor =>
    have hvalid : (authorityFor query assessments version.calendarVersionId predecessor).filter
        (fun a => decide (a.validationState = .valid)) = validFor query assessments version := by
      simp only [validFor, hp]
    simp only [admitVersion, refusal, hp, hvalid]
    by_cases hknown : authorityFor query assessments version.calendarVersionId predecessor = []
    · simp only [raiseIf_of hknown, if_pos hknown, error_bind, Option.elim_some]
    rw [raiseIf_of_not hknown, if_neg hknown, ok_bind]
    by_cases hnone : validFor query assessments version = []
    · simp only [raiseIf_of hnone, if_pos hnone, error_bind, Option.elim_some]
    rw [raiseIf_of_not hnone, if_neg hnone, ok_bind]
    by_cases hself : ∃ a ∈ validFor query assessments version,
        ∀ k ∈ keys a.evidenceRefs, k ∈ excludedEvidence seen version predecessor
    · rw [raiseIf_of hself, if_pos hself, error_bind, Option.elim_some]
    rw [raiseIf_of_not hself, if_neg hself, ok_bind]
    by_cases hone : ((validFor query assessments version).map
        CalendarCorrectionAuthorityAssessment.decision).dedup.length ≠ 1
    · rw [raiseIf_of hone, if_pos hone, error_bind, Option.elim_some]
    rw [raiseIf_of_not hone, if_neg hone, ok_bind, Option.elim_none]
    -- there is one decision, which is the first
    have hdecision : (((validFor query assessments version).map
        CalendarCorrectionAuthorityAssessment.decision).dedup.head? = some .authorized) ↔
        admitted query assessments version = true := by
      rw [not_not] at hone
      simp only [admitted, hp, Option.isNone_some, Bool.false_or, List.any_eq_true, decide_eq_true_eq]
      constructor
      · intro hhead
        exact List.mem_map.mp (List.mem_dedup.mp (List.mem_of_mem_head? hhead))
      · rintro ⟨a, ha, hauthorized⟩
        exact head?_of_length_one hone (List.mem_dedup.mpr (List.mem_map.mpr ⟨a, ha, hauthorized⟩))
    simp only [take, hdecision]
    split <;> rfl

/-- The effective versions that are no correction, or an authorized one. -/
def admissible (seen : Visible) : List CalendarVersion :=
  (effective query seen).filter (admitted query assessments)

/-- The assessments that the admissible versions rest on. -/
def usedFor (seen : Visible) : List CalendarCorrectionAuthorityAssessment :=
  (admissible query assessments seen).flatMap (validFor query assessments)

theorem foldl_take (versions : List CalendarVersion)
    (so : List CalendarVersion × List CalendarCorrectionAuthorityAssessment) :
    versions.foldl (take query assessments) so =
      (so.1 ++ versions.filter (admitted query assessments),
        so.2 ++ (versions.filter (admitted query assessments)).flatMap (validFor query assessments)) := by
  induction versions generalizing so with
  | nil => simp
  | cons v versions ih =>
    rw [List.foldl_cons, ih, take]
    cases h : admitted query assessments v <;> simp [h]

end Version

/-- The only version that the others leave. -/
def pick (py : Platform) (admissible : List CalendarVersion) (used : List CalendarCorrectionAuthorityAssessment) :
    Except Stop (CalendarVersion × List CalendarCorrectionAuthorityAssessment) :=
  match tips admissible with
  | [selected] => .ok (selected, used)
  | rest => .error (if 1 < (rest.map (CalendarVersion.contentDigest py)).dedup.length then
      stop .conflicting .materialQualifyingConflict else stop .ambiguous .multiplePlausibleVersions)

theorem pick_eq_ok {py : Platform} {versions : List CalendarVersion}
    {used : List CalendarCorrectionAuthorityAssessment}
    {selection : CalendarVersion × List CalendarCorrectionAuthorityAssessment} :
    pick py versions used = .ok selection ↔ tips versions = [selection.1] ∧ selection.2 = used := by
  obtain ⟨selected, used'⟩ := selection
  rw [pick]
  split
  · rename_i v htips
    simp only [htips, Except.ok.injEq, Prod.mk.injEq, List.cons.injEq, and_true]
    exact and_congr_right fun _ => eq_comm
  · rename_i hne
    exact ⟨fun h => (by cases h), fun h => absurd h.1 (hne _)⟩

/-- The selection of a version, with the loop taken apart. -/
theorem selectVersion_eq (env : Environment) (query : CalendarSessionResolutionQuery)
    (c : CalendarSessionResolutionCandidates) (coverage : CalendarCandidateSetCoverage) (seen : Visible) :
    selectVersion env query c coverage seen = (do
      raiseIf (seen.versions ≠ [] ∧ effective query seen = []) (stop .notEstablished .effectiveBoundaryMismatch)
      raiseIf (effective query seen = [])
        (negativeOrMissing env.py query c.negativeCoverage coverage seen.evidence)
      raiseIf (∃ v ∈ effective query seen, v.isAuthoritative = false) (stop .notEstablished .noApplicableVersion)
      Option.elim ((effective query seen).findSome? (refusal query c.correctionAuthorityAssessments seen))
        (pick env.py (admissible query c.correctionAuthorityAssessments seen)
          (usedFor query c.correctionAuthorityAssessments seen)) .error) := by
  rw [selectVersion]
  refine congrArg (_ >>= ·) (funext fun _ => congrArg (_ >>= ·) (funext fun _ => congrArg (_ >>= ·) (funext fun _ => ?_)))
  rw [foldlM_refusal (admitVersion_eq query c.correctionAuthorityAssessments seen), foldl_take]
  cases (effective query seen).findSome? (refusal query c.correctionAuthorityAssessments seen) with
  | some s => rfl
  | none =>
    simp only [Option.elim_none, ok_bind, List.nil_append, pick, admissible, usedFor]
    generalize tips ((effective query seen).filter _) = left
    rcases left with _ | ⟨v, _ | ⟨w, left⟩⟩
    · rfl
    · rfl
    · dsimp only
      split <;> rfl

theorem selectVersion_eq_ok {env : Environment} {query : CalendarSessionResolutionQuery}
    {c : CalendarSessionResolutionCandidates} {coverage : CalendarCandidateSetCoverage} {seen : Visible}
    {selection : CalendarVersion × List CalendarCorrectionAuthorityAssessment}
    (h : selectVersion env query c coverage seen = .ok selection) :
    tips (admissible query c.correctionAuthorityAssessments seen) = [selection.1] ∧
      selection.2 = usedFor query c.correctionAuthorityAssessments seen := by
  rw [selectVersion_eq] at h
  simp only [bind_eq_ok] at h
  obtain ⟨-, -, -, -, -, -, h⟩ := h
  cases he : (effective query seen).findSome? (refusal query c.correctionAuthorityAssessments seen) with
  | some s =>
    rw [he] at h
    cases h
  | none =>
    rw [he, Option.elim_none] at h
    exact pick_eq_ok.mp h

theorem selected_mem_versions {env : Environment} {query : CalendarSessionResolutionQuery}
    {c : CalendarSessionResolutionCandidates} {coverage : CalendarCandidateSetCoverage} {seen : Visible}
    {selection : CalendarVersion × List CalendarCorrectionAuthorityAssessment}
    (h : selectVersion env query c coverage seen = .ok selection) : selection.1 ∈ seen.versions := by
  have htips := (selectVersion_eq_ok h).1
  have hmem := (mem_tips.mp (htips ▸ List.mem_singleton.mpr rfl)).1
  exact List.mem_of_mem_filter (List.mem_of_mem_filter hmem)

/-! ## The end -/

/-- How the resolver ends, from where its computation does. -/
def resolved : Except Stop CalendarSessionResolutionResult → Outcome CalendarSessionResolutionResult
  | .ok result => .ok result
  | .error (.returned result) => .ok result
  | .error (.raised error) => .error error

theorem resolveCalendarSession_eq (env : Environment) (query : CalendarSessionResolutionQuery)
    (c : CalendarSessionResolutionCandidates) :
    resolveCalendarSession env query c = resolved (resolution env query c) := by
  rw [resolveCalendarSession]
  rcases resolution env query c with (r | e) | r <;> rfl

/-- A result that establishes a session is the result of the last line. -/
theorem resolution_of_established {env : Environment} {query : CalendarSessionResolutionQuery}
    {c : CalendarSessionResolutionCandidates} {r : CalendarSessionResolutionResult}
    (h : resolveCalendarSession env query c = .ok r) (he : r.disposition = .established) :
    resolution env query c = .ok r := by
  rw [resolveCalendarSession_eq] at h
  rcases hres : resolution env query c with (r' | e) | r'
  · rw [hres] at h
    cases h
    exact absurd he (resolution_fails (denies c) env query (fun _ => trivial) _ hres)
  · rw [hres] at h
    cases h
  · rw [hres] at h
    cases h
    rfl

end ATB.Proof.Resolution
