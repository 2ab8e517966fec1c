import AutomatedTradingBot.Proof.Resolution.Stages

/-!
# A resolved version is not superseded

Both resolvers choose among the versions that are known at the cut-off and effective
at the queried instant, and return the only one that no other of them names as its
predecessor. A lineage is ordered by knowledge, so of the versions that come after
the returned one, through any chain, none can be among those chosen from.

* `instrument_not_superseded`: a resolved reference;
* `calendar_not_superseded`: a resolved calendar session, whose later versions count
  when their correction is authorized;
* `resolved_not_superseded`: the three resolvers.
-/

namespace ATB.Proof.Resolution

open ATB.Instruments ATB.Calendars

/-! ## References -/

theorem validateLineage_spec {values : List ReferenceVersion} {u : Unit} (h : validateLineage values = .ok u) :
    (values.map ReferenceVersion.referenceVersionId).Nodup ∧
      ∃ u', Lineage.checkEdges ReferenceVersion.view
        (Dict.ofKeys ReferenceVersion.view.id values) maxLineageDepth values = .ok u' := by
  simp only [validateLineage, bind_eq_ok, raiseIf_eq_ok, exists_const, mapError_eq_ok] at h
  obtain ⟨-, -, -, byId, hindex, -, -, hedges⟩ := h
  obtain ⟨hn, rfl⟩ := Lineage.index_eq_ok hindex
  exact ⟨hn, _, hedges⟩

theorem mem_unresolved {versions : List ReferenceVersion} {v : ReferenceVersion} :
    v ∈ unresolved versions ↔ v ∈ versions ∧ ∀ x ∈ versions, x.supersedesVersionId ≠ some v.referenceVersionId := by
  simp only [unresolved, List.mem_filter, List.mem_filterMap, decide_eq_true_eq, not_exists, not_and, ne_eq]

theorem checkCandidates_fails (query : ReferenceQuery) (candidates : List ReferenceVersion)
    (coverage : Option CandidateSetCoverage) :
    Fails (fun r : ResolutionResult => r.value = none) (checkCandidates query candidates coverage) := by
  refine .bind (.raiseIf rfl) fun _ => .bind (.raiseIf rfl) fun _ => .bind (.raiseIf rfl) fun _ =>
    .bind (.raiseIf rfl) fun _ => .bind (.raiseIf rfl) fun _ => .bind (.orRaise (by rfl)) fun _ =>
    .bind (.raiseIf rfl) fun _ => .bind (.raiseIf rfl) fun _ => .bind (.raiseIf rfl) fun _ =>
    .bind (.raiseIf rfl) fun _ => .ok _

theorem select_value {py : Platform} {versions : List ReferenceVersion} {v : ReferenceVersion}
    (h : (select py versions).value = some v) : unresolved versions = [v] := by
  rw [select] at h
  split at h
  · cases h
  · split at h
    · cases h
      assumption
    · split at h <;> cases h

/-- The value of a result is the only version that qualifies and is not superseded. -/
theorem resolve_value {py : Platform} {query : ReferenceQuery} {candidates : List ReferenceVersion}
    {coverage : Option CandidateSetCoverage} {negative : Option NegativeCoverageEvidence} {v : ReferenceVersion}
    (h : (resolve py query candidates coverage negative).value = some v) :
    unresolved (qualifying query candidates) = [v] ∧ lineageAccepted candidates := by
  rw [resolve] at h
  cases hc : checkCandidates query candidates coverage with
  | error r =>
    rw [hc] at h
    rw [checkCandidates_fails query candidates coverage r hc] at h
    cases h
  | ok c =>
    rw [hc] at h
    change (adjudicate py query candidates c negative).value = some v at h
    rcases adjudicate_eq py query candidates c negative with ⟨-, e⟩ | ⟨ha, e⟩
    · rw [e] at h
      cases h
    · refine ⟨?_, ha⟩
      rw [e] at h
      split at h
      · split at h <;> cases h
      · exact select_value h

/-- No candidate that is known and effective comes after the value of a result. -/
theorem resolve_not_superseded {py : Platform} {query : ReferenceQuery} {candidates : List ReferenceVersion}
    {coverage : Option CandidateSetCoverage} {negative : Option NegativeCoverageEvidence} {v : ReferenceVersion}
    (h : (resolve py query candidates coverage negative).value = some v) :
    ∀ x ∈ candidates, x.knowledgeFrom.value ≤ query.knowledgeCutoff.value →
      x.containsEffective query.effectiveAsOf = true →
      ¬ Relation.TransGen (Lineage.Supersedes ReferenceVersion.view candidates) x v := by
  obtain ⟨honly, haccepted⟩ := resolve_value h
  intro x hx hknown heffective hs
  have hlineage : validateLineage candidates = .ok () := by
    rcases haccepted with rfl | haccepted
    · cases hx
    · exact haccepted
  obtain ⟨hn, _, hedges⟩ := validateLineage_spec hlineage
  have hsub : ∀ y ∈ qualifying query candidates, y ∈ candidates := fun y hy => List.mem_of_mem_filter hy
  have hqualifies : x ∈ qualifying query candidates := by
    simp only [qualifying, List.mem_filter, Bool.and_eq_true, decide_eq_true_eq]
    exact ⟨hx, heffective, hknown⟩
  obtain ⟨tip, htip, hafter, hlast⟩ := Lineage.exists_tip hn hedges hsub hqualifies hs
  have hmem : tip ∈ unresolved (qualifying query candidates) := mem_unresolved.mpr ⟨htip, hlast⟩
  rw [honly, List.mem_singleton] at hmem
  subst hmem
  exact absurd (Lineage.known_after hn hedges hafter) (Nat.lt_irrefl _)

/-! ## Calendars -/

/-- The version is a correction that a known and valid assessment authorizes. -/
def Authorized (query : CalendarSessionResolutionQuery) (assessments : List CalendarCorrectionAuthorityAssessment)
    (x : CalendarVersion) : Prop :=
  ∃ p, x.supersedesVersionId = some p ∧ ∃ a ∈ authorityFor query assessments x.calendarVersionId p,
    a.validationState = .valid ∧ a.decision = .authorized

theorem selectVersion_spec {env : Environment} {query : CalendarSessionResolutionQuery}
    {c : CalendarSessionResolutionCandidates} {coverage : CalendarCandidateSetCoverage} {seen : Visible}
    {selection : CalendarVersion × List CalendarCorrectionAuthorityAssessment}
    (h : selectVersion env query c coverage seen = .ok selection) :
    ∃ admissible, tips admissible = [selection.1] ∧ (∀ y ∈ admissible, y ∈ effective query seen) ∧
      ∀ x ∈ effective query seen, Authorized query c.correctionAuthorityAssessments x → x ∈ admissible := by
  refine ⟨_, (selectVersion_eq_ok h).1, fun y hy => List.mem_of_mem_filter hy, fun x hx hauthorized => ?_⟩
  obtain ⟨p, hp, a, ha, hvalid, hdecision⟩ := hauthorized
  refine List.mem_filter.mpr ⟨hx, ?_⟩
  have hmem : a ∈ validFor query c.correctionAuthorityAssessments x := by
    rw [validFor, hp]
    exact List.mem_filter.mpr ⟨ha, decide_eq_true hvalid⟩
  simp only [admitted, hp, Option.isNone_some, Bool.false_or, List.any_eq_true, decide_eq_true_eq]
  exact ⟨a, hmem, hdecision⟩

theorem checkLineage_spec {py : Platform} {query : CalendarSessionResolutionQuery} {seen : Visible} {u : Unit}
    (h : checkLineage py query seen = .ok u) (hne : seen.versions ≠ []) :
    (seen.versions.map CalendarVersion.calendarVersionId).Nodup ∧
      ∃ u', Lineage.checkEdges CalendarVersion.view
        (Dict.ofKeys CalendarVersion.view.id seen.versions) maxLineageDepth seen.versions = .ok u' := by
  simp only [checkLineage, bind_eq_ok, raiseIf_eq_ok, exists_const, not_and] at h
  obtain ⟨-, h⟩ := h
  have hsome := h hne
  cases hv : validateCalendarLineage seen.versions with
  | error e =>
    rw [hv] at hsome
    exact absurd rfl hsome
  | ok ordered =>
    simp only [validateCalendarLineage, bind_eq_ok, raiseIf_eq_ok, exists_const, mapError_eq_ok] at hv
    obtain ⟨-, -, -, byId, hindex, -, -, _, hedges, -⟩ := hv
    obtain ⟨hn, rfl⟩ := Lineage.index_eq_ok hindex
    exact ⟨hn, _, hedges⟩

theorem established_selected {py : Platform} {version : CalendarVersion} {day : TradingDayDefinition}
    {session : Option SessionDefinition} {currentness : CalendarCurrentnessAssessment}
    {authorities : List CalendarCorrectionAuthorityAssessment} {evidence : List EvidenceRef}
    (h : (established py version day session currentness authorities evidence).disposition = .established) :
    (established py version day session currentness authorities evidence).selectedCalendarVersionId =
      some version.calendarVersionId := by
  rw [established] at h ⊢
  split at h
  · cases h
  · rfl

theorem resolveSession_selected {env : Environment} {query : CalendarSessionResolutionQuery}
    {c : CalendarSessionResolutionCandidates} {coverage : CalendarCandidateSetCoverage} {seen : Visible}
    {selected : CalendarVersion} {authorities : List CalendarCorrectionAuthorityAssessment}
    {currentness : CalendarCurrentnessAssessment} {r : CalendarSessionResolutionResult}
    (h : resolveSession env query c coverage seen selected authorities currentness = .ok r)
    (he : r.disposition = .established) : r.selectedCalendarVersionId = some selected.calendarVersionId := by
  simp only [resolveSession, bind_eq_ok] at h
  obtain ⟨historical, -, day, -, h⟩ := h
  split at h
  · simp only [bind_eq_ok, raiseIf_eq_ok, exists_const, pure_eq_ok] at h
    obtain ⟨-, rfl⟩ := h
    exact established_selected he
  · simp only [bind_eq_ok, pure_eq_ok] at h
    obtain ⟨session, -, rfl⟩ := h
    exact established_selected he

/-- An established session is of a version that no known, effective and authorized
correction comes after. -/
theorem calendar_not_superseded {env : Environment} {query : CalendarSessionResolutionQuery}
    {c : CalendarSessionResolutionCandidates} {r : CalendarSessionResolutionResult}
    (h : resolveCalendarSession env query c = .ok r) (he : r.disposition = .established) :
    ∃ v ∈ visibleVersions query c.calendarVersions, r.selectedCalendarVersionId = some v.calendarVersionId ∧
      ∀ x ∈ visibleVersions query c.calendarVersions, x.containsEffective query.effectiveAsOf = true →
        Authorized query c.correctionAuthorityAssessments x →
        ¬ Relation.TransGen (Lineage.Supersedes CalendarVersion.view (visibleVersions query c.calendarVersions)) x v := by
  have hres := resolution_of_established h he
  simp only [resolution, bind_eq_ok, raiseIf_eq_ok, exists_const] at hres
  obtain ⟨-, -, coverage, -, _, hlineage, ⟨selected, used⟩, hselect, currentness, -, hsession⟩ := hres
  obtain ⟨admissible, htips, hfrom, hall⟩ := selectVersion_spec hselect
  have hselected : selected ∈ admissible := (mem_tips.mp (htips ▸ List.mem_singleton.mpr rfl)).1
  have hsub : ∀ y ∈ admissible, y ∈ (visible query c).versions := fun y hy => List.mem_of_mem_filter (hfrom y hy)
  refine ⟨selected, hsub selected hselected, resolveSession_selected hsession he, ?_⟩
  intro x hx heffective hauthorized hs
  have hadmitted : x ∈ admissible := hall x (List.mem_filter.mpr ⟨hx, heffective⟩) hauthorized
  obtain ⟨hn, _, hedges⟩ := checkLineage_spec hlineage (List.ne_nil_of_mem hx)
  obtain ⟨tip, htip, hafter, hlast⟩ := Lineage.exists_tip hn hedges hsub hadmitted hs
  have hmem : tip ∈ tips admissible := mem_tips.mpr ⟨htip, hlast⟩
  rw [htips, List.mem_singleton] at hmem
  subst hmem
  exact absurd (Lineage.known_after hn hedges hafter) (Nat.lt_irrefl _)

/-- A version that one of the three resolvers returns is not superseded, directly or
through a chain, by a version that is known at the cut-off and effective at the queried
instant; of a calendar, by one whose correction is authorized. -/
theorem resolved_not_superseded (env : Environment) :
    (∀ (instrumentId : InstrumentId) (asOf cutoff : Timestamp) (candidates : List ReferenceVersion)
      (coverage : Option CandidateSetCoverage) (negative : Option NegativeCoverageEvidence) (v : ReferenceVersion),
      (resolveInstrumentReference env.py instrumentId asOf cutoff candidates coverage negative).value = some v →
      ∀ x ∈ candidates, x.knowledgeFrom.value ≤ cutoff.value → x.containsEffective asOf = true →
        ¬ Relation.TransGen (Lineage.Supersedes ReferenceVersion.view candidates) x v) ∧
    (∀ (instrumentId : InstrumentId) (listingId : ListingId) (asOf cutoff : Timestamp)
      (candidates : List ReferenceVersion) (coverage : Option CandidateSetCoverage)
      (negative : Option NegativeCoverageEvidence) (v : ReferenceVersion),
      (resolveListingReference env.py instrumentId listingId asOf cutoff candidates coverage negative).value = some v →
      ∀ x ∈ candidates, x.knowledgeFrom.value ≤ cutoff.value → x.containsEffective asOf = true →
        ¬ Relation.TransGen (Lineage.Supersedes ReferenceVersion.view candidates) x v) ∧
    ∀ (query : CalendarSessionResolutionQuery) (c : CalendarSessionResolutionCandidates)
      (r : CalendarSessionResolutionResult), resolveCalendarSession env query c = .ok r →
      r.disposition = .established →
      ∃ v ∈ visibleVersions query c.calendarVersions, r.selectedCalendarVersionId = some v.calendarVersionId ∧
        ∀ x ∈ visibleVersions query c.calendarVersions, x.containsEffective query.effectiveAsOf = true →
          Authorized query c.correctionAuthorityAssessments x →
          ¬ Relation.TransGen (Lineage.Supersedes CalendarVersion.view (visibleVersions query c.calendarVersions)) x v := by
  refine ⟨?_, ?_, fun query c r h he => calendar_not_superseded h he⟩
  · intro instrumentId asOf cutoff candidates coverage negative v h
    exact @resolve_not_superseded env.py ⟨.instrument, instrumentId, none, asOf, cutoff⟩ candidates coverage negative v h
  · intro instrumentId listingId asOf cutoff candidates coverage negative v h
    exact @resolve_not_superseded env.py ⟨.listing, instrumentId, some listingId, asOf, cutoff⟩ candidates coverage
      negative v h

namespace Sample

/-- The correction, known before the cut-off. -/
def correction : ReferenceVersion := { second with knowledgeFrom := instant 5 }

/-- The correction, of an interval that ends before the queried instant. -/
def narrow : ReferenceVersion := { correction with effectiveTo := some (instant 5), positive := by decide }

end Sample

theorem resolved_not_superseded_sample :
    (resolveInstrumentReference CalendarSample.environment.py Sample.instrument (Sample.instant 10) (Sample.instant 10)
      [Sample.first, Sample.correction] (some (Sample.coverage.listing [Sample.first, Sample.correction])) none).value =
      some Sample.correction ∧
    ∀ x ∈ [Sample.first, Sample.correction], x.knowledgeFrom.value ≤ (Sample.instant 10).value →
      x.containsEffective (Sample.instant 10) = true →
      ¬ Relation.TransGen (Lineage.Supersedes ReferenceVersion.view [Sample.first, Sample.correction]) x
        Sample.correction := by
  have hvalue : (resolveInstrumentReference CalendarSample.environment.py Sample.instrument (Sample.instant 10)
      (Sample.instant 10) [Sample.first, Sample.correction]
      (some (Sample.coverage.listing [Sample.first, Sample.correction])) none).value = some Sample.correction := by
    decide +kernel
  exact ⟨hvalue, (resolved_not_superseded CalendarSample.environment).1 Sample.instrument (Sample.instant 10)
    (Sample.instant 10) _ _ none Sample.correction hvalue⟩

/-- A version is returned although a known one supersedes it, whose interval ends before
the queried instant. -/
theorem superseded_version_returned :
    (resolveInstrumentReference Sample.platform Sample.instrument (Sample.instant 10) (Sample.instant 10)
      [Sample.first, Sample.narrow] (some (Sample.coverage.listing [Sample.first, Sample.narrow])) none).value =
      some Sample.first ∧
    Sample.narrow.knowledgeFrom.value ≤ (Sample.instant 10).value ∧
    Lineage.Supersedes ReferenceVersion.view [Sample.first, Sample.narrow] Sample.narrow Sample.first :=
  ⟨by decide +kernel, by decide, by simp, by simp, rfl⟩

end ATB.Proof.Resolution
