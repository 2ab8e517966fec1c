import AutomatedTradingBot.Proof.Resolution.Superseded

/-!
# Coverage records that are known after the cut-off

A coverage record is visible through its calendar version, so the manifest must list it
whatever its own knowledge time is; that time is looked at once the record has been
compared with the manifest. A record that is known only after the cut-off can stop a
resolution, and cannot change what one establishes.

* `coverage_known`: an established session rests on coverage that is known;
* `answers_agree`: two established answers, with and without such records, are one;
* `future_coverage_answer`: a record added under one manifest.
-/

namespace ATB.Proof.Resolution

open ATB.Instruments ATB.Calendars

/-- The result is not established, and carries nothing. -/
def Unresolved (o : Outcome CalendarSessionResolutionResult) : Prop :=
  ∃ reason, o = .ok (emptyResult .notEstablished reason [])

/-- The candidates with other coverage records, under another manifest. -/
def recovered (c : CalendarSessionResolutionCandidates) (coverages : List HistoricalCoverage)
    (manifest : Option CalendarCandidateSetCoverage) : CalendarSessionResolutionCandidates :=
  { c with historicalCoverages := coverages, candidateSetCoverage := manifest }

/-- `all` are the coverage records of the candidates, and one of a visible version that is
known only after the cut-off. -/
structure FutureCoverage (query : CalendarSessionResolutionQuery) (c : CalendarSessionResolutionCandidates)
    (record : HistoricalCoverage) (all : List HistoricalCoverage) : Prop where
  perm : all.Perm (record :: c.historicalCoverages)
  visible : record.calendarVersionId ∈ visibleIds query c.calendarVersions
  future : ∃ t ∈ record.coverageKnowledgeFrom, query.knowledgeCutoff.value < t.value

/-- The manifest lists the visible facts, and nothing else. -/
def Lists (py : Platform) (query : CalendarSessionResolutionQuery) (c : CalendarSessionResolutionCandidates)
    (manifest : Option CalendarCandidateSetCoverage) : Prop :=
  ∃ m ∈ manifest, m.candidateFactDescriptors = descriptors py (visible query c)

/-! ## What an established session rests on -/

theorem selectCoverage_eq_ok {query : CalendarSessionResolutionQuery} {seen : Visible} {selected : CalendarVersion}
    {historical : HistoricalCoverage} (h : selectCoverage query seen selected = .ok historical) :
    (seen.coverages.filter fun c =>
      decide (c.calendarVersionId = selected.calendarVersionId) && c.contains query.localDate) = [historical] ∧
    ∀ t ∈ historical.coverageKnowledgeFrom, t.value ≤ query.knowledgeCutoff.value := by
  simp only [selectCoverage, bind_eq_ok, raiseIf_eq_ok, exists_const, orRaise_eq_ok, pure_eq_ok] at h
  obtain ⟨hlength, first, hfirst, hknown, -, -, rfl⟩ := h
  refine ⟨?_, fun t ht => Datetime.not_lt.mp fun hlt => hknown ⟨t, ht, hlt⟩⟩
  rcases hl : seen.coverages.filter fun c =>
    decide (c.calendarVersionId = selected.calendarVersionId) && c.contains query.localDate with _ | ⟨x, _ | ⟨y, l⟩⟩
  · rw [hl] at hfirst
    cases hfirst
  · rw [hl] at hfirst
    cases hfirst
    exact hl
  · rw [hl] at hlength
    simp at hlength

/-- The coverage of the queried date, by the version of an established session, is known. -/
theorem coverage_known {env : Environment} {query : CalendarSessionResolutionQuery}
    {c : CalendarSessionResolutionCandidates} {r : CalendarSessionResolutionResult}
    (h : resolveCalendarSession env query c = .ok r) (he : r.disposition = .established) :
    ∀ record ∈ c.historicalCoverages, r.selectedCalendarVersionId = some record.calendarVersionId →
      record.contains query.localDate = true →
      ∀ t ∈ record.coverageKnowledgeFrom, t.value ≤ query.knowledgeCutoff.value := by
  intro record hrecord hversion hcontains t ht
  have hres := resolution_of_established h he
  simp only [resolution, bind_eq_ok, raiseIf_eq_ok, exists_const] at hres
  obtain ⟨-, -, coverage, -, _, -, ⟨selected, used⟩, hselect, currentness, -, hsession⟩ := hres
  have hid : record.calendarVersionId = selected.calendarVersionId :=
    Option.some.inj (hversion.symm.trans (resolveSession_selected hsession he))
  have hvisible : record.calendarVersionId ∈ visibleIds query c.calendarVersions :=
    hid ▸ List.mem_map_of_mem (selected_mem_versions hselect)
  obtain ⟨historical, hcover, -⟩ := bind_eq_ok.mp hsession
  obtain ⟨honly, hknown⟩ := selectCoverage_eq_ok hcover
  have hmem : record ∈ (visible query c).coverages.filter fun c =>
      decide (c.calendarVersionId = selected.calendarVersionId) && c.contains query.localDate := by
    refine List.mem_filter.mpr ⟨List.mem_filter.mpr ⟨hrecord, decide_eq_true hvisible⟩, ?_⟩
    rw [Bool.and_eq_true, decide_eq_true_eq]
    exact ⟨hid, hcontains⟩
  rw [honly, List.mem_singleton] at hmem
  exact hknown t (hmem ▸ ht)

/-! ## Two established answers -/

theorem established_answer {py : Platform} {version : CalendarVersion} {day : TradingDayDefinition}
    {session : Option SessionDefinition} {currentness : CalendarCurrentnessAssessment}
    {authorities : List CalendarCorrectionAuthorityAssessment} {evidence : List EvidenceRef}
    (h : (established py version day session currentness authorities evidence).disposition = .established) :
    answerOf (established py version day session currentness authorities evidence) =
      ⟨.established, some version.calendarVersionId, some day, session, session.map SessionDefinition.utcOpen,
        session.map SessionDefinition.utcClose⟩ := by
  rw [established] at h ⊢
  split at h
  · cases h
  · rfl

/-- The answer of an established session, from the version, the day and the session. -/
theorem resolveSession_answer {env : Environment} {query : CalendarSessionResolutionQuery}
    {c : CalendarSessionResolutionCandidates} {coverage : CalendarCandidateSetCoverage} {seen : Visible}
    {selected : CalendarVersion} {authorities : List CalendarCorrectionAuthorityAssessment}
    {currentness : CalendarCurrentnessAssessment} {r : CalendarSessionResolutionResult}
    (h : resolveSession env query c coverage seen selected authorities currentness = .ok r)
    (he : r.disposition = .established) :
    ∃ day session,
      (seen.days.filter fun d =>
        decide (d.calendarVersionId = selected.calendarVersionId) && decide (d.localDate = query.localDate)).head? =
          some day ∧
      session = (if day.dayKind ≠ .regularTradingDay then none else (sessionsOf query seen selected).head?) ∧
      answerOf r = ⟨.established, some selected.calendarVersionId, some day, session,
        session.map SessionDefinition.utcOpen, session.map SessionDefinition.utcClose⟩ := by
  simp only [resolveSession, bind_eq_ok] at h
  obtain ⟨historical, -, day, hday, h⟩ := h
  simp only [selectDay, bind_eq_ok, raiseIf_eq_ok, exists_const, orRaise_eq_ok, pure_eq_ok] at hday
  obtain ⟨day', hhead, -, -, e⟩ := hday
  cases e
  by_cases hkind : day.dayKind ≠ .regularTradingDay
  · rw [if_pos hkind] at h
    simp only [bind_eq_ok, raiseIf_eq_ok, exists_const, pure_eq_ok] at h
    obtain ⟨-, rfl⟩ := h
    exact ⟨day, none, hhead, (if_pos hkind).symm, established_answer he⟩
  · rw [if_neg hkind] at h
    simp only [bind_eq_ok, pure_eq_ok] at h
    obtain ⟨session, hsession, rfl⟩ := h
    simp only [selectSession, bind_eq_ok, raiseIf_eq_ok, exists_const, orRaise_eq_ok, pure_eq_ok] at hsession
    obtain ⟨-, -, session', hs, -, -, -, e⟩ := hsession
    cases e
    exact ⟨day, some session, hhead, ((if_neg hkind).trans hs).symm, established_answer he⟩

/-- Candidates that differ in their coverage records and their manifest establish one
answer, if they both establish one. -/
theorem answers_agree {env : Environment} {query : CalendarSessionResolutionQuery}
    {c : CalendarSessionResolutionCandidates} {coverages : List HistoricalCoverage}
    {manifest : Option CalendarCandidateSetCoverage} {r r' : CalendarSessionResolutionResult}
    (h : resolveCalendarSession env query c = .ok r) (he : r.disposition = .established)
    (h' : resolveCalendarSession env query (recovered c coverages manifest) = .ok r')
    (he' : r'.disposition = .established) : answerOf r' = answerOf r := by
  have hres := resolution_of_established h he
  have hres' := resolution_of_established h' he'
  simp only [resolution, bind_eq_ok, raiseIf_eq_ok, exists_const] at hres hres'
  obtain ⟨-, -, _, -, _, -, ⟨selected, used⟩, hselect, _, -, hsession⟩ := hres
  obtain ⟨-, -, _, -, _, -, ⟨selected', used'⟩, hselect', _, -, hsession'⟩ := hres'
  have hselected : selected' = selected := by
    have htips := (selectVersion_eq_ok hselect).1
    have htips' := (selectVersion_eq_ok hselect').1
    change tips (admissible query c.correctionAuthorityAssessments (visible query c)) = [selected'] at htips'
    exact (List.cons.inj (htips'.symm.trans htips)).1
  subst hselected
  obtain ⟨day, session, hday, hs, hanswer⟩ := resolveSession_answer hsession he
  obtain ⟨day', session', hday', hs', hanswer'⟩ := resolveSession_answer hsession' he'
  obtain rfl : day' = day := Option.some.inj (hday'.symm.trans hday)
  obtain rfl : session' = session := hs'.trans hs.symm
  rw [hanswer, hanswer']

/-! ## One manifest -/

section Manifest

variable {env : Environment} {query : CalendarSessionResolutionQuery} {c : CalendarSessionResolutionCandidates}
  {record : HistoricalCoverage} {all : List HistoricalCoverage}

/-- A resolution whose manifest does not list the visible facts. -/
theorem unresolved_of_unlisted {m : CalendarCandidateSetCoverage} (hlimits : c.withinLimits)
    (hheader : checkHeader query c.candidateSetCoverage (visible query c).versions = .ok m)
    (hlists : m.candidateFactDescriptors ≠ descriptors env.py (visible query c)) :
    Unresolved (resolveCalendarSession env query c) := by
  have hkind : ¬ query.sessionKind ≠ .regular := fun h => h (by cases query.sessionKind; rfl)
  rw [resolveCalendarSession_eq, resolution, raiseIf_of_not hkind, ok_bind, raiseIf_of_not (not_not.mpr hlimits), ok_bind]
  dsimp only
  rw [checkManifest_eq, hheader, ok_bind, checkListed, raiseIf_of hlists]
  exact ⟨_, rfl⟩

theorem facts_length (h : FutureCoverage query c record all) (manifest : Option CalendarCandidateSetCoverage) :
    (descriptors env.py (visible query (recovered c all manifest))).length =
      (descriptors env.py (visible query c)).length + 1 := by
  have hperm : (visible query (recovered c all manifest)).coverages.Perm (record :: (visible query c).coverages) := by
    have hp := h.perm.filter fun f => decide (f.calendarVersionId ∈ visibleIds query c.calendarVersions)
    rw [List.filter_cons, if_pos (decide_eq_true h.visible)] at hp
    exact hp
  have hlength : (visible query (recovered c all manifest)).coverages.length = (visible query c).coverages.length + 1 :=
    hperm.length_eq
  simp only [descriptors, List.length_insertionSort, List.length_map, Visible.facts, List.length_append, hlength]
  change _ + 1 + (visible query c).days.length + (visible query c).sessions.length = _
  omega

/-- A record added under one manifest leaves the answer, or the manifest lists the facts
of one of the two, and the other is not resolved. -/
theorem future_coverage_answer (h : FutureCoverage query c record all) (hlimits : c.withinLimits)
    (hlimits' : all.length ≤ maxLineageVersions) :
    answerOf <$> resolveCalendarSession env query (recovered c all c.candidateSetCoverage) =
      answerOf <$> resolveCalendarSession env query c ∨
    (Lists env.py query c c.candidateSetCoverage ∧
      Unresolved (resolveCalendarSession env query (recovered c all c.candidateSetCoverage))) ∨
    (Lists env.py query (recovered c all c.candidateSetCoverage) c.candidateSetCoverage ∧
      Unresolved (resolveCalendarSession env query c)) := by
  have hlimits'' : (recovered c all c.candidateSetCoverage).withinLimits := by
    simp only [CalendarSessionResolutionCandidates.withinLimits, List.mem_cons, List.not_mem_nil, or_false,
      forall_eq_or_imp, forall_eq] at hlimits ⊢
    obtain ⟨hv, -, hrest⟩ := hlimits
    exact ⟨hv, hlimits', hrest⟩
  cases hheader : checkHeader query c.candidateSetCoverage (visible query c).versions with
  | error s =>
    refine .inl ?_
    have hkind : ¬ query.sessionKind ≠ .regular := fun h => h (by cases query.sessionKind; rfl)
    have hstop : ∀ c', c'.withinLimits → checkHeader query c'.candidateSetCoverage (visible query c').versions = .error s →
        resolution env query c' = .error s := by
      intro c' hl he
      rw [resolution, raiseIf_of_not hkind, ok_bind, raiseIf_of_not (not_not.mpr hl), ok_bind]
      dsimp only
      rw [checkManifest_eq, he, error_bind, error_bind]
    rw [resolveCalendarSession_eq, resolveCalendarSession_eq, hstop c hlimits hheader, hstop _ hlimits'' hheader]
  | ok m =>
    have hm : m ∈ c.candidateSetCoverage := by
      simp only [checkHeader, bind_eq_ok, orRaise_eq_ok, raiseIf_eq_ok, exists_const, pure_eq_ok] at hheader
      obtain ⟨m', hm', -, -, -, -, rfl⟩ := hheader
      exact hm'
    have hlength : (descriptors env.py _).length = _ := facts_length h c.candidateSetCoverage
    by_cases hbefore : m.candidateFactDescriptors = descriptors env.py (visible query c)
    · -- the manifest lists the facts without the record
      refine .inr (.inl ⟨⟨m, hm, hbefore⟩, unresolved_of_unlisted hlimits'' hheader fun hafter => ?_⟩)
      rw [← hafter, ← hbefore] at hlength
      omega
    · have hu : Unresolved (resolveCalendarSession env query c) := unresolved_of_unlisted hlimits hheader hbefore
      by_cases hafter : m.candidateFactDescriptors =
          descriptors env.py (visible query (recovered c all c.candidateSetCoverage))
      · exact .inr (.inr ⟨⟨m, hm, hafter⟩, hu⟩)
      · obtain ⟨reason, e⟩ := hu
        obtain ⟨reason', e'⟩ := unresolved_of_unlisted hlimits'' hheader hafter
        rw [e, e']
        exact .inl rfl

end Manifest

/-- A coverage record of a visible version that is known only after the cut-off, added to
the candidates. Under the same manifest it leaves the disposition and the value, or one
of the two resolutions is not resolved: with the record, where the manifest lists the
visible facts without it or there are too many records; without it, where the manifest
lists it. Under any manifest, what is established with the record is what is established
without it, and rests on another coverage of the date. -/
theorem coverage_no_look_ahead (env : Environment) (query : CalendarSessionResolutionQuery)
    (c : CalendarSessionResolutionCandidates) (record : HistoricalCoverage) (all : List HistoricalCoverage)
    (h : FutureCoverage query c record all) :
    (answerOf <$> resolveCalendarSession env query (recovered c all c.candidateSetCoverage) =
        answerOf <$> resolveCalendarSession env query c ∨
      ((Lists env.py query c c.candidateSetCoverage ∨ maxLineageVersions < all.length) ∧
        Unresolved (resolveCalendarSession env query (recovered c all c.candidateSetCoverage))) ∨
      (Lists env.py query (recovered c all c.candidateSetCoverage) c.candidateSetCoverage ∧
        Unresolved (resolveCalendarSession env query c))) ∧
    ∀ manifest r', resolveCalendarSession env query (recovered c all manifest) = .ok r' →
      r'.disposition = .established →
      (∀ r, resolveCalendarSession env query c = .ok r → r.disposition = .established → answerOf r' = answerOf r) ∧
      ¬ (r'.selectedCalendarVersionId = some record.calendarVersionId ∧ record.contains query.localDate = true) := by
  have hkind : ¬ query.sessionKind ≠ .regular := fun h => h (by cases query.sessionKind; rfl)
  have hlimit : ∀ c' : CalendarSessionResolutionCandidates, ¬ c'.withinLimits →
      resolveCalendarSession env query c' = .ok (emptyResult .notEstablished .resourceLimitExceeded []) := by
    intro c' hl
    rw [resolveCalendarSession_eq, resolution, raiseIf_of_not hkind, ok_bind, raiseIf_of hl]
    rfl
  refine ⟨?_, fun manifest r' hr' he' => ⟨fun r hr he => answers_agree hr he hr' he', ?_⟩⟩
  · by_cases hl : c.withinLimits
    · by_cases hall : all.length ≤ maxLineageVersions
      · have hanswer : answerOf <$> resolveCalendarSession env _ _ = _ ∨ _ := future_coverage_answer h hl hall
        rcases hanswer with ha | ⟨hlists, hu⟩ | hrest
        · exact .inl ha
        · exact .inr (.inl ⟨.inl hlists, hu⟩)
        · exact .inr (.inr hrest)
      · refine .inr (.inl ⟨.inr (Nat.not_le.mp hall), _, hlimit _ fun hl' => hall ?_⟩)
        exact hl' all.length (by simp [recovered])
    · have hl' : ¬ (recovered c all c.candidateSetCoverage).withinLimits := by
        intro hl'
        refine hl fun n hn => ?_
        simp only [CalendarSessionResolutionCandidates.withinLimits, List.mem_cons, List.not_mem_nil, or_false,
          forall_eq_or_imp, forall_eq, recovered] at hl' hn
        have hlength := h.perm.length_eq
        rw [List.length_cons] at hlength
        omega
      rw [hlimit c hl, hlimit _ hl']
      exact .inl rfl
  · rintro ⟨hselected, hcontains⟩
    obtain ⟨t, ht, hlate⟩ := h.future
    exact Datetime.not_lt.mpr (coverage_known hr' he' record (h.perm.mem_iff.mpr (List.mem_cons_self ..)) hselected
      hcontains t ht) hlate

namespace CalendarSample

open Sample (instant)

/-- Coverage of the next year by the first version, known a second after the cut-off. -/
theorem starts_real : RealTime 2027 1 1 0 0 0 0 := by decide

def nextYear : HistoricalCoverage :=
  { covered with
    localDateFrom := ⟨2027, 1, 1, starts_real⟩, localDateTo := ⟨2028, 1, 1, by decide⟩,
    coverageKnowledgeFrom := some (instant 11), positive := by decide }

/-- The records with it. -/
def records : List HistoricalCoverage := [covered, nextYear]

theorem nextYear_future : FutureCoverage query candidates nextYear records where
  perm := .swap ..
  visible := by decide
  future := ⟨instant 11, rfl, by decide⟩

end CalendarSample

theorem coverage_no_look_ahead_sample :
    FutureCoverage CalendarSample.query CalendarSample.candidates CalendarSample.nextYear CalendarSample.records ∧
    (answerOf <$> resolveCalendarSession CalendarSample.environment CalendarSample.query
        (recovered CalendarSample.candidates CalendarSample.records CalendarSample.candidates.candidateSetCoverage) =
      answerOf <$> resolveCalendarSession CalendarSample.environment CalendarSample.query CalendarSample.candidates ∨
    ((Lists CalendarSample.environment.py CalendarSample.query CalendarSample.candidates
          CalendarSample.candidates.candidateSetCoverage ∨ maxLineageVersions < CalendarSample.records.length) ∧
        Unresolved (resolveCalendarSession CalendarSample.environment CalendarSample.query
          (recovered CalendarSample.candidates CalendarSample.records CalendarSample.candidates.candidateSetCoverage))) ∨
    (Lists CalendarSample.environment.py CalendarSample.query
          (recovered CalendarSample.candidates CalendarSample.records CalendarSample.candidates.candidateSetCoverage)
          CalendarSample.candidates.candidateSetCoverage ∧
        Unresolved (resolveCalendarSession CalendarSample.environment CalendarSample.query CalendarSample.candidates))) :=
  ⟨CalendarSample.nextYear_future, (coverage_no_look_ahead CalendarSample.environment CalendarSample.query
    CalendarSample.candidates CalendarSample.nextYear CalendarSample.records CalendarSample.nextYear_future).1⟩

/-- The holiday is established without the coverage of the next year, and not with it. -/
theorem future_coverage_changes_answer :
    FutureCoverage CalendarSample.query CalendarSample.candidates CalendarSample.nextYear CalendarSample.records ∧
    answerOf <$> resolveCalendarSession CalendarSample.environment CalendarSample.query CalendarSample.candidates =
      .ok ⟨.established, some (CalendarSample.versionId 1), some CalendarSample.holiday, none, none, none⟩ ∧
    answerOf <$> resolveCalendarSession CalendarSample.environment CalendarSample.query
        (recovered CalendarSample.candidates CalendarSample.records CalendarSample.candidates.candidateSetCoverage) =
      .ok ⟨.notEstablished, none, none, none, none, none⟩ :=
  ⟨CalendarSample.nextYear_future, by decide +kernel, by decide +kernel⟩

end ATB.Proof.Resolution
