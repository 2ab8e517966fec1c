import AutomatedTradingBot.Proof.Evidence
import AutomatedTradingBot.Proof.Resolution.Superseded

/-!
# A calendar resolution returns, except at the ends of the calendar

Every exception below the resolver is a `ValueError` that some branch catches, but for
the arithmetic of a wall time and its offset, which leaves the range of dates on the
first and on the last day of the calendar.

* `shifted_eq_none`: where that arithmetic is out of range;
* `verifyUtcBoundaries_raises`: what the verification of a session raises;
* `postInit_resolved`: the constructor of the result accepts what the resolver returns;
* `resolution_total`: the resolver returns if and only if it verifies no session whose
  conversion is out of range.
-/

namespace ATB.Proof.Resolution

open ATB.Instruments ATB.Calendars ATB.Proof.Evidence

/-! ## Dates -/

theorem ofFields?_eq {year month day : Nat} (h : RealTime year month day 0 0 0 0) :
    LocalDate.ofFields? year month day = some ⟨year, month, day, h⟩ := dif_pos h

theorem ofFields?_eq_none {year month day : Nat} (h : ¬ RealTime year month day 0 0 0 0) :
    LocalDate.ofFields? year month day = none := dif_neg h

theorem daysInMonth_pos (year month : Nat) : 1 ≤ daysInMonth year month := by
  unfold daysInMonth
  split
  · split <;> omega
  · split <;> omega

/-- There is no day before the first. -/
theorem before?_eq_none (d : LocalDate) : d.before? = none ↔ (d.year, d.month, d.day) = (1, 1, 1) := by
  obtain ⟨⟨hy, hy'⟩, ⟨hm, hm'⟩, ⟨hd, hd'⟩, -⟩ := d.real
  simp only [Prod.mk.injEq]
  rw [LocalDate.before?]
  by_cases hday : 1 < d.day
  · rw [if_pos hday, ofFields?_eq ⟨⟨hy, hy'⟩, ⟨hm, hm'⟩, ⟨by omega, by omega⟩, by decide⟩]
    exact iff_of_false (by simp) (by omega)
  · rw [if_neg hday]
    by_cases hmonth : 1 < d.month
    · rw [if_pos hmonth, ofFields?_eq ⟨⟨hy, hy'⟩, ⟨by omega, by omega⟩, ⟨daysInMonth_pos _ _, le_rfl⟩, by decide⟩]
      exact iff_of_false (by simp) (by omega)
    · rw [if_neg hmonth]
      by_cases hyear : 1 < d.year
      · rw [ofFields?_eq ⟨⟨by omega, by omega⟩, ⟨by decide, by decide⟩, ⟨by decide, by simp [daysInMonth]⟩, by decide⟩]
        exact iff_of_false (by simp) (by omega)
      · rw [ofFields?_eq_none fun h => by have := h.1.1; omega]
        exact iff_of_true rfl (by omega)

/-- There is no day after the last. -/
theorem after?_eq_none (d : LocalDate) : d.after? = none ↔ (d.year, d.month, d.day) = (9999, 12, 31) := by
  obtain ⟨⟨hy, hy'⟩, ⟨hm, hm'⟩, ⟨hd, hd'⟩, -⟩ := d.real
  simp only [Prod.mk.injEq]
  rw [LocalDate.after?]
  by_cases hday : d.day < daysInMonth d.year d.month
  · rw [if_pos hday, ofFields?_eq ⟨⟨hy, hy'⟩, ⟨hm, hm'⟩, ⟨by omega, hday⟩, by decide⟩]
    refine iff_of_false (by simp) ?_
    rintro ⟨-, h, h'⟩
    rw [h, h'] at hday
    simp [daysInMonth] at hday
  · rw [if_neg hday]
    by_cases hmonth : d.month < 12
    · rw [if_pos hmonth, ofFields?_eq ⟨⟨hy, hy'⟩, ⟨by omega, hmonth⟩, ⟨le_rfl, daysInMonth_pos _ _⟩, by decide⟩]
      exact iff_of_false (by simp) (by omega)
    · rw [if_neg hmonth]
      have hdecember : d.month = 12 := by omega
      rw [hdecember] at hday hd'
      have hlast : daysInMonth d.year 12 = 31 := by simp [daysInMonth]
      by_cases hyear : d.year < 9999
      · rw [ofFields?_eq ⟨⟨by omega, hyear⟩, ⟨by decide, by decide⟩, ⟨le_rfl, daysInMonth_pos _ _⟩, by decide⟩]
        exact iff_of_false (by simp) (by omega)
      · rw [ofFields?_eq_none fun h => by have := h.1.2; omega]
        exact iff_of_true rfl (by omega)

/-- The wall time less its offset is before the first day, or after the last. -/
def BeyondCalendar (t : LocalWallTime) (d : LocalDate) : Prop :=
  ∃ offset ∈ t.utcOffsetMinutes,
    (t.hour * 60 + t.minute - offset < 0 ∧ (d.year, d.month, d.day) = (1, 1, 1)) ∨
    (1440 ≤ t.hour * 60 + t.minute - offset ∧ (d.year, d.month, d.day) = (9999, 12, 31))

theorem shifted_eq_none (t : LocalWallTime) (d : LocalDate) (offset : Int) :
    t.shifted d offset = none ↔
      (t.hour * 60 + t.minute - offset < 0 ∧ (d.year, d.month, d.day) = (1, 1, 1)) ∨
      (1440 ≤ t.hour * 60 + t.minute - offset ∧ (d.year, d.month, d.day) = (9999, 12, 31)) := by
  -- with a day the clock is in range
  have hclock : ∀ day : LocalDate, ∀ minutes : Int, RealTime day.year day.month day.day
      ((minutes % 1440).toNat / 60) ((minutes % 1440).toNat % 60) t.second t.microsecond := by
    intro day minutes
    obtain ⟨hy, hm, hd, -⟩ := day.real
    obtain ⟨-, -, hs, hus⟩ := t.clock
    exact ⟨hy, hm, hd, by omega, by omega, hs, hus⟩
  have hsome : ∀ minutes : Int, ∀ o : Option LocalDate, (do
      let day ← o
      let minute := (minutes % 1440).toNat
      if h : RealTime day.year day.month day.day (minute / 60) (minute % 60) t.second t.microsecond then
        some (⟨day.year, day.month, day.day, minute / 60, minute % 60, t.second, t.microsecond, h⟩ : Datetime)
      else none) = none ↔ o = none := by
    intro minutes o
    cases o with
    | none => exact iff_of_true rfl rfl
    | some day =>
      refine iff_of_false ?_ (by simp)
      change (if h : _ then some _ else none) ≠ none
      rw [dif_pos (hclock day minutes)]
      simp
  rw [LocalWallTime.shifted]
  dsimp only
  by_cases hneg : (t.hour * 60 + t.minute - offset : Int) < 0
  · rw [if_pos hneg]
    refine (hsome _ d.before?).trans ((before?_eq_none d).trans ?_)
    exact ⟨fun h => .inl ⟨hneg, h⟩, fun h => h.elim And.right fun h => by omega⟩
  · rw [if_neg hneg]
    by_cases hover : (1440 : Int) ≤ t.hour * 60 + t.minute - offset
    · rw [if_pos hover]
      refine (hsome _ d.after?).trans ((after?_eq_none d).trans ?_)
      exact ⟨fun h => .inr ⟨hover, h⟩, fun h => h.elim (fun h => absurd h.1 hneg) And.right⟩
    · rw [if_neg hover]
      refine (hsome _ (some d)).trans (iff_of_false (by simp) ?_)
      rintro (h | h)
      · exact hneg h.1
      · exact hover h.1

/-! ## The verification of a session -/

/-- The conversion of the session's boundaries leaves the range of dates. The close is
converted once the open is. -/
def OutOfRange (s : SessionDefinition) : Prop :=
  s.localOpen.utcOffsetMinutes ≠ none ∧ (BeyondCalendar s.localOpen s.localDate ∨ BeyondCalendar s.localClose s.localDate)

/-- A computation raises something else than a `ValueError`. -/
def Escapes {α : Type} (o : Outcome α) : Prop := ∃ e, o = .error e ∧ e.cls ≠ .valueError

theorem not_escapes_ok {α : Type} (a : α) : ¬ Escapes (.ok a : Outcome α) := fun ⟨_, h, _⟩ => by cases h

theorem escapes_bind {α β : Type} {x : Outcome α} {f : α → Outcome β} :
    Escapes (x >>= f) ↔ Escapes x ∨ ∃ a, x = .ok a ∧ Escapes (f a) := by
  cases x with
  | error e => simp [Escapes]
  | ok a => simp [not_escapes_ok]

/-- A conversion that is not out of range returns, or raises a `ValueError` for want of an offset. -/
theorem toUtc_escapes {env : Environment} {t : LocalWallTime} {d : LocalDate} {rule : TimezoneRuleRef}
    {corpus : List UInt8} (hcorpus : env.fromBytes corpus = rule.ruleContentDigest) (hrule : rule.isAuthoritative = true)
    (hexistent : t.nonexistent = false) (hfold : t.ambiguous = true → t.fold ≠ none) :
    (Escapes (t.toUtc env d rule corpus) ↔ BeyondCalendar t d) ∧
    ((∃ u, t.toUtc env d rule corpus = .ok u) ↔ t.utcOffsetMinutes ≠ none ∧ ¬ BeyondCalendar t d) := by
  have hverify : rule.verifyRuleCorpus env corpus = .ok () := raiseIf_of_not (not_not.mpr hcorpus)
  rw [LocalWallTime.toUtc, hverify, ok_bind, raiseIf_of_not (by simp [hrule]), ok_bind,
    raiseIf_of_not (by simp [hexistent]), ok_bind]
  cases ho : t.utcOffsetMinutes with
  | none =>
    have hnot : ¬ BeyondCalendar t d := by
      rintro ⟨m, hm, -⟩
      rw [ho] at hm
      cases hm
    refine ⟨iff_of_false ?_ hnot, iff_of_false ?_ (by simp)⟩
    · rintro ⟨e, h, hcls⟩
      cases h
      exact hcls rfl
    · rintro ⟨u, h⟩
      cases h
  | some offset =>
    have hbeyond : BeyondCalendar t d ↔ t.shifted d offset = none := by
      rw [shifted_eq_none, BeyondCalendar, ho]
      simp
    have hambiguous : ¬ (t.ambiguous = true ∧ t.fold = none) := fun h => hfold h.1 h.2
    rw [orRaise, ok_bind, raiseIf_of_not hambiguous, ok_bind, hbeyond]
    cases t.shifted d offset with
    | none =>
      refine ⟨iff_of_true ⟨_, rfl, by decide⟩ rfl, iff_of_false ?_ (by simp)⟩
      rintro ⟨u, h⟩
      cases h
    | some utc => exact ⟨iff_of_false (not_escapes_ok _) (by simp), iff_of_true ⟨_, rfl⟩ (by simp)⟩

/-- What the verification of a session's boundaries raises. -/
theorem verifyUtcBoundaries_escapes {env : Environment} {s : SessionDefinition} {corpus : List UInt8}
    (hcorpus : env.fromBytes corpus = s.timezoneRuleRef.ruleContentDigest)
    (hrule : s.timezoneRuleRef.isAuthoritative = true) :
    Escapes (s.verifyUtcBoundaries env corpus) ↔ OutOfRange s := by
  obtain ⟨hopen, hopened⟩ := toUtc_escapes (d := s.localDate) hcorpus hrule s.existent.1
    (s.unambiguous s.localOpen (by simp))
  obtain ⟨hclose, -⟩ := toUtc_escapes (d := s.localDate) hcorpus hrule s.existent.2
    (s.unambiguous s.localClose (by simp))
  have hlast : ∀ o c : Timestamp, ¬ Escapes (raiseIf (o ≠ s.utcOpen ∨ c ≠ s.utcClose)
      ⟨.valueError, "UTC_CONVERSION_DISAGREEMENT"⟩) := by
    rintro o c ⟨e, h, hcls⟩
    by_cases hc : o ≠ s.utcOpen ∨ c ≠ s.utcClose
    · rw [raiseIf_of hc] at h
      cases h
      exact hcls rfl
    · rw [raiseIf_of_not hc] at h
      cases h
  have hnone : BeyondCalendar s.localOpen s.localDate → s.localOpen.utcOffsetMinutes ≠ none := by
    rintro ⟨m, hm, -⟩ h
    rw [h] at hm
    cases hm
  rw [SessionDefinition.verifyUtcBoundaries, escapes_bind, hopen]
  constructor
  · rintro (h | ⟨o, ho, h⟩)
    · exact ⟨hnone h, .inl h⟩
    · rcases escapes_bind.mp h with h | ⟨c, -, h⟩
      · exact ⟨(hopened.mp ⟨o, ho⟩).1, .inr (hclose.mp h)⟩
      · exact absurd h (hlast o c)
  · rintro ⟨hoffset, h⟩
    by_cases hb : BeyondCalendar s.localOpen s.localDate
    · exact .inl hb
    · obtain ⟨o, ho⟩ := hopened.mpr ⟨hoffset, hb⟩
      exact .inr ⟨o, ho, escapes_bind.mpr (.inl (hclose.mpr (h.resolve_left hb)))⟩

/-! ## Where the resolver raises -/

/-- Every check before the verification of the session's boundaries has passed. -/
def Verifies (env : Environment) (query : CalendarSessionResolutionQuery) (c : CalendarSessionResolutionCandidates)
    (session : SessionDefinition) : Prop :=
  ∃ coverage selected authorities currentness historical day corpus,
    c.withinLimits ∧
    checkManifest env.py query c.candidateSetCoverage (visible query c) = .ok coverage ∧
    checkLineage env.py query (visible query c) = .ok () ∧
    selectVersion env query c coverage (visible query c) = .ok (selected, authorities) ∧
    selectCurrentness query c.currentnessAssessments selected = .ok currentness ∧
    selectCoverage query (visible query c) selected = .ok historical ∧
    selectDay env.py query c.negativeCoverage coverage (visible query c) selected = .ok day ∧
    day.dayKind = .regularTradingDay ∧
    checkNegative env query c.negativeCoverage coverage (visible query c) day = .ok () ∧
    (sessionsOf query (visible query c) selected).head? = some session ∧
    ((sessionsOf query (visible query c) selected).map fun s => digest env.py s.semantics).dedup.length = 1 ∧
    session.isAuthoritative = true ∧ session.timezoneRuleRef = selected.timezoneRuleRef ∧
    (c.timezoneRuleCorpora.filter fun t => decide (t.timezoneRuleId = selected.timezoneRuleRef.timezoneRuleId)) =
      [corpus] ∧
    env.fromBytes corpus.corpus = selected.timezoneRuleRef.ruleContentDigest

/-- The computation stops with an exception. -/
def Raised {α : Type} (x : Except Stop α) : Prop := ∃ e, x = .error (.raised e)

theorem not_raised_ok {α : Type} (a : α) : ¬ Raised (.ok a : Except Stop α) := fun ⟨_, h⟩ => by cases h

theorem raised_bind {α β : Type} {x : Except Stop α} {f : α → Except Stop β} :
    Raised (x >>= f) ↔ Raised x ∨ ∃ a, x = .ok a ∧ Raised (f a) := by
  cases x with
  | error e => simp [Raised]
  | ok a => simp [not_raised_ok]

/-- A result with which the computation stops is no exception. -/
def Returns : Stop → Prop
  | .returned _ => True
  | .raised _ => False

theorem returns (c : CalendarSessionResolutionCandidates) : StopRule c Returns where
  stop _ _ _ := trivial
  negative _ _ := trivial
  conflict _ _ _ := trivial

theorem not_raised {α : Type} {x : Except Stop α} (h : Fails Returns x) : ¬ Raised x := fun ⟨_, e⟩ => h _ e

/-- A stage that raises nothing is one that must return. -/
theorem raised_bind_of_fails {α β : Type} {x : Except Stop α} {f : α → Except Stop β} (h : Fails Returns x) :
    Raised (x >>= f) ↔ ∃ a, x = .ok a ∧ Raised (f a) := by
  rw [raised_bind, or_iff_right (not_raised h)]

theorem raised_raiseIf {β : Type} {p : Prop} [Decidable p] {d : ResolutionDisposition}
    {reason : CalendarSessionResolutionReason} {f : Unit → Except Stop β} :
    Raised (raiseIf p (stop d reason) >>= f) ↔ ¬ p ∧ Raised (f ()) := by
  have hfails : Fails Returns (raiseIf p (stop d reason)) := .raiseIf trivial
  rw [raised_bind_of_fails hfails]
  exact ⟨fun ⟨_, h, h'⟩ => ⟨raiseIf_eq_ok.mp h, h'⟩, fun ⟨h, h'⟩ => ⟨(), raiseIf_eq_ok.mpr h, h'⟩⟩

theorem checkBoundaries_raised {env : Environment} {corpora : List TimezoneRuleCorpusInput} {selected : CalendarVersion}
    {session : SessionDefinition} : Raised (checkBoundaries env corpora selected session) ↔
      session.isAuthoritative = true ∧ session.timezoneRuleRef = selected.timezoneRuleRef ∧
      (∃ corpus, (corpora.filter fun t => decide (t.timezoneRuleId = selected.timezoneRuleRef.timezoneRuleId)) = [corpus] ∧
        env.fromBytes corpus.corpus = selected.timezoneRuleRef.ruleContentDigest) ∧ OutOfRange session := by
  have hsingle : ∀ l : List TimezoneRuleCorpusInput, ∀ corpus, ¬ 1 < l.length ∧ l.head? = some corpus ↔ l = [corpus] := by
    rintro (_ | ⟨x, _ | ⟨y, l⟩⟩) corpus <;> simp
  have hmap : ∀ o : Outcome Unit, Raised (o.mapError fun error =>
      if error.cls ≠ .valueError then Stop.raised error
      else if error.message = "UTC_CONVERSION_DISAGREEMENT" then stop .conflicting .utcBoundaryConflict
      else stop .notEstablished .localTimeNotEstablished) ↔ Escapes o := by
    rintro (e | u)
    · simp only [Raised, Escapes, Except.mapError, Except.error.injEq, exists_eq_left']
      by_cases hcls : e.cls ≠ .valueError
      · rw [if_pos hcls]
        exact iff_of_true ⟨e, rfl⟩ hcls
      · rw [if_neg hcls]
        refine iff_of_false ?_ hcls
        rintro ⟨e', h⟩
        split at h <;> cases h
    · exact iff_of_false (not_raised_ok _) (not_escapes_ok _)
  rw [checkBoundaries]
  dsimp only
  rw [raised_raiseIf, raised_raiseIf, not_or, Bool.not_eq_false, not_not]
  rw [raised_bind_of_fails (.orRaise trivial)]
  simp only [orRaise_eq_ok, raised_raiseIf, not_not, hmap]
  constructor
  · rintro ⟨⟨hauth, hrule⟩, hlength, corpus, hhead, hdigest, hescapes⟩
    refine ⟨hauth, hrule, ⟨corpus, (hsingle _ _).mp ⟨hlength, hhead⟩, hdigest⟩, ?_⟩
    refine (verifyUtcBoundaries_escapes (hdigest.trans (by rw [hrule])) ?_).mp hescapes
    exact (Bool.and_eq_true_iff.mp hauth).2
  · rintro ⟨hauth, hrule, ⟨corpus, hcorpora, hdigest⟩, hout⟩
    obtain ⟨hlength, hhead⟩ := (hsingle _ _).mpr hcorpora
    refine ⟨⟨hauth, hrule⟩, hlength, corpus, hhead, hdigest, ?_⟩
    refine (verifyUtcBoundaries_escapes (hdigest.trans (by rw [hrule])) ?_).mpr hout
    exact (Bool.and_eq_true_iff.mp hauth).2

theorem resolution_raised {env : Environment} {query : CalendarSessionResolutionQuery}
    {c : CalendarSessionResolutionCandidates} :
    Raised (resolution env query c) ↔ ∃ session, Verifies env query c session ∧ OutOfRange session := by
  have hkind : ¬ query.sessionKind ≠ .regular := fun h => h (by cases query.sessionKind; rfl)
  have rule := returns c
  simp only [resolution, resolveSession, selectSession, raised_raiseIf,
    raised_bind_of_fails (checkManifest_fails rule query env.py _ _),
    raised_bind_of_fails (checkLineage_fails rule query env.py _),
    raised_bind_of_fails (selectVersion_fails rule env query _ _),
    raised_bind_of_fails (selectCurrentness_fails rule query _ _),
    raised_bind_of_fails (selectCoverage_fails rule query _ _),
    raised_bind_of_fails (selectDay_fails rule query env.py _ _ _)]
  constructor
  · rintro ⟨-, hlimits, coverage, hmanifest, _, hlineage, ⟨selected, used⟩, hversion, currentness, hcurrentness,
      historical, hhistorical, day, hday, h⟩
    by_cases hregular : day.dayKind ≠ .regularTradingDay
    · rw [if_pos hregular, raised_raiseIf] at h
      exact absurd h.2 (not_raised_ok _)
    rw [if_neg hregular, raised_bind] at h
    rcases h with h | ⟨session, -, h⟩
    · rw [raised_bind_of_fails (checkNegative_fails rule env query _ _ _)] at h
      obtain ⟨_, hnegative, h⟩ := h
      rw [raised_bind_of_fails (.orRaise trivial)] at h
      obtain ⟨session, hsession, h⟩ := h
      rw [raised_raiseIf, raised_bind] at h
      obtain ⟨hone, h⟩ := h
      rcases h with h | ⟨_, -, h⟩
      · obtain ⟨hauth, hrule, ⟨corpus, hcorpora, hdigest⟩, hout⟩ := checkBoundaries_raised.mp h
        exact ⟨session, ⟨coverage, selected, used, currentness, historical, day, corpus, not_not.mp hlimits, hmanifest,
          hlineage, hversion, hcurrentness, hhistorical, hday, not_not.mp hregular, hnegative, orRaise_eq_ok.mp hsession,
          not_not.mp hone, hauth, hrule, hcorpora, hdigest⟩, hout⟩
      · exact absurd h (not_raised_ok _)
    · exact absurd h (not_raised_ok _)
  · rintro ⟨session, ⟨coverage, selected, used, currentness, historical, day, corpus, hlimits, hmanifest, hlineage, hversion,
      hcurrentness, hhistorical, hday, hregular, hnegative, hsession, hone, hauth, hrule, hcorpora, hdigest⟩, hout⟩
    refine ⟨hkind, not_not.mpr hlimits, coverage, hmanifest, (), hlineage, (selected, used), hversion, currentness,
      hcurrentness, historical, hhistorical, day, hday, ?_⟩
    rw [if_neg (not_not.mpr hregular), raised_bind]
    refine .inl (raised_bind.mpr (.inr ⟨(), hnegative, ?_⟩))
    refine raised_bind.mpr (.inr ⟨session, orRaise_eq_ok.mpr hsession, ?_⟩)
    rw [raised_raiseIf, raised_bind]
    exact ⟨not_not.mpr hone, .inl (checkBoundaries_raised.mpr ⟨hauth, hrule, ⟨corpus, hcorpora, hdigest⟩, hout⟩)⟩

/-! ## The constructor of the result -/

/-- The constructor accepts the result as it is, and without a value unless it is established. -/
structure Accepted (r : CalendarSessionResolutionResult) : Prop where
  postInit : r.postInit = .ok r
  valueFree : r.disposition ≠ .established → r.valueFree

theorem canonicalEvidence_of_canonical {refs : List EvidenceRef} (h : Canonical refs) :
    CalendarSessionResolutionResult.canonicalEvidence refs = .ok refs := by
  rw [CalendarSessionResolutionResult.canonicalEvidence]
  split
  · rename_i hnil
    rw [hnil]
  · rename_i hne
    rw [canonicalize_of_canonical h hne]
    rfl

/-- A result whose evidence is canonical and whose values are in order is accepted as it is. -/
theorem postInit_eq_self {r : CalendarSessionResolutionResult} (h : Canonical r.evidenceRefs)
    (hvalues : r.checkValues = .ok ()) : r.postInit = .ok r := by
  rw [CalendarSessionResolutionResult.postInit, canonicalEvidence_of_canonical h, ok_bind,
    raiseIf_of_not (Nat.not_lt.mpr h.bounded), ok_bind, hvalues]
  rfl

theorem emptyResult_accepted {d : ResolutionDisposition} (hd : d ≠ .established)
    (reason : CalendarSessionResolutionReason) {refs : List EvidenceRef} (h : Canonical refs) :
    Accepted (emptyResult d reason refs) := by
  have hfree : (emptyResult d reason refs).valueFree := ⟨rfl, rfl, rfl, rfl, rfl, rfl, rfl, rfl, rfl⟩
  refine ⟨postInit_eq_self h ?_, fun _ => hfree⟩
  rw [CalendarSessionResolutionResult.checkValues, raiseIf_of_not (fun hc => hc.2 hfree), ok_bind]
  exact if_neg hd

theorem established_accepted {py : Platform} {version : CalendarVersion} {day : TradingDayDefinition}
    {session : Option SessionDefinition} {currentness : CalendarCurrentnessAssessment}
    {authorities : List CalendarCorrectionAuthorityAssessment} {evidence : List EvidenceRef}
    (hsession : session.isSome = decide (day.dayKind = .regularTradingDay)) :
    Accepted (established py version day session currentness authorities evidence) := by
  rw [established]
  split
  · exact emptyResult_accepted (by decide) _ canonical_nil
  · rename_i supporting hsupporting
    refine ⟨postInit_eq_self (canonical_minimalEvidence hsupporting) ?_, fun h => absurd rfl h⟩
    rw [CalendarSessionResolutionResult.checkValues, raiseIf_of_not (fun hc => hc.1 rfl), ok_bind, if_pos rfl]
    by_cases hregular : day.dayKind = .regularTradingDay
    · obtain ⟨s, rfl⟩ := Option.isSome_iff_exists.mp (hsession.trans (decide_eq_true hregular))
      simp [orRaise, hregular]
    · have hnone : session = none := by
        rw [decide_eq_false hregular, Option.isSome_eq_false_iff, Option.isNone_iff_eq_none] at hsession
        exact hsession
      subst hnone
      simp [orRaise, hregular]

/-- The evidence of negative coverage is what its constructor kept. -/
def Constructed (c : CalendarSessionResolutionCandidates) : Prop :=
  ∀ n ∈ c.negativeCoverage, ∃ refs, Datasets.canonicalizeEvidenceRefs refs = .ok n.evidenceRefs

/-- An early result is accepted. -/
def AcceptedStop : Stop → Prop
  | .returned r => Accepted r
  | .raised _ => True

theorem acceptedStop {c : CalendarSessionResolutionCandidates} (hc : Constructed c) : StopRule c AcceptedStop where
  stop _ reason hd := emptyResult_accepted hd reason canonical_nil
  negative n hn := by
    obtain ⟨refs, hrefs⟩ := hc n hn
    exact emptyResult_accepted (by decide) _ (canonicalize_canonical hrefs)
  conflict _ _ h := emptyResult_accepted (by decide) _ (canonical_minimalEvidence h)

theorem resolution_accepted {env : Environment} {query : CalendarSessionResolutionQuery}
    {c : CalendarSessionResolutionCandidates} {r : CalendarSessionResolutionResult} (h : resolution env query c = .ok r) :
    Accepted r := by
  simp only [resolution, bind_eq_ok, raiseIf_eq_ok, exists_const] at h
  obtain ⟨-, -, coverage, -, _, -, ⟨selected, used⟩, -, currentness, -, h⟩ := h
  simp only [resolveSession, bind_eq_ok] at h
  obtain ⟨historical, -, day, -, h⟩ := h
  by_cases hkind : day.dayKind ≠ .regularTradingDay
  · rw [if_pos hkind] at h
    simp only [bind_eq_ok, pure_eq_ok] at h
    obtain ⟨_, -, rfl⟩ := h
    exact established_accepted (decide_eq_false hkind).symm
  · rw [if_neg hkind] at h
    simp only [bind_eq_ok, pure_eq_ok] at h
    obtain ⟨session, -, rfl⟩ := h
    exact established_accepted (decide_eq_true (not_not.mp hkind)).symm

/-- The constructor accepts what the resolver returns. -/
theorem postInit_resolved {env : Environment} {query : CalendarSessionResolutionQuery}
    {c : CalendarSessionResolutionCandidates} (hc : Constructed c) {r : CalendarSessionResolutionResult}
    (h : resolveCalendarSession env query c = .ok r) : Accepted r := by
  rw [resolveCalendarSession_eq] at h
  rcases hres : resolution env query c with (r' | e) | r'
  · rw [hres] at h
    cases h
    exact resolution_fails (acceptedStop hc) env query (fun _ => trivial) _ hres
  · rw [hres] at h
    cases h
  · rw [hres] at h
    cases h
    exact resolution_accepted hres

/-- The resolver returns a result, which carries no value unless it is established, if
and only if it does not come to verify a session whose conversion is out of range. -/
theorem resolution_total (env : Environment) (query : CalendarSessionResolutionQuery)
    (c : CalendarSessionResolutionCandidates) (hc : Constructed c) :
    (∃ r, resolveCalendarSessionResult env query c = .ok r ∧ (r.disposition ≠ .established → r.valueFree)) ↔
      ¬ ∃ session, Verifies env query c session ∧ OutOfRange session := by
  rw [← resolution_raised, resolveCalendarSessionResult]
  cases h : resolveCalendarSession env query c with
  | ok r =>
    have ha := postInit_resolved hc h
    refine iff_of_true ⟨r, ha.postInit, ha.valueFree⟩ ?_
    rintro ⟨e, he⟩
    rw [resolveCalendarSession_eq, he] at h
    cases h
  | error e =>
    refine iff_of_false (by rintro ⟨r, h, -⟩; cases h) (not_not.mpr ⟨e, ?_⟩)
    rw [resolveCalendarSession_eq] at h
    rcases hres : resolution env query c with (r' | e') | r'
    · rw [hres] at h
      cases h
    · rw [hres] at h
      cases h
      rfl
    · rw [hres] at h
      cases h

namespace CalendarSample

open Sample (instant evidence)

/-- The rule of an empty corpus. -/
def emptyRule : TimezoneRuleRef :=
  { rule with ruleContentDigest := ⟨"sha256:e3b0c44298fc1c149afbf4c8996fb92427ae41e4649b934ca495991b7852b855"⟩ }

def dayOne : LocalDate := ⟨1, 1, 1, by decide⟩

def clock (hour minute : Nat) (h : hour < 24 ∧ minute < 60) : LocalWallTime :=
  { hour := hour, minute := minute, second := 0, microsecond := 0, utcOffsetMinutes := some 60, ambiguous := false,
    nonexistent := false, fold := none, clock := ⟨h.1, h.2, by decide, by decide⟩, offset := by decide,
    exclusive := by decide, folded := by simp }

def dayOneVersion : CalendarVersion := { first with timezoneRuleRef := emptyRule }

def dayOneCovered : HistoricalCoverage :=
  { covered with localDateFrom := dayOne, localDateTo := ⟨1, 1, 2, by decide⟩, positive := by decide }

def dayOneTrading : TradingDayDefinition := { holiday with localDate := dayOne, dayKind := .regularTradingDay }

/-- A session of the first day that opens half an hour after midnight, an hour ahead of UTC. -/
def dayOneSession : SessionDefinition :=
  { calendarId := calendar, calendarVersionId := versionId 1, localDate := dayOne, sessionKind := .regular,
    scheduleVariation := .standard, localOpen := clock 0 30 (by decide), localClose := clock 8 0 (by decide),
    utcOpen := instant 1, utcClose := instant 2, timezoneRuleRef := emptyRule,
    evidenceRefs := [evidence "session" ("sha256:" ++ String.ofList (List.replicate 64 '9'))],
    validationPolicyId := policy, validationState := .valid, existent := ⟨rfl, rfl⟩,
    unambiguous := by simp [clock], localPositive := by decide, utcPositive := by decide }

/-- SHA-256 of the facts of the first day, by the lengths of their texts. -/
def dayOneDigests : List (Nat × Nat) :=
  [(614, 0xdb28ca861d8abc8cb73012895b667440b32ec11ec3bae31ef81651421894cb8e),
   (546, 0x83253c97f203178cb8a31fccec1128d05e643b0cd42f2954252a62058ae1b486),
   (1423, 0x8024c0b7ffe3c7f54218a0322587fcd8bffca7d3fb89c900a25a25b96d642367)]

def dayOneEnvironment : Environment where
  py :=
    { isNfc := fun _ => true
      sha256 := fun text => ⟨((dayOneDigests.find? fun d => d.1 = text.length).map Prod.snd).getD 0 % 2 ^ 256,
        Nat.mod_lt _ (Nat.two_pow_pos 256)⟩ }
  fromBytes _ := emptyRule.ruleContentDigest

def dayOneQuery : CalendarSessionResolutionQuery := { query with localDate := dayOne }

def dayOneManifest : CalendarCandidateSetCoverage :=
  { manifest with
    localDate := dayOne
    candidateFactDescriptors :=
      [⟨"SESSION", versionId 1, "0001-01-01", some .regular,
          "sha256:8024c0b7ffe3c7f54218a0322587fcd8bffca7d3fb89c900a25a25b96d642367"⟩,
        ⟨"TRADING_DAY", versionId 1, "0001-01-01", none,
          "sha256:83253c97f203178cb8a31fccec1128d05e643b0cd42f2954252a62058ae1b486"⟩,
        ⟨"HISTORICAL_COVERAGE", versionId 1, "0001-01-01/0001-01-02", none,
          "sha256:db28ca861d8abc8cb73012895b667440b32ec11ec3bae31ef81651421894cb8e"⟩] }

def dayOneCandidates : CalendarSessionResolutionCandidates :=
  { calendarVersions := [dayOneVersion]
    historicalCoverages := [dayOneCovered]
    tradingDayDefinitions := [dayOneTrading]
    sessionDefinitions := [dayOneSession]
    timezoneRuleCorpora := [⟨"timezone-rule:atis/2025b", []⟩]
    candidateSetCoverage := some dayOneManifest
    negativeCoverage := none
    currentnessAssessments := [currentness]
    correctionAuthorityAssessments := [] }

theorem dayOne_constructed : Constructed dayOneCandidates := by
  rintro n ⟨⟩

end CalendarSample

theorem resolution_total_sample : Constructed CalendarSample.dayOneCandidates ∧
    ((∃ r, resolveCalendarSessionResult CalendarSample.dayOneEnvironment CalendarSample.dayOneQuery
        CalendarSample.dayOneCandidates = .ok r ∧ (r.disposition ≠ .established → r.valueFree)) ↔
      ¬ ∃ session, Verifies CalendarSample.dayOneEnvironment CalendarSample.dayOneQuery CalendarSample.dayOneCandidates
        session ∧ OutOfRange session) :=
  ⟨CalendarSample.dayOne_constructed, resolution_total CalendarSample.dayOneEnvironment CalendarSample.dayOneQuery
    CalendarSample.dayOneCandidates CalendarSample.dayOne_constructed⟩

/-- The verification of the session of the first day raises, and nothing catches it. -/
theorem resolution_raises : Constructed CalendarSample.dayOneCandidates ∧
    resolveCalendarSessionResult CalendarSample.dayOneEnvironment CalendarSample.dayOneQuery
      CalendarSample.dayOneCandidates = .error ⟨.arithmeticError, "date value out of range"⟩ :=
  ⟨CalendarSample.dayOne_constructed, by decide +kernel⟩

end ATB.Proof.Resolution
