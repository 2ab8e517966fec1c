import AutomatedTradingBot.Proof.Resolution.AnyOrder

/-!
# The order of the candidates

A calendar resolution in another order of its candidates. It comes to the same version, day
and session, or stops for the same reason, but for three choices that it leaves to the order:
the reason of the first refused version, the first of the valid assessments of currentness,
and the first reference of an evidence key that two assessments cite.

* `resolution_eq`: where the choices are made;
* `agreed_of_forall`, `established_congr`: when the last two make no difference;
* `order_independent_iff`: the result is one in every order exactly when no choice makes one.
-/

namespace ATB.Proof.Resolution

open ATB.Instruments ATB.Calendars
open Evidence (firstOf firstOf_append firstOf_eq_none firstOf_eq_some firstOf_flatMap Limited mem_minimalEvidence
  minimalEvidence_congr minimalEvidence_eq_none)

/-! ## Where the choices are made -/

/-- The resolution up to the loop over the effective versions. -/
def opening (env : Environment) (query : CalendarSessionResolutionQuery) (c : CalendarSessionResolutionCandidates) :
    Except Stop CalendarCandidateSetCoverage := do
  raiseIf (query.sessionKind ≠ .regular) (stop .notEstablished .unsupportedSessionKind)
  raiseIf (¬ c.withinLimits) (stop .notEstablished .resourceLimitExceeded)
  let seen := visible query c
  let m ← checkManifest env.py query c.candidateSetCoverage seen
  checkLineage env.py query seen
  raiseIf (seen.versions ≠ [] ∧ effective query seen = []) (stop .notEstablished .effectiveBoundaryMismatch)
  raiseIf (effective query seen = []) (negativeOrMissing env.py query c.negativeCoverage m seen.evidence)
  raiseIf (∃ v ∈ effective query seen, v.isAuthoritative = false) (stop .notEstablished .noApplicableVersion)
  return m

/-- What a resolution establishes, but for the currentness and the evidence. -/
structure Settled where
  selected : CalendarVersion
  day : TradingDayDefinition
  session : Option SessionDefinition
  evidence : List EvidenceRef

/-- The resolution after the loop. -/
def settle (env : Environment) (query : CalendarSessionResolutionQuery) (c : CalendarSessionResolutionCandidates)
    (m : CalendarCandidateSetCoverage) : Except Stop Settled := do
  let seen := visible query c
  let selected ← chosen env.py (admissible query c.correctionAuthorityAssessments seen)
  checkCurrentness query c.currentnessAssessments selected
  let (day, session, evidence) ← sessionStage env query c m seen selected
  return ⟨selected, day, session, evidence⟩

/-- The result of the last line. -/
def Settled.answer (env : Environment) (s : Settled) (a : CalendarCurrentnessAssessment)
    (used : List CalendarCorrectionAuthorityAssessment) : CalendarSessionResolutionResult :=
  established env.py s.selected s.day s.session a used s.evidence

/-- The first refused version stops the resolution. -/
def firstRefusal (query : CalendarSessionResolutionQuery) (c : CalendarSessionResolutionCandidates) : Option Stop :=
  (effective query (visible query c)).findSome? (refusal query c.correctionAuthorityAssessments (visible query c))

/-- The assessments that a resolution may take. -/
def currentnesses (query : CalendarSessionResolutionQuery) (c : CalendarSessionResolutionCandidates)
    (s : Settled) : List CalendarCurrentnessAssessment := authoritative query c.currentnessAssessments s.selected

/-- The assessments of the corrections that a resolution rests on. -/
def corrections (query : CalendarSessionResolutionQuery) (c : CalendarSessionResolutionCandidates) :
    List CalendarCorrectionAuthorityAssessment := usedFor query c.correctionAuthorityAssessments (visible query c)

section Resolution

variable {env : Environment} {query : CalendarSessionResolutionQuery} {c c' : CalendarSessionResolutionCandidates}
  {m : CalendarCandidateSetCoverage} {s : Settled}

theorem resolution_eq (env : Environment) (query : CalendarSessionResolutionQuery)
    (c : CalendarSessionResolutionCandidates) : resolution env query c = (do
      let m ← opening env query c
      (firstRefusal query c).elim (do
        let s ← settle env query c m
        let a ← orRaise (stop .notEstablished .currentnessAssessmentNotAuthoritative) (currentnesses query c s).head?
        return s.answer env a (corrections query c)) .error) := by
  simp only [resolution, opening, selectVersion_eq, bind_assoc, pure_bind]
  refine congrArg _ (funext fun _ => congrArg _ (funext fun _ => congrArg _ (funext fun m => congrArg _ (funext fun _ =>
    congrArg _ (funext fun _ => congrArg _ (funext fun _ => congrArg _ (funext fun _ => ?_)))))))
  rw [firstRefusal]
  cases (effective query (visible query c)).findSome? _ with
  | some e => rfl
  | none =>
    simp only [Option.elim_none, pick_eq, settle, bind_assoc, pure_bind, selectCurrentness_eq, resolveSession_eq]
    refine congrArg _ (funext fun selected => ?_)
    cases hcurrent : checkCurrentness query c.currentnessAssessments selected with
    | error e => rfl
    | ok u =>
      obtain ⟨a, l, hl⟩ := List.exists_cons_of_ne_nil (authoritative_ne_nil hcurrent)
      simp only [ok_bind, currentnesses, hl, List.head?_cons, orRaise]
      rfl

theorem opening_congr (h : Reordered c c') : opening env query c = opening env query c' := by
  have hs : SeenReordered (visible query c) (visible query c') := visible_reordered h
  have heffective : (effective query _).Perm (effective query _) := effective_perm hs
  have hlimits : c.withinLimits ↔ c'.withinLimits := by
    simp only [CalendarSessionResolutionCandidates.withinLimits, h.versions.length_eq, h.coverages.length_eq,
      h.days.length_eq, h.sessions.length_eq, h.corpora.length_eq, h.currentness.length_eq, h.corrections.length_eq]
  simp only [opening, h.manifest, h.negative, checkManifest_congr env.py _ hs, checkLineage_congr env.py hs,
    negativeOrMissing_congr hs, raiseIf_congr (not_congr hlimits),
    raiseIf_congr (and_congr (not_congr (nil_iff hs.versions)) (nil_iff heffective)), raiseIf_congr (nil_iff heffective),
    raiseIf_congr (exists_mem_iff heffective fun _ => Iff.rfl)]

end Resolution

/-! ## The last line -/

section LastLine

variable {env : Environment} {s : Settled} {L : List CalendarCurrentnessAssessment}
  {A A' : List CalendarCorrectionAuthorityAssessment} {a b : CalendarCurrentnessAssessment}

/-- The references that the last line takes the first of each key of. -/
def cited (s : Settled) (a : CalendarCurrentnessAssessment) (used : List CalendarCorrectionAuthorityAssessment) :
    List EvidenceRef :=
  s.evidence ++ a.evidenceRefs ++ used.flatMap CalendarCorrectionAuthorityAssessment.evidenceRefs

/-- A reference that is the first of its key in some order of the assessments. -/
def MayLead (s : Settled) (L : List CalendarCurrentnessAssessment) (A : List CalendarCorrectionAuthorityAssessment)
    (e : EvidenceRef) : Prop :=
  ∃ a ∈ L, ∃ x ∈ [] :: A.map CalendarCorrectionAuthorityAssessment.evidenceRefs,
    firstOf (s.evidence ++ a.evidenceRefs ++ x) e.key = some e

/-- The assessments have one digest, and the references that may come first are those of
every order. -/
structure Agreed (py : Platform) (s : Settled) (L : List CalendarCurrentnessAssessment)
    (A : List CalendarCorrectionAuthorityAssessment) : Prop where
  digest : ∀ a ∈ L, ∀ b ∈ L, a.contentDigest py = b.contentDigest py
  everywhere : ∀ e, MayLead s L A e → ∀ b ∈ L, e.key ∈ keys (cited s b A)
  single : ∀ e e', MayLead s L A e → MayLead s L A e' → e.key = e'.key → e = e'

/-- The last line does not depend on the order of the assessments. -/
def Indifferent (py : Platform) (s : Settled) (L : List CalendarCurrentnessAssessment)
    (A : List CalendarCorrectionAuthorityAssessment) : Prop :=
  (∀ a ∈ L, Limited (cited s a A)) ∨ (∀ a ∈ L, ¬ Limited (cited s a A)) ∧ Agreed py s L A

theorem keys_cited_perm (h : A.Perm A') : (keys (cited s a A)).Perm (keys (cited s a A')) :=
  ((h.flatMap fun _ _ => .refl _).append_left _).map _

theorem limited_cited_perm (h : A.Perm A') : Limited (cited s a A) ↔ Limited (cited s a A') := by
  rw [Limited, Limited, (keys_cited_perm h).dedup.length_eq]

theorem mayLead_of_firstOf (ha : a ∈ L) (h : A.Perm A') {k : EvidenceKey} {e : EvidenceRef}
    (he : firstOf (cited s a A') k = some e) : MayLead s L A e := by
  obtain rfl := (firstOf_eq_some he).2
  rw [cited, firstOf_append, Option.or_eq_some_iff] at he
  rcases he with he | ⟨hnone, he⟩
  · exact ⟨a, ha, [], List.mem_cons_self .., by rwa [List.append_nil]⟩
  · obtain ⟨t, ht, hlead⟩ := firstOf_flatMap he
    exact ⟨a, ha, t.evidenceRefs, List.mem_cons_of_mem _ (List.mem_map_of_mem (h.mem_iff.mpr ht)), by
      rw [firstOf_append, hnone, Option.none_or, hlead]⟩

/-- The first references are the same, whichever assessments come first. -/
theorem Agreed.firstOf_congr (h : Agreed env.py s L A) (ha : a ∈ L) (hb : b ∈ L) (hp : A.Perm A') (k : EvidenceKey) :
    firstOf (cited s a A) k = firstOf (cited s b A') k := by
  have hmem : ∀ {e}, MayLead s L A e → ∀ b ∈ L, ∀ A', A.Perm A' → e.key ∈ keys (cited s b A') := fun he b hb A' hp =>
    (keys_cited_perm hp).mem_iff.mp (h.everywhere _ he b hb)
  -- one of them cites the key when the other does
  have hone : ∀ {a b A' A''}, a ∈ L → b ∈ L → A.Perm A' → A.Perm A'' → ∀ {e}, firstOf (cited s a A') k = some e →
      firstOf (cited s b A'') k = some e := by
    intro a b A' A'' ha hb hp hp' e he
    have hlead := mayLead_of_firstOf ha hp he
    have hkey := (firstOf_eq_some he).2
    obtain ⟨e', he'⟩ := Option.ne_none_iff_exists'.mp fun hnone =>
      firstOf_eq_none.mp hnone (hkey ▸ hmem hlead b hb A'' hp')
    rw [he', h.single e e' hlead (mayLead_of_firstOf hb hp' he') (hkey.trans (firstOf_eq_some he').2.symm)]
  exact Option.ext fun e => ⟨hone ha hb (.refl _) hp, hone hb ha hp (.refl _)⟩

theorem answer_of_limited (h : Limited (cited s a A)) :
    s.answer env a A = emptyResult .notEstablished .resourceLimitExceeded [] := by
  simp only [Settled.answer, established]
  rw [show s.evidence ++ a.evidenceRefs ++ _ = cited s a A from rfl, minimalEvidence_eq_none.mpr h]

/-- A result that is within the limit tells what it rests on. -/
theorem answer_of_not_limited (env : Environment) (h : ¬ Limited (cited s a A)) :
    (s.answer env a A).disposition = .established ∧
      minimalEvidence (cited s a A) = some (s.answer env a A).evidenceRefs ∧
      (s.answer env a A).currentnessAssessmentDigest = some (a.contentDigest env.py) := by
  obtain ⟨evidence, hevidence⟩ := Option.ne_none_iff_exists'.mp fun e => h (minimalEvidence_eq_none.mp e)
  rw [Settled.answer, established]
  change minimalEvidence (s.evidence ++ a.evidenceRefs ++ _) = _ at hevidence
  rw [hevidence]
  exact ⟨rfl, hevidence, rfl⟩

theorem answer_congr (h : Indifferent env.py s L A) (ha : a ∈ L) (hb : b ∈ L) (hp : A.Perm A') :
    s.answer env a A = s.answer env b A' := by
  rcases h with hall | ⟨hnone, hagreed⟩
  · rw [answer_of_limited (hall a ha), answer_of_limited ((limited_cited_perm hp).mp (hall b hb))]
  · have hevidence : minimalEvidence (cited s a A) = minimalEvidence (cited s b A') :=
      minimalEvidence_congr (hagreed.firstOf_congr ha hb hp)
    have hdigests : (A.map (CalendarCorrectionAuthorityAssessment.contentDigest env.py)).insertionSort (· ≤ ·) =
        (A'.map (CalendarCorrectionAuthorityAssessment.contentDigest env.py)).insertionSort (· ≤ ·) :=
      insertionSort_eq_of_perm (fun _ _ => le_total _ _) (fun _ _ _ => le_trans) (fun _ _ _ _ => le_antisymm) (hp.map _)
    simp only [Settled.answer, established]
    rw [show s.evidence ++ a.evidenceRefs ++ _ = cited s a A from rfl,
      show s.evidence ++ b.evidenceRefs ++ _ = cited s b A' from rfl, hevidence, hdigests, hagreed.digest a ha b hb]

/-- When each of the assessments may come first and the result is one, they agree. -/
theorem indifferent_of_answer {r : CalendarSessionResolutionResult}
    (h : ∀ a ∈ L, ∀ x ∈ [] :: A.map CalendarCorrectionAuthorityAssessment.evidenceRefs,
      ∃ y A', A.Perm A' ∧ A'.flatMap CalendarCorrectionAuthorityAssessment.evidenceRefs = x ++ y ∧ s.answer env a A' = r) :
    Indifferent env.py s L A := by
  have hanswer : ∀ a ∈ L, ∃ A', A.Perm A' ∧ s.answer env a A' = r := fun a ha =>
    let ⟨_, A', hp, _, hr⟩ := h a ha [] (List.mem_cons_self ..)
    ⟨A', hp, hr⟩
  by_cases hlimited : ∃ a ∈ L, Limited (cited s a A)
  · obtain ⟨a, ha, hla⟩ := hlimited
    obtain ⟨A', hp, hr⟩ := hanswer a ha
    rw [answer_of_limited ((limited_cited_perm hp).mp hla)] at hr
    refine .inl fun b hb => by_contra fun hlb => ?_
    obtain ⟨B', hp', hr'⟩ := hanswer b hb
    have hdisposition := (answer_of_not_limited env (mt (limited_cited_perm hp').mpr hlb)).1
    rw [hr', ← hr] at hdisposition
    cases hdisposition
  · have hlimited : ∀ a ∈ L, ∀ A', A.Perm A' → ¬ Limited (cited s a A') := fun a ha A' hp hl =>
      hlimited ⟨a, ha, (limited_cited_perm hp).mpr hl⟩
    have hresult : ∀ a ∈ L, ∃ A', A.Perm A' ∧ minimalEvidence (cited s a A') = some r.evidenceRefs ∧
        r.currentnessAssessmentDigest = some (a.contentDigest env.py) := by
      intro a ha
      obtain ⟨A', hp, hr⟩ := hanswer a ha
      have hwithin := answer_of_not_limited env (hlimited a ha A' hp)
      rw [hr] at hwithin
      exact ⟨A', hp, hwithin.2⟩
    -- what may come first is in the result
    have hlead : ∀ e, MayLead s L A e → e ∈ r.evidenceRefs := by
      rintro e ⟨a, ha, x, hx, he⟩
      obtain ⟨y, A', hp, hy, hr⟩ := h a ha x hx
      have hevidence := (answer_of_not_limited env (hlimited a ha A' hp)).2.1
      rw [hr] at hevidence
      refine (mem_minimalEvidence hevidence).mpr ?_
      rw [cited, hy, ← List.append_assoc, firstOf_append, he, Option.some_or]
    refine .inr ⟨fun a ha => hlimited a ha A (.refl A), ⟨fun a ha b hb => ?_, fun e he b hb => ?_, fun e e' he he' hkey => ?_⟩⟩
    · obtain ⟨-, -, -, hda⟩ := hresult a ha
      obtain ⟨-, -, -, hdb⟩ := hresult b hb
      exact Option.some.inj (hda.symm.trans hdb)
    · obtain ⟨B', hp, hevidence, -⟩ := hresult b hb
      obtain ⟨hmem, hkey⟩ := firstOf_eq_some ((mem_minimalEvidence hevidence).mp (hlead e he))
      exact (keys_cited_perm hp).mem_iff.mpr (List.mem_map_of_mem hmem)
    · obtain ⟨a, ha, -⟩ := id he
      obtain ⟨A', -, hevidence, -⟩ := hresult a ha
      have hfirst := (mem_minimalEvidence hevidence).mp (hlead e he)
      rw [hkey, (mem_minimalEvidence hevidence).mp (hlead e' he')] at hfirst
      exact (Option.some.inj hfirst).symm

end LastLine

/-! ## Any order -/

/-- The result is one in every order of the candidates. -/
def OrderFree (env : Environment) (query : CalendarSessionResolutionQuery) (c : CalendarSessionResolutionCandidates) :
    Prop :=
  ∀ c', Reordered c c' → resolveCalendarSession env query c' = resolveCalendarSession env query c

/-- The choices that are left to the order make no difference: the effective versions that
are refused are refused for one reason, and the assessments that the last line takes agree. -/
structure NoChoice (env : Environment) (query : CalendarSessionResolutionQuery) (c : CalendarSessionResolutionCandidates)
    (m : CalendarCandidateSetCoverage) : Prop where
  reason : ∀ v ∈ effective query (visible query c), ∀ w ∈ effective query (visible query c), ∀ e e',
    refusal query c.correctionAuthorityAssessments (visible query c) v = some e →
    refusal query c.correctionAuthorityAssessments (visible query c) w = some e' → e = e'
  lastLine : firstRefusal query c = none → ∀ s, settle env query c m = .ok s →
    Indifferent env.py s (currentnesses query c s) (corrections query c)

/-- The resolution makes no choice, if it comes to one. -/
def Unambiguous (env : Environment) (query : CalendarSessionResolutionQuery) (c : CalendarSessionResolutionCandidates) :
    Prop :=
  ∀ m, opening env query c = .ok m → NoChoice env query c m

section AnyOrder

variable {env : Environment} {query : CalendarSessionResolutionQuery} {c c' : CalendarSessionResolutionCandidates}
  {m : CalendarCandidateSetCoverage} {s : Settled}

theorem opening_eq_ok (h : opening env query c = .ok m) :
    checkManifest env.py query c.candidateSetCoverage (visible query c) = .ok m ∧
      ((visible query c).versions.map CalendarVersion.calendarVersionId).Nodup := by
  simp only [opening, bind_eq_ok, pure_eq_ok] at h
  obtain ⟨-, -, -, -, m', hm, u, hlineage, -, -, -, -, -, -, rfl⟩ := h
  exact ⟨hm, nodup_of_checkLineage hlineage⟩

theorem listed (hdistinct : ∀ m ∈ c.candidateSetCoverage, m.candidateFactDescriptors.Nodup)
    (h : opening env query c = .ok m) : Listed env.py m (visible query c) := by
  obtain ⟨hheader, hlisted⟩ := checkManifest_eq_ok.mp (opening_eq_ok h).1
  simp only [checkHeader, bind_eq_ok, orRaise_eq_ok, pure_eq_ok] at hheader
  obtain ⟨m', hm, -, -, -, -, -, -, -, -, rfl⟩ := hheader
  obtain ⟨hexact, -⟩ := raiseIf_bind_eq_ok.mp hlisted
  exact ⟨not_not.mp hexact, hdistinct m' hm⟩

theorem settle_congr (hl : Listed env.py m (visible query c)) (h : Reordered c c') :
    settle env query c m = settle env query c' m := by
  have hs : SeenReordered (visible query c) (visible query c') := visible_reordered h
  simp only [settle, chosen_congr env.py (admissible_perm hs h.corrections), checkCurrentness_congr h.currentness,
    sessionStage_congr hs h hl]

theorem firstRefusal_congr (ho : opening env query c = .ok m) (h : Reordered c c') :
    firstRefusal query c' = (effective query (visible query c')).findSome?
      (refusal query c.correctionAuthorityAssessments (visible query c)) := by
  have hs : SeenReordered (visible query c) (visible query c') := visible_reordered h
  rw [firstRefusal, show refusal query c'.correctionAuthorityAssessments (visible query c') = _ from
    funext fun v => (refusal_congr hs h.corrections (opening_eq_ok ho).2 v).symm]

theorem firstRefusal_eq_none (ho : opening env query c = .ok m) (h : Reordered c c')
    (hnone : firstRefusal query c = none) : firstRefusal query c' = none := by
  rw [firstRefusal_congr ho h]
  exact (findSome?_eq_none_perm (effective_perm (visible_reordered h))).mp hnone

theorem resolution_of_refusal (ho : opening env query c = .ok m) (h : Reordered c c') {e : Stop}
    (he : firstRefusal query c' = some e) : resolution env query c' = .error e := by
  rw [resolution_eq, ← opening_congr h, ho, he]
  rfl

theorem resolution_of_settle_error (hl : Listed env.py m (visible query c)) (ho : opening env query c = .ok m)
    (h : Reordered c c') (hnone : firstRefusal query c = none) {e : Stop} (he : settle env query c m = .error e) :
    resolution env query c' = .error e := by
  rw [resolution_eq, ← opening_congr h, ho, firstRefusal_eq_none ho h hnone, ok_bind, Option.elim_none,
    ← settle_congr hl h, he]
  rfl

theorem currentnesses_perm (h : Reordered c c') : (currentnesses query c s).Perm (currentnesses query c' s) :=
  authoritative_perm h.currentness

theorem corrections_perm (h : Reordered c c') : (corrections query c).Perm (corrections query c') :=
  usedFor_perm (visible_reordered h) h.corrections

theorem currentnesses_ne_nil (hs : settle env query c m = .ok s) : currentnesses query c s ≠ [] := by
  simp only [settle, bind_eq_ok, pure_eq_ok] at hs
  obtain ⟨selected, -, u, hcurrent, x, -, rfl⟩ := hs
  exact authoritative_ne_nil hcurrent

/-- The result in another order is of the assessments that come first in it. -/
theorem resolution_of_settle (hl : Listed env.py m (visible query c)) (ho : opening env query c = .ok m)
    (h : Reordered c c') (hnone : firstRefusal query c = none) (hs : settle env query c m = .ok s) {a} {l}
    (ha : currentnesses query c' s = a :: l) :
    resolution env query c' = .ok (s.answer env a (corrections query c')) := by
  rw [resolution_eq, ← opening_congr h, ho, firstRefusal_eq_none ho h hnone, ok_bind, Option.elim_none,
    ← settle_congr hl h, hs, ok_bind, ha]
  rfl

theorem orderFree_of_unambiguous (hdistinct : ∀ m ∈ c.candidateSetCoverage, m.candidateFactDescriptors.Nodup)
    (hc : Unambiguous env query c) : OrderFree env query c := by
  intro c' h
  rw [resolveCalendarSession_eq, resolveCalendarSession_eq]
  refine congrArg resolved ?_
  cases ho : opening env query c with
  | error e => rw [resolution_eq, resolution_eq, ← opening_congr h, ho, error_bind, error_bind]
  | ok m =>
    have hl := listed hdistinct ho
    have hself : Reordered c c := ⟨.refl _, .refl _, .refl _, .refl _, .refl _, .refl _, .refl _, rfl, rfl⟩
    cases hfirst : firstRefusal query c with
    | some e =>
      have hfirst' : firstRefusal query c' = some e := by
        rw [firstRefusal_congr ho h, ← findSome?_perm (effective_perm (visible_reordered h)) (hc m ho).reason]
        exact hfirst
      rw [resolution_of_refusal ho h hfirst', resolution_of_refusal ho hself hfirst]
    | none =>
      cases hs : settle env query c m with
      | error e => rw [resolution_of_settle_error hl ho h hfirst hs, resolution_of_settle_error hl ho hself hfirst hs]
      | ok s =>
        obtain ⟨a, l, ha⟩ := List.exists_cons_of_ne_nil (currentnesses_ne_nil hs)
        obtain ⟨b, l', hb⟩ := List.exists_cons_of_ne_nil fun e => currentnesses_ne_nil hs ((nil_iff (currentnesses_perm h)).mpr e)
        rw [resolution_of_settle hl ho h hfirst hs hb, resolution_of_settle hl ho hself hfirst hs ha,
          answer_congr ((hc m ho).lastLine hfirst s hs) (ha ▸ List.mem_cons_self ..)
            ((currentnesses_perm h).mem_iff.mpr (hb ▸ List.mem_cons_self ..)) (corrections_perm h)]

/-! ### Bringing a candidate to the front -/

/-- A member of a filtered list comes first in it when it comes first. -/
theorem filter_front {α : Type} {l l' : List α} {p : α → Bool} {a : α} (h : a ∈ l.filter p) :
    (a :: l').filter p = a :: l'.filter p := List.filter_cons_of_pos (List.of_mem_filter h)

theorem effective_front {v : CalendarVersion} {l : List CalendarVersion} (hv : v ∈ effective query (visible query c))
    (h : c'.calendarVersions = v :: l) : ∃ l', effective query (visible query c') = v :: l' := by
  have hseen : (visible query c').versions = v :: visibleVersions query l := by
    rw [visible, h]
    exact filter_front (List.mem_of_mem_filter hv)
  rw [effective, hseen]
  exact ⟨_, filter_front hv⟩

theorem authoritative_front {assessments l : List CalendarCurrentnessAssessment} {selected : CalendarVersion}
    {a : CalendarCurrentnessAssessment} (ha : a ∈ authoritative query assessments selected) :
    ∃ l', authoritative query (a :: l) selected = a :: l' := by
  have happlicable := List.mem_of_mem_filter ha
  have hknown := List.mem_of_mem_filter happlicable
  refine ⟨authoritative query l selected, ?_⟩
  rw [authoritative, applicable, knownCurrentness, currentnessOf, filter_front (List.mem_of_mem_filter hknown),
    filter_front hknown, filter_front happlicable, filter_front ha]
  rfl

theorem validFor_front {assessments l : List CalendarCorrectionAuthorityAssessment} {v : CalendarVersion}
    {t : CalendarCorrectionAuthorityAssessment} (ht : t ∈ validFor query assessments v) :
    ∃ l', validFor query (t :: l) v = t :: l' := by
  rw [validFor] at ht ⊢
  split at ht
  · cases ht
  · rename_i predecessor hp
    rw [authorityFor, filter_front (List.mem_of_mem_filter ht), filter_front ht]
    exact ⟨_, rfl⟩

theorem refusal_returned {corrections : List CalendarCorrectionAuthorityAssessment} {seen : Visible}
    {v : CalendarVersion} {e : Stop} (h : refusal query corrections seen v = some e) :
    ∃ reason d, e = stop d reason := by
  rw [refusal] at h
  split at h
  · cases h
  · dsimp only at h
    split_ifs at h <;> cases h <;> exact ⟨_, _, rfl⟩

theorem refusal_eq_of_orderFree (ho : opening env query c = .ok m) (hc : OrderFree env query c) {v w : CalendarVersion}
    (hv : v ∈ effective query (visible query c)) (hw : w ∈ effective query (visible query c)) {e e' : Stop}
    (he : refusal query c.correctionAuthorityAssessments (visible query c) v = some e)
    (he' : refusal query c.correctionAuthorityAssessments (visible query c) w = some e') : e = e' := by
  have hfront : ∀ {v e}, v ∈ effective query (visible query c) →
      refusal query c.correctionAuthorityAssessments (visible query c) v = some e →
      ∃ r, e = .returned r ∧ resolveCalendarSession env query c = .ok r := by
    intro v e hv he
    have h : Reordered c { c with calendarVersions := v :: c.calendarVersions.erase v } :=
      ⟨List.perm_cons_erase (List.mem_of_mem_filter (List.mem_of_mem_filter hv)), .refl _, .refl _, .refl _, .refl _,
        .refl _, .refl _, rfl, rfl⟩
    obtain ⟨l, hl⟩ : ∃ l, effective query (visible query
        { c with calendarVersions := v :: c.calendarVersions.erase v }) = v :: l := effective_front hv rfl
    have hrefused := firstRefusal_congr ho h
    rw [hl, List.findSome?_cons, he] at hrefused
    obtain ⟨reason, d, rfl⟩ := refusal_returned he
    exact ⟨_, rfl, by rw [← hc _ h, resolveCalendarSession_eq, resolution_of_refusal ho h hrefused]; rfl⟩
  obtain ⟨r, rfl, hr⟩ := hfront hv he
  obtain ⟨r', rfl, hr'⟩ := hfront hw he'
  cases hr.symm.trans hr'
  rfl

/-- An assessment of currentness and one of a correction may come first. -/
theorem exists_front {a : CalendarCurrentnessAssessment} (ha : a ∈ currentnesses query c s) {x : List EvidenceRef}
    (hx : x ∈ [] :: (corrections query c).map CalendarCorrectionAuthorityAssessment.evidenceRefs) :
    ∃ c', Reordered c c' ∧ (∃ l, currentnesses query c' s = a :: l) ∧
      ∃ y, (corrections query c').flatMap CalendarCorrectionAuthorityAssessment.evidenceRefs = x ++ y := by
  have hp : c.currentnessAssessments.Perm (a :: c.currentnessAssessments.erase a) := by
    have hknown := List.mem_of_mem_filter (List.mem_of_mem_filter ha)
    exact List.perm_cons_erase (List.mem_of_mem_filter (List.mem_of_mem_filter hknown))
  rcases List.mem_cons.mp hx with rfl | hx
  · exact ⟨{ c with currentnessAssessments := a :: c.currentnessAssessments.erase a },
      ⟨.refl _, .refl _, .refl _, .refl _, .refl _, hp, .refl _, rfl, rfl⟩, authoritative_front ha, _,
      (List.nil_append _).symm⟩
  · obtain ⟨t, ht, rfl⟩ := List.mem_map.mp hx
    obtain ⟨v, hv, ht⟩ := List.mem_flatMap.mp ht
    obtain ⟨heffective, hadmitted⟩ := List.mem_filter.mp hv
    have hpt : c.correctionAuthorityAssessments.Perm (t :: c.correctionAuthorityAssessments.erase t) := by
      refine List.perm_cons_erase ?_
      rw [validFor] at ht
      split at ht
      · cases ht
      · exact List.mem_of_mem_filter (List.mem_of_mem_filter ht)
    -- the version that it corrects comes first, too
    let c' : CalendarSessionResolutionCandidates :=
      { c with
        calendarVersions := v :: c.calendarVersions.erase v
        currentnessAssessments := a :: c.currentnessAssessments.erase a
        correctionAuthorityAssessments := t :: c.correctionAuthorityAssessments.erase t }
    refine ⟨c', ⟨List.perm_cons_erase (List.mem_of_mem_filter (List.mem_of_mem_filter heffective)), .refl _, .refl _,
      .refl _, .refl _, hp, hpt, rfl, rfl⟩, authoritative_front ha, ?_⟩
    obtain ⟨l, hl⟩ : ∃ l, effective query (visible query c') = v :: l := effective_front heffective rfl
    obtain ⟨l', hl'⟩ := validFor_front (l := c.correctionAuthorityAssessments.erase t) ht
    rw [corrections, usedFor, admissible, hl, List.filter_cons_of_pos (admitted_congr hpt v ▸ hadmitted),
      List.flatMap_cons, hl', List.cons_append, List.flatMap_cons]
    exact ⟨_, rfl⟩

theorem unambiguous_of_orderFree (hdistinct : ∀ m ∈ c.candidateSetCoverage, m.candidateFactDescriptors.Nodup)
    (hc : OrderFree env query c) : Unambiguous env query c := by
  refine fun m ho => ⟨fun v hv w hw e e' he he' => refusal_eq_of_orderFree ho hc hv hw he he', fun hnone s hs => ?_⟩
  have hl := listed hdistinct ho
  obtain ⟨a₀, l₀, h₀⟩ := List.exists_cons_of_ne_nil (currentnesses_ne_nil hs)
  have hself : Reordered c c := ⟨.refl _, .refl _, .refl _, .refl _, .refl _, .refl _, .refl _, rfl, rfl⟩
  have hresult : resolveCalendarSession env query c = .ok (s.answer env a₀ (corrections query c)) := by
    rw [resolveCalendarSession_eq, resolution_of_settle hl ho hself hnone hs h₀]
    rfl
  refine indifferent_of_answer (r := s.answer env a₀ (corrections query c)) fun a ha x hx => ?_
  obtain ⟨c', h, ⟨l, hfront⟩, y, hy⟩ := exists_front ha hx
  have hanswer := hc c' h
  rw [resolveCalendarSession_eq, resolution_of_settle hl ho h hnone hs hfront, hresult] at hanswer
  exact ⟨y, corrections query c', corrections_perm h, hy, Except.ok.inj hanswer⟩

/-- The result is one in every order exactly when no choice that is left to the order makes a
difference. -/
theorem order_independent_iff (env : Environment) (query : CalendarSessionResolutionQuery)
    (c : CalendarSessionResolutionCandidates)
    (hdistinct : ∀ m ∈ c.candidateSetCoverage, m.candidateFactDescriptors.Nodup) :
    OrderFree env query c ↔ Unambiguous env query c :=
  ⟨unambiguous_of_orderFree hdistinct, orderFree_of_unambiguous hdistinct⟩

end AnyOrder

namespace CalendarSample

open Sample (evidence)

/-- A second assessment of the same version, with evidence of its own. -/
def recorded : CalendarCurrentnessAssessment :=
  { currentness with evidenceRefs := [evidence "registry" ("sha256:" ++ String.ofList (List.replicate 64 '9'))] }

/-- SHA-256 of the records of the sample, and of the two assessments. -/
def assessedDigests : List (Nat × Nat) :=
  digests ++ [(690, 0xcdc259fcb082d612b2e97466c0ddfee176d73141fc6117a82b6a7a5916bd6b1a),
    (681, 0x01b9f692114a9d3d86aaf0b009857150dc803d9c69ef38feefb34877ffd48b85)]

def assessedEnvironment : Environment where
  py :=
    { isNfc := fun _ => true
      sha256 := fun text => ⟨((assessedDigests.find? fun d => d.1 = text.length).map Prod.snd).getD 0 % 2 ^ 256,
        Nat.mod_lt _ (Nat.two_pow_pos 256)⟩ }
  fromBytes := environment.fromBytes

def assessed (assessments : List CalendarCurrentnessAssessment) : CalendarSessionResolutionCandidates :=
  { candidates with currentnessAssessments := assessments }

end CalendarSample

/-- Either of two valid assessments is taken, whichever comes first. -/
theorem first_assessment_taken :
    ¬ OrderFree CalendarSample.assessedEnvironment CalendarSample.query
      (CalendarSample.assessed [CalendarSample.currentness, CalendarSample.recorded]) := by
  intro h
  have hswapped := h (CalendarSample.assessed [CalendarSample.recorded, CalendarSample.currentness])
    ⟨.refl _, .refl _, .refl _, .refl _, .refl _, .swap .., .refl _, rfl, rfl⟩
  revert hswapped
  decide +kernel

theorem order_independent_iff_sample :
    CalendarSample.manifest.candidateFactDescriptors.Nodup ∧
      (OrderFree CalendarSample.environment CalendarSample.query CalendarSample.candidates ↔
        Unambiguous CalendarSample.environment CalendarSample.query CalendarSample.candidates) :=
  ⟨by decide, order_independent_iff CalendarSample.environment CalendarSample.query CalendarSample.candidates fun m hm => by
    cases hm
    decide⟩

end ATB.Proof.Resolution
