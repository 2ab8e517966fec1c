import AutomatedTradingBot.Proof.Evidence
import AutomatedTradingBot.Proof.Lineages.Versions
import AutomatedTradingBot.Proof.Resolution.Stages

/-!
# The stages in any order

What the stages of a calendar resolution make of candidates in another order.

* `checkManifest_congr`, `checkLineage_congr`: the first stages look at members only;
* `refusal_congr`, `admissible_perm`, `chosen_congr`: so does the choice of a version, but
  for which of two refusals comes first;
* `selectCurrentness_eq`: and so does the check of the currentness, but for which of the
  valid assessments comes first;
* `sessionStage_congr`: a manifest lists each fact once, so there is one day and one session.
-/

namespace ATB.Proof.Resolution

open ATB.Instruments ATB.Calendars

/-- The candidates in another order. -/
structure Reordered (c c' : CalendarSessionResolutionCandidates) : Prop where
  versions : c.calendarVersions.Perm c'.calendarVersions
  coverages : c.historicalCoverages.Perm c'.historicalCoverages
  days : c.tradingDayDefinitions.Perm c'.tradingDayDefinitions
  sessions : c.sessionDefinitions.Perm c'.sessionDefinitions
  corpora : c.timezoneRuleCorpora.Perm c'.timezoneRuleCorpora
  currentness : c.currentnessAssessments.Perm c'.currentnessAssessments
  corrections : c.correctionAuthorityAssessments.Perm c'.correctionAuthorityAssessments
  manifest : c'.candidateSetCoverage = c.candidateSetCoverage
  negative : c'.negativeCoverage = c.negativeCoverage

/-- What is visible, in another order. -/
structure SeenReordered (seen seen' : Visible) : Prop where
  versions : seen.versions.Perm seen'.versions
  coverages : seen.coverages.Perm seen'.coverages
  days : seen.days.Perm seen'.days
  sessions : seen.sessions.Perm seen'.sessions

/-! ## Lists -/

section Lists

variable {α κ : Type} {l l' : List α}

theorem filter_perm {p q : α → Bool} (h : l.Perm l') (hpq : ∀ a ∈ l, p a = q a) : (l.filter p).Perm (l'.filter q) := by
  rw [List.filter_congr hpq]
  exact h.filter q

theorem dedup_map_length [DecidableEq κ] (h : l.Perm l') (f : α → κ) :
    (l.map f).dedup.length = (l'.map f).dedup.length := (h.map f).dedup.length_eq

theorem nil_iff (h : l.Perm l') : l = [] ↔ l' = [] :=
  ⟨fun e => List.perm_nil.mp (e ▸ h.symm), fun e => List.perm_nil.mp (e ▸ h)⟩

theorem exists_mem_iff (h : l.Perm l') {p q : α → Prop} (hpq : ∀ a, p a ↔ q a) : (∃ a ∈ l, p a) ↔ ∃ a ∈ l', q a := by
  simp only [h.mem_iff, hpq]

theorem head?_perm (h : l.Perm l') (hl : l.length ≤ 1) : l.head? = l'.head? := by
  rcases l with _ | ⟨a, _ | ⟨b, l⟩⟩
  · rw [List.nil_perm.mp h]
  · rw [List.singleton_perm.mp h]
  · simp at hl

/-- A search by a key that no two members share. -/
theorem find?_perm [DecidableEq κ] {key : α → κ} (hn : (l.map key).Nodup) (h : l.Perm l') (k : κ) :
    l.find? (fun a => decide (key a = k)) = l'.find? fun a => decide (key a = k) := by
  induction h with
  | nil => rfl
  | cons a h ih =>
    rw [List.find?_cons, List.find?_cons, ih (List.nodup_cons.mp hn).2]
  | swap a b l =>
    have hne : key b ≠ key a := fun e => (List.nodup_cons.mp hn).1 (e ▸ List.mem_cons_self ..)
    simp only [List.find?_cons]
    by_cases hb : key b = k
    · have ha : key a ≠ k := fun e => hne (hb.trans e.symm)
      simp [ha, hb]
    · simp [hb]
  | trans h₁ _ ih₁ ih₂ => exact (ih₁ hn).trans (ih₂ ((h₁.map key).nodup_iff.mp hn))

/-- The first member after a check that all have one value, when no two members have. -/
theorem checked_head_congr [DecidableEq κ] {ε β : Type} {f : α → κ} (h : l.Perm l')
    (hn : ∀ k, (∀ a ∈ l, f a = k) → l.length ≤ 1) (missing conflict : ε) (next : α → Except ε β) :
    (do let a ← orRaise missing l.head?; raiseIf ((l.map f).dedup.length ≠ 1) conflict; next a) =
      (do let a ← orRaise missing l'.head?; raiseIf ((l'.map f).dedup.length ≠ 1) conflict; next a) := by
  rw [dedup_map_length h f]
  by_cases hone : (l'.map f).dedup.length ≠ 1
  · rw [raiseIf_of hone]
    rcases l with _ | ⟨a, l⟩
    · rw [List.nil_perm.mp h]
    · rcases l' with _ | ⟨a', l'⟩
      · cases List.perm_nil.mp h
      · rfl
  · obtain ⟨k, hk⟩ := List.length_eq_one_iff.mp (not_not.mp hone)
    have hall : ∀ a ∈ l, f a = k := fun a ha =>
      List.mem_singleton.mp (hk ▸ List.mem_dedup.mpr (List.mem_map_of_mem (h.mem_iff.mp ha)))
    rw [head?_perm h (hn k hall)]

end Lists

/-! ## What is visible -/

section Seen

variable {query : CalendarSessionResolutionQuery} {c c' : CalendarSessionResolutionCandidates} {seen seen' : Visible}

theorem visible_reordered (h : Reordered c c') : SeenReordered (visible query c) (visible query c') := by
  have hids : ∀ i, i ∈ visibleIds query c.calendarVersions ↔ i ∈ visibleIds query c'.calendarVersions := fun i =>
    ((h.versions.filter _).map _).mem_iff
  refine ⟨h.versions.filter _, filter_perm h.coverages ?_, filter_perm h.days ?_, filter_perm h.sessions ?_⟩
  all_goals exact fun f _ => decide_eq_decide.mpr (hids _)

theorem SeenReordered.facts (h : SeenReordered seen seen') : seen.facts.Perm seen'.facts :=
  ((h.coverages.map _).append (h.days.map _)).append (h.sessions.map _)

theorem SeenReordered.factsOf (h : SeenReordered seen seen') (i : CalendarVersionId) :
    (seen.factsOf i).Perm (seen'.factsOf i) := h.facts.filter _

theorem SeenReordered.intersects (h : SeenReordered seen seen') (a : List EvidenceKey) :
    ATB.Instruments.intersects a seen.evidence = ATB.Instruments.intersects a seen'.evidence := by
  have hmem : ∀ k, k ∈ seen.evidence ↔ k ∈ seen'.evidence := fun k => by
    simp only [Visible.evidence, List.mem_append, List.mem_flatMap, h.versions.mem_iff, h.facts.mem_iff]
  simp only [ATB.Instruments.intersects, hmem]

theorem negativeOrMissing_congr (h : SeenReordered seen seen') (py : Platform)
    (negative : Option CalendarNegativeCoverageEvidence) (m : CalendarCandidateSetCoverage) :
    negativeOrMissing py query negative m seen.evidence = negativeOrMissing py query negative m seen'.evidence := by
  simp only [negativeOrMissing, validNegative, h.intersects]

/-! ## The manifest -/

theorem sorted_semanticMapping (d : CalendarFactDescriptor) : Json.Sorted d.semanticMapping := by
  refine Json.sorted_obj fun f hf => ?_
  simp only [List.mem_cons, List.not_mem_nil, or_false] at hf
  rcases hf with rfl | rfl | rfl | rfl | rfl
  all_goals first | exact Json.sorted_str _ | skip
  rcases d with ⟨_, _, _, _ | kind, _⟩
  · exact Json.sorted_null
  · exact Json.sorted_str _

theorem canonical_injective : Function.Injective CalendarFactDescriptor.canonical := by
  rintro ⟨kind, id, date, session, digest⟩ ⟨kind', id', date', session', digest'⟩ h
  have hm := Json.dumps_inj (sorted_semanticMapping ⟨kind, id, date, session, digest⟩)
    (sorted_semanticMapping ⟨kind', id', date', session', digest'⟩) h
  have hv := Json.obj_inj
    ["fact_kind", "calendar_version_id", "date_or_range_identity", "session_kind", "fact_content_digest"] (by decide)
    [.str kind, .str id.toString, .str date, textOrNull (session.map SessionKind.value), .str digest]
    [.str kind', .str id'.toString, .str date', textOrNull (session'.map SessionKind.value), .str digest'] rfl rfl hm
  simp only [List.cons.injEq, Json.str.injEq, and_true] at hv
  obtain ⟨rfl, hid, rfl, hsession, rfl⟩ := hv
  obtain rfl := Lineages.calendarVersionId_toString_injective hid
  rcases session with _ | ⟨⟨⟩⟩ <;> rcases session' with _ | ⟨⟨⟩⟩
  · rfl
  · cases hsession
  · cases hsession
  · rfl

theorem expectedIds_congr {versions versions' : List CalendarVersion} (h : versions.Perm versions') :
    expectedIds versions = expectedIds versions' :=
  insertionSort_eq_of_perm (fun _ _ => le_total _ _) (fun _ _ _ => le_trans)
    (fun _ _ _ _ hab hba => Lineages.calendarVersionId_toString_injective (le_antisymm hab hba)) (h.map _).dedup

theorem descriptors_congr (py : Platform) (h : SeenReordered seen seen') : descriptors py seen = descriptors py seen' :=
  insertionSort_eq_of_perm (fun _ _ => le_total _ _) (fun _ _ _ => le_trans)
    (fun _ _ _ _ hab hba => canonical_injective (le_antisymm hab hba)) (h.facts.map _)

theorem checkManifest_congr (py : Platform) (m : Option CalendarCandidateSetCoverage) (h : SeenReordered seen seen') :
    checkManifest py query m seen = checkManifest py query m seen' := by
  simp only [checkManifest_eq, checkHeader, checkListed, expectedIds_congr h.versions, descriptors_congr py h,
    h.intersects]

/-! ## The lineage -/

/-- What the facts of a version must be. -/
structure Bound (py : Platform) (version : CalendarVersion) (facts : List CalendarFact) : Prop where
  bounded : facts.length ≤ maxLineageVersions
  scope : ∀ f ∈ facts, version.calendarId = f.calendarId ∧ version.calendarVersionId = f.calendarVersionId
  rule : ∀ f ∈ facts, ∀ rule ∈ f.timezoneRuleRef?, rule = version.timezoneRuleRef
  single : ∀ f ∈ facts, ∀ g ∈ facts, f.identity = g.identity → f.contentDigest py = g.contentDigest py

theorem Bound.perm {py : Platform} {version : CalendarVersion} {facts facts' : List CalendarFact} (hp : facts.Perm facts')
    (h : Bound py version facts) : Bound py version facts' where
  bounded := hp.length_eq ▸ h.bounded
  scope f hf := h.scope f (hp.mem_iff.mpr hf)
  rule f hf := h.rule f (hp.mem_iff.mpr hf)
  single f hf g hg := h.single f (hp.mem_iff.mpr hf) g (hp.mem_iff.mpr hg)

/-- One fact is accepted against the digests seen so far. -/
theorem validateFactBinding_eq_ok {py : Platform} {version : CalendarVersion} {known known' : List (List String × String)}
    {f : CalendarFact} : validateFactBinding py version known f = .ok known' ↔
      ((version.calendarId = f.calendarId ∧ version.calendarVersionId = f.calendarVersionId) ∧
        (∀ rule ∈ f.timezoneRuleRef?, rule = version.timezoneRuleRef) ∧
        ∀ d ∈ Dict.get? f.identity known, d = f.contentDigest py) ∧
      known' = Dict.set f.identity (f.contentDigest py) known := by
  simp only [validateFactBinding, bind_eq_ok, raiseIf_eq_ok, exists_const, pure_eq_ok, not_or, not_not, not_exists,
    not_and, ne_eq, and_assoc, eq_comm (a := known')]

theorem validateFactBindings_fold {py : Platform} {version : CalendarVersion} {facts : List CalendarFact}
    {known : List (List String × String)} :
    (∃ known', facts.foldlM (validateFactBinding py version) known = .ok known') ↔
      (∀ f ∈ facts, version.calendarId = f.calendarId ∧ version.calendarVersionId = f.calendarVersionId) ∧
      (∀ f ∈ facts, ∀ rule ∈ f.timezoneRuleRef?, rule = version.timezoneRuleRef) ∧
      (∀ f ∈ facts, ∀ d ∈ Dict.get? f.identity known, d = f.contentDigest py) ∧
      ∀ f ∈ facts, ∀ g ∈ facts, f.identity = g.identity → f.contentDigest py = g.contentDigest py := by
  induction facts generalizing known with
  | nil => simp [pure, Except.pure]
  | cons f facts ih =>
    simp only [List.foldlM_cons, bind_eq_ok, validateFactBinding_eq_ok]
    constructor
    · rintro ⟨known', _, ⟨⟨hscope, hrule, hknown⟩, rfl⟩, hrest⟩
      obtain ⟨hscopes, hrules, hknowns, hsingle⟩ := ih.mp ⟨known', hrest⟩
      have hsame : ∀ g ∈ facts, f.identity = g.identity → f.contentDigest py = g.contentDigest py := fun g hg e =>
        hknowns g hg _ (e ▸ Dict.get?_set_self _ _ _)
      refine ⟨List.forall_mem_cons.mpr ⟨hscope, hscopes⟩, List.forall_mem_cons.mpr ⟨hrule, hrules⟩,
        List.forall_mem_cons.mpr ⟨hknown, fun g hg d hd => ?_⟩, fun x hx y hy e => ?_⟩
      · by_cases e : f.identity = g.identity
        · exact (hknown d (e ▸ hd)).trans (hsame g hg e)
        · exact hknowns g hg d (by rwa [Dict.get?_set_ne e])
      · rcases List.mem_cons.mp hx with rfl | hx' <;> rcases List.mem_cons.mp hy with rfl | hy'
        · rfl
        · exact hsame y hy' e
        · exact (hsame x hx' e.symm).symm
        · exact hsingle x hx' y hy' e
    · rintro ⟨hscope, hrule, hknown, hsingle⟩
      have hset : ∀ g ∈ facts, ∀ d ∈ Dict.get? g.identity (Dict.set f.identity (f.contentDigest py) known),
          d = g.contentDigest py := by
        intro g hg d hd
        rw [Dict.get?_set] at hd
        split at hd
        · rename_i e
          rw [← Option.some.inj hd]
          exact hsingle f (List.mem_cons_self ..) g (List.mem_cons_of_mem _ hg) e
        · exact hknown g (List.mem_cons_of_mem _ hg) d hd
      obtain ⟨known', h⟩ := ih.mpr ⟨fun g hg => hscope g (List.mem_cons_of_mem _ hg),
        fun g hg => hrule g (List.mem_cons_of_mem _ hg), hset,
        fun x hx y hy => hsingle x (List.mem_cons_of_mem _ hx) y (List.mem_cons_of_mem _ hy)⟩
      exact ⟨known', _, ⟨⟨hscope f (List.mem_cons_self ..), hrule f (List.mem_cons_self ..),
        hknown f (List.mem_cons_self ..)⟩, rfl⟩, h⟩

theorem discard_eq_ok {ε α : Type} {x : Except ε α} {u : Unit} : discard x = .ok u ↔ ∃ a, x = .ok a := by
  cases x with
  | error e => exact ⟨fun h => (by cases h), fun ⟨_, h⟩ => (by cases h)⟩
  | ok a => exact ⟨fun _ => ⟨a, rfl⟩, fun _ => rfl⟩

theorem validateFactBindings_eq_ok {py : Platform} {version : CalendarVersion} {facts : List CalendarFact} {u : Unit} :
    validateFactBindings py version facts = .ok u ↔ Bound py version facts := by
  simp only [validateFactBindings, bind_eq_ok, raiseIf_eq_ok, exists_const, discard_eq_ok, not_lt,
    validateFactBindings_fold]
  constructor
  · rintro ⟨hbound, hscope, hrule, -, hsingle⟩
    exact ⟨hbound, hscope, hrule, hsingle⟩
  · intro h
    exact ⟨h.bounded, h.scope, h.rule, by simp [Dict.get?], h.single⟩

theorem validateVersion_congr {py : Platform} (h : SeenReordered seen seen') (v : CalendarVersion)
    (hv : validateVersion py seen v = .ok ()) : validateVersion py seen' v = .ok () := by
  simp only [validateVersion, bind_eq_ok, validateFactBindings_eq_ok, forM_eq_ok, exists_const] at hv ⊢
  obtain ⟨hbound, u, hdigest, hfacts⟩ := hv
  exact ⟨hbound.perm (h.factsOf _), u, hdigest, fun f hf => hfacts f ((h.factsOf _).mem_iff.mpr hf)⟩

/-- The lineage of the visible versions, with the facts of each. -/
def validated (py : Platform) (seen : Visible) : Except String Unit := do
  let ordered ← validateCalendarLineage seen.versions
  ordered.forM (validateVersion py seen)

theorem validated_congr {py : Platform} (h : SeenReordered seen seen') (hv : validated py seen = .ok ()) :
    validated py seen' = .ok () := by
  simp only [validated, bind_eq_ok, forM_eq_ok] at hv ⊢
  obtain ⟨ordered, hlineage, hall⟩ := hv
  exact ⟨ordered, Lineages.validateCalendarLineage_congr h.versions hlineage, fun v hv => validateVersion_congr h v (hall v hv)⟩

theorem SeenReordered.symm (h : SeenReordered seen seen') : SeenReordered seen' seen :=
  ⟨h.versions.symm, h.coverages.symm, h.days.symm, h.sessions.symm⟩

theorem toOption_eq_none {ε α : Type} {x : Except ε α} : x.toOption = none ↔ ∀ a, x ≠ .ok a := by
  cases x <;> simp [Except.toOption]

theorem checkLineage_congr (py : Platform) (h : SeenReordered seen seen') :
    checkLineage py query seen = checkLineage py query seen' := by
  have hvalid : (validated py seen).toOption = none ↔ (validated py seen').toOption = none := by
    rw [toOption_eq_none, toOption_eq_none]
    exact ⟨fun hn u hu => hn u (validated_congr h.symm hu), fun hn u hu => hn u (validated_congr h hu)⟩
  rw [checkLineage, checkLineage]
  refine congr (congrArg _ (raiseIf_congr ?_)) (funext fun _ => raiseIf_congr ?_)
  · exact or_congr (exists_mem_iff h.versions fun _ => .rfl) (exists_mem_iff h.facts fun _ => .rfl)
  · exact and_congr (not_congr (nil_iff h.versions)) hvalid

theorem nodup_of_checkLineage {py : Platform} {u : Unit} (h : checkLineage py query seen = .ok u) :
    (seen.versions.map CalendarVersion.calendarVersionId).Nodup := by
  obtain ⟨-, h⟩ := raiseIf_bind_eq_ok.mp h
  by_cases hnil : seen.versions = []
  · rw [hnil]
    exact List.nodup_nil
  · have hvalid : (validated py seen).toOption ≠ none := fun e => raiseIf_eq_ok.mp h ⟨hnil, e⟩
    obtain ⟨u', hu⟩ := Option.ne_none_iff_exists'.mp hvalid
    obtain ⟨ordered, hlineage, -⟩ := bind_eq_ok.mp (ok_of_toOption hu)
    exact (Lineages.validateCalendarLineage_eq_ok.mp hlineage).1.distinct

/-! ## The version -/

theorem effective_perm (h : SeenReordered seen seen') : (effective query seen).Perm (effective query seen') :=
  h.versions.filter _

theorem excludedEvidence_congr (h : SeenReordered seen seen')
    (hn : (seen.versions.map CalendarVersion.calendarVersionId).Nodup) (v : CalendarVersion) (p : CalendarVersionId)
    (k : EvidenceKey) : k ∈ excludedEvidence seen v p ↔ k ∈ excludedEvidence seen' v p := by
  simp only [excludedEvidence, find?_perm hn h.versions p, List.mem_append, List.mem_flatMap, (h.factsOf _).mem_iff]

variable {corrections corrections' : List CalendarCorrectionAuthorityAssessment}

theorem validFor_perm (h : corrections.Perm corrections') (v : CalendarVersion) :
    (validFor query corrections v).Perm (validFor query corrections' v) := by
  rw [validFor, validFor]
  split
  · exact .nil
  · exact (h.filter _).filter _

/-- A version is refused for one reason in any order. -/
theorem refusal_congr (h : SeenReordered seen seen') (hc : corrections.Perm corrections')
    (hn : (seen.versions.map CalendarVersion.calendarVersionId).Nodup) (v : CalendarVersion) :
    refusal query corrections seen v = refusal query corrections' seen' v := by
  rw [refusal, refusal]
  split
  · rfl
  · have hvalid : (validFor query corrections v).Perm (validFor query corrections' v) := validFor_perm hc v
    refine if_congr (nil_iff (hc.filter _)) rfl (if_congr (nil_iff hvalid) rfl (if_congr ?_ rfl (if_congr ?_ rfl rfl)))
    · exact exists_mem_iff hvalid fun a => by simp only [excludedEvidence_congr h hn]
    · rw [dedup_map_length hvalid]

theorem admitted_congr (hc : corrections.Perm corrections') (v : CalendarVersion) :
    admitted query corrections v = admitted query corrections' v := by
  rw [admitted, admitted, (validFor_perm hc v).any_eq]

theorem admissible_perm (h : SeenReordered seen seen') (hc : corrections.Perm corrections') :
    (admissible query corrections seen).Perm (admissible query corrections' seen') :=
  filter_perm (effective_perm h) fun v _ => admitted_congr hc v

theorem usedFor_perm (h : SeenReordered seen seen') (hc : corrections.Perm corrections') :
    (usedFor query corrections seen).Perm (usedFor query corrections' seen') :=
  (admissible_perm h hc).flatMap fun v _ => validFor_perm hc v

/-- The only version that the others leave. -/
def chosen (py : Platform) (versions : List CalendarVersion) : Except Stop CalendarVersion :=
  match tips versions with
  | [selected] => .ok selected
  | rest => .error (if 1 < (rest.map (CalendarVersion.contentDigest py)).dedup.length then
      stop .conflicting .materialQualifyingConflict else stop .ambiguous .multiplePlausibleVersions)

theorem pick_eq (py : Platform) (versions : List CalendarVersion) (used : List CalendarCorrectionAuthorityAssessment) :
    pick py versions used = (do let selected ← chosen py versions; return (selected, used)) := by
  rw [pick, chosen]
  rcases tips versions with _ | ⟨v, _ | ⟨w, l⟩⟩ <;> rfl

theorem tips_perm {versions versions' : List CalendarVersion} (h : versions.Perm versions') :
    (tips versions).Perm (tips versions') :=
  filter_perm h fun _ _ => decide_eq_decide.mpr (not_congr (h.filterMap _).mem_iff)

theorem chosen_congr (py : Platform) {versions versions' : List CalendarVersion} (h : versions.Perm versions') :
    chosen py versions = chosen py versions' := by
  have ht := tips_perm h
  have hd := dedup_map_length ht (CalendarVersion.contentDigest py)
  rw [chosen, chosen]
  generalize tips versions = l at ht hd
  generalize tips versions' = l' at ht hd
  rcases l with _ | ⟨v, _ | ⟨w, l⟩⟩
  · rw [List.nil_perm.mp ht]
  · rw [← List.singleton_perm.mp ht]
  · rcases l' with _ | ⟨v', _ | ⟨w', l'⟩⟩
    · cases List.perm_nil.mp ht
    · cases List.perm_singleton.mp ht
    · dsimp only
      rw [hd]

end Seen

/-! ## The currentness -/

section Currentness

variable {query : CalendarSessionResolutionQuery} {assessments assessments' : List CalendarCurrentnessAssessment}
  {selected : CalendarVersion}

/-- The assessments of the version that are known at the cut-off. -/
def knownCurrentness (query : CalendarSessionResolutionQuery) (assessments : List CalendarCurrentnessAssessment)
    (selected : CalendarVersion) : List CalendarCurrentnessAssessment :=
  (currentnessOf query assessments selected).filter fun a => decide (a.knowledgeFrom.value ≤ query.knowledgeCutoff.value)

/-- Those of them that apply, and those that are valid. -/
def applicable (query : CalendarSessionResolutionQuery) (assessments : List CalendarCurrentnessAssessment)
    (selected : CalendarVersion) : List CalendarCurrentnessAssessment :=
  (knownCurrentness query assessments selected).filter fun a => a.applies query

def authoritative (query : CalendarSessionResolutionQuery) (assessments : List CalendarCurrentnessAssessment)
    (selected : CalendarVersion) : List CalendarCurrentnessAssessment :=
  (applicable query assessments selected).filter fun a => decide (a.validationState = .valid)

/-- The valid assessments agree that the version is current. -/
def checkCurrentness (query : CalendarSessionResolutionQuery) (assessments : List CalendarCurrentnessAssessment)
    (selected : CalendarVersion) : Except Stop Unit := do
  raiseIf (knownCurrentness query assessments selected = []) (stop .notEstablished
    (if ∃ a ∈ currentnessOf query assessments selected, query.knowledgeCutoff.value < a.knowledgeFrom.value then
      .currentnessAssessmentFuture else .currentnessAssessmentMissing))
  raiseIf (applicable query assessments selected = []) (stop .notEstablished .currentnessAssessmentOutsideValidity)
  raiseIf (authoritative query assessments selected = []) (stop .notEstablished .currentnessAssessmentNotAuthoritative)
  raiseIf (((authoritative query assessments selected).map CalendarCurrentnessAssessment.state).dedup.length ≠ 1)
    (stop .conflicting .currentnessAssessmentConflict)
  raiseIf (∃ a ∈ authoritative query assessments selected, a.state = .stale) (stop .notEstablished .calendarVersionStale)
  raiseIf (∃ a ∈ authoritative query assessments selected, a.state = .unknown)
    (stop .notEstablished .calendarCurrentnessUnknown)

/-- The first of the valid assessments is taken, when they agree. -/
theorem selectCurrentness_eq (query : CalendarSessionResolutionQuery) (assessments : List CalendarCurrentnessAssessment)
    (selected : CalendarVersion) : selectCurrentness query assessments selected = (do
      checkCurrentness query assessments selected
      orRaise (stop .notEstablished .currentnessAssessmentNotAuthoritative)
        (authoritative query assessments selected).head?) := by
  simp only [selectCurrentness, checkCurrentness, bind_assoc]
  refine congr (congrArg _ rfl) (funext fun _ => congr (congrArg _ rfl) (funext fun _ => ?_))
  change (do
    let currentness ← orRaise _ (authoritative query assessments selected).head?
    raiseIf (((authoritative query assessments selected).map CalendarCurrentnessAssessment.state).dedup.length ≠ 1) _
    raiseIf (currentness.state = CalendarCurrentness.stale) _
    raiseIf (currentness.state = CalendarCurrentness.unknown) _
    return currentness) = _
  generalize authoritative query assessments selected = l
  rcases l with _ | ⟨a, l⟩
  · rfl
  rw [List.head?_cons, raiseIf_of_not (List.cons_ne_nil _ _)]
  simp only [orRaise, ok_bind]
  by_cases hone : ((a :: l).map CalendarCurrentnessAssessment.state).dedup.length ≠ 1
  · rw [raiseIf_of hone, error_bind, error_bind]
  rw [raiseIf_of_not hone, ok_bind, ok_bind]
  -- there is one state
  have hstate : ∀ s, a.state = s ↔ ∃ b ∈ a :: l, b.state = s := by
    obtain ⟨k, hk⟩ := List.length_eq_one_iff.mp (not_not.mp hone)
    have hall : ∀ b ∈ a :: l, b.state = k := fun b hb =>
      List.mem_singleton.mp (hk ▸ List.mem_dedup.mpr (List.mem_map_of_mem hb))
    intro s
    constructor
    · exact fun h => ⟨a, List.mem_cons_self .., h⟩
    · rintro ⟨b, hb, rfl⟩
      rw [hall a (List.mem_cons_self ..), hall b hb]
  rw [raiseIf_congr (hstate .stale), raiseIf_congr (hstate .unknown)]
  rfl

theorem authoritative_perm (h : assessments.Perm assessments') :
    (authoritative query assessments selected).Perm (authoritative query assessments' selected) :=
  (((h.filter _).filter _).filter _).filter _

theorem checkCurrentness_congr (h : assessments.Perm assessments') :
    checkCurrentness query assessments selected = checkCurrentness query assessments' selected := by
  have hbound : (currentnessOf query assessments selected).Perm (currentnessOf query assessments' selected) := h.filter _
  have hknown : (knownCurrentness query assessments selected).Perm (knownCurrentness query assessments' selected) :=
    hbound.filter _
  have happlicable : (applicable query assessments selected).Perm (applicable query assessments' selected) :=
    hknown.filter _
  have hvalid : (authoritative query assessments selected).Perm (authoritative query assessments' selected) :=
    authoritative_perm h
  simp only [checkCurrentness, nil_iff hknown, nil_iff happlicable, nil_iff hvalid, dedup_map_length hvalid,
    hbound.mem_iff, hvalid.mem_iff]

theorem authoritative_ne_nil (h : checkCurrentness query assessments selected = .ok ()) :
    authoritative query assessments selected ≠ [] := by
  simp only [checkCurrentness, bind_eq_ok, raiseIf_eq_ok, exists_const] at h
  exact h.2.2.1

end Currentness

/-! ## The day and the session -/

section Session

variable {env : Environment} {query : CalendarSessionResolutionQuery} {c c' : CalendarSessionResolutionCandidates}
  {seen seen' : Visible} {m : CalendarCandidateSetCoverage} {selected : CalendarVersion}

/-- The manifest lists the visible facts, each once. -/
structure Listed (py : Platform) (m : CalendarCandidateSetCoverage) (seen : Visible) : Prop where
  exact : m.candidateFactDescriptors = descriptors py seen
  distinct : m.candidateFactDescriptors.Nodup

theorem Listed.nodup (h : Listed env.py m seen) : (seen.facts.map (CalendarFactDescriptor.fromFact env.py)).Nodup :=
  (List.perm_insertionSort _ _).nodup_iff.mp (h.exact ▸ h.distinct)

/-- Two facts of one kind are not listed as one. -/
theorem Listed.length_le_one (h : Listed env.py m seen) {F : Type} {l : List F} (fact : F → CalendarFact)
    (hl : (l.map fact).Sublist seen.facts) {d : CalendarFactDescriptor}
    (hd : ∀ f ∈ l, CalendarFactDescriptor.fromFact env.py (fact f) = d) : l.length ≤ 1 := by
  have hn := h.nodup.sublist (hl.map (CalendarFactDescriptor.fromFact env.py))
  rw [List.map_map] at hn
  rcases l with _ | ⟨f, _ | ⟨g, l⟩⟩
  · exact Nat.zero_le 1
  · exact Nat.le_refl 1
  · have hne := (List.nodup_cons.mp hn).1
    simp [hd f (by simp), hd g (by simp)] at hne

theorem coverageDisposition_congr {facts facts' : List CalendarFact} (h : facts.Perm facts') (coverage : HistoricalCoverage)
    (d : LocalDate) : coverageDisposition coverage d facts = coverageDisposition coverage d facts' := by
  have hself : validateCoverageIndependence coverage facts = validateCoverageIndependence coverage facts' :=
    raiseIf_congr (forall_congr' fun _ => imp_congr_right fun _ => (h.flatMap fun _ _ => .refl _).mem_iff)
  rw [coverageDisposition, coverageDisposition, hself]

theorem selectCoverage_congr (h : SeenReordered seen seen') :
    selectCoverage query seen selected = selectCoverage query seen' selected := by
  have hcover := h.coverages.filter fun c =>
    decide (c.calendarVersionId = selected.calendarVersionId) && c.contains query.localDate
  have hrelated := ((h.days.map CalendarFact.day).append (h.sessions.map CalendarFact.session)).filter fun f =>
    decide (f.calendarVersionId = selected.calendarVersionId)
  simp only [selectCoverage, coverageDisposition_congr hrelated]
  rw [hcover.length_eq]
  by_cases hmany : 1 < (seen'.coverages.filter fun c =>
      decide (c.calendarVersionId = selected.calendarVersionId) && c.contains query.localDate).length
  · rw [raiseIf_of hmany, error_bind, error_bind]
  · rw [raiseIf_of_not hmany, ok_bind, ok_bind, head?_perm hcover (hcover.length_eq ▸ Nat.not_lt.mp hmany)]

theorem selectDay_congr (h : SeenReordered seen seen') (hm : Listed env.py m seen)
    (negative : Option CalendarNegativeCoverageEvidence) :
    selectDay env.py query negative m seen selected = selectDay env.py query negative m seen' selected := by
  rw [selectDay, selectDay, negativeOrMissing_congr h]
  refine checked_head_congr (h.days.filter _) (fun k hk => hm.length_le_one CalendarFact.day
    (d := ⟨"TRADING_DAY", selected.calendarVersionId, query.localDate.isoformat, none, k⟩) ?_ fun d hd => ?_) _ _ _
  · exact ((List.filter_sublist.map _).trans (List.sublist_append_right _ _)).trans (List.sublist_append_left _ _)
  · have hmem := (List.mem_filter.mp hd).2
    simp only [Bool.and_eq_true, decide_eq_true_eq] at hmem
    rw [CalendarFactDescriptor.fromFact, CalendarFact.contentDigest, CalendarFact.semantics, hk d hd, hmem.1, hmem.2]

theorem checkNegative_congr (h : SeenReordered seen seen') (negative : Option CalendarNegativeCoverageEvidence)
    (day : TradingDayDefinition) :
    checkNegative env query negative m seen day = checkNegative env query negative m seen' day := by
  simp only [checkNegative, validNegative, h.intersects]

theorem checkBoundaries_congr {corpora corpora' : List TimezoneRuleCorpusInput} (h : corpora.Perm corpora')
    (session : SessionDefinition) :
    checkBoundaries env corpora selected session = checkBoundaries env corpora' selected session := by
  have hp := h.filter fun c => decide (c.timezoneRuleId = selected.timezoneRuleRef.timezoneRuleId)
  simp only [checkBoundaries]
  rw [hp.length_eq]
  by_cases hmany : 1 < (corpora'.filter fun c =>
      decide (c.timezoneRuleId = selected.timezoneRuleRef.timezoneRuleId)).length
  · rw [raiseIf_of hmany, error_bind, error_bind]
  · rw [raiseIf_of_not hmany, ok_bind, ok_bind, head?_perm hp (hp.length_eq ▸ Nat.not_lt.mp hmany)]

theorem selectSession_congr (h : SeenReordered seen seen') (hc : Reordered c c') (hm : Listed env.py m seen)
    (day : TradingDayDefinition) :
    selectSession env query c m seen selected day = selectSession env query c' m seen' selected day := by
  simp only [selectSession, hc.negative, checkNegative_congr h, checkBoundaries_congr hc.corpora]
  refine congrArg _ (funext fun _ => checked_head_congr (h.sessions.filter _)
    (fun k hk => hm.length_le_one CalendarFact.session
      (d := ⟨"SESSION", selected.calendarVersionId, query.localDate.isoformat, some query.sessionKind, k⟩)
      ?_ fun s hs => ?_) _ _ _)
  · exact (List.filter_sublist.map _).trans (List.sublist_append_right _ _)
  · have hmem := (List.mem_filter.mp hs).2
    simp only [Bool.and_eq_true, decide_eq_true_eq] at hmem
    have hkind : s.sessionKind = query.sessionKind := by
      cases s.sessionKind
      cases query.sessionKind
      rfl
    rw [CalendarFactDescriptor.fromFact, CalendarFact.contentDigest, CalendarFact.semantics, hk s hs, hmem.1.1, hmem.1.2,
      hkind]

/-- The day, the session if there is one, and the evidence that they rest on. -/
def sessionStage (env : Environment) (query : CalendarSessionResolutionQuery) (c : CalendarSessionResolutionCandidates)
    (m : CalendarCandidateSetCoverage) (seen : Visible) (selected : CalendarVersion) :
    Except Stop (TradingDayDefinition × Option SessionDefinition × List EvidenceRef) := do
  let historical ← selectCoverage query seen selected
  let day ← selectDay env.py query c.negativeCoverage m seen selected
  if day.dayKind ≠ .regularTradingDay then
    raiseIf (sessionsOf query seen selected ≠ []) (stop .conflicting .sessionConflict)
    return (day, none, historical.evidenceRefs ++ day.evidenceRefs)
  else
    let session ← selectSession env query c m seen selected day
    return (day, some session,
      historical.evidenceRefs ++ day.evidenceRefs ++ session.evidenceRefs ++ selected.timezoneRuleRef.evidenceRefs)

theorem resolveSession_eq (used : List CalendarCorrectionAuthorityAssessment) (currentness : CalendarCurrentnessAssessment) :
    resolveSession env query c m seen selected used currentness = (do
      let (day, session, evidence) ← sessionStage env query c m seen selected
      return established env.py selected day session currentness used evidence) := by
  simp only [resolveSession, sessionStage, bind_assoc]
  refine congrArg _ (funext fun historical => congrArg _ (funext fun day => ?_))
  split <;> simp only [bind_assoc, pure_bind]

theorem sessionStage_congr (h : SeenReordered seen seen') (hc : Reordered c c') (hm : Listed env.py m seen) :
    sessionStage env query c m seen selected = sessionStage env query c' m seen' selected := by
  have hsessions : sessionsOf query seen selected ≠ [] ↔ sessionsOf query seen' selected ≠ [] :=
    not_congr (nil_iff (h.sessions.filter _))
  simp only [sessionStage, selectCoverage_congr h, hc.negative, selectDay_congr h hm, selectSession_congr h hc hm,
    raiseIf_congr hsessions]

end Session

end ATB.Proof.Resolution
