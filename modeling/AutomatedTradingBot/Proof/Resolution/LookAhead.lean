import AutomatedTradingBot.Source.Instruments

/-!
# What later versions change in a reference resolution

`_resolve` validates the lineage of every candidate, and binds negative coverage to
the digest of the whole list, before it looks at the knowledge cut-off. A version
that is not yet known never qualifies, so it reaches the answer through these two
only.

* `qualifying_perm`: the versions that qualify are those of the original candidates;
* `checkCandidates_listing`: the checks before the lineage come out as they did;
* `no_look_ahead`: the answer with and without the later versions;
* `later_version_changes_answer`: a lineage, and a negative coverage, where it differs.
-/

namespace ATB.Proof.Resolution

open ATB.Instruments

/-- The disposition and the value of a result. -/
def answer (r : ResolutionResult) : ResolutionDisposition × Option ReferenceVersion := (r.disposition, r.value)

/-- The version is of the subject that the query asks for. -/
def OfSubject (query : ReferenceQuery) (v : ReferenceVersion) : Prop :=
  v.record.kind = query.recordKind ∧ v.instrumentId = query.instrumentId ∧ v.record.listingId? = query.listingId

/-- Candidates to which versions of the subject are added that are known only after the
cut-off, with evidence of their own, and within the resource limit. -/
structure Later (query : ReferenceQuery) (coverage : CandidateSetCoverage) (candidates added all : List ReferenceVersion) :
    Prop where
  perm : all.Perm (candidates ++ added)
  subject : ∀ v ∈ added, OfSubject query v
  future : ∀ v ∈ added, query.knowledgeCutoff.value < v.knowledgeFrom.value
  evidence : ∀ v ∈ added, ∀ k ∈ keys v.evidenceRefs, k ∉ keys coverage.evidenceRefs
  distinct : (all.map ReferenceVersion.referenceVersionId).Nodup
  limit : all.length ≤ maxLineageVersions

section Later

variable {query : ReferenceQuery} {coverage : CandidateSetCoverage} {candidates added all : List ReferenceVersion}

theorem Later.mem (h : Later query coverage candidates added all) {v : ReferenceVersion} :
    v ∈ all ↔ v ∈ candidates ∨ v ∈ added := by
  rw [h.perm.mem_iff, List.mem_append]

theorem Later.exists_iff (h : Later query coverage candidates added all) {p : ReferenceVersion → Prop}
    (hp : ∀ v ∈ added, ¬ p v) : (∃ v ∈ all, p v) ↔ ∃ v ∈ candidates, p v := by
  constructor
  · rintro ⟨v, hv, hpv⟩
    rcases h.mem.mp hv with hv | hv
    · exact ⟨v, hv, hpv⟩
    · exact absurd hpv (hp v hv)
  · rintro ⟨v, hv, hpv⟩
    exact ⟨v, h.mem.mpr (.inl hv), hpv⟩

theorem Later.sublimit (h : Later query coverage candidates added all) : candidates.length ≤ maxLineageVersions := by
  have hlen := h.perm.length_eq
  rw [List.length_append] at hlen
  have hlimit := h.limit
  omega

theorem Later.subdistinct (h : Later query coverage candidates added all) :
    (candidates.map ReferenceVersion.referenceVersionId).Nodup := by
  have hn := (h.perm.map ReferenceVersion.referenceVersionId).nodup_iff.mp h.distinct
  rw [List.map_append] at hn
  exact hn.of_append_left

theorem Later.intersects_iff (h : Later query coverage candidates added all) :
    intersects (candidateEvidence all) (keys coverage.evidenceRefs) = true ↔
      intersects (candidateEvidence candidates) (keys coverage.evidenceRefs) = true := by
  have key : ∀ l : List ReferenceVersion, intersects (candidateEvidence l) (keys coverage.evidenceRefs) = true ↔
      ∃ v ∈ l, ∃ k ∈ keys v.evidenceRefs, k ∈ keys coverage.evidenceRefs := by
    intro l
    simp only [intersects, candidateEvidence, List.any_eq_true, List.mem_flatMap, decide_eq_true_eq]
    constructor
    · rintro ⟨k, ⟨v, hv, hk⟩, hc⟩
      exact ⟨v, hv, k, hk, hc⟩
    · rintro ⟨v, hv, k, hk, hc⟩
      exact ⟨k, ⟨v, hv, hk⟩, hc⟩
  rw [key, key]
  refine h.exists_iff ?_
  rintro v hv ⟨k, hk, hc⟩
  exact h.evidence v hv k hk hc

/-- The versions that qualify are those of the original candidates. -/
theorem Later.qualifying_perm (h : Later query coverage candidates added all) :
    (qualifying query all).Perm (qualifying query candidates) := by
  have hadded : qualifying query added = [] := by
    rw [qualifying, List.filter_eq_nil_iff]
    intro v hv
    have hlate := Datetime.not_le.mpr (h.future v hv)
    simp [hlate]
  have hp : (qualifying query all).Perm (qualifying query candidates ++ qualifying query added) := by
    rw [qualifying, qualifying, qualifying, ← List.filter_append]
    exact h.perm.filter _
  rwa [hadded, List.append_nil] at hp

/-- The checks before the lineage come out as they did. -/
theorem Later.checkCandidates_listing (h : Later query coverage candidates added all) :
    checkCandidates query all (some (coverage.listing all)) =
      (fun _ => coverage.listing all) <$> checkCandidates query candidates (some (coverage.listing candidates)) := by
  have hkind : (∃ v ∈ all, v.record.kind ≠ query.recordKind) ↔ ∃ v ∈ candidates, v.record.kind ≠ query.recordKind :=
    h.exists_iff fun v hv hne => hne (h.subject v hv).1
  have hinstrument : (∃ v ∈ all, v.instrumentId ≠ query.instrumentId) ↔
      ∃ v ∈ candidates, v.instrumentId ≠ query.instrumentId :=
    h.exists_iff fun v hv hne => hne (h.subject v hv).2.1
  have hlisting : (∃ v ∈ all, v.record.listingId? ≠ query.listingId) ↔
      ∃ v ∈ candidates, v.record.listingId? ≠ query.listingId :=
    h.exists_iff fun v hv hne => hne (h.subject v hv).2.2
  have hlimit : maxLineageVersions < all.length ↔ maxLineageVersions < candidates.length :=
    iff_of_false (Nat.not_lt.mpr h.limit) (Nat.not_lt.mpr h.sublimit)
  have hdistinct : ¬ (all.map ReferenceVersion.referenceVersionId).Nodup ↔
      ¬ (candidates.map ReferenceVersion.referenceVersionId).Nodup :=
    iff_of_false (not_not.mpr h.distinct) (not_not.mpr h.subdistinct)
  simp only [checkCandidates, raiseIf_congr hlimit, raiseIf_congr hkind, raiseIf_congr hinstrument,
    raiseIf_congr (and_congr_right fun _ => hlisting), raiseIf_congr hdistinct, orRaise, map_bind, map_pure,
    ok_bind]
  have hlisted : ∀ l : List ReferenceVersion, raiseIf
      (sortedIds (l.map ReferenceVersion.referenceVersionId) ≠ (coverage.listing l).candidateVersionIds)
      (result .notEstablished "CANDIDATE_SET_INCOMPLETE") = .ok () := fun l => raiseIf_of_not (not_not.mpr rfl)
  simp only [hlisted]
  have hself : ∀ e : ResolutionResult, raiseIf (intersects (candidateEvidence all)
      (keys (coverage.listing all).evidenceRefs) = true) e = raiseIf (intersects (candidateEvidence candidates)
      (keys (coverage.listing candidates).evidenceRefs) = true) e := fun e => raiseIf_congr h.intersects_iff
  simp only [hself]
  rfl

end Later

/-! ## The choice among the versions that qualify -/

theorem unresolved_perm {l l' : List ReferenceVersion} (h : l.Perm l') : (unresolved l).Perm (unresolved l') := by
  have hp := h.filter fun v => decide (v.referenceVersionId ∉ l.filterMap ReferenceVersion.supersedesVersionId)
  refine hp.trans (List.Perm.of_eq (List.filter_congr fun v _ => ?_))
  simp only [(h.filterMap ReferenceVersion.supersedesVersionId).mem_iff]

theorem select_perm (py : Platform) {l l' : List ReferenceVersion} (h : l.Perm l') :
    answer (select py l) = answer (select py l') := by
  have hany : (∃ v ∈ l, v.isAuthoritative = false) ↔ ∃ v ∈ l', v.isAuthoritative = false := by
    simp only [h.mem_iff]
  have hu := unresolved_perm h
  simp only [select, hany]
  split
  · rfl
  · -- one version is left of both, or of neither
    generalize unresolved l = a at hu
    generalize unresolved l' = b at hu
    have hlen := hu.length_eq
    have hd := ((hu.map (ReferenceVersion.contentDigest py)).dedup).length_eq
    rcases a with _ | ⟨x, _ | ⟨y, a⟩⟩
    · rw [List.nil_perm.mp hu]
    · rw [List.singleton_perm.mp hu]
    · rcases b with _ | ⟨x', _ | ⟨y', b⟩⟩
      · cases hlen
      · cases hlen
      · simp only [hd]

/-! ## The answer -/

/-- The lineage of the candidates is accepted. -/
def lineageAccepted (candidates : List ReferenceVersion) : Prop :=
  candidates = [] ∨ validateLineage candidates = .ok ()

theorem adjudicate_eq (py : Platform) (query : ReferenceQuery) (candidates : List ReferenceVersion)
    (coverage : CandidateSetCoverage) (negative : Option NegativeCoverageEvidence) :
    (¬ lineageAccepted candidates ∧ adjudicate py query candidates coverage negative =
      result .conflicting "INVALID_OR_CONFLICTING_LINEAGE") ∨
    (lineageAccepted candidates ∧ adjudicate py query candidates coverage negative =
      if qualifying query candidates = [] then
        if negativeMatches py negative coverage query (candidateEvidence candidates) = true then
          result .absent "AUTHORITATIVE_NEGATIVE_COVERAGE"
        else result .notEstablished "NO_APPLICABLE_VERSION"
      else select py (qualifying query candidates)) := by
  have hiff : (candidates ≠ [] ∧ (validateLineage candidates).toOption = none) ↔ ¬ lineageAccepted candidates := by
    rw [lineageAccepted, not_or]
    refine and_congr_right fun _ => ?_
    cases validateLineage candidates <;> simp [Except.toOption]
  rw [adjudicate]
  by_cases hl : lineageAccepted candidates
  · rw [if_neg fun h => hiff.mp h hl]
    exact .inr ⟨hl, rfl⟩
  · rw [if_pos (hiff.mpr hl)]
    exact .inl ⟨hl, rfl⟩

/-- The later versions leave the answer as it was, or nothing qualifies and the negative
coverage matches one of the two lists of candidates only. -/
def Unmoved (py : Platform) (query : ReferenceQuery) (candidates all : List ReferenceVersion)
    (coverage : CandidateSetCoverage) (negative : Option NegativeCoverageEvidence) (before after : ResolutionResult) : Prop :=
  answer after = answer before ∨
    qualifying query candidates = [] ∧
    negativeMatches py negative (coverage.listing all) query (candidateEvidence all) ≠
      negativeMatches py negative (coverage.listing candidates) query (candidateEvidence candidates) ∧
    (answer before = (.absent, none) ∧ answer after = (.notEstablished, none) ∨
      answer before = (.notEstablished, none) ∧ answer after = (.absent, none))

theorem Later.resolve_unmoved {query : ReferenceQuery} {coverage : CandidateSetCoverage}
    {candidates added all : List ReferenceVersion} (h : Later query coverage candidates added all) (py : Platform)
    (negative : Option NegativeCoverageEvidence) (hl : lineageAccepted all ↔ lineageAccepted candidates) :
    Unmoved py query candidates all coverage negative
      (resolve py query candidates (some (coverage.listing candidates)) negative)
      (resolve py query all (some (coverage.listing all)) negative) := by
  rw [resolve, resolve, h.checkCandidates_listing]
  cases hc : checkCandidates query candidates (some (coverage.listing candidates)) with
  | error r => exact .inl rfl
  | ok c =>
    have hlisting : c = coverage.listing candidates := by
      simp only [checkCandidates, orRaise, ok_bind, bind_eq_ok, raiseIf_eq_ok, exists_const, pure_eq_ok] at hc
      obtain ⟨-, -, -, -, -, -, -, -, -, e⟩ := hc
      exact e.symm
    subst hlisting
    change Unmoved py query candidates all coverage negative
      (adjudicate py query candidates (coverage.listing candidates) negative)
      (adjudicate py query all (coverage.listing all) negative)
    rcases adjudicate_eq py query candidates (coverage.listing candidates) negative with ⟨hn, e⟩ | ⟨ha, e⟩
    · rcases adjudicate_eq py query all (coverage.listing all) negative with ⟨-, e'⟩ | ⟨ha', -⟩
      · rw [e, e']
        exact .inl rfl
      · exact absurd (hl.mp ha') hn
    · rcases adjudicate_eq py query all (coverage.listing all) negative with ⟨hn', -⟩ | ⟨-, e'⟩
      · exact absurd (hl.mpr ha) hn'
      · rw [e, e']
        have hq := h.qualifying_perm
        by_cases hnone : qualifying query candidates = []
        · have hnone' : qualifying query all = [] := List.perm_nil.mp (hnone ▸ hq)
          rw [if_pos hnone, if_pos hnone']
          -- nothing qualifies: the negative coverage decides
          cases hm : negativeMatches py negative (coverage.listing candidates) query (candidateEvidence candidates) <;>
            cases hm' : negativeMatches py negative (coverage.listing all) query (candidateEvidence all)
          · exact .inl rfl
          · exact .inr ⟨hnone, by rw [hm, hm']; decide, .inr ⟨rfl, rfl⟩⟩
          · exact .inr ⟨hnone, by rw [hm, hm']; decide, .inl ⟨rfl, rfl⟩⟩
          · exact .inl rfl
        · have hsome : qualifying query all ≠ [] := fun e => hnone (List.nil_perm.mp (e ▸ hq))
          rw [if_neg hnone, if_neg hsome]
          exact .inl (select_perm py hq)

/-- Versions of the subject that are known only after the cut-off leave the answer of both
resolutions as it was, when the lineage is accepted with them as it is without them;
where nothing qualifies, the negative coverage answers for the list that it is bound to. -/
theorem no_look_ahead (py : Platform) (instrumentId : InstrumentId) (listingId : ListingId) (asOf cutoff : Timestamp)
    (coverage : CandidateSetCoverage) (candidates added all : List ReferenceVersion)
    (negative : Option NegativeCoverageEvidence) (hl : lineageAccepted all ↔ lineageAccepted candidates) :
    (Later ⟨.instrument, instrumentId, none, asOf, cutoff⟩ coverage candidates added all →
      Unmoved py ⟨.instrument, instrumentId, none, asOf, cutoff⟩ candidates all coverage negative
        (resolveInstrumentReference py instrumentId asOf cutoff candidates (some (coverage.listing candidates)) negative)
        (resolveInstrumentReference py instrumentId asOf cutoff all (some (coverage.listing all)) negative)) ∧
    (Later ⟨.listing, instrumentId, some listingId, asOf, cutoff⟩ coverage candidates added all →
      Unmoved py ⟨.listing, instrumentId, some listingId, asOf, cutoff⟩ candidates all coverage negative
        (resolveListingReference py instrumentId listingId asOf cutoff candidates (some (coverage.listing candidates))
          negative)
        (resolveListingReference py instrumentId listingId asOf cutoff all (some (coverage.listing all)) negative)) :=
  ⟨fun h => h.resolve_unmoved py negative hl, fun h => h.resolve_unmoved py negative hl⟩

namespace Sample

def uuid (n : Nat) : Uuid := .ofInt (0x40008000000000000000 + n % 16)

theorem uuid_uuid4 (n : Nat) : requireUuid4 (uuid n) = true := by
  have hall : ∀ m < 16, requireUuid4 (.ofInt (0x40008000000000000000 + m)) = true := by decide
  exact hall (n % 16) (Nat.mod_lt _ (by decide))

def instant (second : Nat) : Timestamp :=
  ⟨⟨2026, 1, 1, 0, 0, second % 60, 0, ⟨by decide, by decide, by decide, by decide, by decide,
    Nat.mod_lt _ (by decide), by decide⟩⟩⟩

def evidence (role digest : String) : EvidenceRef :=
  ⟨"source:atis/" ++ role, "dataset:atis/" ++ role, "evidence:atis/" ++ role, ⟨digest⟩⟩

def versionId (n : Nat) : ReferenceVersionId := ⟨uuid n, uuid_uuid4 n⟩

def instrument : InstrumentId := ⟨uuid 1⟩

/-- SHA-256 of the texts of the sample, by their lengths. -/
def digests : List (Nat × Nat) :=
  [(579, 0xc0581a7e180fad710453634028764e6b5a13dec66e826aea28eafcaa2c6b9655),
   (643, 0xeed8b1ba0471ff7191b085ebe8ae1ff83aa9a1f08c1da02b0f3bee5777cc5016)]

def platform : Platform where
  isNfc _ := true
  sha256 text := ⟨((digests.find? fun d => d.1 = text.length).map Prod.snd).getD 0 % 2 ^ 256,
    Nat.mod_lt _ (Nat.two_pow_pos 256)⟩

def first : ReferenceVersion :=
  { referenceVersionId := versionId 1, instrumentId := instrument, effectiveFrom := instant 0, effectiveTo := none,
    knowledgeFrom := instant 0,
    evidenceRefs := [evidence "candidate-1" "sha256:fed53ee6b0ddd474f9f2d93dfdb7c00321eb6538ec02a4572f6b986724403584"],
    validationPolicyId := "validation-policy:atis/rb1-s2", validationState := .valid, supersedesVersionId := none,
    currency := some "USD", externalIdentifiers := [], sourceObservedAt := none, correctionReason := none,
    record := .instrument (some "COMMON_STOCK"), positive := by simp, notSelf := by simp }

/-- A version that is known a second after the cut-off. -/
def second : ReferenceVersion :=
  { first with
    referenceVersionId := versionId 2, knowledgeFrom := instant 11,
    evidenceRefs := [evidence "candidate-2" "sha256:5b9f45cfe85bb8dccbe042aadc887f928cba25e9241dcc0442c85e8f8d0c49e9"],
    supersedesVersionId := some (versionId 1), positive := by simp [first], notSelf := by decide }

/-- The same, but of a predecessor that is not among the candidates. -/
def orphan : ReferenceVersion := { second with supersedesVersionId := some (versionId 9), notSelf := by decide }

/-- The same, but of no predecessor. -/
def unrelated : ReferenceVersion := { second with supersedesVersionId := none, notSelf := by simp }

def query : ReferenceQuery := ⟨.instrument, instrument, none, instant 10, instant 10⟩

def coverage : CandidateSetCoverage :=
  { query := query, candidateVersionIds := [],
    evidenceRefs := [⟨"source:atis/coverage", "dataset:atis/coverage", "evidence:atis/coverage-900",
      ⟨"sha256:03ab5cbe71515c70550a046cbcbc09735e98782f9ebdcec87933797f2c64dade"⟩⟩],
    validationPolicyId := "validation-policy:atis/rb1-s2-coverage", validationState := .valid }

/-- No version exists, for the coverage that lists none. -/
def negative : NegativeCoverageEvidence :=
  { query := query,
    candidateSetDigest := "sha256:c0581a7e180fad710453634028764e6b5a13dec66e826aea28eafcaa2c6b9655",
    evidenceRefs := [evidence "negative-coverage-901"
      "sha256:7ba4de5f251df179d64b5093adb56c7b9e8d26294c0e8d810ee51679d02e6ac4"],
    validationPolicyId := "validation-policy:atis/rb1-s2-negative", validationState := .valid }

theorem later {candidates added : List ReferenceVersion} (hsubject : ∀ v ∈ added, OfSubject query v)
    (hfuture : ∀ v ∈ added, query.knowledgeCutoff.value < v.knowledgeFrom.value)
    (hevidence : ∀ v ∈ added, ∀ k ∈ keys v.evidenceRefs, k ∉ keys coverage.evidenceRefs)
    (hdistinct : ((candidates ++ added).map ReferenceVersion.referenceVersionId).Nodup)
    (hlimit : (candidates ++ added).length ≤ maxLineageVersions) :
    Later query coverage candidates added (candidates ++ added) :=
  ⟨.refl _, hsubject, hfuture, hevidence, hdistinct, hlimit⟩

end Sample

theorem no_look_ahead_sample :
    answer (resolveInstrumentReference Sample.platform Sample.instrument (Sample.instant 10) (Sample.instant 10)
      [Sample.first] (some (Sample.coverage.listing [Sample.first])) none) = (.established, some Sample.first) ∧
    Unmoved Sample.platform Sample.query [Sample.first] [Sample.first, Sample.second] Sample.coverage none
      (resolveInstrumentReference Sample.platform Sample.instrument (Sample.instant 10) (Sample.instant 10)
        [Sample.first] (some (Sample.coverage.listing [Sample.first])) none)
      (resolveInstrumentReference Sample.platform Sample.instrument (Sample.instant 10) (Sample.instant 10)
        [Sample.first, Sample.second] (some (Sample.coverage.listing [Sample.first, Sample.second])) none) := by
  have hl : lineageAccepted [Sample.first, Sample.second] ↔ lineageAccepted [Sample.first] :=
    iff_of_true (.inr (by decide +kernel)) (.inr (by decide +kernel))
  have hlater : Later Sample.query Sample.coverage [Sample.first] [Sample.second] [Sample.first, Sample.second] :=
    Sample.later (by simp only [OfSubject]; decide +kernel) (by decide +kernel) (by decide +kernel)
      (by decide +kernel) (by decide)
  exact ⟨by decide +kernel, (no_look_ahead Sample.platform Sample.instrument ⟨Sample.uuid 2, Sample.uuid_uuid4 2⟩
    (Sample.instant 10) (Sample.instant 10) Sample.coverage [Sample.first] [Sample.second] [Sample.first, Sample.second]
    none hl).1 hlater⟩

/-- One later version without its predecessor turns an established reference into a
conflict, and one more candidate takes the negative coverage from the list that it was
bound to. -/
theorem later_version_changes_answer :
    Later Sample.query Sample.coverage [Sample.first] [Sample.orphan] [Sample.first, Sample.orphan] ∧
    answer (resolveInstrumentReference Sample.platform Sample.instrument (Sample.instant 10) (Sample.instant 10)
      [Sample.first] (some (Sample.coverage.listing [Sample.first])) none) = (.established, some Sample.first) ∧
    answer (resolveInstrumentReference Sample.platform Sample.instrument (Sample.instant 10) (Sample.instant 10)
      [Sample.first, Sample.orphan] (some (Sample.coverage.listing [Sample.first, Sample.orphan])) none) =
      (.conflicting, none) ∧
    Later Sample.query Sample.coverage [] [Sample.unrelated] [Sample.unrelated] ∧
    answer (resolveInstrumentReference Sample.platform Sample.instrument (Sample.instant 10) (Sample.instant 10)
      [] (some (Sample.coverage.listing [])) (some Sample.negative)) = (.absent, none) ∧
    answer (resolveInstrumentReference Sample.platform Sample.instrument (Sample.instant 10) (Sample.instant 10)
      [Sample.unrelated] (some (Sample.coverage.listing [Sample.unrelated])) (some Sample.negative)) =
      (.notEstablished, none) := by
  refine ⟨Sample.later (by simp only [OfSubject]; decide +kernel) (by decide +kernel) (by decide +kernel)
    (by decide +kernel) (by decide), by decide +kernel, by decide +kernel, ?_, by decide +kernel, by decide +kernel⟩
  exact Sample.later (by simp only [OfSubject]; decide +kernel) (by decide +kernel) (by decide +kernel)
    (by decide +kernel) (by decide)

end ATB.Proof.Resolution
