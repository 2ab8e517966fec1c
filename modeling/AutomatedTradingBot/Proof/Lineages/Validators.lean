import AutomatedTradingBot.Proof.Lineages.Actions
import AutomatedTradingBot.Proof.Lineages.Edges
import AutomatedTradingBot.Proof.Lineages.Versions
import AutomatedTradingBot.Proof.Resolution.LookAhead

/-!
# What the lineage validators accept

* `lineage_validators`: the four checks accept chains, stop, and do not depend on the order
  of what they are given.
-/

namespace ATB.Proof.Lineages

open Lineage Instruments Calendars CorporateActions ATB.MarketData
open Datasets (isIdentity)

/-- The four checks. The versions of references and of calendars that are accepted are the
distinct chains of one subject, with knowledge that increases; the edges are the neighbours
in distinct chains of identities; created versions of an action are one chain from the
original. Each walk is a loop that stops. -/
theorem lineage_validators (py : Platform) :
    -- references
    ((∀ values, (∃ r, validatedLineage values = .ok r) ↔
        Accepted ReferenceVersion.view referenceSubject maxLineageVersions maxLineageDepth values) ∧
      (∀ values start, loop (iteration (parentOf ReferenceVersion.view.id ReferenceVersion.view.predecessor values)
          start maxLineageDepth) (maxLineageDepth + 1) ⟨[], start, 0⟩ =
        some (walk ReferenceVersion.view (Dict.ofKeys ReferenceVersion.view.id values) start maxLineageDepth [] start)) ∧
      ∀ values values', values.Perm values' → ∀ r, validatedLineage values = .ok r → validatedLineage values' = .ok r) ∧
    -- calendars
    ((∀ values, (∃ r, validateCalendarLineage values = .ok r) ↔
        Accepted CalendarVersion.view calendarSubject maxLineageVersions maxLineageDepth values) ∧
      (∀ values start, loop (iteration (parentOf CalendarVersion.view.id CalendarVersion.view.predecessor values)
          start maxLineageDepth) (maxLineageDepth + 1) ⟨[], start, 0⟩ =
        some (walk CalendarVersion.view (Dict.ofKeys CalendarVersion.view.id values) start maxLineageDepth [] start)) ∧
      ∀ values values', values.Perm values' → ∀ r, validateCalendarLineage values = .ok r →
        validateCalendarLineage values' = .ok r) ∧
    -- edges
    ((∀ edges, validateLineageEdges edges = .ok () ↔ edges.length ≤ maxC06LineageVersions ∧
        (∀ e ∈ edges, isIdentity (Text.chars e.1) = true ∧ isIdentity (Text.chars e.2) = true) ∧
        ∃ chains, EdgeChains edges chains) ∧
      (∀ (parents : List (String × String)) start,
        loop (pursuit (fun i => Dict.get? i parents) maxC06LineageDepth) (maxC06LineageDepth + 1) ⟨[], start, 0⟩ =
          some (pursue (fun i => Dict.get? i parents) maxC06LineageDepth [] start)) ∧
      ∀ edges edges', edges.Perm edges' → validateLineageEdges edges = .ok () → validateLineageEdges edges' = .ok ()) ∧
    -- actions
    (∀ values : List (CorporateActionVersion py), (∀ v ∈ values, Created v) →
      (∀ r, validateActionLineage values = .ok r → ∃ root c, (root :: c).Perm r ∧
        SimpleChain (·.actionVersionId) (·.predecessorVersionId) (root :: c) ∧
        (root :: c).IsChain (fun older newer => KnownAfter newer older) ∧
        root.operation = .original ∧ (∀ v ∈ c, v.operation ≠ .original) ∧
        (∀ v ∈ root :: c, v ∈ values ∧ SameAction v root) ∧
        ∀ v ∈ values, ∃ w ∈ root :: c, w.actionVersionId = v.actionVersionId) ∧
      (∀ start, loop (iteration (priorOf (byId values)) start maxActionLineageDepth) (maxActionLineageDepth + 1)
          ⟨[], start, 0⟩ =
        some (follow (priorOf (byId values)) start maxActionLineageDepth [] start)) ∧
      ∀ values', values.Perm values' → ∀ r, validateActionLineage values = .ok r →
        (CollisionFree values → ∃ r', validateActionLineage values' = .ok r' ∧
          r'.map (·.actionVersionId) = r.map (·.actionVersionId)) ∧
        ((∀ v ∈ values, ∀ w ∈ values, v.actionVersionId = w.actionVersionId → v = w) →
          validateActionLineage values' = .ok r)) := by
  refine ⟨⟨fun values => ?_, fun values start => ?_, fun values values' hp r => validatedLineage_congr hp⟩,
    ⟨fun values => ?_, fun values start => ?_, fun values values' hp r => validateCalendarLineage_congr hp⟩,
    ⟨fun edges => validateLineageEdges_eq_ok, fun parents start => ?_,
      fun edges edges' hp => validateLineageEdges_congr hp⟩,
    fun values hcreated => ⟨fun r => single_chain hcreated, fun start => ?_, fun values' hp r h =>
      ⟨fun hfree => validateActionLineage_congr hcreated hfree hp h,
        fun hunique => validateActionLineage_congr_of_unique hunique hp h⟩⟩⟩
  · simp only [validatedLineage, bind_eq_ok, exists_const, validateLineage_eq_ok, pure_eq_ok, exists_and_left,
      exists_eq', and_true]
  · rw [walk_eq_follow]
    exact loop_iteration _ _ (Nat.zero_le _) (Nat.lt_succ_self _)
  · simp only [validateCalendarLineage_eq_ok, exists_and_left, exists_eq, and_true]
  · rw [walk_eq_follow]
    exact loop_iteration _ _ (Nat.zero_le _) (Nat.lt_succ_self _)
  · exact loop_pursuit _ (Nat.zero_le _) (Nat.lt_succ_self _)
  · exact loop_iteration _ _ (Nat.zero_le _) (Nat.lt_succ_self _)

namespace Sample

/-- A hash that looks at one character: here the first digit of the digest of the terms. -/
def platform : Platform := ⟨fun _ => true, fun s => ⟨(s.getD 46 '0').toNat % 2 ^ 256, Nat.mod_lt _ (by decide)⟩⟩

def evidence (id : String) : EvidenceRef := ⟨"source:a/b", "dataset:a/b", id, ⟨"sha256:00"⟩⟩
def restated : EvidenceRef := ⟨"source:a/b", "dataset:a/b", "evidence:a/restated", ⟨"sha256:11"⟩⟩

def slot (at? : Option Timestamp) : TemporalRoleSlot :=
  match at? with
  | none => ⟨.notEstablished, none, [evidence "evidence:a/slot"], by decide⟩
  | some t => ⟨.established, some t, [evidence "evidence:a/slot"], by simp⟩

def roles (day : Fin 28) : TemporalRoles :=
  let known : TemporalRoleSlot := slot (some (Resolution.Sample.instant day))
  let absent : TemporalRoleSlot := ⟨.notApplicable, none, [evidence "evidence:a/slot"], by decide⟩
  ⟨known, absent, known, absent, absent, absent⟩

def facts : ActionFacts where
  action := ⟨⟨"atis:corporate-action:v1:00"⟩, ⟨Resolution.Sample.uuid 1⟩, .split, evidence "evidence:a/binding"⟩
  operation := .original
  temporalRoles := roles 0
  actionTermsRef := evidence "evidence:a/terms"
  providerNativeRefs := []
  sourceEvidenceRefs := [evidence "evidence:a/source"]
  validationPolicyId := "validation-policy:a/b"
  validationState := .valid
  affectedDependencies := ⟨.knownEmpty, [], some (evidence "evidence:a/scope")⟩
  predecessorVersionId := none
  lineageReason := none

theorem original_isSome : (createActionVersion platform facts []).toOption.isSome = true := by decide +kernel

def original : CorporateActionVersion platform := (createActionVersion platform facts []).toOption.get original_isSome

def correction : ActionFacts :=
  { facts with
    operation := .correction
    temporalRoles := roles 1
    actionTermsRef := restated
    predecessorVersionId := some original.actionVersionId
    lineageReason := some "restated" }

def factsDigest : EvidenceContentDigest := digestOf platform (versionMapping correction [])

def authority : LineageAuthorityAssertion platform where
  operation := .correction
  canonicalActionId := facts.action.canonicalActionId
  predecessorVersionId := original.actionVersionId
  successorFactsDigest := factsDigest
  authorityPolicyId := "validation-policy:a/authority"
  decisionEvidenceRefs := [evidence "evidence:a/decision"]
  assertionRef := ⟨"source:a/b", "dataset:a/b", "evidence:a/authority", digestOf platform (authorizationMapping .correction
    facts.action.canonicalActionId original.actionVersionId factsDigest "validation-policy:a/authority"
    [evidence "evidence:a/decision"])⟩
  successor := by decide
  refs := ⟨[evidence "evidence:a/decision"], rfl⟩
  bound := rfl

theorem corrected_isSome : (createActionVersion platform correction [authority]).toOption.isSome = true ∧
    (createActionVersion platform correction [authority, authority]).toOption.isSome = true :=
  ⟨by decide +kernel, by decide +kernel⟩

/-- The correction, with its authority. -/
def once : CorporateActionVersion platform :=
  (createActionVersion platform correction [authority]).toOption.get corrected_isSome.1

/-- The same correction, with its authority given twice. -/
def twice : CorporateActionVersion platform :=
  (createActionVersion platform correction [authority, authority]).toOption.get corrected_isSome.2

theorem created_get {facts : ActionFacts} {authorities : List (LineageAuthorityAssertion platform)}
    (h : (createActionVersion platform facts authorities).toOption.isSome = true) :
    Created ((createActionVersion platform facts authorities).toOption.get h) :=
  ⟨facts, authorities, ok_of_toOption (Option.some_get h).symm⟩

theorem created_original : Created original := created_get _
theorem created_once : Created once := created_get _
theorem created_twice : Created twice := created_get _

/-- In either order the correction is kept as it comes first. -/
theorem kept : ((validateActionLineage [original, once, twice]).toOption.map (·.map (·.lineageAuthorities.length)) =
      some [0, 1] ∧
    (validateActionLineage [original, twice, once]).toOption.map (·.map (·.lineageAuthorities.length)) =
      some [0, 2]) ∧
    (validateActionLineage [once, original]).toOption.isSome = true ∧
    platform.hexdigest (bodyOf once).dumps ≠ platform.hexdigest (bodyOf original).dumps :=
  ⟨by decide +kernel, by decide +kernel, by decide +kernel⟩

theorem collisionFree : CollisionFree [once, original] := by
  have hne := kept.2.2
  unfold CollisionFree
  simp only [List.forall_mem_cons, List.not_mem_nil, false_imp_iff, implies_true, and_true, true_and]
  exact ⟨fun h => absurd h hne, fun h => absurd h.symm hne⟩

end Sample

/-- The theorem at an original and its correction, in both orders. -/
theorem lineage_validators_sample : ∃ r root c, validateActionLineage [Sample.once, Sample.original] = .ok r ∧
    (root :: c).Perm r ∧ SimpleChain (·.actionVersionId) (·.predecessorVersionId) (root :: c) ∧
    ∃ r', validateActionLineage [Sample.original, Sample.once] = .ok r' ∧
      r'.map (·.actionVersionId) = r.map (·.actionVersionId) := by
  have hcreated : ∀ v ∈ [Sample.once, Sample.original], Created v :=
    List.forall_mem_cons.mpr ⟨Sample.created_once, List.forall_mem_singleton.mpr Sample.created_original⟩
  have haccepted : validateActionLineage [Sample.once, Sample.original] = .ok _ :=
    ok_of_toOption (Option.some_get Sample.kept.2.1).symm
  have hswap : ∀ a b : CorporateActionVersion Sample.platform, [a, b].Perm [b, a] := fun a b => .swap b a []
  obtain ⟨-, -, -, hactions⟩ := lineage_validators Sample.platform
  obtain ⟨hchain, -, horder⟩ := hactions [Sample.once, Sample.original] hcreated
  obtain ⟨root, c, hperm, hsimple, -⟩ := hchain _ haccepted
  exact ⟨_, root, c, haccepted, hperm, hsimple, (horder _ (hswap _ _) _ haccepted).1 Sample.collisionFree⟩

/-- A lineage of no versions is refused, and of a correction that was created twice, with
its authority once and twice, the first is kept. -/
theorem empty_refused_and_first_kept :
    (DisjointChains ReferenceVersion.view.id ReferenceVersion.view.predecessor maxLineageDepth [] ∧
      ∀ r, validatedLineage [] ≠ .ok r) ∧
    (DisjointChains CalendarVersion.view.id CalendarVersion.view.predecessor maxLineageDepth [] ∧
      ∀ r, validateCalendarLineage [] ≠ .ok r) ∧
    (Created Sample.original ∧ Created Sample.once ∧ Created Sample.twice) ∧
    (validateActionLineage [Sample.original, Sample.once, Sample.twice]).toOption.map
      (·.map (·.lineageAuthorities.length)) = some [0, 1] ∧
    (validateActionLineage [Sample.original, Sample.twice, Sample.once]).toOption.map
      (·.map (·.lineageAuthorities.length)) = some [0, 2] := by
  refine ⟨⟨⟨[], .nil, by simp⟩, fun r h => ?_⟩, ⟨⟨[], .nil, by simp⟩, fun r h => ?_⟩,
    ⟨Sample.created_original, Sample.created_once, Sample.created_twice⟩, Sample.kept.1⟩
  · cases h
  · cases h

end ATB.Proof.Lineages
