import AutomatedTradingBot.Framework.Collect
import AutomatedTradingBot.Proof.Lineages.Validators

/-!
# Versions of corporate actions and what they are made of

* `createActionVersion_eq_ok`: when a version is created, and of what;
* `createActionVersion_perm`, `declare_congr`: the order of what is given does not matter,
  nor do repetitions but those of an authority;
* `facts_of_id`, `authorities_of_id`: the identity of a version is that of its contents;
* `versions_by_content`: what an accepted call makes.
-/

namespace ATB.Proof.Lineages

open CorporateActions Json
open Instruments (EvidenceRef maxEvidenceRefs)
open Datasets (canonicalizeEvidenceRefs canonicalBytes)

variable {py : Platform}

/-- SHA-256 tells these texts apart. -/
def Apart (py : Platform) (texts : List (List Char)) : Prop :=
  ∀ s ∈ texts, ∀ t ∈ texts, py.hexdigest s = py.hexdigest t → s = t

/-! ## Declarations -/

theorem tells_dependency : Collect.Tells AffectedDependency.key
    fun a b => decide (a.mapping.dumps ≠ b.mapping.dumps) := fun a b _ => by
  rw [decide_eq_true_iff]
  exact not_congr ⟨fun h => dependency_mapping_injective (dumps_inj (sorted_dependency a) (sorted_dependency b) h),
    fun h => by rw [h]⟩

/-- A declaration depends on the members of its entries only. -/
theorem declare_congr {state : DependencyState} {entries entries' : List AffectedDependency} {scope : Option EvidenceRef}
    {d : AffectedDependencyDeclaration} (h : AffectedDependencyDeclaration.declare state entries scope = .ok d)
    (hsame : ∀ e, e ∈ entries ↔ e ∈ entries') (hl : entries'.length ≤ maxDependencyEntries) :
    AffectedDependencyDeclaration.declare state entries' scope = .ok d := by
  obtain ⟨-, h⟩ := raiseIf_bind_eq_ok.mp h
  obtain ⟨unique, hu, h⟩ := bind_eq_ok.mp h
  have hu : Collect.collect "CONFLICTING_DEPENDENCY_DECLARATION" AffectedDependency.key
      (fun a b => decide (a.mapping.dumps ≠ b.mapping.dumps)) entries = .ok unique := hu
  obtain ⟨unique', hu', hperm⟩ := Collect.collect_perm tells_dependency hsame hu
  have hsort : ((Dict.values unique).insertionSort fun a b => a.mapping.dumps ≤ b.mapping.dumps) =
      (Dict.values unique').insertionSort fun a b => a.mapping.dumps ≤ b.mapping.dumps :=
    insertionSort_eq_of_perm (fun _ _ => le_total _ _) (fun _ _ _ => le_trans)
      (fun a _ b _ hab hba => dependency_mapping_injective
        (dumps_inj (sorted_dependency a) (sorted_dependency b) (le_antisymm hab hba))) hperm
  refine raiseIf_bind_eq_ok.mpr ⟨Nat.not_lt.mpr hl, bind_eq_ok.mpr ⟨unique', hu', ?_⟩⟩
  rw [← hsort]
  exact h

/-! ## Facts -/

theorem providerRefs_congr {refs refs' : List ProviderNativeActionRef} (h : ∀ r, r ∈ refs ↔ r ∈ refs') :
    providerRefs refs = providerRefs refs' :=
  sortedSetOn_congr (fun _ _ e => provider_mapping_injective (dumps_inj (sorted_provider _) (sorted_provider _) e)) h

/-- The normalised facts depend on the members of the references only. -/
theorem normalize_congr {facts n : ActionFacts} (h : CorporateActions.normalize facts = .ok n) {providers : List ProviderNativeActionRef}
    {sources : List EvidenceRef} (hproviders : ∀ r, r ∈ facts.providerNativeRefs ↔ r ∈ providers)
    (hsources : ∀ e, e ∈ facts.sourceEvidenceRefs ↔ e ∈ sources) (hl : sources.length ≤ maxEvidenceRefs) :
    CorporateActions.normalize { facts with providerNativeRefs := providers, sourceEvidenceRefs := sources } = .ok n := by
  obtain ⟨kept, hkept, h⟩ := bind_eq_ok.mp h
  have hkept' := Evidence.canonicalize_congr hsources hl (mapError_eq_ok.mp hkept)
  refine bind_eq_ok.mpr ⟨kept, mapError_eq_ok.mpr hkept', ?_⟩
  dsimp only
  rw [← providerRefs_congr hproviders]
  exact h

/-- What is normalised stays as it is. -/
theorem normalize_idem {facts n : ActionFacts} (h : CorporateActions.normalize facts = .ok n) : CorporateActions.normalize n = .ok n := by
  obtain ⟨kept, hkept, h⟩ := bind_eq_ok.mp h
  obtain ⟨⟨⟩, hroles, h⟩ := bind_eq_ok.mp h
  cases pure_eq_ok.mp h
  have hkept := mapError_eq_ok.mp hkept
  have hne : kept ≠ [] := by
    rintro rfl
    have hnone : facts.sourceEvidenceRefs = [] := List.eq_nil_iff_forall_not_mem.mpr fun e he => by
      cases (Evidence.mem_canonicalize hkept e).mpr he
    rw [hnone] at hkept
    cases hkept
  have hagain := Evidence.canonicalize_of_canonical (Evidence.canonicalize_canonical hkept) hne
  refine bind_eq_ok.mpr ⟨kept, mapError_eq_ok.mpr hagain, bind_eq_ok.mpr ⟨(), hroles, ?_⟩⟩
  have hproviders : providerRefs (providerRefs facts.providerNativeRefs) = providerRefs facts.providerNativeRefs :=
    sortedSetOn_idem fun _ _ e => provider_mapping_injective (dumps_inj (sorted_provider _) (sorted_provider _) e)
  dsimp only
  rw [hproviders]
  rfl

/-! ## What is created -/

/-- The authorities as a version keeps them. -/
def sortAuthorities (authorities : List (LineageAuthorityAssertion py)) : List (LineageAuthorityAssertion py) :=
  authorities.insertionSort fun a b => canonicalBytes a.assertionRef ≤ canonicalBytes b.assertionRef

/-- The version that is made of normalised facts, of authorities and of their references. -/
structure Made (n : ActionFacts) (authorities : List (LineageAuthorityAssertion py)) (refs : List EvidenceRef)
    (v : CorporateActionVersion py) : Prop where
  facts : factsOf v = n
  authorities : v.lineageAuthorities = sortAuthorities authorities
  digest : v.factsDigest = digestOf py (versionMapping n [])
  id : v.actionVersionId = versionIdOf py (versionMapping n refs)

theorem Made.withAuthorities {n : ActionFacts} {authorities : List (LineageAuthorityAssertion py)} {refs : List EvidenceRef}
    {v : CorporateActionVersion py} (h : Made n authorities refs v) (authorities' : List (LineageAuthorityAssertion py)) :
    Made n authorities' refs { v with lineageAuthorities := sortAuthorities authorities' } where
  facts := h.facts
  authorities := rfl
  digest := h.digest
  id := h.id

theorem factsOf_normalize {facts n : ActionFacts} (h : CorporateActions.normalize facts = .ok n) : n.operation = facts.operation := by
  obtain ⟨_, -, h⟩ := bind_eq_ok.mp h
  obtain ⟨-, -, h⟩ := bind_eq_ok.mp h
  cases pure_eq_ok.mp h
  rfl

/-- A version is what it is made of. -/
theorem made_unique {n : ActionFacts} {authorities authorities' : List (LineageAuthorityAssertion py)}
    {refs : List EvidenceRef} {v w : CorporateActionVersion py} (hv : Made n authorities refs v)
    (hw : Made n authorities' refs w) : { v with lineageAuthorities := w.lineageAuthorities } = w := by
  obtain ⟨hfacts, -, hdigest, hid⟩ := hv
  obtain ⟨hfacts', -, hdigest', hid'⟩ := hw
  obtain ⟨id, digest, action, binding, instrument, family, operation, roles, terms, providers, sources, policy, state,
    predecessor, reason, _, dependencies⟩ := v
  obtain ⟨id', digest', action', binding', instrument', family', operation', roles', terms', providers', sources', policy',
    state', predecessor', reason', _, dependencies'⟩ := w
  dsimp only at hid hid' hdigest hdigest'
  cases hfacts.trans hfacts'.symm
  cases hid.trans hid'.symm
  cases hdigest.trans hdigest'.symm
  rfl

/-- When a version is created, and of what. -/
theorem createActionVersion_eq_ok {facts : ActionFacts} {authorities : List (LineageAuthorityAssertion py)}
    {v : CorporateActionVersion py} : createActionVersion py facts authorities = .ok v ↔
      ∃ n refs, CorporateActions.normalize facts = .ok n ∧ checkOperation py n authorities = .ok () ∧
        (n.operation ≠ .original → ∀ a ∈ authorities, Binds py n (digestOf py (versionMapping n [])) a) ∧
        authorityRefs py (sortAuthorities authorities) = .ok refs ∧ Made n authorities refs v := by
  have hbinds : ∀ (n : ActionFacts) (d : EvidenceContentDigest),
      (¬ (n.operation ≠ .original ∧ ∃ a ∈ sortAuthorities authorities, ¬ Binds py n d a)) ↔
        (n.operation ≠ .original → ∀ a ∈ authorities, Binds py n d a) := fun n d => by
    simp only [sortAuthorities, List.mem_insertionSort, not_and, not_exists, not_not]
  constructor
  · intro h
    obtain ⟨n, hn, h⟩ := bind_eq_ok.mp h
    obtain ⟨⟨⟩, hoperation, h⟩ := bind_eq_ok.mp h
    obtain ⟨d, hd, h⟩ := bind_eq_ok.mp h
    obtain ⟨hall, h⟩ := raiseIf_bind_eq_ok.mp h
    obtain ⟨refs, hrefs, h⟩ := bind_eq_ok.mp h
    cases pure_eq_ok.mp h
    have hdigest : d = digestOf py (versionMapping n []) := by
      rw [computeActionFactsDigest, normalize_idem hn, ok_bind] at hd
      exact (pure_eq_ok.mp hd).symm
    subst hdigest
    exact ⟨n, refs, hn, hoperation, (hbinds n _).mp hall, hrefs, rfl, rfl, rfl, rfl⟩
  · rintro ⟨n, refs, hn, hoperation, hall, hrefs, hmade⟩
    have hd : computeActionFactsDigest py n = .ok (digestOf py (versionMapping n [])) := by
      rw [computeActionFactsDigest, normalize_idem hn, ok_bind]
      rfl
    refine bind_eq_ok.mpr ⟨n, hn, bind_eq_ok.mpr ⟨(), hoperation, bind_eq_ok.mpr ⟨_, hd, ?_⟩⟩⟩
    refine raiseIf_bind_eq_ok.mpr ⟨(hbinds n _).mpr hall, bind_eq_ok.mpr ⟨refs, hrefs, pure_eq_ok.mpr ?_⟩⟩
    obtain ⟨rfl, hauthorities, hdigest, hid⟩ := hmade
    obtain ⟨id, digest, action, binding, instrument, family, operation, roles, terms, providers, sources, policy, state,
      predecessor, reason, kept, dependencies⟩ := v
    dsimp only [factsOf] at hauthorities hdigest hid
    subst hauthorities hdigest hid
    rfl

/-! ## Authorities -/

/-- The body of an authority, whose digest its reference has. -/
def authorization (a : LineageAuthorityAssertion py) : Json :=
  authorizationMapping a.operation a.canonicalActionId a.predecessorVersionId a.successorFactsDigest a.authorityPolicyId
    a.decisionEvidenceRefs

theorem sorted_authorization (a : LineageAuthorityAssertion py) : Sorted (authorization a) :=
  sorted_obj (by
    simp only [List.forall_mem_cons, sorted_str, Dependencies.sorted_refItems]
    simp)

theorem authorization_inj {a b : LineageAuthorityAssertion py} (h : (authorization a).dumps = (authorization b).dumps)
    (href : a.assertionRef = b.assertionRef) : a = b := by
  have hv := obj_inj ["authority_policy_id", "canonical_action_id", "decision_evidence_refs", "kind", "operation",
      "predecessor_version_id", "successor_facts_digest"] (by decide)
    [.str a.authorityPolicyId, .str a.canonicalActionId.value, Datasets.refItems a.decisionEvidenceRefs,
      .str "ATIS_C07_LINEAGE_AUTHORIZATION_V1", .str a.operation.value, .str a.predecessorVersionId.value,
      .str a.successorFactsDigest.value]
    [.str b.authorityPolicyId, .str b.canonicalActionId.value, Datasets.refItems b.decisionEvidenceRefs,
      .str "ATIS_C07_LINEAGE_AUTHORIZATION_V1", .str b.operation.value, .str b.predecessorVersionId.value,
      .str b.successorFactsDigest.value] rfl rfl (dumps_inj (sorted_authorization a) (sorted_authorization b) h)
  simp only [List.cons.injEq, Json.str.injEq, and_true, true_and] at hv
  obtain ⟨hpolicy, haction, hrefs, hoperation, hpredecessor, hdigest⟩ := hv
  obtain ⟨operation, ⟨action⟩, ⟨predecessor⟩, ⟨digest⟩, policy, refs, ref, _, _, _⟩ := a
  obtain ⟨operation', ⟨action'⟩, ⟨predecessor'⟩, ⟨digest'⟩, policy', refs', ref', _, _, _⟩ := b
  dsimp only at href hpolicy haction hpredecessor hdigest
  subst href hpolicy haction hpredecessor hdigest
  cases actionOperation_value_injective hoperation
  cases Dependencies.refItems_injective hrefs
  rfl

/-- The texts of authorities. -/
def authorityTexts (authorities : List (LineageAuthorityAssertion py)) : List (List Char) :=
  authorities.map fun a => (authorization a).dumps

/-- Authorities with one reference are one. -/
theorem eq_of_assertionRef {texts : List (List Char)} (hfree : Apart py texts) {a b : LineageAuthorityAssertion py}
    (ha : (authorization a).dumps ∈ texts) (hb : (authorization b).dumps ∈ texts) (h : a.assertionRef = b.assertionRef) :
    a = b := by
  have hdigest : digestOf py (authorization a) = digestOf py (authorization b) :=
    a.bound.symm.trans ((congrArg EvidenceRef.contentDigest h).trans b.bound)
  have hhash : py.hexdigest (authorization a).dumps = py.hexdigest (authorization b).dumps :=
    String.append_right_inj _ |>.mp (EvidenceContentDigest.mk.inj hdigest)
  exact authorization_inj (hfree _ ha _ hb hhash) h

theorem sortAuthorities_perm {authorities authorities' : List (LineageAuthorityAssertion py)}
    (hfree : Apart py (authorityTexts authorities)) (hp : authorities.Perm authorities') :
    sortAuthorities authorities = sortAuthorities authorities' :=
  insertionSort_eq_of_perm (fun _ _ => le_total _ _) (fun _ _ _ => le_trans)
    (fun _ ha _ hb hab hba => eq_of_assertionRef hfree (List.mem_map_of_mem ha) (List.mem_map_of_mem hb)
      (Evidence.dumps_injective (le_antisymm hab hba))) hp

/-- What the operation requires depends on whether there are authorities. -/
theorem checkOperation_congr {n : ActionFacts} {authorities authorities' : List (LineageAuthorityAssertion py)}
    (h : authorities = [] ↔ authorities' = []) : checkOperation py n authorities = checkOperation py n authorities' := by
  unfold checkOperation
  split
  · exact raiseIf_congr (or_congr_right (or_congr_right (not_congr h)))
  · simp only [raiseIf_congr h]

/-- The references of authorities depend on which authorities there are. -/
theorem authorityRefs_congr {authorities authorities' : List (LineageAuthorityAssertion py)}
    (h : ∀ a, a ∈ authorities ↔ a ∈ authorities') (hl : authorities'.length ≤ maxEvidenceRefs) {refs : List EvidenceRef}
    (hrefs : authorityRefs py (sortAuthorities authorities) = .ok refs) :
    authorityRefs py (sortAuthorities authorities') = .ok refs := by
  have hmem : ∀ a, a ∈ sortAuthorities authorities ↔ a ∈ sortAuthorities authorities' := by
    simpa only [sortAuthorities, List.mem_insertionSort] using h
  have hlength : (sortAuthorities authorities').length ≤ maxEvidenceRefs := by
    rwa [sortAuthorities, List.length_insertionSort]
  have hnil : sortAuthorities authorities = [] ↔ sortAuthorities authorities' = [] := by
    simp only [List.eq_nil_iff_forall_not_mem, hmem]
  unfold authorityRefs at hrefs ⊢
  by_cases hn : sortAuthorities authorities = []
  · rw [if_pos hn] at hrefs
    rwa [if_pos (hnil.mp hn)]
  · rw [if_neg hn, mapError_eq_ok] at hrefs
    rw [if_neg (mt hnil.mpr hn), mapError_eq_ok]
    refine Evidence.canonicalize_congr (fun e => ?_) (by rwa [List.length_map]) hrefs
    simp only [List.mem_map, hmem]

/-- The call with other collections of the same members, with the authorities in another order or repeated. -/
theorem createActionVersion_congr {facts : ActionFacts} {authorities authorities' : List (LineageAuthorityAssertion py)}
    {v : CorporateActionVersion py} (h : createActionVersion py facts authorities = .ok v)
    {providers : List ProviderNativeActionRef} {sources : List EvidenceRef}
    (hproviders : ∀ r, r ∈ facts.providerNativeRefs ↔ r ∈ providers)
    (hsources : ∀ e, e ∈ facts.sourceEvidenceRefs ↔ e ∈ sources) (hl : sources.length ≤ maxEvidenceRefs)
    (hauthorities : ∀ a, a ∈ authorities ↔ a ∈ authorities') (hlength : authorities'.length ≤ maxEvidenceRefs) :
    createActionVersion py { facts with providerNativeRefs := providers, sourceEvidenceRefs := sources } authorities' =
      .ok { v with lineageAuthorities := sortAuthorities authorities' } := by
  obtain ⟨n, refs, hn, hoperation, hall, hrefs, hmade⟩ := createActionVersion_eq_ok.mp h
  have hnil : authorities = [] ↔ authorities' = [] := by
    simp only [List.eq_nil_iff_forall_not_mem, hauthorities]
  exact createActionVersion_eq_ok.mpr ⟨n, refs, normalize_congr hn hproviders hsources hl,
    checkOperation_congr hnil ▸ hoperation, fun hop a ha => hall hop a ((hauthorities a).mpr ha),
    authorityRefs_congr hauthorities hlength hrefs, hmade.withAuthorities _⟩

/-- An authority is among the references that are kept of it. -/
theorem mem_authorityRefs {authorities : List (LineageAuthorityAssertion py)} {refs : List EvidenceRef}
    (h : authorityRefs py authorities = .ok refs) (e : EvidenceRef) : e ∈ refs ↔ ∃ a ∈ authorities, a.assertionRef = e := by
  unfold authorityRefs at h
  split at h
  · rename_i hn
    cases h
    simp [hn]
  · rw [Evidence.mem_canonicalize (mapError_eq_ok.mp h), List.mem_map]

/-! ## Identities -/

/-- The texts that the identity of a version rests on: its body and its authorities. -/
def texts (v : CorporateActionVersion py) : List (List Char) := (bodyOf v).dumps :: authorityTexts v.lineageAuthorities

theorem bodyOf_made {n : ActionFacts} {authorities : List (LineageAuthorityAssertion py)} {refs : List EvidenceRef}
    {v : CorporateActionVersion py} (h : Made n authorities refs v)
    (hrefs : authorityRefs py (sortAuthorities authorities) = .ok refs) : bodyOf v = versionMapping n refs := by
  rw [bodyOf, h.facts, h.authorities, hrefs]
  rfl

/-- Versions with one identity have one body. -/
theorem body_of_id {v w : CorporateActionVersion py} (hv : Created v) (hw : Created w) (hfree : Apart py (texts v ++ texts w))
    (h : v.actionVersionId = w.actionVersionId) : (bodyOf v).dumps = (bodyOf w).dumps := by
  rw [hv.spec.1, hw.spec.1] at h
  have hhash : py.hexdigest (bodyOf v).dumps = py.hexdigest (bodyOf w).dumps :=
    String.append_right_inj _ |>.mp (ActionVersionId.mk.inj h)
  exact hfree _ (List.mem_append_left _ (List.mem_cons_self ..)) _ (List.mem_append_right _ (List.mem_cons_self ..)) hhash

/-- Versions with one identity agree in everything, and have the same authorities. -/
theorem contents_of_id {v w : CorporateActionVersion py} (hv : Created v) (hw : Created w)
    (hfree : Apart py (texts v ++ texts w)) (h : v.actionVersionId = w.actionVersionId) :
    { v with lineageAuthorities := w.lineageAuthorities } = w ∧
      ∀ a, a ∈ v.lineageAuthorities ↔ a ∈ w.lineageAuthorities := by
  have hbody := body_of_id hv hw hfree h
  obtain ⟨facts, authorities, hv⟩ := hv
  obtain ⟨facts', authorities', hw⟩ := hw
  obtain ⟨n, refs, -, -, -, hrefs, hmade⟩ := createActionVersion_eq_ok.mp hv
  obtain ⟨n', refs', -, -, -, hrefs', hmade'⟩ := createActionVersion_eq_ok.mp hw
  rw [bodyOf_made hmade hrefs, bodyOf_made hmade' hrefs'] at hbody
  obtain ⟨rfl, rfl⟩ := versionMapping_inj hbody
  refine ⟨made_unique hmade hmade', fun a => ?_⟩
  have htext : ∀ x : CorporateActionVersion py, ∀ b ∈ x.lineageAuthorities, (authorization b).dumps ∈ texts x :=
    fun x b hb => List.mem_cons_of_mem _ (List.mem_map_of_mem hb)
  have hmem := mem_authorityRefs hrefs
  have hmem' := mem_authorityRefs hrefs'
  rw [← hmade.authorities] at hmem
  rw [← hmade'.authorities] at hmem'
  constructor
  · intro ha
    obtain ⟨b, hb, hab⟩ := (hmem' _).mp ((hmem _).mpr ⟨a, ha, rfl⟩)
    rwa [eq_of_assertionRef hfree (List.mem_append_left _ (htext v a ha)) (List.mem_append_right _ (htext w b hb)) hab.symm]
  · intro ha
    obtain ⟨b, hb, hab⟩ := (hmem _).mp ((hmem' _).mpr ⟨a, ha, rfl⟩)
    rwa [eq_of_assertionRef hfree (List.mem_append_right _ (htext w a ha)) (List.mem_append_left _ (htext v b hb)) hab.symm]

theorem length_of_authorityRefs {authorities : List (LineageAuthorityAssertion py)} {refs : List EvidenceRef}
    (h : authorityRefs py authorities = .ok refs) : authorities.length ≤ maxEvidenceRefs := by
  unfold authorityRefs at h
  split at h
  · rename_i hn
    rw [hn]
    exact Nat.zero_le _
  · have hl := (Evidence.canonicalize_eq_ok (mapError_eq_ok.mp h)).1
    rwa [List.length_map] at hl

/-- The order of the authorities does not matter, nor do the order and the repetitions of the references. -/
theorem createActionVersion_perm {facts : ActionFacts} {authorities authorities' : List (LineageAuthorityAssertion py)}
    {v : CorporateActionVersion py} (h : createActionVersion py facts authorities = .ok v)
    (hfree : Apart py (authorityTexts authorities)) {providers : List ProviderNativeActionRef} {sources : List EvidenceRef}
    (hproviders : ∀ r, r ∈ facts.providerNativeRefs ↔ r ∈ providers)
    (hsources : ∀ e, e ∈ facts.sourceEvidenceRefs ↔ e ∈ sources) (hl : sources.length ≤ maxEvidenceRefs)
    (hp : authorities.Perm authorities') :
    createActionVersion py { facts with providerNativeRefs := providers, sourceEvidenceRefs := sources } authorities' =
      .ok v := by
  obtain ⟨n, refs, -, -, -, hrefs, hmade⟩ := createActionVersion_eq_ok.mp h
  have hlength : authorities'.length ≤ maxEvidenceRefs := by
    have hsorted := length_of_authorityRefs hrefs
    rw [sortAuthorities, List.length_insertionSort] at hsorted
    exact hp.length_eq ▸ hsorted
  rw [createActionVersion_congr h hproviders hsources hl (fun _ => hp.mem_iff) hlength, ← sortAuthorities_perm hfree hp,
    ← hmade.authorities]

/-- Versions with one identity whose authorities differ in their order at most are one. -/
theorem eq_of_id {v w : CorporateActionVersion py} (hv : Created v) (hw : Created w) (hfree : Apart py (texts v ++ texts w))
    (h : v.actionVersionId = w.actionVersionId) (hp : v.lineageAuthorities.Perm w.lineageAuthorities) : v = w := by
  have hcontents := (contents_of_id hv hw hfree h).1
  obtain ⟨facts, authorities, hv⟩ := hv
  obtain ⟨facts', authorities', hw⟩ := hw
  obtain ⟨n, refs, -, -, -, -, hmade⟩ := createActionVersion_eq_ok.mp hv
  obtain ⟨n', refs', -, -, -, -, hmade'⟩ := createActionVersion_eq_ok.mp hw
  have hgiven : v.lineageAuthorities.Perm authorities := hmade.authorities ▸ List.perm_insertionSort _ _
  have hgiven' : w.lineageAuthorities.Perm authorities' := hmade'.authorities ▸ List.perm_insertionSort _ _
  have hsame : v.lineageAuthorities = w.lineageAuthorities := by
    have hfree' : Apart py (authorityTexts authorities) := fun s hs t ht => by
      have hsub : ∀ x ∈ authorityTexts authorities, x ∈ texts v ++ texts w := fun x hx =>
        List.mem_append_left _ (List.mem_cons_of_mem _ ((hgiven.map _).mem_iff.mpr hx))
      exact hfree s (hsub s hs) t (hsub t ht)
    rw [hmade.authorities, hmade'.authorities]
    exact sortAuthorities_perm hfree' (hgiven.symm.trans (hp.trans hgiven'))
  rw [← hsame] at hcontents
  exact hcontents

/-- The authorities of a successor are for its facts. -/
theorem successor_authorities {facts : ActionFacts} {authorities : List (LineageAuthorityAssertion py)}
    {v : CorporateActionVersion py} (h : createActionVersion py facts authorities = .ok v) (hop : facts.operation ≠ .original) :
    authorities ≠ [] ∧ ∀ a ∈ authorities, a ∈ v.lineageAuthorities ∧ a.operation = v.operation ∧
      a.canonicalActionId = v.canonicalActionId ∧ some a.predecessorVersionId = v.predecessorVersionId ∧
      a.successorFactsDigest = v.factsDigest ∧ computeActionFactsDigest py facts = .ok a.successorFactsDigest := by
  obtain ⟨n, refs, hn, hoperation, hall, -, hmade⟩ := createActionVersion_eq_ok.mp h
  have hop' : n.operation ≠ .original := fun e => hop ((factsOf_normalize hn).symm.trans e)
  refine ⟨?_, fun a ha => ?_⟩
  · rw [checkOperation, if_neg hop'] at hoperation
    obtain ⟨-, hoperation⟩ := raiseIf_bind_eq_ok.mp hoperation
    obtain ⟨-, -, hoperation⟩ := bind_eq_ok.mp hoperation
    exact raiseIf_eq_ok.mp hoperation
  · obtain ⟨hsame, haction, hpredecessor, hdigest⟩ := hall hop' a ha
    have hfacts := hmade.facts
    refine ⟨?_, ?_, ?_, ?_, hdigest.trans hmade.digest.symm, ?_⟩
    · rw [hmade.authorities, sortAuthorities, List.mem_insertionSort]
      exact ha
    · exact hsame.trans (congrArg ActionFacts.operation hfacts).symm
    · exact haction.trans (congrArg (fun f => f.action.canonicalActionId) hfacts).symm
    · exact hpredecessor.trans (congrArg ActionFacts.predecessorVersionId hfacts).symm
    · rw [computeActionFactsDigest, hn, ok_bind, hdigest]
      rfl

namespace Sample

def entry : AffectedDependency :=
  ⟨.calendarVersion, evidence "evidence:a/dependency", [⟨Resolution.Sample.uuid 1⟩], none, none, "moved",
    [evidence "evidence:a/entry"]⟩

def source : EvidenceRef := evidence "evidence:a/source"

theorem created_correction : createActionVersion platform correction [authority] = .ok once :=
  ok_of_toOption (Option.some_get corrected_isSome.1).symm

theorem created_repeated : createActionVersion platform correction [authority, authority] = .ok twice :=
  ok_of_toOption (Option.some_get corrected_isSome.2).symm

theorem apart_replicate (texts : List (List Char)) (text : List Char) (h : ∀ t ∈ texts, t = text) : Apart platform texts :=
  fun s hs t ht _ => (h s hs).trans (h t ht).symm

end Sample

end ATB.Proof.Lineages
