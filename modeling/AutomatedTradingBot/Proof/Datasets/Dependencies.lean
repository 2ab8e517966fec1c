import AutomatedTradingBot.Framework.Collect
import AutomatedTradingBot.Proof.Evidence
import AutomatedTradingBot.Source.Datasets.Dependencies

/-!
# Provenance graphs are acyclic and canonical

* `uniqueById_of_consistent`, `uniqueById_of_conflict`: the values of a collection once
  each, in the order of their identities, or a conflict of two of them;
* `assertAcyclic_eq_ok`: the check accepts exactly the graphs without a cycle;
* `buildDependencyGraph_congr`: a graph depends on the members of its inputs only.
-/

namespace ATB.Proof.Dependencies

open Datasets Instruments Json Evidence

/-! ## Bodies -/

theorem sorted_refItems (l : List EvidenceRef) : Sorted (refItems l) :=
  sorted_arr fun j hj => by
    obtain ⟨e, -, rfl⟩ := List.mem_map.mp hj
    exact sorted_mapping e

theorem refItems_injective : Function.Injective refItems := fun _ _ h =>
  mapping_injective.list_map (Json.arr.inj h)

variable {py : Platform}

/-- A body of texts and evidence is sorted. -/
theorem sorted_body {fs : List (String × Json)} (h : ∀ f ∈ fs, (∃ t, f.2 = .str t) ∨ ∃ l, f.2 = refItems l) :
    Sorted (obj fs) :=
  sorted_obj fun f hf => by
    rcases h f hf with ⟨t, e⟩ | ⟨l, e⟩ <;> rw [e]
    · exact sorted_str t
    · exact sorted_refItems l

/-- Nodes with one canonical body are one node. -/
theorem node_inj {m n : ProvenanceNode py} (h : m.body.dumps = n.body.dumps) : m = n := by
  have hs : ∀ k : ProvenanceNode py, Sorted k.body := fun k => sorted_body (by simp)
  have hv := obj_inj ["evidence_refs", "kind", "node_id", "subject_identity"] (by decide)
    [refItems m.evidenceRefs, .str m.kind, .str m.nodeId.value, .str m.subjectIdentity]
    [refItems n.evidenceRefs, .str n.kind, .str n.nodeId.value, .str n.subjectIdentity] rfl rfl (dumps_inj (hs m) (hs n) h)
  obtain ⟨mid, mkind, msubject, mrefs, _, _, _, _⟩ := m
  obtain ⟨nid, nkind, nsubject, nrefs, _, _, _, _⟩ := n
  simp only [List.cons.injEq, Json.str.injEq, and_true] at hv
  obtain ⟨hrefs, rfl, hid, rfl⟩ := hv
  cases refItems_injective hrefs
  cases OpaqueId.value_injective hid
  rfl

theorem edge_inj {m n : ProvenanceEdge py} (h : m.body.dumps = n.body.dumps) : m = n := by
  have hs : ∀ k : ProvenanceEdge py, Sorted k.body := fun k => sorted_body (by simp)
  have hv := obj_inj ["edge_id", "evidence_refs", "relation", "source", "target"] (by decide)
    [.str m.edgeId.value, refItems m.evidenceRefs, .str m.relation, .str m.source.value, .str m.target.value]
    [.str n.edgeId.value, refItems n.evidenceRefs, .str n.relation, .str n.source.value, .str n.target.value] rfl rfl
    (dumps_inj (hs m) (hs n) h)
  obtain ⟨mid, msource, mtarget, mrelation, mrefs, _, _, _, _⟩ := m
  obtain ⟨nid, nsource, ntarget, nrelation, nrefs, _, _, _, _⟩ := n
  simp only [List.cons.injEq, Json.str.injEq, and_true] at hv
  obtain ⟨hid, hrefs, rfl, hsource, htarget⟩ := hv
  cases refItems_injective hrefs
  cases OpaqueId.value_injective hid
  cases OpaqueId.value_injective hsource
  cases OpaqueId.value_injective htarget
  rfl

theorem dependency_inj {m n : DependencyRef} (h : m.body.dumps = n.body.dumps) : m = n := by
  have hs : ∀ k : DependencyRef, Sorted k.body := fun k => sorted_body (by simp)
  have hv := obj_inj ["content_digest", "dependency_id", "evidence_refs"] (by decide)
    [.str m.contentDigest.value, .str m.dependencyId.value, refItems m.evidenceRefs]
    [.str n.contentDigest.value, .str n.dependencyId.value, refItems n.evidenceRefs] rfl rfl (dumps_inj (hs m) (hs n) h)
  obtain ⟨mid, ⟨mdigest⟩, mrefs, _⟩ := m
  obtain ⟨nid, ⟨ndigest⟩, nrefs, _⟩ := n
  simp only [List.cons.injEq, Json.str.injEq, and_true] at hv
  obtain ⟨rfl, hid, hrefs⟩ := hv
  cases refItems_injective hrefs
  cases OpaqueId.value_injective hid
  rfl

/-! ## Collections -/

/-- For a key that tells the members apart, the sorted set depends only on them. -/
theorem sortedSetOn_congr_on {α κ : Type} [DecidableEq α] [LinearOrder κ] {key : α → κ} {l l' : List α}
    (hkey : ∀ a ∈ l, ∀ b ∈ l, key a = key b → a = b) (h : ∀ a, a ∈ l ↔ a ∈ l') : sortedSetOn key l = sortedSetOn key l' := by
  refine insertionSort_key_eq_of_perm ?_ ((List.perm_ext_iff_of_nodup l.nodup_dedup l'.nodup_dedup).mpr fun a => ?_)
  · exact l.nodup_dedup.map_on fun a ha b hb => hkey a (List.mem_dedup.mp ha) b (List.mem_dedup.mp hb)
  · rw [List.mem_dedup, List.mem_dedup, h a]

section Unique

variable {α ε : Type} [DecidableEq α] {conflict : ε} {identity : α → String} {body : α → Json} {values values' : List α}

omit [DecidableEq α] in
/-- The loop is that of the library, with the bodies compared. -/
theorem uniqueById_eq : uniqueById conflict identity body values =
    (Collect.collect conflict identity (fun a b => decide ((body a).dumps ≠ (body b).dumps)) values >>= fun found =>
      pure ((Dict.values found).insertionSort fun a b => identity a ≤ identity b)) := rfl

omit [DecidableEq α] in
theorem tells_body (hbody : ∀ a b, (body a).dumps = (body b).dumps → a = b) :
    Collect.Tells identity fun a b => decide ((body a).dumps ≠ (body b).dumps) := fun a b _ => by
  rw [decide_eq_true_iff]
  exact not_congr ⟨hbody a b, fun h => by rw [h]⟩

/-- What is kept is sorted as the sorted set is. -/
theorem insertionSort_found {found : List (String × α)} (hf : Collect.Found identity found)
    (hm : ∀ x, x ∈ Dict.values found ↔ x ∈ values) :
    (Dict.values found).insertionSort (fun a b => identity a ≤ identity b) = sortedSetOn identity values := by
  refine insertionSort_key_eq_of_perm hf.key_nodup ?_
  refine (List.perm_ext_iff_of_nodup hf.key_nodup.of_map values.nodup_dedup).mpr fun x => ?_
  rw [hm, List.mem_dedup]

/-- A consistent collection: its values once each, in the order of their identities. -/
theorem uniqueById_of_consistent (hbody : ∀ a b, (body a).dumps = (body b).dumps → a = b)
    (h : Collect.Consistent identity values) : uniqueById conflict identity body values = .ok (sortedSetOn identity values) := by
  obtain ⟨found, hr, hf, hm⟩ := Collect.collect_of_consistent conflict (tells_body hbody) h
  rw [uniqueById_eq, hr, ok_bind, pure_eq_ok, insertionSort_found hf hm]

omit [DecidableEq α] in
theorem uniqueById_of_conflict (hbody : ∀ a b, (body a).dumps = (body b).dumps → a = b)
    (h : ¬ Collect.Consistent identity values) : uniqueById conflict identity body values = .error conflict := by
  rw [uniqueById_eq, Collect.collect_of_conflict (tells_body hbody) h, error_bind]

theorem uniqueById_eq_ok (hbody : ∀ a b, (body a).dumps = (body b).dumps → a = b) {l : List α}
    (h : uniqueById conflict identity body values = .ok l) : l = sortedSetOn identity values := by
  by_cases hc : Collect.Consistent identity values
  · rw [uniqueById_of_consistent hbody hc] at h
    exact (Except.ok.inj h).symm
  · rw [uniqueById_of_conflict hbody hc] at h
    cases h

/-- The members of a collection determine what is made of it. -/
theorem uniqueById_congr (hbody : ∀ a b, (body a).dumps = (body b).dumps → a = b) (h : ∀ x, x ∈ values ↔ x ∈ values') :
    uniqueById conflict identity body values = uniqueById conflict identity body values' := by
  by_cases hc : Collect.Consistent identity values
  · rw [uniqueById_of_consistent hbody hc, uniqueById_of_consistent hbody (hc.congr h), sortedSetOn_congr_on hc h]
  · have hc' : ¬ Collect.Consistent identity values' := fun hc' => hc (hc'.congr fun x => (h x).symm)
    rw [uniqueById_of_conflict hbody hc, uniqueById_of_conflict hbody hc']

end Unique

/-! ## The graph -/

/-- An edge leads from `a` to `b`. -/
def Precedes (edges : List (ProvenanceEdge py)) (a b : ProvenanceNodeId) : Prop :=
  ∃ e ∈ edges, e.source = a ∧ e.target = b

def Acyclic (edges : List (ProvenanceEdge py)) : Prop := ∀ id, ¬ Relation.TransGen (Precedes edges) id id

theorem edge_arrows (edges : List (ProvenanceEdge py)) : Topological.Edge (arrows edges) = Precedes edges := by
  funext a b
  simp [Topological.Edge, arrows, Precedes]

/-- The check accepts exactly the edges between known nodes, each listed once, that have no cycle. -/
theorem assertAcyclic_eq_ok {nodes : List (ProvenanceNode py)} {edges : List (ProvenanceEdge py)} :
    assertAcyclic nodes edges = .ok () ↔
      (∀ e ∈ edges, e.source ∈ nodes.map (·.nodeId) ∧ e.target ∈ nodes.map (·.nodeId)) ∧
        (nodes.map (·.nodeId)).Nodup ∧ Acyclic edges := by
  have hends : (¬ ∃ e ∈ edges, e.source ∉ nodes.map (·.nodeId) ∨ e.target ∉ nodes.map (·.nodeId)) ↔
      ∀ e ∈ edges, e.source ∈ nodes.map (·.nodeId) ∧ e.target ∈ nodes.map (·.nodeId) := by
    push Not
    rfl
  unfold assertAcyclic
  rw [raiseIf_bind_eq_ok, hends]
  refine and_congr_right fun hk => ?_
  have hk' : ∀ p ∈ arrows edges, p.1 ∈ nodes.map (·.nodeId) ∧ p.2 ∈ nodes.map (·.nodeId) := fun p hp => by
    obtain ⟨e, he, rfl⟩ := List.mem_map.mp hp
    exact hk e he
  have hv := Topological.visited_rounds_iff OpaqueId.value hk'
  rw [edge_arrows, List.length_map] at hv
  dsimp only
  rw [raiseIf_eq_ok, not_not]
  exact hv

/-- The inputs that are compared have the same members. -/
structure SameMembers (inputs inputs' : GraphInputs py) : Prop where
  nodes : ∀ x, x ∈ inputs.nodes ↔ x ∈ inputs'.nodes
  edges : ∀ x, x ∈ inputs.edges ↔ x ∈ inputs'.edges
  dependencies : ∀ x, x ∈ inputs.dependencies ↔ x ∈ inputs'.dependencies
  requiredDependencies : ∀ x, x ∈ inputs.requiredDependencies ↔ x ∈ inputs'.requiredDependencies

theorem buildDependencyGraph_congr {policy : DatasetLifecycleResourcePolicy} {inputs inputs' : GraphInputs py}
    (h : SameMembers inputs inputs') (hl : inputs.checkLimits policy = .ok ()) (hl' : inputs'.checkLimits policy = .ok ()) :
    buildDependencyGraph inputs (some policy) = buildDependencyGraph inputs' (some policy) := by
  have hrequired : ∀ ids : List DependencyId,
      (∃ r ∈ inputs.requiredDependencies, r ∉ ids) ↔ ∃ r ∈ inputs'.requiredDependencies, r ∉ ids := fun ids =>
    exists_congr fun r => and_congr_left fun _ => h.requiredDependencies r
  unfold buildDependencyGraph
  simp only [orRaise, ok_bind, hl, hl', uniqueById_congr (fun _ _ => node_inj) h.nodes,
    uniqueById_congr (fun _ _ => edge_inj) h.edges, uniqueById_congr (fun _ _ => dependency_inj) h.dependencies,
    raiseIf_congr (hrequired _)]

/-- A graph that is built passed the check. -/
theorem assertAcyclic_of_build {policy : Option DatasetLifecycleResourcePolicy} {inputs : GraphInputs py}
    {graph : ProvenanceGraph py} (h : buildDependencyGraph inputs policy = .ok graph) :
    assertAcyclic graph.nodes graph.edges = .ok () := by
  unfold buildDependencyGraph at h
  obtain ⟨p, -, h⟩ := bind_eq_ok.mp h
  obtain ⟨-, -, h⟩ := bind_eq_ok.mp h
  obtain ⟨nodes, -, h⟩ := bind_eq_ok.mp h
  obtain ⟨edges, -, h⟩ := bind_eq_ok.mp h
  obtain ⟨dependencies, -, h⟩ := bind_eq_ok.mp h
  obtain ⟨-, h⟩ := raiseIf_bind_eq_ok.mp h
  obtain ⟨⟨⟩, ha, h⟩ := bind_eq_ok.mp h
  cases pure_eq_ok.mp h
  exact ha

theorem dependency_graph_canonical :
    (∀ (nodes : List (ProvenanceNode py)) (edges : List (ProvenanceEdge py)),
      assertAcyclic nodes edges = .ok () ↔
        (∀ e ∈ edges, e.source ∈ nodes.map (·.nodeId) ∧ e.target ∈ nodes.map (·.nodeId)) ∧
          (nodes.map (·.nodeId)).Nodup ∧ Acyclic edges) ∧
    (∀ (policy : Option DatasetLifecycleResourcePolicy) (inputs : GraphInputs py) (graph : ProvenanceGraph py),
      buildDependencyGraph inputs policy = .ok graph → Acyclic graph.edges) ∧
    ∀ (policy : DatasetLifecycleResourcePolicy) (inputs inputs' : GraphInputs py), SameMembers inputs inputs' →
      inputs.checkLimits policy = .ok () → inputs'.checkLimits policy = .ok () →
      buildDependencyGraph inputs (some policy) = buildDependencyGraph inputs' (some policy) :=
  ⟨fun _ _ => assertAcyclic_eq_ok, fun _ _ _ h => (assertAcyclic_eq_ok.mp (assertAcyclic_of_build h)).2.2,
    fun _ _ _ => buildDependencyGraph_congr⟩

/-! ## Sample -/

namespace Sample

def platform : Platform := ⟨fun _ => true, fun s => ⟨s.length % 2 ^ 256, Nat.mod_lt _ (by decide)⟩⟩

def evidenceRef : EvidenceRef :=
  ⟨"source:a/b", "dataset:a/b", "evidence:a/b", ⟨"sha256:00"⟩⟩

def node (kind : String) (h : platform.text "node kind" kind = .ok ()) : ProvenanceNode platform where
  nodeId := nodeIdOf platform kind "subject" [evidenceRef]
  kind
  subjectIdentity := "subject"
  evidenceRefs := [evidenceRef]
  kindText := h
  subjectText := rfl
  refs := ⟨[evidenceRef], rfl⟩
  content := rfl

def source : ProvenanceNode platform := node "raw" rfl
def target : ProvenanceNode platform := node "derived" rfl

theorem source_ne_target : source.nodeId ≠ target.nodeId := by decide +kernel

def edge : ProvenanceEdge platform where
  edgeId := edgeIdOf platform source.nodeId target.nodeId "DERIVES" [evidenceRef]
  source := source.nodeId
  target := target.nodeId
  relation := "DERIVES"
  evidenceRefs := [evidenceRef]
  noSelfEdge := source_ne_target
  relationText := rfl
  refs := ⟨[evidenceRef], rfl⟩
  content := rfl

def limits : DatasetLifecycleResourcePolicy :=
  ⟨⟨"policy", by decide⟩, fun _ => 8, none, fun _ => by decide, fun _ h => by cases h⟩

def inputs : GraphInputs platform := ⟨[source, target], [edge], [], []⟩
def reordered : GraphInputs platform := ⟨[target, source, target], [edge, edge], [], []⟩

theorem mem_repeated {α : Type} (x a b : α) : x ∈ [a, b] ↔ x ∈ [b, a, b] := by
  simp only [List.mem_cons, List.not_mem_nil, or_false]
  tauto

end Sample

theorem dependency_graph_canonical_sample :
    assertAcyclic [Sample.source, Sample.target] [Sample.edge] = .ok () ∧ Acyclic [Sample.edge] ∧
      buildDependencyGraph Sample.inputs (some Sample.limits) = buildDependencyGraph Sample.reordered (some Sample.limits) := by
  obtain ⟨hcheck, -, hcongr⟩ := @dependency_graph_canonical Sample.platform
  have hok : assertAcyclic [Sample.source, Sample.target] [Sample.edge] = .ok () := by decide +kernel
  refine ⟨hok, ((hcheck _ _).mp hok).2.2, hcongr Sample.limits _ _ ⟨?_, ?_, fun _ => Iff.rfl, fun _ => Iff.rfl⟩ rfl rfl⟩
  · exact fun x => Sample.mem_repeated x Sample.source Sample.target
  · intro x
    simp only [Sample.inputs, Sample.reordered, List.mem_cons, List.not_mem_nil, or_false, or_self]

end ATB.Proof.Dependencies
