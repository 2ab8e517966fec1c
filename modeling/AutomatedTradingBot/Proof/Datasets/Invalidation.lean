import AutomatedTradingBot.Framework.BreadthFirst
import AutomatedTradingBot.Proof.Datasets.Dependencies
import AutomatedTradingBot.Source.Datasets.Currentness

/-!
# Invalidation is reachability

* `Excuse`: why a search may end early, with the reason that it gives;
* `follow_keeps`, `expand_keeps`, `search_ends`: an edge, a round and the whole search
  keep the invariant of the breadth-first search, or end with an excuse;
* `invalidation_exact`: a complete assessment affects exactly what can be reached from
  the changed nodes, and the order of the triggers does not matter.
-/

namespace ATB.Proof.Invalidation

open Datasets Dependencies BreadthFirst Json

local instance lawfulBEq_identity {kind : IdKind} : LawfulBEq (OpaqueId kind) := inferInstance

variable {py : Platform} {graph : ProvenanceGraph py} {policy : DatasetLifecycleResourcePolicy}
  {roots done : List ProvenanceNodeId} {s s' : Search}

/-- Reached by one edge or more, and not changed itself. -/
def Affected (graph : ProvenanceGraph py) (roots : List ProvenanceNodeId) (x : ProvenanceNodeId) : Prop :=
  x ∉ roots ∧ ∃ a ∈ roots, Relation.TransGen (Precedes graph.edges) a x

theorem affected_iff {x : ProvenanceNodeId} :
    Affected graph roots x ↔ Reached (Precedes graph.edges) roots x ∧ x ∉ roots := by
  constructor
  · rintro ⟨hx, a, ha, h⟩
    exact ⟨⟨a, ha, h.to_reflTransGen⟩, hx⟩
  · rintro ⟨⟨a, ha, h⟩, hx⟩
    rcases Relation.reflTransGen_iff_eq_or_transGen.mp h with rfl | h
    · exact absurd ha hx
    · exact ⟨hx, a, ha, h⟩

/-- Why a search may end before its queue is empty. -/
inductive Excuse (graph : ProvenanceGraph py) (policy : DatasetLifecycleResourcePolicy) (roots : List ProvenanceNodeId) :
    String → Prop
  | relation {e : ProvenanceEdge py} (he : e ∈ graph.edges) (hr : Reached (Precedes graph.edges) roots e.source)
      (h : e.relation ≠ "DERIVES") : Excuse graph policy roots "INVALIDATION_RELATION_SEMANTICS_NOT_ESTABLISHED"
  | depth {e : ProvenanceEdge py} {d : Nat} (he : e ∈ graph.edges) (hd : Nearest (Precedes graph.edges) roots d e.source)
      (h : policy.value .maxInvalidationTraversalDepth ≤ d) :
      Excuse graph policy roots "MAX_INVALIDATION_TRAVERSAL_DEPTH_EXHAUSTED"
  | events {l : List (ProvenanceEdge py)} (hl : l.Sublist graph.edges)
      (hr : ∀ e ∈ l, Reached (Precedes graph.edges) roots e.source)
      (h : policy.value .maxPropagationEventsPerRun < l.length) :
      Excuse graph policy roots "MAX_PROPAGATION_EVENTS_PER_RUN_EXHAUSTED"
  | members {l : List ProvenanceNodeId} (hn : l.Nodup) (ha : ∀ x ∈ l, Affected graph roots x)
      (h : policy.value .maxAffectedSetMembers < l.length) :
      Excuse graph policy roots "MAX_AFFECTED_SET_MEMBERS_EXHAUSTED"

/-- A search that goes on has `G`, and one that ends early an excuse. -/
def Searched (graph : ProvenanceGraph py) (policy : DatasetLifecycleResourcePolicy) (roots : List ProvenanceNodeId)
    (G : Search → Prop) : Searching Search → Prop
  | .ok s => G s
  | .error (reason, _) => Excuse graph policy roots reason

theorem Searched.bind {G H : Search → Prop} {x : Searching Search} {f : Search → Searching Search}
    (hx : Searched graph policy roots G x) (hf : ∀ s, G s → Searched graph policy roots H (f s)) :
    Searched graph policy roots H (x >>= f) := by
  cases x with
  | ok s => exact hf s hx
  | error e => exact hx

theorem Searched.check {G : Search → Prop} {c : Prop} [Decidable c] {reason : String} {f : Unit → Searching Search}
    (hc : c → Excuse graph policy roots reason) (hf : ¬ c → Searched graph policy roots G (f ())) :
    Searched graph policy roots G (raiseIf c (reason, s) >>= f) := by
  by_cases h : c
  · rw [raiseIf_of h]
    exact hc h
  · rw [raiseIf_of_not h]
    exact hf h

/-! ## One edge -/

theorem mem_outgoing {x t : ProvenanceNodeId} {relation : String} :
    (t, relation) ∈ outgoing graph x ↔ ∃ e ∈ graph.edges, e.source = x ∧ e.target = t ∧ e.relation = relation := by
  simp only [outgoing, List.mem_insertionSort, List.mem_map, List.mem_filter, decide_eq_true_eq, Prod.mk.injEq]
  simp only [and_assoc]

theorem length_outgoing (x : ProvenanceNodeId) : (outgoing graph x).length = graph.edges.countP fun e => e.source = x := by
  rw [outgoing, List.length_insertionSort, List.length_map, List.countP_eq_length_filter]

/-- The edges of the nodes that are done. -/
def followed (graph : ProvenanceGraph py) (done : List ProvenanceNodeId) : Nat :=
  graph.edges.countP fun e => e.source ∈ done

theorem followed_append {x : ProvenanceNodeId} (h : x ∉ done) :
    followed graph (done ++ [x]) = followed graph done + (outgoing graph x).length := by
  rw [length_outgoing, followed, followed]
  induction graph.edges with
  | nil => rfl
  | cons e edges ih =>
    simp only [List.countP_cons, ih]
    by_cases hx : e.source = x
    · simp [hx, h]
      omega
    · by_cases hd : e.source ∈ done <;> simp [hx, hd]
      omega

/-- The breadth-first search with the queue `queue`, and the affected nodes. -/
structure Kept (graph : ProvenanceGraph py) (roots done : List ProvenanceNodeId) (queue : List (ProvenanceNodeId × Nat))
    (s : Search) : Prop where
  search : Invariant (Precedes graph.edges) roots done s.visited queue
  affected : ∀ x, x ∈ s.affected ↔ x ∈ s.visited ∧ x ∉ roots
  nodup : s.affected.Nodup

theorem Kept.affected_of_mem {queue : List (ProvenanceNodeId × Nat)} (h : Kept graph roots done queue s)
    {x : ProvenanceNodeId} (hx : x ∈ s.affected) : Affected graph roots x :=
  affected_iff.mpr ⟨h.search.reached_visited ((h.affected x).mp hx).1, ((h.affected x).mp hx).2⟩

/-- Within a round: the node `x` at depth `d` is the first of the queue, and `left` of its edges are to be followed. -/
structure Within (graph : ProvenanceGraph py) (roots done : List ProvenanceNodeId) (x : ProvenanceNodeId) (d left : Nat)
    (s : Search) : Prop where
  kept : Kept graph roots done ((x, d) :: s.queue) s
  events : s.events + left = followed graph done + (outgoing graph x).length

theorem Within.fresh {x : ProvenanceNodeId} {d left : Nat} (h : Within graph roots done x d left s) : x ∉ done := fun hx =>
  (List.nodup_append.mp h.kept.search.nodup).2.2 x hx x (by simp) rfl

theorem Within.reached {x : ProvenanceNodeId} {d left : Nat} (h : Within graph roots done x d left s) :
    Reached (Precedes graph.edges) roots x := (h.kept.search.near (x, d) (List.mem_cons_self ..)).walk.reached

theorem follow_keeps {x t : ProvenanceNodeId} {relation : String} {d left : Nat} (ht : (t, relation) ∈ outgoing graph x)
    (h : Within graph roots done x d (left + 1) s) :
    Searched graph policy roots
      (fun s' => Within graph roots done x d left s' ∧ relation = "DERIVES" ∧ t ∈ s'.visited ∧ s.visited ⊆ s'.visited)
      (follow policy d s (t, relation)) := by
  obtain ⟨e, he, hsource, htarget, hrelation⟩ := mem_outgoing.mp ht
  have hedge : Precedes graph.edges x t := ⟨e, he, hsource, htarget⟩
  have hevents := h.events
  unfold follow
  refine Searched.check (fun hc => ?_) fun _ => Searched.check (fun hc => ?_) fun hderives => ?_
  · refine .events (l := graph.edges.filter fun e => e.source ∈ done ++ [x]) List.filter_sublist (fun e he => ?_) ?_
    · have hsource : e.source ∈ done ++ [x] := by simpa using (List.mem_filter.mp he).2
      rcases List.mem_append.mp hsource with hd | hd
      · exact h.kept.search.reached _ hd
      · exact List.mem_singleton.mp hd ▸ h.reached
    · have hlen : followed graph _ = _ := followed_append h.fresh
      rw [followed, List.countP_eq_length_filter] at hlen
      dsimp only at hc
      omega
  · exact .relation he (hsource ▸ h.reached) (hrelation ▸ hc)
  · by_cases hv : t ∈ s.visited
    · rw [if_pos hv]
      exact ⟨⟨⟨h.kept.search, h.kept.affected, h.kept.nodup⟩, by dsimp only; omega⟩, not_not.mp hderives, hv,
        List.Subset.refl _⟩
    · rw [if_neg hv]
      have hroot : t ∉ roots := fun hc => hv (h.kept.search.roots_visited t hc)
      refine Searched.check (fun hc => ?_) fun _ => ⟨⟨⟨?_, ?_, ?_⟩, by dsimp only; omega⟩, not_not.mp hderives,
        List.mem_cons_self .., List.subset_cons_self ..⟩
      · refine .members (l := t :: s.affected) ?_ (fun y hy => ?_) (Nat.lt_succ_of_le hc)
        · exact List.nodup_cons.mpr ⟨fun hm => hv ((h.kept.affected t).mp hm).1, h.kept.nodup⟩
        · rcases List.mem_cons.mp hy with rfl | hy
          · obtain ⟨a, ha, hax⟩ := h.reached
            exact affected_iff.mpr ⟨⟨a, ha, hax.tail hedge⟩, hroot⟩
          · exact h.kept.affected_of_mem hy
      · exact h.kept.search.push hedge hv
      · intro y
        simp only [List.mem_cons, h.kept.affected y, or_and_right]
        constructor
        · rintro (rfl | hy)
          · exact .inl ⟨rfl, hroot⟩
          · exact .inr hy
        · rintro (⟨hy, -⟩ | hy)
          · exact .inl hy
          · exact .inr hy
      · exact List.nodup_cons.mpr ⟨fun hm => hv ((h.kept.affected t).mp hm).1, h.kept.nodup⟩

theorem follows_keep {x : ProvenanceNodeId} {d : Nat} {targets : List (ProvenanceNodeId × String)}
    (ht : ∀ t ∈ targets, t ∈ outgoing graph x) (h : Within graph roots done x d targets.length s) :
    Searched graph policy roots
      (fun s' => Within graph roots done x d 0 s' ∧ s.visited ⊆ s'.visited ∧
        ∀ t ∈ targets, t.2 = "DERIVES" ∧ t.1 ∈ s'.visited)
      (targets.foldlM (follow policy d) s) := by
  induction targets generalizing s with
  | nil => exact ⟨h, List.Subset.refl _, by simp⟩
  | cons t ts ih =>
    rw [List.foldlM_cons]
    refine (follow_keeps (ht t (List.mem_cons_self ..)) h).bind fun s₁ ⟨h₁, hderives, hvisited, hsub⟩ => ?_
    have hrest := ih (fun u hu => ht u (List.mem_cons_of_mem _ hu)) h₁
    cases hr : ts.foldlM (follow policy d) s₁ with
    | error e =>
      rw [hr] at hrest
      exact hrest
    | ok s₂ =>
      rw [hr] at hrest
      obtain ⟨h₂, hsub₂, hall⟩ := hrest
      refine ⟨h₂, List.Subset.trans hsub hsub₂, fun u hu => ?_⟩
      rcases List.mem_cons.mp hu with rfl | hu
      · exact ⟨hderives, hsub₂ hvisited⟩
      · exact hall u hu

/-! ## Rounds -/

/-- Between two rounds. -/
structure Between (graph : ProvenanceGraph py) (roots done : List ProvenanceNodeId) (s : Search) : Prop where
  kept : Kept graph roots done s.queue s
  events : s.events = followed graph done
  derives : ∀ e ∈ graph.edges, e.source ∈ done → e.relation = "DERIVES"

theorem between_start (hn : roots.Nodup) : Between graph roots [] ⟨[], roots, roots.map fun id => (id, 0), 0⟩ :=
  ⟨⟨invariant_start hn, by simp, List.nodup_nil⟩, by simp [followed], by simp⟩

theorem expand_keeps (h : Between graph roots done s) (hq : s.queue ≠ []) :
    Searched graph policy roots (fun s' => ∃ x, Between graph roots (done ++ [x]) s') (expand graph policy s) := by
  unfold expand
  split
  · rename_i hnil
    exact absurd hnil hq
  rename_i x d queue hcons
  have hkept : Kept graph roots done ((x, d) :: queue) { s with queue } := by
    rw [← hcons]
    exact ⟨h.kept.search, h.kept.affected, h.kept.nodup⟩
  refine Searched.check (fun ⟨hne, hdepth⟩ => ?_) fun _ => ?_
  · obtain ⟨⟨t, relation⟩, ht⟩ := List.exists_mem_of_ne_nil _ hne
    obtain ⟨e, he, rfl, -⟩ := mem_outgoing.mp ht
    exact .depth he (hkept.search.near (e.source, d) (List.mem_cons_self ..)) hdepth
  have hwithin : Within graph roots done x d (outgoing graph x).length { s with queue } :=
    ⟨hkept, by dsimp only; rw [h.events]⟩
  have hfold := @follows_keep _ _ policy _ _ _ _ _ _ (fun _ ht => ht) hwithin
  cases hr : (outgoing graph x).foldlM (follow policy d) { s with queue } with
  | error e =>
    rw [hr] at hfold
    exact hfold
  | ok s' =>
    rw [hr] at hfold
    obtain ⟨h', -, hall⟩ := hfold
    refine ⟨x, ⟨h'.kept.search.pop fun y hy => ?_, h'.kept.affected, h'.kept.nodup⟩, ?_, fun e he hsource => ?_⟩
    · obtain ⟨e, he, hsource, htarget⟩ := hy
      exact (hall (y, e.relation) (mem_outgoing.mpr ⟨e, he, hsource, htarget, rfl⟩)).2
    · rw [followed_append h'.fresh, ← h'.events, Nat.add_zero]
    · rcases List.mem_append.mp hsource with hd | hd
      · exact h.derives e he hd
      · exact (hall (e.target, e.relation) (mem_outgoing.mpr ⟨e, he, List.mem_singleton.mp hd, rfl, rfl⟩)).1

/-- Every node that is reached is a node of the graph. -/
theorem Between.length_le (h : Between graph roots done s) (hroots : ∀ x ∈ roots, x ∈ graph.nodes.map (·.nodeId))
    (hk : ∀ e ∈ graph.edges, e.target ∈ graph.nodes.map (·.nodeId)) : done.length + s.queue.length ≤ graph.nodes.length := by
  have hknown : ∀ x, Reached (Precedes graph.edges) roots x → x ∈ graph.nodes.map (·.nodeId) := by
    rintro x ⟨a, ha, hx⟩
    rcases Relation.ReflTransGen.cases_tail hx with rfl | ⟨y, -, e, he, -, rfl⟩
    · exact hroots _ ha
    · exact hk e he
  have hsub : done ++ s.queue.map Prod.fst ⊆ graph.nodes.map (·.nodeId) := fun x hx =>
    hknown x (h.kept.search.reached_visited ((h.kept.search.mem_visited x).mpr (List.mem_append.mp hx)))
  have hle := (List.subperm_of_subset h.kept.search.nodup hsub).length_le
  simpa using hle

/-- As many rounds as there are nodes are enough. -/
theorem search_ends (hroots : ∀ x ∈ roots, x ∈ graph.nodes.map (·.nodeId))
    (hk : ∀ e ∈ graph.edges, e.target ∈ graph.nodes.map (·.nodeId)) (n : Nat) (h : Between graph roots done s)
    (hn : graph.nodes.length ≤ done.length + n) :
    Searched graph policy roots (fun s' => ∃ done', Between graph roots done' s' ∧ s'.queue = [])
      (search graph policy n s) := by
  induction n generalizing s done with
  | zero =>
    have := h.length_le hroots hk
    exact ⟨done, h, List.eq_nil_of_length_eq_zero (by omega)⟩
  | succ n ih =>
    by_cases hq : s.queue = []
    · have hall : ∀ m, search graph policy m s = .ok s := fun m => by
        induction m with
        | zero => rfl
        | succ m ihm => rw [search, show expand graph policy s = .ok s by rw [expand, hq], ok_bind, ihm]
      rw [hall]
      exact ⟨done, h, hq⟩
    · refine (expand_keeps h hq).bind fun s₁ ⟨x, h₁⟩ => ih h₁ ?_
      rw [List.length_append, List.length_singleton]
      omega

/-! ## Triggers -/

theorem ids_injective {kind : IdKind} : Function.Injective (@ids kind) := fun l l' h => by
  refine (Function.Injective.list_map (f := fun i : OpaqueId kind => Json.str i.value) fun a b hab => ?_) (Json.arr.inj h)
  exact OpaqueId.value_injective (Json.str.inj hab)

theorem sorted_ids {kind : IdKind} (l : List (OpaqueId kind)) : Json.Sorted (ids l) :=
  Json.sorted_arr fun j hj => by
    obtain ⟨i, -, rfl⟩ := List.mem_map.mp hj
    exact Json.sorted_str i.value

theorem trigger_inj {m n : InvalidationTrigger py} (h : m.body.dumps = n.body.dumps) : m = n := by
  have hs : ∀ k : InvalidationTrigger py, Json.Sorted k.body := fun k => Json.sorted_obj fun f hf => by
    simp only [List.mem_cons, List.not_mem_nil, or_false] at hf
    rcases hf with rfl | rfl | rfl | rfl
    · exact sorted_ids _
    · exact sorted_ids _
    · exact sorted_refItems _
    · exact Json.sorted_str _
  have hv := obj_inj ["changed_dependency_ids", "changed_node_ids", "evidence_refs", "trigger_id"] (by decide)
    [ids m.changedDependencyIds, ids m.changedNodeIds, refItems m.evidenceRefs, .str m.triggerId.value]
    [ids n.changedDependencyIds, ids n.changedNodeIds, refItems n.evidenceRefs, .str n.triggerId.value] rfl rfl
    (dumps_inj (hs m) (hs n) h)
  obtain ⟨mid, mnodes, mdependencies, mrefs, _, _, _, _, _⟩ := m
  obtain ⟨nid, nnodes, ndependencies, nrefs, _, _, _, _, _⟩ := n
  simp only [List.cons.injEq, Json.str.injEq, and_true] at hv
  obtain ⟨hdependencies, hnodes, hrefs, hid⟩ := hv
  cases ids_injective hdependencies
  cases ids_injective hnodes
  cases refItems_injective hrefs
  cases OpaqueId.value_injective hid
  rfl

/-- What a trigger names is in the graph, and a dependency has a node. -/
def Resolved (graph : ProvenanceGraph py) (t : InvalidationTrigger py) : Prop :=
  (∀ id ∈ t.changedNodeIds, id ∈ graph.nodes.map (·.nodeId)) ∧
    ∀ id ∈ t.changedDependencyIds,
      id ∈ graph.dependencies.map (·.dependencyId) ∧ ∃ n ∈ graph.nodes, n.subjectIdentity = id.value

theorem dependencyNodes_ne_nil {id : DependencyId} : dependencyNodes graph id ≠ [] ↔
    id ∈ graph.dependencies.map (·.dependencyId) ∧ ∃ n ∈ graph.nodes, n.subjectIdentity = id.value := by
  unfold dependencyNodes
  split
  · rename_i h
    simp only [ne_eq, List.map_eq_nil_iff, List.filter_eq_nil_iff, decide_eq_true_eq, not_forall, not_not, exists_prop, h,
      true_and]
  · rename_i h
    simp only [ne_eq, not_true_eq_false, h, false_and]

theorem unresolved_eq_false {t : InvalidationTrigger py} : unresolved graph t = false ↔ Resolved graph t := by
  simp only [unresolved, Bool.or_eq_false_iff, List.any_eq_false, decide_eq_true_eq, not_not]
  exact and_congr_right fun _ => forall₂_congr fun _ _ => dependencyNodes_ne_nil

/-- The nodes of the graph that triggers change. -/
def changedNodes (graph : ProvenanceGraph py) (triggers : List (InvalidationTrigger py)) : List ProvenanceNodeId :=
  triggers.flatMap (triggerRoots graph)

theorem mem_changedNodes {triggers : List (InvalidationTrigger py)} {x : ProvenanceNodeId} :
    x ∈ changedNodes graph triggers ↔ ∃ t ∈ triggers,
      (x ∈ t.changedNodeIds ∧ x ∈ graph.nodes.map (·.nodeId)) ∨
        ∃ id ∈ t.changedDependencyIds, id ∈ graph.dependencies.map (·.dependencyId) ∧
          ∃ n ∈ graph.nodes, n.subjectIdentity = id.value ∧ n.nodeId = x := by
  have hdep : ∀ id : DependencyId, x ∈ dependencyNodes graph id ↔ id ∈ graph.dependencies.map (·.dependencyId) ∧
      ∃ n ∈ graph.nodes, n.subjectIdentity = id.value ∧ n.nodeId = x := fun id => by
    unfold dependencyNodes
    split
    · rename_i h
      simp only [List.mem_map, List.mem_filter, decide_eq_true_eq, and_assoc, List.mem_map.mp h, true_and]
    · rename_i h
      simp only [List.not_mem_nil, h, false_and]
  simp only [changedNodes, triggerRoots, List.mem_flatMap, List.mem_append, List.mem_filter, decide_eq_true_eq, hdep]

/-! ## Assessments -/

theorem validatedGraph_eq_ok {graph' : ProvenanceGraph py} (h : validatedGraph graph policy = .ok graph') :
    graph' = graph ∧ assertAcyclic graph.nodes graph.edges = .ok () := by
  unfold validatedGraph at h
  obtain ⟨-, h⟩ := raiseIf_bind_eq_ok.mp h
  obtain ⟨rebuilt, hbuild, h⟩ := bind_eq_ok.mp h
  obtain ⟨hsame, h⟩ := raiseIf_bind_eq_ok.mp h
  cases pure_eq_ok.mp h
  obtain rfl := not_not.mp hsame
  exact ⟨rfl, assertAcyclic_of_build (mapError_eq_ok.mp hbuild)⟩

/-- The search of an assessment. -/
def searchFrom (graph : ProvenanceGraph py) (policy : DatasetLifecycleResourcePolicy) (roots : List ProvenanceNodeId) :
    Searching Search :=
  search graph policy graph.nodes.length ⟨[], roots, roots.map fun id => (id, 0), 0⟩

/-- What an assessment that is made says. -/
theorem assessInvalidation_eq_ok {triggers : List (InvalidationTrigger py)} {a : InvalidationResult}
    (h : assessInvalidation triggers graph policy = .ok a) :
    assertAcyclic graph.nodes graph.edges = .ok () ∧ ∃ canonical : List (InvalidationTrigger py),
      (∀ t, t ∈ canonical ↔ t ∈ triggers) ∧
      (a.propagationState, a.reasons) =
        (conclusion (canonical.any (unresolved graph))
          (searchFrom graph policy (sortedSetOn OpaqueId.value (changedNodes graph canonical)))).map id ([·]) ∧
      a.affectedNodeIds =
        (affectedOf (searchFrom graph policy (sortedSetOn OpaqueId.value (changedNodes graph canonical)))).insertionSort
          fun a b => a.value ≤ b.value := by
  unfold assessInvalidation at h
  obtain ⟨-, h⟩ := raiseIf_bind_eq_ok.mp h
  obtain ⟨graph', hgraph, h⟩ := bind_eq_ok.mp h
  obtain ⟨hsame, hacyclic⟩ := validatedGraph_eq_ok hgraph
  rw [hsame] at h
  obtain ⟨canonical, hcanonical, h⟩ := bind_eq_ok.mp h
  cases pure_eq_ok.mp h
  refine ⟨hacyclic, canonical, fun t => ?_, rfl, rfl⟩
  rw [uniqueById_eq_ok (fun _ _ => trigger_inj) hcanonical, mem_sortedSetOn]

theorem assessInvalidation_congr {triggers triggers' : List (InvalidationTrigger py)} (h : ∀ t, t ∈ triggers' ↔ t ∈ triggers) :
    assessInvalidation triggers' graph policy = assessInvalidation triggers graph policy := by
  have hnil : triggers' = [] ↔ triggers = [] := by
    simp only [List.eq_nil_iff_forall_not_mem, h]
  simp only [assessInvalidation, raiseIf_congr hnil, uniqueById_congr (fun _ _ => trigger_inj) h]

/-- The search of an accepted graph, from any nodes of it. -/
theorem searchFrom_ends (hg : assertAcyclic graph.nodes graph.edges = .ok ()) (hn : roots.Nodup)
    (hroots : ∀ x ∈ roots, x ∈ graph.nodes.map (·.nodeId)) :
    Searched graph policy roots (fun s => (∀ e ∈ graph.edges, Reached (Precedes graph.edges) roots e.source →
        e.relation = "DERIVES") ∧ ∀ x, x ∈ s.affected ↔ Affected graph roots x)
      (searchFrom graph policy roots) := by
  have hends := (assertAcyclic_eq_ok.mp hg).1
  have hs := @search_ends _ _ policy _ _ _ hroots (fun e he => (hends e he).2) graph.nodes.length (between_start hn)
    (by simp)
  cases hr : searchFrom graph policy roots with
  | error e =>
    rw [searchFrom] at hr
    rw [hr] at hs
    exact hs
  | ok s =>
    rw [searchFrom] at hr
    rw [hr] at hs
    obtain ⟨done, h, hq⟩ := hs
    have hsearch := h.kept.search
    rw [hq] at hsearch
    refine ⟨fun e he hx => h.derives e he ?_, fun x => ?_⟩
    · exact ((hsearch.mem_visited _).mp (hsearch.visited_iff.mpr hx)).resolve_right (by simp)
    · rw [h.kept.affected, hsearch.visited_iff, affected_iff]

section Roots

variable {roots' : List ProvenanceNodeId} (hr : ∀ x, x ∈ roots ↔ x ∈ roots')

include hr

theorem Affected.congr {x : ProvenanceNodeId} (h : Affected graph roots x) : Affected graph roots' x := by
  obtain ⟨hx, a, ha, hax⟩ := h
  exact ⟨fun hc => hx ((hr x).mpr hc), a, (hr a).mp ha, hax⟩

theorem Excuse.congr {reason : String} (h : Excuse graph policy roots reason) : Excuse graph policy roots' reason := by
  cases h with
  | relation he hx h => exact .relation he (hx.mono fun y => (hr y).mp) h
  | depth he hd h => exact .depth he (hd.congr hr) h
  | events hl hx h => exact .events hl (fun e he => (hx e he).mono fun y => (hr y).mp) h
  | members hn ha h => exact .members hn (fun x hx => (ha x hx).congr hr) h

end Roots

theorem invalidation_exact (triggers : List (InvalidationTrigger py)) (graph : ProvenanceGraph py)
    (policy : DatasetLifecycleResourcePolicy) (a : InvalidationResult)
    (h : assessInvalidation triggers graph policy = .ok a) :
    (a.propagationState = .complete → (∀ t ∈ triggers, Resolved graph t) ∧
      (∀ e ∈ graph.edges, Reached (Precedes graph.edges) (changedNodes graph triggers) e.source → e.relation = "DERIVES") ∧
      ∀ x, x ∈ a.affectedNodeIds ↔ Affected graph (changedNodes graph triggers) x) ∧
    (a.propagationState = .unknown → (∃ t ∈ triggers, ¬ Resolved graph t) ∨
      ∃ reason, a.reasons = [reason] ∧ Excuse graph policy (changedNodes graph triggers) reason) ∧
    ∀ triggers', (∀ t, t ∈ triggers' ↔ t ∈ triggers) → assessInvalidation triggers' graph policy = .ok a := by
  obtain ⟨hg, canonical, hmem, hstate, haffected⟩ := assessInvalidation_eq_ok h
  have hroots : ∀ x, x ∈ sortedSetOn OpaqueId.value (changedNodes graph canonical) ↔ x ∈ changedNodes graph triggers :=
    fun x => by
      simp only [mem_sortedSetOn, mem_changedNodes, hmem]
  have hknown : ∀ x ∈ sortedSetOn OpaqueId.value (changedNodes graph canonical), x ∈ graph.nodes.map (·.nodeId) :=
    fun x hx => by
      obtain ⟨t, -, ⟨-, hn⟩ | ⟨_, -, -, n, hn, -, rfl⟩⟩ := mem_changedNodes.mp ((hroots x).mp hx)
      · exact hn
      · exact List.mem_map_of_mem hn
  have hends := @searchFrom_ends _ _ policy _ hg nodup_sortedSetOn hknown
  have hresolved : canonical.any (unresolved graph) = false ↔ ∀ t ∈ triggers, Resolved graph t := by
    simp only [List.any_eq_false, Bool.not_eq_true, unresolved_eq_false, hmem]
  refine ⟨fun hc => ?_, fun hu => ?_, fun triggers' ht => ?_⟩
  · cases hall : canonical.any (unresolved graph) with
    | true =>
      rw [hall] at hstate
      simp [conclusion, hc] at hstate
    | false =>
      rw [hall] at hstate
      cases hs : searchFrom graph policy (sortedSetOn OpaqueId.value (changedNodes graph canonical)) with
      | error e =>
        rw [hs] at hstate
        simp [conclusion, hc] at hstate
      | ok s =>
        rw [hs] at hends haffected
        obtain ⟨hderives, haff⟩ := hends
        refine ⟨hresolved.mp hall, fun e he hx => hderives e he (hx.mono fun y => (hroots y).mpr), fun x => ?_⟩
        rw [haffected, List.mem_insertionSort]
        exact (haff x).trans ⟨Affected.congr hroots, Affected.congr fun y => (hroots y).symm⟩
  · cases hall : canonical.any (unresolved graph) with
    | true =>
      left
      by_contra hn
      push Not at hn
      rw [hresolved.mpr hn] at hall
      cases hall
    | false =>
      right
      rw [hall] at hstate
      cases hs : searchFrom graph policy (sortedSetOn OpaqueId.value (changedNodes graph canonical)) with
      | error e =>
        rw [hs] at hends hstate
        simp only [conclusion, Prod.map_apply, id_eq, Prod.mk.injEq] at hstate
        exact ⟨e.1, hstate.2, Excuse.congr hroots hends⟩
      | ok s =>
        rw [hs] at hstate
        simp [conclusion, hu] at hstate
  · rw [assessInvalidation_congr ht, h]

/-! ## Sample -/

namespace Sample

open Dependencies.Sample

def trigger : InvalidationTrigger platform where
  triggerId := triggerIdOf platform [source.nodeId] [] [evidenceRef]
  changedNodeIds := [source.nodeId]
  changedDependencyIds := []
  evidenceRefs := [evidenceRef]
  scope := .inl (List.cons_ne_nil _ _)
  sortedNodes := rfl
  sortedDependencies := rfl
  refs := ⟨[evidenceRef], rfl⟩
  content := rfl

def run : Except CurrentnessError (ProvenanceGraph platform × InvalidationResult) := do
  let graph ← (buildDependencyGraph inputs (some limits)).mapError .graph
  return (graph, ← assessInvalidation [trigger] graph limits)

theorem run_affected : run.toOption.map (fun r => (r.2.propagationState, r.2.affectedNodeIds)) =
    some (.complete, [target.nodeId]) := by decide +kernel

end Sample

theorem invalidation_exact_sample : ∃ graph a,
    buildDependencyGraph Dependencies.Sample.inputs (some Dependencies.Sample.limits) = .ok graph ∧
      assessInvalidation [Sample.trigger] graph Dependencies.Sample.limits = .ok a ∧
      Affected graph (changedNodes graph [Sample.trigger]) Dependencies.Sample.target.nodeId := by
  have hrun := Sample.run_affected
  cases h : Sample.run with
  | error e =>
    rw [h] at hrun
    cases hrun
  | ok r =>
    rw [h] at hrun
    obtain ⟨graph, hgraph, h⟩ := bind_eq_ok.mp h
    obtain ⟨a, ha, h⟩ := bind_eq_ok.mp h
    cases pure_eq_ok.mp h
    simp only [Except.toOption, Option.map_some, Option.some.injEq, Prod.mk.injEq] at hrun
    refine ⟨graph, a, mapError_eq_ok.mp hgraph, ha, ?_⟩
    have hcomplete := (invalidation_exact _ graph _ a ha).1 hrun.1
    refine (hcomplete.2.2 _).mp ?_
    rw [hrun.2]
    exact List.mem_singleton_self _

end ATB.Proof.Invalidation
