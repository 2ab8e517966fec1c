import AutomatedTradingBot.Framework.Refusal
import AutomatedTradingBot.Proof.Stage5.IdentityScope.RoundTrip
import AutomatedTradingBot.Source.Stage5.ScopeRegistry

/-!
# The closure of an operation

What `validate` accepts is a forest of height two below a root that no relation names,
and what `verify_registration` returns is the root and the three nodes of an
operation's branch.

* `closure_terminates`: on any relations the recursion is no deeper than the nodes;
* `validate_eq_ok`: what an accepted change set is read as (`Accepted`);
* `Accepted.branch`: every operation has one portfolio above it, and that one account;
* `scope_closure`: the branch is what both computations of the closure find.
-/

namespace ATB.Proof.ScopeRegistry

open ATB.Stage5.IdentityScope ATB.Stage5.ScopeRegistry
open ATB.Proof.IdentityScope (WellFormed tree treeFields treeField Distinct parse_canonicalBytes)

/-! ## Termination -/

section Closure

variable {graph : String → List String} {nodes : List String}

/-- The recursion ends before the nodes that are visited are more than there are nodes. -/
theorem closure_fuel (hgraph : ∀ n ∈ nodes, ∀ p ∈ graph n, p ∈ nodes) {fuel : Nat} {node : String}
    {visiting : List String} (hnode : node ∈ nodes) (hnodup : visiting.Nodup) (hsub : visiting ⊆ nodes)
    (hfuel : nodes.length < fuel + visiting.length) : closure graph fuel node visiting ≠ .error .recursionError := by
  induction fuel generalizing node visiting with
  | zero =>
    have := (hnodup.subperm hsub).length_le
    omega
  | succ fuel ih =>
    intro h
    unfold Stage5.ScopeRegistry.closure at h
    by_cases hvisit : node ∈ visiting
    · rw [raiseIf_of hvisit, error_bind] at h
      cases h
    · rw [raiseIf_of_not hvisit, ok_bind] at h
      rcases hmap : (graph node).mapM fun parent => closure graph fuel parent (node :: visiting) with e | above
      · rw [hmap, error_bind] at h
        cases h
        obtain ⟨parent, hparent, he⟩ := mapM_eq_error hmap
        refine ih (hgraph node hnode parent hparent) (List.nodup_cons.mpr ⟨hvisit, hnodup⟩) ?_ ?_ he
        · exact List.cons_subset.mpr ⟨hnode, hsub⟩
        · rw [List.length_cons]
          omega
      · rw [hmap, ok_bind] at h
        cases h

/-- Relations among the nodes have closures, or a cycle. -/
theorem closure_terminates (hgraph : ∀ n ∈ nodes, ∀ p ∈ graph n, p ∈ nodes) {node : String} (hnode : node ∈ nodes) :
    closure graph (nodes.length + 1) node [] ≠ .error .recursionError :=
  closure_fuel hgraph hnode List.nodup_nil (List.nil_subset _) (by simp)

end Closure

/-! ## Accepted change sets -/

/-- What an accepted change set is read as. -/
structure Accepted (nodes : List Node) (relations : List Relation) : Prop where
  nodup : (nodes.map Node.digest).Nodup
  root : (nodes.filter fun n => n.identity.dimension = .global).length = 1
  ends : ∀ r ∈ relations, r.child ∈ nodes.map Node.digest ∧ r.parent ∈ nodes.map Node.digest
  typed : ∀ r ∈ relations, ∀ child ∈ nodes, child.digest = r.child → ∀ parent ∈ nodes, parent.digest = r.parent →
    child.identity.dimension = .portfolio ∧ parent.identity.dimension = .account ∨
      child.identity.dimension = .operation ∧ parent.identity.dimension = .portfolio
  parents : ∀ node ∈ nodes, (parentsOf relations node.digest).length = expectedParents node.identity.dimension
  closures : ∀ node ∈ nodes, ∃ members, closure (parentsOf relations) (nodes.length + 1) node.digest [] = .ok members

section Validate

variable {env : Environment} {db : Database} {payload : RegistryPayload}

/-- The digests stay distinct. -/
theorem addIdentity_nodup {nodes nodes' : List Node} {entry : Value}
    (h : addIdentity env db payload nodes entry = .ok nodes') (hn : (nodes.map Node.digest).Nodup) :
    (nodes'.map Node.digest).Nodup := by
  unfold addIdentity at h
  obtain ⟨_, -, h⟩ := bind_eq_ok.mp h
  obtain ⟨_, -, h⟩ := bind_eq_ok.mp h
  obtain ⟨_, -, h⟩ := bind_eq_ok.mp h
  obtain ⟨-, h⟩ := raiseIf_bind_eq_ok.mp h
  obtain ⟨digest, -, h⟩ := bind_eq_ok.mp h
  obtain ⟨hnew, h⟩ := raiseIf_bind_eq_ok.mp h
  obtain ⟨_, -, h⟩ := bind_eq_ok.mp h
  obtain ⟨_, -, h⟩ := bind_eq_ok.mp h
  obtain ⟨-, h⟩ := raiseIf_bind_eq_ok.mp h
  obtain ⟨_, -, h⟩ := bind_eq_ok.mp h
  cases h
  rw [List.map_append]
  refine List.nodup_append.mpr ⟨hn, by simp, ?_⟩
  simp only [List.map_cons, List.map_nil, List.mem_singleton]
  rintro a ha b rfl rfl
  exact hnew ha

theorem readNodes_nodup {nodes : List Node} (h : readNodes env db payload = .ok nodes) :
    (nodes.map Node.digest).Nodup :=
  foldlM_ok_induction (fun nodes => (nodes.map Node.digest).Nodup)
    (fun _ _ _ _ hstep hn => addIdentity_nodup hstep hn) h List.nodup_nil

theorem readRelation_ends {nodes : List Node} {v : Value} {r : Relation} (h : readRelation nodes v = .ok r) :
    r.child ∈ nodes.map Node.digest ∧ r.parent ∈ nodes.map Node.digest := by
  unfold readRelation at h
  obtain ⟨_, -, h⟩ := bind_eq_ok.mp h
  obtain ⟨_, -, h⟩ := bind_eq_ok.mp h
  obtain ⟨child, -, h⟩ := bind_eq_ok.mp h
  obtain ⟨_, -, h⟩ := bind_eq_ok.mp h
  obtain ⟨parent, -, h⟩ := bind_eq_ok.mp h
  obtain ⟨hends, h⟩ := raiseIf_bind_eq_ok.mp h
  obtain ⟨_, -, h⟩ := bind_eq_ok.mp h
  obtain ⟨kind, -, h⟩ := bind_eq_ok.mp h
  cases h
  exact not_or.mp hends |>.imp not_not.mp not_not.mp

/-- A node is found by its digest. -/
theorem findNode_eq_ok {nodes : List Node} (hn : (nodes.map Node.digest).Nodup) {node : Node} (hmem : node ∈ nodes) :
    findNode nodes node.digest = .ok node := by
  rw [findNode, orRaise_eq_ok]
  induction nodes with
  | nil => cases hmem
  | cons a l ih =>
    rw [List.map_cons, List.nodup_cons] at hn
    rcases List.mem_cons.mp hmem with rfl | hmem
    · simp
    · have hne : a.digest ≠ node.digest := fun e => hn.1 (e ▸ List.mem_map_of_mem hmem)
      simp only [List.find?_cons, hne, decide_false]
      exact ih hn.2 hmem

theorem checkRelation_eq_ok {nodes : List Node} (hn : (nodes.map Node.digest).Nodup) {r : Relation} {u : Unit}
    (h : checkRelation nodes r = .ok u) {child parent : Node} (hchild : child ∈ nodes) (hc : child.digest = r.child)
    (hparent : parent ∈ nodes) (hp : parent.digest = r.parent) :
    child.identity.dimension = .portfolio ∧ parent.identity.dimension = .account ∨
      child.identity.dimension = .operation ∧ parent.identity.dimension = .portfolio := by
  rw [checkRelation, ← hc, ← hp, findNode_eq_ok hn hchild, findNode_eq_ok hn hparent, ok_bind, ok_bind] at h
  split at h
  · obtain ⟨hd, hd', -⟩ := not_or.mp (raiseIf_eq_ok.mp h) |>.imp not_not.mp not_or.mp
    exact .inl ⟨hd, not_not.mp hd'⟩
  · obtain ⟨-, hd⟩ := not_or.mp (raiseIf_eq_ok.mp h)
    exact .inr (not_or.mp hd |>.imp not_not.mp not_not.mp)

/-- What an accepted change set is read as. -/
theorem validate_eq_ok {barriers : List Barrier} (h : validate env db payload = .ok barriers) :
    ∃ nodes relations, readNodes env db payload = .ok nodes ∧
      payload.changeSet.relations.mapM (readRelation nodes) = .ok relations ∧ Accepted nodes relations := by
  unfold validate at h
  obtain ⟨_, -, h⟩ := bind_eq_ok.mp h
  obtain ⟨nodes, hnodes, h⟩ := bind_eq_ok.mp h
  obtain ⟨_, hidentities, h⟩ := bind_eq_ok.mp h
  obtain ⟨relations, hrelations, h⟩ := bind_eq_ok.mp h
  obtain ⟨closures, hgraph, -⟩ := bind_eq_ok.mp h
  have hn := readNodes_nodup hnodes
  unfold Stage5.ScopeRegistry.checkIdentities at hidentities
  obtain ⟨_, -, hidentities⟩ := bind_eq_ok.mp hidentities
  obtain ⟨hroot, -⟩ := raiseIf_bind_eq_ok.mp hidentities
  unfold checkGraph at hgraph
  obtain ⟨-, hgraph⟩ := raiseIf_bind_eq_ok.mp hgraph
  obtain ⟨_, hclosures, hgraph⟩ := bind_eq_ok.mp hgraph
  obtain ⟨_, htyped, hgraph⟩ := bind_eq_ok.mp hgraph
  obtain ⟨hparents, -⟩ := raiseIf_bind_eq_ok.mp hgraph
  refine ⟨nodes, relations, hnodes, hrelations, hn, not_not.mp (not_or.mp (not_or.mp hroot).2).2, ?_, ?_, ?_, ?_⟩
  · intro r hr
    obtain ⟨v, -, hv⟩ := (mem_of_mapM hrelations).1 r hr
    exact readRelation_ends hv
  · intro r hr child hchild hc parent hparent hp
    exact checkRelation_eq_ok hn (forM_eq_ok.mp htyped r hr) hchild hc hparent hp
  · intro node hnode
    by_contra hne
    exact hparents ⟨node, hnode, hne⟩
  · intro node hnode
    obtain ⟨_, -, hok⟩ := (mem_of_mapM hclosures).2 node hnode
    obtain ⟨members, hmembers, -⟩ := bind_eq_ok.mp hok
    exact ⟨members, hmembers⟩

end Validate

/-! ## The branch of an operation -/

section Branch

variable {nodes : List Node} {relations : List Relation}

theorem Accepted.digest_inj (h : Accepted nodes relations) {a b : Node} (ha : a ∈ nodes) (hb : b ∈ nodes)
    (he : a.digest = b.digest) : a = b :=
  List.inj_on_of_nodup_map h.nodup ha hb he

/-- A parent is a node, of the dimension above. -/
theorem Accepted.parent (h : Accepted nodes relations) {child : Node} (hchild : child ∈ nodes) {p : String}
    (hp : p ∈ parentsOf relations child.digest) : ∃ parent ∈ nodes, parent.digest = p ∧
      (child.identity.dimension = .portfolio ∧ parent.identity.dimension = .account ∨
        child.identity.dimension = .operation ∧ parent.identity.dimension = .portfolio) := by
  obtain ⟨r, hr, rfl⟩ := List.mem_map.mp hp
  obtain ⟨hr, hc⟩ := List.mem_filter.mp hr
  obtain ⟨parent, hparent, he⟩ := List.mem_map.mp (h.ends r hr).2
  exact ⟨parent, hparent, he, h.typed r hr child hchild (of_decide_eq_true hc).symm parent hparent he⟩

/-- The root, and a branch from an operation over its portfolio to its account. -/
structure Branch (nodes : List Node) (relations : List Relation) (root account portfolio operation : Node) : Prop where
  mem : root ∈ nodes ∧ account ∈ nodes ∧ portfolio ∈ nodes ∧ operation ∈ nodes
  root_dimension : root.identity.dimension = .global
  account_dimension : account.identity.dimension = .account
  portfolio_dimension : portfolio.identity.dimension = .portfolio
  operation_dimension : operation.identity.dimension = .operation
  only_root : ∀ n ∈ nodes, n.identity.dimension = .global → n = root
  operation_parents : parentsOf relations operation.digest = [portfolio.digest]
  portfolio_parents : parentsOf relations portfolio.digest = [account.digest]
  account_parents : parentsOf relations account.digest = []
  root_parents : parentsOf relations root.digest = []

theorem Accepted.root_node (h : Accepted nodes relations) : ∃ root ∈ nodes, root.identity.dimension = .global ∧
    ∀ n ∈ nodes, n.identity.dimension = .global → n = root := by
  obtain ⟨root, hroot⟩ := List.length_eq_one_iff.mp h.root
  have hmem : ∀ n, n ∈ nodes ∧ n.identity.dimension = .global ↔ n = root := by
    intro n
    have hfilter : n ∈ nodes.filter (fun n => n.identity.dimension = .global) ↔ n ∈ [root] := by rw [hroot]
    rwa [List.mem_filter, decide_eq_true_eq, List.mem_singleton] at hfilter
  obtain ⟨hin, hdim⟩ := (hmem root).mpr rfl
  exact ⟨root, hin, hdim, fun n hn hd => (hmem n).mp ⟨hn, hd⟩⟩

theorem Accepted.no_parents (h : Accepted nodes relations) {node : Node} (hnode : node ∈ nodes)
    (hdim : expectedParents node.identity.dimension = 0) : parentsOf relations node.digest = [] :=
  List.length_eq_zero_iff.mp ((h.parents node hnode).trans hdim)

theorem Accepted.one_parent (h : Accepted nodes relations) {node : Node} (hnode : node ∈ nodes)
    (hdim : expectedParents node.identity.dimension = 1) : ∃ parent ∈ nodes,
      parentsOf relations node.digest = [parent.digest] ∧
      (node.identity.dimension = .portfolio ∧ parent.identity.dimension = .account ∨
        node.identity.dimension = .operation ∧ parent.identity.dimension = .portfolio) := by
  obtain ⟨p, hp⟩ := List.length_eq_one_iff.mp ((h.parents node hnode).trans hdim)
  obtain ⟨parent, hparent, rfl, htyped⟩ := h.parent hnode (p := p) (by simp [hp])
  exact ⟨parent, hparent, hp, htyped⟩

/-- Every operation has one portfolio above it, and that one account. -/
theorem Accepted.branch (h : Accepted nodes relations) {operation : Node} (hmem : operation ∈ nodes)
    (hdim : operation.identity.dimension = .operation) :
    ∃ root account portfolio, Branch nodes relations root account portfolio operation := by
  obtain ⟨root, hroot, hrootDim, honly⟩ := h.root_node
  obtain ⟨portfolio, hportfolio, hparents, htyped⟩ := h.one_parent hmem (by rw [hdim]; rfl)
  have hpdim : portfolio.identity.dimension = .portfolio := by simpa [hdim] using htyped
  obtain ⟨account, haccount, hparents', htyped'⟩ := h.one_parent hportfolio (by rw [hpdim]; rfl)
  have hadim : account.identity.dimension = .account := by simpa [hpdim] using htyped'
  exact ⟨root, account, portfolio, ⟨hroot, haccount, hportfolio, hmem⟩, hrootDim, hadim, hpdim, hdim, honly, hparents,
    hparents', h.no_parents haccount (by rw [hadim]; rfl), h.no_parents hroot (by rw [hrootDim]; rfl)⟩

variable {root account portfolio operation : Node}

/-- The nodes of a branch have four digests. -/
theorem Branch.nodup (hb : Branch nodes relations root account portfolio operation) (h : Accepted nodes relations) :
    [root.digest, operation.digest, portfolio.digest, account.digest].Nodup := by
  obtain ⟨hr, ha, hp, ho⟩ := hb.mem
  have hne : ∀ {a b : Node}, a ∈ nodes → b ∈ nodes → a.identity.dimension ≠ b.identity.dimension →
      a.digest ≠ b.digest := fun ha hb hd he => hd (h.digest_inj ha hb he ▸ rfl)
  simp only [List.nodup_cons, List.mem_cons, List.not_mem_nil, or_false, not_or, not_false_eq_true, List.nodup_nil,
    and_true]
  refine ⟨⟨hne hr ho ?_, hne hr hp ?_, hne hr ha ?_⟩, ⟨hne ho hp ?_, hne ho ha ?_⟩, hne hp ha ?_⟩ <;>
    simp [hb.root_dimension, hb.operation_dimension, hb.portfolio_dimension, hb.account_dimension]

theorem Branch.four_le (hb : Branch nodes relations root account portfolio operation) (h : Accepted nodes relations) :
    4 ≤ nodes.length := by
  obtain ⟨hr, ha, hp, ho⟩ := hb.mem
  have hsub : [root.digest, operation.digest, portfolio.digest, account.digest] ⊆ nodes.map Node.digest := by
    intro d hd
    simp only [List.mem_cons, List.not_mem_nil, or_false] at hd
    rcases hd with rfl | rfl | rfl | rfl
    · exact List.mem_map_of_mem hr
    · exact List.mem_map_of_mem ho
    · exact List.mem_map_of_mem hp
    · exact List.mem_map_of_mem ha
  simpa using ((hb.nodup h).subperm hsub).length_le

/-- The closure of an operation, as `validate` computes it. -/
theorem Branch.closure_eq (hb : Branch nodes relations root account portfolio operation) (h : Accepted nodes relations) :
    closure (parentsOf relations) (nodes.length + 1) operation.digest [] =
      .ok [operation.digest, portfolio.digest, account.digest] := by
  have hn := hb.nodup h
  simp only [List.nodup_cons, List.mem_cons, List.not_mem_nil, or_false, not_or] at hn
  obtain ⟨-, ⟨hop, hoa⟩, hpa, -⟩ := hn
  obtain ⟨n, hlen⟩ := Nat.exists_eq_add_of_le' (hb.four_le h)
  rw [hlen]
  simp only [Stage5.ScopeRegistry.closure, hb.operation_parents, hb.portfolio_parents, hb.account_parents,
    List.mapM_cons, List.mapM_nil]
  simp [raiseIf, hop, hoa, hpa, Ne.symm hop, Ne.symm hoa, Ne.symm hpa]

end Branch

/-! ## Registration -/

section Register

variable {env : Environment} {db : Database} {payload : RegistryPayload} {nodes : List Node}
  {relations : List Relation}

/-- What `verify_registration` reads of an identity. -/
theorem addIdentity_read {entry : Value} {before after : List Node}
    (h : addIdentity env db payload before entry = .ok after) {read : String × Recorded}
    (hread : readRecord env entry = .ok read) :
    ∃ node, after = before ++ [node] ∧ node.digest = read.1 ∧ node.identity = read.2.identity := by
  unfold addIdentity at h
  obtain ⟨_, -, h⟩ := bind_eq_ok.mp h
  obtain ⟨record, hrecord, h⟩ := bind_eq_ok.mp h
  obtain ⟨identity, hidentity, h⟩ := bind_eq_ok.mp h
  obtain ⟨-, h⟩ := raiseIf_bind_eq_ok.mp h
  obtain ⟨digest, hdigest, h⟩ := bind_eq_ok.mp h
  obtain ⟨-, h⟩ := raiseIf_bind_eq_ok.mp h
  obtain ⟨_, -, h⟩ := bind_eq_ok.mp h
  obtain ⟨_, -, h⟩ := bind_eq_ok.mp h
  obtain ⟨-, h⟩ := raiseIf_bind_eq_ok.mp h
  obtain ⟨_, -, h⟩ := bind_eq_ok.mp h
  cases h
  rw [readRecord, hrecord, ok_bind, hidentity, ok_bind, hdigest, ok_bind] at hread
  obtain ⟨assertion, -, hread⟩ := bind_eq_ok.mp hread
  cases hread
  exact ⟨_, rfl, rfl, rfl⟩

/-- The records by their digests are the nodes. -/
theorem readRecords_eq_ok (hnodes : readNodes env db payload = .ok nodes) {records : List (String × Recorded)}
    (h : readRecords env payload.changeSet.identities = .ok records) :
    records.map (fun r => (r.1, r.2.identity)) = nodes.map fun n => (n.digest, n.identity) := by
  unfold readRecords at h
  obtain ⟨read, hread, h⟩ := bind_eq_ok.mp h
  cases h
  have hall : ∀ (l : List Value) (read : List (String × Recorded)) (before after : List Node),
      l.foldlM (addIdentity env db payload) before = .ok after →
      l.mapM (readRecord env) = .ok read →
      (before.map fun n => (n.digest, n.identity)) ++ read.map (fun r => (r.1, r.2.identity)) =
        after.map fun n => (n.digest, n.identity) := by
    intro l
    induction l with
    | nil =>
      intro read before after hfold hmap
      cases hfold
      cases hmap
      simp
    | cons x l ih =>
      intro read before after hfold hmap
      obtain ⟨middle, hmiddle, hfold⟩ := bind_eq_ok.mp hfold
      rw [List.mapM_cons] at hmap
      obtain ⟨r, hr, hmap⟩ := bind_eq_ok.mp hmap
      obtain ⟨rs, hrs, hmap⟩ := bind_eq_ok.mp hmap
      cases hmap
      obtain ⟨node, rfl, hdigest, hidentity⟩ := addIdentity_read hmiddle hr
      have := ih rs _ after hfold hrs
      rw [← this]
      simp [hdigest, hidentity]
  have heq : read.map (fun r => (r.1, r.2.identity)) = nodes.map fun n => (n.digest, n.identity) :=
    hall _ read [] nodes hnodes hread
  have hkeys : (Dict.keys read).Nodup := by
    have := congrArg (List.map Prod.fst) heq
    rw [List.map_map, List.map_map] at this
    rw [Dict.keys, show read.map Prod.fst = nodes.map Node.digest from this]
    exact readNodes_nodup hnodes
  rw [Dict.ofList_of_nodup hkeys, heq]

/-- The edges are the relations. -/
theorem readEdge_eq_ok {records : List (String × Recorded)} {edges : List (String × String)} {l : List Value}
    (h : l.mapM (readEdge records) = .ok edges) (hrelations : l.mapM (readRelation nodes) = .ok relations) :
    edges = relations.map fun r => (r.child, r.parent) := by
  induction l generalizing edges relations with
  | nil =>
    cases h
    cases hrelations
    rfl
  | cons v l ih =>
    rw [List.mapM_cons] at h hrelations
    obtain ⟨e, he, h⟩ := bind_eq_ok.mp h
    obtain ⟨es, hes, h⟩ := bind_eq_ok.mp h
    obtain ⟨r, hr, hrelations⟩ := bind_eq_ok.mp hrelations
    obtain ⟨rs, hrs, hrelations⟩ := bind_eq_ok.mp hrelations
    cases h
    cases hrelations
    rw [ih hes hrs, List.map_cons]
    congr 1
    unfold readEdge at he
    unfold readRelation at hr
    obtain ⟨_, -, hr⟩ := bind_eq_ok.mp hr
    obtain ⟨vc, hvc, hr⟩ := bind_eq_ok.mp hr
    obtain ⟨child, hchild, hr⟩ := bind_eq_ok.mp hr
    obtain ⟨vp, hvp, hr⟩ := bind_eq_ok.mp hr
    obtain ⟨parent, hparent, hr⟩ := bind_eq_ok.mp hr
    obtain ⟨-, hr⟩ := raiseIf_bind_eq_ok.mp hr
    obtain ⟨_, -, hr⟩ := bind_eq_ok.mp hr
    obtain ⟨kind, -, hr⟩ := bind_eq_ok.mp hr
    cases hr
    rw [hvc, ok_bind, orRaise_eq_ok.mp hchild, show orRaise Error.typeError (some child) = .ok child from rfl,
      ok_bind] at he
    obtain ⟨-, he⟩ := raiseIf_bind_eq_ok.mp he
    rw [hvp, ok_bind, orRaise_eq_ok.mp hparent, show orRaise Error.typeError (some parent) = .ok parent from rfl,
      ok_bind] at he
    cases he
    rfl

theorem get?_map_identity (records : List (String × Recorded)) (d : String) :
    Dict.get? d (records.map fun r => (r.1, r.2.identity)) = (Dict.get? d records).map Recorded.identity := by
  induction records with
  | nil => rfl
  | cons r records ih =>
    simp only [List.map_cons, Dict.get?]
    split
    · rfl
    · exact ih

variable {records : List (String × Recorded)}

/-- A node is in the records under its digest. -/
theorem get?_records (hrecords : records.map (fun r => (r.1, r.2.identity)) = nodes.map fun n => (n.digest, n.identity))
    (h : Accepted nodes relations) {node : Node} (hnode : node ∈ nodes) :
    (Dict.get? node.digest records).map Recorded.identity = some node.identity := by
  rw [← get?_map_identity, hrecords]
  refine Dict.get?_of_mem ?_ (List.mem_map_of_mem hnode)
  rw [Dict.keys, List.map_map]
  exact h.nodup

theorem recordedParents_eq_ok
    (hrecords : records.map (fun r => (r.1, r.2.identity)) = nodes.map fun n => (n.digest, n.identity))
    (h : Accepted nodes relations) {node : Node} (hnode : node ∈ nodes) :
    recordedParents records (relations.map fun r => (r.child, r.parent)) node.digest =
      .ok (parentsOf relations node.digest) := by
  have hsome : ¬ (Dict.get? node.digest records).isNone = true := by
    have := get?_records hrecords h hnode
    rcases hget : Dict.get? node.digest records with - | r
    · rw [hget] at this
      cases this
    · simp
  rw [recordedParents, raiseIf_of_not hsome, ok_bind, parentsOf, List.filter_map, List.map_map]
  rfl

theorem filter_records
    (hrecords : records.map (fun r => (r.1, r.2.identity)) = nodes.map fun n => (n.digest, n.identity))
    (q : IdentityRecordV1 → Bool) :
    (records.filter fun r => q r.2.identity).map Prod.fst = (nodes.filter fun n => q n.identity).map Node.digest := by
  have hfilter := congrArg (fun l => (l.filter fun p => q p.2).map Prod.fst) hrecords
  simp only [List.filter_map, List.map_map] at hfilter
  exact hfilter

variable {root account portfolio operation : Node}

/-- The visit of an operation adds the nodes of its branch to the root. -/
theorem Branch.visit_eq (hb : Branch nodes relations root account portfolio operation) (h : Accepted nodes relations)
    (hrecords : records.map (fun r => (r.1, r.2.identity)) = nodes.map fun n => (n.digest, n.identity)) :
    visit (recordedParents records (relations.map fun r => (r.child, r.parent))) (records.length + 1) [root.digest]
        operation.digest =
      .ok [root.digest, operation.digest, portfolio.digest, account.digest] := by
  have hlength : records.length = nodes.length := by simpa using congrArg List.length hrecords
  obtain ⟨n, hlen⟩ := Nat.exists_eq_add_of_le' (hb.four_le h)
  have hn := hb.nodup h
  simp only [List.nodup_cons, List.mem_cons, List.not_mem_nil, or_false, not_or] at hn
  obtain ⟨⟨hro, hrp, hra⟩, ⟨hop, hoa⟩, hpa, -⟩ := hn
  obtain ⟨-, haccount, hportfolio, hoperation⟩ := hb.mem
  have ho := recordedParents_eq_ok hrecords h hoperation
  have hp := recordedParents_eq_ok hrecords h hportfolio
  have ha := recordedParents_eq_ok hrecords h haccount
  rw [hb.operation_parents] at ho
  rw [hb.portfolio_parents] at hp
  rw [hb.account_parents] at ha
  rw [hlength, hlen]
  simp [visit, ho, hp, ha, Ne.symm hro, Ne.symm hrp, Ne.symm hra, Ne.symm hop, Ne.symm hoa, Ne.symm hpa]

/-- The closure is sorted by dimension. -/
theorem Branch.sortedClosure_eq (hb : Branch nodes relations root account portfolio operation)
    (h : Accepted nodes relations)
    (hrecords : records.map (fun r => (r.1, r.2.identity)) = nodes.map fun n => (n.digest, n.identity)) :
    sortedClosure records [root.digest, operation.digest, portfolio.digest, account.digest] =
      [root.digest, account.digest, portfolio.digest, operation.digest] := by
  have hkey : ∀ node ∈ nodes, (scopeKey records node.digest).1 = node.identity.dimension.index := by
    intro node hnode
    have := get?_records hrecords h hnode
    obtain ⟨r, hr, he⟩ := Option.map_eq_some_iff.mp this
    simp [scopeKey, hr, he]
  obtain ⟨hr, ha, hp, ho⟩ := hb.mem
  have hr := hkey root hr
  have ha := hkey account ha
  have hp := hkey portfolio hp
  have ho := hkey operation ho
  rw [hb.root_dimension] at hr
  rw [hb.account_dimension] at ha
  rw [hb.portfolio_dimension] at hp
  rw [hb.operation_dimension] at ho
  simp [sortedClosure, List.insertionSort, List.orderedInsert, hr, ha, hp, ho, ScopeKind.index]

/-- The closure of a registered operation is the root and its branch. -/
theorem operationClosure_eq_ok (hnodes : readNodes env db payload = .ok nodes)
    (hrelations : payload.changeSet.relations.mapM (readRelation nodes) = .ok relations) (h : Accepted nodes relations)
    {operationId : String} {ordered : List String}
    (hclosure : operationClosure env payload.changeSet operationId = .ok (records, ordered)) :
    ∃ root account portfolio operation, Branch nodes relations root account portfolio operation ∧
      operation.identity.value = operationId ∧
      ordered = [root.digest, account.digest, portfolio.digest, operation.digest] := by
  unfold operationClosure at hclosure
  obtain ⟨records', hread, hclosure⟩ := bind_eq_ok.mp hclosure
  obtain ⟨hlengths, hclosure⟩ := raiseIf_bind_eq_ok.mp hclosure
  obtain ⟨edges, hedges, hclosure⟩ := bind_eq_ok.mp hclosure
  obtain ⟨members, hmembers, hclosure⟩ := bind_eq_ok.mp hclosure
  cases hclosure
  have hrecords := readRecords_eq_ok hnodes hread
  have hoperations := filter_records hrecords fun i => decide (i.dimension = .operation ∧ i.value = operationId)
  have hroots := filter_records hrecords fun i => decide (i.dimension = .global)
  obtain ⟨hone, hroot⟩ := not_or.mp hlengths |>.imp not_not.mp not_not.mp
  rw [hoperations] at hone hmembers
  rw [hroots] at hmembers
  -- the one operation of that value
  rw [List.length_map] at hone
  obtain ⟨operation, hop⟩ := List.length_eq_one_iff.mp hone
  have hmem : operation ∈ nodes.filter fun n => decide (n.identity.dimension = .operation ∧
      n.identity.value = operationId) := by rw [hop]; exact List.mem_singleton_self _
  obtain ⟨hmem, hdim⟩ := List.mem_filter.mp hmem
  obtain ⟨hdim, hvalue⟩ := of_decide_eq_true hdim
  obtain ⟨root, account, portfolio, hb⟩ := h.branch hmem hdim
  have hrootList : nodes.filter (fun n => decide (n.identity.dimension = .global)) = [root] := by
    obtain ⟨r, hr⟩ := List.length_eq_one_iff.mp h.root
    have hrmem : r ∈ nodes.filter fun n => decide (n.identity.dimension = .global) := by simp [hr]
    obtain ⟨hrmem, hrdim⟩ := List.mem_filter.mp hrmem
    rw [hr, hb.only_root r hrmem (of_decide_eq_true hrdim)]
  rw [hop, hrootList, readEdge_eq_ok hedges hrelations, List.map_cons, List.map_nil, List.map_cons, List.map_nil,
    List.foldlM_cons, hb.visit_eq h hrecords, ok_bind, List.foldlM_nil] at hmembers
  cases hmembers
  exact ⟨root, account, portfolio, operation, hb, hvalue, hb.sortedClosure_eq h hrecords⟩

end Register

/-! ## The closure -/

/-- An accepted change set is a forest with one root apart, in which every operation has one
portfolio above it and that one account; the closures that `validate` computes end, and the
closure of a registered operation is the root with the three nodes of its branch. -/
theorem scope_closure (env : Environment) (db : Database) :
    (∀ payload barriers, validate env db payload = .ok barriers →
      ∃ nodes relations, readNodes env db payload = .ok nodes ∧
        payload.changeSet.relations.mapM (readRelation nodes) = .ok relations ∧
        (nodes.map Node.digest).Nodup ∧
        (∀ child ∈ nodes, (parentsOf relations child.digest).length ≤ 1 ∧
          ∀ p ∈ parentsOf relations child.digest, ∃ parent ∈ nodes, parent.digest = p ∧
            parent.identity.dimension.index < child.identity.dimension.index) ∧
        (∀ node ∈ nodes, ∃ members, closure (parentsOf relations) (nodes.length + 1) node.digest [] = .ok members) ∧
        ∀ operation ∈ nodes, operation.identity.dimension = .operation →
          ∃ root account portfolio, Branch nodes relations root account portfolio operation ∧
            closure (parentsOf relations) (nodes.length + 1) operation.digest [] =
              .ok [operation.digest, portfolio.digest, account.digest]) ∧
    ∀ evidence state lock envelope ordered, verifyRegistration env db evidence state lock = .ok (envelope, ordered) →
      ∃ command nodes relations root account portfolio operation, activeCommand db state = .ok command ∧
        readNodes env db command = .ok nodes ∧
        command.changeSet.relations.mapM (readRelation nodes) = .ok relations ∧
        Branch nodes relations root account portfolio operation ∧
        operation.identity.value = evidence.operationId ∧
        ordered = [root.digest, account.digest, portfolio.digest, operation.digest] := by
  constructor
  · intro payload barriers hvalid
    obtain ⟨nodes, relations, hnodes, hrelations, h⟩ := validate_eq_ok hvalid
    refine ⟨nodes, relations, hnodes, hrelations, h.nodup, fun child hchild => ⟨?_, fun p hp => ?_⟩, h.closures,
      fun operation hmem hdim => ?_⟩
    · rw [h.parents child hchild, expectedParents]
      split <;> omega
    · obtain ⟨parent, hparent, he, htyped⟩ := h.parent hchild hp
      refine ⟨parent, hparent, he, ?_⟩
      rcases htyped with ⟨hc, hp⟩ | ⟨hc, hp⟩ <;> simp [hc, hp, ScopeKind.index]
    · obtain ⟨root, account, portfolio, hb⟩ := h.branch hmem hdim
      exact ⟨root, account, portfolio, hb, hb.closure_eq h⟩
  · intro evidence state lock envelope ordered hverify
    unfold verifyRegistration at hverify
    obtain ⟨-, hverify⟩ := raiseIf_bind_eq_ok.mp hverify
    obtain ⟨-, hverify⟩ := raiseIf_bind_eq_ok.mp hverify
    obtain ⟨command, hcommand, hverify⟩ := bind_eq_ok.mp hverify
    obtain ⟨⟨records, found⟩, hclosure, hverify⟩ := bind_eq_ok.mp hverify
    obtain ⟨_, -, hverify⟩ := bind_eq_ok.mp hverify
    obtain ⟨_, -, hverify⟩ := bind_eq_ok.mp hverify
    obtain ⟨_, -, hverify⟩ := bind_eq_ok.mp hverify
    obtain ⟨barriers, hvalid, hverify⟩ := bind_eq_ok.mp hverify
    obtain ⟨-, hverify⟩ := raiseIf_bind_eq_ok.mp hverify
    cases hverify
    obtain ⟨nodes, relations, hnodes, hrelations, h⟩ := validate_eq_ok hvalid
    obtain ⟨root, account, portfolio, operation, hb, hvalue, hordered⟩ :=
      operationClosure_eq_ok hnodes hrelations h hclosure
    exact ⟨command, nodes, relations, root, account, portfolio, operation, hcommand, hnodes, hrelations, hb, hvalue,
      hordered⟩

/-! ### A sample registry -/

namespace Sample

def record (dimension ns value producer : String) : Value := .dict
  [(some "schema", .str "scope-identity/v1"), (some "dimension", .str dimension), (some "namespace", .str ns),
    (some "deployment_id", .str "paper"), (some "value", .str value), (some "producer_id", .str producer),
    (some "producer_epoch", .int 1)]

def rootRecord : Value := record "GLOBAL" "atis.global/v1" "paper" "registry"
def accountRecord : Value := record "ACCOUNT" "atis.account/v1" "account-1" "atis.account-state-authority"
def portfolioRecord : Value := record "PORTFOLIO" "atis.portfolio/v1" "portfolio-1" "atis.portfolio-state-authority"
def operationRecord : Value := record "OPERATION" "atis.operation/v1" "operation-1" "registry"

def rootDigest : String := "0a74f135258d606d15bb3975a9eb51f0cb019cddd15d2bafe6c6dd086e4c8106"
def accountDigest : String := "77e6bbeedc5b5b295eeb33ab18b9b0057af5b7a36a05add70657c86fc1a3e375"
def portfolioDigest : String := "82e26fad56d8a605c16f3c2810cdc0d21044a2c2f4fcd076bcb72efb7e8b300d"
def operationDigest : String := "d3570bb7bfaa3b55157c1d2a263e1c5d0e749911ff853ec58cfd5c90d77a8976"
def closureDigest : String := "805903708a8980a74b8796fe8cc4a65f8cbd11f4a7d5dd430341437ef56b3a27"

/-- SHA-256 of the bytes of the sample, by their number. -/
def digests : List (Nat × String) :=
  [(164, rootDigest), (190, accountDigest), (198, portfolioDigest), (176, operationDigest), (148, closureDigest)]

/-- Texts are ASCII, and the two assertions and the envelope are signed. -/
def env : Environment :=
  { py := IdentityScope.asciiPlatform
    isControl := fun c => c.toNat < 32
    sha256 := fun raw => ((digests.find? fun d => d.1 = raw.data.toList.length).map Prod.snd).getD ""
    verifyU3Signature := fun _ _ _ => "VALID_SIGNATURE_ONLY" }

/-- The first assertion of an identity. -/
def assertion (schema digest : String) (parent : List (Option String × Value)) : Value := .dict
  [(some "algorithm", .str "ECDSA_P256_SHA256"),
    (some "payload", .dict ((
      [(some "schema", .str schema), (some "identity_digest", .str digest), (some "lifecycle_version", .int 1),
        (some "state", .str "ACTIVE"), (some "valid_from", .str "2026-01-01T00:00:00.000000Z"),
        (some "valid_until", .str "2027-01-01T00:00:00.000000Z"), (some "policy_version", .int 1),
        (some "producer_key_id", .str "key-1"), (some "producer_key_version", .int 1),
        (some "predecessor_digest", .none), (some "nonce", .str digest)] : List (Option String × Value)) ++ parent)),
    (some "signature_b64", .str (String.ofList (List.replicate 86 'A' ++ ['=', '='])))]

def accountAssertion : Value := assertion "account-identity-assertion/v1" accountDigest []
def portfolioAssertion : Value := assertion "portfolio-identity-assertion/v1" portfolioDigest
  [(some "parent_account_identity_digest", .str accountDigest)]

def entry (record assertion : Value) : Value := .dict [(some "record", record), (some "assertion", assertion)]

def relation (child parent kind : String) : Value :=
  .dict [(some "child", .str child), (some "parent", .str parent), (some "type", .str kind)]

def rule (dimension : String) : Value := .dict
  [(some "operation_class", .str "TRADE"), (some "dimension", .str dimension), (some "minimum", .int 1),
    (some "maximum", .int 1)]

def payload : RegistryPayload :=
  { actor := "registry", deploymentId := "paper",
    changeSet :=
      { identities := [entry rootRecord .none, entry accountRecord accountAssertion,
          entry portfolioRecord portfolioAssertion, entry operationRecord .none],
        relations := [relation portfolioDigest accountDigest "PORTFOLIO_ACCOUNT",
          relation operationDigest portfolioDigest "OPERATION_LEAF"],
        rules := ["GLOBAL", "ACCOUNT", "PORTFOLIO"].map rule ++ [rule "OPERATION"], issuers := [.str "issuer-1"] } }

def barrier (digest : String) (rank : Nat) (record : Value) : BarrierRow :=
  ⟨digest, "issuer-1", "paper", rank, (Stage5.ScopeRegistry.canonical env record).toOption.getD ⟨#[]⟩, 0, "ACTIVE",
    "DENY"⟩

def db : Database :=
  { issuers := [⟨"paper", "issuer-1", 0⟩], identities := [],
    commands := [⟨"activation-1", "ACTIVATE", payload⟩],
    barriers := [barrier rootDigest 0 rootRecord, barrier accountDigest 1 accountRecord,
      barrier portfolioDigest 2 portfolioRecord, barrier operationDigest 6 operationRecord],
    snapshot := payload.changeSet.body }

def evidence : RegistrationEvidence :=
  { operationId := "operation-1", operationCoreBytes := ⟨#[]⟩, signedScopeEnvelopeBytes := ⟨#[]⟩,
    envelope :=
      { deploymentId := "paper", catalogueEpoch := 2, operationClass := "TRADE",
        leafIdentities := [rootRecord, accountRecord, portfolioRecord, operationRecord],
        closureDigest := closureDigest,
        identityAssertions := [.dict [], accountAssertion, portfolioAssertion, .dict []] } }

/-! The nodes that the identities are read as, and the relations. -/

def rootIdentity : IdentityRecordV1 := ⟨.global, "atis.global/v1", "paper", "paper", "registry", 1⟩
def accountIdentity : IdentityRecordV1 :=
  ⟨.account, "atis.account/v1", "paper", "account-1", "atis.account-state-authority", 1⟩
def portfolioIdentity : IdentityRecordV1 :=
  ⟨.portfolio, "atis.portfolio/v1", "paper", "portfolio-1", "atis.portfolio-state-authority", 1⟩
def operationIdentity : IdentityRecordV1 := ⟨.operation, "atis.operation/v1", "paper", "operation-1", "registry", 1⟩

def root : Node := ⟨rootDigest, rootIdentity, entry rootRecord .none, none⟩
def account : Node := ⟨accountDigest, accountIdentity, entry accountRecord accountAssertion, none⟩
def portfolio : Node :=
  ⟨portfolioDigest, portfolioIdentity, entry portfolioRecord portfolioAssertion, some (.str accountDigest)⟩
def operation : Node := ⟨operationDigest, operationIdentity, entry operationRecord .none, none⟩

def nodes : List Node := [root, account, portfolio, operation]

def relations : List Relation :=
  [⟨portfolioDigest, accountDigest, "PORTFOLIO_ACCOUNT"⟩, ⟨operationDigest, portfolioDigest, "OPERATION_LEAF"⟩]

/-- The texts of the bodies and of the assertions are within the limits. -/
theorem encodes : ∀ v ∈ [rootIdentity.body, accountIdentity.body, portfolioIdentity.body, operationIdentity.body,
    accountAssertion, portfolioAssertion, .dict []], ∃ raw, Stage5.ScopeRegistry.canonical env v = .ok raw := by
  have hsome : ∀ v ∈ [rootIdentity.body, accountIdentity.body, portfolioIdentity.body, operationIdentity.body,
      accountAssertion, portfolioAssertion, .dict []], (Stage5.ScopeRegistry.canonical env v).toOption.isSome = true := by
    decide +kernel
  intro v hv
  obtain ⟨raw, hraw⟩ := Option.isSome_iff_exists.mp (hsome v hv)
  exact ⟨raw, ok_of_toOption hraw⟩

theorem digest_nodes : ∀ n ∈ nodes, n.identity.digest env = .ok n.digest := by
  have hall : ∀ n ∈ nodes, (n.identity.digest env).toOption = some n.digest := by decide +kernel
  exact fun n hn => ok_of_toOption (hall n hn)

theorem wellFormed_accountAssertion : WellFormed accountAssertion := by
  simp [WellFormed, accountAssertion, assertion, tree, treeFields, treeField, Distinct]

theorem wellFormed_portfolioAssertion : WellFormed portfolioAssertion := by
  simp [WellFormed, portfolioAssertion, assertion, tree, treeFields, treeField, Distinct]

/-- What is written reads back. -/
theorem parseContainer_canonical {v : Value} {raw : ByteArray} (hd : v.isDict = true) (hw : WellFormed v)
    (h : Stage5.ScopeRegistry.canonical env v = .ok raw) :
    parseContainer env raw = containerPayload (IdentityScope.canonical v) := by
  rw [parseContainer, parse_canonicalBytes hd hw (mapError_eq_ok.mp h)]
  rfl

theorem checkAssertion_account : checkAssertion env payload accountIdentity accountAssertion = .ok none := by
  obtain ⟨raw, hraw⟩ := encodes accountAssertion (by simp)
  obtain ⟨body, hbody⟩ := encodes accountIdentity.body (by simp)
  have howned : accountIdentity.dimension = .account ∨ accountIdentity.dimension = .portfolio := .inl rfl
  rw [checkAssertion, if_pos howned, hraw, ok_bind, hbody, ok_bind,
    parseContainer_canonical rfl wellFormed_accountAssertion hraw]
  rfl

theorem checkAssertion_portfolio :
    checkAssertion env payload portfolioIdentity portfolioAssertion = .ok (some (.str accountDigest)) := by
  obtain ⟨raw, hraw⟩ := encodes portfolioAssertion (by simp)
  obtain ⟨body, hbody⟩ := encodes portfolioIdentity.body (by simp)
  have howned : portfolioIdentity.dimension = .account ∨ portfolioIdentity.dimension = .portfolio := .inr rfl
  rw [checkAssertion, if_pos howned, hraw, ok_bind, hbody, ok_bind,
    parseContainer_canonical rfl wellFormed_portfolioAssertion hraw]
  rfl

/-- A new identity adds its node. -/
theorem addIdentity_new {before : List Node} {node : Node} {record assertion : Value}
    (hentry : node.entry = entry record assertion) (hparse : IdentityRecordV1.parse env record = .ok node.identity)
    (hcontext : ¬ (node.identity.dimension ∉ ScopeKind.supported ∨ node.identity.deploymentId ≠ payload.deploymentId))
    (hdigest : node.identity.digest env = .ok node.digest) (hnew : node.digest ∉ before.map Node.digest)
    (hassertion : checkAssertion env payload node.identity assertion = .ok node.asserted)
    (hroot : ¬ (node.identity.dimension = .global ∧ node.identity.value ≠ payload.deploymentId)) :
    addIdentity env db payload before node.entry = .ok (before ++ [node]) := by
  rw [hentry]
  unfold addIdentity
  rw [show exactFields (entry record assertion) ["record", "assertion"] = .ok () from rfl, ok_bind,
    show item (entry record assertion) "record" = .ok record from rfl, ok_bind, hparse, ok_bind,
    raiseIf_of_not hcontext, ok_bind, hdigest, ok_bind, raiseIf_of_not hnew, ok_bind,
    show item (entry record assertion) "assertion" = .ok assertion from rfl, ok_bind, hassertion, ok_bind,
    raiseIf_of_not hroot, ok_bind, ← hentry]
  rfl

theorem readNodes_eq : readNodes env db payload = .ok nodes := by
  have hroot : addIdentity env db payload [] root.entry = .ok [root] :=
    addIdentity_new rfl rfl (by decide) (digest_nodes root (by simp [nodes])) (by decide) rfl (by decide)
  have haccount : addIdentity env db payload [root] account.entry = .ok [root, account] :=
    addIdentity_new rfl rfl (by decide) (digest_nodes account (by simp [nodes])) (by decide) checkAssertion_account
      (by decide)
  have hportfolio : addIdentity env db payload [root, account] portfolio.entry = .ok [root, account, portfolio] :=
    addIdentity_new rfl rfl (by decide) (digest_nodes portfolio (by simp [nodes])) (by decide)
      checkAssertion_portfolio (by decide)
  have hoperation : addIdentity env db payload [root, account, portfolio] operation.entry = .ok nodes :=
    addIdentity_new rfl rfl (by decide) (digest_nodes operation (by simp [nodes])) (by decide) rfl (by decide)
  show [root.entry, account.entry, portfolio.entry, operation.entry].foldlM (addIdentity env db payload) [] = _
  rw [List.foldlM_cons, hroot, ok_bind, List.foldlM_cons, haccount, ok_bind, List.foldlM_cons, hportfolio, ok_bind,
    List.foldlM_cons, hoperation, ok_bind]
  rfl

theorem checkIdentities_eq : Stage5.ScopeRegistry.checkIdentities env nodes = .ok () := by
  obtain ⟨r, hr⟩ := encodes rootIdentity.body (by simp)
  obtain ⟨a, ha⟩ := encodes accountIdentity.body (by simp)
  obtain ⟨p, hp⟩ := encodes portfolioIdentity.body (by simp)
  obtain ⟨o, ho⟩ := encodes operationIdentity.body (by simp)
  have horder : nodes.mapM (orderKey env) = .ok [(0, r), (1, a), (2, p), (6, o)] := by
    simp only [nodes, List.mapM_cons, List.mapM_nil, orderKey, root, account, portfolio, operation, hr, ha, hp, ho,
      ok_bind]
    rfl
  rw [Stage5.ScopeRegistry.checkIdentities, horder, ok_bind, raiseIf_of_not, ok_bind]
  · exact raiseIf_of_not (by decide)
  · rw [not_or, not_or]
    exact ⟨by simp, by simp [nodes], by decide⟩

def closures : List (Node × List String) :=
  [(root, [rootDigest]), (account, [accountDigest]), (portfolio, [portfolioDigest, accountDigest]),
    (operation, [operationDigest, portfolioDigest, accountDigest])]

def rules : List Rule :=
  [⟨"TRADE", .global, 1, 1⟩, ⟨"TRADE", .account, 1, 1⟩, ⟨"TRADE", .portfolio, 1, 1⟩, ⟨"TRADE", .operation, 1, 1⟩]

theorem validate_eq : ∃ barriers, validate env db payload = .ok barriers := by
  have hrelations : payload.changeSet.relations.mapM (readRelation nodes) = .ok relations := rfl
  have hgraph : checkGraph nodes relations = .ok closures := rfl
  have hrules : payload.changeSet.rules.mapM readRule = .ok rules := rfl
  have hclasses : checkRules nodes closures rules = .ok () := rfl
  obtain ⟨r, hr⟩ := encodes rootIdentity.body (by simp)
  obtain ⟨a, ha⟩ := encodes accountIdentity.body (by simp)
  obtain ⟨p, hp⟩ := encodes portfolioIdentity.body (by simp)
  obtain ⟨o, ho⟩ := encodes operationIdentity.body (by simp)
  unfold validate
  rw [show checkIssuers db payload = .ok () from rfl, ok_bind, readNodes_eq, ok_bind, checkIdentities_eq, ok_bind,
    hrelations, ok_bind, hgraph, ok_bind, hrules, ok_bind, hclasses, ok_bind]
  simp only [nodes, List.mapM_cons, List.mapM_nil, root, account, portfolio, operation, hr, ha, hp, ho, ok_bind]
  exact ⟨_, rfl⟩

def state : RegistryState := ⟨"paper", 2, some "activation-1"⟩

def records : List (String × Recorded) :=
  [(rootDigest, ⟨rootIdentity, rootRecord, .none⟩), (accountDigest, ⟨accountIdentity, accountRecord, accountAssertion⟩),
    (portfolioDigest, ⟨portfolioIdentity, portfolioRecord, portfolioAssertion⟩),
    (operationDigest, ⟨operationIdentity, operationRecord, .none⟩)]

def ordered : List String := [rootDigest, accountDigest, portfolioDigest, operationDigest]

theorem readRecord_eq {identity : IdentityRecordV1} {digest : String} (record : Value) {assertion : Value}
    (hparse : IdentityRecordV1.parse env record = .ok identity) (hdigest : identity.digest env = .ok digest) :
    readRecord env (entry record assertion) = .ok (digest, ⟨identity, record, assertion⟩) := by
  rw [readRecord, show item (entry record assertion) "record" = .ok record from rfl, ok_bind, hparse, ok_bind, hdigest,
    ok_bind]
  rfl

theorem operationClosure_eq : operationClosure env payload.changeSet "operation-1" = .ok (records, ordered) := by
  have hread : payload.changeSet.identities.mapM (readRecord env) = .ok records := by
    show [entry rootRecord .none, entry accountRecord accountAssertion, entry portfolioRecord portfolioAssertion,
      entry operationRecord .none].mapM (readRecord env) = _
    simp only [List.mapM_cons, List.mapM_nil, ok_bind,
      readRecord_eq rootRecord rfl (digest_nodes root (by simp [nodes])),
      readRecord_eq accountRecord rfl (digest_nodes account (by simp [nodes])),
      readRecord_eq portfolioRecord rfl (digest_nodes portfolio (by simp [nodes])),
      readRecord_eq operationRecord rfl (digest_nodes operation (by simp [nodes]))]
    rfl
  rw [operationClosure, readRecords, hread, ok_bind]
  rfl

theorem get?_records {digest : String} {r : Recorded} (h : (digest, r) ∈ records) :
    Dict.get? digest records = some r :=
  Dict.get?_of_mem (by decide) h

/-- A leaf with the record and the assertion of the change set. -/
theorem checkLeaf_eq {n : Node} (hn : n ∈ nodes) {assertion : Value}
    (hmem : (n.digest, ⟨n.identity, n.identity.body, assertion⟩) ∈ records)
    (hbody : ∃ raw, Stage5.ScopeRegistry.canonical env n.identity.body = .ok raw)
    (hassertion : ∃ raw, Stage5.ScopeRegistry.canonical env (Value.orEmpty assertion) = .ok raw) :
    checkLeaf env records (n.identity, Value.orEmpty assertion) = .ok () := by
  obtain ⟨body, hbody⟩ := hbody
  obtain ⟨raw, hraw⟩ := hassertion
  rw [checkLeaf, digest_nodes n hn, ok_bind, get?_records hmem]
  simp only [orRaise, hbody, hraw, ok_bind, ne_eq, not_true_eq_false, raiseIf_of_not, not_false_eq_true]

theorem checkLeaves_eq : checkLeaves env payload.changeSet evidence.envelope records ordered = .ok () := by
  have hleaves : evidence.envelope.leafIdentities.mapM (IdentityRecordV1.parse env) =
      .ok [rootIdentity, accountIdentity, portfolioIdentity, operationIdentity] := rfl
  have hdigests : [rootIdentity, accountIdentity, portfolioIdentity, operationIdentity].mapM
      (IdentityRecordV1.digest env) = .ok ordered := by
    simp only [List.mapM_cons, List.mapM_nil, ok_bind, show rootIdentity.digest env = .ok rootDigest from
      digest_nodes root (by simp [nodes]), show accountIdentity.digest env = .ok accountDigest from
      digest_nodes account (by simp [nodes]), show portfolioIdentity.digest env = .ok portfolioDigest from
      digest_nodes portfolio (by simp [nodes]), show operationIdentity.digest env = .ok operationDigest from
      digest_nodes operation (by simp [nodes])]
    rfl
  have hclosure : digestList env ordered = .ok closureDigest := ok_of_toOption (by decide +kernel)
  have hrules : payload.changeSet.rules.mapM readRule = .ok rules := rfl
  have hempty := encodes (.dict []) (by simp)
  have hleaf : ([rootIdentity, accountIdentity, portfolioIdentity, operationIdentity].zip
      evidence.envelope.identityAssertions).forM (checkLeaf env records) = .ok () := by
    rw [forM_eq_ok]
    intro leaf hleaf
    simp only [evidence, List.zip_cons_cons, List.zip_nil_right, List.mem_cons, List.not_mem_nil, or_false] at hleaf
    rcases hleaf with rfl | rfl | rfl | rfl
    · show checkLeaf env records (root.identity, Value.orEmpty .none) = .ok ()
      exact checkLeaf_eq (by simp [nodes]) (List.mem_cons_self ..) (encodes rootIdentity.body (by simp)) hempty
    · show checkLeaf env records (account.identity, Value.orEmpty accountAssertion) = .ok ()
      exact checkLeaf_eq (by simp [nodes]) (List.mem_cons_of_mem _ (List.mem_cons_self ..))
        (encodes accountIdentity.body (by simp)) (encodes accountAssertion (by simp))
    · show checkLeaf env records (portfolio.identity, Value.orEmpty portfolioAssertion) = .ok ()
      exact checkLeaf_eq (by simp [nodes])
        (List.mem_cons_of_mem _ (List.mem_cons_of_mem _ (List.mem_cons_self ..)))
        (encodes portfolioIdentity.body (by simp)) (encodes portfolioAssertion (by simp))
    · show checkLeaf env records (operation.identity, Value.orEmpty .none) = .ok ()
      exact checkLeaf_eq (by simp [nodes])
        (List.mem_cons_of_mem _ (List.mem_cons_of_mem _ (List.mem_cons_of_mem _ (List.mem_cons_self ..))))
        (encodes operationIdentity.body (by simp)) hempty
  have hmatch : ¬ (ordered ≠ ordered ∨ evidence.envelope.closureDigest ≠ closureDigest) :=
    not_or.mpr ⟨not_not.mpr rfl, not_not.mpr rfl⟩
  unfold checkLeaves
  rw [hleaves, ok_bind, hdigests, ok_bind, hclosure, ok_bind, raiseIf_of_not hmatch, ok_bind, hrules, ok_bind]
  dsimp only
  rw [raiseIf_of_not (by decide), ok_bind, hleaf, ok_bind]
  exact raiseIf_of_not (by decide)

theorem checkBarrier_eq {digest : String} (recorded : Recorded) (hmem : (digest, recorded) ∈ records)
    (hrecord : ∃ raw, Stage5.ScopeRegistry.canonical env recorded.record = .ok raw) :
    checkBarrier env db state records (barrier digest recorded.identity.dimension.index recorded.record) = .ok () := by
  obtain ⟨raw, hraw⟩ := hrecord
  rw [checkBarrier, barrier, get?_records hmem, show orRaise (Error.keyError digest) (some recorded) = .ok recorded from
    rfl, ok_bind, hraw, ok_bind]
  refine raiseIf_of_not ?_
  simp [Except.toOption, state, db]

theorem checkBarriers_eq : checkBarriers env db state records ordered = .ok () := by
  have hrows : ∀ row ∈ db.barriers, checkBarrier env db state records row = .ok () := by
    intro row hrow
    simp only [db, List.mem_cons, List.not_mem_nil, or_false] at hrow
    rcases hrow with rfl | rfl | rfl | rfl
    · exact checkBarrier_eq ⟨rootIdentity, rootRecord, .none⟩ (List.mem_cons_self ..)
        (encodes rootIdentity.body (by simp))
    · exact checkBarrier_eq ⟨accountIdentity, accountRecord, accountAssertion⟩
        (List.mem_cons_of_mem _ (List.mem_cons_self ..)) (encodes accountIdentity.body (by simp))
    · exact checkBarrier_eq ⟨portfolioIdentity, portfolioRecord, portfolioAssertion⟩
        (List.mem_cons_of_mem _ (List.mem_cons_of_mem _ (List.mem_cons_self ..)))
        (encodes portfolioIdentity.body (by simp))
    · exact checkBarrier_eq ⟨operationIdentity, operationRecord, .none⟩
        (List.mem_cons_of_mem _ (List.mem_cons_of_mem _ (List.mem_cons_of_mem _ (List.mem_cons_self ..))))
        (encodes operationIdentity.body (by simp))
  unfold checkBarriers
  dsimp only
  rw [raiseIf_of_not (by decide), ok_bind, forM_eq_ok]
  exact fun row hrow => hrows row (List.mem_filter.mp hrow).1

theorem verify_eq : verifyRegistration env db evidence state false = .ok (evidence.envelope, ordered) := by
  obtain ⟨barriers, hvalid⟩ := validate_eq
  have hdeployment : evidence.envelope.deploymentId = state.deployment := rfl
  have hepoch : evidence.envelope.catalogueEpoch = state.catalogueEpoch := rfl
  have hcommand : activeCommand db state = .ok payload := rfl
  have hoperation : evidence.operationId = "operation-1" := rfl
  have hsnapshot : checkSnapshot env db payload.changeSet false = .ok () := rfl
  have hsigned : ∀ core envelope, env.verifyU3Signature "SCOPE" core envelope = "VALID_SIGNATURE_ONLY" := fun _ _ => rfl
  unfold verifyRegistration
  dsimp only
  rw [raiseIf_of_not (not_not.mpr hdeployment), ok_bind, raiseIf_of_not (not_not.mpr hepoch), ok_bind, hcommand,
    ok_bind, hoperation, operationClosure_eq, ok_bind]
  dsimp only
  rw [checkLeaves_eq, ok_bind, checkBarriers_eq, ok_bind, hsnapshot, ok_bind, hvalid, ok_bind, hsigned,
    raiseIf_of_not (not_not.mpr rfl), ok_bind]
  rfl

end Sample

/-- The account of the sample has no parent, so that the root is not reached by following parents. -/
theorem account_without_parent : ∃ barriers nodes relations, validate Sample.env Sample.db Sample.payload = .ok barriers ∧
    readNodes Sample.env Sample.db Sample.payload = .ok nodes ∧
    Sample.payload.changeSet.relations.mapM (readRelation nodes) = .ok relations ∧
    ∃ account ∈ nodes, account.identity.dimension = .account ∧ ∀ root ∈ nodes, root.identity.dimension = .global →
      ¬ Relation.ReflTransGen (fun child parent => parent ∈ parentsOf relations child) account.digest root.digest := by
  obtain ⟨barriers, hvalid⟩ := Sample.validate_eq
  refine ⟨barriers, Sample.nodes, Sample.relations, hvalid, Sample.readNodes_eq, rfl, Sample.account, by
    simp [Sample.nodes], rfl, fun root hroot hdim hreach => ?_⟩
  have hparents : parentsOf Sample.relations Sample.account.digest = [] := by decide
  rcases Relation.ReflTransGen.cases_head hreach with heq | ⟨parent, hparent, -⟩
  · obtain ⟨nodes, relations, hnodes, -, haccepted⟩ := validate_eq_ok hvalid
    rw [Sample.readNodes_eq] at hnodes
    cases hnodes
    have := haccepted.digest_inj (by simp [Sample.nodes]) hroot heq
    rw [← this] at hdim
    cases hdim
  · rw [hparents] at hparent
    cases hparent

theorem scope_closure_sample :
    (∃ barriers, validate Sample.env Sample.db Sample.payload = .ok barriers ∧
      ∃ root account portfolio, Branch Sample.nodes Sample.relations root account portfolio Sample.operation) ∧
    verifyRegistration Sample.env Sample.db Sample.evidence Sample.state false =
      .ok (Sample.evidence.envelope, [Sample.root.digest, Sample.account.digest, Sample.portfolio.digest,
        Sample.operation.digest]) ∧
    ∃ command nodes relations root account portfolio operation, activeCommand Sample.db Sample.state = .ok command ∧
      readNodes Sample.env Sample.db command = .ok nodes ∧ Branch nodes relations root account portfolio operation ∧
      Sample.ordered = [root.digest, account.digest, portfolio.digest, operation.digest] := by
  obtain ⟨barriers, hvalid⟩ := Sample.validate_eq
  obtain ⟨hvalidate, hverify⟩ := scope_closure Sample.env Sample.db
  obtain ⟨nodes, relations, hnodes, hrelations, -, -, -, hbranch⟩ := hvalidate Sample.payload barriers hvalid
  rw [Sample.readNodes_eq] at hnodes
  cases hnodes
  obtain rfl : Sample.relations = relations := by
    have : (.ok Sample.relations : Except Error _) = .ok relations := hrelations
    exact Except.ok.inj this
  obtain ⟨root, account, portfolio, hb, -⟩ := hbranch Sample.operation (by simp [Sample.nodes]) rfl
  refine ⟨⟨barriers, hvalid, root, account, portfolio, hb⟩, Sample.verify_eq, ?_⟩
  obtain ⟨command, nodes, relations, root, account, portfolio, operation, hcommand, hnodes, -, hb, -, hordered⟩ :=
    hverify Sample.evidence Sample.state false _ _ Sample.verify_eq
  exact ⟨command, nodes, relations, root, account, portfolio, operation, hcommand, hnodes, hb, hordered⟩

end ATB.Proof.ScopeRegistry
