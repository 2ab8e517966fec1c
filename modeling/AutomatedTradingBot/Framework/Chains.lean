import AutomatedTradingBot.Framework.Lineage
import Mathlib.Data.List.Chain

/-!
# Chains of predecessors

A walk from one identity to the next by `parent`, which stops at an identity without a
parent, and raises when it comes back to one that it has seen or has gone too far.

* `follow_eq_ok`, `pursue_eq_ok`: a walk accepts exactly the chains that end within the
  depth;
* `loop_iteration`, `loop_pursuit`: the unbounded loops of the source stop, with what the
  walks return;
* `checkEdges_eq_ok`: a checked lineage is a forest of chains, along which knowledge
  increases;
* `chainForest_iff`: a forest of chains is the versions of distinct chains, listed one by
  one.
-/

namespace ATB.Lineage

section Parent

variable {I : Type} (parent : I → Option I)

/-- The chain of parents ends after so many steps. -/
def Ends : Nat → I → Prop
  | 0, i => parent i = none
  | n + 1, i => ∃ p, parent i = some p ∧ Ends n p

/-- So many steps lead from one identity to another. -/
def Steps : Nat → I → I → Prop
  | 0, i, j => i = j
  | n + 1, i, j => ∃ p, parent i = some p ∧ Steps n p j

variable {parent}

theorem Ends.of_steps {n k : Nat} {i j : I} (h : Ends parent n i) (hs : Steps parent k i j) :
    ∃ m, n = m + k ∧ Ends parent m j := by
  induction k generalizing n i with
  | zero =>
    cases hs
    exact ⟨n, rfl, h⟩
  | succ k ih =>
    obtain ⟨p, hp, hs⟩ := hs
    cases n with
    | zero =>
      rw [Ends, hp] at h
      cases h
    | succ n =>
      obtain ⟨q, hq, h⟩ := h
      obtain rfl : q = p := Option.some.inj (hq.symm.trans hp)
      obtain ⟨m, rfl, hm⟩ := ih h hs
      exact ⟨m, by omega, hm⟩

theorem Ends.unique {m n : Nat} {i : I} (hm : Ends parent m i) (hn : Ends parent n i) : m = n := by
  induction m generalizing n i with
  | zero =>
    cases n with
    | zero => rfl
    | succ n =>
      obtain ⟨p, hp, -⟩ := hn
      rw [Ends, hp] at hm
      cases hm
  | succ m ih =>
    obtain ⟨p, hp, hm⟩ := hm
    cases n with
    | zero =>
      rw [Ends, hp] at hn
      cases hn
    | succ n =>
      obtain ⟨q, hq, hn⟩ := hn
      obtain rfl : q = p := Option.some.inj (hq.symm.trans hp)
      rw [ih hm hn]

/-- A chain that ends does not come back. -/
theorem Ends.no_return {n k : Nat} {i : I} (h : Ends parent n i) : ¬ Steps parent (k + 1) i i := by
  intro hs
  obtain ⟨m, hn, hm⟩ := h.of_steps hs
  have := h.unique hm
  omega

theorem Steps.trans {k l : Nat} {i j m : I} (h : Steps parent k i j) (h' : Steps parent l j m) :
    Steps parent (k + l) i m := by
  induction k generalizing i with
  | zero =>
    cases h
    rwa [Nat.zero_add]
  | succ k ih =>
    obtain ⟨p, hp, h⟩ := h
    rw [Nat.succ_add]
    exact ⟨p, hp, ih h⟩

theorem Steps.single {i p : I} (h : parent i = some p) : Steps parent 1 i p := ⟨p, h, rfl⟩

/-- One step less to go. -/
theorem ends_succ_iff {i p : I} {depth : Nat} (hp : parent i = some p) :
    (∃ n ≤ depth, Ends parent n p) ↔ ∃ n ≤ depth + 1, Ends parent n i := by
  constructor
  · rintro ⟨n, hn, h⟩
    exact ⟨n + 1, Nat.succ_le_succ hn, p, hp, h⟩
  · rintro ⟨n, hn, h⟩
    cases n with
    | zero =>
      rw [Ends, hp] at h
      cases h
    | succ n =>
      obtain ⟨q, hq, h⟩ := h
      obtain rfl : q = p := Option.some.inj (hq.symm.trans hp)
      exact ⟨n, Nat.le_of_succ_le_succ hn, h⟩

variable [DecidableEq I]

/-- The walk from `current`, which may still go `depth` steps. -/
def follow (parent : I → Option I) (start : I) : Nat → List I → I → Except LineageFault Unit
  | depth, seen, current =>
    match parent current with
    | none => .ok ()
    | some p =>
      if p ∈ seen ∨ p = start then .error .cycle
      else
        match depth with
        | 0 => .error .tooDeep
        | depth + 1 => follow parent start depth (p :: seen) p

/-- The walk accepts exactly the chains that end within the depth. -/
theorem follow_eq_ok {start current : I} {depth : Nat} {seen : List I}
    (hseen : ∀ s ∈ start :: seen, ∃ k, Steps parent k s current) :
    follow parent start depth seen current = .ok () ↔ ∃ n ≤ depth, Ends parent n current := by
  induction depth generalizing seen current with
  | zero =>
    rw [follow]
    cases hp : parent current with
    | none => exact iff_of_true rfl ⟨0, le_rfl, hp⟩
    | some p =>
      refine iff_of_false (by dsimp only; split <;> simp) ?_
      rintro ⟨n, hn, h⟩
      obtain rfl := Nat.le_zero.mp hn
      rw [Ends, hp] at h
      cases h
  | succ depth ih =>
    rw [follow]
    cases hp : parent current with
    | none => exact iff_of_true rfl ⟨0, Nat.zero_le _, hp⟩
    | some p =>
      dsimp only
      by_cases hagain : p ∈ seen ∨ p = start
      · -- the walk has come to `current` from `p`, and goes back to it
        rw [if_pos hagain]
        refine iff_of_false (by simp) ?_
        rintro ⟨n, -, h⟩
        obtain ⟨k, hk⟩ := hseen p (hagain.elim (List.mem_cons_of_mem _) fun e => e ▸ List.mem_cons_self ..)
        exact h.no_return (k := k) ((Nat.add_comm 1 k) ▸ (Steps.single hp).trans hk)
      · rw [if_neg hagain, ih]
        · exact ends_succ_iff hp
        · intro s hs
          rcases List.mem_cons.mp hs with rfl | hs
          · obtain ⟨k, hk⟩ := hseen s (List.mem_cons_self ..)
            exact ⟨k + 1, hk.trans (.single hp)⟩
          · rcases List.mem_cons.mp hs with rfl | hs
            · exact ⟨0, rfl⟩
            · obtain ⟨k, hk⟩ := hseen s (List.mem_cons_of_mem _ hs)
              exact ⟨k + 1, hk.trans (.single hp)⟩

theorem follow_start_eq_ok {start : I} {depth : Nat} :
    follow parent start depth [] start = .ok () ↔ ∃ n ≤ depth, Ends parent n start :=
  follow_eq_ok fun s hs => by
    obtain rfl := List.mem_singleton.mp hs
    exact ⟨0, rfl⟩

/-- The walk that looks for `current` itself among those it has left. -/
def pursue (parent : I → Option I) : Nat → List I → I → Except LineageFault Unit
  | depth, seen, current =>
    match parent current with
    | none => .ok ()
    | some p =>
      if current ∈ seen then .error .cycle
      else
        match depth with
        | 0 => .error .tooDeep
        | depth + 1 => pursue parent depth (current :: seen) p

/-- It accepts the same chains. -/
theorem pursue_eq_ok {current : I} {depth : Nat} {seen : List I}
    (hseen : ∀ s ∈ seen, ∃ k, Steps parent (k + 1) s current) :
    pursue parent depth seen current = .ok () ↔ ∃ n ≤ depth, Ends parent n current := by
  induction depth generalizing seen current with
  | zero =>
    rw [pursue]
    cases hp : parent current with
    | none => exact iff_of_true rfl ⟨0, le_rfl, hp⟩
    | some p =>
      refine iff_of_false (by dsimp only; split <;> simp) ?_
      rintro ⟨n, hn, h⟩
      obtain rfl := Nat.le_zero.mp hn
      rw [Ends, hp] at h
      cases h
  | succ depth ih =>
    rw [pursue]
    cases hp : parent current with
    | none => exact iff_of_true rfl ⟨0, Nat.zero_le _, hp⟩
    | some p =>
      dsimp only
      by_cases hagain : current ∈ seen
      · rw [if_pos hagain]
        refine iff_of_false (by simp) ?_
        rintro ⟨n, -, h⟩
        obtain ⟨k, hk⟩ := hseen current hagain
        exact h.no_return hk
      · rw [if_neg hagain, ih]
        · exact ends_succ_iff hp
        · intro s hs
          rcases List.mem_cons.mp hs with rfl | hs
          · exact ⟨0, .single hp⟩
          · obtain ⟨k, hk⟩ := hseen s hs
            exact ⟨k + 1, hk.trans (.single hp)⟩

/-! ## The loops of the source -/

/-- What a loop keeps from one iteration to the next. -/
structure Cursor (I : Type) where
  seen : List I
  current : I
  depth : Nat

/-- One iteration of the loop from `start`: `none` is its `break`. -/
def iteration (parent : I → Option I) (start : I) (limit : Nat) (c : Cursor I) :
    Except LineageFault (Option (Cursor I)) :=
  match parent c.current with
  | none => .ok none
  | some p =>
    if p ∈ c.seen ∨ p = start then .error .cycle
    else if limit < c.depth + 1 then .error .tooDeep
    else .ok (some ⟨p :: c.seen, p, c.depth + 1⟩)

/-- One iteration of the loop that looks for `current` itself. -/
def pursuit (parent : I → Option I) (limit : Nat) (c : Cursor I) : Except LineageFault (Option (Cursor I)) :=
  match parent c.current with
  | none => .ok none
  | some p =>
    if c.current ∈ c.seen then .error .cycle
    else if limit < c.depth + 1 then .error .tooDeep
    else .ok (some ⟨c.current :: c.seen, p, c.depth + 1⟩)

/-- So many iterations at most: `none` when they are not enough. -/
def loop (step : Cursor I → Except LineageFault (Option (Cursor I))) : Nat → Cursor I → Option (Except LineageFault Unit)
  | 0, _ => none
  | fuel + 1, c =>
    match step c with
    | .error e => some (.error e)
    | .ok none => some (.ok ())
    | .ok (some c') => loop step fuel c'

/-- The loop stops on every input, with what `follow` returns. -/
theorem loop_iteration (parent : I → Option I) (start : I) {limit fuel : Nat} {c : Cursor I} (hc : c.depth ≤ limit)
    (hf : limit - c.depth < fuel) :
    loop (iteration parent start limit) fuel c = some (follow parent start (limit - c.depth) c.seen c.current) := by
  induction fuel generalizing c with
  | zero => omega
  | succ fuel ih =>
    rw [loop, iteration, follow]
    cases parent c.current with
    | none => rfl
    | some p =>
      dsimp only
      by_cases hagain : p ∈ c.seen ∨ p = start
      · rw [if_pos hagain, if_pos hagain]
      · rw [if_neg hagain, if_neg hagain]
        by_cases hdeep : limit < c.depth + 1
        · have hzero : limit - c.depth = 0 := by omega
          rw [if_pos hdeep, hzero]
        · have hsucc : limit - c.depth = (limit - (c.depth + 1)) + 1 := by omega
          rw [if_neg hdeep, hsucc]
          exact ih (by simpa using hdeep) (by simp only; omega)

/-- So does the other, with what `pursue` returns. -/
theorem loop_pursuit (parent : I → Option I) {limit fuel : Nat} {c : Cursor I} (hc : c.depth ≤ limit)
    (hf : limit - c.depth < fuel) :
    loop (pursuit parent limit) fuel c = some (pursue parent (limit - c.depth) c.seen c.current) := by
  induction fuel generalizing c with
  | zero => omega
  | succ fuel ih =>
    rw [loop, pursuit, pursue]
    cases parent c.current with
    | none => rfl
    | some p =>
      dsimp only
      by_cases hagain : c.current ∈ c.seen
      · rw [if_pos hagain, if_pos hagain]
      · rw [if_neg hagain, if_neg hagain]
        by_cases hdeep : limit < c.depth + 1
        · have hzero : limit - c.depth = 0 := by omega
          rw [if_pos hdeep, hzero]
        · have hsucc : limit - c.depth = (limit - (c.depth + 1)) + 1 := by omega
          rw [if_neg hdeep, hsucc]
          exact ih (by simpa using hdeep) (by simp only; omega)

end Parent

/-! ## Forests of chains -/

section Forest

variable {V I : Type} (key : V → I) (pred : V → Option I)

/-- One version of a tuple names another as its predecessor. -/
def Follows (values : List V) (newer older : V) : Prop :=
  newer ∈ values ∧ older ∈ values ∧ pred newer = some (key older)

/-- So many supersessions lead from one version down to another. -/
def Descends (values : List V) : Nat → V → V → Prop
  | 0, v, w => v = w
  | n + 1, v, w => ∃ x, Follows key pred values v x ∧ Descends values n x w

/-- The versions are distinct chains: predecessors are there, a version is superseded
once at most, and chains neither come back nor are too deep. -/
structure ChainForest (depth : Nat) (values : List V) : Prop where
  known : ∀ v ∈ values, ∀ p, pred v = some p → ∃ x ∈ values, key x = p
  single : ∀ v ∈ values, ∀ w ∈ values, ∀ p, pred v = some p → pred w = some p → v = w
  acyclic : ∀ v, ¬ Relation.TransGen (Follows key pred values) v v
  shallow : ∀ n, ∀ v ∈ values, ∀ w, Descends key pred values n v w → n ≤ depth

/-- A chain: its first version supersedes nothing, each of the others the one before it. -/
structure SimpleChain (c : List V) : Prop where
  rooted : ∀ v, c.head? = some v → pred v = none
  linked : c.IsChain fun older newer => pred newer = some (key older)

/-- The versions are those of distinct chains, which are not too deep. -/
def DisjointChains (depth : Nat) (values : List V) : Prop :=
  ∃ chains : List (List V), chains.flatten.Perm values ∧ ∀ c ∈ chains, SimpleChain key pred c ∧ c.length ≤ depth + 1

variable {key pred} {depth : Nat} {values : List V}

theorem Follows.mono {values' : List V} {newer older : V} (h : Follows key pred values newer older)
    (hsub : ∀ v ∈ values, v ∈ values') : Follows key pred values' newer older :=
  ⟨hsub newer h.1, hsub older h.2.1, h.2.2⟩

theorem ChainForest.perm {values' : List V} (h : ChainForest key pred depth values) (hp : values.Perm values') :
    ChainForest key pred depth values' := by
  have hs : ∀ {v x}, Follows key pred values' v x → Follows key pred values v x := fun h' =>
    h'.mono fun v hv => hp.mem_iff.mpr hv
  have hd : ∀ n v w, Descends key pred values' n v w → Descends key pred values n v w := by
    intro n
    induction n with
    | zero => exact fun _ _ h => h
    | succ n ih => exact fun v w ⟨x, hx, hw⟩ => ⟨x, hs hx, ih x w hw⟩
  constructor
  · intro v hv p hvp
    obtain ⟨x, hx, hxp⟩ := h.known v (hp.mem_iff.mpr hv) p hvp
    exact ⟨x, hp.mem_iff.mp hx, hxp⟩
  · exact fun v hv w hw => h.single v (hp.mem_iff.mpr hv) w (hp.mem_iff.mpr hw)
  · exact fun v hv => h.acyclic v (Relation.TransGen.mono (fun _ _ hx => hs hx) v v hv)
  · exact fun n v hv w hw => h.shallow n v (hp.mem_iff.mpr hv) w (hd n v w hw)

variable [DecidableEq I]

/-- The identity that the version of an identity supersedes. -/
def parentOf (key : V → I) (pred : V → Option I) (values : List V) (i : I) : Option I :=
  (Dict.get? i (Dict.ofKeys key values)).bind pred

theorem parentOf_id (hn : (values.map key).Nodup) {v : V} (hv : v ∈ values) :
    parentOf key pred values (key v) = pred v := by
  rw [parentOf, (Dict.get?_ofKeys hn).mpr ⟨hv, rfl⟩, Option.bind_some]

/-- A map of its own keys is its own walk. -/
theorem parentOf_eq {parent : I → Option I} {nodes : List I} (hn : nodes.Nodup)
    (h : ∀ i p, parent i = some p → i ∈ nodes) : parentOf id parent nodes = parent := by
  have hn' : (nodes.map id).Nodup := by rwa [List.map_id]
  funext i
  by_cases hi : i ∈ nodes
  · exact parentOf_id hn' hi
  · rw [parentOf, (Dict.get?_ofKeys_eq_none hn').mpr fun x hx (e : x = i) => hi (e ▸ hx), Option.bind_none]
    exact (Option.eq_none_iff_forall_ne_some.mpr fun p hp => hi (h i p hp)).symm

theorem Descends.steps (hn : (values.map key).Nodup) {n : Nat} {v w : V} (h : Descends key pred values n v w) :
    Steps (parentOf key pred values) n (key v) (key w) := by
  induction n generalizing v with
  | zero =>
    cases h
    rfl
  | succ n ih =>
    obtain ⟨x, hx, h⟩ := h
    exact ⟨key x, (parentOf_id hn hx.1).trans hx.2.2, ih h⟩

/-- Chains that are not too deep end. -/
theorem exists_ends (hn : (values.map key).Nodup)
    (hknown : ∀ v ∈ values, ∀ p, pred v = some p → ∃ x ∈ values, key x = p) {d : Nat} {v : V}
    (hv : v ∈ values) (hd : ∀ n w, Descends key pred values n v w → n ≤ d) :
    ∃ n ≤ d, Ends (parentOf key pred values) n (key v) := by
  induction d generalizing v with
  | zero =>
    refine ⟨0, le_rfl, (parentOf_id hn hv).trans ?_⟩
    cases hp : pred v with
    | none => rfl
    | some p =>
      obtain ⟨x, hx, hxp⟩ := hknown v hv p hp
      exact absurd (hd 1 x ⟨x, ⟨hv, hx, by rw [hp, hxp]⟩, rfl⟩) (by decide)
  | succ d ih =>
    cases hp : pred v with
    | none => exact ⟨0, Nat.zero_le _, (parentOf_id hn hv).trans hp⟩
    | some p =>
      obtain ⟨x, hx, hxp⟩ := hknown v hv p hp
      have hs : Follows key pred values v x := ⟨hv, hx, by rw [hp, hxp]⟩
      obtain ⟨n, hle, hends⟩ := ih hx fun n w h => Nat.le_of_succ_le_succ (hd (n + 1) w ⟨x, hs, h⟩)
      exact ⟨n + 1, Nat.succ_le_succ hle, key x, (parentOf_id hn hv).trans hs.2.2, hends⟩

/-- Walks that end neither come back nor are too deep. -/
theorem ends_iff (hn : (values.map key).Nodup)
    (hknown : ∀ v ∈ values, ∀ p, pred v = some p → ∃ x ∈ values, key x = p) :
    (∀ v ∈ values, ∃ n ≤ depth, Ends (parentOf key pred values) n (key v)) ↔
      (∀ v, ¬ Relation.TransGen (Follows key pred values) v v) ∧
      ∀ n, ∀ v ∈ values, ∀ w, Descends key pred values n v w → n ≤ depth := by
  constructor
  · intro h
    have htrans : ∀ v w, Relation.TransGen (Follows key pred values) v w →
        ∃ k, Steps (parentOf key pred values) (k + 1) (key v) (key w) := by
      intro v w hvw
      induction hvw with
      | single hs => exact ⟨0, key _, (parentOf_id hn hs.1).trans hs.2.2, rfl⟩
      | tail _ hs ih =>
        obtain ⟨k, hk⟩ := ih
        exact ⟨k + 1, hk.trans (.single ((parentOf_id hn hs.1).trans hs.2.2))⟩
    refine ⟨fun v hv => ?_, fun n v hv w hd => ?_⟩
    · obtain ⟨x, hx, -⟩ := Relation.TransGen.head'_iff.mp hv
      obtain ⟨n, -, hends⟩ := h v hx.1
      obtain ⟨k, hk⟩ := htrans v v hv
      exact hends.no_return hk
    · obtain ⟨m, hm, hends⟩ := h v hv
      obtain ⟨l, rfl, -⟩ := hends.of_steps (hd.steps hn)
      omega
  · rintro ⟨-, h⟩ v hv
    exact exists_ends hn hknown hv fun n w => h n v hv w

/-! ## Chain by chain -/

/-- The depth of a version is its place in its chain. -/
theorem SimpleChain.ends (hn : (values.map key).Nodup) {d : List V} (hc : SimpleChain key pred d)
    (hsub : ∀ v ∈ d, v ∈ values) {n : Nat} (h : n < d.length) :
    Ends (parentOf key pred values) n (key d[n]) := by
  induction n with
  | zero =>
    refine (parentOf_id hn (hsub _ (List.getElem_mem h))).trans (hc.rooted _ ?_)
    rw [List.head?_eq_getElem?, List.getElem?_eq_getElem h]
  | succ n ih =>
    refine ⟨key d[n], (parentOf_id hn (hsub _ (List.getElem_mem h))).trans ?_, ih (by omega)⟩
    exact List.isChain_iff_getElem.mp hc.linked n h

omit [DecidableEq I] in
theorem SimpleChain.before {d : List V} (hc : SimpleChain key pred d) {v : V} (hv : v ∈ d) {p : I}
    (hp : pred v = some p) :
    ∃ n, ∃ h : n < d.length, ∃ h' : n + 1 < d.length, d[n + 1] = v ∧ key d[n] = p := by
  obtain ⟨n, h, rfl⟩ := List.mem_iff_getElem.mp hv
  cases n with
  | zero =>
    rw [hc.rooted _ (by rw [List.head?_eq_getElem?, List.getElem?_eq_getElem h])] at hp
    cases hp
  | succ n =>
    refine ⟨n, Nat.lt_of_succ_lt h, h, rfl, Option.some.inj ?_⟩
    rw [← hp, List.isChain_iff_getElem.mp hc.linked n h]

/-- A member of distinct chains is in one of them. -/
theorem chain_unique {X : Type} {chains : List (List X)} (hn : chains.flatten.Nodup) {c c' : List X}
    (hc : c ∈ chains) (hc' : c' ∈ chains) {x : X} (hx : x ∈ c) (hx' : x ∈ c') : c = c' := by
  by_contra hne
  have hsymm : Std.Symm (List.Disjoint (α := X)) := ⟨fun _ _ h => h.symm⟩
  exact (List.nodup_flatten.mp hn).2.forall hc hc' hne hx hx'

omit [DecidableEq I] in
/-- A version that supersedes the last of a chain lengthens it. -/
theorem SimpleChain.snoc {c : List V} {x v : V} (hc : SimpleChain key pred (c ++ [x]))
    (hv : pred v = some (key x)) : SimpleChain key pred (c ++ [x] ++ [v]) where
  rooted w hw := hc.rooted w (by rwa [List.head?_append_of_ne_nil _ (by simp)] at hw)
  linked := by
    rw [List.isChain_append]
    refine ⟨hc.linked, List.isChain_singleton v, ?_⟩
    rintro y hy z hz
    simp only [List.getLast?_append, List.getLast?_singleton, Option.some_or, Option.mem_def, Option.some.injEq,
      List.head?_cons] at hy hz
    rw [← hy, ← hz, hv]

omit [DecidableEq I] in
/-- Versions with ranks that decrease along supersessions are distinct chains: the one of
the greatest rank ends the chain of the version it supersedes. -/
theorem exists_chains (rank : V → Nat) (hn : (values.map key).Nodup)
    (hknown : ∀ v ∈ values, ∀ p, pred v = some p → ∃ x ∈ values, key x = p)
    (hsingle : ∀ v ∈ values, ∀ w ∈ values, ∀ p, pred v = some p → pred w = some p → v = w)
    (hrank : ∀ v x, Follows key pred values v x → rank x < rank v) :
    ∃ chains : List (List V), chains.flatten.Perm values ∧ ∀ c ∈ chains, SimpleChain key pred c := by
  induction hl : values.length generalizing values with
  | zero => exact ⟨[], by rw [List.length_eq_zero_iff.mp hl]; rfl, by simp⟩
  | succ n ih =>
    classical
    have hne : values.toFinset.Nonempty := by
      obtain ⟨v, hv⟩ := List.exists_mem_of_length_pos (l := values) (by omega)
      exact ⟨v, List.mem_toFinset.mpr hv⟩
    obtain ⟨v, hv, hmax⟩ := values.toFinset.exists_max_image rank hne
    rw [List.mem_toFinset] at hv
    have htip : ∀ w ∈ values, pred w ≠ some (key v) := fun w hw hp =>
      Nat.not_lt.mpr (hmax w (List.mem_toFinset.mpr hw)) (hrank w v ⟨hw, hv, hp⟩)
    have hnodup := List.Nodup.of_map _ hn
    have hperm : values.Perm (v :: values.erase v) := List.perm_cons_erase hv
    have hsub : ∀ w ∈ values.erase v, w ∈ values := fun w hw => List.mem_of_mem_erase hw
    obtain ⟨chains, hflat, hchains⟩ := @ih (values.erase v)
      (hn.sublist (List.erase_sublist.map _))
      (fun w hw p hp => by
        obtain ⟨x, hx, rfl⟩ := hknown w (hsub w hw) p hp
        exact ⟨x, (List.mem_erase_of_ne fun e : x = v => htip w (hsub w hw) (e ▸ hp)).mpr hx, rfl⟩)
      (fun w hw w' hw' => hsingle w (hsub w hw) w' (hsub w' hw'))
      (fun w x hs => hrank w x (hs.mono hsub))
      (by rw [List.length_erase_of_mem hv, hl]; rfl)
    cases hp : pred v with
    | none =>
      refine ⟨[v] :: chains, (hflat.cons v).trans hperm.symm, ?_⟩
      rintro c hc
      rcases List.mem_cons.mp hc with rfl | hc
      · exact ⟨fun w hw => by obtain rfl := Option.some.inj hw; exact hp, List.isChain_singleton v⟩
      · exact hchains c hc
    | some p =>
      obtain ⟨x, hx, rfl⟩ := hknown v hv p hp
      have hxv : x ≠ v := fun e => htip v hv (e ▸ hp)
      have hxmem : x ∈ chains.flatten := hflat.mem_iff.mpr ((List.mem_erase_of_ne hxv).mpr hx)
      obtain ⟨c, hc, hxc⟩ := List.mem_flatten.mp hxmem
      obtain ⟨c₀, c₁, rfl⟩ := List.append_of_mem hxc
      -- nothing but `v` supersedes `x`, so that `x` is the last of its chain
      have hlast : c₁ = [] := by
        cases c₁ with
        | nil => rfl
        | cons y c₁ =>
          have hy : pred y = some (key x) := by
            have h := (hchains _ hc).linked
            rw [List.isChain_append_cons_cons] at h
            exact h.2.1
          have hymem : y ∈ values.erase v :=
            hflat.mem_iff.mp (List.mem_flatten.mpr ⟨_, hc, by simp⟩)
          obtain rfl := hsingle y (hsub y hymem) v hv _ hy hp
          exact absurd hymem hnodup.not_mem_erase
      subst hlast
      obtain ⟨l, r, rfl⟩ := List.append_of_mem hc
      refine ⟨l ++ (c₀ ++ [x] ++ [v]) :: r, ?_, ?_⟩
      · refine List.Perm.trans ?_ ((hflat.cons v).trans hperm.symm)
        have hmiddle : (l ++ (c₀ ++ [x] ++ [v]) :: r).flatten = l.flatten ++ c₀ ++ [x] ++ v :: r.flatten := by simp
        have hrest : (l ++ (c₀ ++ [x]) :: r).flatten = l.flatten ++ c₀ ++ [x] ++ r.flatten := by simp
        rw [hmiddle, hrest]
        exact List.perm_middle
      · rintro c hc'
        rcases List.mem_append.mp hc' with hc' | hc'
        · exact hchains c (List.mem_append_left _ hc')
        · rcases List.mem_cons.mp hc' with rfl | hc'
          · exact (hchains _ hc).snoc hp
          · exact hchains c (List.mem_append_right _ (List.mem_cons_of_mem _ hc'))

/-- A lineage is one of distinct chains, apart from knowledge. -/
theorem chainForest_iff (hn : (values.map key).Nodup) :
    ChainForest key pred depth values ↔ DisjointChains key pred depth values := by
  constructor
  · intro h
    have hends := (ends_iff hn h.known).mpr ⟨h.acyclic, h.shallow⟩
    classical
    choose! rank hle hrank using hends
    obtain ⟨chains, hflat, hchains⟩ := exists_chains rank hn h.known h.single fun v x hs => by
      have hx : Ends (parentOf key pred values) (rank x + 1) (key v) :=
        ⟨key x, (parentOf_id hn hs.1).trans hs.2.2, hrank x hs.2.1⟩
      have := (hrank v hs.1).unique hx
      omega
    have hsub : ∀ d ∈ chains, ∀ v ∈ d, v ∈ values := fun d hc v hv =>
      hflat.mem_iff.mp (List.mem_flatten.mpr ⟨d, hc, hv⟩)
    refine ⟨chains, hflat, fun d hc => ⟨hchains d hc, ?_⟩⟩
    by_contra hlong
    have hlt : depth + 1 < d.length := by omega
    have hmem := hsub d hc _ (List.getElem_mem hlt)
    have := (hrank _ hmem).unique ((hchains d hc).ends hn (hsub d hc) hlt)
    have := hle _ hmem
    omega
  · rintro ⟨chains, hflat, hchains⟩
    have hsub : ∀ d ∈ chains, ∀ v ∈ d, v ∈ values := fun d hc v hv =>
      hflat.mem_iff.mp (List.mem_flatten.mpr ⟨d, hc, hv⟩)
    have hchain : ∀ v ∈ values, ∃ d ∈ chains, v ∈ d := fun v hv =>
      List.mem_flatten.mp (hflat.mem_iff.mpr hv)
    have hflatNodup : chains.flatten.Nodup := hflat.nodup_iff.mpr (List.Nodup.of_map _ hn)
    have hknown : ∀ v ∈ values, ∀ p, pred v = some p → ∃ x ∈ values, key x = p := by
      intro v hv p hp
      obtain ⟨d, hc, hvc⟩ := hchain v hv
      obtain ⟨n, h, _, _, hid⟩ := (hchains d hc).1.before hvc hp
      exact ⟨d[n], hsub d hc _ (List.getElem_mem _), hid⟩
    have hends : ∀ v ∈ values, ∃ n ≤ depth, Ends (parentOf key pred values) n (key v) := fun v hv => by
      obtain ⟨d, hc, hvc⟩ := hchain v hv
      obtain ⟨n, h, rfl⟩ := List.mem_iff_getElem.mp hvc
      have := (hchains d hc).2
      exact ⟨n, by omega, (hchains d hc).1.ends hn (hsub d hc) h⟩
    obtain ⟨hacyclic, hshallow⟩ := (ends_iff hn hknown).mp hends
    refine ⟨hknown, fun v hv w hw p hvp hwp => ?_, hacyclic, hshallow⟩
    obtain ⟨d, hc, hvc⟩ := hchain v hv
    obtain ⟨d', hc', hwc⟩ := hchain w hw
    obtain ⟨n, _, h, rfl, hid⟩ := (hchains d hc).1.before hvc hvp
    obtain ⟨m, _, h', rfl, hid'⟩ := (hchains d' hc').1.before hwc hwp
    have hsame : d[n] = d'[m] := List.inj_on_of_nodup_map hn (hsub d hc _ (List.getElem_mem _))
      (hsub d' hc' _ (List.getElem_mem _)) (hid.trans hid'.symm)
    have hmem : d[n] ∈ d' := hsame ▸ List.getElem_mem _
    obtain rfl := chain_unique hflatNodup hc hc' (List.getElem_mem _) hmem
    obtain rfl : n = m := ((List.nodup_flatten.mp hflatNodup).1 d hc).getElem_inj_iff.mp hsame
    rfl

theorem known_iff (hn : (values.map key).Nodup) :
    (∀ v ∈ values, ∀ p, pred v = some p → Dict.get? p (Dict.ofKeys key values) ≠ none) ↔
      ∀ v ∈ values, ∀ p, pred v = some p → ∃ x ∈ values, key x = p := by
  refine forall₂_congr fun v _ => forall₂_congr fun p _ => ?_
  rw [ne_eq, Dict.get?_ofKeys_eq_none hn]
  simp

omit [DecidableEq I] in
/-- No two versions supersede one. -/
theorem nodup_predecessors (hn : (values.map key).Nodup) : (values.filterMap pred).Nodup ↔
    ∀ v ∈ values, ∀ w ∈ values, ∀ p, pred v = some p → pred w = some p → v = w := by
  rw [List.Nodup, List.pairwise_filterMap]
  constructor
  · intro h v hv w hw p hvp hwp
    by_contra hne
    have hsymm : Std.Symm fun a a' => ∀ b, pred a = some b →
        ∀ b', pred a' = some b' → b ≠ b' := ⟨fun _ _ h b hb b' hb' => (h b' hb' b hb).symm⟩
    exact h.forall hv hw hne p hvp p hwp rfl
  · intro h
    refine (List.Nodup.of_map _ hn).pairwise_of_forall_ne fun v hv w hw hne p hvp q hwq e => ?_
    exact hne (h v hv w hw p hvp (e ▸ hwq))

end Forest

/-! ## Lineages -/

section View

variable {V I : Type} {view : LineageView V I} {depth : Nat} {values : List V}

/-- Distinct chains, with knowledge that increases along them. -/
structure IsLineage (view : LineageView V I) (depth : Nat) (values : List V) : Prop extends
    ChainForest view.id view.predecessor depth values where
  ordered : ∀ v x, Supersedes view values v x → view.knowledge x < view.knowledge v

theorem IsLineage.perm {values' : List V} (h : IsLineage view depth values) (hp : values.Perm values') :
    IsLineage view depth values' where
  toChainForest := h.toChainForest.perm hp
  ordered v x hs := h.ordered v x (hs.mono fun _ hv => hp.mem_iff.mpr hv)

variable [DecidableEq I]

theorem walk_eq_follow (values : List V) (start : I) (depth : Nat) (seen : List I) (current : I) :
    walk view (Dict.ofKeys view.id values) start depth seen current =
      follow (parentOf view.id view.predecessor values) start depth seen current := by
  induction depth generalizing seen current with
  | zero =>
    rw [walk, follow]
    rfl
  | succ depth ih =>
    rw [walk, follow, parentOf]
    cases (Dict.get? current (Dict.ofKeys view.id values)).bind view.predecessor with
    | none => rfl
    | some p =>
      dsimp only
      split
      · rfl
      · exact ih _ _

/-- The walks of all the versions. -/
theorem walks_eq_ok_iff_ends (hn : (values.map view.id).Nodup) {u : Unit} :
    walks view (Dict.ofKeys view.id values) depth = .ok u ↔
      ∀ v ∈ values, ∃ n ≤ depth, Ends (parentOf view.id view.predecessor values) n (view.id v) := by
  rw [walks, forM_eq_ok]
  simp only [walk_eq_follow, follow_start_eq_ok]
  rw [Dict.ofKeys_of_nodup hn]
  simp [Dict.keys]

theorem edges_eq_ok {byId : List (I × V)} {successors : List I} {u : Unit} :
    edges view byId successors values = .ok u ↔
      (∀ v ∈ values, ∀ p, view.predecessor v = some p → Dict.get? p byId ≠ none) ∧
      (values.filterMap view.predecessor).Nodup ∧ ∀ p ∈ values.filterMap view.predecessor, p ∉ successors := by
  induction values generalizing successors with
  | nil => simp [edges]
  | cons v values ih =>
    rw [edges]
    cases hp : view.predecessor v with
    | none => simp [hp, ih]
    | some p =>
      rw [raiseIf_bind_eq_ok, raiseIf_bind_eq_ok, ih, List.filterMap_cons_some hp, List.nodup_cons]
      simp only [List.mem_cons, forall_eq_or_imp, hp, Option.some.injEq, forall_eq', not_or]
      constructor
      · rintro ⟨hknown, hfresh, hall, hn, hsep⟩
        exact ⟨⟨hknown, hall⟩, ⟨fun hmem => (hsep p hmem).1 rfl, hn⟩, hfresh, fun q hq => (hsep q hq).2⟩
      · rintro ⟨⟨hknown, hall⟩, ⟨hnot, hn⟩, hfresh, hsep⟩
        exact ⟨hknown, hfresh, hall, hn, fun q hq => ⟨fun e => hnot (e ▸ hq), hsep q hq⟩⟩

/-- The checks accept exactly the lineages. -/
theorem checkEdges_eq_ok (hn : (values.map view.id).Nodup) {u : Unit} :
    checkEdges view (Dict.ofKeys view.id values) depth values = .ok u ↔ IsLineage view depth values := by
  have hordered : ordered view (Dict.ofKeys view.id values) values = .ok u ↔
      ∀ v x, Supersedes view values v x → view.knowledge x < view.knowledge v := by
    rw [ordered, forM_eq_ok]
    simp only [raiseIf_eq_ok, not_exists, not_and, Option.mem_def, Dict.get?_ofKeys hn, Datetime.not_le, and_imp]
    constructor
    · rintro h v x ⟨hv, hx, hp⟩
      exact h v hv (view.id x) hp x hx rfl
    · intro h v hv p hp x hx hxp
      exact h v x ⟨hv, hx, by rw [hp, hxp]⟩
  rw [checkEdges]
  simp only [bind_eq_ok, exists_const, edges_eq_ok, known_iff hn, nodup_predecessors hn, hordered]
  constructor
  · rintro ⟨⟨hknown, hsingle, -⟩, _, hwalks, hord⟩
    obtain ⟨hacyclic, hshallow⟩ := (ends_iff hn hknown).mp ((walks_eq_ok_iff_ends hn).mp hwalks)
    exact ⟨⟨hknown, hsingle, hacyclic, hshallow⟩, hord⟩
  · intro h
    exact ⟨⟨h.known, h.single, by simp⟩, (),
      (walks_eq_ok_iff_ends hn).mpr ((ends_iff hn h.known).mpr ⟨h.acyclic, h.shallow⟩), h.ordered⟩

end View

end ATB.Lineage
