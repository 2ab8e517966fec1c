import Mathlib.Data.List.Nodup
import Mathlib.Logic.Relation

/-!
# Breadth-first search

A search keeps the nodes it has visited and a queue of those whose edges it has yet to
follow, each with its distance. The relation of the edges and the roots are arbitrary.

* `Walk n x`: some walk of `n` edges leads from a root to `x`; `Nearest d x`: the
  shortest has `d`;
* `Invariant.push`, `Invariant.pop`: an edge to a new node is followed, and the first
  node of the queue is done;
* `Invariant.visited_iff`: when the queue is empty, the visited nodes are those that
  can be reached.
-/

namespace ATB.BreadthFirst

variable {α : Type} {r : α → α → Prop} {roots : List α}

/-- A walk of `n` edges from a root to `x`. -/
inductive Walk (r : α → α → Prop) (roots : List α) : Nat → α → Prop
  | root {x : α} (h : x ∈ roots) : Walk r roots 0 x
  | step {n : Nat} {x y : α} (h : Walk r roots n x) (hr : r x y) : Walk r roots (n + 1) y

structure Nearest (r : α → α → Prop) (roots : List α) (d : Nat) (x : α) : Prop where
  walk : Walk r roots d x
  least : ∀ n, Walk r roots n x → d ≤ n

/-- `x` can be reached from a root. -/
def Reached (r : α → α → Prop) (roots : List α) (x : α) : Prop := ∃ a ∈ roots, Relation.ReflTransGen r a x

theorem Walk.reached {n : Nat} {x : α} (h : Walk r roots n x) : Reached r roots x := by
  induction h with
  | root h => exact ⟨_, h, .refl⟩
  | step _ hr ih =>
    obtain ⟨a, ha, hx⟩ := ih
    exact ⟨a, ha, hx.tail hr⟩

theorem Reached.walk {x : α} (h : Reached r roots x) : ∃ n, Walk r roots n x := by
  obtain ⟨a, ha, hx⟩ := h
  induction hx with
  | refl => exact ⟨0, .root ha⟩
  | tail _ hr ih =>
    obtain ⟨n, hn⟩ := ih
    exact ⟨n + 1, .step hn hr⟩

variable {roots' : List α}

theorem Walk.mono (hr : ∀ x ∈ roots, x ∈ roots') {n : Nat} {x : α} (h : Walk r roots n x) : Walk r roots' n x := by
  induction h with
  | root h => exact .root (hr _ h)
  | step _ hxy ih => exact .step ih hxy

theorem Nearest.congr (hr : ∀ x, x ∈ roots ↔ x ∈ roots') {d : Nat} {x : α} (h : Nearest r roots d x) :
    Nearest r roots' d x :=
  ⟨h.walk.mono fun y => (hr y).mp, fun n hn => h.least n (hn.mono fun y => (hr y).mpr)⟩

theorem Reached.mono (hr : ∀ x ∈ roots, x ∈ roots') {x : α} (h : Reached r roots x) : Reached r roots' x := by
  obtain ⟨a, ha, hx⟩ := h
  exact ⟨a, hr a ha, hx⟩

/-- What holds of a search between two edges; the edges of the nodes in `done` were followed. -/
structure Invariant (r : α → α → Prop) (roots done visited : List α) (queue : List (α × Nat)) : Prop where
  mem_visited : ∀ x, x ∈ visited ↔ x ∈ done ∨ x ∈ queue.map Prod.fst
  nodup : (done ++ queue.map Prod.fst).Nodup
  near : ∀ p ∈ queue, Nearest r roots p.2 p.1
  sorted : queue.Pairwise fun p q => p.2 ≤ q.2
  close : ∀ p ∈ queue, ∀ q ∈ queue, q.2 ≤ p.2 + 1
  roots_visited : ∀ x ∈ roots, x ∈ visited
  closed : ∀ x ∈ done, ∀ y, r x y → y ∈ visited
  reached : ∀ x ∈ done, Reached r roots x

variable {done visited : List α} {queue rest : List (α × Nat)} {x : α} {d : Nat}

theorem invariant_start (hn : roots.Nodup) : Invariant r roots [] roots (roots.map fun x => (x, 0)) := by
  have hfst : (roots.map fun x => (x, 0)).map Prod.fst = roots := by simp [Function.comp_def]
  refine ⟨by simp [hfst], by rwa [List.nil_append, hfst], ?_, ?_, by simp, fun _ h => h, by simp, by simp⟩
  · intro p hp
    obtain ⟨x, hx, rfl⟩ := List.mem_map.mp hp
    exact ⟨.root hx, fun _ _ => Nat.zero_le _⟩
  · exact List.pairwise_map.mpr (List.pairwise_of_forall fun _ _ => Nat.le_refl 0)

theorem Invariant.reached_visited (h : Invariant r roots done visited queue) (hx : x ∈ visited) : Reached r roots x := by
  rcases (h.mem_visited x).mp hx with hx | hx
  · exact h.reached x hx
  · obtain ⟨p, hp, rfl⟩ := List.mem_map.mp hx
    exact (h.near p hp).walk.reached

/-- The first node of the queue is as near as any in it. -/
theorem Invariant.head_le (h : Invariant r roots done visited ((x, d) :: rest)) {p : α × Nat} (hp : p ∈ (x, d) :: rest) :
    d ≤ p.2 := by
  rcases List.mem_cons.mp hp with rfl | hp
  · exact Nat.le_refl d
  · exact (List.pairwise_cons.mp h.sorted).1 p hp

/-- What is nearer than the first node of the queue is done. -/
theorem Invariant.done_of_walk (h : Invariant r roots done visited ((x, d) :: rest)) {n : Nat} {y : α}
    (hy : Walk r roots n y) (hn : n < d) : y ∈ done := by
  have hvisited : ∀ {m z}, Walk r roots m z → m < d → z ∈ visited → z ∈ done := by
    intro m z hz hm hv
    refine ((h.mem_visited z).mp hv).elim id fun hq => ?_
    obtain ⟨p, hp, rfl⟩ := List.mem_map.mp hq
    have := h.head_le hp
    have := (h.near p hp).least m hz
    omega
  induction hy with
  | root hr => exact hvisited (.root hr) hn (h.roots_visited _ hr)
  | step hz hr ih => exact hvisited (.step hz hr) hn (h.closed _ (ih (by omega)) _ hr)

/-- An edge from the first node of the queue leads to a node that was not visited. -/
theorem Invariant.push (h : Invariant r roots done visited ((x, d) :: rest)) {y : α} (hr : r x y) (hy : y ∉ visited) :
    Invariant r roots done (y :: visited) ((x, d) :: rest ++ [(y, d + 1)]) := by
  have hfresh := mt (h.mem_visited y).mpr hy
  have hnear : Nearest r roots (d + 1) y := by
    refine ⟨.step (h.near (x, d) (List.mem_cons_self ..)).walk hr, fun n hw => ?_⟩
    by_contra hlt
    cases hw with
    | root hroot => exact hy (h.roots_visited y hroot)
    | step hz hzy => exact hy (h.closed _ (h.done_of_walk hz (by omega)) _ hzy)
  refine ⟨?_, ?_, ?_, ?_, ?_, fun z hz => List.mem_cons_of_mem _ (h.roots_visited z hz),
    fun z hz w hw => List.mem_cons_of_mem _ (h.closed z hz w hw), h.reached⟩
  · intro z
    rw [List.mem_cons, h.mem_visited z]
    simp only [List.map_append, List.mem_append, List.map_cons, List.map_nil, List.mem_singleton]
    tauto
  · rw [List.map_append, ← List.append_assoc]
    refine h.nodup.append (List.nodup_singleton y) ?_
    simpa using hfresh
  · intro p hp
    rcases List.mem_append.mp hp with hp | hp
    · exact h.near p hp
    · obtain rfl := List.mem_singleton.mp hp
      exact hnear
  · refine List.pairwise_append.mpr ⟨h.sorted, List.pairwise_singleton .., fun p hp q hq => ?_⟩
    obtain rfl := List.mem_singleton.mp hq
    exact h.close (x, d) (List.mem_cons_self ..) p hp
  · intro p hp q hq
    rcases List.mem_append.mp hq with hq | hq <;> rcases List.mem_append.mp hp with hp | hp
    · exact h.close p hp q hq
    · obtain rfl := List.mem_singleton.mp hp
      have := h.close (x, d) (List.mem_cons_self ..) q hq
      exact Nat.le_succ_of_le this
    · obtain rfl := List.mem_singleton.mp hq
      exact Nat.succ_le_succ (h.head_le hp)
    · obtain rfl := List.mem_singleton.mp hp
      obtain rfl := List.mem_singleton.mp hq
      exact Nat.le_succ _

/-- All edges of the first node were followed. -/
theorem Invariant.pop (h : Invariant r roots done visited ((x, d) :: rest)) (hx : ∀ y, r x y → y ∈ visited) :
    Invariant r roots (done ++ [x]) visited rest := by
  have hlist : done ++ ((x, d) :: rest).map Prod.fst = (done ++ [x]) ++ rest.map Prod.fst := by simp
  refine ⟨?_, hlist ▸ h.nodup, fun p hp => h.near p (List.mem_cons_of_mem _ hp), (List.pairwise_cons.mp h.sorted).2,
    fun p hp q hq => h.close p (List.mem_cons_of_mem _ hp) q (List.mem_cons_of_mem _ hq), h.roots_visited, ?_, ?_⟩
  · intro y
    rw [← List.mem_append, ← hlist, List.mem_append]
    exact h.mem_visited y
  · intro y hy
    rcases List.mem_append.mp hy with hy | hy
    · exact h.closed y hy
    · exact List.mem_singleton.mp hy ▸ hx
  · intro y hy
    rcases List.mem_append.mp hy with hy | hy
    · exact h.reached y hy
    · exact List.mem_singleton.mp hy ▸ (h.near (x, d) (List.mem_cons_self ..)).walk.reached

/-- The end of the search: every node that can be reached was visited. -/
theorem Invariant.visited_iff (h : Invariant r roots done visited []) {y : α} : y ∈ visited ↔ Reached r roots y := by
  refine ⟨h.reached_visited, fun hy => ?_⟩
  obtain ⟨a, ha, hay⟩ := hy
  induction hay with
  | refl => exact h.roots_visited a ha
  | tail _ hr ih => exact h.closed _ (((h.mem_visited _).mp ih).resolve_right (by simp)) _ hr

end ATB.BreadthFirst
