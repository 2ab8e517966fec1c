import AutomatedTradingBot.Framework.SortedSet
import Mathlib.Data.Fintype.Card
import Mathlib.Logic.Relation
import Mathlib.Data.Set.Finite.Basic

/-!
# Visiting the nodes of a graph in topological order

Nodes without an incoming edge are ready, in the order of a key. A round visits the
first ready node and takes its outgoing edges away; a node whose last incoming edge
went is ready then. The edges are a list of pairs, which may hold one pair twice.

* `Invariant`: what holds between two edges that are taken away, with the nodes
  visited so far and the targets that the current round has left;
* `ready_rounds`: as many rounds as there are nodes leave no node ready;
* `visited_rounds_iff`: they visit as many nodes as the list has exactly when it has
  no node twice and the graph has no cycle.
-/

namespace ATB.Topological

variable {α κ : Type} [DecidableEq α] [LinearOrder κ]

structure Progress (α : Type) where
  incoming : α → Int
  ready : List α
  visited : Nat

section Loop

variable (key : α → κ)

def sorted (l : List α) : List α := l.insertionSort fun a b => key a ≤ key b

/-- One edge to `target` goes. -/
def release (p : Progress α) (target : α) : Progress α :=
  let incoming := Function.update p.incoming target (p.incoming target - 1)
  { p with incoming, ready := if incoming target = 0 then sorted key (p.ready ++ [target]) else p.ready }

def outgoing (edges : List (α × α)) (node : α) : List α := (edges.filter fun e => e.1 = node).map Prod.snd

/-- One round, if a node is ready. -/
def visit (edges : List (α × α)) (p : Progress α) : Progress α :=
  match p.ready with
  | [] => p
  | current :: ready =>
    (sorted key (outgoing edges current)).foldl (release key) { p with ready, visited := p.visited + 1 }

def rounds (edges : List (α × α)) : Nat → Progress α → Progress α
  | 0, p => p
  | n + 1, p => rounds edges n (visit key edges p)

def start (nodes : List α) (edges : List (α × α)) : Progress α where
  incoming node := edges.countP fun e => e.2 = node
  ready := sortedSetOn key (nodes.filter fun node => edges.countP (fun e => e.2 = node) = 0)
  visited := 0

end Loop

/-- `b` is the target of an edge from `a`. -/
def Edge (edges : List (α × α)) (a b : α) : Prop := (a, b) ∈ edges

variable (key : α → κ) {nodes : List α} {edges : List (α × α)} {done targets : List α} {p : Progress α}

omit [DecidableEq α] in
@[simp] theorem mem_sorted {key : α → κ} {a : α} {l : List α} : a ∈ sorted key l ↔ a ∈ l := List.mem_insertionSort _

omit [DecidableEq α] in
theorem sorted_perm (l : List α) : (sorted key l).Perm l := List.perm_insertionSort _ l

/-- `done` are the nodes visited so far, and an edge to each of `targets` is still to go. -/
structure Invariant (nodes : List α) (edges : List (α × α)) (done targets : List α) (p : Progress α) : Prop where
  visited : p.visited = done.length
  nodup : (done ++ p.ready).Nodup
  known : ∀ x ∈ done ++ p.ready, x ∈ nodes
  incoming : ∀ x, p.incoming x = ((edges.countP fun e => e.2 = x ∧ e.1 ∉ done) + targets.count x : Nat)
  ready : ∀ x ∈ nodes, p.incoming x = 0 ↔ x ∈ done ++ p.ready
  accessible : ∀ x ∈ done, Acc (Edge edges) x

theorem invariant_start : Invariant nodes edges [] [] (start key nodes edges) := by
  refine ⟨rfl, nodup_sortedSetOn, ?_, ?_, ?_, by simp⟩
  · intro x hx
    exact List.mem_of_mem_filter (mem_sortedSetOn.mp hx)
  · intro x
    simp [start]
  · intro x hx
    simp [start, hx]

theorem count_outgoing (x node : α) :
    (outgoing edges node).count x = edges.countP fun e => e.2 = x ∧ e.1 = node := by
  rw [outgoing, List.count, List.countP_map, List.countP_filter]
  refine List.countP_congr fun e _ => ?_
  simp

/-- The edges from nodes that are not done are those of the node that comes next and the others. -/
theorem countP_append {current : α} (h : current ∉ done) (x : α) :
    (edges.countP fun e => e.2 = x ∧ e.1 ∉ done) =
      (edges.countP fun e => e.2 = x ∧ e.1 ∉ done ++ [current]) + edges.countP fun e => e.2 = x ∧ e.1 = current := by
  induction edges with
  | nil => rfl
  | cons e edges ih =>
    simp only [List.countP_cons, ih]
    by_cases hx : e.2 = x <;> by_cases hc : e.1 = current
    · subst hc; simp [hx, h]; omega
    · by_cases hd : e.1 ∈ done <;> simp [hx, hc, hd]
      omega
    · simp [hx]
    · simp [hx]

/-- A round begins: the first ready node is done, and its edges are to go. -/
theorem Invariant.begin {current : α} {ready : List α} (h : Invariant nodes edges done [] p)
    (hp : p.ready = current :: ready) :
    Invariant nodes edges (done ++ [current]) (sorted key (outgoing edges current))
      { p with ready, visited := p.visited + 1 } := by
  have hlist : done ++ p.ready = (done ++ [current]) ++ ready := by simp [hp]
  have hnew : current ∉ done := fun hc => by
    have := h.nodup
    rw [hp] at this
    exact (List.nodup_append.mp this).2.2 current hc current (List.mem_cons_self ..) rfl
  have hcount : edges.countP (fun e => e.2 = current ∧ e.1 ∉ done) = 0 := by
    have hcur : current ∈ done ++ p.ready := by simp [hp]
    have := (h.ready current (h.known current hcur)).mpr hcur
    rw [h.incoming] at this
    simpa using this
  refine ⟨by simp [h.visited], by rw [← hlist]; exact h.nodup, by rw [← hlist]; exact h.known, ?_, ?_, ?_⟩
  · intro x
    simp only [h.incoming, List.count_nil, (sorted_perm key _).count_eq, count_outgoing, countP_append hnew x]
    simp
  · intro x hx
    rw [← hlist]
    exact h.ready x hx
  · intro x hx
    rcases List.mem_append.mp hx with hx | hx
    · exact h.accessible x hx
    · obtain rfl := List.mem_singleton.mp hx
      refine Acc.intro x fun y hy => h.accessible y ?_
      by_contra hn
      exact absurd (List.countP_eq_zero.mp hcount (y, x) hy) (by simp [hn])

/-- One edge goes. -/
theorem Invariant.release {target : α} (ht : target ∈ nodes) (h : Invariant nodes edges done (target :: targets) p) :
    Invariant nodes edges done targets (release key p target) := by
  have hpos : p.incoming target ≠ 0 := by
    rw [h.incoming, List.count_cons_self]
    omega
  have hfresh : target ∉ done ++ p.ready := fun hc => hpos ((h.ready target ht).mpr hc)
  have hincoming : ∀ x, (Topological.release key p target).incoming x =
      ((edges.countP fun e => e.2 = x ∧ e.1 ∉ done) + targets.count x : Nat) := by
    intro x
    simp only [Topological.release]
    by_cases hx : x = target
    · subst hx
      rw [Function.update_self, h.incoming, List.count_cons_self]
      omega
    · rw [Function.update_of_ne hx, h.incoming, List.count_cons_of_ne (Ne.symm hx)]
  have hready : (Topological.release key p target).ready =
      if p.incoming target - 1 = 0 then sorted key (p.ready ++ [target]) else p.ready := by
    simp only [Topological.release, Function.update_self]
  have hmem : ∀ x, x ∈ done ++ (Topological.release key p target).ready ↔
      x ∈ done ++ p.ready ∨ x = target ∧ p.incoming target - 1 = 0 := by
    intro x
    rw [hready]
    split <;> simp_all [or_assoc]
  refine ⟨h.visited, ?_, ?_, hincoming, ?_, h.accessible⟩
  · rw [hready]
    split
    · refine (((sorted_perm key _).append_left done).nodup_iff).mpr ?_
      rw [← List.append_assoc]
      exact h.nodup.append (List.nodup_singleton target) (by simpa using hfresh)
    · exact h.nodup
  · intro x hx
    rcases (hmem x).mp hx with hx | ⟨rfl, -⟩
    · exact h.known x hx
    · exact ht
  · intro x hx
    rw [hmem x]
    by_cases he : x = target
    · subst he
      simp [Topological.release, hfresh]
    · simp only [Topological.release, Function.update_of_ne he, he, false_and, or_false]
      exact h.ready x hx

theorem Invariant.releases (ht : ∀ t ∈ targets, t ∈ nodes) (h : Invariant nodes edges done targets p) :
    Invariant nodes edges done [] (targets.foldl (Topological.release key) p) := by
  induction targets generalizing p with
  | nil => exact h
  | cons t ts ih => exact ih (fun x hx => ht x (List.mem_cons_of_mem _ hx)) (h.release key (ht t (List.mem_cons_self ..)))

/-- What a round keeps: it visits a ready node if there is one. -/
theorem Invariant.visit (hk : ∀ e ∈ edges, e.2 ∈ nodes) (h : Invariant nodes edges done [] p) :
    ∃ done', Invariant nodes edges done' [] (visit key edges p) ∧
      (p.ready ≠ [] → done'.length = done.length + 1) ∧ (p.ready = [] → Topological.visit key edges p = p) := by
  unfold Topological.visit
  split
  · rename_i hp
    exact ⟨done, h, fun hn => absurd hp hn, fun _ => rfl⟩
  · rename_i current ready hp
    refine ⟨done ++ [current], (h.begin key hp).releases key fun t ht => ?_, by simp, by simp [hp]⟩
    obtain ⟨e, he, rfl⟩ := List.mem_map.mp (mem_sorted.mp ht)
    exact hk e (List.mem_of_mem_filter he)

theorem length_done_le (h : Invariant nodes edges done targets p) : (done ++ p.ready).length ≤ nodes.length :=
  (List.subperm_of_subset h.nodup h.known).length_le

/-- What the rounds keep, and that they end: each visits a node while one is ready. -/
theorem Invariant.rounds (hk : ∀ e ∈ edges, e.2 ∈ nodes) (n : Nat) (h : Invariant nodes edges done [] p)
    (hn : nodes.length ≤ done.length + n) :
    ∃ done', Invariant nodes edges done' [] (rounds key edges n p) ∧ (Topological.rounds key edges n p).ready = [] := by
  induction n generalizing p done with
  | zero =>
    refine ⟨done, h, ?_⟩
    have := length_done_le h
    rw [List.length_append] at this
    exact List.eq_nil_of_length_eq_zero (by simp only [Topological.rounds]; omega)
  | succ n ih =>
    obtain ⟨done', h', hstep, hstop⟩ := h.visit key hk
    by_cases hr : p.ready = []
    · refine ⟨done, ?_⟩
      have hall : ∀ m, Topological.rounds key edges m p = p := fun m => by
        induction m with
        | zero => rfl
        | succ m ihm => rw [Topological.rounds, hstop hr, ihm]
      rw [hall]
      exact ⟨h, hr⟩
    · exact ih h' (by rw [hstep hr]; omega)

/-! ## Cycles -/

omit [DecidableEq α] in
theorem not_transGen_of_acc {r : α → α → Prop} {x : α} (h : Acc r x) : ¬ Relation.TransGen r x x := by
  have ht := h.transGen
  clear h
  induction ht with
  | intro x _ ih => exact fun hx => ih x hx hx

/-- Without a cycle, every node is visited: the others would each have one of them before it. -/
theorem Invariant.all_done (hk : ∀ e ∈ edges, e.1 ∈ nodes) (h : Invariant nodes edges done [] p) (hp : p.ready = [])
    (hcycle : ∀ x, ¬ Relation.TransGen (Edge edges) x x) : ∀ x ∈ nodes, x ∈ done := by
  let before : {x // x ∈ nodes} → {x // x ∈ nodes} → Prop := fun a b => Relation.TransGen (Edge edges) a.1 b.1
  have : IsTrans _ before := ⟨fun _ _ _ => Relation.TransGen.trans⟩
  have : Std.Irrefl before := ⟨fun a => hcycle a.1⟩
  have : Finite {x // x ∈ nodes} := nodes.finite_toSet
  have hwf : WellFounded before := Finite.wellFounded_of_trans_of_irrefl before
  refine fun x hx => hwf.induction (C := fun a => a.1 ∈ done) ⟨x, hx⟩ fun ⟨m, hm⟩ ih => ?_
  -- an edge from a node that is not done would go against the induction
  have hcount : edges.countP (fun e => e.2 = m ∧ e.1 ∉ done) = 0 := by
    refine List.countP_eq_zero.mpr fun e he hc => ?_
    obtain ⟨rfl, hd⟩ : e.2 = m ∧ e.1 ∉ done := by simpa using hc
    exact hd (ih ⟨e.1, hk e he⟩ (Relation.TransGen.single he))
  have hmem := (h.ready m hm).mp (by rw [h.incoming, hcount]; rfl)
  simpa [hp] using hmem

/-- The rounds end with no node ready. -/
theorem ready_rounds (hk : ∀ e ∈ edges, e.2 ∈ nodes) :
    (rounds key edges nodes.length (start key nodes edges)).ready = [] := by
  have hstart : Invariant nodes edges [] [] (start key nodes edges) := invariant_start key
  obtain ⟨_, -, h⟩ := hstart.rounds key hk nodes.length (by simp)
  exact h

theorem visited_rounds_iff (hk : ∀ e ∈ edges, e.1 ∈ nodes ∧ e.2 ∈ nodes) :
    (rounds key edges nodes.length (start key nodes edges)).visited = nodes.length ↔
      nodes.Nodup ∧ ∀ x, ¬ Relation.TransGen (Edge edges) x x := by
  have hstart : Invariant nodes edges [] [] (start key nodes edges) := invariant_start key
  obtain ⟨done, h, hready⟩ := hstart.rounds key (fun e he => (hk e he).2) nodes.length (by simp)
  have hnodup : done.Nodup := (List.nodup_append.mp h.nodup).1
  have hsub : done ⊆ nodes := fun x hx => h.known x (List.mem_append_left _ hx)
  have hle := List.subperm_of_subset hnodup hsub
  rw [h.visited]
  constructor
  · intro hlen
    have hperm : done.Perm nodes := hle.perm_of_length_le hlen.ge
    refine ⟨hperm.nodup_iff.mp hnodup, fun x hx => ?_⟩
    obtain ⟨y, he, -⟩ := Relation.TransGen.head'_iff.mp hx
    exact not_transGen_of_acc (h.accessible x (hperm.mem_iff.mpr (hk _ he).1)) hx
  · rintro ⟨hn, hcycle⟩
    have hall := h.all_done (fun e he => (hk e he).1) hready hcycle
    exact le_antisymm hle.length_le (List.subperm_of_subset hn hall).length_le

end ATB.Topological
