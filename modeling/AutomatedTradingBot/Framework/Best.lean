import AutomatedTradingBot.Framework.SortedSet

/-!
# The best of a list

The first `k` members of a list in the order of a key.

* `isBest_best`: what they are, when no two members share a key;
* `best_congr`: they are the same in any order of the list.
-/

namespace ATB.Best

variable {α κ : Type} [LinearOrder κ] (key : α → κ)

/-- The list in the order of the key. -/
def ranked (l : List α) : List α := l.insertionSort fun a b => key a ≤ key b

def best (k : Nat) (l : List α) : List α := (ranked key l).take k

variable {key} {l l' : List α} {k : Nat}

theorem ranked_perm : (ranked key l).Perm l := List.perm_insertionSort _ _

theorem ranked_sorted : (ranked key l).Pairwise fun a b => key a ≤ key b := by
  have : Std.Total fun a b : α => key a ≤ key b := ⟨fun a b => le_total (key a) (key b)⟩
  have : IsTrans α fun a b => key a ≤ key b := ⟨fun _ _ _ => le_trans⟩
  exact List.pairwise_insertionSort _ l

theorem length_best (h : k ≤ l.length) : (best key k l).length = k := by
  rw [best, List.length_take, ranked_perm.length_eq, Nat.min_eq_left h]

theorem mem_of_mem_best {a : α} (h : a ∈ best key k l) : a ∈ l := ranked_perm.mem_iff.mp (List.mem_of_mem_take h)

/-- The members that are taken, and those that are left. -/
theorem best_append_perm : (best key k l ++ (ranked key l).drop k).Perm l := by
  rw [best, List.take_append_drop]
  exact ranked_perm

/-- A member that is not taken comes after every one that is. -/
theorem best_before {a b : α} (ha : a ∈ best key k l) (hb : b ∈ l) (hn : b ∉ best key k l) : key a ≤ key b := by
  have hdrop : b ∈ (ranked key l).drop k := by
    have hp : (best key k l ++ (ranked key l).drop k).Perm l := best_append_perm
    have hmem := hp.mem_iff.mpr hb
    exact (List.mem_append.mp hmem).resolve_left hn
  have hsorted : (best key k l ++ (ranked key l).drop k).Pairwise fun a b => key a ≤ key b := by
    rw [best, List.take_append_drop]
    exact ranked_sorted
  exact (List.pairwise_append.mp hsorted).2.2 a ha b hdrop

/-- The `k` first members of a list in the order of a key. -/
structure IsBest (key : α → κ) (k : Nat) (l chosen : List α) : Prop where
  length : chosen.length = k
  sorted : chosen.Pairwise fun a b => key a < key b
  mem : ∀ a ∈ chosen, a ∈ l
  before : ∀ a ∈ chosen, ∀ b ∈ l, b ∉ chosen → key a < key b

theorem isBest_best (hn : (l.map key).Nodup) (hk : k ≤ l.length) : IsBest key k l (best key k l) := by
  have hinj : ∀ {a b}, a ∈ l → b ∈ l → key a = key b → a = b := fun ha hb => List.inj_on_of_nodup_map hn ha hb
  have hne : (ranked key l).Pairwise fun a b => key a ≠ key b :=
    List.pairwise_map.mp ((ranked_perm.map key).nodup_iff.mpr hn)
  refine ⟨length_best hk, ?_, fun a => mem_of_mem_best, fun a ha b hb hnot => ?_⟩
  · exact ((ranked_sorted.and hne).sublist (List.take_sublist _ _)).imp fun h => lt_of_le_of_ne h.1 h.2
  · exact lt_of_le_of_ne (best_before ha hb hnot) fun e => hnot (hinj (mem_of_mem_best ha) hb e ▸ ha)

theorem best_congr (hn : (l.map key).Nodup) (h : l.Perm l') : best key k l = best key k l' := by
  rw [best, best, ranked, ranked, insertionSort_key_eq_of_perm hn h]

end ATB.Best
