import Mathlib.Data.List.Dedup
import Mathlib.Data.List.Sort

/-!
# Sorted sets as tuples

`sorted(set(l), key=key)` as a list: what the code keeps of a collection whose order
and repetitions mean nothing.

* `insertionSort_eq_of_perm`: the order before a sort does not matter when no two
  members are equal in it;
* `mem_sortedSetOn`, `nodup_sortedSetOn`: the members, each once;
* `sortedSetOn_congr`: for a key that tells members apart, the list depends only on
  its members;
* `sortedSetOn_idem`: what is sorted stays as it is.
-/

namespace ATB

variable {α κ : Type} [DecidableEq α] [LinearOrder κ] {key : α → κ} {l l' : List α}

theorem insertionSort_eq_of_perm {α : Type} {l l' : List α} {r : α → α → Prop} [DecidableRel r] (htotal : ∀ a b, r a b ∨ r b a)
    (htrans : ∀ a b c, r a b → r b c → r a c) (hanti : ∀ a ∈ l, ∀ b ∈ l, r a b → r b a → a = b) (h : l.Perm l') :
    l.insertionSort r = l'.insertionSort r := by
  have : Std.Total r := ⟨htotal⟩
  have : IsTrans α r := ⟨htrans⟩
  refine List.Perm.eq_of_pairwise (fun a b ha hb => ?_) (List.pairwise_insertionSort _ _)
    (List.pairwise_insertionSort _ _) ((List.perm_insertionSort _ _).trans (h.trans (List.perm_insertionSort _ _).symm))
  exact hanti a ((List.mem_insertionSort _).mp ha) b (h.mem_iff.mpr ((List.mem_insertionSort _).mp hb))

/-- A sort by a key that no two members share. -/
theorem insertionSort_key_eq_of_perm {α κ : Type} [LinearOrder κ] {key : α → κ} {l l' : List α}
    (hn : (l.map key).Nodup) (h : l.Perm l') :
    (l.insertionSort fun a b => key a ≤ key b) = l'.insertionSort fun a b => key a ≤ key b :=
  insertionSort_eq_of_perm (fun a b => le_total (key a) (key b)) (fun _ _ _ => le_trans)
    (fun _ ha _ hb hab hba => List.inj_on_of_nodup_map hn ha hb (le_antisymm hab hba)) h

/-- `sorted(set(l), key=key)`. -/
def sortedSetOn (key : α → κ) (l : List α) : List α := l.dedup.insertionSort fun a b => key a ≤ key b

@[simp] theorem mem_sortedSetOn {a : α} : a ∈ sortedSetOn key l ↔ a ∈ l := by
  simp only [sortedSetOn, List.mem_insertionSort, List.mem_dedup]

theorem nodup_sortedSetOn : (sortedSetOn key l).Nodup :=
  (List.perm_insertionSort _ _).nodup_iff.mpr l.nodup_dedup

theorem length_sortedSetOn_le : (sortedSetOn key l).length ≤ l.length := by
  rw [sortedSetOn, List.length_insertionSort]
  exact (List.dedup_sublist l).length_le

theorem pairwise_sortedSetOn : (sortedSetOn key l).Pairwise fun a b => key a ≤ key b := by
  have : Std.Total fun a b : α => key a ≤ key b := ⟨fun a b => le_total (key a) (key b)⟩
  have : IsTrans α fun a b => key a ≤ key b := ⟨fun _ _ _ => le_trans⟩
  exact List.pairwise_insertionSort _ _

theorem sortedSetOn_congr (hkey : Function.Injective key) (h : ∀ a, a ∈ l ↔ a ∈ l') :
    sortedSetOn key l = sortedSetOn key l' := by
  refine List.Perm.eq_of_pairwise (fun a b _ _ hab hba => hkey (le_antisymm hab hba))
    pairwise_sortedSetOn pairwise_sortedSetOn ?_
  rw [List.perm_ext_iff_of_nodup nodup_sortedSetOn nodup_sortedSetOn]
  intro a
  rw [mem_sortedSetOn, mem_sortedSetOn]
  exact h a

theorem sortedSetOn_idem (hkey : Function.Injective key) :
    sortedSetOn key (sortedSetOn key l) = sortedSetOn key l :=
  sortedSetOn_congr hkey fun _ => mem_sortedSetOn

theorem sortedSetOn_nil : sortedSetOn key ([] : List α) = [] := rfl

theorem sortedSetOn_eq_nil : sortedSetOn key l = [] ↔ l = [] := by
  simp only [List.eq_nil_iff_forall_not_mem, mem_sortedSetOn]

end ATB
