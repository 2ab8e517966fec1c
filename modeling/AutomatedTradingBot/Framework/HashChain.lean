import Mathlib.Data.List.Basic

/-!
# Hash chains

Records in a row, each of which names the tag of the one before it. The tag of a record is a
digest of all of it, so that records whose digests do not collide are told by their tags.

* `Linked.concat`: a chain grows at its end;
* `Linked.take_eq`: chains that carry one tag at one place agree up to it.
-/

namespace ATB.HashChain

variable {α δ : Type}

/-- Every record names the tag of the one before it. -/
def Linked (tag : α → δ) (prev : α → Option δ) (l : List α) : Prop :=
  ∀ i (h : i < l.length), prev l[i] = (l.take i).getLast?.map tag

/-- Records of the two lists that have one tag are one record. -/
def TagsTell (tag : α → δ) (l l' : List α) : Prop := ∀ a ∈ l, ∀ b ∈ l', tag a = tag b → a = b

variable {tag : α → δ} {prev : α → Option δ} {l l' : List α}

theorem linked_nil : Linked tag prev [] := fun _ h => absurd h (Nat.not_lt_zero _)

/-- A record that names the last one goes at the end. -/
theorem Linked.concat {a : α} (h : Linked tag prev l) (ha : prev a = l.getLast?.map tag) : Linked tag prev (l ++ [a]) := by
  intro i hi
  rw [List.length_append, List.length_singleton] at hi
  rcases Nat.lt_or_ge i l.length with hlt | hge
  · rw [List.getElem_append_left hlt, List.take_append_of_le_length (Nat.le_of_lt hlt)]
    exact h i hlt
  · obtain rfl : i = l.length := by omega
    rw [List.getElem_concat_length rfl, List.take_left]
    exact ha

/-- A record after the first names the tag of the one before it. -/
theorem Linked.prev_succ (h : Linked tag prev l) {n : Nat} (hn : n + 1 < l.length) :
    prev l[n + 1] = some (tag l[n]) := by
  have hlt : n < l.length := by omega
  rw [h _ hn, List.take_succ_eq_append_getElem hlt, List.getLast?_concat, Option.map_some]

/-- Chains that carry the same tag at a place are the same up to it. -/
theorem Linked.take_eq (h : Linked tag prev l) (h' : Linked tag prev l') (htell : TagsTell tag l l') {n : Nat}
    (hn : n < l.length) (hn' : n < l'.length) (htag : tag l[n] = tag l'[n]) : l.take (n + 1) = l'.take (n + 1) := by
  have hrecord : l[n] = l'[n] := htell _ (List.getElem_mem _) _ (List.getElem_mem _) htag
  rw [List.take_succ_eq_append_getElem hn, List.take_succ_eq_append_getElem hn', hrecord]
  congr 1
  -- the record at the place names the tag of the one before it, in either chain
  induction n with
  | zero => rfl
  | succ n ih =>
    have hprev : tag l[n] = tag l'[n] := by
      have hnamed := h.prev_succ hn
      rw [hrecord, h'.prev_succ hn'] at hnamed
      exact (Option.some.inj hnamed).symm
    have hbefore : l[n] = l'[n] := htell _ (List.getElem_mem _) _ (List.getElem_mem _) hprev
    rw [List.take_succ_eq_append_getElem (by omega : n < l.length),
      List.take_succ_eq_append_getElem (by omega : n < l'.length), hbefore, ih (by omega) (by omega) hprev hbefore]

end ATB.HashChain
