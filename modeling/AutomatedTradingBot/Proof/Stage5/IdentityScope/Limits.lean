import Mathlib.Data.List.Perm.Basic
import AutomatedTradingBot.Source.Stage5.IdentityScope

/-!
# Limits of canonical values

What `_canonical_value` accepts, said of the nodes of a value: `tree` is the list of
them, with the depth of each and whether it may be negative.

* `canonicalLoop_ok`: the loop accepts a stack when it has few enough nodes and every
  node is within its limits and admissible;
* `tree_normal`, `tree_lists`: sorting the items of a `dict` and reading tuples as
  lists keep the nodes.
-/

namespace ATB.Proof.IdentityScope

open ATB.Stage5.IdentityScope

/-! ## Values -/

/-- Induction over the items of lists, tuples and `dict`s. -/
theorem Value.induction {P : Value → Prop} (none : P .none) (bool : ∀ b, P (.bool b)) (int : ∀ n, P (.int n))
    (str : ∀ s, P (.str s)) (list : ∀ vs, (∀ v ∈ vs, P v) → P (.list vs))
    (tuple : ∀ vs, (∀ v ∈ vs, P v) → P (.tuple vs)) (dict : ∀ fs, (∀ f ∈ fs, P f.2) → P (.dict fs))
    (other : P .other) (v : Value) : P v :=
  @Value.rec P (fun vs => ∀ v ∈ vs, P v) (fun fs => ∀ f ∈ fs, P f.2) (fun f => P f.2) none bool int str list tuple dict
    other (by simp) (fun _ _ h hs => List.forall_mem_cons.mpr ⟨h, hs⟩) (by simp)
    (fun _ _ h hs => List.forall_mem_cons.mpr ⟨h, hs⟩) (fun _ _ h => h) v

theorem normalItems_eq (vs : List Value) : normalItems vs = vs.map normal := by
  induction vs with
  | nil => rfl
  | cons v vs ih => rw [normalItems, ih, List.map_cons]

def mapField (g : Value → Value) (f : Option String × Value) : Option String × Value := (f.1, g f.2)

theorem normalFields_eq (fs : List (Option String × Value)) : normalFields fs = fs.map (mapField normal) := by
  induction fs with
  | nil => rfl
  | cons f fs ih =>
    obtain ⟨k, v⟩ := f
    rw [normalFields, ih, List.map_cons, normalField, mapField]

mutual

/-- The value with tuples read as lists. -/
def lists : Value → Value
  | .none => .none
  | .bool b => .bool b
  | .int n => .int n
  | .str s => .str s
  | .list items => .list (listsItems items)
  | .tuple items => .list (listsItems items)
  | .dict fields => .dict (listsFields fields)
  | .other => .other

def listsItems : List Value → List Value
  | [] => []
  | v :: vs => lists v :: listsItems vs

def listsFields : List (Option String × Value) → List (Option String × Value)
  | [] => []
  | f :: fs => listsField f :: listsFields fs

def listsField : Option String × Value → Option String × Value
  | (k, v) => (k, lists v)

end

theorem listsItems_eq (vs : List Value) : listsItems vs = vs.map lists := by
  induction vs with
  | nil => rfl
  | cons v vs ih => rw [listsItems, ih, List.map_cons]

theorem listsFields_eq (fs : List (Option String × Value)) : listsFields fs = fs.map (mapField lists) := by
  induction fs with
  | nil => rfl
  | cons f fs ih =>
    obtain ⟨k, v⟩ := f
    rw [listsFields, ih, List.map_cons, listsField, mapField]

/-- The order of `sorted(dct.items())`. -/
def Before (f g : Option String × Value) : Prop := f.1.getD "" ≤ g.1.getD ""

instance : DecidableRel Before := fun f g => inferInstanceAs (Decidable (f.1.getD "" ≤ g.1.getD ""))

instance : Std.Total Before := ⟨fun f g => le_total (f.1.getD "") (g.1.getD "")⟩

instance : IsTrans (Option String × Value) Before := ⟨fun _ _ _ h h' => le_trans h h'⟩

theorem sortFields_eq (fs : List (Option String × Value)) : sortFields fs = fs.insertionSort Before := rfl

/-- Sorting looks at the keys only. -/
theorem sortFields_map (g : Value → Value) (fs : List (Option String × Value)) :
    sortFields (fs.map (mapField g)) = (sortFields fs).map (mapField g) := by
  rw [sortFields_eq, sortFields_eq]
  exact (List.map_insertionSort Before Before (mapField g) fs fun _ _ _ _ => Iff.rfl).symm

theorem sortFields_perm (fs : List (Option String × Value)) : (sortFields fs).Perm fs :=
  List.perm_insertionSort Before fs

theorem sortFields_sortFields (fs : List (Option String × Value)) : sortFields (sortFields fs) = sortFields fs :=
  (List.pairwise_insertionSort Before fs).insertionSort_eq

@[simp] theorem normal_list (vs : List Value) : normal (.list vs) = .list (vs.map normal) := by
  rw [normal, normalItems_eq]

@[simp] theorem normal_tuple (vs : List Value) : normal (.tuple vs) = .tuple (vs.map normal) := by
  rw [normal, normalItems_eq]

@[simp] theorem normal_dict (fs : List (Option String × Value)) :
    normal (.dict fs) = .dict ((sortFields fs).map (mapField normal)) := by
  rw [normal, normalFields_eq, sortFields_map]

@[simp] theorem lists_list (vs : List Value) : lists (.list vs) = .list (vs.map lists) := by rw [lists, listsItems_eq]

@[simp] theorem lists_tuple (vs : List Value) : lists (.tuple vs) = .list (vs.map lists) := by rw [lists, listsItems_eq]

@[simp] theorem lists_dict (fs : List (Option String × Value)) : lists (.dict fs) = .dict (fs.map (mapField lists)) := by
  rw [lists, listsFields_eq]

theorem mapField_congr {g g' : Value → Value} {fs : List (Option String × Value)} (h : ∀ f ∈ fs, g f.2 = g' f.2) :
    fs.map (mapField g) = fs.map (mapField g') :=
  List.map_congr_left fun f hf => by rw [mapField, mapField, h f hf]

theorem map_mapField (g g' : Value → Value) (fs : List (Option String × Value)) :
    (fs.map (mapField g)).map (mapField g') = fs.map (mapField (g' ∘ g)) := by
  rw [List.map_map]
  rfl

theorem normal_lists (v : Value) : normal (lists v) = lists (normal v) := by
  induction v using Value.induction with
  | list vs ih => simpa using ih
  | tuple vs ih => simpa using ih
  | dict fs ih =>
    rw [lists_dict, normal_dict, normal_dict, lists_dict, sortFields_map, map_mapField, map_mapField]
    exact congrArg Value.dict (mapField_congr fun f hf => ih f ((sortFields_perm fs).mem_iff.mp hf))
  | _ => rfl

theorem normal_normal (v : Value) : normal (normal v) = normal v := by
  induction v using Value.induction with
  | list vs ih => simpa using ih
  | tuple vs ih => simpa using ih
  | dict fs ih =>
    rw [normal_dict, normal_dict, sortFields_map, sortFields_sortFields, map_mapField]
    exact congrArg Value.dict (mapField_congr fun f hf => ih f ((sortFields_perm fs).mem_iff.mp hf))
  | _ => rfl

/-! ## Nodes -/

/-- The item of a `dict` as `_canonical_value` puts it on its stack. -/
def fieldEntries (depth : Nat) (negative : Bool) : Option String × Value → List StackEntry
  | (some key, v) =>
    [(.str key, depth + 1, false), (v, depth + 1, negative || key == "immutable_business_parameters")]
  | (.none, v) => [(v, depth + 1, negative)]

/-- What stands directly in a value. -/
def children (depth : Nat) (negative : Bool) : Value → List StackEntry
  | .list vs | .tuple vs => vs.map fun v => (v, depth + 1, negative)
  | .dict fs => fs.flatMap (fieldEntries depth negative)
  | _ => []

mutual

/-- The nodes of a value. -/
def tree (depth : Nat) (negative : Bool) : Value → List StackEntry
  | .list vs => (.list vs, depth, negative) :: treeItems (depth + 1) negative vs
  | .tuple vs => (.tuple vs, depth, negative) :: treeItems (depth + 1) negative vs
  | .dict fs => (.dict fs, depth, negative) :: treeFields depth negative fs
  | .none => [(.none, depth, negative)]
  | .bool b => [(.bool b, depth, negative)]
  | .int n => [(.int n, depth, negative)]
  | .str s => [(.str s, depth, negative)]
  | .other => [(.other, depth, negative)]

def treeItems (depth : Nat) (negative : Bool) : List Value → List StackEntry
  | [] => []
  | v :: vs => tree depth negative v ++ treeItems depth negative vs

def treeFields (depth : Nat) (negative : Bool) : List (Option String × Value) → List StackEntry
  | [] => []
  | f :: fs => treeField depth negative f ++ treeFields depth negative fs

def treeField (depth : Nat) (negative : Bool) : Option String × Value → List StackEntry
  | (some key, v) =>
    (.str key, depth + 1, false) :: tree (depth + 1) (negative || key == "immutable_business_parameters") v
  | (.none, v) => tree (depth + 1) negative v

end

def nodesOf (e : StackEntry) : List StackEntry := tree e.2.1 e.2.2 e.1

theorem treeItems_eq (d : Nat) (n : Bool) (vs : List Value) :
    treeItems d n vs = (vs.map fun v => (v, d, n)).flatMap nodesOf := by
  induction vs with
  | nil => rfl
  | cons v vs ih =>
    rw [treeItems, ih, List.map_cons, List.flatMap_cons]
    rfl

theorem treeField_eq (d : Nat) (n : Bool) (f : Option String × Value) :
    treeField d n f = (fieldEntries d n f).flatMap nodesOf := by
  obtain ⟨k, v⟩ := f
  cases k with
  | none => simp [treeField, fieldEntries, nodesOf]
  | some k => simp [treeField, fieldEntries, nodesOf, tree]

theorem treeFields_eq (d : Nat) (n : Bool) (fs : List (Option String × Value)) :
    treeFields d n fs = (fs.flatMap (fieldEntries d n)).flatMap nodesOf := by
  induction fs with
  | nil => rfl
  | cons f fs ih => rw [treeFields, ih, treeField_eq, List.flatMap_cons, List.flatMap_append]

/-- A value is one node, with those of what stands in it. -/
theorem tree_eq (d : Nat) (n : Bool) (v : Value) : tree d n v = (v, d, n) :: (children d n v).flatMap nodesOf := by
  cases v with
  | list vs => rw [tree, treeItems_eq, children]
  | tuple vs => rw [tree, treeItems_eq, children]
  | dict fs => rw [tree, treeFields_eq, children]
  | _ => simp [tree, children]

/-- Within the limits on depth, collections and texts. -/
def Limit : StackEntry → Prop
  | (.str s, _, _) => s.utf8ByteSize ≤ maxStringBytes
  | (.list vs, depth, _) | (.tuple vs, depth, _) => depth < maxDepth ∧ vs.length ≤ maxCollection
  | (.dict fs, depth, _) => depth < maxDepth ∧ fs.length ≤ maxCollection
  | _ => True

/-- Of a type and form that is allowed here. -/
def Admissible (py : Platform) : StackEntry → Prop
  | (.int n, _, negative) => 0 ≤ n ∨ negative = true
  | (.str s, _, _) => py.isNfc s = true
  | (.dict fs, _, _) => ∀ f ∈ fs, f.1.isSome
  | (.other, _, _) => False
  | _ => True

/-- The size of a value as `_canonical_value` and `_BoundedJSON` count it. -/
def count (v : Value) : Nat := (tree 0 false v).length

theorem pushFields_ok {d : Nat} {n : Bool} {fs : List (Option String × Value)} {stack stack' : List StackEntry} :
    pushFields d n fs stack = .ok stack' ↔
      (∀ f ∈ fs, f.1.isSome) ∧ stack' = (fs.flatMap (fieldEntries d n)).reverse ++ stack := by
  induction fs generalizing stack with
  | nil =>
    rw [pushFields, Except.ok.injEq]
    exact ⟨fun h => ⟨by simp, h.symm⟩, fun h => h.2.symm⟩
  | cons f fs ih =>
    obtain ⟨k, v⟩ := f
    cases k with
    | none =>
      rw [pushFields]
      exact ⟨fun h => (by cases h), fun h => absurd (h.1 _ (List.mem_cons_self ..)) Bool.false_ne_true⟩
    | some k =>
      rw [pushFields, ih, List.forall_mem_cons, List.flatMap_cons, List.reverse_append]
      simp only [Option.isSome_some, true_and, fieldEntries, List.append_assoc]
      rfl

theorem flatMap_reverse_append (l stack : List StackEntry) :
    ((l.reverse ++ stack).flatMap nodesOf).Perm (l.flatMap nodesOf ++ stack.flatMap nodesOf) := by
  rw [List.flatMap_append]
  exact ((List.reverse_perm l).flatMap_right nodesOf).append_right _

/-- The nodes of the stack fit in the budget, are within their limits and admissible. -/
def Accepted (py : Platform) (budget : Nat) (stack : List StackEntry) : Prop :=
  (stack.flatMap nodesOf).length ≤ budget ∧ ∀ e ∈ stack.flatMap nodesOf, Limit e ∧ Admissible py e

variable {py : Platform}

theorem accepted_cons {budget : Nat} {v : Value} {d : Nat} {n : Bool} {stack stack' : List StackEntry}
    (hp : (stack'.flatMap nodesOf).Perm ((children d n v).flatMap nodesOf ++ stack.flatMap nodesOf)) :
    Accepted py (budget + 1) ((v, d, n) :: stack) ↔
      Limit (v, d, n) ∧ Admissible py (v, d, n) ∧ Accepted py budget stack' := by
  have hnodes : nodesOf (v, d, n) = (v, d, n) :: (children d n v).flatMap nodesOf := tree_eq d n v
  simp only [Accepted, List.flatMap_cons, hnodes, List.cons_append, List.length_cons, Nat.add_le_add_iff_right,
    hp.length_eq, List.forall_mem_cons, hp.mem_iff]
  tauto

/-- The checks of a container. -/
theorem container_ok {d size : Nat} {r : Except String Unit} {P : Prop} (h : r = .ok () ↔ P) :
    (if maxDepth ≤ d then .error depthError else if maxCollection < size then .error collectionError else r) =
        Except.ok () ↔ (d < maxDepth ∧ size ≤ maxCollection) ∧ P := by
  split
  · next hd => simp [Nat.not_lt.mpr hd]
  · next hd =>
    split
    · next hs => simp [Nat.not_le.mpr hs]
    · next hs => simp [Nat.not_le.mp hd, Nat.not_lt.mp hs, h]

/-- What the loop of `_canonical_value` accepts. -/
theorem accepted_nil {budget : Nat} : Accepted py budget [] :=
  ⟨Nat.zero_le _, fun _ he => absurd he List.not_mem_nil⟩

theorem not_accepted_zero {v : Value} {d : Nat} {n : Bool} {stack : List StackEntry} :
    ¬ Accepted py 0 ((v, d, n) :: stack) := by
  have hnodes : nodesOf (v, d, n) = (v, d, n) :: (children d n v).flatMap nodesOf := tree_eq d n v
  rintro ⟨hlen, -⟩
  rw [List.flatMap_cons, hnodes, List.cons_append, List.length_cons] at hlen
  omega

theorem canonicalLoop_ok {budget : Nat} {stack : List StackEntry} :
    canonicalLoop py budget stack = .ok () ↔ Accepted py budget stack := by
  induction budget generalizing stack with
  | zero =>
    cases stack with
    | nil => exact ⟨fun _ => accepted_nil, fun _ => by rw [canonicalLoop]⟩
    | cons e stack =>
      obtain ⟨v, d, n⟩ := e
      exact ⟨fun h => (by cases h), fun h => absurd h not_accepted_zero⟩
  | succ budget ih =>
    cases stack with
    | nil => exact ⟨fun _ => accepted_nil, fun _ => by rw [canonicalLoop]⟩
    | cons e stack =>
      obtain ⟨v, d, n⟩ := e
      have hleaf : children d n v = [] →
          (stack.flatMap nodesOf).Perm ((children d n v).flatMap nodesOf ++ stack.flatMap nodesOf) := by
        intro h
        rw [h]
        exact .refl _
      cases v with
      | none => rw [accepted_cons (hleaf rfl), canonicalLoop, ih]; simp only [Limit, Admissible, true_and]
      | bool b => rw [accepted_cons (hleaf rfl), canonicalLoop, ih]; simp only [Limit, Admissible, true_and]
      | int m =>
        rw [accepted_cons (hleaf rfl), canonicalLoop]
        split
        · next h =>
          have hn : ¬ (0 ≤ m ∨ n = true) := by rw [h.2]; exact not_or.mpr ⟨not_le.mpr h.1, Bool.false_ne_true⟩
          exact ⟨fun h => (by cases h), fun h => absurd h.2.1 hn⟩
        · next h =>
          rw [ih]
          have hm : 0 ≤ m ∨ n = true := by
            by_contra hne
            simp only [not_or, not_le, Bool.not_eq_true] at hne
            exact h hne
          simp only [Limit, Admissible, hm, true_and]
      | str s =>
        rw [accepted_cons (hleaf rfl), canonicalLoop]
        split
        · next h => simp [Admissible, h]
        · next h =>
          split
          · next h' => simp [Limit, Nat.not_le.mpr h']
          · next h' => rw [ih]; simp [Limit, Admissible, Nat.not_lt.mp h', Bool.not_eq_false _ ▸ h]
      | list vs =>
        have hp : (((vs.map fun v => (v, d + 1, n)).reverse ++ stack).flatMap nodesOf).Perm
            ((children d n (.list vs)).flatMap nodesOf ++ stack.flatMap nodesOf) := flatMap_reverse_append _ stack
        rw [canonicalLoop, container_ok ih, accepted_cons hp]
        simp only [Limit, Admissible, true_and]
      | tuple vs =>
        have hp : (((vs.map fun v => (v, d + 1, n)).reverse ++ stack).flatMap nodesOf).Perm
            ((children d n (.tuple vs)).flatMap nodesOf ++ stack.flatMap nodesOf) := flatMap_reverse_append _ stack
        rw [canonicalLoop, container_ok ih, accepted_cons hp]
        simp only [Limit, Admissible, true_and]
      | dict fs =>
        have hp : (((fs.flatMap (fieldEntries d n)).reverse ++ stack).flatMap nodesOf).Perm
            ((children d n (.dict fs)).flatMap nodesOf ++ stack.flatMap nodesOf) := flatMap_reverse_append _ stack
        have hpush : (pushFields d n fs stack >>= fun stack => canonicalLoop py budget stack) = .ok () ↔
            (∀ f ∈ fs, f.1.isSome) ∧ Accepted py budget ((fs.flatMap (fieldEntries d n)).reverse ++ stack) := by
          simp only [bind_eq_ok, pushFields_ok, ih, and_assoc, exists_and_left, exists_eq_left]
        rw [canonicalLoop, container_ok hpush, accepted_cons hp]
        simp only [Limit, Admissible, and_assoc]
      | other =>
        rw [canonicalLoop, accepted_cons (hleaf rfl)]
        exact ⟨fun h => (by cases h), fun h => h.2.1.elim⟩

theorem canonicalValue_ok {v : Value} :
    canonicalValue py v = .ok () ↔ count v ≤ maxNodes ∧ ∀ e ∈ tree 0 false v, Limit e ∧ Admissible py e := by
  rw [canonicalValue, canonicalLoop_ok, Accepted, List.flatMap_cons, List.flatMap_nil, List.append_nil]
  rfl

/-! ## The same nodes -/

theorem children_induction {P : Value → Prop} (h : ∀ v, (∀ d n, ∀ e ∈ children d n v, P e.1) → P v) (v : Value) :
    P v := by
  have hstr : ∀ s, P (.str s) := fun s => h _ fun _ _ _ he => by cases he
  induction v using Value.induction with
  | list vs ih =>
    refine h _ fun d n e he => ?_
    obtain ⟨v, hv, rfl⟩ := List.mem_map.mp he
    exact ih v hv
  | tuple vs ih =>
    refine h _ fun d n e he => ?_
    obtain ⟨v, hv, rfl⟩ := List.mem_map.mp he
    exact ih v hv
  | dict fs ih =>
    refine h _ fun d n e he => ?_
    obtain ⟨⟨k, v⟩, hf, he⟩ := List.mem_flatMap.mp he
    cases k with
    | none =>
      obtain rfl := List.mem_singleton.mp he
      exact ih _ hf
    | some k =>
      simp only [fieldEntries, List.mem_cons, List.not_mem_nil, or_false] at he
      rcases he with rfl | rfl
      · exact hstr k
      · exact ih _ hf
  | _ => exact h _ fun _ _ _ he => by cases he

def mapEntry (g : Value → Value) (e : StackEntry) : StackEntry := (g e.1, e.2)

/-- A map that keeps what stands in a value, up to the order, keeps its nodes. -/
theorem tree_map {g : Value → Value} (hg : ∀ d n v, (children d n (g v)).Perm ((children d n v).map (mapEntry g)))
    (v : Value) (d : Nat) (n : Bool) : (tree d n (g v)).Perm ((tree d n v).map (mapEntry g)) := by
  induction v using children_induction generalizing d n with
  | h v ih =>
    rw [tree_eq, tree_eq, List.map_cons, List.map_flatMap]
    refine .cons _ (((hg d n v).flatMap_right nodesOf).trans ?_)
    rw [List.flatMap_map]
    exact List.Perm.flatMap_left _ fun e he => ih d n e he e.2.1 e.2.2

theorem fieldEntries_map {g : Value → Value} (hstr : ∀ s, g (.str s) = .str s) (d : Nat) (n : Bool)
    (f : Option String × Value) :
    fieldEntries d n (mapField g f) = (fieldEntries d n f).map (mapEntry g) := by
  obtain ⟨k, v⟩ := f
  cases k with
  | none => rfl
  | some k => simp [mapField, fieldEntries, mapEntry, hstr]

theorem flatMap_fieldEntries_map {g : Value → Value} (hstr : ∀ s, g (.str s) = .str s) (d : Nat) (n : Bool)
    (fs : List (Option String × Value)) :
    (fs.map (mapField g)).flatMap (fieldEntries d n) = (fs.flatMap (fieldEntries d n)).map (mapEntry g) := by
  rw [List.flatMap_map, List.map_flatMap]
  simp only [fieldEntries_map hstr]

theorem children_normal (d : Nat) (n : Bool) (v : Value) :
    (children d n (normal v)).Perm ((children d n v).map (mapEntry normal)) := by
  cases v with
  | list vs =>
    rw [normal_list, children, children, List.map_map, List.map_map]
    exact .refl _
  | tuple vs =>
    rw [normal_tuple, children, children, List.map_map, List.map_map]
    exact .refl _
  | dict fs =>
    rw [normal_dict, children, children, flatMap_fieldEntries_map (fun _ => rfl)]
    exact ((sortFields_perm fs).flatMap_right _).map _
  | _ => exact .refl _

theorem children_lists (d : Nat) (n : Bool) (v : Value) :
    (children d n (lists v)).Perm ((children d n v).map (mapEntry lists)) := by
  cases v with
  | list vs =>
    rw [lists_list, children, children, List.map_map, List.map_map]
    exact .refl _
  | tuple vs =>
    rw [lists_tuple, children, children, List.map_map, List.map_map]
    exact .refl _
  | dict fs => rw [lists_dict, children, children, flatMap_fieldEntries_map (fun _ => rfl)]
  | _ => exact .refl _

/-- The value that stands for another one in its canonical form. -/
def canonical (v : Value) : Value := lists (normal v)

theorem tree_canonical (v : Value) (d : Nat) (n : Bool) :
    (tree d n (canonical v)).Perm ((tree d n v).map (mapEntry canonical)) := by
  have hlists := tree_map children_lists (normal v) d n
  have hnormal := (tree_map children_normal v d n).map (mapEntry lists)
  rw [List.map_map] at hnormal
  exact hlists.trans hnormal

theorem limit_canonical (e : StackEntry) : Limit (mapEntry canonical e) ↔ Limit e := by
  obtain ⟨v, d, n⟩ := e
  cases v with
  | list vs => simp [mapEntry, canonical, Limit]
  | tuple vs => simp [mapEntry, canonical, Limit]
  | dict fs => simp [mapEntry, canonical, Limit, (sortFields_perm fs).length_eq]
  | _ => exact Iff.rfl

theorem admissible_canonical {py : Platform} (e : StackEntry) : Admissible py (mapEntry canonical e) ↔ Admissible py e := by
  obtain ⟨v, d, n⟩ := e
  cases v with
  | list vs => simp [mapEntry, canonical, Admissible]
  | tuple vs => simp [mapEntry, canonical, Admissible]
  | dict fs =>
    simp only [mapEntry, canonical, normal_dict, lists_dict, Admissible, List.forall_mem_map]
    exact ⟨fun h f hf => h f ((sortFields_perm fs).mem_iff.mpr hf), fun h f hf => h f ((sortFields_perm fs).mem_iff.mp hf)⟩
  | _ => exact Iff.rfl

/-- The canonical form is accepted with the value. -/
theorem canonicalValue_canonical {py : Platform} (v : Value) :
    canonicalValue py (canonical v) = .ok () ↔ canonicalValue py v = .ok () := by
  have hp := tree_canonical v 0 false
  rw [canonicalValue_ok, canonicalValue_ok, count, count, hp.length_eq, List.length_map]
  simp only [hp.mem_iff, List.forall_mem_map, limit_canonical, admissible_canonical]

end ATB.Proof.IdentityScope
