import AutomatedTradingBot.Framework.Datetime
import AutomatedTradingBot.Framework.Dict
import Mathlib.Data.Finset.Max
import Mathlib.Logic.Relation

/-!
# Lineages of versions

A version names the one it supersedes by its identity, and says since when it is
known. `index`, `edges`, `walks` and `ordered` are the checks that a tuple of
versions is a lineage: identities are distinct, every predecessor is there and has
one successor, chains end and are not too deep, and a version is known after the
one it supersedes.

* `known_after`: in a checked lineage a version is known after the one it supersedes,
  directly or through a chain;
* `exists_tip`: the versions of a list that come after a given one have one that
  nothing in the list supersedes.
-/

namespace ATB

/-- Why a tuple of versions is not a lineage. -/
inductive LineageFault where
  | duplicate
  | missingPredecessor
  | branchingSuccessor
  | cycle
  | tooDeep
  | knowledgeNotGreater
deriving DecidableEq

/-- What a lineage reads of a version. -/
structure LineageView (V I : Type) where
  id : V → I
  predecessor : V → Option I
  knowledge : V → Datetime

namespace Lineage

variable {V I : Type} [DecidableEq I] (view : LineageView V I)

/-- The versions by their identities, which are distinct. -/
def index (values : List V) : Except LineageFault (List (I × V)) := do
  raiseIf (¬ (values.map view.id).Nodup) .duplicate
  return Dict.ofKeys view.id values

/-- Every predecessor is there, and is superseded once; `successors` are those so far. -/
def edges (byId : List (I × V)) : List I → List V → Except LineageFault Unit
  | _, [] => .ok ()
  | successors, v :: vs =>
    match view.predecessor v with
    | none => edges byId successors vs
    | some p => do
      raiseIf (Dict.get? p byId = none) .missingPredecessor
      raiseIf (p ∈ successors) .branchingSuccessor
      edges byId (p :: successors) vs

/-- The chain of predecessors from `current`, which may still go `depth` steps. -/
def walk (byId : List (I × V)) (start : I) : Nat → List I → I → Except LineageFault Unit
  | depth, seen, current =>
    match (Dict.get? current byId).bind view.predecessor with
    | none => .ok ()
    | some p =>
      if p ∈ seen ∨ p = start then .error .cycle
      else
        match depth with
        | 0 => .error .tooDeep
        | depth + 1 => walk byId start depth (p :: seen) p

/-- The chains of all the versions. -/
def walks (byId : List (I × V)) (depth : Nat) : Except LineageFault Unit :=
  (Dict.keys byId).forM fun start => walk view byId start depth [] start

/-- A version is known after the one it supersedes. -/
def ordered (byId : List (I × V)) (values : List V) : Except LineageFault Unit :=
  values.forM fun v =>
    raiseIf (∃ p ∈ view.predecessor v, ∃ x ∈ Dict.get? p byId, view.knowledge v ≤ view.knowledge x)
      .knowledgeNotGreater

/-- The checks on the edges, in the order in which they are made. -/
def checkEdges (byId : List (I × V)) (depth : Nat) (values : List V) : Except LineageFault Unit := do
  edges view byId [] values
  walks view byId depth
  ordered view byId values

/-! ## Supersession -/

variable {view}

/-- One version of a tuple names another as its predecessor. -/
def Supersedes (view : LineageView V I) (values : List V) (newer older : V) : Prop :=
  newer ∈ values ∧ older ∈ values ∧ view.predecessor newer = some (view.id older)

omit [DecidableEq I] in
theorem Supersedes.mono {values values' : List V} {newer older : V} (h : Supersedes view values newer older)
    (hsub : ∀ v ∈ values, v ∈ values') : Supersedes view values' newer older :=
  ⟨hsub newer h.1, hsub older h.2.1, h.2.2⟩

/-- What `index` returns. -/
theorem index_eq_ok {values : List V} {byId : List (I × V)} (h : index view values = .ok byId) :
    (values.map view.id).Nodup ∧ byId = Dict.ofKeys view.id values := by
  simp only [index, raiseIf_bind_eq_ok, not_not, pure_eq_ok] at h
  exact ⟨h.1, h.2.symm⟩

theorem ordered_eq_ok {byId : List (I × V)} {values : List V} {u : Unit}
    (h : ordered view byId values = .ok u) {v x : V} {p : I} (hv : v ∈ values) (hp : view.predecessor v = some p)
    (hx : Dict.get? p byId = some x) : view.knowledge x < view.knowledge v := by
  have hstep := forM_eq_ok.mp h v hv
  rw [raiseIf_eq_ok] at hstep
  exact Datetime.not_le.mp fun hle => hstep ⟨p, hp, x, hx, hle⟩

/-- A version of a checked lineage is known after the one it supersedes. -/
theorem Supersedes.known_after {values : List V} {depth : Nat} {u : Unit} (hn : (values.map view.id).Nodup)
    (h : checkEdges view (Dict.ofKeys view.id values) depth values = .ok u) {newer older : V}
    (hs : Supersedes view values newer older) : view.knowledge older < view.knowledge newer := by
  obtain ⟨-, -, h⟩ := bind_eq_ok.mp h
  obtain ⟨-, -, h⟩ := bind_eq_ok.mp h
  exact ordered_eq_ok h hs.1 hs.2.2 ((Dict.get?_ofKeys hn).mpr ⟨hs.2.1, rfl⟩)

/-- The same through a chain of supersessions. -/
theorem known_after {values : List V} {depth : Nat} {u : Unit} (hn : (values.map view.id).Nodup)
    (h : checkEdges view (Dict.ofKeys view.id values) depth values = .ok u) {newer older : V}
    (hs : Relation.TransGen (Supersedes view values) newer older) : view.knowledge older < view.knowledge newer := by
  induction hs with
  | single hs => exact hs.known_after hn h
  | tail _ hs ih => exact Nat.lt_trans (hs.known_after hn h) ih

/-- The versions of a part of a checked lineage that come after `older` have one that
nothing in the part supersedes. -/
theorem exists_tip {values part : List V} {depth : Nat} {u : Unit} (hn : (values.map view.id).Nodup)
    (h : checkEdges view (Dict.ofKeys view.id values) depth values = .ok u) (hpart : ∀ v ∈ part, v ∈ values)
    {newer older : V} (hmem : newer ∈ part) (hs : Relation.TransGen (Supersedes view values) newer older) :
    ∃ tip ∈ part, Relation.TransGen (Supersedes view values) tip older ∧
      ∀ v ∈ part, view.predecessor v ≠ some (view.id tip) := by
  classical
  let after := part.toFinset.filter fun v => Relation.TransGen (Supersedes view values) v older
  have hafter : after.Nonempty := ⟨newer, by simp [after, hmem, hs]⟩
  obtain ⟨tip, htip, hmax⟩ := after.exists_max_image (fun v => (view.knowledge v).key) hafter
  have htip' : tip ∈ part ∧ Relation.TransGen (Supersedes view values) tip older := by simpa [after] using htip
  refine ⟨tip, htip'.1, htip'.2, fun v hv hpred => ?_⟩
  have hstep : Supersedes view values v tip := ⟨hpart v hv, hpart tip htip'.1, hpred⟩
  have hle : (view.knowledge v).key ≤ (view.knowledge tip).key :=
    hmax v (by simpa [after] using ⟨hv, Relation.TransGen.head hstep htip'.2⟩)
  exact Datetime.not_le.mpr (hstep.known_after hn h) hle

end Lineage

end ATB
