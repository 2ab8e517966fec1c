import AutomatedTradingBot.Framework.SortedSet
import AutomatedTradingBot.Proof.Stage5.IdentityScope.Limits
import AutomatedTradingBot.Source.Stage5.OperationEnvelope

/-!
# The normal form of an operation request

What `_canonical` accepts is said of the nodes of a tree (`Everywhere`), and what it
returns is a function of the tree (`form`).

* `canonical_eq_ok`: the two together;
* `Reorder.canonical`: the order of the items of a `dict` does not matter;
* `canonical_plain`: the plain form has the same canonical form;
* `canonical_stored`: the stored form is accepted again when there is no mapping in it;
* `request_normal_form`: which requests are created, and that the rest holds of all.
-/

namespace ATB.Proof.OperationEnvelope

open ATB.Stage5.IdentityScope (Value maxStrDigits)
open ATB.Stage5.OperationEnvelope

/-! ## Trees -/

mutual

/-- `P` of the value and of all that stands in it. -/
def Everywhere (P : Value → Prop) : Value → Prop
  | .list vs => P (.list vs) ∧ EveryItem P vs
  | .tuple vs => P (.tuple vs) ∧ EveryItem P vs
  | .dict fs => P (.dict fs) ∧ EveryField P fs
  | .none => P .none
  | .bool b => P (.bool b)
  | .int n => P (.int n)
  | .str s => P (.str s)
  | .other => P .other

def EveryItem (P : Value → Prop) : List Value → Prop
  | [] => True
  | v :: vs => Everywhere P v ∧ EveryItem P vs

def EveryField (P : Value → Prop) : List (Option String × Value) → Prop
  | [] => True
  | f :: fs => AtField P f ∧ EveryField P fs

def AtField (P : Value → Prop) : Option String × Value → Prop
  | (_, v) => Everywhere P v

end

mutual

/-- What `_canonical` makes of a value that it accepts. -/
def form : Value → CanonicalValue
  | .none => .none
  | .bool b => .bool b
  | .int n => .int n
  | .str s => .str s
  | .list vs => .tuple (formItems vs)
  | .tuple vs => .tuple (formItems vs)
  | .dict fs => .mapping (sortItems (formFields fs))
  | .other => .none

def formItems : List Value → List CanonicalValue
  | [] => []
  | v :: vs => form v :: formItems vs

def formFields : List (Option String × Value) → List (String × CanonicalValue)
  | [] => []
  | f :: fs => formField f :: formFields fs

def formField : Option String × Value → String × CanonicalValue
  | (k, v) => (k.getD "", form v)

end

section Trees

variable {P Q : Value → Prop} {v v' : Value} {vs : List Value} {fs : List (Option String × Value)}

theorem everyItem_iff : EveryItem P vs ↔ ∀ v ∈ vs, Everywhere P v := by
  induction vs with
  | nil => simp [EveryItem]
  | cons v vs ih => rw [EveryItem, ih, List.forall_mem_cons]

theorem everyField_iff : EveryField P fs ↔ ∀ f ∈ fs, Everywhere P f.2 := by
  induction fs with
  | nil => simp [EveryField]
  | cons f fs ih => rw [EveryField, ih, List.forall_mem_cons, AtField]

theorem everywhere_list : Everywhere P (.list vs) ↔ P (.list vs) ∧ ∀ v ∈ vs, Everywhere P v := by
  rw [Everywhere, everyItem_iff]

theorem everywhere_tuple : Everywhere P (.tuple vs) ↔ P (.tuple vs) ∧ ∀ v ∈ vs, Everywhere P v := by
  rw [Everywhere, everyItem_iff]

theorem everywhere_dict : Everywhere P (.dict fs) ↔ P (.dict fs) ∧ ∀ f ∈ fs, Everywhere P f.2 := by
  rw [Everywhere, everyField_iff]

theorem form_list (vs : List Value) : form (.list vs) = .tuple (vs.map form) := by
  rw [form]
  congr
  induction vs with
  | nil => rfl
  | cons v vs ih => rw [formItems, ih, List.map_cons]

theorem form_tuple (vs : List Value) : form (.tuple vs) = .tuple (vs.map form) := form_list vs

theorem formFields_eq (fs : List (Option String × Value)) : formFields fs = fs.map formField := by
  induction fs with
  | nil => rfl
  | cons f fs ih => rw [formFields, ih, List.map_cons]

theorem formField_eq (f : Option String × Value) : formField f = (f.1.getD "", form f.2) := by
  obtain ⟨k, v⟩ := f
  rw [formField]

theorem form_dict (fs : List (Option String × Value)) : form (.dict fs) = .mapping (sortItems (fs.map formField)) := by
  rw [form, formFields_eq]

end Trees

/-! ## Sorting -/

section Sorting

variable {α β : Type} {l l' : List (String × α)}

theorem perm_sortItems (l : List (String × α)) : (sortItems l).Perm l := List.perm_insertionSort _ l

theorem mem_sortItems {f : String × α} : f ∈ sortItems l ↔ f ∈ l := (perm_sortItems l).mem_iff

/-- Sorting looks at the keys only. -/
theorem sortItems_map (g : String × α → String × β) (hg : ∀ f, (g f).1 = f.1) (l : List (String × α)) :
    sortItems (l.map g) = (sortItems l).map g :=
  (List.map_insertionSort _ _ g l fun a _ b _ => by rw [hg a, hg b]).symm

theorem sortItems_sortItems (l : List (String × α)) : sortItems (sortItems l) = sortItems l := by
  have : Std.Total fun f g : String × α => f.1 ≤ g.1 := ⟨fun f g => le_total f.1 g.1⟩
  have : IsTrans (String × α) fun f g => f.1 ≤ g.1 := ⟨fun _ _ _ => le_trans⟩
  exact (List.pairwise_insertionSort _ l).insertionSort_eq

theorem sortItems_perm (h : l.Perm l') (hn : (l.map Prod.fst).Nodup) : sortItems l = sortItems l' :=
  insertionSort_key_eq_of_perm hn h

end Sorting

/-! ## What is accepted -/

variable (env : Environment)

/-- A text that `_text` returns. -/
def Clean (s : String) : Prop :=
  ¬ (s = "" ∨ Text.strip (Text.chars s) ≠ Text.chars s) ∧ env.py.isNfc s = true ∧ (Text.chars s).any env.isControl = false

/-- What `_canonical` asks of a value beside what stands in it. -/
def Admits : Value → Prop
  | .str s => Clean env s
  | .dict fs => ∀ f ∈ fs, ∃ k, f.1 = some k ∧ Clean env k
  | .other => False
  | _ => True

section Accepted

variable {env : Environment} {v : Value} {vs : List Value} {fs : List (Option String × Value)} {path : String}

theorem text_eq_ok {value : Option String} {s : String} :
    text env path value = .ok s ↔ value = some s ∧ Clean env s := by
  simp only [text, bind_eq_ok, orRaise_eq_ok, raiseIf_eq_ok, pure_eq_ok, Clean, Bool.not_eq_true, Bool.not_eq_false]
  constructor
  · rintro ⟨t, rfl, -, h, -, h', -, h'', rfl⟩
    exact ⟨rfl, h, h', h''⟩
  · rintro ⟨rfl, h, h', h''⟩
    exact ⟨s, rfl, (), h, (), h', (), h'', rfl⟩

theorem discard_text_eq_ok {value : Option String} {u : Unit} :
    discard (text env path value) = .ok u ↔ ∃ k, value = some k ∧ Clean env k := by
  rw [discard, show Functor.mapConst PUnit.unit (text env path value) = (fun _ => ()) <$> text env path value from rfl, map_eq_ok]
  simp only [text_eq_ok]
  exact ⟨fun ⟨k, h, _⟩ => ⟨k, h⟩, fun ⟨k, h⟩ => ⟨k, h, trivial⟩⟩

theorem canonicalItems_eq_ok (h : ∀ v ∈ vs, ∀ path c, canonical env path v = .ok c ↔ Everywhere (Admits env) v ∧ c = form v)
    {cs : List CanonicalValue} :
    canonicalItems env path vs = .ok cs ↔ (∀ v ∈ vs, Everywhere (Admits env) v) ∧ cs = vs.map form := by
  induction vs generalizing cs with
  | nil => simp [canonicalItems, eq_comm]
  | cons v vs ih =>
    simp only [canonicalItems, bind_eq_ok, pure_eq_ok, h v List.mem_cons_self,
      ih fun w hw => h w (List.mem_cons_of_mem _ hw), List.forall_mem_cons, List.map_cons]
    constructor
    · rintro ⟨c, ⟨hv, rfl⟩, cs, ⟨hvs, rfl⟩, rfl⟩
      exact ⟨⟨hv, hvs⟩, rfl⟩
    · rintro ⟨⟨hv, hvs⟩, rfl⟩
      exact ⟨_, ⟨hv, rfl⟩, _, ⟨hvs, rfl⟩, rfl⟩

theorem canonicalField_eq (f : Option String × Value) :
    canonicalField env path f = (f.1.getD "", canonical env (path ++ "." ++ f.1.getD "") f.2) := by
  obtain ⟨k, v⟩ := f
  rw [canonicalField]

theorem canonicalFields_eq (fs : List (Option String × Value)) :
    canonicalFields env path fs = fs.map (canonicalField env path) := by
  induction fs with
  | nil => rfl
  | cons f fs ih => rw [canonicalFields, ih, List.map_cons]

/-- An item whose value has been returned. -/
def returned (f : String × CanonicalValue) : String × Except Error CanonicalValue := (f.1, .ok f.2)

theorem returned_injective : Function.Injective returned := by
  rintro ⟨a, b⟩ ⟨a', b'⟩ h
  cases h
  rfl

/-- A loop over items, each of which has its own end. -/
theorem mapM_items_eq_ok {l : List (String × Except Error CanonicalValue)} {cs : List (String × CanonicalValue)} :
    (l.mapM fun f => do return (f.1, ← f.2)) = .ok cs ↔ l = cs.map returned := by
  induction l generalizing cs with
  | nil =>
    rw [List.mapM_nil, pure_eq_ok]
    cases cs <;> simp
  | cons f l ih =>
    simp only [List.mapM_cons, bind_eq_ok, pure_eq_ok, ih]
    constructor
    · rintro ⟨-, ⟨c, hc, rfl⟩, cs, rfl, rfl⟩
      rw [List.map_cons, returned, ← hc]
    · intro h
      cases cs with
      | nil => cases h
      | cons g cs =>
        obtain ⟨rfl, rfl⟩ := List.cons.inj h
        exact ⟨g, ⟨g.2, rfl, rfl⟩, cs, rfl, rfl⟩

theorem canonical_eq_ok {c : CanonicalValue} :
    canonical env path v = .ok c ↔ Everywhere (Admits env) v ∧ c = form v := by
  induction v using IdentityScope.Value.induction generalizing path c with
  | none => simp [canonical, Everywhere, Admits, form, eq_comm]
  | bool b => simp [canonical, Everywhere, Admits, form, eq_comm]
  | int n => simp [canonical, Everywhere, Admits, form, eq_comm]
  | str s =>
    simp only [canonical, bind_eq_ok, pure_eq_ok, text_eq_ok, Everywhere, Admits, form, Option.some.injEq]
    constructor
    · rintro ⟨_, ⟨e, h⟩, hc⟩
      exact ⟨e ▸ h, by rw [← hc, e]⟩
    · rintro ⟨h, hc⟩
      exact ⟨s, ⟨rfl, h⟩, hc.symm⟩
  | list vs ih =>
    simp only [canonical, bind_eq_ok, pure_eq_ok, canonicalItems_eq_ok fun v hv path c => ih v hv, everywhere_list, Admits,
      true_and, form_list]
    constructor
    · rintro ⟨_, ⟨h, e⟩, hc⟩
      exact ⟨h, by rw [← hc, e]⟩
    · rintro ⟨h, hc⟩
      exact ⟨_, ⟨h, rfl⟩, hc.symm⟩
  | tuple vs ih =>
    simp only [canonical, bind_eq_ok, pure_eq_ok, canonicalItems_eq_ok fun v hv path c => ih v hv, everywhere_tuple, Admits,
      true_and, form_tuple]
    constructor
    · rintro ⟨_, ⟨h, e⟩, hc⟩
      exact ⟨h, by rw [← hc, e]⟩
    · rintro ⟨h, hc⟩
      exact ⟨_, ⟨h, rfl⟩, hc.symm⟩
  | dict fs ih =>
    simp only [canonical, bind_eq_ok, pure_eq_ok, forM_eq_ok, discard_text_eq_ok, mapM_items_eq_ok, everywhere_dict, Admits,
      canonicalFields_eq, form_dict]
    have hfield : (∀ f ∈ fs, Everywhere (Admits env) f.2) →
        fs.map (canonicalField env path) = (fs.map formField).map returned := by
      intro h
      rw [List.map_map]
      refine List.map_congr_left fun f hf => ?_
      rw [canonicalField_eq, (ih f hf).mpr ⟨h f hf, rfl⟩, Function.comp_apply, formField_eq, returned]
    constructor
    · rintro ⟨-, hkeys, items, hitems, rfl⟩
      have hall : ∀ f ∈ fs, Everywhere (Admits env) f.2 := by
        intro f hf
        have hmem : canonicalField env path f ∈ sortItems (fs.map (canonicalField env path)) :=
          mem_sortItems.mpr (List.mem_map_of_mem hf)
        rw [hitems] at hmem
        obtain ⟨g, -, hg⟩ := List.mem_map.mp hmem
        rw [canonicalField_eq] at hg
        exact ((ih f hf).mp (congrArg Prod.snd hg).symm).1
      refine ⟨⟨hkeys, hall⟩, ?_⟩
      rw [hfield hall, sortItems_map returned fun _ => rfl] at hitems
      rw [returned_injective.list_map hitems]
    · rintro ⟨⟨hkeys, hall⟩, rfl⟩
      exact ⟨(), hkeys, _, by rw [hfield hall, sortItems_map returned fun _ => rfl], rfl⟩
  | other => simp [canonical, Everywhere, Admits]

end Accepted

/-! ## The order of keys -/

/-- One `dict` of a tree is reordered. -/
inductive Reorder : Value → Value → Prop
  | items {fs gs : List (Option String × Value)} (h : fs.Perm gs) : Reorder (.dict fs) (.dict gs)
  | field {fs gs : List (Option String × Value)} {k : Option String} {v w : Value} (h : Reorder v w) :
      Reorder (.dict (fs ++ (k, v) :: gs)) (.dict (fs ++ (k, w) :: gs))
  | list {vs ws : List Value} {v w : Value} (h : Reorder v w) : Reorder (.list (vs ++ v :: ws)) (.list (vs ++ w :: ws))
  | tuple {vs ws : List Value} {v w : Value} (h : Reorder v w) : Reorder (.tuple (vs ++ v :: ws)) (.tuple (vs ++ w :: ws))

/-- No key occurs twice. -/
def Distinct : Value → Prop
  | .dict fs => (fs.map Prod.fst).Nodup
  | _ => True

/-- A property of values that looks no further than the keys of a `dict`. -/
structure Shallow (P : Value → Prop) : Prop where
  list : ∀ vs ws, P (.list vs) → P (.list ws)
  tuple : ∀ vs ws, P (.tuple vs) → P (.tuple ws)
  dict : ∀ fs gs : List (Option String × Value), (fs.map Prod.fst).Perm (gs.map Prod.fst) → P (.dict fs) → P (.dict gs)

section Order

variable {env : Environment} {P : Value → Prop} {v w : Value} {fs : List (Option String × Value)}

theorem shallow_distinct : Shallow Distinct where
  list _ _ _ := trivial
  tuple _ _ _ := trivial
  dict _ _ h hf := h.nodup_iff.mp hf

theorem admits_dict : Admits env (.dict fs) ↔ ∀ k ∈ fs.map Prod.fst, ∃ s, k = some s ∧ Clean env s := by
  rw [Admits, List.forall_mem_map]

theorem shallow_admits : Shallow (Admits env) where
  list _ _ _ := trivial
  tuple _ _ _ := trivial
  dict _ _ h hf := admits_dict.mpr fun k hk => admits_dict.mp hf k (h.mem_iff.mpr hk)

theorem Reorder.everywhere (hP : Shallow P) (h : Reorder v w) (hv : Everywhere P v) : Everywhere P w := by
  induction h with
  | items h =>
    rw [everywhere_dict] at hv ⊢
    exact ⟨hP.dict _ _ (h.map _) hv.1, fun f hf => hv.2 f (h.mem_iff.mpr hf)⟩
  | field h ih =>
    rw [everywhere_dict] at hv ⊢
    simp only [List.forall_mem_append, List.forall_mem_cons] at hv ⊢
    exact ⟨hP.dict _ _ (by simp) hv.1, hv.2.1, ih hv.2.2.1, hv.2.2.2⟩
  | list h ih =>
    rw [everywhere_list] at hv ⊢
    simp only [List.forall_mem_append, List.forall_mem_cons] at hv ⊢
    exact ⟨hP.list _ _ hv.1, hv.2.1, ih hv.2.2.1, hv.2.2.2⟩
  | tuple h ih =>
    rw [everywhere_tuple] at hv ⊢
    simp only [List.forall_mem_append, List.forall_mem_cons] at hv ⊢
    exact ⟨hP.tuple _ _ hv.1, hv.2.1, ih hv.2.2.1, hv.2.2.2⟩

theorem Reorder.form_eq (h : Reorder v w) (ha : Everywhere (Admits env) v) (hd : Everywhere Distinct v) : form v = form w := by
  induction h with
  | @items fs gs h =>
    rw [everywhere_dict] at ha hd
    rw [form_dict, form_dict, sortItems_perm (h.map formField)]
    rw [List.map_map]
    have hkeys : fs.map (Prod.fst ∘ formField) = (fs.map Prod.fst).map (·.getD "") := by
      rw [List.map_map]
      exact List.map_congr_left fun f _ => by rw [Function.comp_apply, formField_eq, Function.comp_apply]
    rw [hkeys]
    refine List.Nodup.map_on (fun k hk l hl hkl => ?_) hd.1
    obtain ⟨s, rfl, -⟩ := admits_dict.mp ha.1 k hk
    obtain ⟨t, rfl, -⟩ := admits_dict.mp ha.1 l hl
    exact congrArg some hkl
  | field h ih =>
    rw [everywhere_dict] at ha hd
    simp only [List.forall_mem_append, List.forall_mem_cons] at ha hd
    rw [form_dict, form_dict, List.map_append, List.map_append, List.map_cons, List.map_cons, formField, formField,
      ih ha.2.2.1 hd.2.2.1]
  | list h ih =>
    rw [everywhere_list] at ha hd
    simp only [List.forall_mem_append, List.forall_mem_cons] at ha hd
    rw [form_list, form_list, List.map_append, List.map_append, List.map_cons, List.map_cons, ih ha.2.2.1 hd.2.2.1]
  | tuple h ih =>
    rw [everywhere_tuple] at ha hd
    simp only [List.forall_mem_append, List.forall_mem_cons] at ha hd
    rw [form_tuple, form_tuple, List.map_append, List.map_append, List.map_cons, List.map_cons, ih ha.2.2.1 hd.2.2.1]

/-- Any number of reorderings, anywhere in the tree. -/
theorem reordered (h : Relation.ReflTransGen Reorder v w) (ha : Everywhere (Admits env) v) (hd : Everywhere Distinct v) :
    Everywhere (Admits env) w ∧ Everywhere Distinct w ∧ form v = form w := by
  induction h with
  | refl => exact ⟨ha, hd, rfl⟩
  | tail _ h ih =>
    obtain ⟨ha, hd, he⟩ := ih
    exact ⟨h.everywhere shallow_admits ha, h.everywhere shallow_distinct hd, he.trans (h.form_eq ha hd)⟩

end Order

/-! ## The plain form -/

section Plain

variable {env : Environment} {v : Value}

theorem plain_tuple (cs : List CanonicalValue) : plain (.tuple cs) = .arr (cs.map plain) := by
  rw [plain]
  congr
  induction cs with
  | nil => rfl
  | cons c cs ih => rw [plainItems, ih, List.map_cons]

theorem plain_mapping (fs : List (String × CanonicalValue)) :
    plain (.mapping fs) = .dict ((sortItems fs).map fun f => (f.1, plain f.2)) := by
  have hfields : plainFields fs = fs.map fun f => (f.1, plain f.2) := by
    induction fs with
    | nil => rfl
    | cons f fs ih =>
      obtain ⟨k, c⟩ := f
      rw [plainFields, ih, List.map_cons, plainField]
  rw [plain, hfields, sortItems_map (fun f => (f.1, plain f.2)) fun _ => rfl]

theorem ofPlain_arr (js : List Json) : ofPlain (.arr js) = .list (js.map ofPlain) := by
  rw [ofPlain]
  congr
  induction js with
  | nil => rfl
  | cons j js ih => rw [ofPlainItems, ih, List.map_cons]

theorem ofPlainFields_eq (fs : List (String × Json)) : ofPlainFields fs = fs.map fun f => (some f.1, ofPlain f.2) := by
  induction fs with
  | nil => rfl
  | cons f fs ih =>
    obtain ⟨k, j⟩ := f
    rw [ofPlainFields, ih, List.map_cons, ofPlainField]

/-- The plain form of what has been accepted, as a Python value. -/
def recreated (c : CanonicalValue) : Value := ofPlain (plain c)

theorem recreated_tuple (cs : List CanonicalValue) : recreated (.tuple cs) = .list (cs.map recreated) := by
  rw [recreated, plain_tuple, ofPlain_arr, List.map_map]
  rfl

theorem recreated_mapping (fs : List (String × CanonicalValue)) :
    recreated (.mapping fs) = .dict ((sortItems fs).map fun f => (some f.1, recreated f.2)) := by
  rw [recreated, plain_mapping, ofPlain, ofPlainFields_eq, List.map_map]
  rfl

theorem recreated_items {vs : List Value}
    (h : ∀ v ∈ vs, Everywhere (Admits env) (recreated (form v)) ∧ form (recreated (form v)) = form v) :
    Everywhere (Admits env) (recreated (.tuple (vs.map form))) ∧
      form (recreated (.tuple (vs.map form))) = .tuple (vs.map form) := by
  rw [recreated_tuple, everywhere_list, form_list, List.map_map, List.map_map]
  refine ⟨⟨trivial, List.forall_mem_map.mpr fun v hv => (h v hv).1⟩, congrArg CanonicalValue.tuple ?_⟩
  exact List.map_congr_left fun v hv => (h v hv).2

/-- The plain form is accepted, and its canonical form is the same. -/
theorem recreated_form (ha : Everywhere (Admits env) v) :
    Everywhere (Admits env) (recreated (form v)) ∧ form (recreated (form v)) = form v := by
  induction v using IdentityScope.Value.induction with
  | list vs ih =>
    rw [everywhere_list] at ha
    rw [form_list]
    exact recreated_items fun v hv => ih v hv (ha.2 v hv)
  | tuple vs ih =>
    rw [everywhere_tuple] at ha
    rw [form_tuple]
    exact recreated_items fun v hv => ih v hv (ha.2 v hv)
  | dict fs ih =>
    rw [everywhere_dict] at ha
    have hitem : ∀ f ∈ sortItems (fs.map formField), ∃ g ∈ fs, f = (g.1.getD "", form g.2) := by
      intro f hf
      obtain ⟨g, hg, rfl⟩ := List.mem_map.mp (mem_sortItems.mp hf)
      exact ⟨g, hg, formField_eq g⟩
    rw [form_dict, recreated_mapping, everywhere_dict, form_dict, List.map_map]
    refine ⟨⟨?_, ?_⟩, congrArg CanonicalValue.mapping ?_⟩
    · refine List.forall_mem_map.mpr fun f hf => ?_
      obtain ⟨g, hg, rfl⟩ := hitem f (mem_sortItems.mp hf)
      obtain ⟨k, hk, hclean⟩ := ha.1 g hg
      exact ⟨k, by rw [hk]; rfl, hclean⟩
    · refine List.forall_mem_map.mpr fun f hf => ?_
      obtain ⟨g, hg, rfl⟩ := hitem f (mem_sortItems.mp hf)
      exact (ih g hg (ha.2 g hg)).1
    · have hid : ∀ f ∈ sortItems (sortItems (fs.map formField)), (formField ∘ fun f => (some f.1, recreated f.2)) f = f := by
        intro f hf
        obtain ⟨g, hg, rfl⟩ := hitem f (mem_sortItems.mp hf)
        rw [Function.comp_apply, formField_eq, (ih g hg (ha.2 g hg)).2]
        rfl
      rw [List.map_congr_left hid, List.map_id', sortItems_sortItems, sortItems_sortItems]
  | other => exact ha.elim
  | _ => exact ⟨ha, rfl⟩

end Plain

/-! ## The stored form -/

/-- No `dict`. -/
def NoDict : Value → Prop
  | .dict _ => False
  | _ => True

/-- Written by `json.dumps`. -/
def Short : Value → Prop
  | .int n => (Nat.toDigits 10 n.natAbs).length ≤ maxStrDigits
  | _ => True

section Stored

variable {env : Environment} {v : Value} {vs : List Value}

theorem stored_tuple (cs : List CanonicalValue) : stored (.tuple cs) = .tuple (cs.map stored) := by
  rw [stored]
  congr
  induction cs with
  | nil => rfl
  | cons c cs ih => rw [storedItems, ih, List.map_cons]

theorem stored_items (h : ∀ v ∈ vs, (Everywhere (Admits env) (stored (form v)) ↔ Everywhere NoDict v) ∧
      (Everywhere NoDict v → form (stored (form v)) = form v)) :
    (Everywhere (Admits env) (stored (.tuple (vs.map form))) ↔ ∀ v ∈ vs, Everywhere NoDict v) ∧
      ((∀ v ∈ vs, Everywhere NoDict v) → form (stored (.tuple (vs.map form))) = .tuple (vs.map form)) := by
  rw [stored_tuple, everywhere_tuple, form_tuple, List.map_map, List.map_map]
  refine ⟨⟨fun ha v hv => ?_, fun hn => ⟨trivial, List.forall_mem_map.mpr fun v hv => (h v hv).1.mpr (hn v hv)⟩⟩, fun hn => ?_⟩
  · exact (h v hv).1.mp (List.forall_mem_map.mp ha.2 v hv)
  · exact congrArg CanonicalValue.tuple (List.map_congr_left fun v hv => (h v hv).2 (hn v hv))

/-- What is stored is accepted again exactly when no `dict` has become a view, and then it stays as it is. -/
theorem stored_form (ha : Everywhere (Admits env) v) :
    (Everywhere (Admits env) (stored (form v)) ↔ Everywhere NoDict v) ∧
      (Everywhere NoDict v → form (stored (form v)) = form v) := by
  induction v using IdentityScope.Value.induction with
  | list vs ih =>
    rw [everywhere_list] at ha ⊢
    rw [show NoDict (.list vs) = True from rfl, true_and, form_list]
    exact stored_items fun v hv => ih v hv (ha.2 v hv)
  | tuple vs ih =>
    rw [everywhere_tuple] at ha ⊢
    rw [show NoDict (.tuple vs) = True from rfl, true_and, form_tuple]
    exact stored_items fun v hv => ih v hv (ha.2 v hv)
  | dict fs ih =>
    rw [form_dict, stored, everywhere_dict]
    exact ⟨⟨fun h => h.elim, fun h => h.1.elim⟩, fun h => h.1.elim⟩
  | other => exact ha.elim
  | _ => exact ⟨⟨fun _ => trivial, fun _ => ha⟩, fun _ => rfl⟩

theorem printable_arr (js : List Json) : printable (.arr js) = true ↔ ∀ j ∈ js, printable j = true := by
  rw [printable]
  induction js with
  | nil => simp [printableItems]
  | cons j js ih => rw [printableItems, Bool.and_eq_true, ih, List.forall_mem_cons]

theorem printable_dict (fs : List (String × Json)) : printable (.dict fs) = true ↔ ∀ f ∈ fs, printable f.2 = true := by
  rw [printable]
  induction fs with
  | nil => simp [printableFields]
  | cons f fs ih =>
    obtain ⟨k, j⟩ := f
    rw [printableFields, Bool.and_eq_true, ih, List.forall_mem_cons, printableField]

theorem printable_items (h : ∀ v ∈ vs, (printable (plain (form v)) = true ↔ Everywhere Short v)) :
    printable (plain (.tuple (vs.map form))) = true ↔ ∀ v ∈ vs, Everywhere Short v := by
  rw [plain_tuple, printable_arr, List.map_map, List.forall_mem_map]
  exact forall₂_congr h

theorem printable_form (v : Value) : printable (plain (form v)) = true ↔ Everywhere Short v := by
  induction v using IdentityScope.Value.induction with
  | list vs ih =>
    rw [everywhere_list, show Short (.list vs) = True from rfl, true_and, form_list]
    exact printable_items ih
  | tuple vs ih =>
    rw [everywhere_tuple, show Short (.tuple vs) = True from rfl, true_and, form_tuple]
    exact printable_items ih
  | dict fs ih =>
    rw [everywhere_dict, show Short (.dict fs) = True from rfl, true_and, form_dict, plain_mapping, sortItems_sortItems,
      printable_dict, List.forall_mem_map]
    constructor
    · intro h f hf
      have hmem : formField f ∈ sortItems (fs.map formField) := mem_sortItems.mpr (List.mem_map_of_mem hf)
      have hfield := h _ hmem
      rw [formField_eq] at hfield
      exact (ih f hf).mp hfield
    · intro h f hf
      obtain ⟨g, hg, rfl⟩ := List.mem_map.mp (mem_sortItems.mp hf)
      rw [formField_eq]
      exact (ih g hg).mpr (h g hg)
  | int n => simp [form, plain, printable, Everywhere, Short]
  | _ => simp [form, plain, printable, Everywhere, Short]

end Stored

/-! ## Requests -/

/-- The integers of the header are written by `json.dumps`. -/
def ShortHeader (h : Header) : Prop :=
  (∀ n ∈ h.amountMinor, Short (.int n)) ∧ Short (.int h.expectedEpoch) ∧ Short (.int h.expectedGeneration)

/-- A request is created; with any `dict` of its parameters reordered it is created with the same digest, and so it is
from the plain form of the parameters it stores, with the same identity. -/
def NormalForm (h : Header) (parameters : List (Option String × Value)) : Prop :=
  ∃ request, OperationRequest.create env h parameters = .ok request ∧
    (∀ parameters', Relation.ReflTransGen Reorder (.dict parameters) (.dict parameters') →
      ∃ request', OperationRequest.create env h parameters' = .ok request' ∧ request'.digest = request.digest) ∧
    ∃ request', OperationRequest.create env h request.plainParameters = .ok request' ∧
      request'.digest = request.digest ∧ request'.operationId = request.operationId

section Requests

variable {env : Environment} {h : Header} {parameters parameters' : List (Option String × Value)} {c : CanonicalValue}

theorem printable_body (c : CanonicalValue) : printable (h.body c) = true ↔ ShortHeader h ∧ printable (plain c) = true := by
  have hint : ∀ n, printable (.int n) = true ↔ Short (.int n) := fun n => by simp [printable, Short]
  have hamount : printable ((h.amountMinor.map Json.int).getD .null) = true ↔ ∀ n ∈ h.amountMinor, Short (.int n) := by
    cases h.amountMinor with
    | none => simp [printable]
    | some n => simp [hint]
  have hcurrency : printable ((h.currency.map Json.str).getD .null) = true := by cases h.currency <;> rfl
  have hstr : ∀ s, printable (.str s) = true := fun _ => rfl
  rw [Header.body, printable_dict]
  simp only [List.forall_mem_cons, List.not_mem_nil, false_imp_iff, implies_true, hint, hamount, hcurrency, hstr, true_and,
    and_true, ShortHeader]
  exact ⟨fun ⟨ha, he, hg, hp⟩ => ⟨⟨ha, he, hg⟩, hp⟩, fun ⟨⟨ha, he, hg⟩, hp⟩ => ⟨ha, he, hg, hp⟩⟩

/-- A request is made of the canonical form alone. -/
theorem create_congr (hc : canonical env "immutable_parameters" (.dict parameters) = .ok c)
    (hc' : canonical env "immutable_parameters" (.dict parameters') = .ok c) :
    OperationRequest.create env h parameters' = OperationRequest.create env h parameters := by
  rw [OperationRequest.create, OperationRequest.create, hc, hc']

theorem everywhere_stored (ha : Everywhere (Admits env) (.dict parameters)) :
    (Everywhere (Admits env) (.dict ((sortItems (parameters.map formField)).map fun f => (some f.1, stored f.2))) ↔
      ∀ f ∈ parameters, Everywhere NoDict f.2) ∧
    ((∀ f ∈ parameters, Everywhere NoDict f.2) →
      form (.dict ((sortItems (parameters.map formField)).map fun f => (some f.1, stored f.2))) =
        .mapping (sortItems (parameters.map formField))) := by
  rw [everywhere_dict] at ha ⊢
  have hitem : ∀ f ∈ sortItems (parameters.map formField), ∃ g ∈ parameters, f = (g.1.getD "", form g.2) := by
    intro f hf
    obtain ⟨g, hg, rfl⟩ := List.mem_map.mp (mem_sortItems.mp hf)
    exact ⟨g, hg, formField_eq g⟩
  refine ⟨⟨fun hs f hf => ?_, fun hn => ⟨?_, ?_⟩⟩, fun hn => ?_⟩
  · have hmem : formField f ∈ sortItems (parameters.map formField) := mem_sortItems.mpr (List.mem_map_of_mem hf)
    have hfield := List.forall_mem_map.mp hs.2 _ hmem
    rw [formField_eq] at hfield
    exact (stored_form (ha.2 f hf)).1.mp hfield
  · refine List.forall_mem_map.mpr fun f hf => ?_
    obtain ⟨g, hg, rfl⟩ := hitem f hf
    obtain ⟨k, hk, hclean⟩ := ha.1 g hg
    exact ⟨k, by rw [hk]; rfl, hclean⟩
  · refine List.forall_mem_map.mpr fun f hf => ?_
    obtain ⟨g, hg, rfl⟩ := hitem f hf
    exact (stored_form (ha.2 g hg)).1.mpr (hn g hg)
  · have hid : ∀ f ∈ sortItems (parameters.map formField), (formField ∘ fun f => (some f.1, stored f.2)) f = f := by
      intro f hf
      obtain ⟨g, hg, rfl⟩ := hitem f hf
      rw [Function.comp_apply, formField_eq, (stored_form (ha.2 g hg)).2 (hn g hg)]
      rfl
    rw [form_dict, List.map_map, List.map_congr_left hid, List.map_id', sortItems_sortItems]

/-- Which requests are created, from parameters that are accepted. -/
theorem create_eq_ok (hh : h.check env = .ok ()) (ha : Everywhere (Admits env) (.dict parameters)) {request : OperationRequest} :
    OperationRequest.create env h parameters = .ok request ↔
      ((∀ f ∈ parameters, Everywhere NoDict f.2) ∧ Everywhere Short (.dict parameters) ∧ ShortHeader h) ∧
        operationDigest env (h.body (form (.dict parameters))) = .ok request.digest ∧
          request.toHeader = h ∧ request.immutableParameters = sortItems (parameters.map formField) := by
  have hcanonical : canonical env "immutable_parameters" (.dict parameters) = .ok (form (.dict parameters)) :=
    canonical_eq_ok.mpr ⟨ha, rfl⟩
  obtain ⟨hstored, hsame⟩ := everywhere_stored ha
  rw [form_dict] at hcanonical ⊢
  have hdigest : ∀ d, operationDigest env (h.body (.mapping (sortItems (parameters.map formField)))) = .ok d →
      Everywhere Short (.dict parameters) ∧ ShortHeader h := by
    intro d hd
    obtain ⟨hprintable, -⟩ := raiseIf_bind_eq_ok.mp hd
    rw [Bool.not_eq_false, printable_body, ← form_dict, printable_form] at hprintable
    exact hprintable.symm
  rw [OperationRequest.create, hcanonical, ok_bind, requireMapping, ok_bind, bind_eq_ok]
  constructor
  · rintro ⟨digest, hd, hmake⟩
    rw [OperationRequest.make, hh, ok_bind] at hmake
    obtain ⟨c, hc, hmake⟩ := bind_eq_ok.mp hmake
    obtain ⟨hagain, rfl⟩ := canonical_eq_ok.mp hc
    have hflat := hstored.mp hagain
    rw [hsame hflat, requireMapping, ok_bind, hd, ok_bind, raiseIf_of_not (not_not.mpr rfl), ok_bind, pure_eq_ok] at hmake
    subst hmake
    exact ⟨⟨hflat, hdigest _ hd⟩, hd, rfl, rfl⟩
  · obtain ⟨header, fields, digest⟩ := request
    rintro ⟨⟨hflat, -⟩, hd, rfl, rfl⟩
    refine ⟨digest, hd, ?_⟩
    rw [OperationRequest.make, hh, ok_bind, canonical_eq_ok.mpr ⟨hstored.mpr hflat, rfl⟩, ok_bind, hsame hflat, requireMapping,
      ok_bind, hd, ok_bind, raiseIf_of_not (not_not.mpr rfl), ok_bind]
    rfl

/-- A request of accepted parameters has a normal form exactly when none of them holds a `dict` and every integer is
written. -/
theorem request_normal_form (hh : h.check env = .ok ()) (hd : Everywhere Distinct (.dict parameters))
    (hc : canonical env "immutable_parameters" (.dict parameters) = .ok c) :
    NormalForm env h parameters ↔
      (∀ f ∈ parameters, Everywhere NoDict f.2) ∧ Everywhere Short (.dict parameters) ∧ ShortHeader h := by
  obtain ⟨ha, rfl⟩ := canonical_eq_ok.mp hc
  constructor
  · rintro ⟨request, hcreate, -⟩
    exact ((create_eq_ok hh ha).mp hcreate).1
  · rintro ⟨hflat, hshort, hheader⟩
    obtain ⟨digest, hdigest⟩ : ∃ d, operationDigest env (h.body (form (.dict parameters))) = .ok d := by
      refine ⟨_, raiseIf_bind_eq_ok.mpr ⟨?_, rfl⟩⟩
      rw [Bool.not_eq_false, printable_body, printable_form]
      exact ⟨hheader, hshort⟩
    have hcreate : OperationRequest.create env h parameters = .ok ⟨h, sortItems (parameters.map formField), digest⟩ :=
      (create_eq_ok hh ha).mpr ⟨⟨hflat, hshort, hheader⟩, hdigest, rfl, rfl⟩
    refine ⟨_, hcreate, fun parameters' hr => ?_, ?_⟩
    · obtain ⟨ha', -, hform⟩ := reordered hr ha hd
      exact ⟨_, (create_congr hc (canonical_eq_ok.mpr ⟨ha', hform⟩)).trans hcreate, rfl⟩
    · obtain ⟨ha', hform⟩ := recreated_form ha
      have hplain : Value.dict (OperationRequest.plainParameters ⟨h, sortItems (parameters.map formField), digest⟩) =
          recreated (form (.dict parameters)) := by
        rw [form_dict, recreated, OperationRequest.plainParameters, plain, ofPlain]
      rw [← hplain] at ha' hform
      exact ⟨_, (create_congr hc (canonical_eq_ok.mpr ⟨ha', hform.symm⟩)).trans hcreate, rfl, rfl⟩

end Requests

namespace Sample

local instance neZero_digests : NeZero (2 ^ 256) := inferInstance

def environment : Environment where
  py := ⟨fun _ => true, fun text => Fin.ofNat _ text.length⟩
  isControl _ := false
  upper s := s

def header : Header := ⟨"operation-1", "RESERVE", "PORTFOLIO:P1", some 5000, some "GBP", 7, 11⟩

/-- Flat parameters. -/
def flat : List (Option String × Value) := [(some "portfolio_id", .str "P1"), (some "amounts", .list [.int 1, .int 2])]

/-- A mapping in a mapping. -/
def nested : List (Option String × Value) := [(some "limits", .dict [(some "daily", .int 1)])]

theorem check_header : header.check environment = .ok () := by decide

theorem clean_of_strip {s : String} (h : ¬ (s = "" ∨ Text.strip (Text.chars s) ≠ Text.chars s)) : Clean environment s :=
  ⟨h, rfl, by simp [environment]⟩

theorem canonical_flat : canonical environment "immutable_parameters" (.dict flat) = .ok (form (.dict flat)) := by
  refine canonical_eq_ok.mpr ⟨?_, rfl⟩
  simp only [flat, Everywhere, EveryField, AtField, EveryItem, Admits, List.forall_mem_cons, List.not_mem_nil, false_imp_iff,
    implies_true, and_true, Option.some.injEq, exists_eq_left']
  exact ⟨⟨clean_of_strip (by decide), clean_of_strip (by decide)⟩, clean_of_strip (by decide)⟩

theorem canonical_nested : canonical environment "immutable_parameters" (.dict nested) = .ok (form (.dict nested)) := by
  refine canonical_eq_ok.mpr ⟨?_, rfl⟩
  simp only [nested, Everywhere, EveryField, AtField, Admits, List.forall_mem_cons, List.not_mem_nil, false_imp_iff,
    implies_true, and_true, Option.some.injEq, exists_eq_left']
  exact ⟨clean_of_strip (by decide), clean_of_strip (by decide)⟩

end Sample

theorem request_normal_form_sample : NormalForm Sample.environment Sample.header Sample.flat := by
  refine (request_normal_form Sample.check_header ?_ Sample.canonical_flat).mpr ⟨?_, ?_, ?_⟩
  · simp [Sample.flat, Everywhere, EveryField, AtField, EveryItem, Distinct]
  · simp [Sample.flat, Everywhere, EveryItem, NoDict]
  · simp only [Sample.flat, Everywhere, EveryField, AtField, EveryItem, Short, and_true, true_and]
    decide
  · simp only [ShortHeader, Short]
    decide

/-- A mapping below the parameters is accepted by the first pass and refused by the second. -/
theorem nested_mapping_refused : ¬ ∀ (env : Environment) (h : Header) (parameters : List (Option String × Value))
    (c : CanonicalValue), h.check env = .ok () → Everywhere Distinct (.dict parameters) →
    canonical env "immutable_parameters" (.dict parameters) = .ok c → NormalForm env h parameters := by
  intro hall
  obtain ⟨request, hcreate, -⟩ := hall _ _ _ _ Sample.check_header
    (by simp [Sample.nested, Everywhere, EveryField, AtField, Distinct]) Sample.canonical_nested
  have hnested := ((create_eq_ok Sample.check_header (canonical_eq_ok.mp Sample.canonical_nested).1).mp hcreate).1.1
  have hdict := hnested _ List.mem_cons_self
  rw [everywhere_dict] at hdict
  exact hdict.1

end ATB.Proof.OperationEnvelope
