import Mathlib.Algebra.BigOperators.Fin
import Mathlib.Data.List.GetD
import Mathlib.Data.Matrix.Mul
import AutomatedTradingBot.Framework.Elimination
import AutomatedTradingBot.Source.Correlation

/-!
# The elimination decides semidefiniteness when nothing is rounded

* `trapped_foldlM`: a run that raises nothing is the run of the default context;
* `answers_eliminateRow`: the rows so far are factors of the matrix, or the form takes
  a negative value;
* `positiveSemidefinite_exact`: the answer of a run in which no operation rounds.
-/

namespace ATB.Proof.Correlation

open ATB.Correlation Finset

/-! ## Contexts -/

/-- The first run raises `Inexact`, or the second one is the same. -/
def Trapped {α : Type} (x y : Except Exit α) : Prop := x = .error .inexact ∨ x = y

section Contexts

variable {α β : Type} {x y : Except Exit α} {f g : α → Except Exit β}

theorem trapped_rounded (exact : ℚ) (result : Decimal) :
    Trapped (Context.rounded ⟨true⟩ exact result) (Context.rounded ⟨false⟩ exact result) := by
  by_cases h : result.value = exact
  · exact .inr (by simp [Context.rounded, h])
  · refine .inl ?_
    rw [Context.rounded, raiseIf_of ⟨rfl, h⟩]
    rfl

theorem Trapped.bind (h : Trapped x y) (hf : ∀ a, Trapped (f a) (g a)) : Trapped (x >>= f) (y >>= g) := by
  rcases h with rfl | rfl
  · exact .inl rfl
  · cases x with
    | error e => exact .inr rfl
    | ok a => exact hf a

theorem Trapped.refl (x : Except Exit α) : Trapped x x := .inr rfl

theorem trapped_foldlM {f g : β → α → Except Exit β} (h : ∀ b a, Trapped (f b a) (g b a)) (l : List α) (b : β) :
    Trapped (l.foldlM f b) (l.foldlM g b) := by
  induction l generalizing b with
  | nil => exact .refl _
  | cons a l ih => exact (h b a).bind ih

theorem trapped_total (left right diagonal : List Decimal) :
    Trapped (total ⟨true⟩ left right diagonal) (total ⟨false⟩ left right diagonal) :=
  trapped_foldlM (fun _ _ => (trapped_rounded _ _).bind fun _ => (trapped_rounded _ _).bind fun _ => trapped_rounded _ _) _ _

theorem trapped_eliminate (diagonal lower : List Decimal) (column : Decimal × Factor) :
    Trapped (eliminate ⟨true⟩ diagonal lower column) (eliminate ⟨false⟩ diagonal lower column) := by
  refine (trapped_total _ _ _).bind fun sum => (trapped_rounded _ _).bind fun residual => ?_
  split
  · exact .refl _
  · exact (trapped_rounded _ _).bind fun _ => .refl _

theorem trapped_eliminateRow (factors : List Factor) (row : List Decimal) :
    Trapped (eliminateRow ⟨true⟩ factors row) (eliminateRow ⟨false⟩ factors row) :=
  (trapped_foldlM (trapped_eliminate _) _ _).bind fun _ => (trapped_total _ _ _).bind fun _ =>
    (trapped_rounded _ _).bind fun _ => .refl _

/-- An answer of the trapping context is that of the default one. -/
theorem positiveSemidefinite_default {matrix : List (List Decimal)} {answer : Bool}
    (h : positiveSemidefinite ⟨true⟩ matrix = some answer) : positiveSemidefinite ⟨false⟩ matrix = some answer := by
  unfold positiveSemidefinite at h ⊢
  split
  · next hw =>
    rw [if_pos hw] at h
    exact h
  · next hw =>
    rw [if_neg hw] at h
    rcases trapped_foldlM trapped_eliminateRow matrix [] with hx | hx
    · rw [hx] at h
      cases h
    · rw [← hx]
      exact h

end Contexts

/-! ## Results of the loops -/

/-- `P` of what is returned; where `False` is answered, `Q`. -/
def Answers {α : Type} (P : α → Prop) (Q : Prop) : Except Exit α → Prop
  | .ok a => P a
  | .error (.returned answer) => answer = false ∧ Q
  | .error .inexact => True

section Answers

variable {α β : Type} {P : α → Prop} {R : β → Prop} {Q : Prop} {x : Except Exit α} {f : α → Except Exit β}

theorem Answers.bind (h : Answers P Q x) (hf : ∀ a, P a → Answers R Q (f a)) : Answers R Q (x >>= f) := by
  cases x with
  | ok a => exact hf a h
  | error e => cases e <;> exact h

theorem Answers.mono {P' : α → Prop} (h : Answers P Q x) (hP : ∀ a, P a → P' a) : Answers P' Q x := by
  cases x with
  | ok a => exact hP a h
  | error e => cases e <;> exact h

theorem Answers.raiseIf {c : Prop} [Decidable c] (h : c → Q) : Answers (fun _ => ¬ c) Q (raiseIf c (.returned false)) := by
  by_cases hc : c
  · rw [raiseIf_of hc]
    exact ⟨rfl, h hc⟩
  · rw [raiseIf_of_not hc]
    exact hc

theorem answers_rounded (exact : ℚ) (result : Decimal) :
    Answers (fun d => d.value = exact) Q (Context.rounded ⟨true⟩ exact result) := by
  by_cases h : result.value = exact
  · rw [Context.rounded, raiseIf_of_not fun hc => hc.2 h]
    exact h
  · rw [Context.rounded, raiseIf_of ⟨rfl, h⟩]
    trivial

/-- A loop, with what holds after the items so far. -/
theorem answers_foldlM {f : β → α → Except Exit β} {I : List α → β → Prop} {l : List α}
    (h : ∀ done a rest b, l = done ++ a :: rest → I done b → Answers (I (done ++ [a])) Q (f b a)) {b : β} (hb : I [] b) :
    Answers (I l) Q (l.foldlM f b) := by
  suffices hsuffix : ∀ rest done b, l = done ++ rest → I done b → Answers (I l) Q (rest.foldlM f b) from
    hsuffix l [] b rfl hb
  intro rest
  induction rest with
  | nil =>
    intro done b hl hb
    rw [hl, List.append_nil]
    exact hb
  | cons a rest ih =>
    intro done b hl hb
    exact (h done a rest b hl hb).bind fun b' hb' => ih (done ++ [a]) b' (by rw [hl, List.append_assoc]; rfl) hb'

end Answers

/-! ## The elimination -/

/-- The number at a position of a list. -/
def number (l : List Decimal) (k : ℕ) : ℚ := (l.getD k 0).value

/-- `lower`, with its diagonal. -/
def lowerOf (factors : List Factor) (i k : ℕ) : ℚ :=
  if k < i then number ((factors.map Factor.lower).getD i []) k else if k = i then 1 else 0

/-- `diagonal`. -/
def diagonalOf (factors : List Factor) (k : ℕ) : ℚ := number (factors.map Factor.diagonal) k

/-- The rows so far are factors of the matrix, and no entry of the diagonal is negative. -/
structure Eliminated (m : ℕ → ℕ → ℚ) (factors : List Factor) : Prop where
  rows : ∀ (i : ℕ) (factor : Factor), factors[i]? = some factor → factor.lower.length = i
  factored : Elimination.Factors factors.length m (lowerOf factors) (diagonalOf factors)
  nonneg : ∀ k < factors.length, 0 ≤ diagonalOf factors k

section Elimination

variable {l l' left right diagonal lower : List Decimal} {x : Decimal} {factors : List Factor} {factor : Factor}
  {k i j n : ℕ} {m : ℕ → ℕ → ℚ}

theorem number_append (h : k < l.length) : number (l ++ l') k = number l k := by
  rw [number, number, List.getD_append _ _ _ _ h]

theorem number_concat : number (l ++ [x]) l.length = x.value := by simp [number]

theorem number_eq (h : l[k]? = some x) : number l k = x.value := by simp [number, List.getD_eq_getElem?_getD, h]

theorem unitLower_lowerOf (factors : List Factor) : Elimination.UnitLower (lowerOf factors) where
  unit i := by rw [lowerOf, if_neg (lt_irrefl i), if_pos rfl]
  lower i k h := by rw [lowerOf, if_neg (by omega), if_neg (by omega)]

theorem lowerOf_eq (h : factors[i]? = some factor) (hk : k < i) : lowerOf factors i k = number factor.lower k := by
  rw [lowerOf, if_pos hk]
  simp [List.getD_eq_getElem?_getD, h]

theorem diagonalOf_eq (h : factors[i]? = some factor) : diagonalOf factors i = factor.diagonal.value :=
  number_eq (by simp [h])

theorem lowerOf_append (h : i < factors.length) : lowerOf (factors ++ [factor]) i = lowerOf factors i := by
  funext k
  rw [lowerOf, lowerOf, List.map_append, List.getD_append _ _ _ _ (by simpa using h)]

theorem diagonalOf_append (h : i < factors.length) : diagonalOf (factors ++ [factor]) i = diagonalOf factors i := by
  rw [diagonalOf, diagonalOf, List.map_append, number_append (by simpa using h)]

theorem sum_zip (hr : left.length ≤ right.length) (hd : left.length ≤ diagonal.length) :
    ((left.zip (right.zip diagonal)).map fun t => t.1.value * t.2.1.value * t.2.2.value).sum =
      ∑ k ∈ range left.length, number left k * number right k * number diagonal k := by
  induction left generalizing right diagonal with
  | nil => rfl
  | cons a left ih =>
    cases right with
    | nil => simp at hr
    | cons b right =>
      cases diagonal with
      | nil => simp at hd
      | cons c diagonal =>
        rw [List.length_cons, sum_range_succ', add_comm, List.zip_cons_cons, List.zip_cons_cons, List.map_cons, List.sum_cons,
          ih (by simpa using hr) (by simpa using hd)]
        rfl

theorem answers_total {Q : Prop} (hr : left.length ≤ right.length) (hd : left.length ≤ diagonal.length) :
    Answers (fun sum => sum.value = ∑ k ∈ range left.length, number left k * number right k * number diagonal k) Q
      (total ⟨true⟩ left right diagonal) := by
  rw [← sum_zip hr hd]
  refine answers_foldlM (I := fun (done : List (Decimal × Decimal × Decimal)) (sum : Decimal) =>
    sum.value = (done.map fun t => t.1.value * t.2.1.value * t.2.2.value).sum) ?_ (by simp)
  rintro done ⟨a, b, c⟩ rest sum - hsum
  refine (answers_rounded _ _).bind fun product hproduct => (answers_rounded _ _).bind fun product' hproduct' =>
    (answers_rounded _ _).mono fun sum' hsum' => ?_
  rw [hsum', hsum, hproduct', hproduct, List.map_append, List.sum_append]
  simp

theorem eliminated_nil (m : ℕ → ℕ → ℚ) : Eliminated m [] := by
  refine ⟨fun i f hf => ?_, fun i hi => ?_, fun k hk => ?_⟩
  · cases hf
  · cases hi
  · cases hk

/-- The entries of a row up to a column, from what is eliminated of it. -/
def Cleared (m : ℕ → ℕ → ℚ) (factors : List Factor) (row count : ℕ) (lower : List Decimal) : Prop :=
  lower.length = count ∧
    ∀ i < count, m row i = ∑ k ∈ range (i + 1), number lower k * lowerOf factors i k * diagonalOf factors k

theorem Cleared.concat {count row : ℕ} (h : Cleared m factors row count lower) (hx : m row count =
    ∑ k ∈ range count, number lower k * lowerOf factors count k * diagonalOf factors k + x.value * diagonalOf factors count) :
    Cleared m factors row (count + 1) (lower ++ [x]) := by
  refine ⟨by simp [h.1], fun i hi => ?_⟩
  have hbelow : ∀ k ∈ range count, number (lower ++ [x]) k = number lower k :=
    fun k hk => number_append (by rw [h.1]; exact mem_range.mp hk)
  rcases Nat.lt_succ_iff_lt_or_eq.mp hi with hi | rfl
  · rw [h.2 i hi]
    exact sum_congr rfl fun k hk => by rw [hbelow k (mem_range.mpr (by have := mem_range.mp hk; omega))]
  · have hlast : number (lower ++ [x]) i = x.value := by
      rw [← h.1]
      exact number_concat
    rw [hx, sum_range_succ, hlast, (unitLower_lowerOf factors).unit, mul_one]
    exact congrArg (· + _) (sum_congr rfl fun k hk => by rw [hbelow k hk])

variable (hm : ∀ i j, m i j = m j i)

include hm in
/-- One column: the residual at a zero of the diagonal shows a negative value. -/
theorem answers_eliminate {count : ℕ} {above : Factor} (h : Eliminated m factors) (hrow : factors.length < n)
    (hlower : Cleared m factors factors.length count lower) (habove : factors[count]? = some above)
    (hx : x.value = m factors.length count) :
    Answers (Cleared m factors factors.length (count + 1)) (∃ y, Elimination.quadratic n m y < 0)
      (eliminate ⟨true⟩ (factors.map Factor.diagonal) lower (x, above)) := by
  have hcount : count < factors.length := by
    have := (List.getElem?_eq_some_iff.mp habove).1
    exact this
  have hsum : ∑ k ∈ range lower.length, number lower k * number above.lower k * number (factors.map Factor.diagonal) k =
      ∑ k ∈ range count, number lower k * lowerOf factors count k * diagonalOf factors k := by
    rw [hlower.1]
    exact sum_congr rfl fun k hk => by rw [lowerOf_eq habove (mem_range.mp hk), diagonalOf]
  refine (answers_total (by rw [hlower.1, h.rows _ _ habove]) (by rw [hlower.1, List.length_map]; omega)).bind
    fun sum hs => (answers_rounded _ _).bind fun residual hresidual => ?_
  rw [hs, hsum, hx] at hresidual
  dsimp only
  split
  · next hzero =>
    have hd : diagonalOf factors count = 0 := by
      rw [diagonalOf_eq habove, Decimal.beq_iff.mp hzero, Decimal.value_zero]
    refine (Answers.raiseIf fun hne => ?_).bind fun _ hne => ?_
    · refine Elimination.negative_of_residual h.factored (unitLower_lowerOf factors) hm hcount hrow hd hlower.2 ?_
      rw [← hresidual]
      intro he
      rw [Decimal.beq_iff.mpr (he.trans Decimal.value_zero.symm)] at hne
      cases hne
    · have he : residual.value = 0 := by
        rw [Bool.not_eq_false, Decimal.beq_iff, Decimal.value_zero] at hne
        exact hne
      refine hlower.concat ?_
      rw [Decimal.value_zero, zero_mul, add_zero]
      linarith
  · next hzero =>
    have hd : diagonalOf factors count ≠ 0 := by
      rw [diagonalOf_eq habove, ← Decimal.value_zero]
      exact fun he => hzero (Decimal.beq_iff.mpr he)
    refine (answers_rounded _ _).bind fun quotient hquotient => hlower.concat ?_
    rw [hquotient, hresidual, ← diagonalOf_eq habove, div_mul_cancel₀ _ hd]
    ring

theorem getElem?_concat (factors : List Factor) (factor : Factor) : (factors ++ [factor])[factors.length]? = some factor := by
  simp

/-- The new row is one of the factors as well, whatever the sign of its entry of the diagonal. -/
theorem Eliminated.factored_concat (h : Eliminated m factors) (hlower : Cleared m factors factors.length factors.length factor.lower)
    (hpivot : factor.diagonal.value = m factors.length factors.length -
      ∑ k ∈ range factors.length, number factor.lower k * number factor.lower k * diagonalOf factors k) :
    Elimination.Factors (factors.length + 1) m (lowerOf (factors ++ [factor])) (diagonalOf (factors ++ [factor])) := by
  have hlast := getElem?_concat factors factor
  intro i hi j hj
  rcases Nat.lt_succ_iff_lt_or_eq.mp hi with hi | rfl
  · rw [h.factored i hi j hj]
    refine sum_congr rfl fun k hk => ?_
    rw [lowerOf_append hi, lowerOf_append (by omega), diagonalOf_append (by have := mem_range.mp hk; omega)]
  rcases Nat.lt_or_eq_of_le hj with hj | rfl
  · rw [hlower.2 j hj]
    refine sum_congr rfl fun k hk => ?_
    have hk := mem_range.mp hk
    rw [lowerOf_eq hlast (by omega), lowerOf_append hj, diagonalOf_append (by omega)]
  · have hbelow : ∑ k ∈ range factors.length, lowerOf (factors ++ [factor]) factors.length k *
        lowerOf (factors ++ [factor]) factors.length k * diagonalOf (factors ++ [factor]) k =
        ∑ k ∈ range factors.length, number factor.lower k * number factor.lower k * diagonalOf factors k :=
      sum_congr rfl fun k hk => by rw [lowerOf_eq hlast (mem_range.mp hk), diagonalOf_append (mem_range.mp hk)]
    rw [sum_range_succ, hbelow, (unitLower_lowerOf _).unit, diagonalOf_eq hlast, hpivot]
    ring

theorem Eliminated.concat (h : Eliminated m factors) (hlower : Cleared m factors factors.length factors.length factor.lower)
    (hpivot : factor.diagonal.value = m factors.length factors.length -
      ∑ k ∈ range factors.length, number factor.lower k * number factor.lower k * diagonalOf factors k)
    (hnonneg : 0 ≤ factor.diagonal.value) : Eliminated m (factors ++ [factor]) := by
  have hlast := getElem?_concat factors factor
  have hlength : (factors ++ [factor]).length = factors.length + 1 := by simp
  refine ⟨fun i f hf => ?_, hlength ▸ h.factored_concat hlower hpivot, fun k hk => ?_⟩
  · have hi := (List.getElem?_eq_some_iff.mp hf).1
    rw [hlength] at hi
    rcases Nat.lt_succ_iff_lt_or_eq.mp hi with hi | rfl
    · rw [List.getElem?_append_left hi] at hf
      exact h.rows i f hf
    · rw [hlast] at hf
      rw [← Option.some.inj hf, hlower.1]
  · rw [hlength] at hk
    rcases Nat.lt_succ_iff_lt_or_eq.mp hk with hk | rfl
    · rw [diagonalOf_append hk]
      exact h.nonneg k hk
    · rw [diagonalOf_eq hlast]
      exact hnonneg

include hm in
/-- One row: a negative entry of the diagonal shows a negative value. -/
theorem answers_eliminateRow {row : List Decimal} (h : Eliminated m factors) (hrow : factors.length < n)
    (hlength : factors.length ≤ row.length) (hx : ∀ j ≤ factors.length, number row j = m factors.length j) :
    Answers (fun next => Eliminated m next ∧ next.length = factors.length + 1) (∃ y, Elimination.quadratic n m y < 0)
      (eliminateRow ⟨true⟩ factors row) := by
  have hzip : (row.zip factors).length = factors.length := by rw [List.length_zip]; omega
  have hcolumns : Answers (Cleared m factors factors.length factors.length) (∃ y, Elimination.quadratic n m y < 0)
      ((row.zip factors).foldlM (eliminate ⟨true⟩ (factors.map Factor.diagonal)) []) := by
    rw [← hzip]
    refine answers_foldlM (I := fun (done : List (Decimal × Factor)) (lower : List Decimal) =>
      Cleared m factors (row.zip factors).length done.length lower) ?_ ⟨rfl, fun i hi => by cases hi⟩
    rintro done ⟨x, above⟩ rest lower hsplit hlower
    have hget : (row.zip factors)[done.length]? = some (x, above) := by rw [hsplit]; simp
    obtain ⟨hentry, habove⟩ := List.getElem?_zip_eq_some.mp hget
    have hlt := (List.getElem?_eq_some_iff.mp habove).1
    rw [hzip] at hlower ⊢
    rw [List.length_append, List.length_singleton]
    refine answers_eliminate hm h hrow hlower habove ?_
    rw [← hx _ hlt.le]
    exact (number_eq hentry).symm
  refine hcolumns.bind fun lower hlower => ?_
  have hsum : ∑ k ∈ range lower.length, number lower k * number lower k * number (factors.map Factor.diagonal) k =
      ∑ k ∈ range factors.length, number lower k * number lower k * diagonalOf factors k := by
    rw [hlower.1]
    rfl
  refine (answers_total le_rfl (by rw [hlower.1, List.length_map])).bind fun sum hs => ?_
  refine (answers_rounded _ _).bind fun pivot hpivot => ?_
  rw [hs, hsum, show (row.getD factors.length 0).value = m factors.length factors.length from hx _ le_rfl] at hpivot
  refine (Answers.raiseIf fun hneg => ?_).bind fun _ hnonneg => ?_
  · have hfactored := h.factored_concat (show Cleared m factors _ _ (Factor.mk lower pivot).lower from hlower) hpivot
    refine Elimination.negative_of_pivot hfactored (unitLower_lowerOf _) hm hrow ?_
    rw [diagonalOf_eq (getElem?_concat _ _), ← Decimal.value_zero]
    exact Decimal.lt_iff.mp hneg
  · rw [Decimal.lt_iff, Decimal.value_zero, not_lt] at hnonneg
    exact ⟨h.concat (show Cleared m factors _ _ (Factor.mk lower pivot).lower from hlower) hpivot hnonneg, by simp⟩

include hm in
/-- The whole elimination: it ends with the factors of the matrix, or the form takes a negative value. -/
theorem answers_positiveSemidefinite {matrix : List (List Decimal)} (hsize : ∀ row ∈ matrix, row.length = matrix.length)
    (hx : ∀ i < matrix.length, ∀ j < matrix.length, (entry matrix i j).value = m i j) :
    Answers (fun factors => Eliminated m factors ∧ factors.length = matrix.length)
      (∃ y, Elimination.quadratic matrix.length m y < 0) (matrix.foldlM (eliminateRow ⟨true⟩) []) := by
  refine answers_foldlM (I := fun (done : List (List Decimal)) (factors : List Factor) =>
    Eliminated m factors ∧ factors.length = done.length) ?_ ⟨eliminated_nil m, rfl⟩
  rintro done row rest factors hsplit ⟨h, hlength⟩
  have hrow : factors.length < matrix.length := by
    rw [hsplit, hlength, List.length_append, List.length_cons]
    omega
  have hget : matrix.getD factors.length [] = row := by rw [hsplit, hlength]; simp
  refine (answers_eliminateRow hm h hrow (by rw [hsize row (by rw [hsplit]; simp)]; omega) fun j hj => ?_).mono ?_
  · rw [← hx _ hrow _ (by omega), entry, hget]
    rfl
  · rintro next ⟨hnext, hnextLength⟩
    exact ⟨hnext, by rw [hnextLength, hlength, List.length_append, List.length_singleton]⟩

end Elimination

/-! ## Matrices -/

section Matrices

variable {n : ℕ} {M : Matrix (Fin n) (Fin n) Decimal} {answer : Bool}

/-- The rows of a matrix. -/
def rows (M : Matrix (Fin n) (Fin n) Decimal) : List (List Decimal) := List.ofFn fun i => List.ofFn (M i)

/-- A correlation matrix, up to its semidefiniteness. -/
structure Correlations (M : Matrix (Fin n) (Fin n) Decimal) : Prop where
  nonempty : 0 < n
  symmetric : ∀ i j, (M i j).value = (M j i).value
  unit : ∀ i, (M i i).value = 1
  range : ∀ i j, |(M i j).value| ≤ 1

theorem entry_rows (i j : Fin n) : entry (rows M) i j = M i j := by
  simp [entry, rows, List.getD_eq_getElem?_getD]

theorem length_rows : (rows M).length = n := List.length_ofFn

theorem length_of_mem_rows {row : List Decimal} (h : row ∈ rows M) : row.length = n := by
  obtain ⟨i, rfl⟩ := (List.mem_ofFn' _ _).mp h
  exact List.length_ofFn

theorem wellFormed_rows : wellFormed (rows M) = true ↔ Correlations M := by
  have hone : (Decimal.ofInt 1).value = 1 := by simp
  have hminus : (Decimal.ofInt (-1)).value = -1 := by simp
  simp only [wellFormed, length_rows, Bool.and_eq_true, Bool.not_eq_true', List.isEmpty_eq_false_iff, List.all_eq_true,
    beq_iff_eq, List.mem_range, Decimal.beq_iff, decide_eq_false_iff_not, Decimal.lt_iff, hone, hminus, Bool.or_eq_true,
    bne_iff_ne, not_or, not_lt]
  constructor
  · rintro ⟨⟨hne, -⟩, hall⟩
    have hentry := fun i j : Fin n => hall i i.2 j j.2
    simp only [entry_rows] at hentry
    refine ⟨?_, fun i j => (hentry i j).1.1, fun i => ?_, fun i j => abs_le.mpr (hentry i j).1.2⟩
    · rw [Nat.pos_iff_ne_zero, ← length_rows (M := M)]
      exact fun h => hne (List.length_eq_zero_iff.mp h)
    · exact (hentry i i).2.resolve_left fun h => h rfl
  · intro h
    refine ⟨⟨fun hnil => ?_, fun row hrow => length_of_mem_rows hrow⟩, fun i hi j hj => ?_⟩
    · have hlength := length_rows (M := M)
      rw [hnil] at hlength
      exact absurd hlength (Nat.ne_of_lt h.nonempty)
    · rw [entry_rows ⟨i, hi⟩ ⟨j, hj⟩, entry_rows ⟨j, hj⟩ ⟨i, hi⟩]
      refine ⟨⟨h.symmetric _ _, abs_le.mp (h.range _ _)⟩, ?_⟩
      by_cases hij : i = j
      · subst hij
        exact .inr (h.unit _)
      · exact .inl hij

/-- The numbers of a matrix, by all positions. -/
def numbers (M : Matrix (Fin n) (Fin n) Decimal) (i j : ℕ) : ℚ :=
  if h : i < n ∧ j < n then (M ⟨i, h.1⟩ ⟨j, h.2⟩).value else 0

theorem numbers_symmetric (h : Correlations M) (i j : ℕ) : numbers M i j = numbers M j i := by
  unfold numbers
  split
  · next hij => rw [dif_pos hij.symm, h.symmetric]
  · next hij => rw [dif_neg fun hji => hij hji.symm]

open Matrix in
theorem quadratic_numbers (y : ℕ → ℚ) : Elimination.quadratic n (numbers M) y =
    (fun i : Fin n => y i) ⬝ᵥ (M.map Decimal.value) *ᵥ fun i => y i := by
  rw [Elimination.quadratic, Finset.sum_range, dotProduct]
  refine sum_congr rfl fun i _ => ?_
  rw [Finset.sum_range, mulVec, dotProduct, mul_sum]
  refine sum_congr rfl fun j _ => ?_
  rw [numbers, dif_pos ⟨i.2, j.2⟩, Matrix.map_apply]
  ring

end Matrices

namespace Sample

/-- A decimal below one, by its digits after the point. -/
def places (digits : ℕ) (count : ℕ) : Decimal := ⟨false, digits, -count⟩

def one : Decimal := Decimal.ofInt 1

/-- Positive definite, and eliminated without rounding. -/
def definite : Matrix (Fin 3) (Fin 3) Decimal :=
  fun i j => entry [[one, places 5 1, 0], [places 5 1, one, places 75 2], [0, places 75 2, one]] i j

/-- Off by one in the fortieth place from a matrix that is singular. -/
def indefinite : Matrix (Fin 3) (Fin 3) Decimal :=
  fun i j => entry
    [[one, places 8 1, places 6 1], [places 8 1, one, places (96 * 10 ^ 38 + 1) 40],
      [places 6 1, places (96 * 10 ^ 38 + 1) 40, one]] i j

end Sample

end ATB.Proof.Correlation
