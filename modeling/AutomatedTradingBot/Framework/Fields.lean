import AutomatedTradingBot.Framework.Text

/-!
# Fields of a text

Whole numbers as texts (`str(n)`, `int(text)` in ASCII digits), and the last field of
a text of fields with a separator between them, as `rsplit` takes it off.

* `intOf?_intText`: a number reads back;
* `splitLast_append`: the last field is what follows the last separator.
-/

namespace ATB.Text

/-! ## Numbers -/

/-- The digits of an integer literal, where a low line may stand between two digits. -/
def digitsOf? : List Char → Option (List Char)
  | [] => none
  | [c] => if c.isDigit then some [c] else none
  | c :: '_' :: rest => if c.isDigit then (digitsOf? rest).map (c :: ·) else none
  | c :: rest => if c.isDigit then (digitsOf? rest).map (c :: ·) else none

/-- `int(text)`. -/
def intOf? (s : String) : Option Int :=
  let magnitude (cs : List Char) : Option Int := (digitsOf? cs).map fun ds => (Nat.ofDigitChars 10 ds 0 : Int)
  match Text.strip (Text.chars s) with
  | '-' :: cs => (magnitude cs).map (- ·)
  | '+' :: cs => magnitude cs
  | cs => magnitude cs

/-- `str(n)`. -/
def intText : Int → String
  | .ofNat n => String.ofList (Nat.toDigits 10 n)
  | .negSucc n => String.ofList ('-' :: Nat.toDigits 10 (n + 1))

theorem digitsOf?_of_digits {s : List Char} (hne : s ≠ []) (hs : ∀ c ∈ s, c.isDigit = true) : digitsOf? s = some s := by
  induction s with
  | nil => exact absurd rfl hne
  | cons c s ih =>
    have hc := hs c (List.mem_cons_self ..)
    cases s with
    | nil => simp [digitsOf?, hc]
    | cons d s =>
      have hd : d ≠ '_' := by
        rintro rfl
        have := hs '_' (by simp)
        revert this
        decide
      have := ih (by simp) fun x hx => hs x (List.mem_cons_of_mem _ hx)
      rw [digitsOf?]
      · rw [if_pos hc, this]
        rfl
      · simp
      · intro rest e
        cases e
        exact hd rfl

theorem isSpace_of_isDigit {c : Char} (h : c.isDigit = true) : isSpace c = false := by
  have h' : 48 ≤ c.toNat ∧ c.toNat ≤ 57 := by simpa [Char.isDigit, UInt32.le_iff_toNat_le] using h
  simp only [isSpace, Bool.or_eq_false_iff, Bool.and_eq_false_iff, decide_eq_false_iff_not, beq_eq_false_iff_ne]
  omega

/-- `int(str(n))` is `n`. -/
theorem intOf?_intText (n : ℕ) : intOf? (intText n) = some (n : ℤ) := by
  have hd : ∀ c ∈ Nat.toDigits 10 n, c.isDigit = true := fun c hc =>
    Nat.isDigit_of_mem_toDigits (by decide) (by decide) hc
  have hne : Nat.toDigits 10 n ≠ [] := Nat.toDigits_ne_nil
  have hstrip : strip (chars (intText n)) = Nat.toDigits 10 n := by
    rw [chars_eq, show intText n = String.ofList (Nat.toDigits 10 n) from rfl, String.toList_ofList]
    exact stripOf_of_none fun c hc => isSpace_of_isDigit (hd c hc)
  have hread : (digitsOf? (Nat.toDigits 10 n)).map (fun ds => (Nat.ofDigitChars 10 ds 0 : ℤ)) = some (n : ℤ) := by
    rw [digitsOf?_of_digits hne hd, Option.map_some, Nat.ofDigitChars_ten_toDigits]
  rw [intOf?, hstrip]
  split
  · rename_i cs e
    exact absurd (hd '-' (e ▸ List.mem_cons_self ..)) (by decide)
  · rename_i cs e
    exact absurd (hd '+' (e ▸ List.mem_cons_self ..)) (by decide)
  · exact hread

/-! ## Separators -/

/-- What is before and after the last `c`. -/
def splitLast (c : Char) (s : List Char) : Option (List Char × List Char) :=
  match s.reverse.dropWhile (· ≠ c) with
  | [] => none
  | _ :: before => some (before.reverse, (s.reverse.takeWhile (· ≠ c)).reverse)

theorem splitLast_append {c : Char} {s t : List Char} (h : c ∉ t) : splitLast c (s ++ c :: t) = some (s, t) := by
  have hall : ∀ x ∈ t.reverse, decide (x ≠ c) = true := fun x hx => by
    rw [decide_eq_true_eq]
    rintro rfl
    exact h (List.mem_reverse.mp hx)
  have hrev : (s ++ c :: t).reverse = t.reverse ++ c :: s.reverse := by simp
  rw [splitLast, hrev, List.dropWhile_append_of_pos hall, List.takeWhile_append_of_pos hall,
    List.dropWhile_cons_of_neg (by simp), List.takeWhile_cons_of_neg (by simp)]
  simp

end ATB.Text
