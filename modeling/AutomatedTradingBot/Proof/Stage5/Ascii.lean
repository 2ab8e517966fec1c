import AutomatedTradingBot.Source.Stage5.Authority

/-!
# Texts in ASCII

What `json.dumps` writes with `ensure_ascii=True`.

* `unquote_ascii`: one character of a string, as itself, as an escape or as a pair of
  surrogates;
* `loads_dumpsAscii`, `dumpsAscii_inj`: every value reads back;
* `ascii_of_mem_dumpsAscii`: what is written is ASCII.
-/

namespace ATB.Proof.Ascii

open ATB.Json ATB.Stage5

theorem ascii_of_lt {c : Char} (h : c.toNat < 0x7f) : ascii c = [c] := if_pos h

theorem flatMap_ascii {s : List Char} (h : ∀ c ∈ s, c.toNat < 0x7f) : s.flatMap ascii = s := by
  induction s with
  | nil => rfl
  | cons c s ih =>
    rw [List.flatMap_cons, ascii_of_lt (h c (List.mem_cons_self ..)), ih fun d hd => h d (List.mem_cons_of_mem _ hd)]
    rfl

theorem ascii_of_mem_hexChars {w n : ℕ} {c : Char} (h : c ∈ Uuid.hexChars w n) : c.toNat < 0x7f := by
  have hc := Uuid.isLowerHex_of_mem_hexChars h
  simp only [Text.isLowerHex, Bool.or_eq_true, Bool.and_eq_true, decide_eq_true_eq] at hc
  rcases hc with hc | ⟨-, hc⟩
  · simp only [Char.isDigit, Bool.and_eq_true, decide_eq_true_eq] at hc
    have hle : c.toNat ≤ '9'.toNat := hc.2
    exact lt_of_le_of_lt hle (by decide)
  · have hle : c.toNat ≤ 'f'.toNat := hc
    exact lt_of_le_of_lt hle (by decide)

/-- The escape of an ASCII character is ASCII. -/
theorem ascii_escape {c : Char} (h : c.toNat < 0x7f) : ∀ x ∈ escape c, x.toNat < 0x7f := by
  have hpair : ∀ d : Char, d.toNat < 0x7f → ∀ x ∈ ['\\', d], x.toNat < 0x7f := by
    intro d hd x hx
    rcases List.mem_cons.mp hx with rfl | hx
    · decide
    · rcases List.mem_singleton.mp hx with rfl
      exact hd
  unfold escape
  split_ifs
  · exact hpair _ (by decide)
  · exact hpair _ (by decide)
  · exact hpair _ (by decide)
  · exact hpair _ (by decide)
  · exact hpair _ (by decide)
  · exact hpair _ (by decide)
  · exact hpair _ (by decide)
  · intro x hx
    rcases List.mem_cons.mp hx with rfl | hx
    · decide
    · rcases List.mem_cons.mp hx with rfl | hx
      · decide
      · exact ascii_of_mem_hexChars hx
  · intro x hx
    rcases List.mem_singleton.mp hx with rfl
    exact h

/-! ## Characters that are not -/

theorem escape_of_le {c : Char} (h : 0x7f ≤ c.toNat) : escape c = [c] := by
  have hne : ∀ d : Char, d.toNat < 0x7f → c ≠ d := by
    rintro d hd rfl
    omega
  unfold escape
  rw [if_neg (hne _ (by decide)), if_neg (hne _ (by decide)), if_neg (hne _ (by decide)), if_neg (hne _ (by decide)),
    if_neg (hne _ (by decide)), if_neg (by omega), if_neg (by omega), if_neg (by omega)]

theorem unhex_unit {n : ℕ} (h : n < 0x10000) : ∃ a b c d, Uuid.hexChars 4 n = [a, b, c, d] ∧ Uuid.unhex [a, b, c, d] = some n := by
  have hx := Uuid.unhex_hexChars 4 n
  rw [Nat.mod_eq_of_lt (by omega)] at hx
  exact ⟨_, _, _, _, rfl, hx⟩

/-- A code point of the basic plane is one unit. -/
theorem unquote_unit {c : Char} (h : c.toNat < 0x10000) (s : List Char) :
    unquote ('\\' :: 'u' :: (Uuid.hexChars 4 c.toNat ++ s)) = push c (unquote s) := by
  obtain ⟨a, b, e, d, hunit, hx⟩ := unhex_unit h
  have hvalid : c.toNat < 0xd800 ∨ 0xdfff < c.toNat := by
    have := c.valid
    simp only [UInt32.isValidChar, Nat.isValidChar] at this
    exact this.imp id fun h => h.1
  rw [hunit]
  simp only [List.cons_append, List.nil_append, unquote, hx, if_pos hvalid, Char.ofNat_toNat]

/-- Another code point is a pair of surrogates. -/
theorem unquote_pair {c : Char} (h : ¬ c.toNat < 0x10000) (s : List Char) :
    unquote ('\\' :: 'u' :: (Uuid.hexChars 4 (0xd800 + (c.toNat - 0x10000) / 0x400) ++
      '\\' :: 'u' :: (Uuid.hexChars 4 (0xdc00 + (c.toNat - 0x10000) % 0x400) ++ s))) = push c (unquote s) := by
  have hmax : c.toNat < 0x110000 := by
    have := c.valid
    simp only [UInt32.isValidChar, Nat.isValidChar] at this
    rcases this with this | this
    · exact lt_trans this (by decide)
    · exact this.2
  generalize hn : c.toNat = n at h hmax
  obtain ⟨a, b, e, d, hhigh, hx⟩ := unhex_unit (n := 0xd800 + (n - 0x10000) / 0x400) (by omega)
  obtain ⟨a', b', e', d', hlow, hx'⟩ := unhex_unit (n := 0xdc00 + (n - 0x10000) % 0x400) (by omega)
  have hsurrogate : ¬ (0xd800 + (n - 0x10000) / 0x400 < 0xd800 ∨ 0xdfff < 0xd800 + (n - 0x10000) / 0x400) := by omega
  have hpair : 0xd800 + (n - 0x10000) / 0x400 < 0xdc00 ∧ 0xdc00 ≤ 0xdc00 + (n - 0x10000) % 0x400 ∧
      0xdc00 + (n - 0x10000) % 0x400 ≤ 0xdfff := by omega
  have hvalue : 0x10000 + (0xd800 + (n - 0x10000) / 0x400 - 0xd800) * 0x400 + (0xdc00 + (n - 0x10000) % 0x400 - 0xdc00) = n := by
    omega
  rw [hhigh, hlow]
  simp only [List.cons_append, List.nil_append, unquote, hx, hx', if_neg hsurrogate, if_pos hpair, hvalue]
  rw [← hn, Char.ofNat_toNat]

/-- One character of a string reads back. -/
theorem unquote_ascii (c : Char) (s : List Char) : unquote ((escape c).flatMap ascii ++ s) = push c (unquote s) := by
  by_cases h : c.toNat < 0x7f
  · rw [flatMap_ascii (ascii_escape h), unquote_escape]
  · rw [escape_of_le (by omega), List.flatMap_singleton]
    unfold ascii
    rw [if_neg h]
    by_cases hplane : c.toNat < 0x10000
    · rw [if_pos hplane]
      exact unquote_unit hplane s
    · rw [if_neg hplane]
      simp only [List.cons_append, List.append_assoc]
      exact unquote_pair hplane s

theorem length_ascii_pos (c : Char) : 0 < (ascii c).length := by
  unfold ascii
  split_ifs
  · exact Nat.succ_pos _
  · exact Nat.succ_pos _
  · exact Nat.succ_pos _

theorem transparent_ascii : Transparent ascii := ⟨fun _ h => ascii_of_lt h, unquote_ascii, length_ascii_pos⟩

/-- `json.loads(json.dumps(j)) == j`. -/
theorem loads_dumpsAscii {j : Json} (h : Sorted j) : loads (dumpsAscii j) = some j := loads_flatMap transparent_ascii h

theorem dumpsAscii_inj {i j : Json} (hi : Sorted i) (hj : Sorted j) (h : dumpsAscii i = dumpsAscii j) : i = j := by
  have hl := loads_dumpsAscii hi
  rw [h, loads_dumpsAscii hj] at hl
  exact (Option.some.inj hl).symm

/-! ## What is written -/

theorem ascii_of_mem_ascii {c x : Char} (h : x ∈ ascii c) : x.toNat < 0x7f := by
  have hunit : ∀ n, ∀ y ∈ '\\' :: 'u' :: Uuid.hexChars 4 n, y.toNat < 0x7f := by
    intro n y hy
    rcases List.mem_cons.mp hy with rfl | hy
    · decide
    · rcases List.mem_cons.mp hy with rfl | hy
      · decide
      · exact ascii_of_mem_hexChars hy
  unfold ascii at h
  split_ifs at h with hc hplane
  · rw [List.mem_singleton.mp h]
    exact hc
  · exact hunit _ x h
  · rcases List.mem_append.mp h with h | h
    · exact hunit _ x h
    · exact hunit _ x h

theorem ascii_of_mem_dumpsAscii {j : Json} {x : Char} (h : x ∈ dumpsAscii j) : x.toNat < 0x7f := by
  obtain ⟨c, -, hx⟩ := List.mem_flatMap.mp h
  exact ascii_of_mem_ascii hx

/-! ## Objects of texts -/

def textFields (fs : List (String × String)) : List (String × Json) := fs.map fun f => (f.1, .str f.2)

theorem sorted_textFields {fs : List (String × String)} (h : (fs.map Prod.fst).Pairwise (· < ·)) :
    Sorted (.dict (textFields fs)) := by
  rw [Sorted]
  induction fs with
  | nil => trivial
  | cons f fs ih =>
    obtain ⟨hlt, hs⟩ := List.pairwise_cons.mp h
    refine ⟨fun g hg => ?_, sorted_str f.2, ih hs⟩
    obtain ⟨f', hf', rfl⟩ := List.mem_map.mp hg
    exact hlt _ (List.mem_map_of_mem hf')

end ATB.Proof.Ascii
