import Mathlib
import AutomatedTradingBot.Source.Datasets.Foundation

/-!
# Values that canonical JSON takes

* `canonical_arr`, `canonical_dict`: an array or an object is taken when its parts are;
* `canonical_obj`, `canonical_of_mem`: the same of a display;
* `text_of_identity`, `canonical_digest`: identities and digests are taken, given that ASCII
  texts are in normal form.
-/

namespace ATB.Proof.Canonical

open Json (obj)

section Values

variable {py : Platform}

theorem text_eq_ok {name value : String} : py.text name value = .ok () ↔
    value ≠ "" ∧ Text.strip (Text.chars value) = Text.chars value ∧ py.isNfc value = true := by
  simp only [Platform.text, raiseIf_bind_eq_ok, raiseIf_eq_ok, not_or, not_not, and_assoc]

theorem canonical_str {value : String} : py.canonicalValue (.str value) = .ok () ↔ py.text "canonical string" value = .ok () := by
  rw [Platform.canonicalValue]

/-- The name is that of the value in the message only. -/
theorem text_congr {name name' value : String} (h : py.text name value = .ok ()) : py.text name' value = .ok () :=
  text_eq_ok.mpr (text_eq_ok.mp h)

theorem canonical_arr {items : List Json} :
    py.canonicalValue (.arr items) = .ok () ↔ ∀ j ∈ items, py.canonicalValue j = .ok () := by
  rw [Platform.canonicalValue]
  induction items with
  | nil => exact iff_of_true rfl fun _ h => absurd h List.not_mem_nil
  | cons j items ih =>
    simp only [Platform.canonicalItems, bind_eq_ok, Unique.exists_iff, PUnit.default_eq_unit, ih, List.forall_mem_cons]

theorem canonical_dict {fields : List (String × Json)} : py.canonicalValue (.dict fields) = .ok () ↔
    ∀ f ∈ fields, py.text "object key" f.1 = .ok () ∧ py.canonicalValue f.2 = .ok () := by
  rw [Platform.canonicalValue]
  induction fields with
  | nil => exact iff_of_true rfl fun _ h => absurd h List.not_mem_nil
  | cons f fields ih =>
    obtain ⟨k, j⟩ := f
    simp only [Platform.canonicalFields, Platform.canonicalField, bind_eq_ok, Unique.exists_iff, PUnit.default_eq_unit, ih,
      List.forall_mem_cons]

theorem canonical_obj {fields : List (String × Json)}
    (h : ∀ f ∈ fields, py.text "object key" f.1 = .ok () ∧ py.canonicalValue f.2 = .ok ()) :
    py.canonicalValue (obj fields) = .ok () :=
  canonical_dict.mpr fun f hf => h f (Json.mem_display hf)

/-- The items of a display that is taken are taken. -/
theorem canonical_of_mem {fields : List (String × Json)} (h : py.canonicalValue (obj fields) = .ok ())
    (hn : (fields.map Prod.fst).Nodup) {f : String × Json} (hf : f ∈ fields) :
    py.text "object key" f.1 = .ok () ∧ py.canonicalValue f.2 = .ok () := by
  have hget : Json.find? f.1 (Json.display fields) = some f.2 := Json.get?_obj hn hf
  obtain ⟨g, hg, hvalue⟩ := Option.map_eq_some_iff.mp hget
  have hkey : g.1 = f.1 := by simpa using List.find?_some hg
  obtain rfl : g = f := Prod.ext hkey hvalue
  exact canonical_dict.mp h g (List.mem_of_find?_eq_some hg)

end Values

/-! ## ASCII texts -/

/-- A text without blanks, of ASCII characters. -/
def Plain (s : List Char) : Prop := ∀ c ∈ s, Text.isSpace c = false ∧ c.toNat < 128

instance (s : List Char) : Decidable (Plain s) :=
  List.decidableBAll (fun c => Text.isSpace c = false ∧ c.toNat < 128) s

/-- ASCII texts are in normal form C. -/
def AsciiNormal (py : Platform) : Prop := ∀ s : String, (∀ c ∈ s.toList, c.toNat < 128) → py.isNfc s = true

theorem plain_append {s t : List Char} : Plain (s ++ t) ↔ Plain s ∧ Plain t := List.forall_mem_append

theorem range_of_isIdChar {c : Char} (h : Datasets.isIdChar c = true) : 0x20 < c.toNat ∧ c.toNat < 0x80 := by
  simp only [Datasets.isIdChar, Text.isTokenChar, Char.isAlphanum, Char.isAlpha, Char.isUpper, Char.isLower, Char.isDigit,
    Bool.or_eq_true, Bool.and_eq_true, decide_eq_true_eq, beq_iff_eq, ge_iff_le, UInt32.le_iff_toNat_le] at h
  rcases h with ((((((h | h) | h) | rfl) | rfl) | rfl) | rfl) | rfl
  all_goals first | decide | (simp at h; omega)

theorem isSpace_of_range {c : Char} (h : 0x20 < c.toNat ∧ c.toNat < 0x80) : Text.isSpace c = false := by
  simp only [Text.isSpace, Bool.or_eq_false_iff, Bool.and_eq_false_iff, decide_eq_false_iff_not, beq_eq_false_iff_ne]
  omega

theorem isIdChar_of_identity {s : List Char} (h : Datasets.isIdentity s = true) : ∀ c ∈ s, Datasets.isIdChar c = true := by
  cases s with
  | nil => exact fun _ hc => absurd hc List.not_mem_nil
  | cons c cs =>
    simp only [Datasets.isIdentity, Bool.and_eq_true, List.all_eq_true] at h
    rintro d (_ | ⟨_, hd⟩)
    · simp [Datasets.isIdChar, Text.isTokenChar, h.1.1]
    · exact h.1.2 d hd

theorem plain_of_isIdChar {s : List Char} (h : ∀ c ∈ s, Datasets.isIdChar c = true) : Plain s := fun c hc =>
  ⟨isSpace_of_range (range_of_isIdChar (h c hc)), (range_of_isIdChar (h c hc)).2⟩

theorem plain_of_identity {s : List Char} (h : Datasets.isIdentity s = true) : Plain s :=
  plain_of_isIdChar (isIdChar_of_identity h)

theorem strip_of_plain {s : List Char} (h : Plain s) : Text.strip s = s :=
  Text.stripOf_of_none fun c hc => (h c hc).1

/-- A text that begins and ends with a mark. -/
theorem strip_of_ends {c d : Char} {s : List Char} (hc : Text.isSpace c = false) (hd : Text.isSpace d = false) :
    Text.strip (c :: s ++ [d]) = c :: s ++ [d] := by
  rw [Text.strip, Text.stripOf, List.cons_append, List.dropWhile_cons_of_neg (by rw [hc]; decide), ← List.cons_append,
    List.reverse_append, List.reverse_singleton, List.singleton_append, List.dropWhile_cons_of_neg (by rw [hd]; decide),
    List.reverse_cons, List.reverse_reverse]

variable {py : Platform}

theorem hexdigest_inj {py : Platform} {s t : List Char} (h : py.hexdigest s = py.hexdigest t) :
    py.sha256 s = py.sha256 t := by
  have hchars := congrArg Uuid.unhex (String.ofList_injective h)
  rw [Uuid.unhex_hexChars, Uuid.unhex_hexChars] at hchars
  have hpow : (16 : Nat) ^ 64 = 2 ^ 256 := by rw [show (16 : Nat) = 2 ^ 4 from rfl, ← pow_mul]
  rw [hpow, Option.some_inj, Nat.mod_eq_of_lt (py.sha256 s).isLt, Nat.mod_eq_of_lt (py.sha256 t).isLt] at hchars
  exact Fin.ext hchars

/-- A digest. -/
theorem plain_digest (t : List Char) : Plain ("sha256:" ++ py.hexdigest t).toList := by
  have hhex : ∀ c ∈ Uuid.hexChars 64 (py.sha256 t), Datasets.isIdChar c = true := fun _ => Datasets.isIdChar_hexChars
  have hlead : Plain "sha256:".toList := by decide
  rw [String.toList_append, plain_append, Platform.hexdigest]
  generalize Uuid.hexChars 64 (py.sha256 t) = hex at hhex
  refine ⟨hlead, ?_⟩
  rw [String.toList_ofList]
  exact plain_of_isIdChar hhex

theorem digest_ne_empty (t : List Char) : "sha256:" ++ py.hexdigest t ≠ "" := fun h => by
  have hlen := congrArg String.length h
  rw [String.length_append] at hlen
  exact absurd hlen (by simp)

variable (hnfc : AsciiNormal py)

include hnfc

theorem text_of_plain {name value : String} (hne : value ≠ "") (h : Plain value.toList) : py.text name value = .ok () := by
  refine text_eq_ok.mpr ⟨hne, ?_, hnfc value fun c hc => (h c hc).2⟩
  rw [Text.chars_eq]
  exact strip_of_plain h

theorem canonical_of_plain {value : String} (hne : value ≠ "") (h : Plain value.toList) :
    py.canonicalValue (.str value) = .ok () :=
  canonical_str.mpr (text_of_plain hnfc hne h)

theorem canonical_digest (t : List Char) : py.canonicalValue (.str ("sha256:" ++ py.hexdigest t)) = .ok () :=
  canonical_of_plain hnfc (digest_ne_empty t) (plain_digest t)

end ATB.Proof.Canonical
