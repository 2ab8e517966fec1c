import AutomatedTradingBot.Framework.Uuid

/-!
# JSON texts

JSON values without fractions, as Python holds them: a `dict` is the list of its
items in the order of their keys, which `obj` builds. `dumps` is `json.dumps`
with `ensure_ascii=False`, `sort_keys=True` and the compact separators, and
`loads` is `json.loads`. A number with a fraction or an exponent, and an escaped
lone surrogate, are refused.

* `get?_obj`: the value of a key of a `dict` display;
* `sorted_obj`: a `dict` display has its keys in order;
* `loads_flatMap`, `loads_dumps`: what is written reads back, with its literals as they
  are or escaped.
-/

namespace ATB

inductive Json where
  | null
  | bool (b : Bool)
  | int (n : Int)
  | str (s : String)
  | arr (items : List Json)
  | dict (fields : List (String × Json))

namespace Json

/-- An item put in front of a `dict`: a key that comes again later keeps its later value. -/
def insert (k : String) (j : Json) : List (String × Json) → List (String × Json)
  | [] => [(k, j)]
  | f :: fs => if Text.before k f.1 then (k, j) :: f :: fs else if k = f.1 then f :: fs else f :: insert k j fs

/-- The items of a `dict` display. -/
def display : List (String × Json) → List (String × Json)
  | [] => []
  | f :: fs => insert f.1 f.2 (display fs)

/-- A `dict` display. -/
def obj (fields : List (String × Json)) : Json := .dict (display fields)

/-- `fields.get(k)`. -/
def find? (k : String) (fields : List (String × Json)) : Option Json :=
  (fields.find? fun f => f.1 = k).map Prod.snd

/-- `j.get(k)` of a `dict`. -/
def get? (k : String) : Json → Option Json
  | .dict fields => find? k fields
  | _ => none

/-- The items of a `dict`. -/
def fields? : Json → Option (List (String × Json))
  | .dict fields => some fields
  | _ => none

/-! ## Writing -/

/-- A character of a string literal. -/
def escape (c : Char) : List Char :=
  if c = '"' then ['\\', '"']
  else if c = '\\' then ['\\', '\\']
  else if c = '\n' then ['\\', 'n']
  else if c = '\r' then ['\\', 'r']
  else if c = '\t' then ['\\', 't']
  else if c.toNat = 8 then ['\\', 'b']
  else if c.toNat = 12 then ['\\', 'f']
  else if c.toNat < 32 then '\\' :: 'u' :: Uuid.hexChars 4 c.toNat
  else [c]

/-- The rest of a string literal, from its first character on. -/
def quoteTail (s : List Char) : List Char := s.flatMap escape ++ ['"']

def quote (s : String) : List Char := '"' :: quoteTail (Text.chars s)

def intChars : Int → List Char
  | .ofNat n => Nat.toDigits 10 n
  | .negSucc n => '-' :: Nat.toDigits 10 (n + 1)

mutual

/-- `json.dumps(j, ensure_ascii=False, sort_keys=True, separators=(",", ":"))`. -/
def dumps : Json → List Char
  | .null => ['n', 'u', 'l', 'l']
  | .bool true => ['t', 'r', 'u', 'e']
  | .bool false => ['f', 'a', 'l', 's', 'e']
  | .int n => intChars n
  | .str s => quote s
  | .arr [] => ['[', ']']
  | .arr (j :: js) => '[' :: (dumps j ++ dumpsItems js)
  | .dict [] => ['\x7b', '\x7d']
  | .dict (f :: fs) => '\x7b' :: (dumpsField f ++ dumpsFields fs)

/-- The items after the first. -/
def dumpsItems : List Json → List Char
  | [] => [']']
  | j :: js => ',' :: (dumps j ++ dumpsItems js)

/-- The fields after the first. -/
def dumpsFields : List (String × Json) → List Char
  | [] => ['\x7d']
  | f :: fs => ',' :: (dumpsField f ++ dumpsFields fs)

def dumpsField : String × Json → List Char
  | (k, j) => quote k ++ ':' :: dumps j

end

/-! ## Reading -/

def isBlank (c : Char) : Bool := c == ' ' || c == '\t' || c == '\n' || c == '\r'

def skip (s : List Char) : List Char := s.dropWhile isBlank

def push (c : Char) : Option (List Char × List Char) → Option (List Char × List Char) :=
  Option.map fun r => (c :: r.1, r.2)

/-- The rest of a string literal: its characters and what follows it. -/
def unquote : List Char → Option (List Char × List Char)
  | [] => none
  | '"' :: s => some ([], s)
  | '\\' :: '"' :: s => push '"' (unquote s)
  | '\\' :: '\\' :: s => push '\\' (unquote s)
  | '\\' :: '/' :: s => push '/' (unquote s)
  | '\\' :: 'b' :: s => push (Char.ofNat 8) (unquote s)
  | '\\' :: 'f' :: s => push (Char.ofNat 12) (unquote s)
  | '\\' :: 'n' :: s => push '\n' (unquote s)
  | '\\' :: 'r' :: s => push '\r' (unquote s)
  | '\\' :: 't' :: s => push '\t' (unquote s)
  | '\\' :: 'u' :: a :: b :: c :: d :: s =>
    match Uuid.unhex [a, b, c, d] with
    | none => none
    | some high =>
      if high < 0xd800 ∨ 0xdfff < high then push (Char.ofNat high) (unquote s)
      else
        match s with
        | '\\' :: 'u' :: a :: b :: c :: d :: s =>
          match Uuid.unhex [a, b, c, d] with
          | none => none
          | some low =>
            if high < 0xdc00 ∧ 0xdc00 ≤ low ∧ low ≤ 0xdfff then
              push (Char.ofNat (0x10000 + (high - 0xd800) * 0x400 + (low - 0xdc00))) (unquote s)
            else none
        | _ => none
  | '\\' :: _ => none
  | c :: s => if c.toNat < 32 then none else push c (unquote s)

def startsNumber : List Char → Bool
  | [] => false
  | c :: _ => c == '-' || c.isDigit

/-- The digits of a number without leading zeros. -/
def digits : List Char → Option (Nat × List Char)
  | '0' :: s => some (0, s)
  | s =>
    let ds := s.takeWhile Char.isDigit
    if ds = [] then none else some (Nat.ofDigitChars 10 ds 0, s.dropWhile Char.isDigit)

/-- What may not follow an integer. -/
def continues : List Char → Bool
  | [] => false
  | c :: _ => c == '.' || c == 'e' || c == 'E'

def number (s : List Char) : Option (Json × List Char) :=
  match s with
  | '-' :: s => do
    let (n, s) ← digits s
    if continues s then none else some (.int (-(n : Int)), s)
  | s => do
    let (n, s) ← digits s
    if continues s then none else some (.int n, s)

mutual

/-- The value at the front of a text, and what follows it. -/
def value : Nat → List Char → Option (Json × List Char)
  | 0, _ => none
  | fuel + 1, s =>
    if startsNumber (skip s) then number (skip s)
    else
      match skip s with
      | 'n' :: 'u' :: 'l' :: 'l' :: s => some (.null, s)
      | 't' :: 'r' :: 'u' :: 'e' :: s => some (.bool true, s)
      | 'f' :: 'a' :: 'l' :: 's' :: 'e' :: s => some (.bool false, s)
      | '"' :: s => (unquote s).map fun r => (.str (String.ofList r.1), r.2)
      | '[' :: s =>
        match skip s with
        | ']' :: s => some (.arr [], s)
        | s => (items fuel s).map fun r => (.arr r.1, r.2)
      | '\x7b' :: s =>
        match skip s with
        | '\x7d' :: s => some (.dict [], s)
        | s => (fields fuel s).map fun r => (.dict r.1, r.2)
      | _ => none

/-- The items of an array up to its end. -/
def items : Nat → List Char → Option (List Json × List Char)
  | 0, _ => none
  | fuel + 1, s =>
    match value fuel s with
    | none => none
    | some (j, s) =>
      match skip s with
      | ',' :: s => (items fuel s).map fun r => (j :: r.1, r.2)
      | ']' :: s => some ([j], s)
      | _ => none

/-- The fields of an object up to its end. -/
def fields : Nat → List Char → Option (List (String × Json) × List Char)
  | 0, _ => none
  | fuel + 1, s =>
    match skip s with
    | '"' :: s =>
      match unquote s with
      | none => none
      | some (k, s) =>
        match skip s with
        | ':' :: s =>
          match value fuel s with
          | none => none
          | some (j, s) =>
            match skip s with
            | ',' :: s => (fields fuel s).map fun r => (insert (String.ofList k) j r.1, r.2)
            | '\x7d' :: s => some ([(String.ofList k, j)], s)
            | _ => none
        | _ => none
    | _ => none

end

/-- `json.loads(text)`. -/
def loads (text : List Char) : Option Json :=
  match value (text.length + 1) text with
  | some (j, s) => if skip s = [] then some j else none
  | none => none

/-! ## Round trip -/

theorem skip_cons {c : Char} (h : isBlank c = false) (s : List Char) : skip (c :: s) = c :: s := by
  rw [skip, List.dropWhile_cons_of_neg (by simp [h])]

theorem unquote_plain {c : Char} (hq : c ≠ '"') (hb : c ≠ '\\') (h : ¬ c.toNat < 32) (s : List Char) :
    unquote (c :: s) = push c (unquote s) := by
  rw [unquote]
  · rw [if_neg h]
  all_goals simp_all

theorem unquote_hex {n : Nat} (h : n < 32) (s : List Char) :
    unquote ('\\' :: 'u' :: (Uuid.hexChars 4 n ++ s)) = push (Char.ofNat n) (unquote s) := by
  have hx := Uuid.unhex_hexChars 4 n
  rw [Nat.mod_eq_of_lt (by omega)] at hx
  obtain ⟨a, b, c, d, e⟩ : ∃ a b c d, Uuid.hexChars 4 n = [a, b, c, d] := ⟨_, _, _, _, rfl⟩
  rw [e] at hx ⊢
  simp only [List.cons_append, List.nil_append, unquote, hx, if_pos (Or.inl (by omega : n < 0xd800))]

/-- One character of a string reads back. -/
theorem unquote_escape (c : Char) (s : List Char) : unquote (escape c ++ s) = push c (unquote s) := by
  have hc : Char.ofNat c.toNat = c := Char.ofNat_toNat c
  unfold escape
  by_cases h1 : c = '"'
  · subst h1; rfl
  by_cases h2 : c = '\\'
  · subst h2; rfl
  by_cases h3 : c = '\n'
  · subst h3; rfl
  by_cases h4 : c = '\r'
  · subst h4; rfl
  by_cases h5 : c = '\t'
  · subst h5; rfl
  by_cases h6 : c.toNat = 8
  · rw [h6] at hc; subst hc; rfl
  by_cases h7 : c.toNat = 12
  · rw [h7] at hc; subst hc; rfl
  by_cases h8 : c.toNat < 32
  · simp only [if_neg h1, if_neg h2, if_neg h3, if_neg h4, if_neg h5, if_neg h6, if_neg h7, if_pos h8]
    exact (unquote_hex h8 s).trans (by rw [hc])
  · simp only [if_neg h1, if_neg h2, if_neg h3, if_neg h4, if_neg h5, if_neg h6, if_neg h7, if_neg h8]
    exact unquote_plain h1 h2 h8 s

theorem unquote_quoteTail (s rest : List Char) : unquote (quoteTail s ++ rest) = some (s, rest) := by
  induction s with
  | nil => rfl
  | cons c s ih =>
    have e : quoteTail (c :: s) ++ rest = escape c ++ (quoteTail s ++ rest) := by
      simp only [quoteTail, List.flatMap_cons, List.append_assoc]
    rw [e, unquote_escape, ih]
    rfl

/-- What can follow a value inside a text. -/
def Ends (rest : List Char) : Prop := ∀ c ∈ rest.head?, c = ',' ∨ c = ']' ∨ c = '\x7d'

theorem Ends.not_digit {rest : List Char} (h : Ends rest) {c : Char} (hc : c ∈ rest.head?) :
    c.isDigit = false := by
  rcases h c hc with rfl | rfl | rfl <;> decide

theorem Ends.not_continues {rest : List Char} (h : Ends rest) : continues rest = false := by
  cases rest with
  | nil => rfl
  | cons c rest =>
    rcases h c rfl with rfl | rfl | rfl <;> rfl

theorem digits_toDigits (n : Nat) {rest : List Char} (h : Ends rest) :
    digits (Nat.toDigits 10 n ++ rest) = some (n, rest) := by
  by_cases hn : n = 0
  · subst hn; rfl
  have hd : ∀ c ∈ Nat.toDigits 10 n, c.isDigit = true := fun c hc =>
    Nat.isDigit_of_mem_toDigits (by decide) (by decide) hc
  have hrest : rest.takeWhile Char.isDigit = [] ∧ rest.dropWhile Char.isDigit = rest := by
    cases rest with
    | nil => exact ⟨rfl, rfl⟩
    | cons c rest =>
      have := h.not_digit (c := c) rfl
      simp [this]
  have hne : Nat.toDigits 10 n ≠ [] := Nat.toDigits_ne_nil
  have h0 : ∀ s, Nat.toDigits 10 n ++ rest ≠ '0' :: s := fun s e => by
    have hh := Text.toDigits_head (Nat.pos_of_ne_zero hn)
    cases hl : Nat.toDigits 10 n with
    | nil => exact hne hl
    | cons c l =>
      rw [hl] at e hh
      exact hh (congrArg some (List.cons.inj e).1)
  rw [digits]
  · simp only [List.takeWhile_append_of_pos hd, List.dropWhile_append_of_pos hd, hrest.1, hrest.2,
      List.append_nil, if_neg hne, Nat.ofDigitChars_ten_toDigits]
  · exact fun s => h0 s

theorem value_int (n : Int) {fuel : Nat} {rest : List Char} (h : Ends rest) :
    value (fuel + 1) (intChars n ++ rest) = some (.int n, rest) := by
  cases n with
  | ofNat n =>
    cases hl : Nat.toDigits 10 n with
    | nil => exact absurd hl Nat.toDigits_ne_nil
    | cons c l =>
      have hd : c.isDigit = true :=
        Nat.isDigit_of_mem_toDigits (b := 10) (n := n) (by decide) (by decide) (hl ▸ List.mem_cons_self ..)
      have hm : c ≠ '-' := by rintro rfl; revert hd; decide
      have hb : isBlank c = false := by
        simp only [isBlank, Bool.or_eq_false_iff, beq_eq_false_iff_ne]
        refine ⟨⟨⟨?_, ?_⟩, ?_⟩, ?_⟩ <;> rintro rfl <;> revert hd <;> decide
      have hn := digits_toDigits n h
      rw [hl] at hn
      have hs : startsNumber (c :: (l ++ rest)) = true := by simp [startsNumber, hd]
      rw [value, intChars, hl, List.cons_append, skip_cons hb, if_pos hs, number]
      · rw [List.cons_append] at hn
        simp [hn, h.not_continues]
      · intro s e
        exact hm (List.cons.inj e).1
  | negSucc n =>
    have hn := digits_toDigits (n + 1) h
    rw [value, intChars, List.cons_append, skip_cons (by decide), if_pos (by rfl), number]
    simp [hn, h.not_continues, Int.negSucc_eq]

mutual

/-- The keys of every `dict` in it are in order. -/
def Sorted : Json → Prop
  | .arr js => SortedItems js
  | .dict fs => SortedFields fs
  | _ => True

def SortedItems : List Json → Prop
  | [] => True
  | j :: js => Sorted j ∧ SortedItems js

def SortedFields : List (String × Json) → Prop
  | [] => True
  | f :: fs => (∀ g ∈ fs, f.1 < g.1) ∧ SortedField f ∧ SortedFields fs

def SortedField : String × Json → Prop
  | (_, j) => Sorted j

end

theorem dumps_head (j : Json) : ∃ c s, dumps j = c :: s ∧ isBlank c = false ∧ c ≠ ']' := by
  have hdigit : ∀ c : Char, c.isDigit = true → isBlank c = false ∧ c ≠ ']' := fun c h => by
    simp only [isBlank, Bool.or_eq_false_iff, beq_eq_false_iff_ne]
    refine ⟨⟨⟨⟨?_, ?_⟩, ?_⟩, ?_⟩, ?_⟩ <;> rintro rfl <;> revert h <;> decide
  match j with
  | .null => exact ⟨_, _, rfl, by decide⟩
  | .bool true => exact ⟨_, _, rfl, by decide⟩
  | .bool false => exact ⟨_, _, rfl, by decide⟩
  | .int (.ofNat n) =>
    cases hl : Nat.toDigits 10 n with
    | nil => exact absurd hl Nat.toDigits_ne_nil
    | cons c l =>
      exact ⟨c, l, by rw [dumps, intChars, hl], hdigit c
        (Nat.isDigit_of_mem_toDigits (b := 10) (n := n) (by decide) (by decide) (hl ▸ List.mem_cons_self ..))⟩
  | .int (.negSucc n) => exact ⟨_, _, by rw [dumps, intChars], by decide⟩
  | .str s => exact ⟨_, _, by rw [dumps, quote], by decide⟩
  | .arr [] => exact ⟨_, _, rfl, by decide⟩
  | .arr (j :: js) => exact ⟨_, _, by rw [dumps], by decide⟩
  | .dict [] => exact ⟨_, _, rfl, by decide⟩
  | .dict (f :: fs) => exact ⟨_, _, by rw [dumps], by decide⟩

theorem quote_append (s : String) (rest : List Char) :
    quote s ++ rest = '"' :: (quoteTail s.toList ++ rest) := by
  rw [quote, Text.chars_eq, List.cons_append]

/-- How the characters of a text are written: ASCII as it is, and a literal so that it reads back. -/
structure Transparent (g : Char → List Char) : Prop where
  ascii : ∀ c : Char, c.toNat < 0x7f → g c = [c]
  literal : ∀ c s, unquote ((escape c).flatMap g ++ s) = push c (unquote s)
  pos : ∀ c, 0 < (g c).length

theorem transparent_singleton : Transparent fun c => [c] where
  ascii _ _ := rfl
  literal c s := by rw [List.flatMap_singleton', unquote_escape]
  pos _ := Nat.zero_lt_one

section Transparent

variable {g : Char → List Char} (hg : Transparent g)

include hg

theorem Transparent.flatMap_eq {s : List Char} (h : s.all fun c => decide (c.toNat < 0x7f)) : s.flatMap g = s := by
  induction s with
  | nil => rfl
  | cons c s ih =>
    simp only [List.all_cons, Bool.and_eq_true, decide_eq_true_eq] at h
    rw [List.flatMap_cons, hg.ascii c h.1, ih h.2]
    rfl

theorem Transparent.flatMap_cons {c : Char} (h : c.toNat < 0x7f) (s : List Char) : (c :: s).flatMap g = c :: s.flatMap g := by
  rw [List.flatMap_cons, hg.ascii c h]
  rfl

theorem Transparent.length_le (s : List Char) : s.length ≤ (s.flatMap g).length := by
  induction s with
  | nil => exact Nat.le_refl 0
  | cons c s ih =>
    have := hg.pos c
    rw [List.flatMap_cons, List.length_append, List.length_cons]
    omega

theorem flatMap_quote (s : String) (rest : List Char) :
    (quote s).flatMap g ++ rest = '"' :: ((quoteTail s.toList).flatMap g ++ rest) := by
  rw [quote, Text.chars_eq, hg.flatMap_cons (by decide), List.cons_append]

theorem unquote_flatMap (s rest : List Char) : unquote ((quoteTail s).flatMap g ++ rest) = some (s, rest) := by
  induction s with
  | nil =>
    rw [quoteTail, List.flatMap_nil, List.nil_append, hg.flatMap_cons (by decide)]
    rfl
  | cons c s ih =>
    have e : (quoteTail (c :: s)).flatMap g ++ rest = (escape c).flatMap g ++ ((quoteTail s).flatMap g ++ rest) := by
      simp only [quoteTail, List.flatMap_cons, List.flatMap_append, List.append_assoc]
    rw [e, hg.literal, ih]
    rfl

theorem flatMap_int (n : Int) : (intChars n).flatMap g = intChars n := by
  have hd : ∀ m, (Nat.toDigits 10 m).all fun c => decide (c.toNat < 0x7f) := by
    intro m
    rw [List.all_eq_true]
    intro c hc
    have h := Nat.isDigit_of_mem_toDigits (b := 10) (n := m) (by decide) (by decide) hc
    simp only [Char.isDigit, Bool.and_eq_true, decide_eq_true_eq] at h
    have hle : c.toNat ≤ '9'.toNat := h.2
    exact decide_eq_true (Nat.lt_of_le_of_lt hle (by decide))
  cases n with
  | ofNat n => exact hg.flatMap_eq (hd n)
  | negSucc n => rw [intChars, hg.flatMap_cons (by decide), hg.flatMap_eq (hd (n + 1))]

theorem flatMap_head (j : Json) : ∃ c s, (dumps j).flatMap g = c :: s ∧ isBlank c = false ∧ c ≠ ']' := by
  match j with
  | .null => exact ⟨'n', _, hg.flatMap_cons (by decide) _, by decide⟩
  | .bool true => exact ⟨'t', _, hg.flatMap_cons (by decide) _, by decide⟩
  | .bool false => exact ⟨'f', _, hg.flatMap_cons (by decide) _, by decide⟩
  | .int n =>
    have he : (dumps (.int n)).flatMap g = dumps (.int n) := by
      rw [dumps, flatMap_int hg]
    rw [he]
    exact dumps_head (.int n)
  | .str s => exact ⟨'"', _, by rw [dumps, quote]; exact hg.flatMap_cons (by decide) _, by decide⟩
  | .arr [] => exact ⟨'[', _, hg.flatMap_cons (by decide) _, by decide⟩
  | .arr (j :: js) => exact ⟨'[', _, by rw [dumps]; exact hg.flatMap_cons (by decide) _, by decide⟩
  | .dict [] => exact ⟨'\x7b', _, hg.flatMap_cons (by decide) _, by decide⟩
  | .dict (f :: fs) => exact ⟨'\x7b', _, by rw [dumps]; exact hg.flatMap_cons (by decide) _, by decide⟩

theorem skip_flatMap (j : Json) (s : List Char) : skip ((dumps j).flatMap g ++ s) = (dumps j).flatMap g ++ s := by
  obtain ⟨c, t, e, hc, -⟩ := flatMap_head hg j
  rw [e, List.cons_append, skip_cons hc]

/-- With enough fuel the value that was written is the one that is read. -/
def Reads (g : Char → List Char) (j : Json) : Prop :=
  ∀ fuel rest, (dumps j).length ≤ fuel → Ends rest → value fuel ((dumps j).flatMap g ++ rest) = some (j, rest)

omit hg in
theorem Reads.of_succ {j : Json} (h : ∀ fuel rest, (dumps j).length ≤ fuel + 1 → Ends rest →
    value (fuel + 1) ((dumps j).flatMap g ++ rest) = some (j, rest)) : Reads g j := by
  intro fuel rest hf hr
  obtain ⟨c, s, e, -⟩ := dumps_head j
  cases fuel with
  | zero => rw [e] at hf; simp at hf
  | succ fuel => exact h fuel rest hf hr

/-- A value whose text is ASCII. -/
theorem Reads.of_ascii {j : Json} (h : (dumps j).all fun c => decide (c.toNat < 0x7f))
    (hv : ∀ fuel rest, Ends rest → value (fuel + 1) (dumps j ++ rest) = some (j, rest)) : Reads g j :=
  .of_succ fun fuel rest _ hr => by rw [hg.flatMap_eq h, hv fuel rest hr]

theorem value_items {j : Json} {js : List Json} {fuel : Nat} {rest : List Char}
    (h : items fuel ((dumps j).flatMap g ++ ((dumpsItems js).flatMap g ++ rest)) = some (j :: js, rest)) :
    value (fuel + 1) ((dumps (.arr (j :: js))).flatMap g ++ rest) = some (.arr (j :: js), rest) := by
  obtain ⟨c, s, e, -, hc⟩ := flatMap_head hg j
  have ht : (dumps (.arr (j :: js))).flatMap g ++ rest =
      '[' :: ((dumps j).flatMap g ++ ((dumpsItems js).flatMap g ++ rest)) := by
    rw [dumps, hg.flatMap_cons (by decide), List.flatMap_append, List.cons_append, List.append_assoc]
  rw [ht, value, skip_cons (by decide), if_neg (by simp [startsNumber])]
  simp only [skip_flatMap hg]
  split
  · rename_i heq
    rw [e] at heq
    exact absurd (List.cons.inj heq).1 hc
  · rw [h]; rfl

omit hg in
theorem flatMap_field (k : String) (j : Json) (s : List Char) :
    (dumpsField (k, j)).flatMap g ++ s = (quote k).flatMap g ++ ((':' :: dumps j).flatMap g ++ s) := by
  rw [dumpsField, List.flatMap_append, List.append_assoc]

theorem value_fields {f : String × Json} {fs : List (String × Json)} {fuel : Nat} {rest : List Char}
    (h : fields fuel ((dumpsField f).flatMap g ++ ((dumpsFields fs).flatMap g ++ rest)) = some (f :: fs, rest)) :
    value (fuel + 1) ((dumps (.dict (f :: fs))).flatMap g ++ rest) = some (.dict (f :: fs), rest) := by
  obtain ⟨k, j⟩ := f
  have ht : (dumps (.dict ((k, j) :: fs))).flatMap g ++ rest =
      '\x7b' :: ((dumpsField (k, j)).flatMap g ++ ((dumpsFields fs).flatMap g ++ rest)) := by
    rw [dumps, hg.flatMap_cons (by decide), List.flatMap_append, List.cons_append, List.append_assoc]
  rw [ht, value, skip_cons (by decide), if_neg (by simp [startsNumber])]
  rw [flatMap_field, flatMap_quote hg] at h ⊢
  simp only [skip_cons (show isBlank '"' = false by decide)]
  exact congrArg (Option.map fun r => (dict r.1, r.2)) h

theorem ends_items (js : List Json) (rest : List Char) : Ends ((dumpsItems js).flatMap g ++ rest) := by
  intro c hc
  cases js with
  | nil =>
    rw [dumpsItems, hg.flatMap_cons (by decide)] at hc
    cases hc
    simp
  | cons j js =>
    rw [dumpsItems, hg.flatMap_cons (by decide)] at hc
    cases hc
    simp

theorem ends_fields (fs : List (String × Json)) (rest : List Char) : Ends ((dumpsFields fs).flatMap g ++ rest) := by
  intro c hc
  cases fs with
  | nil =>
    rw [dumpsFields, hg.flatMap_cons (by decide)] at hc
    cases hc
    simp
  | cons f fs =>
    rw [dumpsFields, hg.flatMap_cons (by decide)] at hc
    cases hc
    simp

omit hg in
theorem insert_of_lt {k : String} {j : Json} {fs : List (String × Json)} (h : ∀ g ∈ fs, k < g.1) :
    insert k j fs = (k, j) :: fs := by
  cases fs with
  | nil => rfl
  | cons g fs => rw [insert, if_pos (Text.before_iff.mpr (h g (List.mem_cons_self ..)))]

mutual

theorem reads : ∀ j, Sorted j → Reads g j
  | .null, _ => .of_ascii hg (by decide) fun _ _ _ => rfl
  | .bool true, _ => .of_ascii hg (by decide) fun _ _ _ => rfl
  | .bool false, _ => .of_ascii hg (by decide) fun _ _ _ => rfl
  | .int n, _ => .of_succ fun fuel rest _ hr => by
    rw [dumps, flatMap_int hg]
    exact value_int n hr
  | .str s, _ => .of_succ fun fuel rest _ _ => by
    rw [dumps, flatMap_quote hg, value, skip_cons (by decide), if_neg (by simp [startsNumber])]
    simp only [unquote_flatMap hg, Option.map_some, String.ofList_toList]
  | .arr [], _ => .of_ascii hg (by decide) fun _ _ _ => rfl
  | .arr (j :: js), h => .of_succ fun fuel rest hf _ =>
    value_items hg (reads_items js h.2 j (reads j h.1) fuel rest (by rw [dumps] at hf; simpa using hf))
  | .dict [], _ => .of_ascii hg (by decide) fun _ _ _ => rfl
  | .dict (f :: fs), h => .of_succ fun fuel rest hf _ =>
    value_fields hg (reads_fields fs h.2.2 f.1 f.2 (reads_field f h.2.1) h.1 fuel rest
      (by rw [dumps] at hf; simpa using hf))

theorem reads_items : ∀ js, SortedItems js → ∀ j, Reads g j → ∀ fuel rest,
    (dumps j ++ dumpsItems js).length ≤ fuel →
      items fuel ((dumps j).flatMap g ++ ((dumpsItems js).flatMap g ++ rest)) = some (j :: js, rest)
  | [], _ => fun j hj fuel rest hf => by
    cases fuel with
    | zero => simp [dumpsItems] at hf
    | succ fuel =>
      have hl : (dumps j).length ≤ fuel := by simpa [dumpsItems] using hf
      rw [items, hj fuel _ hl (ends_items hg [] rest), dumpsItems, hg.flatMap_cons (by decide)]
      rfl
  | j' :: js, h => fun j hj fuel rest hf => by
    have hnext := reads_items js h.2 j' (reads j' h.1)
    cases fuel with
    | zero => simp [dumpsItems] at hf
    | succ fuel =>
      simp only [dumpsItems, List.length_append, List.length_cons] at hf
      rw [items, hj fuel _ (by omega) (ends_items hg (j' :: js) rest), dumpsItems, hg.flatMap_cons (by decide),
        List.flatMap_append, List.cons_append, List.append_assoc]
      simp only [skip_cons (show isBlank ',' = false by decide),
        hnext fuel rest (by rw [List.length_append]; omega), Option.map_some]

theorem reads_fields : ∀ fs, SortedFields fs → ∀ k j, Reads g j → (∀ f ∈ fs, k < f.1) → ∀ fuel rest,
    (dumpsField (k, j) ++ dumpsFields fs).length ≤ fuel →
      fields fuel ((dumpsField (k, j)).flatMap g ++ ((dumpsFields fs).flatMap g ++ rest)) = some ((k, j) :: fs, rest)
  | [], _ => fun k j hj _ fuel rest hf => by
    cases fuel with
    | zero => simp [dumpsFields] at hf
    | succ fuel =>
      simp only [dumpsField, dumpsFields, List.length_append, List.length_cons, List.length_nil] at hf
      rw [fields, flatMap_field, flatMap_quote hg, skip_cons (by decide)]
      simp only [unquote_flatMap hg, hg.flatMap_cons (show ':'.toNat < 0x7f by decide), List.cons_append,
        skip_cons (show isBlank ':' = false by decide), hj fuel _ (by omega) (ends_fields hg [] rest), String.ofList_toList]
      rw [dumpsFields, hg.flatMap_cons (by decide)]
      rfl
  | (k', j') :: fs, h => fun k j hj hlt fuel rest hf => by
    have hnext := reads_fields fs h.2.2 k' j' (reads_field (k', j') h.2.1) h.1
    cases fuel with
    | zero => simp [dumpsFields] at hf
    | succ fuel =>
      simp only [dumpsField, dumpsFields, List.length_append, List.length_cons] at hf
      rw [fields, flatMap_field, flatMap_quote hg, skip_cons (by decide)]
      simp only [unquote_flatMap hg, hg.flatMap_cons (show ':'.toNat < 0x7f by decide), List.cons_append,
        skip_cons (show isBlank ':' = false by decide), hj fuel _ (by omega) (ends_fields hg ((k', j') :: fs) rest),
        String.ofList_toList]
      rw [dumpsFields, hg.flatMap_cons (by decide), List.flatMap_append, List.cons_append, List.append_assoc]
      simp only [skip_cons (show isBlank ',' = false by decide),
        hnext fuel rest (by simp only [dumpsField, List.length_append, List.length_cons]; omega),
        Option.map_some, insert_of_lt hlt]

theorem reads_field : ∀ f, SortedField f → Reads g f.2
  | (_, j), h => reads j h

end

/-- What is written reads back, however its literals are. -/
theorem loads_flatMap {j : Json} (h : Sorted j) : loads ((dumps j).flatMap g) = some j := by
  have hl := hg.length_le (dumps j)
  have hr := reads hg j h (((dumps j).flatMap g).length + 1) [] (by omega) (fun c hc => by cases hc)
  rw [List.append_nil] at hr
  rw [loads, hr]
  rfl

end Transparent

/-- `json.loads(json.dumps(j)) == j`. -/
theorem loads_dumps {j : Json} (h : Sorted j) : loads (dumps j) = some j := by
  have hl := loads_flatMap transparent_singleton h
  rwa [List.flatMap_singleton'] at hl

/-! ## `dict` displays -/

theorem mem_insert {k : String} {j : Json} {fs : List (String × Json)} {g : String × Json}
    (h : g ∈ insert k j fs) : g = (k, j) ∨ g ∈ fs := by
  induction fs with
  | nil => exact Or.inl (List.mem_singleton.mp h)
  | cons f fs ih =>
    simp only [insert, Text.before_iff] at h
    split at h
    · exact List.mem_cons.mp h
    · split at h
      · exact Or.inr h
      · rcases List.mem_cons.mp h with h | h
        · exact Or.inr (h ▸ List.mem_cons_self ..)
        · exact (ih h).imp_right (List.mem_cons_of_mem _)

theorem sortedFields_insert {k : String} {j : Json} {fs : List (String × Json)} (hj : Sorted j)
    (h : SortedFields fs) : SortedFields (insert k j fs) := by
  induction fs with
  | nil => exact ⟨fun _ hg => absurd hg List.not_mem_nil, hj, trivial⟩
  | cons f fs ih =>
    obtain ⟨hlt, hf, hfs⟩ := h
    simp only [insert, Text.before_iff]
    split
    · rename_i hk
      refine ⟨fun g hg => ?_, hj, hlt, hf, hfs⟩
      rcases List.mem_cons.mp hg with rfl | hg
      · exact hk
      · exact String.lt_trans hk (hlt g hg)
    · split
      · exact ⟨hlt, hf, hfs⟩
      · rename_i hk hne
        refine ⟨fun g hg => ?_, hf, ih hfs⟩
        rcases mem_insert hg with rfl | hg
        · exact lt_of_le_of_ne (not_lt.mp hk) (Ne.symm hne)
        · exact hlt g hg

theorem sortedFields_display {fs : List (String × Json)} (h : ∀ f ∈ fs, Sorted f.2) :
    SortedFields (display fs) := by
  induction fs with
  | nil => trivial
  | cons f fs ih =>
    exact sortedFields_insert (h f (List.mem_cons_self ..)) (ih fun g hg => h g (List.mem_cons_of_mem _ hg))

/-- A `dict` display of sorted values is sorted. -/
theorem sorted_obj {fs : List (String × Json)} (h : ∀ f ∈ fs, Sorted f.2) : Sorted (obj fs) :=
  sortedFields_display h

theorem sorted_null : Sorted .null := trivial
theorem sorted_bool (b : Bool) : Sorted (.bool b) := trivial
theorem sorted_int (n : Int) : Sorted (.int n) := trivial
theorem sorted_str (s : String) : Sorted (.str s) := trivial

theorem sorted_arr {l : List Json} (h : ∀ j ∈ l, Sorted j) : Sorted (.arr l) := by
  show SortedItems l
  induction l with
  | nil => trivial
  | cons j l ih => exact ⟨h j (List.mem_cons_self ..), ih fun x hx => h x (List.mem_cons_of_mem _ hx)⟩

attribute [irreducible] Sorted

theorem find?_insert_self {k : String} {j : Json} {fs : List (String × Json)} (h : ∀ g ∈ fs, g.1 ≠ k) :
    find? k (insert k j fs) = some j := by
  induction fs with
  | nil => simp [insert, find?]
  | cons f fs ih =>
    have hf := h f (List.mem_cons_self ..)
    have hi := ih fun g hg => h g (List.mem_cons_of_mem _ hg)
    simp only [insert, Text.before_iff]
    split
    · simp [find?]
    · rw [if_neg (Ne.symm hf)]
      simpa [find?, hf] using hi

theorem find?_insert_ne {k k' : String} {j : Json} {fs : List (String × Json)} (h : k ≠ k') :
    find? k' (insert k j fs) = find? k' fs := by
  induction fs with
  | nil => simp [insert, find?, h]
  | cons f fs ih =>
    simp only [insert, Text.before_iff]
    split
    · simp [find?, h]
    · split
      · rfl
      · by_cases hf : f.1 = k'
        · simp [find?, hf]
        · simpa [find?, hf] using ih

theorem mem_display {fs : List (String × Json)} {f : String × Json} (h : f ∈ display fs) : f ∈ fs := by
  induction fs with
  | nil => cases h
  | cons g fs ih =>
    rcases mem_insert h with rfl | h
    · exact List.mem_cons_self ..
    · exact List.mem_cons_of_mem _ (ih h)

/-- The value of a key of a `dict` display. -/
theorem get?_obj {fs : List (String × Json)} {k : String} {j : Json} (hn : (fs.map Prod.fst).Nodup)
    (h : (k, j) ∈ fs) : get? k (obj fs) = some j := by
  show find? k (display fs) = some j
  induction fs with
  | nil => cases h
  | cons f fs ih =>
    rw [List.map_cons, List.nodup_cons] at hn
    rcases List.mem_cons.mp h with rfl | h
    · exact find?_insert_self fun g hg e => hn.1 (List.mem_map.mpr ⟨g, mem_display hg, e⟩)
    · have hne : f.1 ≠ k := fun e => hn.1 (List.mem_map.mpr ⟨(k, j), h, e.symm⟩)
      exact (find?_insert_ne hne).trans (ih hn.2 h)

theorem filter_insert {k k' : String} {j : Json} {fs : List (String × Json)} (hk : k' ≠ k)
    (h : SortedFields fs) :
    (insert k' j fs).filter (fun f => f.1 ≠ k) = insert k' j (fs.filter fun f => f.1 ≠ k) := by
  induction fs with
  | nil => simp [insert, hk]
  | cons f fs ih =>
    obtain ⟨hlt, -, hfs⟩ := h
    simp only [insert, Text.before_iff]
    split
    · rename_i hf
      have hall : ∀ g ∈ (f :: fs).filter (fun f => f.1 ≠ k), k' < g.1 := by
        intro g hg
        rcases List.mem_cons.mp (List.mem_of_mem_filter hg) with rfl | hg
        · exact hf
        · exact String.lt_trans hf (hlt g hg)
      rw [insert_of_lt hall, List.filter_cons_of_pos (by simpa using hk)]
    · split
      · rename_i hf he
        rw [List.filter_cons_of_pos (by simpa [← he] using hk), insert, if_neg (mt Text.before_iff.mp hf), if_pos he]
      · rename_i hf he
        by_cases hfk : f.1 = k
        · rw [List.filter_cons_of_neg (by simpa using hfk), List.filter_cons_of_neg (by simpa using hfk), ih hfs]
        · rw [List.filter_cons_of_pos (by simpa using hfk), List.filter_cons_of_pos (by simpa using hfk), insert,
            if_neg (mt Text.before_iff.mp hf), if_neg he, ih hfs]

/-- `del body[k]` of a key that was set last. -/
theorem filter_display {fs : List (String × Json)} {k : String} {j : Json} (hk : k ∉ fs.map Prod.fst)
    (hs : ∀ f ∈ fs, Sorted f.2) (hj : Sorted j) :
    (display (fs ++ [(k, j)])).filter (fun f => f.1 ≠ k) = display fs := by
  induction fs with
  | nil => simp [display, insert]
  | cons f fs ih =>
    rw [List.map_cons, List.mem_cons, not_or] at hk
    have hs' : ∀ g ∈ fs, Sorted g.2 := fun g hg => hs g (List.mem_cons_of_mem _ hg)
    have hsorted : SortedFields (display (fs ++ [(k, j)])) := sortedFields_display fun g hg => by
      rcases List.mem_append.mp hg with hg | hg
      · exact hs' g hg
      · rw [List.mem_singleton.mp hg]; exact hj
    rw [List.cons_append, display, filter_insert (Ne.symm hk.1) hsorted, ih hk.2 hs', display]

end Json

end ATB
