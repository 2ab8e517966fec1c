import AutomatedTradingBot.Framework.Json
import AutomatedTradingBot.Source.Domain

/-!
# Canonical JSON and digests

`canonical_json` of `datasets/provenance.py`, and the identities that are hashes
of it. Two functions of Python's library are parameters: whether a text is in
normal form C, and SHA-256 of the UTF-8 bytes of a text, as a number. Nothing is
assumed of either.
-/

namespace ATB

structure Platform where
  /-- `unicodedata.normalize("NFC", value) == value`. -/
  isNfc : String → Bool
  /-- `sha256(text.encode("utf-8"))`. -/
  sha256 : List Char → Fin (2 ^ 256)

namespace Platform

variable (py : Platform)

/-- `_text`. -/
def text (name value : String) : Outcome Unit := do
  raiseIf (value = "" ∨ Text.strip (Text.chars value) ≠ Text.chars value)
    ⟨.valueError, name ++ " must be nonempty and unpadded"⟩
  raiseIf (¬ py.isNfc value) ⟨.valueError, name ++ " must already be NFC-normalized"⟩

mutual

/-- `_canonical_value`: the value itself is returned. -/
def canonicalValue : Json → Outcome Unit
  | .null | .bool _ | .int _ => pure ()
  | .str s => py.text "canonical string" s
  | .arr items => canonicalItems items
  | .dict fields => canonicalFields fields

def canonicalItems : List Json → Outcome Unit
  | [] => pure ()
  | j :: js => do canonicalValue j; canonicalItems js

def canonicalFields : List (String × Json) → Outcome Unit
  | [] => pure ()
  | f :: fs => do canonicalField f; canonicalFields fs

def canonicalField : String × Json → Outcome Unit
  | (k, j) => do py.text "object key" k; canonicalValue j

end

/-- `canonical_json(value)`, as text. -/
def canonicalJson (j : Json) : Outcome (List Char) := do
  py.canonicalValue j
  return j.dumps

/-- `sha256(text).hexdigest()`. -/
def hexdigest (text : List Char) : String := String.ofList (Uuid.hexChars 64 (py.sha256 text))

/-- `_digest(domain, body)`. -/
def digest (domain : String) (body : Json) : Outcome String := do
  let text ← py.canonicalJson body
  return "sha256:" ++ py.hexdigest (Text.chars domain ++ Char.ofNat 0 :: text)

/-- `_uuid(body)`: the first half of the hash with the version and variant bits set. -/
def uuid (body : Json) : Outcome Uuid := do
  let text ← py.canonicalJson body
  let raw := (py.sha256 text).val / 2 ^ 128
  let raw := raw - raw / 2 ^ 76 % 16 * 2 ^ 76 + 5 * 2 ^ 76
  let raw := raw - raw / 2 ^ 62 % 4 * 2 ^ 62 + 2 * 2 ^ 62
  return .ofInt raw

theorem canonicalJson_eq_ok {j : Json} {text : List Char} :
    py.canonicalJson j = .ok text ↔ py.canonicalValue j = .ok () ∧ j.dumps = text := by
  simp only [canonicalJson, bind_eq_ok, pure_eq_ok]
  constructor
  · rintro ⟨⟨⟩, h⟩
    exact h
  · intro h
    exact ⟨(), h⟩

end Platform

end ATB
