import Mathlib
import AutomatedTradingBot.Framework.Json
import AutomatedTradingBot.Source.Provenance

/-!
# Canonical identity bytes

`canonical_bytes` and `parse_canonical` of `stage5/identity_scope.py`, with the
bounded parser `_BoundedJSON`. The request budget does not expire. A `dict` is the
list of its items in the order in which they were put in; Python texts with
surrogates, which both directions refuse, are not texts here. What neither of the
two accepts, a `float` above all, is `other`. An error is the message of the
`IdentityScopeError` that is raised.
-/

namespace ATB.Stage5.IdentityScope

/-- A Python value; a key that is not a `str` is `none`. -/
inductive Value where
  | none
  | bool (b : Bool)
  | int (n : Int)
  | str (s : String)
  | list (items : List Value)
  | tuple (items : List Value)
  | dict (fields : List (Option String × Value))
  | other

def maxCanonicalBytes : Nat := 1048576
def maxDepth : Nat := 16
def maxCollection : Nat := 256
def maxNodes : Nat := 4096
def maxStringBytes : Nat := 65536

/-- `sys.int_info.default_max_str_digits`: longer integers are neither written nor read. -/
def maxStrDigits : Nat := 4300

def nodesError : String := "INPUT_LIMIT: JSON nodes"
def depthError : String := "INPUT_LIMIT: container depth"
def collectionError : String := "INPUT_LIMIT: collection"
def stringError : String := "INPUT_LIMIT: decoded string"
def bytesError : String := "INPUT_LIMIT: canonical bytes"

/-! ## Encoding -/

/-- An entry of the stack of `_canonical_value`: item, depth, and whether it may be negative. -/
abbrev StackEntry : Type := Value × Nat × Bool

/-- The items of a `dict` put on the stack. -/
def pushFields (depth : Nat) (negative : Bool) :
    List (Option String × Value) → List StackEntry → Except String (List StackEntry)
  | [], stack => .ok stack
  | (.none, _) :: _, _ => .error "non-string object key"
  | (some key, child) :: fields, stack =>
    pushFields depth negative fields
      ((child, depth + 1, negative || key == "immutable_business_parameters") :: (.str key, depth + 1, false) :: stack)

/-- The loop of `_canonical_value`, with the number of nodes that it may still visit. -/
def canonicalLoop (py : Platform) : Nat → List StackEntry → Except String Unit
  | _, [] => .ok ()
  | 0, _ :: _ => .error nodesError
  | budget + 1, (item, depth, negative) :: stack =>
    match item with
    | .none | .bool _ => canonicalLoop py budget stack
    | .int n => if n < 0 ∧ negative = false then .error "negative canonical integer" else canonicalLoop py budget stack
    | .str s =>
      if py.isNfc s = false then .error "non-NFC or surrogate text"
      else if maxStringBytes < s.utf8ByteSize then .error stringError
      else canonicalLoop py budget stack
    | .list items | .tuple items =>
      if maxDepth ≤ depth then .error depthError
      else if maxCollection < items.length then .error collectionError
      else canonicalLoop py budget ((items.map fun child => (child, depth + 1, negative)).reverse ++ stack)
    | .dict fields =>
      if maxDepth ≤ depth then .error depthError
      else if maxCollection < fields.length then .error collectionError
      else do
        let stack ← pushFields depth negative fields stack
        canonicalLoop py budget stack
    | .other => .error "unsupported canonical type; floating point forbidden"

/-- `_canonical_value(value)`. -/
def canonicalValue (py : Platform) (v : Value) : Except String Unit := canonicalLoop py maxNodes [(v, 0, false)]

/-- `sorted(dct.items())`. -/
def sortFields (fields : List (Option String × Value)) : List (Option String × Value) :=
  fields.insertionSort fun f g => f.1.getD "" ≤ g.1.getD ""

mutual

/-- The value with the items of every `dict` sorted. -/
def normal : Value → Value
  | .none => .none
  | .bool b => .bool b
  | .int n => .int n
  | .str s => .str s
  | .list items => .list (normalItems items)
  | .tuple items => .tuple (normalItems items)
  | .dict fields => .dict (sortFields (normalFields fields))
  | .other => .other

def normalItems : List Value → List Value
  | [] => []
  | v :: vs => normal v :: normalItems vs

def normalFields : List (Option String × Value) → List (Option String × Value)
  | [] => []
  | f :: fs => normalField f :: normalFields fs

def normalField : Option String × Value → Option String × Value
  | (k, v) => (k, normal v)

end

/-- `int.__repr__`. -/
def intRepr (n : Int) : Option (List Char) :=
  if (Nat.toDigits 10 n.natAbs).length ≤ maxStrDigits then some (Json.intChars n) else .none

mutual

/-- `JSONEncoder.iterencode`, with the items of every `dict` already sorted: the chunks, and
`none` where it raises. An item of a list comes in one chunk with what stands before it. -/
def iterencode (buf : List Char) : Value → List (Option (List Char))
  | .none => [some (buf ++ Json.dumps .null)]
  | .bool b => [some (buf ++ Json.dumps (.bool b))]
  | .int n => [(intRepr n).map (buf ++ ·)]
  | .str s => [some (buf ++ Json.quote s)]
  | .list items => some buf :: iterencodeList items
  | .tuple items => some buf :: iterencodeList items
  | .dict fields => some buf :: iterencodeDict fields
  | .other => [.none]

def iterencodeList : List Value → List (Option (List Char))
  | [] => [some ['[', ']']]
  | v :: vs => iterencode ['['] v ++ iterencodeItems vs

/-- The items after the first. -/
def iterencodeItems : List Value → List (Option (List Char))
  | [] => [some [']']]
  | v :: vs => iterencode [','] v ++ iterencodeItems vs

def iterencodeDict : List (Option String × Value) → List (Option (List Char))
  | [] => [some ['\x7b', '\x7d']]
  | f :: fs => some ['\x7b'] :: (iterencodeField f ++ iterencodeFields fs)

/-- The fields after the first. -/
def iterencodeFields : List (Option String × Value) → List (Option (List Char))
  | [] => [some ['\x7d']]
  | f :: fs => some [','] :: (iterencodeField f ++ iterencodeFields fs)

def iterencodeField : Option String × Value → List (Option (List Char))
  | (some key, v) => some (Json.quote key) :: some [':'] :: iterencode [] v
  | (.none, _) => [.none]

end

/-- The chunks put together while they are no longer than `maxCanonicalBytes`. -/
def join : Nat → List (Option (List Char)) → Except String (List Char)
  | _, [] => .ok []
  | _, .none :: _ => .error "INPUT_INVALID: canonical encoding"
  | size, some chunk :: chunks =>
    let size := size + (String.ofList chunk).utf8ByteSize
    if maxCanonicalBytes < size then .error bytesError
    else (join size chunks).map (chunk ++ ·)

def canonicalBytes (py : Platform) (v : Value) : Except String ByteArray := do
  canonicalValue py v
  let text ← join 0 (iterencode [] (normal v))
  return (String.ofList text).toByteArray

/-! ## Decoding -/

def invalidJson : String := "INPUT_INVALID: canonical JSON"

/-- The rest of a number after a fraction, if there is one. -/
def fraction : List Char → Option (List Char)
  | '.' :: d :: s => if d.isDigit then some (s.dropWhile Char.isDigit) else .none
  | _ => .none

/-- The rest of a number after an exponent, if there is one. -/
def exponent : List Char → Option (List Char)
  | e :: s =>
    let s := if s.head? = some '+' ∨ s.head? = some '-' then s.tail else s
    if (e = 'e' ∨ e = 'E') ∧ (s.head?.any Char.isDigit) then some (s.dropWhile Char.isDigit) else .none
  | [] => .none

/-- The rest of a number from its digits on: an `int`, or a `float`. -/
def unsigned (negative : Bool) (s : List Char) : Option (Value × List Char) := do
  let (n, s) ← Json.digits s
  match fraction s with
  | some s => return (.other, (exponent s).getD s)
  | .none =>
    match exponent s with
    | some s => return (.other, s)
    | .none => if (Nat.toDigits 10 n).length ≤ maxStrDigits then return (.int (if negative then -n else n), s) else .none

/-- `raw_decode` at a number or a literal. -/
def scalar : List Char → Option (Value × List Char)
  | 'n' :: 'u' :: 'l' :: 'l' :: s => some (.none, s)
  | 't' :: 'r' :: 'u' :: 'e' :: s => some (.bool true, s)
  | 'f' :: 'a' :: 'l' :: 's' :: 'e' :: s => some (.bool false, s)
  | '-' :: 'I' :: 'n' :: 'f' :: 'i' :: 'n' :: 'i' :: 't' :: 'y' :: s => some (.other, s)
  | '-' :: s => unsigned true s
  | s => unsigned false s

/-- `string`, after the opening quote. -/
def string (s : List Char) : Except String (String × List Char) :=
  match Json.unquote s with
  | .none => .error invalidJson
  | some (text, s) =>
    if maxStringBytes < (String.ofList text).utf8ByteSize then .error stringError else .ok (String.ofList text, s)

/-- `node`: the nodes so far, with this one. -/
def node (nodes : Nat) : Except String Nat := if maxNodes < nodes + 1 then .error nodesError else .ok (nodes + 1)

def startsScalar (c : Char) : Bool := c == '-' || c.isDigit || c == 't' || c == 'f' || c == 'n'

/-- `self.text[self.position]` after an item: whether the container goes on. -/
def separator (endChar : Char) : List Char → Except String (Bool × List Char)
  | [] => .error "INPUT_INVALID: unterminated container"
  | c :: s =>
    if c = endChar then .ok (false, s)
    else if c = ',' then .ok (true, s)
    else .error "INPUT_INVALID: container separator"

mutual

/-- `value`: the value, the nodes so far, and the rest of the text. Each container and each of its
items takes a step, and a value is a node: twice the nodes that are left are steps enough. -/
def value : Nat → Nat → Nat → List Char → Except String (Value × Nat × List Char)
  | 0, _, _, _ => .error nodesError
  | fuel + 1, depth, nodes, s => do
    let nodes ← node nodes
    match Json.skip s with
    | [] => .error "INPUT_INVALID: missing JSON value"
    | '"' :: s => do
      let (text, s) ← string s
      return (.str text, nodes, s)
    | '[' :: s =>
      if maxDepth ≤ depth then .error depthError
      else
        match Json.skip s with
        | ']' :: s => return (.list [], nodes, s)
        | s => do
          let (vs, nodes, s) ← items fuel depth nodes 0 s
          return (.list vs, nodes, s)
    | '\x7b' :: s =>
      if maxDepth ≤ depth then .error depthError
      else
        match Json.skip s with
        | '\x7d' :: s => return (.dict [], nodes, s)
        | s => do
          let (fs, nodes, s) ← fields fuel depth nodes [] s
          return (.dict fs, nodes, s)
    | c :: s =>
      if startsScalar c then
        match scalar (c :: s) with
        | .none => .error invalidJson
        | some (v, s) => return (v, nodes, s)
      else .error "INPUT_INVALID: JSON scalar"

/-- The items of an array after the first `count`. -/
def items : Nat → Nat → Nat → Nat → List Char → Except String (List Value × Nat × List Char)
  | 0, _, _, _, _ => .error nodesError
  | fuel + 1, depth, nodes, count, s =>
    if maxCollection < count + 1 then .error collectionError
    else do
      let (v, nodes, s) ← value fuel (depth + 1) nodes s
      let (more, s) ← separator ']' (Json.skip s)
      if more then do
        let (vs, nodes, s) ← items fuel depth nodes (count + 1) s
        return (v :: vs, nodes, s)
      else return ([v], nodes, s)

/-- The items of an object after those with these keys. -/
def fields : Nat → Nat → Nat → List String → List Char →
    Except String (List (Option String × Value) × Nat × List Char)
  | 0, _, _, _, _ => .error nodesError
  | fuel + 1, depth, nodes, keys, s =>
    if maxCollection < keys.length + 1 then .error collectionError
    else
      match Json.skip s with
      | '"' :: s => do
        let nodes ← node nodes
        let (key, s) ← string s
        if key ∈ keys then .error "duplicate JSON key"
        else
          match Json.skip s with
          | ':' :: s => do
            let (v, nodes, s) ← value fuel (depth + 1) nodes s
            let (more, s) ← separator '\x7d' (Json.skip s)
            if more then do
              let (fs, nodes, s) ← fields fuel depth nodes (key :: keys) s
              return ((some key, v) :: fs, nodes, s)
            else return ([(some key, v)], nodes, s)
          | _ => .error "INPUT_INVALID: object separator"
      | _ => .error "INPUT_INVALID: object key"

end

/-- `type(value) is dict`. -/
def Value.isDict : Value → Bool
  | .dict _ => true
  | _ => false

def parseCanonical (py : Platform) (raw : ByteArray) : Except String Value :=
  if maxCanonicalBytes < raw.size then .error bytesError
  else
    match String.fromUTF8? raw with
    | .none => .error invalidJson
    | some text => do
      let (v, _, rest) ← value (2 * maxNodes) 0 0 text.toList
      if v.isDict = false then .error "INPUT_INVALID: object required"
      else if Json.skip rest ≠ [] then .error "noncanonical JSON bytes"
      else do
        let encoded ← canonicalBytes py v
        if encoded = raw then return v else .error "noncanonical JSON bytes"

end ATB.Stage5.IdentityScope
