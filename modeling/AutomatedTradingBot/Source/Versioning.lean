import AutomatedTradingBot.Framework.Dict
import AutomatedTradingBot.Framework.Outcome
import AutomatedTradingBot.Framework.Text

/-!
# Version registries

`domain/versioning.py`: codecs and forward upcasts of contract versions. The values that
codecs and transforms work on are of any type `V`; the functions of the caller return or
raise. A registry is what the constructor has accepted, so its routes carry what it has
checked of them, which is also why the walk along them ends.
-/

namespace ATB.Versioning

inductive VersioningError where
  | invalidVersionIdentity (message : String)
  | unknownContract (family : String)
  | unsupportedVersion (family : String) (version : Nat)
  | malformedRepresentation (message : String)
  | codecFailure (message : String)
  | missingUpcastPath (message : String)
  | upcastFailure (message : String)
  | invalidRegistry (message : String)
deriving DecidableEq

/-- `ContractVersion`, with what `__post_init__` requires. -/
@[ext]
structure ContractVersion where
  family : String
  version : Nat
  unpadded : family ≠ "" ∧ Text.strip (Text.chars family) = Text.chars family
  positive : 0 < version

instance : DecidableEq ContractVersion := fun a b =>
  decidable_of_iff (a.family = b.family ∧ a.version = b.version)
    ContractVersion.ext_iff.symm

/-- `ContractVersion(family, version)`. -/
def ContractVersion.make (family : String) (version : Int) : Except VersioningError ContractVersion :=
  if hf : family ≠ "" ∧ Text.strip (Text.chars family) = Text.chars family then
    if hv : 0 < version.toNat then .ok ⟨family, version.toNat, hf, hv⟩
    else .error (.invalidVersionIdentity "version must be a positive integer")
  else .error (.invalidVersionIdentity "family must be a nonempty, unpadded string")

/-- What a decoder raises: `MalformedRepresentationError`, or anything else. -/
inductive DecodeFailure where
  | malformed (message : String)
  | other
deriving DecidableEq

/-- `Codec`. An encoder may also return something that is not `bytes`. -/
structure Codec (V : Type) where
  encode : V → Except Unit (Option (List UInt8))
  decode : List UInt8 → Except DecodeFailure V

structure VersionDefinition (V : Type) where
  identity : ContractVersion
  codec : Codec V

structure UpcastDefinition (V : Type) where
  source : ContractVersion
  target : ContractVersion
  transform : V → Except Unit V

inductive Compatibility where
  | supportedNative
  | supportedViaApprovedUpcast
  | unsupported
deriving DecidableEq

structure Interpretation (V : Type) where
  original : ContractVersion
  target : ContractVersion
  originalBytes : List UInt8
  value : V
  transformationPath : List ContractVersion

variable {V : Type}

/-- `route.source.family == route.target.family`, and the version advances. -/
def UpcastDefinition.Advances (route : UpcastDefinition V) : Prop :=
  route.source.family = route.target.family ∧ route.source.version < route.target.version

instance (route : UpcastDefinition V) : Decidable route.Advances := inferInstanceAs (Decidable (_ ∧ _))

/-- `VersionRegistry`. -/
structure VersionRegistry (V : Type) where
  codecs : List (ContractVersion × Codec V)
  routes : List (ContractVersion × UpcastDefinition V)
  keyed : ∀ source route, Dict.get? source routes = some route → route.source = source
  advances : ∀ source route, Dict.get? source routes = some route → route.Advances

namespace VersionRegistry

/-- The loop over the definitions. -/
def addDefinitions (definitions : List (VersionDefinition V)) : Except VersioningError (List (ContractVersion × Codec V)) :=
  definitions.foldlM (fun codecs definition => do
    raiseIf (definition.identity ∈ Dict.keys codecs) (.invalidRegistry "duplicate contract/version codec")
    return Dict.set definition.identity definition.codec codecs) []

/-- One iteration of the loop over the upcasts. -/
def addRoute (registry : VersionRegistry V) (route : UpcastDefinition V) : Except VersioningError (VersionRegistry V) := do
  raiseIf (route.source ∉ Dict.keys registry.codecs ∨ route.target ∉ Dict.keys registry.codecs)
    (.invalidRegistry "upcast endpoint is not registered")
  if h : route.Advances then
    raiseIf (route.source ∈ Dict.keys registry.routes) (.invalidRegistry "ambiguous upcast path")
    return { registry with
      routes := Dict.set route.source route registry.routes
      keyed := by
        intro source route' hget
        rw [Dict.get?_set] at hget
        split at hget
        · next e =>
          obtain rfl := Option.some.inj hget
          exact e
        · exact registry.keyed source route' hget
      advances := by
        intro source route' hget
        rw [Dict.get?_set] at hget
        split at hget
        · obtain rfl := Option.some.inj hget
          exact h
        · exact registry.advances source route' hget }
  else .error (.invalidRegistry "upcast must advance within one family")

/-- `VersionRegistry(definitions, upcasts)`. -/
def make (definitions : List (VersionDefinition V)) (upcasts : List (UpcastDefinition V)) :
    Except VersioningError (VersionRegistry V) := do
  let codecs ← addDefinitions definitions
  raiseIf (codecs = []) (.invalidRegistry "registry must contain a version definition")
  upcasts.foldlM addRoute ⟨codecs, [], fun _ _ h => (nomatch h), fun _ _ h => (nomatch h)⟩

variable (registry : VersionRegistry V)

/-- `_families`. -/
def families : List String := registry.codecs.map fun entry => entry.1.family

def codecFor (identity : ContractVersion) : Except VersioningError (Codec V) := do
  raiseIf (identity.family ∉ registry.families) (.unknownContract identity.family)
  orRaise (.unsupportedVersion identity.family identity.version) (Dict.get? identity registry.codecs)

/-- The loop of `_path`, from `current` on. -/
def path (current target : ContractVersion) : Option (List (UpcastDefinition V)) :=
  if current = target then some []
  else
    match _h : Dict.get? current registry.routes with
    | none => none
    | some route =>
      if _hle : target.version < route.target.version then none
      else (path route.target target).map (route :: ·)
termination_by target.version - current.version
decreasing_by
  have hsource := registry.keyed _ _ _h
  have hlt := (registry.advances _ _ _h).2
  rw [hsource] at hlt
  omega

def compatibility (source target : ContractVersion) : Except VersioningError Compatibility := do
  let _ ← registry.codecFor source
  let _ ← registry.codecFor target
  if source = target then return .supportedNative
  if source.family ≠ target.family ∨ target.version < source.version then return .unsupported
  return if (registry.path source target).isSome then .supportedViaApprovedUpcast else .unsupported

/-- The value that the exact codec of the version reads, which has to be the canonical one of its bytes. -/
def historical (codec : Codec V) (representation : List UInt8) : Except VersioningError V := do
  let value ← (codec.decode representation).mapError fun
    | .malformed message => .malformedRepresentation message
    | .other => .codecFailure "exact-version decoder failed"
  let canonical ← (codec.encode value).mapError fun _ => .codecFailure "exact-version encoder failed"
  let canonical ← orRaise (.codecFailure "codec did not produce bytes") canonical
  raiseIf (canonical ≠ representation) (.malformedRepresentation "representation is not canonical")
  return value

/-- The transforms, one after the other. -/
def applyPath (route : List (UpcastDefinition V)) (value : V) : Except VersioningError V :=
  route.foldlM (fun value upcast => (upcast.transform value).mapError fun _ => .upcastFailure "approved upcast failed") value

def interpret (original : ContractVersion) (representation : List UInt8) (target : ContractVersion) :
    Except VersioningError (Interpretation V) := do
  let codec ← registry.codecFor original
  let _ ← registry.codecFor target
  raiseIf (original.family ≠ target.family ∨ target.version < original.version)
    (.missingUpcastPath "no approved forward interpretation path")
  let route ← orRaise (.missingUpcastPath "no approved forward interpretation path") (registry.path original target)
  let value ← historical codec representation
  let value ← applyPath route value
  return ⟨original, target, representation, value, route.map UpcastDefinition.target⟩

end VersionRegistry

end ATB.Versioning
