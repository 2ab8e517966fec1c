import AutomatedTradingBot.Source.Versioning

/-!
# Routing between versions

* `Chain`: a chain of registered upcasts from one version to another;
* `path_eq_some`: the walk finds exactly the chains;
* `version_routing`: compatibility, the missing path and the transforms that are
  applied are all about the one chain there is.
-/

namespace ATB.Proof.Versioning

open ATB.Versioning VersionRegistry

variable {V : Type} {registry : VersionRegistry V} {source target : ContractVersion} {route p p' : List (UpcastDefinition V)}

/-- A chain of registered upcasts. -/
inductive Chain (registry : VersionRegistry V) (target : ContractVersion) :
    ContractVersion → List (UpcastDefinition V) → Prop
  | done : Chain registry target target []
  | step {source : ContractVersion} {upcast : UpcastDefinition V} {route : List (UpcastDefinition V)}
      (registered : Dict.get? source registry.routes = some upcast) (rest : Chain registry target upcast.target route) :
      Chain registry target source (upcast :: route)

theorem advances_of_get? {upcast : UpcastDefinition V} (h : Dict.get? source registry.routes = some upcast) :
    source.family = upcast.target.family ∧ source.version < upcast.target.version := by
  have hadvances := registry.advances source upcast h
  rw [UpcastDefinition.Advances, registry.keyed source upcast h] at hadvances
  exact hadvances

/-- A chain goes forward within one family. -/
theorem Chain.forward (h : Chain registry target source route) :
    source.family = target.family ∧ source.version ≤ target.version := by
  induction h with
  | done => exact ⟨rfl, le_rfl⟩
  | step registered rest ih =>
    obtain ⟨hfamily, hversion⟩ := advances_of_get? registered
    exact ⟨hfamily.trans ih.1, hversion.le.trans ih.2⟩

/-- The walk finds the chain. -/
theorem path_of_chain (h : Chain registry target source route) : registry.path source target = some route := by
  induction h with
  | done => rw [path, if_pos rfl]
  | @step source upcast route registered rest ih =>
    have hforward := rest.forward.2
    have hlt := (advances_of_get? registered).2
    have hne : source ≠ target := by
      rintro rfl
      omega
    rw [path, if_neg hne]
    split
    · next e => rw [registered] at e; cases e
    · next upcast' e =>
      obtain rfl := Option.some.inj (registered.symm.trans e)
      rw [dif_neg (not_lt.mpr hforward), ih]
      rfl

/-- What the walk finds is a chain: induction over its steps. -/
theorem chain_of_path (h : registry.path source target = some route) : Chain registry target source route := by
  induction source using path.induct registry target generalizing route with
  | case1 =>
    rw [path, if_pos rfl] at h
    obtain rfl := Option.some.inj h
    exact .done
  | case2 source hne hnone =>
    rw [path, if_neg hne] at h
    split at h
    · cases h
    · next e => rw [hnone] at e; cases e
  | case3 source hne upcast hget hlt =>
    rw [path, if_neg hne] at h
    split at h
    · cases h
    · next e =>
      obtain rfl := Option.some.inj (hget.symm.trans e)
      rw [dif_pos hlt] at h
      cases h
  | case4 source hne upcast hget hle ih =>
    rw [path, if_neg hne] at h
    split at h
    · cases h
    · next e =>
      obtain rfl := Option.some.inj (hget.symm.trans e)
      rw [dif_neg hle] at h
      obtain ⟨rest, hrest, rfl⟩ := Option.map_eq_some_iff.mp h
      exact .step hget (ih hrest)

theorem path_eq_some : registry.path source target = some route ↔ Chain registry target source route :=
  ⟨chain_of_path, path_of_chain⟩

theorem Chain.unique (h : Chain registry target source p) (h' : Chain registry target source p') : p = p' :=
  Option.some.inj ((path_of_chain h).symm.trans (path_of_chain h'))

/-! ## What the other two functions make of it -/

theorem compatibility_spec {c c' : Codec V} (hs : registry.codecFor source = .ok c) (ht : registry.codecFor target = .ok c') :
    ∃ k, registry.compatibility source target = .ok k ∧
      (k ≠ .unsupported ↔ ∃ route, Chain registry target source route) := by
  rw [compatibility, hs, ok_bind, ht, ok_bind]
  by_cases he : source = target
  · subst he
    exact ⟨.supportedNative, if_pos rfl, fun _ => ⟨[], .done⟩, fun _ h => nomatch h⟩
  rw [if_neg he]
  by_cases hback : source.family ≠ target.family ∨ target.version < source.version
  · refine ⟨.unsupported, if_pos hback, fun h => absurd rfl h, ?_⟩
    rintro ⟨route, hroute⟩
    obtain ⟨hfamily, hversion⟩ := hroute.forward
    rcases hback with h | h
    · exact absurd hfamily h
    · omega
  rw [if_neg hback]
  cases hpath : registry.path source target with
  | none =>
    refine ⟨.unsupported, rfl, fun h => absurd rfl h, ?_⟩
    rintro ⟨route, hroute⟩
    rw [path_of_chain hroute] at hpath
    cases hpath
  | some route => exact ⟨.supportedViaApprovedUpcast, rfl, fun _ => ⟨route, chain_of_path hpath⟩, fun _ h => nomatch h⟩

/-- `MissingUpcastPathError` is not what reading and transforming raise. -/
def Other (e : VersioningError) : Prop := ∀ message, e ≠ .missingUpcastPath message

theorem historical_fails (codec : Codec V) (representation : List UInt8) : Fails Other (historical codec representation) := by
  refine .bind ?_ fun value => .bind ?_ fun canonical => .bind ?_ fun canonical => .bind ?_ fun _ => .ok value
  · intro e he message hm
    subst hm
    cases hdecode : codec.decode representation with
    | ok value => rw [hdecode] at he; cases he
    | error failure => cases failure <;> rw [hdecode] at he <;> cases he
  · intro e he message hm
    subst hm
    cases hencode : codec.encode value with
    | ok canonical => rw [hencode] at he; cases he
    | error failure => rw [hencode] at he; cases he
  · exact .orRaise fun _ h => nomatch h
  · exact .raiseIf fun _ h => nomatch h

theorem applyPath_fails (route : List (UpcastDefinition V)) (value : V) : Fails Other (applyPath route value) := by
  refine Fails.foldlM (fun value upcast => ?_) route value
  intro e he message hm
  subst hm
  cases htransform : upcast.transform value with
  | ok value => rw [htransform] at he; cases he
  | error failure => rw [htransform] at he; cases he

/-- Along a chain, `interpret` reads the value and applies the transforms of the chain. -/
theorem interpret_of_chain {c c' : Codec V} (hs : registry.codecFor source = .ok c) (ht : registry.codecFor target = .ok c')
    (h : Chain registry target source route) (representation : List UInt8) :
    registry.interpret source representation target = do
      let value ← historical c representation
      let value ← applyPath route value
      return ⟨source, target, representation, value, route.map UpcastDefinition.target⟩ := by
  obtain ⟨hfamily, hversion⟩ := h.forward
  have hforward : ¬ (source.family ≠ target.family ∨ target.version < source.version) := by
    rintro (h | h)
    · exact h hfamily
    · omega
  rw [interpret, hs, ok_bind, ht, ok_bind, raiseIf_of_not hforward, ok_bind, path_of_chain h]
  rfl

theorem interpret_missing {c c' : Codec V} (hs : registry.codecFor source = .ok c) (ht : registry.codecFor target = .ok c')
    (representation : List UInt8) : (∃ route, Chain registry target source route) ↔
      ∀ message, registry.interpret source representation target ≠ .error (.missingUpcastPath message) := by
  constructor
  · rintro ⟨route, hroute⟩ message he
    rw [interpret_of_chain hs ht hroute] at he
    have hfails : Fails Other (do
        let value ← historical c representation
        let value ← applyPath route value
        return (⟨source, target, representation, value, route.map UpcastDefinition.target⟩ : Interpretation V)) :=
      .bind (historical_fails c representation) fun value => .bind (applyPath_fails route value) fun _ => .ok _
    exact hfails _ he message rfl
  · intro hne
    by_contra hnone
    refine hne "no approved forward interpretation path" ?_
    rw [interpret, hs, ok_bind, ht, ok_bind]
    by_cases hback : source.family ≠ target.family ∨ target.version < source.version
    · rw [raiseIf_of hback]
      rfl
    · have hpath : registry.path source target = none := by
        cases hpath : registry.path source target with
        | none => rfl
        | some route => exact absurd ⟨route, chain_of_path hpath⟩ hnone
      rw [raiseIf_of_not hback, ok_bind, hpath]
      rfl

/-- Both versions have a codec; the one of the source is what `interpret` reads with. -/
def endpoints (registry : VersionRegistry V) (source target : ContractVersion) : Except VersioningError (Codec V) := do
  let codec ← registry.codecFor source
  let _ ← registry.codecFor target
  return codec

theorem endpoints_ok {c : Codec V} (h : endpoints registry source target = .ok c) :
    registry.codecFor source = .ok c ∧ ∃ c', registry.codecFor target = .ok c' := by
  obtain ⟨codec, hs, h⟩ := bind_eq_ok.mp h
  obtain ⟨c', ht, h⟩ := bind_eq_ok.mp h
  cases h
  exact ⟨hs, c', ht⟩

theorem endpoints_error {e : VersioningError} (h : endpoints registry source target = .error e) :
    registry.compatibility source target = .error e ∧
      ∀ representation, registry.interpret source representation target = .error e := by
  cases hs : registry.codecFor source with
  | error e' =>
    rw [endpoints, hs] at h
    cases h
    exact ⟨by rw [compatibility, hs]; rfl, fun _ => by rw [interpret, hs]; rfl⟩
  | ok c =>
    cases ht : registry.codecFor target with
    | error e' =>
      rw [endpoints, hs, ok_bind, ht] at h
      cases h
      exact ⟨by rw [compatibility, hs, ok_bind, ht]; rfl, fun _ => by rw [interpret, hs, ok_bind, ht]; rfl⟩
    | ok c' =>
      rw [endpoints, hs, ok_bind, ht] at h
      cases h

/-- Between two versions of the registry, compatibility, the missing path and the transforms that are applied agree on
the one chain of registered upcasts; for any other pair both functions raise that a version is not known. -/
theorem version_routing (registry : VersionRegistry V) (source target : ContractVersion) :
    match endpoints registry source target with
    | .error e => registry.compatibility source target = .error e ∧
        ∀ representation, registry.interpret source representation target = .error e
    | .ok c =>
      (∃ k, registry.compatibility source target = .ok k ∧
        (k ≠ .unsupported ↔ ∃ route, Chain registry target source route)) ∧
      (∀ representation, (∃ route, Chain registry target source route) ↔
        ∀ message, registry.interpret source representation target ≠ .error (.missingUpcastPath message)) ∧
      ∀ route, Chain registry target source route → (∀ route', Chain registry target source route' → route' = route) ∧
        ∀ representation, registry.interpret source representation target = do
          let value ← historical c representation
          let value ← applyPath route value
          return ⟨source, target, representation, value, route.map UpcastDefinition.target⟩ := by
  split
  · next h => exact endpoints_error h
  · next h =>
    obtain ⟨hs, c', ht⟩ := endpoints_ok h
    exact ⟨compatibility_spec hs ht, interpret_missing hs ht, fun _ hroute =>
      ⟨fun _ hroute' => hroute'.unique hroute, interpret_of_chain hs ht hroute⟩⟩

end ATB.Proof.Versioning
