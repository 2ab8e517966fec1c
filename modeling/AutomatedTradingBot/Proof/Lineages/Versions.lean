import AutomatedTradingBot.Framework.Chains
import AutomatedTradingBot.Framework.SortedSet
import AutomatedTradingBot.Source.Calendars

/-!
# Lineages of references and of calendars

* `validateLineage_eq_ok`, `validateCalendarLineage_eq_ok`: the two checks accept exactly
  the distinct chains of versions of one subject, along which knowledge increases;
* `validatedLineage_congr`, `validateCalendarLineage_congr`: in any order, with one result.
-/

namespace ATB.Proof.Lineages

open Lineage Instruments Calendars

/-! ## What is accepted -/

section Accepted

variable {V I S : Type} {view : LineageView V I} {subject : V → S} {limit depth : Nat} {values : List V}

/-- Not too many versions of one subject, in distinct chains that are not too deep and along
which knowledge increases. -/
structure Accepted (view : LineageView V I) (subject : V → S) (limit depth : Nat) (values : List V) : Prop where
  nonempty : values ≠ []
  bounded : values.length ≤ limit
  distinct : (values.map view.id).Nodup
  oneSubject : ∀ v ∈ values, ∀ w ∈ values, subject v = subject w
  chains : DisjointChains view.id view.predecessor depth values
  ordered : ∀ v x, Supersedes view values v x → view.knowledge x < view.knowledge v

theorem Accepted.perm {values' : List V} (h : Accepted view subject limit depth values) (hp : values.Perm values') :
    Accepted view subject limit depth values' where
  nonempty := fun e => h.nonempty (by rw [e] at hp; exact hp.eq_nil)
  bounded := hp.length_eq ▸ h.bounded
  distinct := (hp.map view.id).nodup_iff.mp h.distinct
  oneSubject := fun v hv w hw => h.oneSubject v (hp.mem_iff.mpr hv) w (hp.mem_iff.mpr hw)
  chains := by
    obtain ⟨chains, hflat, hchains⟩ := h.chains
    exact ⟨chains, hflat.trans hp, hchains⟩
  ordered := fun v x hs => h.ordered v x (hs.mono fun _ hv => hp.mem_iff.mpr hv)

/-- Every version has the subject of the first. -/
theorem subject_head_iff {first : V} (h : values.head? = some first) :
    (∀ v ∈ values, subject v = subject first) ↔ ∀ v ∈ values, ∀ w ∈ values, subject v = subject w := by
  have hfirst : first ∈ values := List.mem_of_head? h
  constructor
  · exact fun hall v hv w hw => (hall v hv).trans (hall w hw).symm
  · exact fun hall v hv => hall v hv first hfirst

/-- A sort by a text that no two versions share. -/
theorem sort_congr {text : V → String} {values' : List V} (hp : values.Perm values')
    (h : ∀ v ∈ values, ∀ w ∈ values, text v = text w → v = w) :
    (values.insertionSort fun a b => text a ≤ text b) = values'.insertionSort fun a b => text a ≤ text b :=
  insertionSort_eq_of_perm (fun _ _ => le_total _ _) (fun _ _ _ => le_trans)
    (fun v hv w hw hvw hwv => h v hv w hw (le_antisymm hvw hwv)) hp

variable [DecidableEq I]

theorem index_eq_ok_iff {byId : List (I × V)} :
    index view values = .ok byId ↔ (values.map view.id).Nodup ∧ Dict.ofKeys view.id values = byId := by
  simp only [index, raiseIf_bind_eq_ok, not_not, pure_eq_ok]

theorem checkEdges_eq_ok_iff (hn : (values.map view.id).Nodup) {u : Unit} :
    checkEdges view (Dict.ofKeys view.id values) depth values = .ok u ↔
      DisjointChains view.id view.predecessor depth values ∧
      ∀ v x, Supersedes view values v x → view.knowledge x < view.knowledge v := by
  rw [checkEdges_eq_ok hn, ← chainForest_iff hn]
  exact ⟨fun h => ⟨h.toChainForest, h.ordered⟩, fun h => ⟨h.1, h.2⟩⟩

end Accepted

/-! ## References -/

/-- What two versions of one lineage share. -/
def referenceSubject (v : ReferenceVersion) : ReferenceRecordKind × InstrumentId × Option ListingId :=
  (v.record.kind, v.subject)

theorem validateLineage_eq_ok {values : List ReferenceVersion} {u : Unit} :
    validateLineage values = .ok u ↔
      Accepted ReferenceVersion.view referenceSubject maxLineageVersions maxLineageDepth values := by
  simp only [validateLineage, bind_eq_ok, orRaise_eq_ok, raiseIf_eq_ok, exists_const, mapError_eq_ok, index_eq_ok_iff,
    not_exists, not_and, not_not, not_lt]
  constructor
  · rintro ⟨first, hfirst, hbound, _, ⟨hn, rfl⟩, hkind, hsubject, hedges⟩
    obtain ⟨hchains, hordered⟩ := (checkEdges_eq_ok_iff hn).mp hedges
    have hall : ∀ v ∈ values, referenceSubject v = referenceSubject first := fun v hv =>
      Prod.ext (hkind v hv) (hsubject v hv)
    exact ⟨fun e => by simp [e] at hfirst, hbound, hn, (subject_head_iff hfirst).mp hall, hchains, hordered⟩
  · intro h
    obtain ⟨first, hfirst⟩ := Option.ne_none_iff_exists'.mp fun e => h.nonempty (List.head?_eq_none_iff.mp e)
    have hall := (subject_head_iff hfirst).mpr h.oneSubject
    exact ⟨first, hfirst, h.bounded, _, ⟨h.distinct, rfl⟩, fun v hv => congrArg Prod.fst (hall v hv),
      fun v hv => congrArg Prod.snd (hall v hv), (checkEdges_eq_ok_iff h.distinct).mpr ⟨h.chains, h.ordered⟩⟩

theorem referenceVersionId_toString_injective : Function.Injective ReferenceVersionId.toString := by
  rintro ⟨a, _⟩ ⟨b, _⟩ h
  cases Uuid.str_injective (String.append_right_inj _ |>.mp h)
  rfl

/-- The result depends on the versions only. -/
theorem validatedLineage_congr {values values' : List ReferenceVersion} (hp : values.Perm values')
    {r : List ReferenceVersion} (h : validatedLineage values = .ok r) : validatedLineage values' = .ok r := by
  simp only [validatedLineage, bind_eq_ok, exists_const, validateLineage_eq_ok, pure_eq_ok] at h ⊢
  obtain ⟨h, rfl⟩ := h
  refine ⟨h.perm hp, (sort_congr hp fun v hv w hw hvw => ?_).symm⟩
  exact List.inj_on_of_nodup_map h.distinct hv hw (referenceVersionId_toString_injective hvw)

/-! ## Calendars -/

def calendarSubject (v : CalendarVersion) : CalendarId × String × String := (v.calendarId, v.marketCode, v.venueCode)

theorem validateCalendarLineage_eq_ok {values r : List CalendarVersion} :
    validateCalendarLineage values = .ok r ↔
      Accepted CalendarVersion.view calendarSubject maxLineageVersions maxLineageDepth values ∧
        r = sortedVersions values := by
  simp only [validateCalendarLineage, bind_eq_ok, orRaise_eq_ok, raiseIf_eq_ok, exists_const, mapError_eq_ok,
    index_eq_ok_iff, not_exists, not_and, not_not, not_lt, pure_eq_ok]
  constructor
  · rintro ⟨first, hfirst, hbound, _, ⟨hn, rfl⟩, hcalendar, hscope, _, hedges, rfl⟩
    obtain ⟨hchains, hordered⟩ := (checkEdges_eq_ok_iff hn).mp hedges
    have hall : ∀ v ∈ values, calendarSubject v = calendarSubject first := fun v hv =>
      Prod.ext (hcalendar v hv) (hscope v hv)
    exact ⟨⟨fun e => by simp [e] at hfirst, hbound, hn, (subject_head_iff hfirst).mp hall, hchains, hordered⟩, rfl⟩
  · rintro ⟨h, rfl⟩
    obtain ⟨first, hfirst⟩ := Option.ne_none_iff_exists'.mp fun e => h.nonempty (List.head?_eq_none_iff.mp e)
    have hall := (subject_head_iff hfirst).mpr h.oneSubject
    exact ⟨first, hfirst, h.bounded, _, ⟨h.distinct, rfl⟩, fun v hv => congrArg Prod.fst (hall v hv),
      fun v hv => congrArg Prod.snd (hall v hv), (),
      (checkEdges_eq_ok_iff h.distinct).mpr ⟨h.chains, h.ordered⟩, rfl⟩

theorem calendarVersionId_toString_injective : Function.Injective CalendarVersionId.toString := by
  rintro ⟨a, _⟩ ⟨b, _⟩ h
  cases Uuid.str_injective (String.append_right_inj _ |>.mp h)
  rfl

theorem validateCalendarLineage_congr {values values' : List CalendarVersion} (hp : values.Perm values')
    {r : List CalendarVersion} (h : validateCalendarLineage values = .ok r) :
    validateCalendarLineage values' = .ok r := by
  rw [validateCalendarLineage_eq_ok] at h ⊢
  obtain ⟨h, rfl⟩ := h
  refine ⟨h.perm hp, sort_congr hp fun v hv w hw hvw => ?_⟩
  exact List.inj_on_of_nodup_map h.distinct hv hw (calendarVersionId_toString_injective hvw)

end ATB.Proof.Lineages
