import AutomatedTradingBot.Framework.Json

/-!
# Canonical texts tell values apart

* `dict_ext`: objects with the same values are one object;
* `obj_perm`: a display does not depend on the order of its items;
* `dumps_inj`: sorted values with one text are one value;
* `obj_inj`: displays of the same keys are equal value by value.
-/

namespace ATB.Json

theorem find?_cons_self {f : String × Json} {fs : List (String × Json)} : find? f.1 (f :: fs) = some f.2 := by
  rw [find?, List.find?_cons_of_pos (by simp), Option.map_some]

theorem find?_cons_of_ne {f : String × Json} {fs : List (String × Json)} {k : String} (h : f.1 ≠ k) :
    find? k (f :: fs) = find? k fs := by
  rw [find?, List.find?_cons_of_neg (by simpa using h), find?]

theorem find?_eq_none_of_lt {fs : List (String × Json)} {k : String} (h : ∀ g ∈ fs, k < g.1) : find? k fs = none := by
  rw [find?, List.find?_eq_none.mpr fun g hg => by simpa using (h g hg).ne', Option.map_none]

/-- Items in the order of their keys are told by the values of the keys. -/
theorem fields_ext {fs gs : List (String × Json)} (hf : SortedFields fs) (hg : SortedFields gs)
    (h : ∀ k, find? k fs = find? k gs) : fs = gs := by
  induction fs generalizing gs with
  | nil =>
    cases gs with
    | nil => rfl
    | cons g gs => cases (h g.1).trans find?_cons_self
  | cons f fs ih =>
    cases gs with
    | nil => cases find?_cons_self.symm.trans (h f.1)
    | cons g gs =>
      obtain ⟨hfs, -, hf⟩ := hf
      obtain ⟨hgs, -, hg⟩ := hg
      have hkey : f.1 = g.1 := by
        rcases lt_trichotomy f.1 g.1 with hlt | he | hlt
        · have hnone : find? f.1 (g :: gs) = none := find?_eq_none_of_lt fun x hx => by
            rcases List.mem_cons.mp hx with rfl | hx
            · exact hlt
            · exact hlt.trans (hgs x hx)
          cases find?_cons_self.symm.trans ((h f.1).trans hnone)
        · exact he
        · have hnone : find? g.1 (f :: fs) = none := find?_eq_none_of_lt fun x hx => by
            rcases List.mem_cons.mp hx with rfl | hx
            · exact hlt
            · exact hlt.trans (hfs x hx)
          cases find?_cons_self.symm.trans ((h g.1).symm.trans hnone)
      have hvalue : f.2 = g.2 := by
        have hself := h f.1
        rw [find?_cons_self, hkey, find?_cons_self] at hself
        exact Option.some.inj hself
      have htail : ∀ k, find? k fs = find? k gs := fun k => by
        by_cases hk : f.1 = k
        · rw [← hk, find?_eq_none_of_lt hfs, find?_eq_none_of_lt (hkey ▸ hgs)]
        · rw [← find?_cons_of_ne hk, h k, find?_cons_of_ne (hkey ▸ hk)]
      rw [ih hf hg htail, Prod.ext hkey hvalue]

/-- Objects with the same value at every key are equal. -/
theorem dict_ext {fs gs : List (String × Json)} (hf : Sorted (.dict fs)) (hg : Sorted (.dict gs))
    (h : ∀ k, get? k (.dict fs) = get? k (.dict gs)) : Json.dict fs = .dict gs := by
  rw [Sorted] at hf hg
  exact congrArg Json.dict (fields_ext hf hg h)

theorem get?_obj_eq_none {fs : List (String × Json)} {k : String} (h : k ∉ fs.map Prod.fst) : get? k (obj fs) = none := by
  have hall : ∀ f ∈ display fs, ¬ (f.1 = k) := fun f hf e => h (e ▸ List.mem_map_of_mem (mem_display hf))
  rw [obj, get?, find?, List.find?_eq_none.mpr (by simpa using hall), Option.map_none]

/-- A display of keys that differ does not depend on the order of its items. -/
theorem obj_perm {fs gs : List (String × Json)} (hp : fs.Perm gs) (hn : (fs.map Prod.fst).Nodup)
    (hs : ∀ f ∈ fs, Sorted f.2) : obj fs = obj gs := by
  have hn' : (gs.map Prod.fst).Nodup := (hp.map Prod.fst).nodup_iff.mp hn
  refine dict_ext (sorted_obj hs) (sorted_obj fun f hf => hs f (hp.mem_iff.mpr hf)) fun k => ?_
  change get? k (obj fs) = get? k (obj gs)
  by_cases hk : k ∈ fs.map Prod.fst
  · obtain ⟨f, hf, rfl⟩ := List.mem_map.mp hk
    rw [get?_obj hn hf, get?_obj hn' (hp.mem_iff.mp hf)]
  · rw [get?_obj_eq_none hk, get?_obj_eq_none fun hg => hk ((hp.map Prod.fst).mem_iff.mpr hg)]

theorem dumps_inj {i j : Json} (hi : Sorted i) (hj : Sorted j) (h : i.dumps = j.dumps) : i = j := by
  have hl := loads_dumps hi
  rw [h, loads_dumps hj] at hl
  exact (Option.some.inj hl).symm

/-- Equal displays of the same keys have the same values. -/
theorem obj_inj (keys : List String) (hn : keys.Nodup) (vs ws : List Json) (hv : vs.length = keys.length)
    (hw : ws.length = keys.length) (h : obj (keys.zip vs) = obj (keys.zip ws)) : vs = ws := by
  have hkeys : ∀ us : List Json, us.length = keys.length → ((keys.zip us).map Prod.fst).Nodup := fun us hu => by
    rw [List.map_fst_zip hu.ge]
    exact hn
  have hmem : ∀ us : List Json, ∀ i (hk : i < keys.length) (hu : i < us.length), (keys[i], us[i]) ∈ keys.zip us :=
    fun us i hk hu => List.mem_iff_getElem.mpr ⟨i, by simpa using ⟨hk, hu⟩, by simp⟩
  refine List.ext_getElem (hv.trans hw.symm) fun i hi hi' => ?_
  have hk : i < keys.length := hv ▸ hi
  have he := get?_obj (hkeys vs hv) (hmem vs i hk hi)
  rw [h, get?_obj (hkeys ws hw) (hmem ws i hk hi')] at he
  exact (Option.some.inj he).symm

end ATB.Json
