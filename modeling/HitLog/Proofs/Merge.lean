import HitLog.Record.Merge
import Mathlib.Algebra.GroupWithZero.Nat
import Mathlib.Algebra.Ring.Int.Defs
import Mathlib.Data.List.Nodup

/-!
# What merging gives

Merging takes records one by one, so its result is described by what it is after some of them:
`Record.Sums records merged` says that `merged` has one record for each identifier among `records`,
in the order in which identifiers first occur, whose counts are the sums, as words, of the counts of
all records with that identifier. One more record keeps this, as long as it has as many sites as the
records of its unit before it.

## Main definitions

* `Record.siteSum` — the sum of the counts of one site over the records of a unit
* `Record.Consistent` — records of one unit have the same number of sites
* `Record.Sums` — what merging gives
* `Record.FirstMismatch` — why records cannot be merged
* `Record.exactSum`, `Record.hitSum` — the sum as an integer and as a number, which a word may be
  too small for

## Main results

* `Record.Sums.absorb` — one more record
* `Record.merge_of_consistent` — all records
* `Record.sums_of_merge` — whatever is merged are these sums
* `Record.merge_eq_error_iff`, `Record.exists_merge_iff` — what cannot be merged, and what can
-/

namespace HitLog

namespace Record

/-- The sum of the counts of one site over the records of a unit. -/
def siteSum (rs : List Record) (identifier : Text) (site : Nat) : Int64 :=
  ((rs.filter (·.identifier = identifier)).map fun r => r.counts.getD site 0).sum

/-- Records of one unit have the same number of sites. -/
def Consistent (rs : List Record) : Prop :=
  ∀ r ∈ rs, ∀ r' ∈ rs, r.identifier = r'.identifier → r.counts.length = r'.counts.length

/-- One record per identifier, with the sums of the counts. -/
structure Sums (rs merged : List Record) : Prop where
  identifiers : merged.map Record.identifier = (rs.map Record.identifier).eraseDups
  nodup : (merged.map Record.identifier).Nodup
  length : ∀ m ∈ merged, ∀ r ∈ rs, r.identifier = m.identifier → r.counts.length = m.counts.length
  sum : ∀ m ∈ merged, ∀ site, m.counts.getD site 0 = siteSum rs m.identifier site

/-! ### Sums of sites -/

theorem siteSum_append (rs rs' : List Record) (identifier : Text) (site : Nat) :
    siteSum (rs ++ rs') identifier site
      = siteSum rs identifier site + siteSum rs' identifier site := by
  simp [siteSum]

theorem siteSum_singleton (r : Record) (identifier : Text) (site : Nat) :
    siteSum [r] identifier site
      = if r.identifier = identifier then r.counts.getD site 0 else 0 := by
  by_cases h : r.identifier = identifier <;> simp [siteSum, h]

theorem siteSum_of_not_mem {rs : List Record} {identifier : Text}
    (h : identifier ∉ rs.map Record.identifier) (site : Nat) : siteSum rs identifier site = 0 := by
  have hnone : rs.filter (·.identifier = identifier) = [] := by
    rw [List.filter_eq_nil_iff]
    intro r hr hc
    exact h (List.mem_map.mpr ⟨r, hr, by simpa using hc⟩)
  rw [siteSum, hnone]
  rfl

/-- Adding counts adds at each site. -/
theorem getD_zipWith_add {as bs : List Int64} (h : as.length = bs.length) (site : Nat) :
    (List.zipWith (· + ·) as bs).getD site 0 = as.getD site 0 + bs.getD site 0 := by
  simp only [List.getD_eq_getElem?_getD, List.getElem?_zipWith]
  by_cases hsite : site < as.length
  · rw [List.getElem?_eq_getElem hsite, List.getElem?_eq_getElem (h ▸ hsite)]
    rfl
  · rw [List.getElem?_eq_none (by omega), List.getElem?_eq_none (by omega)]
    rfl

/-- A further entry is new or not. -/
theorem eraseDups_concat {α : Type} [BEq α] [LawfulBEq α] (as : List α) (a : α) :
    (as ++ [a]).eraseDups = if a ∈ as then as.eraseDups else as.eraseDups ++ [a] := by
  rw [List.eraseDups_append]
  by_cases h : a ∈ as <;> simp [List.removeAll, List.eraseDups_cons, h]

/-! ### One more record -/

/-- A record with the counts of another added. -/
def plus (m r : Record) : Record := { m with counts := List.zipWith (· + ·) m.counts r.counts }

theorem absorb_cons_of_eq {m r : Record} (hid : m.identifier = r.identifier)
    (hlength : m.counts.length = r.counts.length) (ms : List Record) :
    absorb (m :: ms) r = .ok (m.plus r :: ms) := by
  rw [absorb, if_pos hid, if_pos hlength]
  rfl

theorem absorb_cons_of_length_ne {m r : Record} (hid : m.identifier = r.identifier)
    (hlength : m.counts.length ≠ r.counts.length) (ms : List Record) :
    absorb (m :: ms) r = .error ⟨r.identifier, m.counts.length, r.counts.length⟩ := by
  rw [absorb, if_pos hid, if_neg hlength]

theorem absorb_cons_of_ne {m r : Record} (hid : m.identifier ≠ r.identifier) (ms : List Record) :
    absorb (m :: ms) r = (absorb ms r).map (m :: ·) := by
  rw [absorb, if_neg hid]

/-- A record that is absorbed is added to the first of the merged records, or absorbed by the
others. -/
theorem absorb_cons_cases {m r : Record} {ms ms' : List Record}
    (h : absorb (m :: ms) r = .ok ms') :
    (m.identifier = r.identifier ∧ m.counts.length = r.counts.length ∧ ms' = m.plus r :: ms) ∨
      (m.identifier ≠ r.identifier ∧ ∃ rest, absorb ms r = .ok rest ∧ ms' = m :: rest) := by
  by_cases hid : m.identifier = r.identifier
  · by_cases hlength : m.counts.length = r.counts.length
    · rw [absorb_cons_of_eq hid hlength] at h
      exact .inl ⟨hid, hlength, (Except.ok.inj h).symm⟩
    · rw [absorb_cons_of_length_ne hid hlength] at h
      cases h
  · rw [absorb_cons_of_ne hid] at h
    refine .inr ⟨hid, ?_⟩
    cases hrest : absorb ms r with
    | error e =>
      rw [hrest] at h
      cases h
    | ok rest =>
      rw [hrest] at h
      exact ⟨rest, rfl, (Except.ok.inj h).symm⟩

/-- The first record of a unit goes to the end. -/
theorem absorb_of_not_mem {merged : List Record} {r : Record}
    (h : r.identifier ∉ merged.map Record.identifier) : absorb merged r = .ok (merged ++ [r]) := by
  induction merged with
  | nil => rfl
  | cons m ms ih =>
    obtain ⟨hm, hms⟩ : r.identifier ≠ m.identifier ∧ r.identifier ∉ ms.map Record.identifier := by
      simpa using h
    rw [absorb_cons_of_ne (Ne.symm hm), ih hms]
    rfl

/-- Further records are added to the first of their unit. -/
theorem absorb_of_mem {merged : List Record} {r : Record}
    (hnodup : (merged.map Record.identifier).Nodup)
    (hmem : r.identifier ∈ merged.map Record.identifier)
    (hlength : ∀ m ∈ merged, m.identifier = r.identifier → m.counts.length = r.counts.length) :
    absorb merged r
      = .ok (merged.map fun m => if m.identifier = r.identifier then m.plus r else m) := by
  induction merged with
  | nil => cases hmem
  | cons m ms ih =>
    obtain ⟨hnot, hnodup⟩ := List.nodup_cons.mp hnodup
    by_cases hm : m.identifier = r.identifier
    · have hrest : ∀ x ∈ ms, (if x.identifier = r.identifier then x.plus r else x) = x := by
        intro x hx
        exact if_neg fun hc => hnot (List.mem_map.mpr ⟨x, hx, hc.trans hm.symm⟩)
      rw [absorb_cons_of_eq hm (hlength m (by simp) hm), List.map_cons, if_pos hm,
        List.map_congr_left hrest, List.map_id']
    · have hmem' : r.identifier ∈ ms.map Record.identifier := by
        simpa [Ne.symm hm] using hmem
      rw [absorb_cons_of_ne hm, ih hnodup hmem' fun x hx => hlength x (by simp [hx]), List.map_cons,
        if_neg hm]
      rfl

/-- A record is merged only into one of its size. -/
theorem length_of_absorb {merged merged' : List Record} {r m : Record}
    (hnodup : (merged.map Record.identifier).Nodup) (h : absorb merged r = .ok merged')
    (hm : m ∈ merged) (hid : m.identifier = r.identifier) : m.counts.length = r.counts.length := by
  induction merged generalizing merged' with
  | nil => cases hm
  | cons x xs ih =>
    obtain ⟨hnot, hnodup⟩ := List.nodup_cons.mp hnodup
    obtain ⟨hxid, hlength, -⟩ | ⟨hx, xs', hrest, -⟩ := absorb_cons_cases h
    · rcases List.mem_cons.mp hm with rfl | hm
      · exact hlength
      · exact absurd (List.mem_map.mpr ⟨m, hm, hid.trans hxid.symm⟩) hnot
    · rcases List.mem_cons.mp hm with rfl | hm
      · exact absurd hid hx
      · exact ih hnodup hrest hm

namespace Sums

variable {rs merged : List Record} {r : Record}

theorem nil : Sums [] [] := ⟨rfl, List.nodup_nil, by simp, by simp⟩

theorem mem_iff (h : Sums rs merged) {identifier : Text} :
    identifier ∈ merged.map Record.identifier ↔ identifier ∈ rs.map Record.identifier := by
  rw [h.identifiers, List.mem_eraseDups]

/-- The first record of a unit. -/
theorem append_of_not_mem (h : Sums rs merged)
    (hnew : r.identifier ∉ merged.map Record.identifier) : Sums (rs ++ [r]) (merged ++ [r]) := by
  have hold : r.identifier ∉ rs.map Record.identifier := mt h.mem_iff.mpr hnew
  refine ⟨?_, ?_, ?_, ?_⟩
  · rw [List.map_append, List.map_append, List.map_singleton, eraseDups_concat, if_neg hold,
      h.identifiers]
  · rw [List.map_append]
    exact List.nodup_append.mpr ⟨h.nodup, by simp, by
      rintro a ha b hb rfl
      obtain rfl : a = r.identifier := by simpa using hb
      exact hnew ha⟩
  · intro m hm r' hr' hid
    rw [List.mem_append, List.mem_singleton] at hm hr'
    obtain hm | rfl := hm <;> obtain hr' | rfl := hr'
    · exact h.length m hm r' hr' hid
    · exact absurd (List.mem_map.mpr ⟨m, hm, hid.symm⟩) hnew
    · exact absurd (List.mem_map.mpr ⟨r', hr', hid⟩) hold
    · rfl
  · intro m hm site
    rw [List.mem_append, List.mem_singleton] at hm
    rw [siteSum_append, siteSum_singleton]
    obtain hm | rfl := hm
    · have hne : r.identifier ≠ m.identifier := fun hc =>
        hnew (List.mem_map.mpr ⟨m, hm, hc.symm⟩)
      rw [if_neg hne, Int64.add_zero, h.sum m hm]
    · rw [if_pos rfl, siteSum_of_not_mem hold, Int64.zero_add]

/-- A further record of a unit. -/
theorem append_of_mem (h : Sums rs merged) (hmem : r.identifier ∈ merged.map Record.identifier)
    (hlength : ∀ m ∈ merged, m.identifier = r.identifier → m.counts.length = r.counts.length) :
    Sums (rs ++ [r]) (merged.map fun m => if m.identifier = r.identifier then m.plus r else m) := by
  have hold : r.identifier ∈ rs.map Record.identifier := h.mem_iff.mp hmem
  have hids : (merged.map fun m => if m.identifier = r.identifier then m.plus r else m).map
      Record.identifier = merged.map Record.identifier := by
    rw [List.map_map]
    refine List.map_congr_left fun m _ => ?_
    rw [Function.comp_apply]
    split <;> rfl
  refine ⟨?_, ?_, ?_, ?_⟩
  · rw [hids, h.identifiers, List.map_append, List.map_singleton, eraseDups_concat, if_pos hold]
  · rw [hids]
    exact h.nodup
  · intro m' hm' r' hr' hid
    obtain ⟨m, hm, rfl⟩ := List.mem_map.mp hm'
    have hsame : (if m.identifier = r.identifier then m.plus r else m).counts.length
        = m.counts.length := by
      split
      · rename_i hmid
        simp [plus, hlength m hm hmid]
      · rfl
    have hunit : r'.identifier = m.identifier := by
      rw [hid]
      split <;> rfl
    rw [hsame]
    rw [List.mem_append, List.mem_singleton] at hr'
    obtain hr' | rfl := hr'
    · exact h.length m hm r' hr' hunit
    · exact (hlength m hm hunit.symm).symm
  · intro m' hm' site
    obtain ⟨m, hm, rfl⟩ := List.mem_map.mp hm'
    rw [siteSum_append, siteSum_singleton]
    by_cases hid : m.identifier = r.identifier
    · rw [if_pos hid]
      rw [if_pos (show r.identifier = (m.plus r).identifier from hid.symm)]
      rw [plus, getD_zipWith_add (hlength m hm hid), h.sum m hm]
    · rw [if_neg hid, if_neg (Ne.symm hid), Int64.add_zero, h.sum m hm]

/-- **One more record** of as many sites as those of its unit before it. -/
theorem absorb (h : Sums rs merged)
    (hlength : ∀ x ∈ rs, x.identifier = r.identifier → x.counts.length = r.counts.length) :
    ∃ merged', Record.absorb merged r = .ok merged' ∧ Sums (rs ++ [r]) merged' := by
  by_cases hmem : r.identifier ∈ merged.map Record.identifier
  · have hlength' : ∀ m ∈ merged, m.identifier = r.identifier →
        m.counts.length = r.counts.length := by
      intro m hm hid
      obtain ⟨x, hx, hxid⟩ := List.mem_map.mp (h.mem_iff.mp hmem)
      rw [← h.length m hm x hx (hxid.trans hid.symm), hlength x hx hxid]
    exact ⟨_, absorb_of_mem h.nodup hmem hlength', h.append_of_mem hmem hlength'⟩
  · exact ⟨_, absorb_of_not_mem hmem, h.append_of_not_mem hmem⟩

/-- A record that was merged into those before it. -/
theorem of_absorb {merged' : List Record} (h : Sums rs merged)
    (habsorb : Record.absorb merged r = .ok merged') : Sums (rs ++ [r]) merged' := by
  have hlength : ∀ x ∈ rs, x.identifier = r.identifier → x.counts.length = r.counts.length := by
    intro x hx hid
    obtain ⟨m, hm, hmid⟩ := List.mem_map.mp (h.mem_iff.mpr (List.mem_map.mpr ⟨x, hx, rfl⟩))
    rw [h.length m hm x hx hmid.symm]
    exact length_of_absorb h.nodup habsorb hm (hmid.trans hid)
  obtain ⟨merged'', habsorb', hsums⟩ := h.absorb hlength
  obtain rfl : merged'' = merged' := Except.ok.inj (habsorb'.symm.trans habsorb)
  exact hsums

end Sums

theorem merge_append (a b : List Record) :
    merge (a ++ b) = merge a >>= fun merged => b.foldlM absorb merged := List.foldlM_append

/-- **Merging consistent records gives their sums.** -/
theorem merge_of_consistent {rs : List Record} (h : Consistent rs) :
    ∃ merged, merge rs = .ok merged ∧ Sums rs merged := by
  suffices hall : ∀ (rest done merged : List Record), Consistent (done ++ rest) →
      Sums done merged → ∃ merged', rest.foldlM Record.absorb merged = .ok merged' ∧
        Sums (done ++ rest) merged' from hall rs [] [] h .nil
  intro rest
  induction rest with
  | nil =>
    intro done merged _ hsums
    exact ⟨merged, rfl, by simpa using hsums⟩
  | cons r rest ih =>
    intro done merged hcons hsums
    have hlength : ∀ x ∈ done, x.identifier = r.identifier → x.counts.length = r.counts.length :=
      fun x hx hid => hcons x (by simp [hx]) r (by simp) hid
    obtain ⟨merged', habsorb, hsums'⟩ := hsums.absorb hlength
    have hassoc : done ++ r :: rest = done ++ [r] ++ rest := by simp
    rw [hassoc] at hcons ⊢
    rw [List.foldlM_cons, habsorb]
    exact ih (done ++ [r]) merged' hcons hsums'

/-- **Whatever is merged are the sums of the records.** -/
theorem sums_of_merge {rs merged : List Record} (h : merge rs = .ok merged) : Sums rs merged := by
  suffices hall : ∀ (rest done sums : List Record), Sums done sums →
      rest.foldlM Record.absorb sums = .ok merged → Sums (done ++ rest) merged from
    hall rs [] [] .nil h
  intro rest
  induction rest with
  | nil =>
    intro done sums hsums hfold
    obtain rfl : sums = merged := Except.ok.inj hfold
    simpa using hsums
  | cons r rest ih =>
    intro done sums hsums hfold
    rw [List.foldlM_cons] at hfold
    cases habsorb : Record.absorb sums r with
    | error e =>
      rw [habsorb] at hfold
      cases hfold
    | ok sums' =>
      rw [habsorb] at hfold
      have hrest := ih (done ++ [r]) sums' (hsums.of_absorb habsorb) hfold
      simpa using hrest

/-! ### Records that cannot be merged -/

/-- The number of sites of the first record of a unit. -/
def sitesOf? (rs : List Record) (identifier : Text) : Option Nat :=
  (rs.find? (·.identifier = identifier)).map fun r => r.counts.length

/-- The first record of the list that differs in size from the first record of its unit, as an
error. -/
def FirstMismatch (rs : List Record) (e : MergeError) : Prop :=
  ∃ before r after sites, rs = before ++ r :: after ∧
    (∀ x ∈ before, sitesOf? rs x.identifier = some x.counts.length) ∧
    sitesOf? rs r.identifier = some sites ∧ sites ≠ r.counts.length ∧
    e = ⟨r.identifier, sites, r.counts.length⟩

theorem exists_of_sitesOf? {rs : List Record} {identifier : Text} {sites : Nat}
    (h : sitesOf? rs identifier = some sites) :
    ∃ x ∈ rs, x.identifier = identifier ∧ x.counts.length = sites := by
  obtain ⟨x, hfind, hsites⟩ := Option.map_eq_some_iff.mp h
  exact ⟨x, List.mem_of_find?_eq_some hfind, by simpa using List.find?_some hfind, hsites⟩

theorem exists_sitesOf? {rs : List Record} {r : Record} (hr : r ∈ rs) :
    ∃ sites, sitesOf? rs r.identifier = some sites := by
  have hfind : (rs.find? (·.identifier = r.identifier)).isSome := by
    rw [List.find?_isSome]
    exact ⟨r, hr, by simp⟩
  obtain ⟨x, hx⟩ := Option.isSome_iff_exists.mp hfind
  exact ⟨x.counts.length, by rw [sitesOf?, hx, Option.map_some]⟩

/-- Records are consistent if each agrees with the first of its unit. -/
theorem consistent_of_sitesOf? {rs before : List Record}
    (h : ∀ x ∈ before, sitesOf? rs x.identifier = some x.counts.length) : Consistent before := by
  intro r hr r' hr' hid
  have hsites := h r hr
  rw [hid, h r' hr'] at hsites
  exact (Option.some.inj hsites).symm

theorem exists_firstMismatch {rs : List Record} (h : ¬ Consistent rs) :
    ∃ e, FirstMismatch rs e := by
  have hsome : (rs.find? fun x => sitesOf? rs x.identifier ≠ some x.counts.length).isSome := by
    rw [List.find?_isSome]
    by_contra hnone
    have hsites : ∀ x ∈ rs, sitesOf? rs x.identifier = some x.counts.length := by
      intro x hx
      by_contra hx'
      exact hnone ⟨x, hx, by simpa using hx'⟩
    exact h (consistent_of_sitesOf? hsites)
  obtain ⟨r, hr⟩ := Option.isSome_iff_exists.mp hsome
  obtain ⟨hr, before, after, hrs, hbefore⟩ := List.find?_eq_some_iff_append.mp hr
  have hmem : r ∈ rs := by
    rw [hrs]
    simp
  obtain ⟨sites, hsites⟩ := exists_sitesOf? hmem
  refine ⟨_, before, r, after, sites, hrs, fun x hx => by simpa using hbefore x hx, hsites, ?_, rfl⟩
  rintro rfl
  simp [hsites] at hr

/-- What becomes of a record whose unit has one already. -/
theorem absorb_of_findIdx? {merged : List Record} {r : Record} {i : Nat}
    (h : merged.findIdx? (·.identifier = r.identifier) = some i) :
    ∃ m, merged[i]? = some m ∧ m.identifier = r.identifier ∧
      absorb merged r = if m.counts.length = r.counts.length then .ok (merged.modify i (·.plus r))
        else .error ⟨r.identifier, m.counts.length, r.counts.length⟩ := by
  induction merged generalizing i with
  | nil => cases h
  | cons x xs ih =>
    rw [List.findIdx?_cons] at h
    by_cases hx : x.identifier = r.identifier
    · obtain rfl : 0 = i := by simpa [hx] using h
      refine ⟨x, rfl, hx, ?_⟩
      rw [absorb, if_pos hx, List.modify_zero_cons]
      rfl
    · obtain ⟨k, hk, rfl⟩ : ∃ k, xs.findIdx? (·.identifier = r.identifier) = some k ∧
          k + 1 = i := by
        simpa [hx] using h
      obtain ⟨m, hm, hid, habsorb⟩ := ih hk
      refine ⟨m, by rwa [List.getElem?_cons_succ], hid, ?_⟩
      rw [absorb_cons_of_ne hx, habsorb, List.modify_succ_cons]
      split <;> rfl

/-- Merging stops at the first record that differs in size. -/
theorem merge_of_firstMismatch {rs : List Record} {e : MergeError} (h : FirstMismatch rs e) :
    merge rs = .error e := by
  obtain ⟨before, r, after, sites, rfl, hbefore, hsites, hne, rfl⟩ := h
  obtain ⟨merged, hmerge, hsums⟩ := merge_of_consistent (consistent_of_sitesOf? hbefore)
  -- the first record of the unit is not this one, so it was merged before
  obtain ⟨x, hx, hxid, rfl⟩ : ∃ x ∈ before, x.identifier = r.identifier ∧
      x.counts.length = sites := by
    rw [sitesOf?, List.find?_append] at hsites
    cases hfind : before.find? (·.identifier = r.identifier) with
    | none =>
      rw [hfind] at hsites
      exact absurd (by simpa using hsites) (Ne.symm hne)
    | some x =>
      exact exists_of_sitesOf? (by rw [sitesOf?, hfind]; simpa [hfind] using hsites)
  have hmem : r.identifier ∈ merged.map Record.identifier :=
    hsums.mem_iff.mpr (List.mem_map.mpr ⟨x, hx, hxid⟩)
  obtain ⟨m, hm, hmid⟩ := List.mem_map.mp hmem
  obtain ⟨i, hi⟩ : ∃ i, merged.findIdx? (·.identifier = r.identifier) = some i := by
    rw [← Option.isSome_iff_exists, List.findIdx?_isSome, List.any_eq_true]
    exact ⟨m, hm, by simpa using hmid⟩
  obtain ⟨m, hm, hmid, habsorb⟩ := absorb_of_findIdx? hi
  have hlength : x.counts.length = m.counts.length :=
    hsums.length m (List.mem_of_getElem? hm) x hx (hxid.trans hmid.symm)
  rw [← hlength, if_neg hne] at habsorb
  rw [merge_append, hmerge]
  show (r :: after).foldlM absorb merged = _
  rw [List.foldlM_cons, habsorb]
  rfl

/-- **What cannot be merged**: exactly the records with a first one that differs in size. -/
theorem merge_eq_error_iff {rs : List Record} {e : MergeError} :
    merge rs = .error e ↔ FirstMismatch rs e := by
  refine ⟨fun hmerge => ?_, merge_of_firstMismatch⟩
  by_cases hcons : Consistent rs
  · obtain ⟨merged, hok, -⟩ := merge_of_consistent hcons
    rw [hok] at hmerge
    cases hmerge
  · obtain ⟨e', he'⟩ := exists_firstMismatch hcons
    rw [merge_of_firstMismatch he'] at hmerge
    exact Except.error.inj hmerge ▸ he'

theorem exists_merge_iff {rs : List Record} :
    (∃ merged, merge rs = .ok merged) ↔ Consistent rs := by
  constructor
  · rintro ⟨merged, hmerge⟩
    by_contra hcons
    obtain ⟨e, he⟩ := exists_firstMismatch hcons
    rw [merge_of_firstMismatch he] at hmerge
    cases hmerge
  · intro hcons
    obtain ⟨merged, hmerge, -⟩ := merge_of_consistent hcons
    exact ⟨merged, hmerge⟩

/-! ### Sums as words -/

/-- The sum, as an integer, of the counts of one site over the records of a unit. -/
def exactSum (rs : List Record) (identifier : Text) (site : Nat) : Int :=
  ((rs.filter (·.identifier = identifier)).map fun r => (r.counts.getD site 0).toInt).sum

theorem siteSum_eq_ofInt (rs : List Record) (identifier : Text) (site : Nat) :
    siteSum rs identifier site = Int64.ofInt (exactSum rs identifier site) := by
  rw [siteSum, exactSum]
  induction rs.filter (·.identifier = identifier) with
  | nil => rfl
  | cons r group ih =>
    rw [List.map_cons, List.map_cons, List.sum_cons, List.sum_cons, Int64.ofInt_add,
      Int64.ofInt_toInt, ih]

/-- A merged record holds the exact sums of its unit, wrapped around to words. -/
theorem Sums.map_toInt_counts {rs merged : List Record} (h : Sums rs merged) {m : Record}
    (hm : m ∈ merged) : m.counts.map Int64.toInt = (List.range m.counts.length).map fun site =>
      (exactSum rs m.identifier site).bmod 18446744073709551616 := by
  have hsite : ∀ site, (m.counts.getD site 0).toInt
      = (exactSum rs m.identifier site).bmod 18446744073709551616 := by
    intro site
    rw [h.sum m hm, siteSum_eq_ofInt, Int64.toInt_ofInt]
  refine List.ext_getElem (by simp) fun site hlt _ => ?_
  rw [List.length_map] at hlt
  rw [List.getElem_map, List.getElem_map, List.getElem_range, ← hsite,
    List.getD_eq_getElem?_getD, List.getElem?_eq_getElem hlt, Option.getD_some]

/-! ### Sums that fit a word -/

/-- The sum, as a number, of the counts of one site over the records of a unit; a count below zero
adds nothing. -/
def hitSum (rs : List Record) (identifier : Text) (site : Nat) : Nat :=
  ((rs.filter (·.identifier = identifier)).map fun r => (r.counts.getD site 0).toNatClampNeg).sum

/-- Sums of words are those of numbers, wrapped around. -/
theorem siteSum_eq_ofNat {rs : List Record} (h : ∀ r ∈ rs, ∀ c ∈ r.counts, 0 ≤ c)
    (identifier : Text) (site : Nat) :
    siteSum rs identifier site = Int64.ofNat (hitSum rs identifier site) := by
  rw [siteSum, hitSum]
  have hnonneg : ∀ r ∈ rs.filter (·.identifier = identifier), 0 ≤ r.counts.getD site 0 := by
    intro r hr
    rw [List.getD_eq_getElem?_getD]
    cases hc : r.counts[site]? with
    | none => exact Int64.le_refl 0
    | some c => exact h r (List.mem_of_mem_filter hr) c (List.mem_of_getElem? hc)
  generalize rs.filter (·.identifier = identifier) = group at hnonneg
  induction group with
  | nil => rfl
  | cons r group ih =>
    rw [List.map_cons, List.map_cons, List.sum_cons, List.sum_cons, Int64.ofNat_add,
      Int64.ofNat_toNatClampNeg _ (hnonneg r (by simp)),
      ih fun x hx => hnonneg x (List.mem_cons_of_mem r hx)]

/-- Behind the last site of a unit there is nothing to add up. -/
theorem Sums.hitSum_of_le {rs merged : List Record} (h : Sums rs merged) {m : Record}
    (hm : m ∈ merged) {site : Nat} (hsite : m.counts.length ≤ site) :
    hitSum rs m.identifier site = 0 := by
  rw [hitSum, List.sum_eq_zero_iff_forall_eq_nat]
  intro k hk
  obtain ⟨r, hr, rfl⟩ := List.mem_map.mp hk
  obtain ⟨hr, hid⟩ := List.mem_filter.mp hr
  have hlength : r.counts.length = m.counts.length := h.length m hm r hr (by simpa using hid)
  rw [List.getD_eq_getElem?_getD, List.getElem?_eq_none (by omega)]
  rfl

/-- A merged count is the sum as a number, if that fits a word. -/
theorem Sums.toNatClampNeg_getD {rs merged : List Record} (h : Sums rs merged)
    (hcounts : ∀ r ∈ rs, ∀ c ∈ r.counts, 0 ≤ c) {m : Record} (hm : m ∈ merged) {site : Nat}
    (hfits : hitSum rs m.identifier site < 2 ^ 63) :
    (m.counts.getD site 0).toNatClampNeg = hitSum rs m.identifier site := by
  rw [h.sum m hm, siteSum_eq_ofNat hcounts, Int64.toNatClampNeg_ofNat_of_lt hfits]

end Record

end HitLog
