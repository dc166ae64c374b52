import HitLog.Proofs.Merge
import Mathlib.Data.List.Induction
import Mathlib.Data.List.Perm.Basic

/-!
# Merging in pieces and in any order

Logs are merged where they lie, and what comes out is merged again. That this changes nothing is a
statement about the whole answer: the order of units, the sums, and the error if sizes differ. So it
is not derived from what the sums are, but from the way in which records are absorbed.

The heart of it is that adding a record of a unit that is there already can be moved past records of
other units, whether these are absorbed or refused (`Record.Adds`, `Record.Differ`). Hence a list of
merged records acts, on whatever was merged before, as the list that it was merged from
(`Record.foldlM_absorb_of_merge`).

Independence of the order is weaker, as the order of units and the error do depend on it. There the
sums are all that is needed.

## Main definitions

* `Record.Adds` — merged records before and after one more is added to its unit
* `Record.Differ` — results that differ by one record added, or not at all if they are errors

## Main results

* `Record.foldlM_absorb_of_merge` — merged records stand for those they were merged from
* `Record.merge_append_merged` — merging in pieces
* `Record.merge_perm` — merging in any order
-/

namespace HitLog

open scoped Text

namespace Record

variable {r m x : Record} {acc acc' ms ms' : List Record}

/-! ### Adding records -/

theorem length_plus (h : m.counts.length = r.counts.length) :
    (m.plus r).counts.length = m.counts.length := by
  rw [plus, List.length_zipWith, h, Nat.min_self]

theorem plus_plus (x m r : Record) : (x.plus m).plus r = x.plus (m.plus r) := by
  have hcounts : List.zipWith (· + ·) (List.zipWith (· + ·) x.counts m.counts) r.counts
      = List.zipWith (· + ·) x.counts (List.zipWith (· + ·) m.counts r.counts) := by
    refine List.ext_getElem? fun site => ?_
    simp only [List.getElem?_zipWith]
    cases x.counts[site]? <;> cases m.counts[site]? <;> cases r.counts[site]? <;>
      simp [Int64.add_assoc]
  rw [plus, plus, plus, plus, hcounts]

/-- Two records of one unit can be added first and absorbed then, also where they are refused. -/
theorem absorb_plus (hid : m.identifier = r.identifier)
    (hlength : m.counts.length = r.counts.length) (acc : List Record) :
    absorb acc (m.plus r) = absorb acc m >>= fun acc => absorb acc r := by
  induction acc with
  | nil => exact (absorb_cons_of_eq hid hlength []).symm
  | cons x xs ih =>
    have hsum : (m.plus r).counts.length = m.counts.length := length_plus hlength
    by_cases hx : x.identifier = m.identifier
    · have hx' : x.identifier = (m.plus r).identifier := hx
      by_cases hsize : x.counts.length = m.counts.length
      · rw [absorb_cons_of_eq hx hsize, absorb_cons_of_eq hx' (hsize.trans hsum.symm), ← plus_plus]
        have hid' : (x.plus m).identifier = r.identifier := hx.trans hid
        exact (absorb_cons_of_eq hid' (by rw [length_plus hsize, hsize, hlength]) xs).symm
      · rw [absorb_cons_of_length_ne hx hsize, absorb_cons_of_length_ne hx' (by rwa [hsum]), hsum]
        rfl
    · have hx' : x.identifier ≠ (m.plus r).identifier := hx
      rw [absorb_cons_of_ne hx, absorb_cons_of_ne hx', ih]
      cases absorb xs m with
      | error e => rfl
      | ok ys => exact (absorb_cons_of_ne (hid ▸ hx) ys).symm

/-! ### Adding past other units -/

/-- Merged records before and after a record is added to the one of its unit. -/
inductive Adds (r : Record) : List Record → List Record → Prop where
  | here {m : Record} {ms : List Record} : m.identifier = r.identifier →
    m.counts.length = r.counts.length → Adds r (m :: ms) (m.plus r :: ms)
  | there {m : Record} {ms ms' : List Record} : m.identifier ≠ r.identifier → Adds r ms ms' →
    Adds r (m :: ms) (m :: ms')

/-- Results that are the same error, or merged records before and after a record is added. -/
inductive Differ (r : Record) :
    Except MergeError (List Record) → Except MergeError (List Record) → Prop where
  | ok {ms ms' : List Record} : Adds r ms ms' → Differ r (.ok ms) (.ok ms')
  | error (e : MergeError) : Differ r (.error e) (.error e)

theorem Adds.absorb_eq (h : Adds r ms ms') : absorb ms r = .ok ms' := by
  induction h with
  | here hid hlength => exact absorb_cons_of_eq hid hlength _
  | there hid _ ih =>
    rw [absorb_cons_of_ne hid, ih]
    rfl

/-- Where a record was absorbed, another one of its unit and size can be added. -/
theorem exists_adds_of_absorb (hid : m.identifier = r.identifier)
    (hlength : m.counts.length = r.counts.length) (h : absorb acc m = .ok ms) :
    ∃ ms', Adds r ms ms' := by
  induction acc generalizing ms with
  | nil =>
    obtain rfl : [m] = ms := Except.ok.inj h
    exact ⟨_, .here hid hlength⟩
  | cons x xs ih =>
    obtain ⟨hx, hsize, rfl⟩ | ⟨hx, ys, hrest, rfl⟩ := absorb_cons_cases h
    · exact ⟨_, .here (hx.trans hid) (by rw [length_plus hsize, hsize, hlength])⟩
    · obtain ⟨ys', hys⟩ := ih hrest
      exact ⟨x :: ys', .there (hid ▸ hx) hys⟩

/-- One record of another unit is absorbed, or refused, whether the record was added or not. -/
theorem Adds.absorb_other (h : Adds r ms ms') (hne : x.identifier ≠ r.identifier) :
    Differ r (absorb ms x) (absorb ms' x) := by
  induction h with
  | @here m ms hid hlength =>
    have hm : m.identifier ≠ x.identifier := fun hc => hne (hc.symm.trans hid)
    have hm' : (m.plus r).identifier ≠ x.identifier := hm
    rw [absorb_cons_of_ne hm, absorb_cons_of_ne hm']
    cases absorb ms x with
    | error e => exact .error e
    | ok ys => exact .ok (.here hid hlength)
  | @there m ms ms' hid hadds ih =>
    by_cases hm : m.identifier = x.identifier
    · by_cases hsize : m.counts.length = x.counts.length
      · rw [absorb_cons_of_eq hm hsize, absorb_cons_of_eq hm hsize]
        exact .ok (.there hid hadds)
      · rw [absorb_cons_of_length_ne hm hsize, absorb_cons_of_length_ne hm hsize]
        exact .error _
    · rw [absorb_cons_of_ne hm, absorb_cons_of_ne hm]
      generalize absorb ms x = y at ih ⊢
      generalize absorb ms' x = y' at ih ⊢
      cases ih with
      | ok hys => exact .ok (.there hid hys)
      | error e => exact .error e

/-- All records of other units are, too. -/
theorem Adds.foldlM_absorb (h : Adds r acc acc') (hnot : r.identifier ∉ ms.map Record.identifier) :
    Differ r (ms.foldlM absorb acc) (ms.foldlM absorb acc') := by
  induction ms generalizing acc acc' with
  | nil => exact .ok h
  | cons x ms ih =>
    obtain ⟨hx, hms⟩ : r.identifier ≠ x.identifier ∧ r.identifier ∉ ms.map Record.identifier := by
      simpa using hnot
    have hstep := h.absorb_other (Ne.symm hx)
    rw [List.foldlM_cons, List.foldlM_cons]
    generalize absorb acc x = y at hstep ⊢
    generalize absorb acc' x = y' at hstep ⊢
    cases hstep with
    | ok hadds => exact ih hadds hms
    | error e => exact .error e

/-- Adding last is adding first. -/
theorem Adds.foldlM_absorb_bind (h : Adds r acc acc')
    (hnot : r.identifier ∉ ms.map Record.identifier) :
    (ms.foldlM absorb acc >>= fun acc => absorb acc r) = ms.foldlM absorb acc' := by
  have hdiffer := h.foldlM_absorb hnot
  generalize ms.foldlM absorb acc = y at hdiffer ⊢
  generalize ms.foldlM absorb acc' = y' at hdiffer ⊢
  cases hdiffer with
  | ok hadds => exact hadds.absorb_eq
  | error e => rfl

/-! ### Merged records in place of others -/

/-- Absorbing a record and then all of the result is absorbing all and then the record. -/
theorem foldlM_absorb_of_absorb (hnodup : (ms.map Record.identifier).Nodup)
    (h : absorb ms r = .ok ms') (acc : List Record) :
    ms'.foldlM absorb acc = ms.foldlM absorb acc >>= fun acc => absorb acc r := by
  induction ms generalizing acc ms' with
  | nil =>
    obtain rfl : [r] = ms' := Except.ok.inj h
    simp
  | cons m ms ih =>
    obtain ⟨hnot, hnodup⟩ := List.nodup_cons.mp hnodup
    obtain ⟨hid, hlength, rfl⟩ | ⟨-, ms₁, hrest, rfl⟩ := absorb_cons_cases h
    · rw [List.foldlM_cons, List.foldlM_cons, absorb_plus hid hlength, bind_assoc, bind_assoc]
      cases hm : absorb acc m with
      | error e => rfl
      | ok acc₁ =>
        obtain ⟨acc₂, hadds⟩ := exists_adds_of_absorb hid hlength hm
        show (absorb acc₁ r >>= fun acc => ms.foldlM absorb acc) = _
        rw [hadds.absorb_eq]
        exact (hadds.foldlM_absorb_bind (hid ▸ hnot)).symm
    · rw [List.foldlM_cons, List.foldlM_cons, bind_assoc]
      refine congrArg (absorb acc m >>= ·) (funext fun acc₁ => ?_)
      exact ih hnodup hrest acc₁

theorem merge_concat (a : List Record) (r : Record) :
    merge (a ++ [r]) = merge a >>= fun merged => absorb merged r := by
  rw [merge_append]
  simp

/-- **Merged records stand for those they were merged from**, whatever was merged before them. -/
theorem foldlM_absorb_of_merge {b b' : List Record} (h : merge b = .ok b') (acc : List Record) :
    b'.foldlM absorb acc = b.foldlM absorb acc := by
  induction b using List.reverseRecOn generalizing b' with
  | nil =>
    obtain rfl : [] = b' := Except.ok.inj h
    rfl
  | append_singleton b r ih =>
    rw [merge_concat] at h
    cases hmerge : merge b with
    | error e =>
      rw [hmerge] at h
      cases h
    | ok merged =>
      rw [hmerge] at h
      rw [foldlM_absorb_of_absorb (sums_of_merge hmerge).nodup h, ih hmerge, List.foldlM_append]
      simp

/-- Records of different units are merged already. -/
theorem merge_of_nodup (h : (ms.map Record.identifier).Nodup) : merge ms = .ok ms := by
  induction ms using List.reverseRecOn with
  | nil => rfl
  | append_singleton ms r ih =>
    rw [List.map_append, List.nodup_append] at h
    obtain ⟨hnodup, -, hdisjoint⟩ := h
    have hnew : r.identifier ∉ ms.map Record.identifier := fun hmem =>
      hdisjoint _ hmem _ (by simp) rfl
    rw [merge_concat, ih hnodup]
    exact absorb_of_not_mem hnew

/-- **Merging can be done in pieces.** What cannot be merged cannot be merged with more behind it,
for the same reason; merged pieces can be put in the place of the pieces, which changes neither the
records nor the error if pieces differ in size; and merging again changes nothing. -/
theorem merge_append_merged (a b : List Record) :
    (∀ e, merge a = .error e → merge (a ++ b) = .error e) ∧
      (∀ a' b', merge a = .ok a' → merge b = .ok b' → merge (a ++ b) = merge (a' ++ b')) ∧
      ∀ a', merge a = .ok a' → merge a' = .ok a' := by
  have hagain : ∀ a', merge a = .ok a' → merge a' = .ok a' := fun a' ha =>
    merge_of_nodup (sums_of_merge ha).nodup
  refine ⟨fun e he => ?_, fun a' b' ha hb => ?_, hagain⟩
  · rw [merge_append, he]
    rfl
  · rw [merge_append, merge_append, ha, hagain a' ha]
    exact (foldlM_absorb_of_merge hb a').symm

/-- Pieces with a unit in common whose counts wrap around, and pieces that differ in the size of a
unit though each of them can be merged. -/
theorem merge_append_merged_of_wrap_and_conflict :
    let a : List Record := [⟨"u", [Int64.maxValue, 2]⟩, ⟨"v", [3]⟩, ⟨"u", [4, 5]⟩]
    let b : List Record := [⟨"w", [7]⟩, ⟨"v", [1]⟩, ⟨"v", [1]⟩]
    let c : List Record := [⟨"v", [1]⟩, ⟨"u", [9, 9, 9]⟩, ⟨"u", [1, 1, 1]⟩]
    merge (a ++ b)
        = .ok [⟨"u", [-9223372036854775805, 7]⟩, ⟨"v", [5]⟩, ⟨"w", [7]⟩] ∧
      merge (a ++ c) = .error ⟨"u", 2, 3⟩ ∧ merge (c ++ a ++ b) = .error ⟨"u", 3, 2⟩ := by
  intro a b c
  have ha : merge a = .ok [⟨"u", [-9223372036854775805, 7]⟩, ⟨"v", [3]⟩] := by decide
  have hb : merge b = .ok [⟨"w", [7]⟩, ⟨"v", [2]⟩] := by decide
  have hc : merge c = .ok [⟨"v", [1]⟩, ⟨"u", [10, 10, 10]⟩] := by decide
  refine ⟨?_, ?_, (merge_append_merged (c ++ a) b).1 _ (by decide)⟩
  · exact ((merge_append_merged a b).2.1 _ _ ha hb).trans (by decide)
  · exact ((merge_append_merged a c).2.1 _ _ ha hc).trans (by decide)

/-! ### Any order -/

variable {rs rs' merged merged' : List Record}

theorem siteSum_cons (r : Record) (rs : List Record) (identifier : Text) (site : Nat) :
    siteSum (r :: rs) identifier site
      = siteSum [r] identifier site + siteSum rs identifier site :=
  siteSum_append [r] rs identifier site

theorem siteSum_perm (h : rs.Perm rs') (identifier : Text) (site : Nat) :
    siteSum rs identifier site = siteSum rs' identifier site := by
  induction h with
  | nil => rfl
  | cons r _ ih => rw [siteSum_cons, ih, ← siteSum_cons]
  | swap r r' rs =>
    rw [siteSum_cons, siteSum_cons r rs, siteSum_cons r (r' :: rs), siteSum_cons r' rs,
      ← Int64.add_assoc, ← Int64.add_assoc, Int64.add_comm (siteSum [r'] identifier site)]
  | trans _ _ ih ih' => exact ih.trans ih'

theorem consistent_perm (h : rs.Perm rs') : Consistent rs ↔ Consistent rs' := by
  simp only [Consistent, h.mem_iff]

/-- The records of one unit are merged to the same record in any order. -/
theorem Sums.eq_of_perm (h : Sums rs merged) (h' : Sums rs' merged') (hperm : rs.Perm rs')
    {m m' : Record} (hm : m ∈ merged) (hm' : m' ∈ merged')
    (hid : m.identifier = m'.identifier) : m = m' := by
  obtain ⟨r, hr, hrid⟩ := List.mem_map.mp (h.mem_iff.mp (List.mem_map.mpr ⟨m, hm, rfl⟩))
  have hlength : m.counts.length = m'.counts.length := by
    rw [← h.length m hm r hr hrid,
      h'.length m' hm' r (hperm.mem_iff.mp hr) (hrid.trans hid)]
  have hcounts : m.counts = m'.counts := by
    refine List.ext_getElem hlength fun site hlt hlt' => ?_
    have hsite : m.counts.getD site 0 = m'.counts.getD site 0 := by
      rw [h.sum m hm, h'.sum m' hm', siteSum_perm hperm, hid]
    simpa [List.getD_eq_getElem?_getD, hlt, hlt'] using hsite
  cases m
  cases m'
  cases hid
  cases hcounts
  rfl

theorem Sums.subset_of_perm (h : Sums rs merged) (h' : Sums rs' merged') (hperm : rs.Perm rs') :
    merged ⊆ merged' := by
  intro m hm
  have hmem : m.identifier ∈ merged'.map Record.identifier := by
    rw [h'.mem_iff, ← (hperm.map Record.identifier).mem_iff, ← h.mem_iff]
    exact List.mem_map.mpr ⟨m, hm, rfl⟩
  obtain ⟨m', hm', hid⟩ := List.mem_map.mp hmem
  rw [h.eq_of_perm h' hperm hm hm' hid.symm]
  exact hm'

/-- **Merging does not depend on the order of records**, but for the order of units: of two lists
that differ in their order, both can be merged or none, and the merged records differ in their order
only. -/
theorem merge_perm {rs rs' : List Record} (hperm : rs.Perm rs') :
    ((∃ merged, merge rs = .ok merged) ↔ ∃ merged', merge rs' = .ok merged') ∧
      ∀ merged merged', merge rs = .ok merged → merge rs' = .ok merged' →
        merged.Perm merged' := by
  refine ⟨?_, fun merged merged' hmerge hmerge' => ?_⟩
  · rw [exists_merge_iff, exists_merge_iff, consistent_perm hperm]
  · have hsums := sums_of_merge hmerge
    have hsums' := sums_of_merge hmerge'
    rw [List.perm_ext_iff_of_nodup hsums.nodup.of_map hsums'.nodup.of_map]
    exact fun m => ⟨fun hm => hsums.subset_of_perm hsums' hperm hm,
      fun hm => hsums'.subset_of_perm hsums hperm.symm hm⟩

/-- Three records whose units come in another order when the records do, and records that cannot be
merged in either order. -/
theorem merge_perm_of_three :
    let rs : List Record := [⟨"u", [1]⟩, ⟨"v", [2]⟩, ⟨"u", [3]⟩]
    let rs' : List Record := [⟨"v", [2]⟩, ⟨"u", [3]⟩, ⟨"u", [1]⟩]
    rs.Perm rs' ∧ merge rs = .ok [⟨"u", [4]⟩, ⟨"v", [2]⟩] ∧
      (∃ merged', merge rs' = .ok merged' ∧ [⟨"u", [4]⟩, ⟨"v", [2]⟩].Perm merged') ∧
      ¬ ∃ merged, merge (⟨"v", []⟩ :: rs') = .ok merged := by
  intro rs rs'
  have hperm : rs.Perm rs' := by decide
  have hmerge : merge rs = .ok [⟨"u", [4]⟩, ⟨"v", [2]⟩] := by decide
  obtain ⟨merged', hmerge'⟩ := (merge_perm hperm).1.mp ⟨_, hmerge⟩
  refine ⟨hperm, hmerge, ⟨merged', hmerge', (merge_perm hperm).2 _ _ hmerge hmerge'⟩, ?_⟩
  rw [← (merge_perm (hperm.cons ⟨"v", []⟩)).1]
  rintro ⟨merged, hmerged⟩
  have herror : merge (⟨"v", []⟩ :: rs) = .error ⟨"v", 0, 1⟩ := by decide
  rw [herror] at hmerged
  cases hmerged

end Record

end HitLog
