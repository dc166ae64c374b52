import HitLog.Memory
import HitLog.Proofs.Counting
import HitLog.Proofs.Merge

/-!
# What merging in memory does

Merging adds up in place, so two things have to be said about it: which records come out, and that
nobody else's counts change. Both follow from one description of the memory while merging goes on.
It consists of the buffers that there were before and, behind them, one buffer for each merged
record in order; and the handles of the collection point to these buffers one after the other
(`Memory.handlesFrom`). So memory and collection are told from the merged records alone, a step in
memory is a step of `Record.merge`, and the buffers that there were are never written.

Nothing is assumed about the records that are given, except that their counts are in memory. They
may share buffers, overlap, or be the same.

## Main results

* `Memory.Collection.take_of_new`, `Memory.Collection.take_of_known` — what a step does to memory
* `Memory.addAll_append` — adding in place
* `Memory.merge_of_ok`, `Memory.merge_of_error` — merging in memory is merging
* `Memory.merge_eq_sums` — what is merged, what is not, and that the records given stay
-/

namespace HitLog

open scoped Text

namespace Memory

variable {mem : Memory} {s : Slice}

/-! ### Slices -/

theorem length_load (h : mem.Holds s) : (mem.load s).length = s.length := by
  rw [Holds] at h
  rw [load, List.length_take, List.length_drop]
  omega

/-- New buffers leave the slices alone that there are. -/
theorem load_append (h : mem.Holds s) (fresh : Memory) :
    Memory.load (mem ++ fresh) s = mem.load s := by
  rw [load, load]
  by_cases hlt : s.buffer < mem.length
  · rw [List.getD_eq_getElem?_getD, List.getElem?_append_left hlt, ← List.getD_eq_getElem?_getD]
  · have hnone : mem.getD s.buffer [] = [] := by
      rw [List.getD_eq_getElem?_getD, List.getElem?_eq_none (by omega), Option.getD_none]
    have hlength : s.length = 0 := by
      rw [Holds, hnone, List.length_nil] at h
      omega
    rw [hlength, List.take_zero, List.take_zero]

/-- A slice that is a whole new buffer. -/
theorem load_fresh {fresh : Memory} {i : Nat} {counts : List Int64} (h : fresh[i]? = some counts) :
    Memory.load (mem ++ fresh) ⟨mem.length + i, 0, counts.length⟩ = counts := by
  rw [load, List.getD_eq_getElem?_getD, List.getElem?_append_right (by simp)]
  simp [h]

theorem record_append {h : Handle} (hh : mem.Holds h.counts) (fresh : Memory) :
    Memory.record (mem ++ fresh) h = mem.record h := by
  rw [record, record, load_append hh]

/-! ### Handles of new buffers -/

theorem getElem?_handlesFrom (address : Nat) (rs : List Record) (i : Nat) :
    (handlesFrom address rs)[i]?
      = rs[i]?.map fun r => ⟨r.identifier, address + i, 0, r.counts.length⟩ := by
  induction rs generalizing address i with
  | nil => rfl
  | cons r rs ih =>
    rw [handlesFrom]
    cases i with
    | zero => rfl
    | succ i =>
      rw [List.getElem?_cons_succ, List.getElem?_cons_succ, ih, Nat.add_assoc, Nat.add_comm 1]

theorem findIdx?_handlesFrom (address : Nat) (rs : List Record) (identifier : Text) :
    (handlesFrom address rs).findIdx? (·.identifier = identifier)
      = rs.findIdx? (·.identifier = identifier) := by
  induction rs generalizing address with
  | nil => rfl
  | cons r rs ih => rw [handlesFrom, List.findIdx?_cons, List.findIdx?_cons, ih]

theorem handlesFrom_concat (address : Nat) (rs : List Record) (r : Record) :
    handlesFrom address (rs ++ [r]) = handlesFrom address rs ++
      [⟨r.identifier, address + rs.length, 0, r.counts.length⟩] := by
  induction rs generalizing address with
  | nil => rfl
  | cons x rs ih =>
    rw [List.cons_append, handlesFrom, handlesFrom, ih, List.cons_append, List.length_cons,
      Nat.add_assoc, Nat.add_comm 1]

/-- Handles stay if counts are added up, since sizes stay. -/
theorem handlesFrom_modify (address : Nat) {rs : List Record} {i : Nat} {m r : Record}
    (hm : rs[i]? = some m) (hlength : m.counts.length = r.counts.length) :
    handlesFrom address (rs.modify i (·.plus r)) = handlesFrom address rs := by
  refine List.ext_getElem? fun k => ?_
  rw [getElem?_handlesFrom, getElem?_handlesFrom, List.getElem?_modify]
  by_cases hk : i = k
  · subst hk
    simp [hm, Record.plus, hlength]
  · simp [hk]

theorem map_record_handlesFrom (mem : Memory) (rs : List Record) :
    (handlesFrom mem.length rs).map (Memory.record (mem ++ rs.map Record.counts)) = rs := by
  refine List.ext_getElem? fun i => ?_
  rw [List.getElem?_map, getElem?_handlesFrom, Option.map_map]
  cases hr : rs[i]? with
  | none => rfl
  | some r =>
    have hcounts : (rs.map Record.counts)[i]? = some r.counts := by
      rw [List.getElem?_map, hr, Option.map_some]
    rw [Option.map_some, Function.comp_apply, record, load_fresh hcounts]

/-! ### Adding in place -/

theorem addAt_append (fresh : Memory) (i n site : Nat) (c : Int64) :
    Memory.addAt (mem ++ fresh) ⟨mem.length + i, 0, n⟩ site c
      = mem ++ fresh.modify i (·.modify site (· + c)) := by
  rw [addAt, Nat.zero_add]
  exact List.modifyTailIdx_add _ i mem fresh

/-- Add counts to a list of them, one by one up to some site. -/
def addUpTo (k : Nat) (cs : List Int64) (counts : List Int64) : List Int64 :=
  (List.range k).foldl (fun counts site => counts.modify site (· + cs.getD site 0)) counts

theorem addUpTo_succ (k : Nat) (cs counts : List Int64) :
    addUpTo (k + 1) cs counts = (addUpTo k cs counts).modify k (· + cs.getD k 0) := by
  rw [addUpTo, List.range_succ, List.foldl_append]
  rfl

theorem getElem?_addUpTo (k : Nat) (cs counts : List Int64) (site : Nat) :
    (addUpTo k cs counts)[site]?
      = counts[site]?.map fun c => if site < k then c + cs.getD site 0 else c := by
  induction k with
  | zero => simp [addUpTo]
  | succ k ih =>
    rw [addUpTo_succ, List.getElem?_modify, ih]
    cases counts[site]? with
    | none => rfl
    | some c =>
      by_cases hk : k = site
      · subst hk
        simp
      · have hlt : site < k + 1 ↔ site < k := by omega
        simp [hk, hlt]

theorem addUpTo_length {cs counts : List Int64} (h : counts.length = cs.length) :
    addUpTo cs.length cs counts = List.zipWith (· + ·) counts cs := by
  refine List.ext_getElem? fun site => ?_
  rw [getElem?_addUpTo, List.getElem?_zipWith]
  by_cases hsite : site < cs.length
  · have hcounts : site < counts.length := by omega
    simp [List.getElem?_eq_getElem hcounts, hsite]
  · rw [List.getElem?_eq_none (by omega), List.getElem?_eq_none (by omega)]
    rfl

/-- **Adding in place** to a new buffer, from a slice that was there before. The slice reads the
same all the time, as the buffers before the new ones are not written. -/
theorem addAll_append {source : Slice} (h : mem.Holds source) (fresh : Memory) (i n : Nat) :
    Memory.addAll (mem ++ fresh) ⟨mem.length + i, 0, n⟩ source
      = mem ++ fresh.modify i (addUpTo source.length (mem.load source)) := by
  rw [addAll]
  generalize source.length = k
  induction k with
  | zero =>
    have hid : addUpTo 0 (mem.load source) = id := rfl
    rw [List.range_zero, List.foldl_nil, hid, List.modify_id]
  | succ k ih =>
    have hsucc : addUpTo (k + 1) (mem.load source)
        = (·.modify k (· + (mem.load source).getD k 0)) ∘ addUpTo k (mem.load source) := by
      funext counts
      exact addUpTo_succ k _ counts
    rw [List.range_succ, List.foldl_append, ih, List.foldl_cons, List.foldl_nil, load_append h,
      addAt_append, List.modify_modify_eq, hsucc]

/-! ### Steps of merging -/

namespace Collection

variable {c : Collection} {h : Handle}

/-- The first record of a unit is copied. -/
theorem take_of_new (hplace : place? c.index h.identifier = none) (mem : Memory) :
    ∃ c' : Collection, c'.handles = c.handles ++
        [⟨h.identifier, mem.length, 0, (mem.load h.counts).length⟩] ∧
      c.take h mem = (.ok c', mem ++ [mem.load h.counts]) := by
  have htake : c.take h = do
      let counts ← copy h.counts
      return c.insert ⟨h.identifier, counts⟩ hplace := by
    unfold take
    split
    · rfl
    · rename_i hsome
      rw [hplace] at hsome
      cases hsome
  rw [htake]
  exact ⟨_, rfl, rfl⟩

/-- A further record is added to the copy, or refused. -/
theorem take_of_known {i : Nat} {m : Handle} (hplace : place? c.index h.identifier = some i)
    (hm : c.handles[i]? = some m) (mem : Memory) :
    c.take h mem = if m.counts.length = h.counts.length then
        (.ok c, mem.addAll m.counts h.counts)
      else (.error ⟨h.identifier, m.counts.length, h.counts.length⟩, mem) := by
  have hget : c.handles.get ⟨i, lt_length hplace⟩ = m := by
    rw [List.get_eq_getElem]
    exact (List.getElem_eq_iff _).mpr hm
  have htake : c.take h = if m.counts.length = h.counts.length then do
        modify (·.addAll m.counts h.counts)
        return c
      else throw ⟨h.identifier, m.counts.length, h.counts.length⟩ := by
    subst hget
    unfold take
    split
    · rename_i hnone
      rw [hplace] at hnone
      cases hnone
    · rename_i k hk
      obtain rfl : i = k := Option.some.inj (hplace.symm.trans hk)
      rfl
  rw [htake]
  split <;> rfl

end Collection

/-! ### Merging -/

/-- What merging in memory comes to where merging comes to a result: the same error, or handles of
the merged records. In both cases the memory is the old one with new buffers behind it. -/
inductive Follows (mem : Memory) : Except Record.MergeError (List Record) →
    Except Record.MergeError Collection × Memory → Prop where
  | ok {merged : List Record} {c : Collection} : c.handles = handlesFrom mem.length merged →
    Follows mem (.ok merged) (.ok c, mem ++ merged.map Record.counts)
  | error (merged : List Record) {e : Record.MergeError} :
    Follows mem (.error e) (.error e, mem ++ merged.map Record.counts)

variable {c : Collection} {merged : List Record}

/-- Counts are added in place as they are added to a record. -/
theorem map_counts_modify {i : Nat} {m r : Record} (hm : merged[i]? = some m)
    (hlength : m.counts.length = r.counts.length) :
    (merged.map Record.counts).modify i (addUpTo r.counts.length r.counts)
      = (merged.modify i (·.plus r)).map Record.counts := by
  refine List.ext_getElem? fun k => ?_
  rw [List.getElem?_modify, List.getElem?_map, List.getElem?_map, List.getElem?_modify]
  by_cases hk : i = k
  · subst hk
    simp [hm, addUpTo_length hlength, Record.plus]
  · simp [hk]

/-- **A step in memory is a step of merging.** -/
theorem follows_take {h : Handle} (hc : c.handles = handlesFrom mem.length merged)
    (hh : mem.Holds h.counts) :
    Follows mem (Record.absorb merged (mem.record h))
      (c.take h (mem ++ merged.map Record.counts)) := by
  have hplace : place? c.index h.identifier
      = merged.findIdx? (·.identifier = (mem.record h).identifier) := by
    rw [c.place?_eq, hc, findIdx?_handlesFrom]
    rfl
  have hlength : (mem.record h).counts.length = h.counts.length := length_load hh
  cases hfind : merged.findIdx? (·.identifier = (mem.record h).identifier) with
  | none =>
    have hnew : (mem.record h).identifier ∉ merged.map Record.identifier := by
      intro hmem
      obtain ⟨m, hm, hid⟩ := List.mem_map.mp hmem
      exact absurd hid (by simpa using List.findIdx?_eq_none_iff.mp hfind m hm)
    obtain ⟨c', hc', htake⟩ := Collection.take_of_new (hplace.trans hfind)
      (mem ++ merged.map Record.counts)
    have hmemory : mem ++ merged.map Record.counts ++ [mem.load h.counts]
        = mem ++ (merged ++ [mem.record h]).map Record.counts := by
      rw [List.map_append, List.append_assoc]
      rfl
    rw [load_append hh, hmemory] at htake
    rw [Record.absorb_of_not_mem hnew, htake]
    refine .ok ?_
    rw [hc', hc, load_append hh, handlesFrom_concat, List.length_append, List.length_map]
    rfl
  | some i =>
    obtain ⟨m, hm, -, habsorb⟩ := Record.absorb_of_findIdx? hfind
    have hhandle : c.handles[i]? = some ⟨m.identifier, mem.length + i, 0, m.counts.length⟩ := by
      rw [hc, getElem?_handlesFrom, hm, Option.map_some]
    rw [habsorb, Collection.take_of_known (hplace.trans hfind) hhandle, hlength]
    by_cases hsize : m.counts.length = h.counts.length
    · have hsize' : m.counts.length = (mem.record h).counts.length := hsize.trans hlength.symm
      have hadd : Memory.addAll (mem ++ merged.map Record.counts)
          ⟨mem.length + i, 0, m.counts.length⟩ h.counts
            = mem ++ (merged.modify i (·.plus (mem.record h))).map Record.counts := by
        rw [addAll_append hh, ← map_counts_modify hm hsize', hlength]
        rfl
      rw [if_pos hsize, if_pos hsize, hadd]
      exact .ok (by rw [hc, handlesFrom_modify mem.length hm hsize'])
    · rw [if_neg hsize, if_neg hsize]
      exact .error merged

/-- **Merging in memory is merging**, record after record. -/
theorem follows_foldlM {hs : List Handle} (hc : c.handles = handlesFrom mem.length merged)
    (hhs : ∀ h ∈ hs, mem.Holds h.counts) :
    Follows mem ((hs.map mem.record).foldlM Record.absorb merged)
      (hs.foldlM Collection.take c (mem ++ merged.map Record.counts)) := by
  induction hs generalizing c merged with
  | nil => exact .ok hc
  | cons h hs ih =>
    obtain ⟨hh, hhs⟩ := List.forall_mem_cons.mp hhs
    have hstep := follows_take hc hh
    rw [List.map_cons, List.foldlM_cons, List.foldlM_cons, bind_apply]
    generalize Record.absorb merged (mem.record h) = x at hstep ⊢
    generalize c.take h (mem ++ merged.map Record.counts) = y at hstep ⊢
    cases hstep with
    | ok hc' => exact ih hc' hhs
    | error merged' => exact .error merged'

section Merge

variable {hs : List Handle} (hhs : ∀ h ∈ hs, mem.Holds h.counts)

include hhs

theorem follows_merge :
    Follows mem (Record.merge (hs.map mem.record)) (hs.foldlM Collection.take .empty mem) := by
  have hfollows : Follows mem ((hs.map mem.record).foldlM Record.absorb []) _ :=
    follows_foldlM (c := .empty) rfl hhs
  rwa [List.map_nil, List.append_nil] at hfollows

/-- The merged records stand in new buffers, one after the other. -/
theorem merge_of_ok (h : Record.merge (hs.map mem.record) = .ok merged) :
    merge hs mem = (.ok (handlesFrom mem.length merged), mem ++ merged.map Record.counts) := by
  have hfollows := follows_merge hhs
  rw [h] at hfollows
  rw [merge, bind_apply]
  generalize hs.foldlM Collection.take .empty mem = x at hfollows ⊢
  cases hfollows with
  | ok hc =>
    rw [← hc]
    rfl

/-- Where merging stops, new buffers are left behind and nothing else is. -/
theorem merge_of_error {e : Record.MergeError} (h : Record.merge (hs.map mem.record) = .error e) :
    ∃ merged : List Record, merge hs mem = (.error e, mem ++ merged.map Record.counts) := by
  have hfollows := follows_merge hhs
  rw [h] at hfollows
  rw [merge, bind_apply]
  generalize hs.foldlM Collection.take .empty mem = x at hfollows ⊢
  cases hfollows with
  | error merged => exact ⟨merged, rfl⟩

/-- Merging in memory gives the merged records, and the old buffers stay. -/
theorem merge_eq :
    (merge hs mem).1.map (·.map (merge hs mem).2.record) = Record.merge (hs.map mem.record) ∧
      ∃ fresh, (merge hs mem).2 = mem ++ fresh := by
  cases hmerge : Record.merge (hs.map mem.record) with
  | ok merged =>
    rw [merge_of_ok hhs hmerge]
    refine ⟨?_, _, rfl⟩
    exact congrArg Except.ok (map_record_handlesFrom mem merged)
  | error e =>
    obtain ⟨merged, hmemory⟩ := merge_of_error hhs hmerge
    rw [hmemory]
    exact ⟨rfl, _, rfl⟩

end Merge

/-- **Merging gives the sums of the records, or the first that differs in size, and the records that
it is given stay as they are.** Records can be merged exactly if any two of one unit have the same
number of sites. The merged records have distinct identifiers, which are those of the given ones in
the order of their first occurrence; each has the number of sites of its unit, and at each site the
sum over the unit's records, wrapped around to a word of 64 bits. Otherwise the error is that of the
first record whose size is not that of the first record of its unit. In both cases every slice that
was in memory reads as before, and so does every record given, whichever of them share counts. -/
theorem merge_eq_sums (mem : Memory) (hs : List Handle) (hhs : ∀ h ∈ hs, mem.Holds h.counts) :
    let rs := hs.map mem.record
    let result := (merge hs mem).1
    let mem' := (merge hs mem).2
    ((∃ merged, result = .ok merged) ↔ ∀ r ∈ rs, ∀ r' ∈ rs,
        r.identifier = r'.identifier → r.counts.length = r'.counts.length) ∧
      (∀ merged, result = .ok merged → ∃ ms, merged.map mem'.record = ms ∧
        (ms.map Record.identifier).Nodup ∧
        ms.map Record.identifier = (rs.map Record.identifier).eraseDups ∧
        ∀ m ∈ ms, (∀ r ∈ rs, r.identifier = m.identifier → r.counts.length = m.counts.length) ∧
          m.counts.map Int64.toInt = (List.range m.counts.length).map fun site =>
            (Record.exactSum rs m.identifier site).bmod 18446744073709551616) ∧
      (∀ e, result = .error e ↔ Record.FirstMismatch rs e) ∧
      (∀ e, result = .error e → e.message =
        "unit " ++ Quoted.quote e.identifier ++ ": " ++ Numeral.decimal e.expected ++
          " sites, record has " ++ Numeral.decimal e.actual) ∧
      result.map (·.map mem'.record) = Record.merge rs ∧
      hs.map mem'.record = rs ∧ ∀ s, mem.Holds s → mem'.load s = mem.load s := by
  intro rs result mem'
  obtain ⟨hresult, fresh, hmem'⟩ := merge_eq hhs
  have hok : ∀ merged, result = .ok merged → Record.merge rs = .ok (merged.map mem'.record) := by
    intro merged hmerged
    rw [← hresult]
    exact congrArg (Except.map _) hmerged
  have herror : ∀ e, result = .error e ↔ Record.merge rs = .error e := by
    intro e
    rw [← hresult]
    change _ ↔ result.map _ = _
    cases result <;> simp [Except.map]
  refine ⟨?_, fun merged hmerged => ?_, fun e => ?_, fun e _ => rfl, hresult, ?_,
    fun s hslice => ?_⟩
  · refine Iff.trans ⟨?_, ?_⟩ Record.exists_merge_iff
    · rintro ⟨merged, hmerged⟩
      exact ⟨_, hok merged hmerged⟩
    · rintro ⟨ms, hms⟩
      cases hcase : result with
      | ok merged => exact ⟨merged, rfl⟩
      | error e =>
        rw [(herror e).mp hcase] at hms
        cases hms
  · have hsums := Record.sums_of_merge (hok merged hmerged)
    exact ⟨_, rfl, hsums.nodup, hsums.identifiers, fun m hm =>
      ⟨hsums.length m hm, hsums.map_toInt_counts hm⟩⟩
  · rw [herror, Record.merge_eq_error_iff]
  · refine List.map_congr_left fun h hh => ?_
    change Memory.record (merge hs mem).2 h = _
    rw [hmem', record_append (hhs h hh)]
  · change Memory.load (merge hs mem).2 s = _
    rw [hmem', load_append hslice]

/-- Two records of one unit that share a count, with a sum too large for a word and another unit
between them; and two that differ in size. -/
theorem merge_eq_sums_of_overlap :
    let mem : Memory := [[Int64.maxValue, 1, 7]]
    let hs : List Handle := [⟨"u", 0, 0, 2⟩, ⟨"v", 0, 2, 1⟩, ⟨"u", 0, 1, 2⟩]
    let hs' : List Handle := [⟨"u", 0, 0, 2⟩, ⟨"v", 0, 0, 1⟩, ⟨"u", 0, 0, 3⟩]
    (∀ h ∈ hs, mem.Holds h.counts) ∧ (∀ h ∈ hs', mem.Holds h.counts) ∧
      (merge hs mem).1.map (·.map (merge hs mem).2.record)
        = .ok [⟨"u", [Int64.minValue, 8]⟩, ⟨"v", [7]⟩] ∧
      hs.map (merge hs mem).2.record
        = [⟨"u", [Int64.maxValue, 1]⟩, ⟨"v", [7]⟩, ⟨"u", [1, 7]⟩] ∧
      (merge hs' mem).1 = .error ⟨"u", 2, 3⟩ := by
  intro mem hs hs'
  have hhs : ∀ h ∈ hs, mem.Holds h.counts := by decide
  have hhs' : ∀ h ∈ hs', mem.Holds h.counts := by decide
  obtain ⟨-, -, -, -, hresult, hgiven, -⟩ := merge_eq_sums mem hs hhs
  refine ⟨hhs, hhs', hresult.trans (by decide), hgiven.trans (by decide), ?_⟩
  refine ((merge_eq_sums mem hs' hhs').2.2.1 _).mpr ?_
  exact ⟨[⟨"u", [Int64.maxValue, 1]⟩, ⟨"v", [Int64.maxValue]⟩],
    ⟨"u", [Int64.maxValue, 1, 7]⟩, [], 2, by decide, by decide, by decide, by decide, rfl⟩

end Memory

end HitLog
