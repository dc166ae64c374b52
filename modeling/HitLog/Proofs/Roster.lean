import HitLog.Session.Roster
import HitLog.Proofs.Interleaving
import HitLog.Proofs.Sample
import HitLog.Proofs.Schedule

/-!
# Two ways to a table

A session tells the addresses of its tables in two ways, by the names of units and by their order.
The structures behind the two are made together and never change afterwards. So it is enough to know
them once: the tables of a valid configuration stand at the first addresses in the order of the
units, and the index has each name with its place (`Roster.make_eq`). Names are distinct, and thus
the index leads to the place where the name is.

An operation is a call on a table that is reached in one of the two ways. Where the table stands
decides which calls it sees: those through its name and those through its place, and no others.
Behind any operations, each table therefore has the counters of exactly these calls
(`Roster.applyAll_eq`). This is also why a session may be described as a list of tables without any
addresses, as it is elsewhere: by `HeldStage.perform_eq` it gives the same answers.

## Main definitions

* `Roster.Access`, `Roster.reach` — how a table is reached, and which one is
* `Roster.apply`, `Roster.applyAll` — the store behind operations
* `Roster.callsOn` — the operations that reach a unit's table
* `Roster.Shows` — the table that a unit has, whichever way one looks
* `HeldStage.Sound` — the roster lists the tables of the store

## Main results

* `Roster.make_eq` — the roster of a configuration
* `Roster.applyAll_eq` — the tables behind operations
* `HeldStage.perform_eq`, `HeldStage.performAll_of_make` — a session with its tables in a store is a
  session
* `Roster.views_agree` — both ways lead to the same counters
-/

namespace HitLog

open scoped Text

namespace Roster

variable {names : List Text} {store : Store}

/-- The roster of tables that stand at the first addresses. -/
def ofNames (names : List Text) : Roster := ⟨List.range names.length, names.zipIdx.reverse⟩

/-! ### Making tables -/

theorem ofNames_concat (names : List Text) (name : Text) :
    ofNames (names ++ [name])
      = ⟨(ofNames names).addresses ++ [names.length],
        (name, names.length) :: (ofNames names).index⟩ := by
  simp [ofNames, List.range_succ, List.zipIdx_append]

theorem enter_of_make {u : UnitSpec} {t : Table} (h : Table.make u.identifier u.sites = .ok t)
    (r : Roster) (store : Store) :
    r.enter u store = (.ok ⟨r.addresses ++ [store.length], (u.identifier, store.length) :: r.index⟩,
      store ++ [t]) := by
  rw [enter, bind_apply, h]
  rfl

/-- Tables go behind those that there are, and so do their addresses. -/
theorem foldlM_enter {us : List UnitSpec} (hvalid : ∀ u ∈ us, u.Valid)
    (hroom : ∀ u ∈ us, u.sites.toInt ≤ Table.maxSites) (hstore : store.length = names.length) :
    us.foldlM enter (ofNames names) store
      = (.ok (ofNames (names ++ us.map UnitSpec.identifier)),
        store ++ us.map Session.zeroTable) := by
  induction us generalizing names store with
  | nil =>
    rw [List.map_nil, List.map_nil, List.append_nil, List.append_nil]
    rfl
  | cons u us ih =>
    obtain ⟨hu, hvalid⟩ := List.forall_mem_cons.mp hvalid
    obtain ⟨huroom, hroom⟩ := List.forall_mem_cons.mp hroom
    have hlength : (store ++ [Session.zeroTable u]).length = (names ++ [u.identifier]).length := by
      rw [List.length_append, List.length_append, hstore]
      rfl
    rw [List.foldlM_cons, bind_apply, enter_of_make (Session.make_eq_ok hu huroom), hstore,
      ← ofNames_concat]
    simpa using ih hvalid hroom hlength

/-- **The roster of a valid configuration** with room for its sites. -/
theorem make_eq {config : Config} (hvalid : config.Valid) (hroom : config.Roomy) :
    make config.units [] = (.ok (ofNames (config.units.map UnitSpec.identifier)),
      config.units.map Session.zeroTable) := by
  show config.units.foldlM enter (ofNames []) [] = _
  rw [foldlM_enter hvalid.each hroom rfl, List.nil_append, List.nil_append]

/-! ### Finding tables -/

/-- Where names are distinct, the index leads to the place of a name. -/
theorem find?_eq_some_iff (hnodup : names.Nodup) {name : Text} {i : Nat} :
    (ofNames names).find? name = some i ↔ names[i]? = some name := by
  have hplace : ∀ {k}, (ofNames names).find? name = some k → names[k]? = some name := by
    intro k hk
    obtain ⟨before, later, hsplit, -⟩ := List.lookup_eq_some_iff.mp hk
    have hmem : (name, k) ∈ (ofNames names).index := by
      rw [hsplit]
      exact List.mem_append_cons_self
    exact List.mem_zipIdx_iff_getElem?.mp (List.mem_reverse.mp hmem)
  refine ⟨hplace, fun hi => ?_⟩
  cases hfind : (ofNames names).find? name with
  | none =>
    have hmem : (name, i) ∈ (ofNames names).index :=
      List.mem_reverse.mpr (List.mem_zipIdx_iff_getElem?.mpr hi)
    have hne := List.lookup_eq_none_iff.mp hfind _ hmem
    simp at hne
  | some k =>
    obtain ⟨hlt, -⟩ := List.getElem?_eq_some_iff.mp hi
    rw [(List.getElem?_inj hlt hnodup).mp (hi.trans (hplace hfind).symm)]

/-- Of two units of one name, the index knows the later. -/
example : (ofNames ["u", "v", "u"]).find? "u" = some 2 := by decide

theorem isSome_find?_iff (hnodup : names.Nodup) {name : Text} :
    ((ofNames names).find? name).isSome ↔ name ∈ names := by
  rw [Option.isSome_iff_exists, List.mem_iff_getElem?]
  exact exists_congr fun _ => find?_eq_some_iff hnodup

theorem getElem?_addresses_eq_some_iff {i k : Nat} :
    (ofNames names).addresses[i]? = some k ↔ i < names.length ∧ i = k := by
  rw [ofNames, List.getElem?_eq_some_iff]
  simp

/-- All tables of the store are listed. -/
theorem load_ofNames (h : store.length = names.length) : (ofNames names).load store = store := by
  have hlisted : (List.range store.length).map (store[·]?) = store.map some := by
    refine List.ext_getElem (by simp) fun i _ _ => ?_
    simp
  calc (ofNames names).load store
    _ = (List.range store.length).filterMap (store[·]?) := by rw [load, ofNames, h]
    _ = ((List.range store.length).map (store[·]?)).filterMap id := by
      rw [List.filterMap_map]
      rfl
    _ = store := by
      rw [hlisted, List.filterMap_map]
      exact List.filterMap_some

/-- Tables are put to the addresses of those that there are, one after the other. -/
theorem foldl_set (tables done old : List Table) (h : old.length = tables.length) :
    ((List.range' done.length tables.length).zip tables).foldl
      (fun store (address, t) => store.set address t) (done ++ old) = done ++ tables := by
  induction tables generalizing done old with
  | nil =>
    rw [List.eq_nil_of_length_eq_zero h]
    rfl
  | cons t tables ih =>
    obtain ⟨u, old, rfl⟩ := List.exists_cons_of_length_eq_add_one h
    have hset : (done ++ u :: old).set done.length t = (done ++ [t]) ++ old := by simp
    have hrest := ih (done ++ [t]) old (Nat.succ.inj h)
    rw [List.length_append, List.length_singleton] at hrest
    rw [List.length_cons, List.range'_succ, List.zip_cons_cons, List.foldl_cons]
    dsimp only
    rw [hset, hrest, List.append_assoc]
    rfl

/-- Tables that are put to all addresses are the new store. -/
theorem save_ofNames {tables : List Table} (hstore : store.length = names.length)
    (htables : tables.length = names.length) : (ofNames names).save tables store = tables := by
  rw [save, ofNames, ← htables, List.range_eq_range']
  exact foldl_set tables [] store (hstore.trans htables.symm)

/-! ### Operations -/

/-- How a table is reached. -/
inductive Access where
  /-- By the name of its unit. -/
  | unit (name : Text)
  /-- By its place in the list of all tables. -/
  | place (i : Nat)
  deriving DecidableEq

/-- The address that an access leads to. -/
def reach (r : Roster) : Access → Option Nat
  | .unit name => r.find? name
  | .place i => r.addresses[i]?

/-- The store behind a call on the table that an access leads to. A fault is caught, and where there
is no table nothing is called. -/
def apply (r : Roster) (store : Store) (x : Access × Table.Call) : Store :=
  match (r.reach x.1).bind (store.count? · (Counting.ofTable (x.2.perform ·))) with
  | none => store
  | some (_, store) => store

/-- The store behind operations, one after the other. -/
def applyAll (r : Roster) (store : Store) (ops : List (Access × Table.Call)) : Store :=
  ops.foldl r.apply store

/-- The calls on the table of a unit: those through its name and those through its place. -/
def callsOn (name : Text) (i : Nat) (ops : List (Access × Table.Call)) : List Table.Call :=
  (ops.filter fun x => x.1 = .unit name ∨ x.1 = .place i).map Prod.snd

theorem reach_eq_some_iff (hnodup : names.Nodup) {name : Text} {k : Nat}
    (hk : names[k]? = some name) {a : Access} :
    (ofNames names).reach a = some k ↔ a = .unit name ∨ a = .place k := by
  obtain ⟨hlt, -⟩ := List.getElem?_eq_some_iff.mp hk
  cases a with
  | unit other =>
    rw [reach, find?_eq_some_iff hnodup, hk]
    simp [eq_comm]
  | place i =>
    rw [reach, getElem?_addresses_eq_some_iff]
    simp only [reduceCtorEq, false_or, Access.place.injEq]
    exact ⟨fun h => h.2, fun h => ⟨h ▸ hlt, h⟩⟩

/-- **An operation changes the table that it reaches** and no other. -/
theorem getElem?_apply (r : Roster) (store : Store) (a : Access) (c : Table.Call) (k : Nat) :
    (r.apply store (a, c))[k]?
      = if r.reach a = some k then store[k]?.map fun t => (c.attempt t).2 else store[k]? := by
  rw [apply]
  cases hreach : r.reach a with
  | none => rfl
  | some j =>
    rw [Option.bind_some, Store.count?]
    by_cases hjk : j = k
    · subst hjk
      rw [if_pos rfl]
      cases ht : store[j]? with
      | none => exact ht
      | some t =>
        obtain ⟨hlt, -⟩ := List.getElem?_eq_some_iff.mp ht
        exact List.getElem?_set_self hlt
    · rw [if_neg fun h => hjk (Option.some.inj h)]
      cases store[j]? with
      | none => rfl
      | some t => exact List.getElem?_set_ne hjk

theorem callsOn_concat (name : Text) (i : Nat) (ops : List (Access × Table.Call)) (a : Access)
    (c : Table.Call) :
    callsOn name i (ops ++ [(a, c)])
      = if a = .unit name ∨ a = .place i then callsOn name i ops ++ [c]
        else callsOn name i ops := by
  rw [callsOn, callsOn, List.filter_append, List.map_append]
  by_cases h : a = .unit name ∨ a = .place i <;> simp [h]

/-- The tables behind operations, as they should be. -/
def tallied (units : List UnitSpec) (ops : List (Access × Table.Call)) : List Table :=
  units.mapIdx fun i u =>
    Table.counted u.identifier u.sites.toNatClampNeg (callsOn u.identifier i ops)

theorem getElem?_tallied (units : List UnitSpec) (ops : List (Access × Table.Call)) (i : Nat) :
    (tallied units ops)[i]? = units[i]?.map fun u =>
      Table.counted u.identifier u.sites.toNatClampNeg (callsOn u.identifier i ops) :=
  List.getElem?_mapIdx

theorem length_tallied (units : List UnitSpec) (ops : List (Access × Table.Call)) :
    (tallied units ops).length = (units.map UnitSpec.identifier).length := by
  rw [tallied, List.length_mapIdx, List.length_map]

theorem map_identifier_tallied (units : List UnitSpec) (ops : List (Access × Table.Call)) :
    (tallied units ops).map Table.identifier = units.map UnitSpec.identifier := by
  refine List.ext_getElem? fun i => ?_
  rw [List.getElem?_map, getElem?_tallied, List.getElem?_map, Option.map_map]
  rfl

/-- One operation, on counters that say what was called before. -/
theorem apply_tallied {units : List UnitSpec} (hnodup : (units.map UnitSpec.identifier).Nodup)
    (ops : List (Access × Table.Call)) (x : Access × Table.Call) :
    (ofNames (units.map UnitSpec.identifier)).apply (tallied units ops) x
      = tallied units (ops ++ [x]) := by
  obtain ⟨a, c⟩ := x
  refine List.ext_getElem? fun k => ?_
  rw [getElem?_apply, getElem?_tallied, getElem?_tallied]
  cases hu : units[k]? with
  | none => simp
  | some u =>
    have hname : (units.map UnitSpec.identifier)[k]? = some u.identifier := by
      rw [List.getElem?_map, hu]
      rfl
    simp only [reach_eq_some_iff hnodup hname, Option.map_some, callsOn_concat,
      Table.attempt_counted]
    split <;> rfl

/-- **The tables behind operations** have the counters of the calls that reached them. -/
theorem applyAll_eq {config : Config} (hvalid : config.Valid) (hroom : config.Roomy)
    (ops : List (Access × Table.Call)) :
    (ofNames (config.units.map UnitSpec.identifier)).applyAll
      (config.units.map Session.zeroTable) ops = tallied config.units ops := by
  induction ops using List.reverseRecOn with
  | nil =>
    refine List.ext_getElem? fun i => ?_
    rw [applyAll, List.foldl_nil, getElem?_tallied, List.getElem?_map]
    refine Option.map_congr fun u hu => ?_
    have hmem : u ∈ config.units := List.mem_of_getElem? hu
    exact Table.eq_counted_of_make (Session.make_eq_ok (hvalid.each u hmem) (hroom u hmem))
  | append_singleton ops x ih =>
    rw [← apply_tallied hvalid.distinct, ← ih]
    exact List.foldl_concat ..

/-! ### Tables by name -/

/-- Where names are distinct, the index leads to the table that a search would find. -/
theorem bind_find? (hnodup : (store.map Table.identifier).Nodup) (name : Text) :
    ((ofNames (store.map Table.identifier)).find? name).bind (store[·]?)
      = store.find? (·.identifier = name) := by
  cases hfind : (ofNames (store.map Table.identifier)).find? name with
  | none =>
    symm
    rw [Option.bind_none, List.find?_eq_none]
    intro t ht hname
    have hmem : name ∈ store.map Table.identifier :=
      List.mem_map.mpr ⟨t, ht, of_decide_eq_true hname⟩
    rw [← isSome_find?_iff hnodup, hfind] at hmem
    cases hmem
  | some i =>
    have hi := (find?_eq_some_iff hnodup).mp hfind
    rw [List.getElem?_map, Option.map_eq_some_iff] at hi
    obtain ⟨t, ht, hname⟩ := hi
    obtain ⟨hlt, rfl⟩ := List.getElem?_eq_some_iff.mp ht
    symm
    rw [Option.bind_some, ht, List.find?_eq_some_iff_getElem]
    refine ⟨decide_eq_true hname, i, hlt, rfl, fun j hj => ?_⟩
    -- a table before it has another name
    have hne : (store.map Table.identifier)[j]? ≠ (store.map Table.identifier)[i]? := by
      rw [Ne, List.getElem?_inj (by rw [List.length_map]; omega) hnodup]
      omega
    rw [List.getElem?_map, List.getElem?_map, ht, List.getElem?_eq_getElem (by omega)] at hne
    simpa [hname] using hne

end Roster

namespace Session

/-- Where identifiers differ, a table is replaced at its address. -/
theorem setTable_eq_set {tables : List Table} (hnodup : (tables.map Table.identifier).Nodup)
    {t t' : Table} {i : Nat} (ht : tables[i]? = some t) (hid : t'.identifier = t.identifier) :
    setTable t' tables = tables.set i t' := by
  induction tables generalizing i with
  | nil => cases ht
  | cons u us ih =>
    obtain ⟨hnot, hnodup⟩ := List.nodup_cons.mp hnodup
    cases i with
    | zero =>
      obtain rfl : u = t := Option.some.inj ht
      rw [setTable, if_pos hid.symm, List.set_cons_zero]
    | succ i =>
      have hne : u.identifier ≠ t'.identifier := by
        intro hu
        exact hnot (List.mem_map.mpr ⟨t, List.mem_of_getElem? ht, (hu.trans hid).symm⟩)
      rw [setTable, if_neg hne, ih hnodup ht, List.set_cons_succ]

end Session

/-! ### Sessions with their tables in a store -/

/-- What both of two codes keep, they keep together. -/
theorem Counting.shape_bind {α β : Type} {x : Counting α} {k : α → Counting β}
    (hx : ∀ t, (x t).2.shape = t.shape) (hk : ∀ a t, (k a t).2.shape = t.shape) (t : Table) :
    ((x >>= k) t).2.shape = t.shape := by
  have ht := hx t
  rw [bind_apply]
  rcases hrun : x t with ⟨_ | a, t'⟩ <;> rw [hrun] at ht
  · exact ht
  · exact (hk a t').trans ht

/-- Fibonacci calls that never come to an end keep their table, too. -/
theorem Benchmark.shape_fibonacci_of_neg {n : Int64} (h : n < 0) (t : Table) :
    (fibonacci n t).2.shape = t.shape := by
  have hzero : n ≠ 0 := by
    rintro rfl
    exact absurd h (by decide)
  have hone : n ≠ 1 := by
    rintro rfl
    exact absurd h (by decide)
  rw [fibonacci]
  simp only [hzero, hone, h, if_false, if_true]
  have hhit : ∀ site t, (Counting.hit site t).2.shape = t.shape := fun site =>
    (Counting.Follows.hit site).shape
  exact Counting.shape_bind (hhit _) (fun _ => Counting.shape_bind (hhit _) fun _ =>
    Counting.shape_bind (hhit _) fun _ _ => rfl) t

/-- No action on a table changes its name, whether it comes to an end or not. -/
theorem TableAction.identifier_perform (now : Int64) (a : TableAction) (t : Table) :
    (a.perform now t).2.identifier = t.identifier := by
  suffices hshape : (a.perform now t).2.shape = t.shape from congrArg Prod.fst hshape
  by_cases h : (Action.table [] a).Ordinary
  · exact (perform_follows now h).shape t
  · cases a with
    | fibonacci n =>
      have hn : n < 0 := Int64.not_le.mp h
      rw [perform, map_eq_pure_bind]
      exact Counting.shape_bind (Benchmark.shape_fibonacci_of_neg hn) (fun _ _ => rfl) t
    | _ => exact absurd trivial h

namespace HeldStage

/-- The roster lists the tables of the store, and no two of them have one name. -/
structure Sound (s : HeldStage) : Prop where
  roster : s.roster = .ofNames (s.store.map Table.identifier)
  distinct : (s.store.map Table.identifier).Nodup

variable {s : HeldStage}

namespace Sound

theorem load (h : s.Sound) : s.roster.load s.store = s.store := by
  rw [h.roster]
  exact Roster.load_ofNames (List.length_map _).symm

theorem loaded_eq (h : s.Sound) : s.loaded = s.stage.withTables s.store := by
  rw [loaded, h.load]
  rfl

theorem tables_loaded (h : s.Sound) : s.loaded.session.tables = s.store := h.load

theorem table?_loaded (h : s.Sound) (unit : Text) :
    s.loaded.session.table? unit = (s.roster.find? unit).bind (s.store[·]?) := by
  rw [Session.table?, h.tables_loaded, h.roster, Roster.bind_find? h.distinct]

theorem isSome_find? (h : s.Sound) (unit : Text) :
    (s.roster.find? unit).isSome = (s.loaded.session.table? unit).isSome := by
  rw [← Session.contains_units, Session.units, h.tables_loaded, h.roster, Bool.eq_iff_iff,
    Roster.isSome_find?_iff h.distinct, List.contains_iff_mem]

/-- The store may have other tables of the same names. -/
theorem withStore (h : s.Sound) {store : Store} (stage : Stage)
    (hnames : store.map Table.identifier = s.store.map Table.identifier) :
    Sound ⟨s.roster, store, stage⟩ :=
  ⟨hnames ▸ h.roster, hnames ▸ h.distinct⟩

end Sound

/-- What a stage has for tables may be put back into the store. -/
theorem Sound.resume (h : s.Sound) {stage : Stage}
    (hunits : stage.session.units = s.loaded.session.units) :
    let next : HeldStage := ⟨s.roster, s.roster.save stage.session.tables s.store, stage⟩
    next.loaded = stage ∧ next.Sound := by
  intro next
  have hnames : stage.session.tables.map Table.identifier = s.store.map Table.identifier := by
    rw [← h.tables_loaded]
    exact hunits
  have hstore : next.store = stage.session.tables := by
    show s.roster.save _ _ = _
    rw [h.roster]
    refine Roster.save_ofNames (List.length_map _).symm ?_
    rw [← hnames, List.length_map]
  have hsound : next.Sound := h.withStore stage ((congrArg _ hstore).trans hnames)
  refine ⟨?_, hsound⟩
  rw [hsound.loaded_eq, hstore]
  rfl

/-- An action on a table is done at its address. -/
theorem perform_table_eq (h : s.Sound) (env : Environment) (unit : Text) (action : TableAction) :
    let a := Action.table unit action
    (s.perform env a).1 = (s.loaded.perform env a).1 ∧
      (s.perform env a).2.loaded = (s.loaded.perform env a).2 ∧ (s.perform env a).2.Sound := by
  intro a
  rw [perform, Stage.perform, Session.count?, h.table?_loaded]
  cases hfind : s.roster.find? unit with
  | none => exact ⟨rfl, rfl, h⟩
  | some i =>
    rw [Option.bind_some, Option.bind_some, Store.count?]
    cases ht : s.store[i]? with
    | none => exact ⟨rfl, rfl, h⟩
    | some t =>
      have hid := action.identifier_perform env.now t
      have hset := Session.setTable_eq_set h.distinct ht hid
      have hsound : Sound ⟨s.roster, s.store.set i (action.perform env.now t).2, s.stage⟩ := by
        refine h.withStore s.stage ?_
        rw [← hset, Session.map_identifier_setTable]
      refine ⟨rfl, hsound.loaded_eq.trans ?_, hsound⟩
      show _ = s.stage.withTables (Session.setTable (action.perform env.now t).2 _)
      rw [h.tables_loaded, hset]

/-- **A session with its tables in a store is a session**: it answers as if the tables were its own,
and has the same tables afterwards. -/
theorem perform_eq (h : s.Sound) (env : Environment) (a : Action) :
    (s.perform env a).1 = (s.loaded.perform env a).1 ∧
      (s.perform env a).2.loaded = (s.loaded.perform env a).2 ∧ (s.perform env a).2.Sound := by
  have hresume := h.resume (s.loaded.units_perform env a)
  cases a with
  | table unit action => exact perform_table_eq h env unit action
  | hasTable unit =>
    refine ⟨?_, rfl, h⟩
    show Except.ok (Answer.truth _) = Except.ok (Answer.truth _)
    rw [h.isSome_find?]
  | tables => exact ⟨rfl, rfl, h⟩
  | tableCount =>
    refine ⟨?_, rfl, h⟩
    show Except.ok (Answer.size _) = Except.ok (Answer.size _)
    rw [h.tables_loaded, h.roster, Roster.ofNames, List.length_range, List.length_map]
  | records => exact ⟨rfl, rfl, h⟩
  | _ => exact ⟨rfl, hresume⟩

/-- **So are whole sessions.** Faults are caught, and each action has its own surroundings. Behind
any actions, every further one is answered alike. -/
theorem performAll_eq (h : s.Sound) (actions : List (Environment × Action)) :
    let held := actions.foldl (fun s x => (s.perform x.1 x.2).2) s
    let stage := actions.foldl (fun s x => (s.perform x.1 x.2).2) s.loaded
    held.loaded = stage ∧ ∀ env a, (held.perform env a).1 = (stage.perform env a).1 := by
  induction actions generalizing s with
  | nil => exact ⟨rfl, fun env a => (perform_eq h env a).1⟩
  | cons x actions ih =>
    obtain ⟨-, hloaded, hsound⟩ := perform_eq h x.1 x.2
    rw [List.foldl_cons, List.foldl_cons, ← hloaded]
    exact ih hsound

/-- A session begins with the tables that its configuration asks for. -/
theorem sound_of_make {config : Config} (hvalid : config.Valid) (hroom : config.Roomy)
    {roster : Roster} {store : Store} (hmake : Roster.make config.units [] = (.ok roster, store))
    (hostName : Text) (hooked : Bool) (world : World) :
    let stage : Stage := ⟨Session.initial config hostName, hooked, world⟩
    Sound ⟨roster, store, stage⟩ ∧ (HeldStage.mk roster store stage).loaded = stage := by
  intro stage
  rw [Roster.make_eq hvalid hroom] at hmake
  cases hmake
  have hnames : (config.units.map Session.zeroTable).map Table.identifier
      = config.units.map UnitSpec.identifier := by
    rw [List.map_map]
    rfl
  have hsound : Sound ⟨.ofNames (config.units.map UnitSpec.identifier),
      config.units.map Session.zeroTable, stage⟩ :=
    ⟨congrArg Roster.ofNames hnames.symm, hnames ▸ hvalid.distinct⟩
  exact ⟨hsound, hsound.loaded_eq⟩

/-- The session of a configuration is one and the same, with its tables in a store or its own. -/
theorem performAll_of_make {config : Config} (hvalid : config.Valid) (hroom : config.Roomy)
    {roster : Roster} {store : Store} (hmake : Roster.make config.units [] = (.ok roster, store))
    (hostName : Text) (hooked : Bool) (world : World) (actions : List (Environment × Action)) :
    let start : Stage := ⟨Session.initial config hostName, hooked, world⟩
    let held := actions.foldl (fun s x => (s.perform x.1 x.2).2) (HeldStage.mk roster store start)
    let stage := actions.foldl (fun s x => (s.perform x.1 x.2).2) start
    held.loaded = stage ∧ ∀ env a, (held.perform env a).1 = (stage.perform env a).1 := by
  obtain ⟨hsound, hloaded⟩ := sound_of_make hvalid hroom hmake hostName hooked world
  have h := performAll_eq hsound actions
  rwa [hloaded] at h

end HeldStage

/-! ### Both ways at once -/

namespace Roster

/-- The table that a unit has, whichever way one looks: by its name, by its place, in the list of
all tables and among the records. -/
structure Shows (r : Roster) (store : Store) (name : Text) (i : Nat) (t : Table) : Prop where
  byName : (r.find? name).bind (store[·]?) = some t
  byPlace : (r.addresses[i]?).bind (store[·]?) = some t
  listed : (r.load store)[i]? = some t
  recorded : (r.records store)[i]? = some t.record

theorem shows_ofNames {names : List Text} {store : Store} (hnodup : names.Nodup)
    (hstore : store.length = names.length) {name : Text} {i : Nat} (hname : names[i]? = some name)
    {t : Table} (ht : store[i]? = some t) : (ofNames names).Shows store name i t := by
  obtain ⟨hlt, -⟩ := List.getElem?_eq_some_iff.mp hname
  refine ⟨?_, ?_, ?_, ?_⟩
  · rw [(find?_eq_some_iff hnodup).mpr hname, Option.bind_some, ht]
  · rw [getElem?_addresses_eq_some_iff.mpr ⟨hlt, rfl⟩, Option.bind_some, ht]
  · rw [load_ofNames hstore, ht]
  · rw [records, load_ofNames hstore, List.getElem?_map, ht]
    rfl

/-- Both structures list the same addresses. -/
theorem map_find? {names : List Text} (hnodup : names.Nodup) :
    names.map (ofNames names).find? = (ofNames names).addresses.map some := by
  refine List.ext_getElem (by simp [ofNames]) fun i hi _ => ?_
  rw [List.length_map] at hi
  rw [List.getElem_map, (find?_eq_some_iff hnodup).mpr (List.getElem?_eq_getElem hi)]
  simp [ofNames]

theorem toNatClampNeg_sites {u : UnitSpec} (hu : u.Valid) :
    (u.sites.toNatClampNeg : Int) = u.sites.toInt := by
  have hpos : 0 < u.sites.toInt := Int64.lt_iff_toInt_lt.mp hu.sited
  exact Int.toNat_of_nonneg hpos.le

theorem map_shape_tallied {units : List UnitSpec} (hvalid : ∀ u ∈ units, u.Valid)
    (ops : List (Access × Table.Call)) :
    (tallied units ops).map (fun t => (t.identifier, (t.size : Int)))
      = units.map fun u => (u.identifier, u.sites.toInt) := by
  refine List.ext_getElem? fun i => ?_
  rw [List.getElem?_map, getElem?_tallied, List.getElem?_map, Option.map_map]
  refine Option.map_congr fun u hu => ?_
  rw [Function.comp, Table.size_counted, toNatClampNeg_sites (hvalid u (List.mem_of_getElem? hu))]
  rfl

/-- **Both ways lead to the same counters.** A valid configuration with room for its sites gets its
tables. Behind any operations through names or places, with faults caught, exactly the units of the
configuration are found by name; the tables and the records are those of the units, in order, with
their names and numbers of sites; and each unit has one table, whichever way one looks, which has
counted the calls through its name and through its place. One more call through either changes the
table of that unit alone. The session of the configuration, which has tables and no addresses, finds
the same ones. -/
theorem views_agree (config : Config) (hvalid : config.violation? = none) (hroom : config.Roomy)
    (ops : List (Access × Table.Call)) :
    ∃ roster store, make config.units [] = (.ok roster, store) ∧
      (∀ name, (roster.find? name).isSome ↔ name ∈ config.units.map UnitSpec.identifier) ∧
      roster.addresses.Nodup ∧
      (config.units.map fun u => roster.find? u.identifier) = roster.addresses.map some ∧
      (roster.load (roster.applyAll store ops)).map (fun t => (t.identifier, (t.size : Int)))
        = (config.units.map fun u => (u.identifier, u.sites.toInt)) ∧
      (roster.records (roster.applyAll store ops)).map
          (fun r => (r.identifier, (r.counts.length : Int)))
        = (config.units.map fun u => (u.identifier, u.sites.toInt)) ∧
      (∀ i u, config.units[i]? = some u →
        let t := Table.counted u.identifier u.sites.toNatClampNeg (callsOn u.identifier i ops)
        roster.Shows (roster.applyAll store ops) u.identifier i t ∧
          ∀ a c, roster.Shows (roster.apply (roster.applyAll store ops) (a, c)) u.identifier i
            (if a = .unit u.identifier ∨ a = .place i then (c.attempt t).2 else t)) ∧
      ∀ hostName, ∃ s, Session.start config hostName = .ok s ∧ s.tables = roster.load store ∧
        ∀ name, (s.withTables (roster.load (roster.applyAll store ops))).table? name
          = (roster.find? name).bind ((roster.applyAll store ops)[·]?) := by
  rw [Config.violation?_eq_none_iff] at hvalid
  have hnodup := hvalid.distinct
  have hload := fun ops => load_ofNames (length_tallied config.units ops)
  have hshapes := map_shape_tallied hvalid.each ops
  refine ⟨_, _, make_eq hvalid hroom, fun _ => isSome_find?_iff hnodup, List.nodup_range,
    ?_, ?_, ?_, ?_, ?_⟩
  · rw [← map_find? hnodup, List.map_map]
    rfl
  · rw [applyAll_eq hvalid hroom, hload, hshapes]
  · rw [records, applyAll_eq hvalid hroom, hload, List.map_map]
    exact hshapes
  · intro i u hu t
    have hname : (config.units.map UnitSpec.identifier)[i]? = some u.identifier := by
      rw [List.getElem?_map, hu]
      rfl
    have ht : (tallied config.units ops)[i]? = some t := by
      rw [getElem?_tallied, hu]
      rfl
    rw [applyAll_eq hvalid hroom]
    refine ⟨shows_ofNames hnodup (length_tallied _ ops) hname ht, fun a c => ?_⟩
    refine shows_ofNames hnodup ?_ hname ?_
    · rw [apply_tallied hnodup, length_tallied]
    · simp only [getElem?_apply, reach_eq_some_iff hnodup hname, ht]
      split <;> rfl
  · intro hostName
    have hnames := map_identifier_tallied config.units ops
    refine ⟨_, Session.start_eq_ok hvalid hroom hostName, ?_, fun name => ?_⟩
    · show config.units.map Session.zeroTable = _
      rw [load_ofNames (by rw [List.length_map, List.length_map])]
    · rw [applyAll_eq hvalid hroom, hload, ← hnames, bind_find? (hnames ▸ hnodup)]
      rfl

/-- Calls on two units through names and places, with a site that is not there, a place that is not
there and a name that is not there, and then one more call. -/
theorem views_agree_of_two_units :
    let ops : List (Access × Table.Call) :=
      [(.unit "u", .inc 1), (.place 0, .add 1 4), (.place 1, .inc 0), (.unit "v", .inc 5),
        (.place 7, .inc 0), (.unit "x", .inc 0)]
    Sample.config.violation? = none ∧ Sample.config.Roomy ∧
      ∃ roster store, make Sample.config.units [] = (.ok roster, store) ∧
        ¬ (roster.find? "x").isSome ∧
        roster.Shows (roster.applyAll store ops) "u" 0 ⟨"u", [0, 5]⟩ ∧
        roster.Shows (roster.applyAll store ops) "v" 1 ⟨"v", [1]⟩ ∧
        roster.Shows (roster.apply (roster.applyAll store ops) (.place 1, .add 0 2)) "u" 0
          ⟨"u", [0, 5]⟩ ∧
        roster.Shows (roster.apply (roster.applyAll store ops) (.place 1, .add 0 2)) "v" 1
          ⟨"v", [3]⟩ := by
  intro ops
  have hvalid : Sample.config.violation? = none := by decide
  have hroom : Sample.config.Roomy := by decide
  obtain ⟨roster, store, hmake, hfound, -, -, -, -, hunits, -⟩ :=
    views_agree Sample.config hvalid hroom ops
  obtain ⟨hu, hu'⟩ := hunits 0 ⟨"u", 2⟩ rfl
  obtain ⟨hv, hv'⟩ := hunits 1 ⟨"v", 1⟩ rfl
  refine ⟨hvalid, hroom, roster, store, hmake, ?_, hu, hv, hu' (.place 1) (.add 0 2),
    hv' (.place 1) (.add 0 2)⟩
  rw [hfound]
  decide

end Roster

end HitLog
