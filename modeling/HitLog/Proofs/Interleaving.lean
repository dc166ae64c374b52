import HitLog.Proofs.Merge
import HitLog.Proofs.Outcome
import Mathlib.Data.List.Induction
import Mathlib.Logic.Function.Basic

/-!
# Sessions that share a log

Several sessions live in one world and report to one log. What is done with them is a list of
events, in any order: an event is something done with one of the sessions, or a change of the files
by somebody else. One event is one step, and a flush is one write, so this covers every way in which
the sessions can be interleaved.

Two things keep the sessions apart. A step changes no session but its own, by
`Ensemble.sessions_step`, so that the counters of a session are what its own actions make of them,
`Session.countActions`. And what a step writes is a whole block. The log is therefore described
without any state: it has a block for each session that is finalised somewhere in the list, in the
order of the first finalisations, and each block shows the counters of its session at that point of
the list. These are `Ensemble.blocks`.

## Main definitions

* `Ensemble` — several sessions in one world, with `Ensemble.step` and `Ensemble.after`
* `Event` — what happens to them
* `Event.finalizers`, `Event.before` — which sessions are finalised, and what came before
* `Session.countActions` — the counters that actions lead to

## Main results

* `Ensemble.tables_after` — a session's counters are its own
* `Ensemble.files_after` — the files behind any interleaving
* `Ensemble.log_eq_blocks_and_verdict_stays` — the log, the counters and the verdicts
-/

namespace HitLog

open scoped Text

/-! ### What one action does to the counters -/

namespace Session

/-- The tables with the hits of an action, up to the first on a site that is not there. -/
def countAction (tables : List Table) (a : Action) : List Table :=
  (hitAll tables (a.hits (tables.map Table.identifier))).2

/-- The tables with the hits of several actions. What stops one of them does not stop the next. -/
def countActions (tables : List Table) (as : List Action) : List Table :=
  as.foldl countAction tables

/-- Counting makes no tables and drops none. -/
theorem map_shape_countActions (tables : List Table) (as : List Action) :
    (countActions tables as).map Table.shape = tables.map Table.shape := by
  induction as generalizing tables with
  | nil => rfl
  | cons a as ih => exact (ih _).trans (map_shape_hitAll tables _)

end Session

namespace Action

/-- An action that finalises hits no site. -/
theorem hits_of_finalizes {a : Action} {hooked : Bool} (h : a.finalizes hooked = true)
    (units : List Text) : a.hits units = [] := by
  cases a with
  | finalize => rfl
  | hook => rfl
  | _ => cases h

end Action

namespace Stage

variable {s : Stage} {a : Action}

/-- **An ordinary action does its hits to the counters.** -/
theorem tables_perform (env : Environment) (ha : a.Ordinary) :
    (s.perform env a).2.session.tables = Session.countAction s.session.tables a := by
  cases hf : a.finalizes s.hooked with
  | true =>
    obtain ⟨answer, hp⟩ := perform_of_finalizes env hf
    obtain ⟨exporter, verdict, hframe⟩ := s.finalize_frame env
    rw [hp, Session.countAction, Action.hits_of_finalizes hf, hframe]
    rfl
  | false =>
    rw [(perform_eq_hit env hf ha).2]
    rfl

theorem config_perform (s : Stage) (env : Environment) (a : Action) :
    (s.perform env a).2.session.config = s.session.config := by
  cases hf : a.finalizes s.hooked with
  | true =>
    obtain ⟨answer, hp⟩ := perform_of_finalizes env hf
    obtain ⟨exporter, verdict, hframe⟩ := s.finalize_frame env
    rw [hp, hframe]
  | false =>
    obtain ⟨tables, files, hframe⟩ := perform_frame env hf
    rw [hframe]
    rfl

/-- An action leaves a verdict behind exactly if there was one or it finalises. -/
theorem isSome_verdict_perform (s : Stage) (env : Environment) (a : Action) :
    (s.perform env a).2.session.verdict.isSome
      = (s.session.verdict.isSome || a.finalizes s.hooked) := by
  cases hf : a.finalizes s.hooked with
  | true =>
    obtain ⟨answer, hp⟩ := perform_of_finalizes env hf
    rw [hp, Bool.or_true]
    exact finalized_finalize s env
  | false =>
    obtain ⟨tables, files, hframe⟩ := perform_frame env hf
    rw [hframe, Bool.or_false]
    rfl

end Stage

/-! ### Several sessions -/

/-- Several sessions in one world. -/
structure Ensemble (ι : Type) where
  sessions : ι → Session
  world : World

/-- What happens among several sessions. -/
inductive Event (ι : Type) where
  /-- Something is done with one of them. -/
  | act (who : ι) (env : Environment) (action : Action)
  /-- Somebody else changes the files. -/
  | disturb (files : FileSystem)

variable {ι : Type}

namespace Event

/-- The session that an event finalises. -/
def finalizer? : Event ι → Option ι
  | act i _ a => if a.finalizes false then some i else none
  | disturb _ => none

/-- The sessions that events finalise, in order. -/
def finalizers (xs : List (Event ι)) : List ι := xs.filterMap finalizer?

theorem finalizer?_eq_some_iff {i : ι} {x : Event ι} :
    x.finalizer? = some i ↔ ∃ env a, x = act i env a ∧ a.finalizes false = true := by
  cases x with
  | act j env a => simp [finalizer?, and_comm]
  | disturb files => simp [finalizer?]

theorem finalizers_concat (xs : List (Event ι)) (x : Event ι) :
    finalizers (xs ++ [x]) = finalizers xs ++ x.finalizer?.toList := by
  rw [finalizers, List.filterMap_append, finalizers]
  cases hx : x.finalizer? <;> simp [hx]

/-- An ordinary action of a session. -/
def Ordinary : Event ι → Prop
  | act _ _ a => a.Ordinary
  | disturb _ => False

variable [DecidableEq ι]

/-- The events before the first that finalises a session. -/
def before (i : ι) (xs : List (Event ι)) : List (Event ι) :=
  xs.takeWhile fun x => x.finalizer? ≠ some i

/-- What an event does with a session. -/
def action? (i : ι) : Event ι → Option Action
  | act j _ a => if j = i then some a else none
  | disturb _ => none

/-- What events do with a session. -/
def actions (i : ι) (xs : List (Event ι)) : List Action := xs.filterMap (action? i)

theorem eq_act_of_action? {i : ι} {a : Action} {x : Event ι} (h : x.action? i = some a) :
    ∃ env, x = act i env a := by
  cases x with
  | act j env b =>
    by_cases hj : j = i
    · subst hj
      obtain rfl : b = a := by simpa [action?] using h
      exact ⟨env, rfl⟩
    · simp [action?, hj] at h
  | disturb files => cases h

/-- What came before a first finalisation does not change with later events. -/
theorem before_concat_of_mem {i : ι} {xs : List (Event ι)} (h : i ∈ finalizers xs) (x : Event ι) :
    before i (xs ++ [x]) = before i xs := by
  obtain ⟨y, hy, hfinal⟩ := List.mem_filterMap.mp h
  rw [before, List.takeWhile_append, if_neg, before]
  intro hlength
  have hall := List.takeWhile_eq_self_iff.mp ((List.takeWhile_prefix _).eq_of_length hlength) y hy
  simp [hfinal] at hall

/-- Before a first finalisation there is everything that happened so far. -/
theorem before_concat_of_first {i : ι} {x : Event ι} {xs : List (Event ι)}
    (hx : x.finalizer? = some i) (hnew : i ∉ finalizers xs) : before i (xs ++ [x]) = xs := by
  have hall : ∀ y ∈ xs, decide (y.finalizer? ≠ some i) = true := by
    intro y hy
    simpa using fun hc => hnew (List.mem_filterMap.mpr ⟨y, hy, hc⟩)
  rw [before, List.takeWhile_append_of_pos hall, List.takeWhile_cons_of_neg (by simp [hx]),
    List.append_nil]

end Event

namespace Ensemble

variable [DecidableEq ι] {e : Ensemble ι} {x : Event ι} {xs : List (Event ι)} {i j : ι}

/-- One event, with its answer. -/
def step (e : Ensemble ι) : Event ι → Except Fault Answer × Ensemble ι
  | .act i env a =>
    let (result, stage) := Stage.perform env a ⟨e.sessions i, false, e.world⟩
    (result, ⟨Function.update e.sessions i stage.session, stage.world⟩)
  | .disturb files => (.ok .done, { e with world := { e.world with files } })

/-- The sessions and their world after some events. -/
def after (e : Ensemble ι) (xs : List (Event ι)) : Ensemble ι :=
  xs.foldl (fun e x => (e.step x).2) e

theorem after_concat (e : Ensemble ι) (xs : List (Event ι)) (x : Event ι) :
    e.after (xs ++ [x]) = ((e.after xs).step x).2 := by
  rw [after, List.foldl_append]
  rfl

/-! ### Sessions stay apart -/

/-- **A step changes no session but its own.** -/
theorem sessions_step (h : x.action? i = none) : (e.step x).2.sessions i = e.sessions i := by
  cases x with
  | act j env a =>
    have hne : i ≠ j := by
      rintro rfl
      simp [Event.action?] at h
    exact Function.update_of_ne hne _ _
  | disturb files => rfl

theorem sessions_step_act (e : Ensemble ι) (i : ι) (env : Environment) (a : Action) :
    (e.step (.act i env a)).2.sessions i
      = (Stage.perform env a ⟨e.sessions i, false, e.world⟩).2.session :=
  Function.update_self _ _ _

/-- **The counters of a session are what its own actions make of them.** -/
theorem tables_after (hxs : ∀ x ∈ xs, x.Ordinary) (i : ι) :
    ((e.after xs).sessions i).tables
      = Session.countActions (e.sessions i).tables (Event.actions i xs) := by
  induction xs using List.reverseRecOn with
  | nil => rfl
  | append_singleton xs x ih =>
    have hx : x.Ordinary := hxs x (by simp)
    have ih := ih fun y hy => hxs y (by simp [hy])
    rw [after_concat, Event.actions, List.filterMap_append, Session.countActions, List.foldl_append]
    cases hact : x.action? i with
    | none =>
      rw [sessions_step hact, ih]
      simp [hact, Event.actions, Session.countActions]
    | some a =>
      obtain ⟨env, rfl⟩ := Event.eq_act_of_action? hact
      rw [sessions_step_act, Stage.tables_perform env hx, ih]
      simp [hact, Event.actions, Session.countActions]

/-- What every action keeps of a session is kept whatever happens among the sessions. -/
theorem session_after {P : Session → Prop}
    (hkept : ∀ s env w a, P s → P (Stage.perform env a ⟨s, false, w⟩).2.session)
    (h : P (e.sessions i)) (xs : List (Event ι)) : P ((e.after xs).sessions i) := by
  induction xs using List.reverseRecOn with
  | nil => exact h
  | append_singleton xs x ih =>
    rw [after_concat]
    cases hact : x.action? i with
    | none => rwa [sessions_step hact]
    | some a =>
      obtain ⟨env, rfl⟩ := Event.eq_act_of_action? hact
      rw [sessions_step_act]
      exact hkept _ env _ a ih

theorem config_after (e : Ensemble ι) (xs : List (Event ι)) (i : ι) :
    ((e.after xs).sessions i).config = (e.sessions i).config := by
  refine session_after (P := fun s => s.config = (e.sessions i).config) ?_ rfl xs
  intro s env w a hs
  rw [Stage.config_perform, hs]

/-- The sessions with a verdict are those that were finalised. -/
theorem isSome_verdict_after (hnone : (e.sessions i).verdict = none) (xs : List (Event ι)) :
    ((e.after xs).sessions i).verdict.isSome ↔ i ∈ Event.finalizers xs := by
  induction xs using List.reverseRecOn with
  | nil => simp [after, hnone, Event.finalizers]
  | append_singleton xs x ih =>
    rw [after_concat, Event.finalizers_concat, List.mem_append, Option.mem_toList, ← ih]
    cases hact : x.action? i with
    | none =>
      have hother : x.finalizer? ≠ some i := fun hc => by
        obtain ⟨env, a, rfl, -⟩ := Event.finalizer?_eq_some_iff.mp hc
        simp [Event.action?] at hact
      rw [sessions_step hact, or_iff_left hother]
    | some a =>
      obtain ⟨env, rfl⟩ := Event.eq_act_of_action? hact
      rw [sessions_step_act, Stage.isSome_verdict_perform, Bool.or_eq_true]
      simp [Event.finalizer?]

/-! ### Verdicts stay -/

/-- Once there is a verdict, nothing takes it back. -/
theorem verdict_after {verdict : Option FinalizeError}
    (h : (e.sessions i).verdict = some verdict) (xs : List (Event ι)) :
    ((e.after xs).sessions i).verdict = some verdict :=
  session_after (P := fun s => s.verdict = some verdict)
    (fun _ env _ a hs => Stage.verdict_perform env a hs) h xs

/-- Finalising a session answers with the verdict that it then has. -/
theorem step_finalize (e : Ensemble ι) (i : ι) (env : Environment) :
    ∃ verdict, (e.step (.act i env .finalize)).1 = .ok (.verdict verdict) ∧
      ((e.step (.act i env .finalize)).2.sessions i).verdict = some verdict := by
  refine ⟨_, rfl, ?_⟩
  rw [sessions_step_act]
  exact Session.verdict_finalize _ _ _

/-- Finalising a session with a verdict answers with it and changes nothing. -/
theorem step_finalize_of_some {verdict : Option FinalizeError}
    (h : (e.sessions i).verdict = some verdict) (env : Environment) :
    e.step (.act i env .finalize) = (.ok (.verdict verdict), e) := by
  have hfinal : Stage.finalize env ⟨e.sessions i, false, e.world⟩
      = (verdict, ⟨e.sessions i, false, e.world⟩) := by
    rw [Stage.finalize, Session.finalize_of_some h]
  simp only [step, Stage.perform, hfinal, Function.update_eq_self]

/-! ### Blocks -/

/-- The blocks that events add to the log: one for each session that is finalised, in the order of
the first finalisations, with the counters of that moment. -/
def blocks (e : Ensemble ι) (xs : List (Event ι)) : Text :=
  (Event.finalizers xs).eraseDups.flatMap fun i =>
    ((e.after (Event.before i xs)).sessions i).records.flatMap Record.line

theorem blocks_concat_of_first (h : x.finalizer? = some i) (hnew : i ∉ Event.finalizers xs) :
    e.blocks (xs ++ [x])
      = e.blocks xs ++ ((e.after xs).sessions i).records.flatMap Record.line := by
  have hfinalizers : Event.finalizers (xs ++ [x]) = Event.finalizers xs ++ [i] := by
    rw [Event.finalizers_concat, h, Option.toList_some]
  rw [blocks, hfinalizers, Record.eraseDups_concat, if_neg hnew, List.flatMap_append,
    List.flatMap_singleton, Event.before_concat_of_first h hnew, blocks]
  congr 1
  refine List.flatMap_congr fun j hj => ?_
  rw [Event.before_concat_of_mem (List.mem_eraseDups.mp hj)]

theorem blocks_concat_of_not_first (h : ∀ i, x.finalizer? = some i → i ∈ Event.finalizers xs) :
    e.blocks (xs ++ [x]) = e.blocks xs := by
  have hfinalizers :
      (Event.finalizers (xs ++ [x])).eraseDups = (Event.finalizers xs).eraseDups := by
    rw [Event.finalizers_concat]
    cases hx : x.finalizer? with
    | none => rw [Option.toList_none, List.append_nil]
    | some i => rw [Option.toList_some, Record.eraseDups_concat, if_pos (h i hx)]
  rw [blocks, hfinalizers, blocks]
  refine List.flatMap_congr fun j hj => ?_
  rw [Event.before_concat_of_mem (List.mem_eraseDups.mp hj)]

/-! ### Files -/

/-- An ordinary event writes nothing unless it is the first finalisation of a session. -/
theorem files_step_of_not_first (hx : x.Ordinary)
    (h : ∀ i, x.finalizer? = some i → (e.sessions i).verdict.isSome) :
    (e.step x).2.world.files = e.world.files := by
  cases x with
  | disturb files => exact hx.elim
  | act i env a =>
    cases hf : a.finalizes false with
    | true =>
      have hfinal : Stage.Finalized ⟨e.sessions i, false, e.world⟩ :=
        h i (by simp [Event.finalizer?, hf])
      obtain ⟨answer, hp⟩ :=
        Stage.perform_of_finalizes (s := ⟨e.sessions i, false, e.world⟩) env hf
      rw [step, hp, Stage.finalize_of_finalized hfinal]
    | false =>
      have hp := (Stage.perform_eq_hit (s := ⟨e.sessions i, false, e.world⟩) env hf hx).2
      simp only [step, hp]

/-- The first finalisation of a session flushes its records. -/
theorem files_step_of_first (hx : x.finalizer? = some i) (hnone : (e.sessions i).verdict = none) :
    (e.step x).2.world.files
      = (Flush.flush (e.sessions i).config.logPath (e.sessions i).records e.world.files).files := by
  obtain ⟨env, a, rfl, hf⟩ := Event.finalizer?_eq_some_iff.mp hx
  obtain ⟨answer, hp⟩ := Stage.perform_of_finalizes (s := ⟨e.sessions i, false, e.world⟩) env hf
  rw [step, hp]
  exact Session.files_finalize hnone

/-- A session that has not been finalised and reports to a log. -/
structure Fresh (path : Text) (s : Session) : Prop where
  logPath : s.config.logPath = path
  verdict : s.verdict = none
  tables : s.tables ≠ []

/-- A session keeps its tables, so that it never has an empty block. -/
theorem records_after_ne_nil (hxs : ∀ x ∈ xs, x.Ordinary) (h : (e.sessions i).tables ≠ []) :
    ((e.after xs).sessions i).records ≠ [] := by
  intro hnil
  have hshape := Session.map_shape_countActions (e.sessions i).tables (Event.actions i xs)
  rw [← tables_after hxs, List.map_eq_nil_iff.mp hnil] at hshape
  exact h (List.map_eq_nil_iff.mp hshape.symm)

/-- **The files behind any interleaving.** They are those from before as long as no session was
finalised, and behind that the log has all blocks. -/
theorem files_after {path : Text} {place : Place} {content : Text}
    (hfresh : ∀ i, Fresh path (e.sessions i))
    (hopen : e.world.files.openForAppend path = .ok (.file place content))
    (hxs : ∀ x ∈ xs, x.Ordinary) :
    (Event.finalizers xs = [] ∧ (e.after xs).world.files = e.world.files) ∨
      (Event.finalizers xs ≠ [] ∧ (e.after xs).world.files
        = e.world.files.set place (.file (content ++ e.blocks xs))) := by
  induction xs using List.reverseRecOn with
  | nil => exact .inl ⟨rfl, rfl⟩
  | append_singleton xs x ih =>
    have hx : x.Ordinary := hxs x (by simp)
    have hxs' : ∀ y ∈ xs, y.Ordinary := fun y hy => hxs y (by simp [hy])
    have ih := ih hxs'
    rw [after_concat, Event.finalizers_concat]
    by_cases hfirst : ∃ i, x.finalizer? = some i ∧ i ∉ Event.finalizers xs
    · obtain ⟨i, hi, hnew⟩ := hfirst
      have hnone : ((e.after xs).sessions i).verdict = none := by
        rw [← Option.not_isSome_iff_eq_none, isSome_verdict_after (hfresh i).verdict]
        exact hnew
      have hopen' : (e.after xs).world.files.openForAppend path
          = .ok (.file place (content ++ e.blocks xs)) := by
        obtain ⟨hnil, hfiles⟩ | ⟨-, hfiles⟩ := ih
        · rw [hfiles, hopen, blocks, hnil]
          simp
        · rw [hfiles, FileSystem.openForAppend_set hopen]
      have hrecords := records_after_ne_nil hxs' (hfresh i).tables
      right
      refine ⟨by simp [hi], ?_⟩
      rw [files_step_of_first hi hnone, config_after, (hfresh i).logPath,
        Flush.files_flush_of_file hrecords hopen', blocks_concat_of_first hi hnew,
        List.append_assoc]
      obtain ⟨-, hfiles⟩ | ⟨-, hfiles⟩ := ih
      · rw [hfiles]
      · rw [hfiles, FileSystem.set_set]
    · have hold : ∀ i, x.finalizer? = some i → i ∈ Event.finalizers xs := by
        intro i hi
        by_contra hnew
        exact hfirst ⟨i, hi, hnew⟩
      have hfiles : ((e.after xs).step x).2.world.files = (e.after xs).world.files := by
        refine files_step_of_not_first hx fun i hi => ?_
        exact (isSome_verdict_after (hfresh i).verdict xs).mpr (hold i hi)
      have hnil : Event.finalizers xs ++ x.finalizer?.toList = [] ↔ Event.finalizers xs = [] := by
        rw [List.append_eq_nil_iff, and_iff_left_iff_imp]
        intro hnil
        rw [hnil] at hold
        exact Option.toList_eq_nil_iff.mpr (Option.eq_none_iff_forall_ne_some.mpr fun i hi =>
          List.not_mem_nil (hold i hi))
      rw [hfiles, blocks_concat_of_not_first hold, Ne, hnil]
      exact ih

theorem fresh_of_start {config : Config} {hostName : Text} {s : Session}
    (h : Session.start config hostName = .ok s) : Fresh config.logPath s := by
  obtain ⟨hvalid, -, rfl⟩ := Session.start_eq_ok_iff.mp h
  refine ⟨rfl, rfl, ?_⟩
  rw [Session.initial, Ne, List.map_eq_nil_iff]
  exact hvalid.units

/-- **Sessions that share a log do not interfere.**

Several sessions have been started with the same log, which can be written. Whatever is done with
them, in whatever order, the log has its old content and behind it one block for each session that
was finalised, in the order of the first finalisations, each with the counters that its session had
then; and no other file changed. The counters of a session are what its own actions make of them,
and no event changes a session but its own. A session that is finalised once more answers as it did
the first time and nothing changes, also if somebody has changed the files in the meantime. -/
theorem log_eq_blocks_and_verdict_stays (e : Ensemble ι) (path : Text) (place : Place)
    (content : Text)
    (hstart : ∀ i, ∃ config hostName,
      config.logPath = path ∧ Session.start config hostName = .ok (e.sessions i))
    (hopen : e.world.files.openForAppend path = .ok (.file place content)) :
    (∀ xs : List (Event ι), (∀ x ∈ xs, x.Ordinary) →
      (Event.finalizers xs = [] → (e.after xs).world.files = e.world.files) ∧
        (Event.finalizers xs ≠ [] →
          (e.after xs).world.files = e.world.files.set place (.file (content ++ e.blocks xs)) ∧
            (e.after xs).world.files.content? path = some (content ++ e.blocks xs)) ∧
        ∀ i, ((e.after xs).sessions i).tables
          = Session.countActions (e.sessions i).tables (Event.actions i xs)) ∧
      (∀ (xs : List (Event ι)) x i, x.action? i = none →
        ((e.after xs).step x).2.sessions i = (e.after xs).sessions i) ∧
      ∀ (xs later : List (Event ι)) i env env',
        let first := (e.after xs).step (.act i env .finalize)
        let reached := first.2.after later
        reached.step (.act i env' .finalize) = (first.1, reached) := by
  have hfresh : ∀ i, Fresh path (e.sessions i) := by
    intro i
    obtain ⟨config, hostName, rfl, hsession⟩ := hstart i
    exact fresh_of_start hsession
  refine ⟨fun xs hxs => ⟨fun hnil => ?_, fun hne => ?_, tables_after hxs⟩,
    fun xs x i hx => sessions_step hx, fun xs later i env env' => ?_⟩
  · obtain ⟨-, hfiles⟩ | ⟨hne, -⟩ := files_after hfresh hopen hxs
    · exact hfiles
    · exact absurd hnil hne
  · obtain ⟨hnil, -⟩ | ⟨-, hfiles⟩ := files_after hfresh hopen hxs
    · exact absurd hnil hne
    · exact ⟨hfiles, by rw [hfiles, FileSystem.content?_set hopen]⟩
  · intro first reached
    obtain ⟨verdict, hanswer, hverdict⟩ := (e.after xs).step_finalize i env
    rw [step_finalize_of_some (verdict_after hverdict later) env']
    exact Prod.ext hanswer.symm rfl

/-- Two sessions with a unit of the same name. The second to count is the first to be finalised, it
goes on counting, and it is finalised again behind the other: the log has two blocks, each with the
counts of its own session. -/
theorem log_eq_blocks_of_two_sessions :
    let start (first : Bool) : Session :=
      Session.initial
        (if first then Sample.config else { Sample.config with units := [⟨"u", 1⟩] })
        Sample.env.hostName
    let act (first : Bool) (a : Action) : Event Bool := .act first Sample.env a
    let xs := [act true (.table "u" (.inc 1)), act false (.table "u" (.add 0 5)),
      act false .finalize, act false (.table "u" (.inc 0)), act true (.table "u" (.inc 7)),
      act true .records, act true .finalize, act false .finalize]
    ((⟨start, Sample.world⟩ : Ensemble Bool).after xs).world.files.content? "l"
      = some (Text.ofString "x:1\nu:5\nu:0,1\nv:0\n") := by
  intro start act xs
  have hstart : ∀ first, ∃ config hostName, config.logPath = Text.ofString "l" ∧
      Session.start config hostName = .ok (start first) := by
    intro first
    cases first with
    | true => exact ⟨_, _, rfl, Session.start_eq_ok
        (Config.violation?_eq_none_iff.mp (by decide)) (by decide) _⟩
    | false => exact ⟨_, _, rfl, Session.start_eq_ok
        (Config.violation?_eq_none_iff.mp (by decide)) (by decide) _⟩
  have hxs : ∀ x ∈ xs, x.Ordinary := by simp [xs, act, Event.Ordinary, Action.Ordinary]
  obtain ⟨hlog, -, -⟩ := log_eq_blocks_and_verdict_stays ⟨start, Sample.world⟩ "l"
    ["w", "l"] "x:1\n" hstart rfl
  have hblocks : Ensemble.blocks ⟨start, Sample.world⟩ xs
      = Text.ofString "u:5\nu:0,1\nv:0\n" := by
    decide +kernel
  obtain ⟨-, hcontent⟩ := (hlog xs hxs).2.1 (by decide)
  rw [hcontent, hblocks]
  rfl

end Ensemble

end HitLog
