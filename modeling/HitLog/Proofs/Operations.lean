import HitLog.Remote.Exporter

/-!
# What an exporter does outside

An exporter keeps a connection and the addresses of its host from one call to the next, and whatever
it tries outside may fail at any time. So what it does is a matter of whole runs: how often it
connects depends on what failed in which call before.

The outside is arbitrary here. `Exporter.Outside.recorded` is an outside that behaves as another one
does and writes down each operation with the exporter at that moment, which is how a statement can
speak about what was done without a word about what the outside is. By `Exporter.call_recorded` the
record changes nothing.

What one call can do is said once, by `Exporter.Does`: nothing without metrics; otherwise a
connection if there is none, a write, and behind a failed write a connection and another write. The
state of the exporter follows its operations, by `Exporter.after`. A run is a chain of calls,
`Exporter.Chain`, and everything about runs is an induction over that chain.

## Main definitions

* `Exporter.Operation`, `Exporter.Step` — an operation, and who performs it
* `Exporter.Outside.recorded` — an outside that writes down what is done
* `Exporter.Does` — what one call can do
* `Exporter.exportEach`, `Exporter.recordEach` — calls in order, and what is known of them

## Main results

* `Exporter.call_does` — a call does what it can do
* `Exporter.Chain.refreshes` — how often a run connects
* `Exporter.recordEach_operations` — everything that a run does
-/

namespace HitLog

namespace Exporter

variable {σ : Type}

/-! ### Operations -/

/-- What an exporter does outside, with what comes of it. -/
inductive Operation where
  /-- Resolve the host, to addresses or the wording of what went wrong. -/
  | resolve (outcome : Except Text (List Text))
  /-- Make a connection. -/
  | connect
  /-- Send a batch, which may fail. -/
  | write (batch : List Series) (failure : Option SendError)

namespace Operation

/-- The batch that is sent and how that failed. -/
def sent? : Operation → Option (List Series × Option SendError)
  | write batch failure => some (batch, failure)
  | _ => none

/-- The addresses that a successful resolution gives. -/
def addresses? : Operation → Option (List Text)
  | resolve (.ok addresses) => some addresses
  | _ => none

/-- The operations of a connection that is made anew: a resolution, if there is one, comes first. -/
def refreshing (resolution : Option (Except Text (List Text))) : List Operation :=
  resolution.toList.map resolve ++ [connect]

theorem filterMap_sent?_refreshing (resolution : Option (Except Text (List Text))) :
    (refreshing resolution).filterMap sent? = [] := by
  cases resolution <;> rfl

theorem filter_refreshing (resolution : Option (Except Text (List Text))) :
    (refreshing resolution).filter (·.sent?.isNone) = refreshing resolution := by
  cases resolution <;> rfl

end Operation

/-- An operation with the exporter that performs it, as it is at that moment. -/
structure Step where
  exporter : Exporter
  operation : Operation

/-- The exporter behind an operation. -/
def after (e : Exporter) : Operation → Exporter
  | .resolve (.ok addresses) => { e with resolved := addresses }
  | .resolve (.error _) => e
  | .connect => { e with connected := true }
  | .write _ _ => e

/-- The exporter behind several operations. -/
def afterAll (e : Exporter) (ops : List Operation) : Exporter := ops.foldl after e

/-- The steps in which an exporter performs operations one after another. -/
def steps (e : Exporter) : List Operation → List Step
  | [] => []
  | op :: ops => ⟨e, op⟩ :: (e.after op).steps ops

/-- The addresses of the latest successful resolution, none if there was none. -/
def latest (ops : List Operation) : List Text :=
  (ops.filterMap Operation.addresses?).getLast?.getD []

theorem afterAll_append (e : Exporter) (ops ops' : List Operation) :
    e.afterAll (ops ++ ops') = (e.afterAll ops).afterAll ops' :=
  List.foldl_append

theorem steps_append (e : Exporter) (ops ops' : List Operation) :
    e.steps (ops ++ ops') = e.steps ops ++ (e.afterAll ops).steps ops' := by
  induction ops generalizing e with
  | nil => rfl
  | cons op ops ih => simp only [List.cons_append, steps, ih, afterAll, List.foldl_cons]

theorem map_operation_steps (e : Exporter) (ops : List Operation) :
    (e.steps ops).map Step.operation = ops := by
  induction ops generalizing e with
  | nil => rfl
  | cons op ops ih => simp only [steps, List.map_cons, ih]

/-- At each step the exporter is what the operations before have made of it. -/
theorem exporter_of_steps {e : Exporter} {ops : List Operation} {before later : List Step}
    {step : Step} (h : e.steps ops = before ++ step :: later) :
    step.exporter = e.afterAll (before.map Step.operation) := by
  induction before generalizing e ops with
  | nil =>
    cases ops with
    | nil => simp [steps] at h
    | cons op ops =>
      simp only [steps, List.nil_append, List.cons.injEq] at h
      rw [← h.1]
      rfl
  | cons b before ih =>
    cases ops with
    | nil => simp [steps] at h
    | cons op ops =>
      simp only [steps, List.cons_append, List.cons.injEq] at h
      obtain ⟨rfl, h⟩ := h
      exact ih h

/-! ### What operations leave alone -/

/-- An operation changes neither where the exporter sends nor which host it resolves. -/
theorem after_frame (e : Exporter) (op : Operation) :
    ∃ connected resolved, e.after op = { e with connected, resolved } := by
  cases op with
  | resolve outcome => cases outcome <;> exact ⟨_, _, rfl⟩
  | connect => exact ⟨_, _, rfl⟩
  | write batch failure => exact ⟨_, _, rfl⟩

theorem afterAll_frame (e : Exporter) (ops : List Operation) :
    ∃ connected resolved, e.afterAll ops = { e with connected, resolved } := by
  induction ops generalizing e with
  | nil => exact ⟨_, _, rfl⟩
  | cons op ops ih =>
    obtain ⟨_, _, hop⟩ := e.after_frame op
    obtain ⟨connected, resolved, hops⟩ := ih (e.after op)
    refine ⟨connected, resolved, hops.trans ?_⟩
    rw [hop]

theorem config_afterAll (e : Exporter) (ops : List Operation) :
    (e.afterAll ops).config = e.config := by
  obtain ⟨_, _, h⟩ := e.afterAll_frame ops
  rw [h]

theorem needsResolution_afterAll (e : Exporter) (ops : List Operation) :
    (e.afterAll ops).needsResolution = e.needsResolution := by
  obtain ⟨_, _, h⟩ := e.afterAll_frame ops
  rw [h]
  rfl

/-- The addresses that an exporter remembers are those of the latest successful resolution. -/
theorem resolved_afterAll (e : Exporter) (ops : List Operation) :
    (e.afterAll ops).resolved
      = (ops.filterMap Operation.addresses?).getLast?.getD e.resolved := by
  induction ops generalizing e with
  | nil => rfl
  | cons op ops ih =>
    refine (ih (e.after op)).trans ?_
    cases op with
    | resolve outcome =>
      cases outcome <;> simp [after, Operation.addresses?, List.getLast?_cons]
    | connect => simp [after, Operation.addresses?]
    | write batch failure => simp [after, Operation.addresses?]

/-- There is a connection behind operations exactly if there was one or one was made. -/
theorem connected_afterAll (e : Exporter) (ops : List Operation) :
    (e.afterAll ops).connected = true ↔ e.connected = true ∨ Operation.connect ∈ ops := by
  induction ops generalizing e with
  | nil => simp [afterAll]
  | cons op ops ih =>
    refine (ih (e.after op)).trans ?_
    cases op with
    | connect => simp [after]
    | resolve outcome => cases outcome <;> simp [after]
    | write batch failure => simp [after]

/-! ### Recording -/

/-- The outside with a record of what is done to it. -/
def Outside.recorded (o : Outside σ) : Outside (σ × List Step) where
  clock x := o.clock x.1
  resolve e life x :=
    match o.resolve e life x.1 with
    | (outcome, y) => (outcome, y, x.2 ++ [⟨e, .resolve outcome⟩])
  connect e x := (o.connect e x.1, x.2 ++ [⟨e, .connect⟩])
  write e batch life x :=
    match o.write e batch life x.1 with
    | ⟨failure, y⟩ => ⟨failure, y, x.2 ++ [⟨e, .write batch failure⟩]⟩

section Recording

variable {o : Outside σ} {e : Exporter} {batch : List Series} {life : Lifetime}
  {x : σ × List Step}

theorem Outside.recorded_resolve {outcome : Except Text (List Text)} {y : σ}
    (h : o.resolve e life x.1 = (outcome, y)) :
    o.recorded.resolve e life x = (outcome, y, x.2 ++ [⟨e, .resolve outcome⟩]) := by
  simp only [recorded, h]

theorem Outside.recorded_write {failure : Option SendError} {y : σ}
    (h : o.write e batch life x.1 = ⟨failure, y⟩) :
    o.recorded.write e batch life x
      = ⟨failure, y, x.2 ++ [⟨e, .write batch failure⟩]⟩ := by
  simp only [recorded, h]

end Recording

/-- A state without its record. -/
def State.forget (s : State (σ × List Step)) : State σ := ⟨s.exporter, s.net.1, s.events⟩

/-- An outcome without its record. -/
def Outcome.forget (r : Outcome (σ × List Step)) : Outcome σ := ⟨r.failure, r.state.forget⟩

theorem refresh_recorded (o : Outside σ) (life : Lifetime) (s : State (σ × List Step)) :
    (refresh o.recorded life s).forget = refresh o life s.forget := by
  obtain ⟨e, x, events⟩ := s
  by_cases hneeds : e.needsResolution
  · rcases h : o.resolve e life x.1 with ⟨_ | _, y⟩ <;>
      simp only [refresh, State.forget, hneeds, if_true, renew, h, Outside.recorded_resolve h] <;>
      rfl
  · simp only [refresh, State.forget, hneeds]
    rfl

theorem sendAgain_recorded (o : Outside σ) (batch : List Series) (life : Lifetime)
    (s : State (σ × List Step)) :
    (sendAgain o.recorded batch life s).forget = sendAgain o batch life s.forget := by
  obtain ⟨e, x, events⟩ := s
  simp only [sendAgain, State.forget]
  rcases h : o.write e batch life x.1 with ⟨_ | _, y⟩ <;>
    simp only [Outside.recorded_write h] <;> rfl

theorem sendTwice_recorded (o : Outside σ) (batch : List Series) (life : Lifetime)
    (s : State (σ × List Step)) :
    (sendTwice o.recorded batch life s).forget = sendTwice o batch life s.forget := by
  obtain ⟨e, x, events⟩ := s
  simp only [sendTwice, State.forget]
  rcases h : o.write e batch life x.1 with ⟨_ | error, y⟩
  · simp only [Outside.recorded_write h]
    rfl
  · simp only [Outside.recorded_write h]
    rw [sendAgain_recorded, refresh_recorded]
    rfl

/-- **The record changes nothing.** -/
theorem call_recorded (o : Outside σ) (e : Exporter) (ms : List Metric) (life : Lifetime)
    (x : σ × List Step) : (call o.recorded e ms life x).forget = call o e ms life x.1 := by
  rw [call, call]
  split
  · rfl
  · dsimp only
    rw [sendTwice_recorded]
    -- the time starts at the same moment, since the record does not touch the clock
    have hready : (if e.connected then (⟨e, x, []⟩ : State (σ × List Step))
        else refresh o.recorded life ⟨e, x, []⟩).forget
          = if e.connected then ⟨e, x.1, []⟩ else refresh o life ⟨e, x.1, []⟩ := by
      split
      · rfl
      · exact refresh_recorded o life _
    rw [← hready]
    rfl

/-! ### What one call can do -/

/-- What is done with a batch: it is sent, and once more over a new connection if that failed. How
the second attempt failed is how it all failed. Whether a new connection takes a resolution is
given. -/
inductive Attempts (resolves : Bool) (batch : List Series) :
    List Operation → Option ExportError → Prop where
  | once : Attempts resolves batch [.write batch none] none
  | twice (error : SendError) (resolution : Option (Except Text (List Text)))
      (failure : Option SendError) (h : resolution.isSome = resolves) :
      Attempts resolves batch
        (.write batch (some error) :: (Operation.refreshing resolution ++ [.write batch failure]))
        (failure.map ExportError.mk)

/-- What one call can do, and how it can fail. -/
inductive Does (e : Exporter) (ms : List Metric) : List Operation → Option ExportError → Prop where
  | nothing (h : ms = []) : Does e ms [] none
  | connected (hms : ms ≠ []) (hconnected : e.connected = true) {ops : List Operation}
      {failure : Option ExportError}
      (h : Attempts e.needsResolution (series e.config ms) ops failure) : Does e ms ops failure
  | unconnected (hms : ms ≠ []) (hconnected : e.connected = false)
      (resolution : Option (Except Text (List Text)))
      (hresolution : resolution.isSome = e.needsResolution) {ops : List Operation}
      {failure : Option ExportError}
      (h : Attempts e.needsResolution (series e.config ms) ops failure) :
      Does e ms (Operation.refreshing resolution ++ ops) failure

/-- A state is behind another by operations, and they are written down. -/
structure Performed (s s' : State (σ × List Step)) (ops : List Operation) : Prop where
  exporter : s'.exporter = s.exporter.afterAll ops
  record : s'.net.2 = s.net.2 ++ s.exporter.steps ops

namespace Performed

variable {s s' s'' : State (σ × List Step)} {ops ops' : List Operation}

theorem refl (s : State (σ × List Step)) : Performed s s [] := ⟨rfl, by simp [steps]⟩

theorem trans (h : Performed s s' ops) (h' : Performed s' s'' ops') :
    Performed s s'' (ops ++ ops') := by
  refine ⟨?_, ?_⟩
  · rw [h'.exporter, h.exporter, afterAll_append]
  · rw [h'.record, h.record, h.exporter, steps_append, List.append_assoc]

end Performed

theorem renew_performed (o : Outside σ) (life : Lifetime) (s : State (σ × List Step)) :
    ∃ outcome, Performed s (renew o.recorded life s) [.resolve outcome] := by
  obtain ⟨e, x, events⟩ := s
  rcases h : o.resolve e life x.1 with ⟨outcome, y⟩
  refine ⟨outcome, ?_⟩
  cases outcome <;> simp only [renew, Outside.recorded_resolve h] <;> exact ⟨rfl, rfl⟩

theorem refresh_performed (o : Outside σ) (life : Lifetime) (s : State (σ × List Step)) :
    ∃ resolution : Option (Except Text (List Text)),
      resolution.isSome = s.exporter.needsResolution ∧
        Performed s (refresh o.recorded life s) (Operation.refreshing resolution) := by
  have hconnect : ∀ s : State (σ × List Step), Performed s (connect o.recorded s) [.connect] :=
    fun ⟨_, _, _⟩ => ⟨rfl, rfl⟩
  rw [refresh]
  split
  · next hneeds =>
    obtain ⟨outcome, houtcome⟩ := renew_performed o life s
    exact ⟨some outcome, hneeds.symm, houtcome.trans (hconnect _)⟩
  · next hneeds => exact ⟨none, by simpa using hneeds, hconnect s⟩

theorem sendAgain_performed (o : Outside σ) (batch : List Series) (life : Lifetime)
    (s : State (σ × List Step)) :
    ∃ failure, (sendAgain o.recorded batch life s).failure = failure.map ExportError.mk ∧
      Performed s (sendAgain o.recorded batch life s).state [.write batch failure] := by
  obtain ⟨e, x, events⟩ := s
  rcases h : o.write e batch life x.1 with ⟨failure, y⟩
  refine ⟨failure, ?_⟩
  cases failure <;> simp only [sendAgain, Outside.recorded_write h] <;> exact ⟨rfl, rfl, rfl⟩

theorem sendTwice_performed (o : Outside σ) (batch : List Series) (life : Lifetime)
    (s : State (σ × List Step)) :
    ∃ ops,
      Attempts s.exporter.needsResolution batch ops (sendTwice o.recorded batch life s).failure ∧
        Performed s (sendTwice o.recorded batch life s).state ops := by
  obtain ⟨e, x, events⟩ := s
  rcases h : o.write e batch life x.1 with ⟨_ | error, y⟩
  · simp only [sendTwice, Outside.recorded_write h]
    exact ⟨_, .once, rfl, rfl⟩
  · simp only [sendTwice, Outside.recorded_write h]
    -- the state behind the failed attempt
    let failed : State (σ × List Step) :=
      ⟨e, (y, x.2 ++ [⟨e, .write batch (some error)⟩]), events ++ [retryEvent error]⟩
    have hfirst : Performed ⟨e, x, events⟩ failed [.write batch (some error)] := ⟨rfl, rfl⟩
    obtain ⟨resolution, hresolution, hrefresh⟩ := refresh_performed o life failed
    obtain ⟨failure, hfailure, hagain⟩ :=
      sendAgain_performed o batch life (refresh o.recorded life failed)
    refine ⟨_, ?_, hfirst.trans (hrefresh.trans hagain)⟩
    rw [hfailure]
    exact .twice error resolution failure hresolution

/-- **A call does what it can do**, and all of it is written down. -/
theorem call_does (o : Outside σ) (e : Exporter) (ms : List Metric) (life : Lifetime) (x : σ) :
    ∃ ops, Does e ms ops (call o.recorded e ms life (x, [])).failure ∧
      (call o.recorded e ms life (x, [])).state.net.2 = e.steps ops ∧
      (call o.recorded e ms life (x, [])).state.exporter = e.afterAll ops := by
  let start : State (σ × List Step) := ⟨e, (x, []), []⟩
  rw [call]
  split
  · next hms => exact ⟨[], .nothing (by simpa using hms), rfl, rfl⟩
  next hms =>
  have hms : ms ≠ [] := by simpa using hms
  cases hconnected : e.connected with
  | true =>
    obtain ⟨ops, hattempts, hops⟩ :=
      sendTwice_performed o (series e.config ms) (life.within (o.clock x) e.time) start
    exact ⟨ops, .connected hms hconnected hattempts, hops.record, hops.exporter⟩
  | false =>
    obtain ⟨resolution, hresolution, hrefresh⟩ := refresh_performed o life start
    obtain ⟨ops, hattempts, hops⟩ :=
      sendTwice_performed o (series e.config ms)
        (life.within (o.recorded.clock (refresh o.recorded life start).net) e.time)
        (refresh o.recorded life start)
    rw [hrefresh.exporter, needsResolution_afterAll] at hattempts
    have hall := hrefresh.trans hops
    exact ⟨_, .unconnected hms hconnected resolution hresolution hattempts, hall.record,
      hall.exporter⟩

/-! ### Facts about one call -/

section Does

variable {e : Exporter} {ms : List Metric} {ops : List Operation} {failure : Option ExportError}
  {batch : List Series} {resolves : Bool}

/-- Whether the first write failed. -/
def firstFailed (ops : List Operation) : Bool :=
  ((ops.filterMap Operation.sent?).head?.bind Prod.snd).isSome

theorem firstFailed_refreshing (resolution : Option (Except Text (List Text)))
    (ops : List Operation) :
    firstFailed (Operation.refreshing resolution ++ ops) = firstFailed ops := by
  rw [firstFailed, List.filterMap_append, Operation.filterMap_sent?_refreshing, List.nil_append,
    firstFailed]

/-- One write if it succeeds, otherwise two with the same batch, of which the second decides. -/
def Writes (batch : List Series) (writes : List (List Series × Option SendError))
    (failure : Option ExportError) : Prop :=
  (writes = [(batch, none)] ∧ failure = none) ∨
    ∃ error second, writes = [(batch, some error), (batch, second)] ∧
      failure = second.map ExportError.mk

theorem Attempts.writes (h : Attempts resolves batch ops failure) :
    Writes batch (ops.filterMap Operation.sent?) failure := by
  cases h with
  | once => exact .inl ⟨rfl, rfl⟩
  | twice error resolution second h =>
    refine .inr ⟨error, second, ?_, rfl⟩
    cases resolution <;> rfl

theorem Does.of_nil (h : Does e ms ops failure) (hms : ms = []) : ops = [] ∧ failure = none := by
  cases h with
  | nothing => exact ⟨rfl, rfl⟩
  | connected h => exact absurd hms h
  | unconnected h => exact absurd hms h

theorem Does.writes (h : Does e ms ops failure) (hms : ms ≠ []) :
    Writes (series e.config ms) (ops.filterMap Operation.sent?) failure := by
  cases h with
  | nothing h => exact absurd h hms
  | connected _ _ h => exact h.writes
  | unconnected _ _ resolution _ h =>
    rw [List.filterMap_append, Operation.filterMap_sent?_refreshing]
    exact h.writes

/-- What is not a write makes a connection anew, once for each of the given resolutions. -/
structure Refreshes (resolves : Bool) (ops : List Operation)
    (resolutions : List (Option (Except Text (List Text)))) : Prop where
  operations : ops.filter (·.sent?.isNone) = resolutions.flatMap Operation.refreshing
  resolved : ∀ r ∈ resolutions, r.isSome = resolves

theorem Refreshes.append {ops' : List Operation}
    {rs rs' : List (Option (Except Text (List Text)))} (h : Refreshes resolves ops rs)
    (h' : Refreshes resolves ops' rs') : Refreshes resolves (ops ++ ops') (rs ++ rs') := by
  refine ⟨?_, fun r hr => ?_⟩
  · rw [List.filter_append, List.flatMap_append, h.operations, h'.operations]
  · exact (List.mem_append.mp hr).elim (h.resolved r) (h'.resolved r)

theorem Refreshes.refreshing {resolution : Option (Except Text (List Text))}
    (h : resolution.isSome = resolves) :
    Refreshes resolves (Operation.refreshing resolution) [resolution] :=
  ⟨by rw [Operation.filter_refreshing]; simp, by simpa using h⟩

theorem Attempts.refreshes (h : Attempts resolves batch ops failure) :
    ∃ resolutions, Refreshes resolves ops resolutions ∧
      resolutions.length = (firstFailed ops).toNat := by
  cases h with
  | once => exact ⟨[], ⟨rfl, by simp⟩, rfl⟩
  | twice error resolution second h =>
    have hfirst : Refreshes resolves [.write batch (some error)] [] := ⟨rfl, by simp⟩
    have hsecond : Refreshes resolves [.write batch second] [] := ⟨rfl, by simp⟩
    exact ⟨_, hfirst.append ((Refreshes.refreshing h).append hsecond), rfl⟩

/-- A call makes a connection if there is none, and one more if its first write fails. -/
theorem Does.refreshes (h : Does e ms ops failure) :
    ∃ resolutions, Refreshes e.needsResolution ops resolutions ∧
      resolutions.length
        = (firstFailed ops).toNat + (!e.connected && !ms.isEmpty).toNat := by
  cases h with
  | nothing h => exact ⟨[], ⟨rfl, by simp⟩, by simp [h, firstFailed]⟩
  | connected hms hconnected h =>
    obtain ⟨resolutions, hr, hlength⟩ := h.refreshes
    exact ⟨resolutions, hr, by simp [hlength, hconnected]⟩
  | unconnected hms hconnected resolution hresolution h =>
    obtain ⟨resolutions, hr, hlength⟩ := h.refreshes
    have hsome : ms.isEmpty = false := by simpa using hms
    refine ⟨_, (Refreshes.refreshing hresolution).append hr, ?_⟩
    simp [hlength, hconnected, hsome, firstFailed_refreshing, Nat.add_comm]

/-- Behind a call with metrics there is a connection. -/
theorem Does.connected_afterAll (h : Does e ms ops failure) :
    (e.afterAll ops).connected = (e.connected || !ms.isEmpty) := by
  rw [Bool.eq_iff_iff, Exporter.connected_afterAll]
  cases h with
  | nothing h => simp [h]
  | connected hms hconnected h => simp [hconnected]
  | unconnected hms hconnected resolution hresolution h => simp [hms, Operation.refreshing]

/-- A connection stays. -/
theorem connected_of_mem_steps (hconnected : e.connected = true) {step : Step}
    (h : step ∈ e.steps ops) : step.exporter.connected = true := by
  obtain ⟨before, later, hsplit⟩ := List.append_of_mem h
  rw [exporter_of_steps hsplit, Exporter.connected_afterAll]
  exact .inl hconnected

/-- Every write has a connection. -/
theorem Does.connected_of_write (h : Does e ms ops failure) {step : Step}
    (hstep : step ∈ e.steps ops) (hwrite : step.operation.sent?.isSome) :
    step.exporter.connected = true := by
  cases h with
  | nothing h => simp [steps] at hstep
  | connected hms hconnected h => exact connected_of_mem_steps hconnected hstep
  | unconnected hms hconnected resolution hresolution h =>
    rw [steps_append, List.mem_append] at hstep
    rcases hstep with hstep | hstep
    · -- nothing is written while the connection is made
      have hop : step.operation ∈ Operation.refreshing resolution := by
        rw [← e.map_operation_steps (Operation.refreshing resolution)]
        exact List.mem_map_of_mem hstep
      rw [← Operation.filter_refreshing, List.mem_filter] at hop
      simp [Option.isSome_iff_ne_none] at hop hwrite
      exact absurd hop.2 hwrite
    · refine connected_of_mem_steps ?_ hstep
      rw [Exporter.connected_afterAll]
      exact .inr (by simp [Operation.refreshing])

end Does

/-! ### Runs -/

/-- One call of an exporter. -/
structure Call where
  metrics : List Metric
  /-- Whether the caller waits. -/
  life : Lifetime

/-- What is known of a call. -/
structure Report where
  call : Call
  /-- What it did, in order. -/
  steps : List Step
  /-- How it failed, if it did. -/
  failure : Option ExportError

/-- The operations of a call. -/
def Report.operations (r : Report) : List Operation := r.steps.map Step.operation

/-- The batches that a call sent and how that failed. -/
def Report.writes (r : Report) : List (List Series × Option SendError) :=
  r.operations.filterMap Operation.sent?

/-- Calls in order: how each of them failed, and what is left of the exporter and the outside. -/
def exportEach (o : Outside σ) (e : Exporter) (x : σ) :
    List Call → List (Option ExportError) × Exporter × σ
  | [] => ([], e, x)
  | c :: cs =>
    match call o e c.metrics c.life x with
    | ⟨failure, e, x, _⟩ =>
      let rest := exportEach o e x cs
      (failure :: rest.1, rest.2)

/-- What is known of calls, and what is left of the exporter and the outside. -/
structure Recording (σ : Type) where
  reports : List Report
  exporter : Exporter
  net : σ

/-- Calls in order, with a record. -/
def recordEach (o : Outside σ) (e : Exporter) (x : σ) : List Call → Recording σ
  | [] => ⟨[], e, x⟩
  | c :: cs =>
    match call o.recorded e c.metrics c.life (x, []) with
    | ⟨failure, e, (x, steps), _⟩ =>
      let rest := recordEach o e x cs
      { rest with reports := ⟨c, steps, failure⟩ :: rest.reports }

/-- Calls each of which does what it can do, on what the calls before left of the exporter. -/
inductive Chain : Exporter → List Report → Exporter → Prop where
  | nil (e : Exporter) : Chain e [] e
  | cons {e e' : Exporter} {r : Report} {rs : List Report} {ops : List Operation}
      (hdoes : Does e r.call.metrics ops r.failure) (hsteps : r.steps = e.steps ops)
      (hrest : Chain (e.afterAll ops) rs e') : Chain e (r :: rs) e'

/-- **A run is a chain of calls.** -/
theorem chain_recordEach (o : Outside σ) (e : Exporter) (x : σ) (calls : List Call) :
    Chain e (recordEach o e x calls).reports (recordEach o e x calls).exporter := by
  induction calls generalizing e x with
  | nil => exact .nil e
  | cons c cs ih =>
    obtain ⟨ops, hdoes, hsteps, hexporter⟩ := call_does o e c.metrics c.life x
    rw [recordEach]
    rcases hcall : call o.recorded e c.metrics c.life (x, []) with
      ⟨failure, e', ⟨y, steps⟩, events⟩
    rw [hcall] at hdoes hsteps hexporter
    obtain rfl : e' = e.afterAll ops := hexporter
    exact .cons hdoes hsteps (ih _ _)

/-- A run with a record is the run without one. -/
theorem recordEach_eq_exportEach (o : Outside σ) (e : Exporter) (x : σ) (calls : List Call) :
    ((recordEach o e x calls).reports.map Report.call = calls) ∧
      ((recordEach o e x calls).reports.map Report.failure, (recordEach o e x calls).exporter,
        (recordEach o e x calls).net) = exportEach o e x calls := by
  induction calls generalizing e x with
  | nil => exact ⟨rfl, rfl⟩
  | cons c cs ih =>
    have hcall := call_recorded o e c.metrics c.life (x, [])
    rw [recordEach, exportEach, ← hcall]
    rcases call o.recorded e c.metrics c.life (x, []) with ⟨failure, e', ⟨y, steps⟩, events⟩
    obtain ⟨hcalls, hrest⟩ := ih e' y
    refine ⟨congrArg (c :: ·) hcalls, ?_⟩
    simp only [Outcome.forget, State.forget, ← hrest, List.map_cons]

namespace Chain

variable {e e' : Exporter} {rs : List Report}

/-- The calls of a chain are one sequence of operations. -/
theorem steps_eq (h : Chain e rs e') :
    ∃ ops, rs.flatMap Report.steps = e.steps ops ∧ e' = e.afterAll ops := by
  induction h with
  | nil e => exact ⟨[], rfl, rfl⟩
  | @cons e e' r rs ops hdoes hsteps hrest ih =>
    obtain ⟨ops', hops', rfl⟩ := ih
    refine ⟨ops ++ ops', ?_, (e.afterAll_append ops ops').symm⟩
    rw [List.flatMap_cons, hsteps, hops', steps_append]

/-- What each call of a chain does and how it fails. -/
theorem of_mem (h : Chain e rs e') {r : Report} (hr : r ∈ rs) :
    (r.call.metrics = [] → r.steps = [] ∧ r.failure = none) ∧
      (r.call.metrics ≠ [] → Writes (series e.config r.call.metrics) r.writes r.failure) := by
  induction h with
  | nil e => cases hr
  | @cons e e' r' rs ops hdoes hsteps hrest ih =>
    rcases List.mem_cons.mp hr with rfl | hr
    · refine ⟨fun hms => ?_, fun hms => ?_⟩
      · obtain ⟨rfl, hfailure⟩ := hdoes.of_nil hms
        exact ⟨hsteps, hfailure⟩
      · rw [Report.writes, Report.operations, hsteps, map_operation_steps]
        exact hdoes.writes hms
    · rw [← e.config_afterAll ops]
      exact ih hr

/-- **How often a chain connects**: once for each first write that failed, and once at first. -/
theorem refreshes (h : Chain e rs e') :
    ∃ resolutions, Refreshes e.needsResolution (rs.flatMap Report.operations) resolutions ∧
      resolutions.length = rs.countP (firstFailed ·.operations)
        + (!e.connected && rs.any (!·.call.metrics.isEmpty)).toNat := by
  induction h with
  | nil e => exact ⟨[], ⟨rfl, by simp⟩, by simp⟩
  | @cons e e' r rs ops hdoes hsteps hrest ih =>
    obtain ⟨first, hfirst, hfirstLength⟩ := hdoes.refreshes
    obtain ⟨later, hlater, hlaterLength⟩ := ih
    rw [needsResolution_afterAll] at hlater
    rw [hdoes.connected_afterAll] at hlaterLength
    have hops : r.operations = ops := by
      rw [Report.operations, hsteps, map_operation_steps]
    refine ⟨first ++ later, ?_, ?_⟩
    · rw [List.flatMap_cons, hops]
      exact hfirst.append hlater
    · rw [List.length_append, hfirstLength, hlaterLength, List.countP_cons, hops, List.any_cons]
      -- only the first call with metrics finds no connection
      cases e.connected <;> cases r.call.metrics.isEmpty <;> cases firstFailed ops <;>
        simp <;> omega

theorem connected_of_write (h : Chain e rs e') {step : Step}
    (hstep : step ∈ rs.flatMap Report.steps) (hwrite : step.operation.sent?.isSome) :
    step.exporter.connected = true := by
  induction h with
  | nil e => cases hstep
  | @cons e e' r rs ops hdoes hsteps hrest ih =>
    rw [List.flatMap_cons, List.mem_append, hsteps] at hstep
    exact hstep.elim (hdoes.connected_of_write · hwrite) ih

end Chain

/-- **Everything that an exporter does in a run of calls.**

The outside may answer as it likes, each time anew. A call without metrics does nothing and
succeeds. A call with metrics sends its series once if that succeeds, and otherwise exactly twice;
it fails as its second write did. What is not a write makes a connection anew, which takes a
resolution exactly if the host has a name to resolve; there are as many of these as first writes
that failed, and one more if there was any call with metrics. At each moment the exporter remembers
the addresses of the latest successful resolution, and nothing is written before a connection was
made. -/
theorem recordEach_operations (o : Outside σ) (config : ExportConfig) (hostName : Text) (x : σ)
    (calls : List Call) :
    let e := make config hostName
    let run := recordEach o e x calls
    let steps := run.reports.flatMap Report.steps
    (run.reports.map Report.call = calls ∧
        (run.reports.map Report.failure, run.exporter, run.net) = exportEach o e x calls) ∧
      (∀ r ∈ run.reports,
        (r.call.metrics = [] → r.steps = [] ∧ r.failure = none) ∧
          (r.call.metrics ≠ [] → Writes (series e.config r.call.metrics) r.writes r.failure)) ∧
      (∃ resolutions : List (Option (Except Text (List Text))),
        (run.reports.flatMap Report.operations).filter (·.sent?.isNone)
            = resolutions.flatMap Operation.refreshing ∧
          (∀ r ∈ resolutions, r.isSome = true ↔ e.host ≠ [] ∧ Address.isPlain e.host = false) ∧
          resolutions.length = run.reports.countP (firstFailed ·.operations)
            + if ∃ c ∈ calls, c.metrics ≠ [] then 1 else 0) ∧
      (∀ before step later, steps = before ++ step :: later →
        step.exporter.resolved = latest (before.map Step.operation) ∧
          (step.operation.sent?.isSome →
            step.exporter.connected = true ∧ .connect ∈ before.map Step.operation)) ∧
      run.exporter.resolved = latest (steps.map Step.operation) := by
  intro e run steps
  have hchain : Chain e run.reports run.exporter := chain_recordEach o e x calls
  obtain ⟨ops, hsteps, hexporter⟩ := hchain.steps_eq
  obtain ⟨hcalls, hsame⟩ : run.reports.map Report.call = calls ∧ _ :=
    recordEach_eq_exportEach o e x calls
  refine ⟨⟨hcalls, hsame⟩, fun r hr => hchain.of_mem hr, ?_, fun before step later hsplit => ?_, ?_⟩
  · obtain ⟨resolutions, hrefreshes, hlength⟩ := hchain.refreshes
    refine ⟨resolutions, hrefreshes.operations, fun r hr => ?_, ?_⟩
    · rw [hrefreshes.resolved r hr]
      simp [needsResolution]
    · have hany : run.reports.any (!·.call.metrics.isEmpty) = true
          ↔ ∃ c ∈ calls, c.metrics ≠ [] := by
        rw [← hcalls, List.any_eq_true]
        constructor
        · rintro ⟨r, hr, hms⟩
          exact ⟨r.call, List.mem_map_of_mem hr, by simpa using hms⟩
        · rintro ⟨c, hc, hms⟩
          obtain ⟨r, hr, rfl⟩ := List.mem_map.mp hc
          exact ⟨r, hr, by simpa using hms⟩
      rw [hlength]
      congr 1
      simp only [show e.connected = false from rfl, Bool.not_false, Bool.true_and, ← hany]
      cases run.reports.any (!·.call.metrics.isEmpty) <;> rfl
  · have hnow : step.exporter = e.afterAll (before.map Step.operation) :=
      exporter_of_steps (hsteps.symm.trans hsplit)
    refine ⟨?_, fun hwrite => ?_⟩
    · rw [hnow]
      exact e.resolved_afterAll _
    · have hmem : step ∈ steps := by simp [hsplit]
      have hconnected := hchain.connected_of_write hmem hwrite
      refine ⟨hconnected, ?_⟩
      rw [hnow, connected_afterAll] at hconnected
      exact hconnected.resolve_left (by simp [e, make])
  · rw [hexporter, show steps = e.steps ops from hsteps, map_operation_steps]
    exact e.resolved_afterAll ops

end Exporter

end HitLog
