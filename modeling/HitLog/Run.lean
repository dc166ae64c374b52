import HitLog.Session.Action

/-!
# Runs

A run starts a session, registers a finaliser for it if it is asked to, runs a workload and
finalises the session whichever way the workload ended. A refused registration ends the run before
the workload. A fault in the workload goes on to the caller of the run once the session is
finalised, unless it ends the process.

## Main definitions

* `Registration` — what happens when the finaliser is registered
* `Workload` — actions and how they end
* `run` — one run, and `RunReport`
* `RunError` — how a run fails
-/

namespace HitLog

open scoped Text

/-- What happens when the finaliser is registered. -/
structure Registration where
  /-- How often the finaliser is called right away. -/
  calls : Nat
  /-- The wording of a refusal. -/
  refusal : Option Text

/-- An error that a workload returns, with the kinds that it is recognised by. -/
structure WorkloadError where
  message : Text
  kinds : List ErrorKind

/-- How a workload ends if none of its actions stops it. -/
inductive Ending where
  /-- It returns. -/
  | finish
  /-- It returns an error. -/
  | fail (error : WorkloadError)
  /-- It raises a fault. -/
  | raise (fault : Fault)

/-- What runs in a session. -/
structure Workload where
  actions : List Action
  /-- How it ends, from the answers of its actions. -/
  ending : List Answer → Ending

/-- How a run fails. -/
inductive RunError where
  /-- The configuration is not valid. -/
  | invalid (violation : Config.Violation)
  /-- The registration was refused. -/
  | registration (refusal : Text)
  /-- The workload returned an error. -/
  | workload (error : WorkloadError)
  /-- The session was not finalised properly. -/
  | finalize (error : FinalizeError)
  /-- Both. -/
  | both (workload : WorkloadError) (finalize : FinalizeError)

namespace RunError

/-- The wordings of the parts of an error made of several. -/
def parts : RunError → List Text
  | both w f => [w.message, f.message]
  | _ => []

/-- The wording of a run's error. -/
def message : RunError → Text
  | invalid v => v.message
  | registration refusal => "registering finalizer: " ++ refusal
  | workload w => w.message
  | finalize f => f.message
  | both w f => w.message ++ "; " ++ f.message

/-- The kinds of a run's error. -/
def kinds : RunError → List ErrorKind
  | invalid v => v.kinds
  | registration _ => [.registration, .hook]
  | workload w => w.kinds
  | finalize f => f.kinds
  | both w f => w.kinds ++ f.kinds

/-- The error of what failed, if something did. -/
def ofParts : Option WorkloadError → Option FinalizeError → Option RunError
  | none, none => none
  | some w, none => some (.workload w)
  | none, some f => some (.finalize f)
  | some w, some f => some (.both w f)

end RunError

/-- How a run ends. -/
inductive RunOutcome where
  /-- It returns, with an error if something failed. -/
  | returned (error : Option RunError)
  /-- A fault leaves it. -/
  | fault (fault : Fault)

/-- What is known of a run. -/
structure RunReport where
  /-- Whether the finaliser was registered, or tried to be. -/
  registered : Bool
  /-- Whether the workload ran. -/
  called : Bool
  /-- The answers of the workload's actions. -/
  answers : List Answer
  outcome : RunOutcome
  /-- The session as the run left it, if it started. -/
  session : Option Session
  world : World

/-- The event of a refused registration. -/
def refusedEvent (refusal : Text) : Journal.Entry :=
  Journal.failure .error "Failed to register finalizer" [] refusal

/-- Call the finaliser several times. -/
def callFinalizer (env : Environment) (s : Stage) (times : Nat) : Stage :=
  Nat.repeat (fun s => (s.finalize env).2) times s

/-- The error or the fault that a workload ends with. -/
def Workload.result (load : Workload) (p : Stage.Performed) : Except Fault (Option WorkloadError) :=
  match p.fault with
  | some f => .error f
  | none =>
    match load.ending p.answers with
    | .finish => .ok none
    | .fail e => .ok (some e)
    | .raise f => .error f

/-- Run the workload and finalise the session. -/
def runWorkload (env : Environment) (registered : Bool) (load : Workload) (s : Stage) : RunReport :=
  let p := s.performAll env load.actions
  match load.result p with
  | .ok error =>
    let (verdict, s) := p.stage.finalize env
    ⟨registered, true, p.answers, .returned (RunError.ofParts error verdict), some s.session,
      s.world⟩
  | .error f =>
    let s := if f.endsProcess then p.stage else (p.stage.finalize env).2
    ⟨registered, true, p.answers, .fault f, some s.session, s.world⟩

/-- One run. -/
def run (env : Environment) (config : Config) (registration : Option Registration) (load : Workload)
    (w : World) : RunReport :=
  match Session.start config env.hostName with
  | .error (.invalid v) => ⟨false, false, [], .returned (some (.invalid v)), none, w⟩
  | .error (.fault f) => ⟨false, false, [], .fault f, none, w⟩
  | .ok session =>
    match registration with
    | none => runWorkload env false load ⟨session, false, w⟩
    | some r =>
      let s := callFinalizer env ⟨session, true, w⟩ r.calls
      match r.refusal with
      | none => runWorkload env true load s
      | some refusal =>
        ⟨true, false, [], .returned (some (.registration refusal)), some s.session,
          s.world.tell config.journaling [refusedEvent refusal]⟩

namespace RunReport

/-- What an action behind the run gives: nothing where the workload never had the session, unless it
is the finaliser that is called. -/
def after (env : Environment) (r : RunReport) (a : Action) :
    Option (Except Fault Answer) × RunReport :=
  let isHook := match a with
    | .hook => true
    | _ => false
  match r.session with
  | none => (if isHook then some (.ok .noHook) else none, r)
  | some session =>
    if r.called || isHook then
      let (result, s) := Stage.perform env a ⟨session, r.registered, r.world⟩
      (some result, { r with session := some s.session, world := s.world })
    else (none, r)

end RunReport

end HitLog
