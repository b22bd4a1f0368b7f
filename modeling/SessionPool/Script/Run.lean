import SessionPool.Pool.Text
import SessionPool.Script.Desk
import SessionPool.Script.Step

/-!
# Carrying out a script

A step first looks up the names that it uses; if that fails, it changes nothing. A step that calls
a pool or the server is over when its call is, which may be during a later step. Names are looked
up in the order pool, new name, other names, except that a session that is detached has to have
its new name before anything else.
-/

namespace SessionPool.Script

open World (Request Trace Event)

namespace Desk

/-! ### Calls that are over -/

/-- What has become of a call, if it is over. -/
def over? (events : List Event) (caller : Nat) : Option Event :=
  events.find? (·.thread.caller? == some caller)

/-- Take the events of a step to the steps they belong to. Those that are over are no longer
pending; their outcomes come in the order of the steps. -/
def collect (desk : Desk) (events : List Event) : Desk × List (Nat × Outcome) :=
  let still := desk.pending.filter fun pending => (over? events pending.caller).isNone
  desk.pending.foldl
    (fun (desk, finished) pending =>
      match over? events pending.caller with
      | some event =>
          (desk.learn pending.makes event,
            finished ++ [(pending.step, Outcome.ofAnswer event.answer)])
      | none => (desk, finished))
    ({ desk with pending := still }, [])

/-! ### Steps -/

/-- What a step has done: the desk after it, its outcome, and the outcomes of earlier steps. -/
structure Effect where
  desk : Desk
  outcome : Outcome
  finished : List (Nat × Outcome)

/-- A step that only looks. -/
def say (desk : Desk) (value : Value) : Effect := ⟨desk, .ok value, []⟩

/-- A step that makes a call. -/
def make (desk : Desk) (place : Nat) (request : Request) (makes : Option Name)
    (uses : Option Nat) (holds : Option Name) : Effect :=
  let caller := desk.world.callers
  let trace := desk.world.perform request
  let (desk, finished) := { desk with world := trace.world }.collect trace.events
  match over? trace.events caller with
  | some event => ⟨desk.learn makes event, Outcome.ofAnswer event.answer, finished⟩
  | none =>
      let pending := desk.pending ++ [⟨place, caller, makes, uses, holds⟩]
      ⟨{ desk with pending }, .pending, finished⟩

/-- A step that asks a pool for a connection. -/
def borrow (desk : Desk) (place : Nat) (pool result : String) (request : Nat → Request) :
    Except Refusal Effect := do
  let index ← desk.findPool pool
  desk.vacant (.handle result)
  return desk.make place (request index) (some (.handle result)) (some index) none

/-- A step that asks something else of a pool. -/
def callPool (desk : Desk) (place : Nat) (pool : String) (request : Nat → Request) :
    Except Refusal Effect := do
  let index ← desk.findPool pool
  return desk.make place (request index) none (some index) none

/-- A step that uses a handle, which nobody else can until it is over. -/
def useHandle (desk : Desk) (place : Nat) (handle : String) (request : Handle → Request) :
    Except Refusal Effect := do
  let found ← desk.findHandle handle
  return desk.make place (request found) none none (some (.handle handle))

/-- A step that makes a pool, if its settings are known. -/
def openPool (desk : Desk) (place : Nat) (pool : String) (settings : Except ConfigProblem Config) :
    Except Refusal Effect := do
  desk.vacant (.pool pool)
  match settings with
  | .ok config => return desk.make place (.openPool config) (some (.pool pool)) none none
  | .error problem => return ⟨desk, .failed (.pool (.config problem)), []⟩

/-- A step that looks at a pool. -/
def inspectPool (desk : Desk) (pool : String) (look : Pool → Value) : Except Refusal Effect := do
  let index ← desk.findPool pool
  match desk.world.pools[index]? with
  | some found => return desk.say (look found)
  | none => .error .noSuchName

/-- A step that looks at what is behind a handle. -/
def inspectLease (desk : Desk) (handle : String) (look : Connection → Value) :
    Except Refusal Effect := do
  let found ← desk.findHandle handle
  match desk.world.lease? found with
  | some lease => return desk.say (look lease.connection)
  | none => return ⟨desk, .failed (.pool .invalidHandle), []⟩

/-- Where the session is that a step uses directly, and under which name. -/
def findTarget (desk : Desk) : Target → Except Refusal (Holder × Name)
  | .session name => do return (.outside (← desk.findSession name), .session name)
  | .handle name => do return (.lease (← desk.findHandle name), .handle name)

/-- A step that uses a session directly. -/
def useSession (desk : Desk) (place : Nat) (target : Target)
    (request : Holder → Request) : Except Refusal Effect := do
  let (holder, name) ← desk.findTarget target
  return desk.make place (request holder) none none (some name)

/-- Carry out a step, or refuse it. -/
def take (desk : Desk) (place : Nat) : Step → Except Refusal Effect
  | .advance duration =>
      let trace := desk.world.advance duration
      let (desk, finished) := { desk with world := trace.world }.collect trace.events
      .ok ⟨desk, .ok .nothing, finished⟩
  | .instruct command =>
      .ok ({ desk with world := desk.world.instruct command }.say .nothing)
  | .disconnects id => .ok (desk.say (.number (desk.world.server.disconnectCount id)))
  | .newPool pool settings => desk.openPool place pool (.ok (.ofSettings settings))
  | .buildPool pool calls => desk.openPool place pool (Builder.ofCalls calls).build
  | .dropPool pool => do
      let index ← desk.findPool pool
      if desk.pending.any (·.uses == some index) then .error .busy
      else return (desk.forget (.pool pool)).make place (.dropPool index) none none none
  | .acquire pool timeout result => desk.borrow place pool result (.acquire · timeout)
  | .get pool result => desk.borrow place pool result .get
  | .tryGet pool result => desk.borrow place pool result .tryGet
  | .adopt pool session => do
      let index ← desk.findPool pool
      let id ← desk.findSession session
      return (desk.forget (.session session)).make place (.adopt index id) none (some index) none
  | .healthCheck pool => desk.callPool place pool .healthCheck
  | .shutdown pool => desk.callPool place pool .shutdown
  | .status pool => desk.inspectPool pool fun found => .status found.status
  | .metrics pool => desk.inspectPool pool fun found => .metrics (found.metrics desk.world.now)
  | .config pool => desk.inspectPool pool fun found => .config found.config
  | .debugPool pool => desk.inspectPool pool fun found => .text found.debugText
  | .isValid handle => do
      let found ← desk.findHandle handle
      return desk.say (.truth (desk.world.lease? found).isSome)
  | .connectionId handle => desk.inspectLease handle fun connection => .number connection.id
  | .metadata handle =>
      desk.inspectLease handle fun connection =>
        .metadata (connection.metadata.view desk.world.now)
  | .debugHandle handle => do
      let found ← desk.findHandle handle
      return desk.say (.text (Lease.debugText (desk.world.lease? found)))
  | .release handle => desk.useHandle place handle .release
  | .invalidate handle => desk.useHandle place handle .invalidate
  | .execute handle statement => desk.useHandle place handle (.execute · statement)
  | .query handle statement => desk.useHandle place handle (.query · statement)
  | .detach handle result => do
      desk.vacant (.session result)
      let found ← desk.findHandle handle
      return (desk.forget (.handle handle)).make place (.detach found) (some (.session result))
        none none
  | .drop handle => do
      let found ← desk.findHandle handle
      return (desk.forget (.handle handle)).make place (.discard found) none none none
  | .connect result => do
      desk.vacant (.session result)
      return desk.make place .connect (some (.session result)) none none
  | .sessionInfo target => do
      let (holder, _) ← desk.findTarget target
      match desk.world.session? holder with
      | some session => return desk.say (.session session)
      | none => return ⟨desk, .failed (.pool .invalidHandle), []⟩
  | .sessionAlive target => desk.useSession place target .probe
  | .sessionExecute target statement =>
      desk.useSession place target (.executeDirectly · statement)
  | .sessionQuery target statement => desk.useSession place target (.queryDirectly · statement)
  | .sessionDisconnect target => desk.useSession place target .disconnect
  | .dropSession session => do
      let _ ← desk.findSession session
      return (desk.forget (.session session)).say .nothing
  | .unknown => .error .badStep

/-- Carry out a step and answer it. A step that is refused leaves everything as it is. -/
def answerStep (desk : Desk) (place : Nat) (step : Step) : Desk × StepAnswer :=
  match desk.take place step with
  | .ok effect => (effect.desk, ⟨effect.outcome, effect.finished, effect.desk.snapshot⟩)
  | .error refusal => (desk, ⟨.refused refusal, [], desk.snapshot⟩)

/-- Carry out the steps of a script from the one at `place` on. -/
def answerFrom (desk : Desk) (place : Nat) : List Step → List StepAnswer
  | [] => []
  | step :: later =>
      let (after, answer) := desk.answerStep place step
      answer :: after.answerFrom (place + 1) later

end Desk

/-- Carry out a script in a world of its own. -/
def run (steps : List Step) : List StepAnswer := Desk.new.answerFrom 0 steps

end SessionPool.Script
