import ServiceBroker.Proofs.Lifecycle.Answers
import ServiceBroker.Proofs.Memory.Calm

/-! Polls that find out how their operation stands. Where no call fails, a poll needs the first task
of its operation, and if the operation has a context, at least one task under it and for a deploy no
more than two. -/
namespace ServiceBroker

open Memory Procedure

variable {deadline : Option Millis} {w : World} {offering : Offering} {deployment : String}
  {data : OperationData}

namespace Lifecycle

theorem returns_fetch (calm : w.backend.Calm) {id : TaskId} (held : w.backend.HasTask id) :
    (fetch id).Returns deadline w fun _ _ => True := by
  obtain ⟨task, answered, _⟩ := World.serve_getTask calm deadline held
  exact returns_ask answered _ trivial

theorem returns_history (calm : w.backend.Calm) {contextId : String}
    (listed : w.backend.tasksOf deployment (fun task => task.contextId == contextId) ≠ []) :
    (history deployment contextId).Returns deadline w fun tasks w' =>
      tasks = w.backend.tasksOf deployment (fun task => task.contextId == contextId) ∧
        w'.backend = w.backend := by
  obtain ⟨answered, same⟩ := World.serve_getTasksByContext calm deadline deployment contextId
  refine (returns_ask answered (fun tasks w' =>
    tasks = w.backend.tasksOf deployment (fun task => task.contextId == contextId) ∧
      w'.backend = w.backend) ⟨rfl, same⟩).bind ?_
  rintro (tasks : List BackendTask) w' ⟨all, kept⟩
  cases tasks with
  | nil => exact absurd all.symm listed
  | cons first rest => exact returns_pure ⟨all, kept⟩

/-- The task of a submission is fetched. -/
theorem returns_fetched {submits : Procedure LifecycleError TaskId}
    (returns : submits.Returns deadline w fun id w' => w'.backend.Calm ∧ w'.backend.HasTask id) :
    (submits >>= fetch).Returns deadline w fun _ _ => True := by
  refine returns.bind ?_
  rintro id w' ⟨still, held⟩
  exact returns_fetch still held

theorem returns_runErrand (calm : w.backend.Calm) (errand : Errand) (contextId : String) :
    (runErrand deployment errand contextId).Returns deadline w fun _ _ => True := by
  obtain ⟨id, answered, still, held⟩ :=
    World.serve_submitErrand calm deadline deployment errand contextId
  exact returns_fetched (returns_ask answered _ ⟨still, held⟩)

theorem returns_runDelete (calm : w.backend.Calm) (contextId : String) (force : Bool) :
    (do let id ← ask (.submitDelete deployment contextId force) failed
        fetch id : Procedure LifecycleError BackendTask).Returns deadline w fun _ _ => True := by
  obtain ⟨id, answered, still, held⟩ :=
    World.serve_submitDelete calm deadline deployment contextId force
  exact returns_fetched (returns_ask answered _ ⟨still, held⟩)

/-- The errand is looked up in the operation data and the catalog only. -/
theorem returns_postDeployErrand :
    (postDeployErrand? offering data).Returns deadline w fun _ w' => w'.backend = w.backend := by
  have noted (event : Log.Event) :
      (do note event
          return none : Procedure LifecycleError (Option Errand)).Returns deadline w
        fun _ w' => w'.backend = w.backend :=
    (returns_note event).bind fun _ _ kept => returns_pure kept
  unfold postDeployErrand?
  split
  · exact returns_pure rfl
  · split
    · exact noted _
    · split
      · exact noted _
      · split
        · exact returns_pure rfl
        · exact noted _

theorem returns_advanceDeploy (calm : w.backend.Calm)
    (some : w.backend.tasksOf deployment (fun task => task.contextId == data.contextId) ≠ [])
    (few : (w.backend.tasksOf deployment
      fun task => task.contextId == data.contextId).length ≤ 2) :
    (advanceDeploy offering deployment data).Returns deadline w fun _ _ => True := by
  refine (returns_history calm some).bind ?_
  rintro tasks w' ⟨rfl, kept⟩
  generalize w.backend.tasksOf deployment _ = tasks at some few ⊢
  match tasks with
  | [] => exact absurd rfl some
  | [deploy] =>
    by_cases done : deploy.isDone
    · simp only [done, if_true]
      refine returns_postDeployErrand.bind ?_
      rintro (_ | errand) w'' kept'
      · exact returns_pure trivial
      · refine (returns_note _).bind fun _ w''' kept'' => ?_
        exact returns_runErrand (kept''.trans (kept'.trans kept) ▸ calm) errand _
    · simp only [done, Bool.false_eq_true, if_false]
      exact returns_pure trivial
  | [_, _] => exact returns_pure trivial
  | _ :: _ :: _ :: _ => simp at few

theorem returns_advanceDelete (calm : w.backend.Calm)
    (some : w.backend.tasksOf deployment (fun task => task.contextId == data.contextId) ≠ []) :
    (advanceDelete deployment data).Returns deadline w fun _ _ => True := by
  refine (returns_history calm some).bind ?_
  rintro tasks w' ⟨rfl, kept⟩
  generalize w.backend.tasksOf deployment _ = tasks at some ⊢
  obtain ⟨latest, last⟩ := Option.isSome_iff_exists.mp (List.getLast?_isSome.mpr some)
  simp only [last]
  by_cases done : latest.isDone
  · simp only [done, if_true]
    by_cases all : tasks.length = data.effectiveErrands.length
    · simp only [all, if_true]
      refine (returns_note _).bind fun _ w'' kept' => ?_
      exact returns_runDelete (kept'.trans kept ▸ calm) _ _
    · simp only [all, if_false]
      cases data.effectiveErrands[tasks.length]? with
      | none => exact returns_pure trivial
      | some next =>
        refine (returns_note _).bind fun _ w'' kept' => ?_
        exact returns_runErrand (kept'.trans kept ▸ calm) next _
  · simp only [done, Bool.false_eq_true, if_false]
    exact returns_pure trivial

/-- The backend holds what a poll of an operation needs. -/
structure Ready (b : Backend) (deployment : String) (data : OperationData) : Prop where
  first : b.HasTask data.taskId
  some : data.hasContext →
    b.tasksOf deployment (fun task => task.contextId == data.contextId) ≠ []
  few : data.hasContext → data.kind.isDeploy →
    (b.tasksOf deployment fun task => task.contextId == data.contextId).length ≤ 2

/-- A poll finds the task that shows how its operation stands. -/
theorem returns_currentTask (calm : w.backend.Calm) (ready : Ready w.backend deployment data) :
    (currentTask offering deployment data).Returns deadline w fun _ _ => True := by
  unfold currentTask
  split
  · exact returns_fetch calm ready.first
  · rename_i context
    have context : data.hasContext := by simpa using context
    split
    · rename_i deploys
      exact returns_advanceDeploy calm (ready.some context) (ready.few context deploys)
    · split
      · exact returns_advanceDelete calm (ready.some context)
      · exact returns_fetch calm ready.first

end Lifecycle

namespace Broker

/-- Cleaning up may fail, but that is only noted. -/
theorem sure_cleanUpAfterDelete (about : Correlation) (deployment : String) :
    (cleanUpAfterDelete about deployment).Sure := by
  have outcome : Sure (ExceptT.lift (Steps.cleanUp about deployment).run :
      Procedure BrokerError (Except BrokerError Unit)) := by
    intro past
    rw [meets_lift]
    refine (Steps.asks_cleanUp about deployment past).mono (fun _ _ _ _ => trivial) ?_
    exact fun later result _ asked => ⟨asked.1, result, rfl⟩
  refine outcome.then ?_
  rintro (e | done)
  · exact sure_note _
  · exact sure_pure _

/-- A task that was found is reported. -/
theorem sure_reportTask (about : Correlation) (deployment : String) (kind : OperationKind)
    (task : BackendTask) : (reportTask about deployment kind task).Sure := by
  unfold reportTask
  split
  · exact sure_pure _
  · split
    · refine (sure_cleanUpAfterDelete _ _).then fun _ => ?_
      exact (sure_note _).then fun _ => sure_pure _
    · exact (sure_note _).then fun _ => sure_pure _
  · exact (sure_note _).then fun _ => sure_pure _

theorem returns_pollOperation (config : BrokerConfig) (about : Correlation)
    (calm : w.backend.Calm)
    (ready : Lifecycle.Ready w.backend (config.deploymentName about.instanceId) data) :
    (pollOperation config about data).Returns deadline w fun _ _ => True := by
  refine (Lifecycle.returns_currentTask calm ready).lift.bind ?_
  rintro _ w' ⟨task, rfl, _⟩
  exact (sure_reportTask _ _ _ task).returns

end Broker

/-- A poll with the token of an operation is answered with how the operation stands. -/
theorem Request.polled_of_ready (config : BrokerConfig) (requestId instanceId : String)
    (deadline : Option Millis) (calm : w.backend.Calm)
    (read : OperationData.decode data.encode = .ok data)
    (ready : Lifecycle.Ready w.backend (config.deploymentName instanceId) data) :
    ∃ operation, (((Request.lastOperation requestId instanceId data.encode).program config).run
      (World.handler deadline) w).1 = .polled operation := by
  have polls : Returns deadline w (Broker.pollOperation config
      { config.correlation instanceId requestId data.kind with taskId := some data.taskId } data)
      fun _ _ => True := Broker.returns_pollOperation config _ calm ready
  obtain ⟨operation, w', ran, _⟩ := polls.within (Steps.spanOf instanceId requestId data.kind)
  refine ⟨operation, ?_⟩
  rw [Request.program_of_decode config requestId instanceId read, respond, Program.run_bind, ran]
  rfl

end ServiceBroker
