import ServiceBroker.Proofs.Broker.Polls
import ServiceBroker.Proofs.Memory.Account

/-! Which task a poll speaks about. It is the task that the poll was shown last: the one that was
asked for by its id, or the latest one of a context. What the poll answers follows from the number of
that task and from its state, and from nothing else that was found out. -/
namespace ServiceBroker

namespace Lifecycle

open Procedure

variable {offering : Offering} {deployment : String} {data : OperationData}
  {past : List Happening}

/-- What the task is that was found: the one that was shown last. -/
def IsShown (past : List Happening) (result : Except LifecycleError BackendTask) : Prop :=
  ∀ task, result = .ok task → lastShown? past = some task

theorem isShown_error (past : List Happening) (e : LifecycleError) : IsShown past (.error e) :=
  fun _ impossible => nomatch impossible

theorem isShown_fetched (past : List Happening) (id : TaskId) (task : BackendTask) :
    IsShown (past ++ [.answered (.getTask id) (.ok task)]) (.ok task) := by
  rintro _ ⟨⟩
  exact lastShown?_concat rfl

theorem isShown_looked {deployment contextId : String} {tasks : List BackendTask}
    {task : BackendTask} (last : tasks.getLast? = some task) :
    IsShown (past ++ [.look deployment contextId tasks]) (.ok task) := by
  rintro _ ⟨⟩
  exact lastShown?_concat last

theorem shows_fetch (id : TaskId) :
    (fetch id).run.Meets (fun _ _ => True) IsShown past :=
  meets_fetch id trivial (isShown_fetched past id) fun _ => isShown_error _ _

theorem shows_runErrand (errand : Errand) (contextId : String) :
    (runErrand deployment errand contextId).run.Meets (fun _ _ => True) IsShown past := by
  simp only [runErrand, run_bind_procedure, Program.meets_bind, meets_submitErrand]
  exact ⟨trivial, fun id => shows_fetch id, fun _ => isShown_error _ _⟩

theorem shows_advanceDeploy : (advanceDeploy offering deployment data).run.Meets
    (fun _ _ => True) IsShown past := by
  simp only [advanceDeploy, run_bind_procedure, Program.meets_bind]
  refine meets_history _ trivial (isShown_error _ _) (fun tasks _ => ?_) fun _ => isShown_error _ _
  dsimp only
  split
  · rename_i deploy
    split
    · simp only [run_bind_procedure, Program.meets_bind]
      refine meets_postDeployErrand ?_
      cases errandAfterDeploy? offering data with
      | none => exact isShown_looked rfl
      | some errand => exact shows_runErrand errand _
    · exact isShown_looked rfl
  · exact isShown_looked rfl
  · exact isShown_error _ _

theorem shows_advanceDelete : (advanceDelete deployment data).run.Meets
    (fun _ _ => True) IsShown past := by
  simp only [advanceDelete, run_bind_procedure, Program.meets_bind]
  refine meets_history _ trivial (isShown_error _ _) (fun tasks _ => ?_) fun _ => isShown_error _ _
  cases last : tasks.getLast? with
  | none =>
    simp only [last]
    exact isShown_error _ _
  | some latest =>
    simp only [last]
    split
    · split
      · simp only [run_bind_procedure, Program.meets_bind, meets_info, meets_submitDelete]
        exact ⟨trivial, fun id => shows_fetch id, fun _ => isShown_error _ _⟩
      · split
        · exact shows_runErrand _ _
        · exact isShown_looked last
    · exact isShown_looked last

/-- The task that a poll finds is the one that it was shown last. -/
theorem shows_currentTask : (currentTask offering deployment data).run.Meets
    (fun _ _ => True) IsShown past := by
  unfold currentTask
  split
  · exact shows_fetch _
  split
  · exact shows_advanceDeploy
  split
  · exact shows_advanceDelete
  · exact shows_fetch _

end Lifecycle

namespace Broker

open Procedure Steps Lifecycle

/-- The answer of a poll is about the task that it found and was shown last. -/
def Answers (offering : Offering) (deployment : String) (about : Correlation) (data : OperationData)
    (past : List Happening) (operation : LastOperation) : Prop :=
  ∃ task, Found offering deployment data past (.ok task) ∧ lastShown? past = some task ∧
    operation = reportOf { about with taskId := some task.id } data.kind task.state.outcome

/-- What a poll answers is about the task that it found and was shown last. -/
theorem answers_pollOperation (config : BrokerConfig) (about : Correlation) (data : OperationData) :
    (pollOperation config about data).run.Meets
      (StepRule config.offering (config.deploymentName about.instanceId) data)
      (fun past result => ∀ operation, result = .ok operation →
        Answers config.offering (config.deploymentName about.instanceId) about data past operation)
      [] := by
  simp only [pollOperation, run_bind_procedure, Program.meets_bind, meets_lift]
  refine (meets_currentTask.and shows_currentTask).mono (fun _ _ _ permitted => permitted) ?_
  rintro past (e | task) _ ⟨found, isShown⟩
  · rintro _ ⟨⟩
  · refine (meets_reportTask _ _ _ task past).mono
      (fun _ _ _ quiet => stepRule_of_preliminary quiet) ?_
    rintro later _ _ ⟨⟨before, unseen⟩, rfl⟩ _ ⟨⟩
    exact ⟨task, found.mono before.subset, unseen.trans (isShown task rfl), rfl⟩

end Broker

end ServiceBroker
