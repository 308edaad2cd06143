import ServiceBroker.Proofs.Broker.Quiet
import ServiceBroker.Proofs.Broker.Requests

/-! What a poll does, for any token and any answers. It looks at the tasks of the operation once,
makes at most one submission, right after that look, and the submission is the one that the number
of tasks calls for. What it answers is a report of what its lifecycle step came out at. -/
namespace ServiceBroker

namespace Lifecycle

/-- The errand to run after the deploy: the one in the operation data, or else the one of its plan.
-/
def errandAfterDeploy? (offering : Offering) (data : OperationData) : Option Errand :=
  (data.postDeployErrand.filter fun e => !e.isEmpty).or
    (data.planId.bind fun id => (offering.findPlan? id).bind Plan.postDeployErrand?)

/-- The submission that is due when a number of tasks are there and the last one is done. -/
def stepAfter? (offering : Offering) (deployment : String) (data : OperationData) (count : Nat) :
    Option AnyCall :=
  if data.kind.isDeploy then
    if count = 1 then
      (errandAfterDeploy? offering data).map fun e => ⟨_, .submitErrand deployment e data.contextId⟩
    else none
  else if count = data.effectiveErrands.length then
    some ⟨_, .submitDelete deployment data.contextId false⟩
  else
    data.effectiveErrands[count]?.map fun e => ⟨_, .submitErrand deployment e data.contextId⟩

/-- The submission that a list of tasks calls for. -/
def nextStep? (offering : Offering) (deployment : String) (data : OperationData)
    (tasks : List BackendTask) : Option AnyCall :=
  if tasks.getLast?.any BackendTask.isDone then stepAfter? offering deployment data tasks.length
  else none

/-- The operation has steps that polls take. -/
def hasSteps (data : OperationData) : Bool :=
  data.hasContext && (data.kind.isDeploy || data.kind = .delete)

/-- A call is no submission, or it comes right after a look at the tasks and is what they call for.
-/
def StepRule (offering : Offering) (deployment : String) (data : OperationData)
    (past : List Happening) (c : AnyCall) : Prop :=
  c.submits?.isSome → hasSteps data ∧ ∃ tasks,
    past = [.look deployment data.contextId tasks] ∧
      nextStep? offering deployment data tasks = some c

/-- How a poll came to what it found. -/
inductive Found (offering : Offering) (deployment : String) (data : OperationData)
    (past : List Happening) : Except LifecycleError BackendTask → Prop where
  /-- An operation without steps is its one task. -/
  | only {task : BackendTask} (single : hasSteps data = false)
      (fetched : .answered (.getTask data.taskId) (.ok task) ∈ past) :
      Found offering deployment data past (.ok task)
  /-- No step is due, so the last task shows how the operation stands. -/
  | standing {tasks : List BackendTask} {task : BackendTask} (steps : hasSteps data)
      (seen : .look deployment data.contextId tasks ∈ past) (last : tasks.getLast? = some task)
      (idle : nextStep? offering deployment data tasks = none) :
      Found offering deployment data past (.ok task)
  /-- A step was due, and its task shows how the operation stands. -/
  | stepped {tasks : List BackendTask} {step : AnyCall} {made : Happening} {id : TaskId}
      {task : BackendTask} (steps : hasSteps data)
      (seen : .look deployment data.contextId tasks ∈ past)
      (due : nextStep? offering deployment data tasks = some step) (happened : made ∈ past)
      (created : made.created? = some (step, id))
      (fetched : .answered (.getTask id) (.ok task) ∈ past) :
      Found offering deployment data past (.ok task)
  /-- A call failed. -/
  | failed (e : BackendError) : Found offering deployment data past (.error (.backend e))
  | noTasks (steps : hasSteps data) (seen : .look deployment data.contextId [] ∈ past) :
      Found offering deployment data past (.error (.noTasks data.contextId))
  | unexpected {tasks : List BackendTask} (deploys : data.kind.isDeploy)
      (seen : .look deployment data.contextId tasks ∈ past) (many : 3 ≤ tasks.length) :
      Found offering deployment data past
        (.error (.unexpectedTasks data.contextId (tasks.map BackendTask.id)))

variable {offering : Offering} {deployment : String} {data : OperationData}

theorem Found.mono {past later : List Happening} {result : Except LifecycleError BackendTask}
    (found : Found offering deployment data past result) (included : past ⊆ later) :
    Found offering deployment data later result := by
  cases found with
  | only single fetched => exact .only single (included fetched)
  | standing steps seen last idle => exact .standing steps (included seen) last idle
  | stepped steps seen due happened created fetched =>
    exact .stepped steps (included seen) due (included happened) created (included fetched)
  | failed e => exact .failed e
  | noTasks steps seen => exact .noTasks steps (included seen)
  | unexpected deploys seen many => exact .unexpected deploys (included seen) many

open Procedure

variable {allowed : List Happening → AnyCall → Prop} {past : List Happening}

/-- The look at one task. -/
theorem meets_fetch (id : TaskId)
    {demand : List Happening → Except LifecycleError BackendTask → Prop}
    (permitted : allowed past ⟨_, .getTask id⟩)
    (answered : ∀ task, demand (past ++ [.answered (.getTask id) (.ok task)]) (.ok task))
    (fails : ∀ e, demand (past ++ [.answered (.getTask id) (.error e)]) (.error (.backend e))) :
    (fetch id).run.Meets allowed demand past :=
  (meets_ask ..).mpr ⟨permitted, answered, fails⟩

/-- Looking up the errand asks nobody. -/
theorem meets_postDeployErrand
    {demand : List Happening → Except LifecycleError (Option Errand) → Prop}
    (holds : demand past (.ok (errandAfterDeploy? offering data))) :
    (postDeployErrand? offering data).run.Meets allowed demand past := by
  unfold postDeployErrand?
  unfold errandAfterDeploy? at holds
  split
  · simpa [*] using holds
  · split
    · simpa [*] using holds
    · split
      · simpa [*] using holds
      · split <;> simpa [*] using holds

@[simp] theorem meets_submitErrand (errand : Errand) (contextId : String)
    {demand : List Happening → Except LifecycleError (CallKind.Value .submitErrand) → Prop} :
    (ask (.submitErrand deployment errand contextId) failed).run.Meets allowed demand past ↔
      allowed past ⟨_, .submitErrand deployment errand contextId⟩ ∧
      (∀ id, demand (past ++ [.answered (.submitErrand deployment errand contextId) (.ok id)])
        (.ok id)) ∧
      ∀ e, demand (past ++ [.answered (.submitErrand deployment errand contextId) (.error e)])
        (.error (.backend e)) :=
  meets_ask ..

@[simp] theorem meets_submitDelete (contextId : String) (force : Bool)
    {demand : List Happening → Except LifecycleError (CallKind.Value .submitDelete) → Prop} :
    (ask (.submitDelete deployment contextId force) failed).run.Meets allowed demand past ↔
      allowed past ⟨_, .submitDelete deployment contextId force⟩ ∧
      (∀ id, demand (past ++ [.answered (.submitDelete deployment contextId force) (.ok id)])
        (.ok id)) ∧
      ∀ e, demand (past ++ [.answered (.submitDelete deployment contextId force) (.error e)])
        (.error (.backend e)) :=
  meets_ask ..

/-- The look at the tasks of a context. -/
theorem meets_history (contextId : String)
    {demand : List Happening → Except LifecycleError (List BackendTask) → Prop}
    (permitted : allowed past ⟨_, .getTasksByContext deployment contextId⟩)
    (none : demand (past ++ [.look deployment contextId []]) (.error (.noTasks contextId)))
    (some : ∀ tasks, tasks ≠ [] →
      demand (past ++ [.look deployment contextId tasks]) (.ok tasks))
    (fails : ∀ e, demand (past ++ [.answered (.getTasksByContext deployment contextId) (.error e)])
      (.error (.backend e))) :
    (history deployment contextId).run.Meets allowed demand past := by
  simp only [history, run_bind_procedure, Program.meets_bind]
  refine (meets_ask ..).mpr ⟨permitted, fun tasks => ?_, fails⟩
  cases tasks with
  | nil => exact none
  | cons first rest => exact some _ (List.cons_ne_nil first rest)

theorem stepRule_of_quiet {c : AnyCall} (quiet : c.submits? = none) :
    StepRule offering deployment data past c := by
  simp [StepRule, quiet]

theorem stepRule_of_preliminary {c : AnyCall} (preliminary : c.isPreliminary) :
    StepRule offering deployment data past c :=
  stepRule_of_quiet (by simp_all [AnyCall.isPreliminary])

/-- An errand that is due is submitted, and its task is what the poll finds. -/
theorem meets_runErrand {tasks : List BackendTask} {errand : Errand} (steps : hasSteps data)
    (due : nextStep? offering deployment data tasks =
      some ⟨_, .submitErrand deployment errand data.contextId⟩) :
    (runErrand deployment errand data.contextId).run.Meets (StepRule offering deployment data)
      (Found offering deployment data) [.look deployment data.contextId tasks] := by
  simp only [runErrand, run_bind_procedure, Program.meets_bind, meets_submitErrand]
  refine ⟨fun _ => ⟨steps, tasks, rfl, due⟩, fun id => ?_, fun e => .failed e⟩
  refine meets_fetch id (stepRule_of_quiet rfl) (fun task => ?_) fun e => .failed e
  have created : Happening.created? (.answered (.submitErrand deployment errand data.contextId)
      (.ok id)) = some (_, id) := rfl
  exact .stepped steps (by simp) due (by simp) created (by simp)

/-- A deletion that is due is submitted, and its task is what the poll finds. -/
theorem meets_runDelete {tasks : List BackendTask} (steps : hasSteps data)
    (due : nextStep? offering deployment data tasks =
      some ⟨_, .submitDelete deployment data.contextId false⟩) :
    (do let id ← ask (.submitDelete deployment data.contextId false) failed
        fetch id : Procedure LifecycleError BackendTask).run.Meets
      (StepRule offering deployment data) (Found offering deployment data)
      [.look deployment data.contextId tasks] := by
  simp only [run_bind_procedure, Program.meets_bind, meets_submitDelete]
  refine ⟨fun _ => ⟨steps, tasks, rfl, due⟩, fun id => ?_, fun e => .failed e⟩
  refine meets_fetch id (stepRule_of_quiet rfl) (fun task => ?_) fun e => .failed e
  have created : Happening.created? (.answered (.submitDelete deployment data.contextId false)
      (.ok id)) = some (_, id) := rfl
  exact .stepped steps (by simp) due (by simp) created (by simp)

theorem meets_advanceDelete (steps : hasSteps data) (deletes : data.kind = .delete) :
    (advanceDelete deployment data).run.Meets (StepRule offering deployment data)
      (Found offering deployment data) [] := by
  have plain : data.kind.isDeploy = false := by rw [deletes]; rfl
  simp only [advanceDelete, run_bind_procedure, Program.meets_bind]
  refine meets_history _ (stepRule_of_quiet rfl) (.noTasks steps (by simp)) (fun tasks nonempty => ?_)
    fun e => .failed e
  obtain ⟨latest, last⟩ := Option.isSome_iff_exists.mp (List.getLast?_isSome.mpr nonempty)
  simp only [last, List.nil_append]
  split
  · rename_i finished
    split
    · rename_i all
      exact meets_runDelete steps (by simp [nextStep?, stepAfter?, last, finished, plain, all])
    · rename_i more
      split
      · rename_i next found
        exact meets_runErrand steps
          (by simp [nextStep?, stepAfter?, last, finished, plain, more, found])
      · rename_i found
        exact .standing steps (by simp) last
          (by simp [nextStep?, stepAfter?, last, plain, more, found])
  · rename_i unfinished
    exact .standing steps (by simp) last (by simp [nextStep?, last, unfinished])

theorem meets_advanceDeploy (steps : hasSteps data) (deploys : data.kind.isDeploy) :
    (advanceDeploy offering deployment data).run.Meets (StepRule offering deployment data)
      (Found offering deployment data) [] := by
  simp only [advanceDeploy, run_bind_procedure, Program.meets_bind]
  refine meets_history _ (stepRule_of_quiet rfl) (.noTasks steps (by simp)) (fun tasks nonempty => ?_)
    fun e => .failed e
  simp only [List.nil_append]
  split
  · rename_i deploy
    split
    · rename_i finished
      simp only [run_bind_procedure, Program.meets_bind]
      refine meets_postDeployErrand ?_
      cases found : errandAfterDeploy? offering data with
      | none =>
        exact .standing steps (List.mem_singleton_self _) rfl
          (by simp [nextStep?, stepAfter?, deploys, found])
      | some errand =>
        exact meets_runErrand steps (by simp [nextStep?, stepAfter?, finished, deploys, found])
    · rename_i unfinished
      exact .standing steps (List.mem_singleton_self _) rfl (by simp [nextStep?, unfinished])
  · rename_i deploy errand
    exact .standing steps (List.mem_singleton_self _) rfl
      (by simp [nextStep?, stepAfter?, deploys])
  · rename_i notOne notTwo
    refine .unexpected deploys (by simp) ?_
    rcases tasks with _ | ⟨one, _ | ⟨two, _ | ⟨three, rest⟩⟩⟩
    · exact absurd rfl nonempty
    · exact absurd rfl (notOne one)
    · exact absurd rfl (notTwo one two)
    · simp

/-- A poll takes the step that the tasks of its operation call for, and no other. -/
theorem meets_currentTask : (currentTask offering deployment data).run.Meets
    (StepRule offering deployment data) (Found offering deployment data) [] := by
  have alone (single : hasSteps data = false) : (fetch data.taskId).run.Meets
      (StepRule offering deployment data) (Found offering deployment data) [] := by
    exact meets_fetch _ (stepRule_of_quiet rfl) (fun task => .only single (by simp)) fun e => .failed e
  unfold currentTask
  split
  · exact alone (by simp_all [hasSteps])
  · rename_i context
    split
    · rename_i deploys
      exact meets_advanceDeploy (by simp_all [hasSteps]) deploys
    · rename_i plain
      split
      · rename_i deletes
        exact meets_advanceDelete (by simp_all [hasSteps]) deletes
      · rename_i other
        exact alone (by simp [hasSteps, plain, other])

end Lifecycle

/-- The task that an answer shows. -/
def Happening.shown? : Happening → Option BackendTask
  | .answered (.getTask _) (.ok task) => some task
  | .answered (.getTasksByContext _ _) (.ok tasks) => List.getLast? tasks
  | _ => none

/-- The task that was shown last. -/
def lastShown? (past : List Happening) : Option BackendTask :=
  (past.filterMap Happening.shown?).getLast?

theorem lastShown?_concat {past : List Happening} {h : Happening} {task : BackendTask}
    (shown : h.shown? = some task) : lastShown? (past ++ [h]) = some task := by
  rw [lastShown?, List.filterMap_append, List.filterMap_cons_some shown]
  simp

theorem lastShown?_concat_of_none {past : List Happening} {h : Happening} (shown : h.shown? = none) :
    lastShown? (past ++ [h]) = lastShown? past := by
  rw [lastShown?, List.filterMap_append, List.filterMap_cons_none shown]
  simp [lastShown?]

/-- The state that a poll reports for an outcome. -/
def TaskOutcome.reported : TaskOutcome → LastOperationState
  | incomplete => .inProgress
  | succeeded => .succeeded
  | failed => .failed

namespace Broker

open Procedure Steps Lifecycle

/-- What a poll answers to what it found. -/
def Reports : Except LifecycleError BackendTask → Except BrokerError LastOperation → Prop
  | .error e, result => ∃ about, result = .error (Refusal.ofLifecycle about e).error
  | .ok task, result => ∃ text, result = .ok ⟨task.state.outcome.reported, text⟩

/-- What a poll answers about a task with the outcome, under its correlation data. -/
def reportOf (about : Correlation) (kind : OperationKind) : TaskOutcome → LastOperation
  | .incomplete => ⟨.inProgress, kind.subject ++ " in progress"⟩
  | .succeeded => ⟨.succeeded, kind.subject ++ " completed"⟩
  | .failed => ⟨.failed, kind.subject ++ " failed: " ++ about.message⟩

theorem reportOf_state (about : Correlation) (kind : OperationKind) (outcome : TaskOutcome) :
    (reportOf about kind outcome).state = outcome.reported := by
  cases outcome <;> rfl

theorem reports_reportOf (about : Correlation) (kind : OperationKind) (task : BackendTask) :
    Reports (.ok task) (.ok (reportOf about kind task.state.outcome)) := by
  refine ⟨(reportOf about kind task.state.outcome).description, ?_⟩
  rw [← reportOf_state about kind]

/-- Between two points no task was shown. -/
def Unseen (past later : List Happening) : Prop :=
  past <+: later ∧ lastShown? later = lastShown? past

theorem Unseen.snoc {past later : List Happening} (unseen : Unseen past later) {h : Happening}
    (shown : h.shown? = none) : Unseen past (later ++ [h]) :=
  ⟨unseen.1.trans (List.prefix_append ..), (lastShown?_concat_of_none shown).trans unseen.2⟩

/-- Cleaning up shows no task. -/
theorem unseen_cleanUp (about : Correlation) (deployment : String) (past : List Happening) :
    (cleanUp about deployment).run.Meets (fun _ c => c.isPreliminary)
      (fun later _ => Unseen past later) past := by
  have begins : Unseen past past := ⟨List.prefix_rfl, rfl⟩
  unfold cleanUp
  refine meets_ask_bind _ _ _ rfl (fun _ => ?_) fun _ => begins.snoc rfl
  refine meets_ask_bind _ _ _ rfl (fun _ => ?_) fun _ => (begins.snoc rfl).snoc rfl
  exact (begins.snoc rfl).snoc rfl

theorem unseen_cleanUpAfterDelete (about : Correlation) (deployment : String)
    (past : List Happening) :
    (cleanUpAfterDelete about deployment).run.Meets (fun _ c => c.isPreliminary)
      (fun later result => Unseen past later ∧ result = .ok ()) past := by
  simp only [cleanUpAfterDelete, run_bind_procedure, Program.meets_bind, meets_lift]
  refine (unseen_cleanUp about deployment past).mono (fun _ _ _ quiet => quiet) ?_
  rintro later (e | done) _ unseen
  · exact ⟨unseen, rfl⟩
  · exact ⟨unseen, rfl⟩

/-- What a poll tells about the task that it has found. -/
theorem meets_reportTask (about : Correlation) (deployment : String) (kind : OperationKind)
    (task : BackendTask) (past : List Happening) :
    (reportTask about deployment kind task).run.Meets (fun _ c => c.isPreliminary) (fun later result =>
      Unseen past later ∧ result = .ok (reportOf about kind task.state.outcome)) past := by
  have begins : Unseen past past := ⟨List.prefix_rfl, rfl⟩
  unfold reportTask
  cases stands : task.state.outcome with
  | incomplete => exact ⟨begins, rfl⟩
  | failed => exact ⟨begins, rfl⟩
  | succeeded =>
    dsimp only
    split
    · simp only [run_bind_procedure, Program.meets_bind]
      refine (unseen_cleanUpAfterDelete about deployment past).mono (fun _ _ _ quiet => quiet) ?_
      rintro later _ _ ⟨unseen, rfl⟩
      exact ⟨unseen, rfl⟩
    · exact ⟨begins, rfl⟩

section

variable {allowed : List Happening → AnyCall → Prop}
  {holds : List Happening → Except LifecycleError BackendTask → Prop}

/-- A poll reports what its lifecycle step came out at. Whatever that step is bound to, the poll is
bound to it as well, if it is nothing that cleaning up could change. -/
theorem meets_report (config : BrokerConfig) (about : Correlation) (data : OperationData)
    (meets : (currentTask config.offering (config.deploymentName about.instanceId) data).run.Meets
      allowed holds [])
    (mono : ∀ past later result, past <+: later → holds past result → holds later result)
    (permitted : ∀ later c, c.isPreliminary → allowed later c) :
    (pollOperation config about data).run.Meets allowed
      (fun past result => ∃ found, holds past found ∧ Reports found result) [] := by
  simp only [pollOperation, run_bind_procedure, Program.meets_bind, meets_lift]
  refine meets.mono (fun _ _ _ permitted => permitted) ?_
  rintro past (e | task) _ came
  · exact ⟨_, came, _, rfl⟩
  · refine (meets_reportTask _ _ _ task past).mono (fun later c _ quiet => permitted later c quiet) ?_
    rintro later _ _ ⟨⟨before, _⟩, rfl⟩
    exact ⟨_, mono _ _ _ before came, reports_reportOf _ _ task⟩

/-- If the token cannot be read, the poll asks nobody. -/
theorem meets_lastOperation_of (config : BrokerConfig) (requestId instanceId token : String)
    (data : OperationData) (known : ∀ d, OperationData.decode token = .ok d → d = data)
    (meets : (currentTask config.offering (config.deploymentName instanceId) data).run.Meets
      allowed holds [])
    (mono : ∀ past later result, past <+: later → holds past result → holds later result)
    (permitted : ∀ later c, c.isPreliminary → allowed later c) :
    (lastOperation config requestId instanceId token).run.Meets allowed
      (fun past result =>
        (∃ about e, result = .error (Refusal.ofToken about e).error) ∨
          ∃ found, holds past found ∧ Reports found result) [] := by
  unfold lastOperation
  split
  · exact .inl ⟨_, _, rfl⟩
  · rename_i d read
    obtain rfl := known d read
    rw [meets_within_procedure]
    have reported := meets_report config
      { config.correlation instanceId requestId d.kind with taskId := some d.taskId } d meets mono
      permitted
    exact reported.mono (fun _ _ _ permitted => permitted) fun _ _ _ came => .inr came

end

/-- A poll takes the step that is due, and reports what it found. -/
theorem meets_pollOperation (config : BrokerConfig) (about : Correlation) (data : OperationData) :
    (pollOperation config about data).run.Meets
      (StepRule config.offering (config.deploymentName about.instanceId) data)
      (fun past result => ∃ found,
        Found config.offering (config.deploymentName about.instanceId) data past found ∧
          Reports found result) [] :=
  meets_report config about data meets_currentTask (fun _ _ _ before found => found.mono before.subset)
    fun _ _ quiet => stepRule_of_preliminary quiet

/-- A poll answers with what it finds out about the operation of its token; if the token cannot be
read, it asks nobody. -/
theorem meets_lastOperation (config : BrokerConfig) (requestId instanceId token : String)
    (data : OperationData) (known : ∀ d, OperationData.decode token = .ok d → d = data) :
    (lastOperation config requestId instanceId token).run.Meets
      (StepRule config.offering (config.deploymentName instanceId) data)
      (fun past result =>
        (∃ about e, result = .error (Refusal.ofToken about e).error) ∨ ∃ found,
          Found config.offering (config.deploymentName instanceId) data past found ∧
            Reports found result) [] :=
  meets_lastOperation_of config requestId instanceId token data known meets_currentTask
    (fun _ _ _ before found => found.mono before.subset) fun _ _ quiet => stepRule_of_preliminary quiet

end Broker

end ServiceBroker
