import ServiceBroker.Broker.Program

/-! The steps of an operation. Nobody stores how far an operation has come: the number of backend
tasks under its context says it, and the state of the last one says whether the next step is due. A
deploy is one task and its errand a second one; a deletion runs its errands one by one and then
deletes. Looking submits at most one task, and none while the last one is not done. -/
namespace ServiceBroker.Lifecycle

open Procedure

def failed {α : Type} (e : BackendError) : Procedure LifecycleError α := throw (.backend e)

def fetch (id : TaskId) : Procedure LifecycleError BackendTask := ask (.getTask id) failed

/-- The tasks of an operation, the oldest first. An operation has at least one. -/
def history (deployment contextId : String) : Procedure LifecycleError (List BackendTask) := do
  let tasks ← ask (.getTasksByContext deployment contextId) failed
  if tasks.isEmpty then throw (.noTasks contextId) else return tasks

/-- Submits an errand and fetches its task. -/
def runErrand (deployment : String) (errand : Errand) (contextId : String) :
    Procedure LifecycleError BackendTask := do
  let id ← ask (.submitErrand deployment errand contextId) failed
  fetch id

/-- The errand to run after the deploy: the one in the operation data, or else the one of its plan.
-/
def postDeployErrand? (offering : Offering) (data : OperationData) :
    Procedure LifecycleError (Option Errand) :=
  match data.postDeployErrand.filter fun e => !e.isEmpty with
  | some errand => return some errand
  | none => match data.planId with
    | none => do
      info "no post-deploy errand in operation data, returning deploy task"
        [("context_id", .plain data.contextId)]
      return none
    | some planId => match offering.findPlan? planId with
      | none => do
        warn "plan not found while resolving post-deploy errand" [("plan_id", .plain planId)]
        return none
      | some plan => match plan.postDeployErrand? with
        | some errand => return some errand
        | none => do
          info "plan has no post-deploy errand, returning deploy task" [("plan_id", .plain planId)]
          return none

/-- Takes a deploy further: its errand follows once the deploy is done. -/
def advanceDeploy (offering : Offering) (deployment : String) (data : OperationData) :
    Procedure LifecycleError BackendTask := do
  match ← history deployment data.contextId with
  | [deploy] =>
    if deploy.isDone then
      match ← postDeployErrand? offering data with
      | some errand => do
        info "submitting post-deploy errand"
          [("deployment", .plain deployment), ("context_id", .plain data.contextId),
            ("errand", .plain errand.name)]
        runErrand deployment errand data.contextId
      | none => return deploy
    else return deploy
  | [_, errand] => return errand
  | tasks => throw (.unexpectedTasks data.contextId (tasks.map BackendTask.id))

/-- Takes a deletion further: one errand follows the other, and the deletion proper follows the last
errand. -/
def advanceDelete (deployment : String) (data : OperationData) :
    Procedure LifecycleError BackendTask := do
  let tasks ← history deployment data.contextId
  match tasks.getLast? with
  | none => throw (.noTasks data.contextId)
  | some latest =>
    if latest.isDone then
      let errands := data.effectiveErrands
      if tasks.length = errands.length then
        info "pre-delete errands finished, submitting deployment delete"
          [("deployment", .plain deployment), ("context_id", .plain data.contextId),
            ("errands", .number errands.length)]
        let id ← ask (.submitDelete deployment data.contextId false) failed
        fetch id
      else match errands[tasks.length]? with
        | some next => do
          info "submitting next pre-delete errand"
            [("deployment", .plain deployment), ("context_id", .plain data.contextId),
              ("errand", .plain next.name), ("position", .number (tasks.length + 1))]
          runErrand deployment next data.contextId
        | none => return latest
    else return latest

/-- The task that shows how an operation stands, after the next step was taken if it was due. -/
def currentTask (offering : Offering) (deployment : String) (data : OperationData) :
    Procedure LifecycleError BackendTask :=
  if !data.hasContext then fetch data.taskId
  else if data.kind.isDeploy then advanceDeploy offering deployment data
  else if data.kind = .delete then advanceDelete deployment data
  else fetch data.taskId

end ServiceBroker.Lifecycle
