import ServiceBroker.Proofs.Deadlines.Lapse
import ServiceBroker.Proofs.Lifecycle.Acceptance

/-! Polls of any history. A poll may find any number of tasks in any states, whether or not the
broker would ever have led there. What is due is said of the tasks alone; where no call fails, a poll
looks once, submits what is due and nothing else, and answers with the task that is then the last. -/
namespace ServiceBroker

theorem BackendTask.isDone_iff {task : BackendTask} : task.isDone ↔ task.state = .done := by
  unfold BackendTask.isDone
  cases task.state <;> simp [TaskState.isDone]

namespace Lifecycle

open Procedure

variable {offering : Offering} {deployment : String} {data : OperationData}
  {tasks : List BackendTask}

/-- The errand that follows a deploy: the one that the operation data name, or else the one of their
plan. An errand without a name is none. -/
inductive FollowsDeploy (offering : Offering) (data : OperationData) : Errand → Prop where
  | ofData {errand : Errand} (held : data.postDeployErrand = some errand)
      (named : errand.name ≠ "") : FollowsDeploy offering data errand
  | ofPlan {planId : String} {plan : Plan} {errand : Errand}
      (unnamed : ∀ own, data.postDeployErrand = some own → own.name = "")
      (planned : data.planId = some planId) (found : offering.findPlan? planId = some plan)
      (held : plan.errands.postDeploy = some errand) (named : errand.name ≠ "") :
      FollowsDeploy offering data errand

/-- The submission that the tasks of an operation call for. -/
inductive Due (offering : Offering) (deployment : String) (data : OperationData)
    (tasks : List BackendTask) : AnyCall → Prop where
  /-- The deploy is all there is, and it is done. -/
  | errandAfterDeploy {deploy : BackendTask} {errand : Errand} (deploys : data.kind.isDeploy)
      (only : tasks = [deploy]) (done : deploy.state = .done)
      (follows : FollowsDeploy offering data errand) :
      Due offering deployment data tasks ⟨_, .submitErrand deployment errand data.contextId⟩
  /-- The last task of a deletion is done, and there are fewer tasks than errands. -/
  | nextErrand {latest : BackendTask} {errand : Errand} (deletes : data.kind = .delete)
      (last : tasks.getLast? = some latest) (done : latest.state = .done)
      (next : data.effectiveErrands[tasks.length]? = some errand) :
      Due offering deployment data tasks ⟨_, .submitErrand deployment errand data.contextId⟩
  /-- The last errand before a deletion is done. -/
  | deletion {latest : BackendTask} (deletes : data.kind = .delete)
      (last : tasks.getLast? = some latest) (done : latest.state = .done)
      (all : tasks.length = data.effectiveErrands.length) :
      Due offering deployment data tasks ⟨_, .submitDelete deployment data.contextId false⟩

/-- What a poll goes through and how it ends, if no call fails. -/
inductive Course (offering : Offering) (deployment : String) (data : OperationData) :
    List Happening → Except LifecycleError BackendTask → Prop where
  /-- A step is due: it is submitted, and its task is the answer. -/
  | stepped {tasks : List BackendTask} {step : AnyCall} {made : Happening} {id : TaskId}
      {task : BackendTask} (due : Due offering deployment data tasks step)
      (created : made.created? = some (step, id)) :
      Course offering deployment data
        [.look deployment data.contextId tasks, made, .answered (.getTask id) (.ok task)] (.ok task)
  /-- No step is due: the last task is the answer. -/
  | standing {tasks : List BackendTask} {task : BackendTask}
      (idle : ∀ step, ¬ Due offering deployment data tasks step)
      (last : tasks.getLast? = some task) (few : data.kind.isDeploy → tasks.length ≤ 2) :
      Course offering deployment data [.look deployment data.contextId tasks] (.ok task)
  | noTasks : Course offering deployment data [.look deployment data.contextId []]
      (.error (.noTasks data.contextId))
  /-- A deploy is one task, and its errand a second one. -/
  | unexpected {tasks : List BackendTask} (deploys : data.kind.isDeploy)
      (many : 3 ≤ tasks.length) :
      Course offering deployment data [.look deployment data.contextId tasks]
        (.error (.unexpectedTasks data.contextId (tasks.map BackendTask.id)))
  /-- An operation without steps is its one task, whatever the context holds. -/
  | only {task : BackendTask} (single : hasSteps data = false) :
      Course offering deployment data [.answered (.getTask data.taskId) (.ok task)] (.ok task)

/-! ### What is due -/

theorem errandAfterDeploy?_eq_some_iff {errand : Errand} :
    errandAfterDeploy? offering data = some errand ↔ FollowsDeploy offering data errand := by
  have named (e : Errand) : (!e.isEmpty) = true ↔ e.name ≠ "" := by
    simp [Errand.isEmpty]
  constructor
  · intro found
    rcases Option.or_eq_some_iff.mp found with own | ⟨none, planned⟩
    · obtain ⟨held, isNamed⟩ := Option.filter_eq_some_iff.mp own
      exact .ofData held ((named _).mp isNamed)
    · obtain ⟨planId, isPlan, inCatalog⟩ := Option.bind_eq_some_iff.mp planned
      obtain ⟨plan, found, has⟩ := Option.bind_eq_some_iff.mp inCatalog
      obtain ⟨held, isNamed⟩ := Option.filter_eq_some_iff.mp has
      refine .ofPlan (fun own isOwn => ?_) isPlan found held ((named _).mp isNamed)
      by_contra hasName
      rw [isOwn, Option.filter_some, if_pos ((named own).mpr hasName)] at none
      cases none
  · intro follows
    cases follows with
    | ofData held isNamed =>
      exact Option.or_eq_some_iff.mpr
        (.inl (Option.filter_eq_some_iff.mpr ⟨held, (named _).mpr isNamed⟩))
    | ofPlan unnamed planned found held isNamed =>
      have none : (data.postDeployErrand.filter fun e => !e.isEmpty) = none :=
        Option.filter_eq_none_iff.mpr fun own isOwn hasName =>
          (named own).mp hasName (unnamed own isOwn)
      rw [errandAfterDeploy?, none, Option.none_or, planned, Option.bind_some, found,
        Option.bind_some]
      exact Option.filter_eq_some_iff.mpr ⟨held, (named _).mpr isNamed⟩

theorem hasSteps_iff : hasSteps data ↔ data.hasContext ∧ (data.kind.isDeploy ∨ data.kind = .delete) := by
  simp [hasSteps]

/-- What the tasks call for is what is due. -/
theorem nextStep?_eq_some_iff_due (steps : hasSteps data) {step : AnyCall} :
    nextStep? offering deployment data tasks = some step ↔
      Due offering deployment data tasks step := by
  rw [nextStep?_eq_some]
  constructor
  · rintro ⟨⟨latest, last, finished⟩, after⟩
    have done := BackendTask.isDone_iff.mp finished
    unfold stepAfter? at after
    split at after
    · rename_i deploys
      obtain ⟨one, after⟩ := Option.ite_none_right_eq_some.mp after
      obtain ⟨errand, found, rfl⟩ := Option.map_eq_some_iff.mp after
      obtain ⟨deploy, rfl⟩ := List.length_eq_one_iff.mp one
      cases last
      exact .errandAfterDeploy deploys rfl done (errandAfterDeploy?_eq_some_iff.mp found)
    · rename_i plain
      have deletes : data.kind = .delete := (hasSteps_iff.mp steps).2.resolve_left plain
      split at after
      · rename_i all
        cases after
        exact .deletion deletes last done all
      · obtain ⟨errand, found, rfl⟩ := Option.map_eq_some_iff.mp after
        exact .nextErrand deletes last done found
  · intro due
    cases due with
    | errandAfterDeploy deploys only done follows =>
      subst only
      refine ⟨⟨_, rfl, BackendTask.isDone_iff.mpr done⟩, ?_⟩
      simp [stepAfter?, deploys, errandAfterDeploy?_eq_some_iff.mpr follows]
    | nextErrand deletes last done next =>
      have fewer : tasks.length ≠ data.effectiveErrands.length :=
        Nat.ne_of_lt (List.getElem?_eq_some_iff.mp next).1
      refine ⟨⟨_, last, BackendTask.isDone_iff.mpr done⟩, ?_⟩
      simp [stepAfter?, deletes, OperationKind.isDeploy, fewer, next]
    | deletion deletes last done all =>
      refine ⟨⟨_, last, BackendTask.isDone_iff.mpr done⟩, ?_⟩
      simp [stepAfter?, deletes, OperationKind.isDeploy, all]

theorem not_due_of_nextStep? (steps : hasSteps data)
    (none : nextStep? offering deployment data tasks = none) (step : AnyCall) :
    ¬ Due offering deployment data tasks step := by
  rw [← nextStep?_eq_some_iff_due steps, none]
  exact nofun

theorem Due.submits? {step : AnyCall} (due : Due offering deployment data tasks step) :
    step.submits? = some (deployment, data.contextId) := by
  cases due <;> rfl

/-! ### The course of a poll -/

/-- Where all calls succeeded, a poll goes through what it should. -/
def Runs (offering : Offering) (deployment : String) (data : OperationData)
    (past : List Happening) (result : Except LifecycleError BackendTask) : Prop :=
  (∀ x ∈ past, x.Succeeded) → Course offering deployment data past result

theorem runs_of_failure (past : List Happening) {k : CallKind} {c : Call k} {e : k.Failure}
    {result : Except LifecycleError BackendTask} :
    Runs offering deployment data (past ++ [.answered c (.error e)]) result := by
  intro sound
  obtain ⟨_, impossible⟩ := sound _ (List.mem_append_right _ (List.mem_singleton_self _))
  cases impossible

/-- A submission that was due is followed by a look at its task. -/
theorem runs_fetch {step : AnyCall} {made : Happening} {id : TaskId}
    (due : Due offering deployment data tasks step) (created : made.created? = some (step, id)) :
    (fetch id).run.Meets (fun _ _ => True) (Runs offering deployment data)
      [.look deployment data.contextId tasks, made] :=
  meets_fetch id trivial (fun _ _ => .stepped due created) fun _ => runs_of_failure _

theorem runs_runErrand {errand : Errand} (due : Due offering deployment data tasks
      ⟨_, .submitErrand deployment errand data.contextId⟩) :
    (runErrand deployment errand data.contextId).run.Meets (fun _ _ => True)
      (Runs offering deployment data) [.look deployment data.contextId tasks] := by
  simp only [runErrand, run_bind_procedure, Program.meets_bind, meets_submitErrand]
  exact ⟨trivial, fun id => runs_fetch due rfl, fun _ => runs_of_failure _⟩

theorem runs_advanceDeploy (steps : hasSteps data) (deploys : data.kind.isDeploy) :
    (advanceDeploy offering deployment data).run.Meets (fun _ _ => True)
      (Runs offering deployment data) [] := by
  simp only [advanceDeploy, run_bind_procedure, Program.meets_bind]
  refine meets_history _ trivial (fun _ => .noTasks) (fun tasks nonempty => ?_)
    fun _ => runs_of_failure _
  simp only [List.nil_append]
  split
  · rename_i deploy
    have idle (rests : nextStep? offering deployment data [deploy] = none) :
        Runs offering deployment data [.look deployment data.contextId [deploy]] (.ok deploy) :=
      fun _ => .standing (not_due_of_nextStep? steps rests) rfl fun _ => by simp
    split
    · rename_i finished
      simp only [run_bind_procedure, Program.meets_bind]
      refine meets_postDeployErrand ?_
      cases found : errandAfterDeploy? offering data with
      | none => exact idle (by simp [nextStep?, stepAfter?, deploys, found])
      | some errand =>
        exact runs_runErrand (.errandAfterDeploy deploys rfl (BackendTask.isDone_iff.mp finished)
          (errandAfterDeploy?_eq_some_iff.mp found))
    · rename_i unfinished
      exact idle (by simp [nextStep?, unfinished])
  · rename_i deploy errand
    refine fun _ => .standing (not_due_of_nextStep? steps ?_) rfl fun _ => by simp
    simp [nextStep?, stepAfter?, deploys]
  · rename_i notOne notTwo
    refine fun _ => .unexpected deploys ?_
    rcases tasks with _ | ⟨one, _ | ⟨two, _ | ⟨three, rest⟩⟩⟩
    · exact absurd rfl nonempty
    · exact absurd rfl (notOne one)
    · exact absurd rfl (notTwo one two)
    · simp

theorem runs_advanceDelete (steps : hasSteps data) (deletes : data.kind = .delete) :
    (advanceDelete deployment data).run.Meets (fun _ _ => True)
      (Runs offering deployment data) [] := by
  simp only [advanceDelete, run_bind_procedure, Program.meets_bind]
  refine meets_history _ trivial (fun _ => .noTasks) (fun tasks nonempty => ?_)
    fun _ => runs_of_failure _
  obtain ⟨latest, last⟩ := Option.isSome_iff_exists.mp (List.getLast?_isSome.mpr nonempty)
  have idle (rests : nextStep? offering deployment data tasks = none) :
      Runs offering deployment data [.look deployment data.contextId tasks] (.ok latest) :=
    fun _ => .standing (not_due_of_nextStep? steps rests) last fun deploys => by
      rw [deletes] at deploys
      cases deploys
  simp only [last, List.nil_append]
  split
  · rename_i finished
    have done := BackendTask.isDone_iff.mp finished
    split
    · rename_i all
      simp only [run_bind_procedure, Program.meets_bind, meets_info, meets_submitDelete]
      exact ⟨trivial, fun id => runs_fetch (.deletion deletes last done all) rfl,
        fun _ => runs_of_failure _⟩
    · rename_i more
      split
      · rename_i next found
        exact runs_runErrand (.nextErrand deletes last done found)
      · rename_i none
        exact idle (by simp [nextStep?, stepAfter?, deletes, OperationKind.isDeploy, more, none])
  · rename_i unfinished
    exact idle (by simp [nextStep?, last, unfinished])

theorem runs_currentTask : (currentTask offering deployment data).run.Meets (fun _ _ => True)
    (Runs offering deployment data) [] := by
  have alone (single : hasSteps data = false) : (fetch data.taskId).run.Meets (fun _ _ => True)
      (Runs offering deployment data) [] :=
    meets_fetch _ trivial (fun _ _ => .only single) fun _ => runs_of_failure _
  unfold currentTask
  split
  · exact alone (by simp_all [hasSteps])
  · split
    · rename_i deploys
      exact runs_advanceDeploy (by simp_all [hasSteps]) deploys
    · split
      · rename_i deletes
        exact runs_advanceDelete (by simp_all [hasSteps]) deletes
      · exact alone (by simp_all [hasSteps])

/-- The deployment and the context of each submission that was asked for, whatever the answer. -/
def submissions (past : List Happening) : List (String × String) :=
  (past.filterMap Happening.call?).filterMap AnyCall.submits?

theorem submissions_cons (h : Happening) (rest : List Happening) :
    submissions (h :: rest) = (h.call?.bind AnyCall.submits?).toList ++ submissions rest := by
  unfold submissions
  cases called : h.call? with
  | none => rw [List.filterMap_cons_none called]; rfl
  | some c =>
    rw [List.filterMap_cons_some called, Option.bind_some]
    cases target : c.submits? with
    | none => rw [List.filterMap_cons_none target]; rfl
    | some _ => rw [List.filterMap_cons_some target]; rfl

/-- Whatever its course, a poll submits once at most, and what it submits is for the operation. -/
theorem Course.submissions {past : List Happening} {result : Except LifecycleError BackendTask}
    (course : Course offering deployment data past result) :
    submissions past = [] ∨ submissions past = [(deployment, data.contextId)] := by
  cases course with
  | stepped due created =>
    right
    rw [submissions_cons, submissions_cons, submissions_cons, (call?_of_created? created).1,
      Option.bind_some, due.submits?]
    rfl
  | _ => exact .inl rfl

/-- A poll of any history takes the step that is due, and no other. It looks at the tasks once,
submits at most one task, under the context of the operation, and answers with that task, or with the
last one if no step is due. -/
theorem poll_takes_step_due {σ : Type} (h : Program.Handler σ) (s : σ) (offering : Offering)
    (deployment : String) (data : OperationData)
    (sound : ∀ x ∈ (currentTask offering deployment data).run.transcript h s, x.Succeeded) :
    Course offering deployment data ((currentTask offering deployment data).run.transcript h s)
        ((currentTask offering deployment data).run.run h s).1 ∧
      (submissions ((currentTask offering deployment data).run.transcript h s) = [] ∨
        submissions ((currentTask offering deployment data).run.transcript h s) =
          [(deployment, data.contextId)]) := by
  have course := runs_currentTask.transcript h s sound
  exact ⟨course, course.submissions⟩

/-- A deletion with three errands before it. -/
def errandsData : OperationData :=
  { kind := .delete, taskId := 1, contextId := "c"
    preDeleteErrands := [{ name := "drain" }, { name := "backup" }, { name := "seal" }] }

/-- The first errand has failed, and still the second one was run. The broker would not do that. -/
def oddTasks : List BackendTask :=
  [{ id := 1, state := .error, contextId := "c" }, { id := 7, state := .done, contextId := "c" }]

def sealTask : BackendTask :=
  { id := 100, state := .queued, description := "run errand seal", contextId := "c" }

/-- The third errand is due, and runs. -/
def oddCourse : List Happening :=
  [.look "d" "c" oddTasks,
    .answered (.submitErrand "d" { name := "seal" } "c") (.ok (100 : TaskId)),
    .answered (.getTask 100) (.ok sealTask)]

theorem poll_takes_step_due_odd : (∀ x ∈ oddCourse, x.Succeeded) ∧
    Course { id := "s", name := "n" } "d" errandsData oddCourse (.ok sealTask) := by
  have sound : ∀ x ∈ oddCourse, x.Succeeded := by
    intro x member
    simp only [oddCourse, List.mem_cons, List.not_mem_nil, or_false] at member
    rcases member with rfl | rfl | rfl <;> exact ⟨_, rfl⟩
  let world : Memory.World :=
    { backend := oddTasks.foldl (fun b task => b.addTask "d" task) {}, ids := fun _ => "c" }
  exact ⟨sound, (poll_takes_step_due (Memory.World.handler none) world { id := "s", name := "n" } "d"
    errandsData sound).1⟩

end Lifecycle

end ServiceBroker
