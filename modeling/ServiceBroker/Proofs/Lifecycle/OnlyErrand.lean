import ServiceBroker.Proofs.Lifecycle.Histories

/-! Deletions with a single errand before them, written in two ways: in the list of errands, or on
its own as in tokens of old. Polls of the two cannot be told apart, unless the errand has no name.
On its own such an errand is left out, and the deletion that should follow it never comes. -/
namespace ServiceBroker

namespace OperationData

/-- The same data with the errand of an old token in the list. -/
def listed (d : OperationData) : OperationData :=
  { d with legacyErrand := none, preDeleteErrands := d.legacyErrand.toList }

/-- Two deletions of one operation, which may differ in their errands. -/
structure SameDeletion (d d' : OperationData) : Prop where
  deletes : d.kind = .delete
  kind : d'.kind = d.kind
  taskId : d'.taskId = d.taskId
  contextId : d'.contextId = d.contextId

variable {d d' : OperationData} {e : Errand}

theorem SameDeletion.hasContext (same : SameDeletion d d') : d'.hasContext = d.hasContext := by
  simp only [OperationData.hasContext, same.contextId]

theorem sameDeletion_listed (deletes : d.kind = .delete) : SameDeletion d d.listed :=
  ⟨deletes, rfl, rfl, rfl⟩

theorem effectiveErrands_listed (only : d.legacyErrand = some e) :
    d.listed.effectiveErrands = [e] := by
  simp [listed, effectiveErrands, only]

theorem effectiveErrands_named (only : d.legacyErrand = some e)
    (unlisted : d.preDeleteErrands = []) (named : e.name ≠ "") : d.effectiveErrands = [e] := by
  simp [effectiveErrands, only, unlisted, Errand.isEmpty, named]

theorem effectiveErrands_nameless (only : d.legacyErrand = some e)
    (unlisted : d.preDeleteErrands = []) (nameless : e.name = "") : d.effectiveErrands = [] := by
  simp [effectiveErrands, only, unlisted, Errand.isEmpty, nameless]

/-- A token is read as its operation data, or turned down for what the errands have no part in. -/
theorem decode_listed {old new : String} (isOld : decode old = decode d.encode)
    (isNew : decode new = decode d.listed.encode) :
    (decode old = .ok d ∧ decode new = .ok d.listed) ∨
      ∃ e, decode old = .error e ∧ decode new = .error e := by
  have sameTask : d.listed.taskId = d.taskId := rfl
  have sameKind : d.listed.kind = d.kind := rfl
  rw [isOld, isNew, decode_encode, decode_encode, sameTask, sameKind]
  split
  · split
    · exact .inr ⟨_, rfl, rfl⟩
    · exact .inl ⟨rfl, rfl⟩
  · exact .inr ⟨_, rfl, rfl⟩

end OperationData

namespace Program

variable {σ α β : Type} {h : Handler σ} {s : σ} {p q : Program α} {k : CallKind} {c : Call k}
  {good : k.Answer → Prop}

/-- Two programs ask for the same thing first, and are the same from there on if the answer is good.
-/
def AlikeAfter (c : Call k) (good : k.Answer → Prop) (p q : Program α) : Prop :=
  ∃ span next next', p = call c span next ∧ q = call c span next' ∧
    ∀ answer, good answer → next answer = next' answer

/-- Run in one world, two programs are answered alike and end alike. -/
def SameRun (h : Handler σ) (s : σ) (p q : Program α) : Prop :=
  p.run h s = q.run h s ∧ p.transcript h s = q.transcript h s

theorem AlikeAfter.bind (alike : AlikeAfter c good p q) (f : α → Program β) :
    AlikeAfter c good (p.bind f) (q.bind f) := by
  obtain ⟨span, next, next', rfl, rfl, same⟩ := alike
  exact ⟨span, _, _, rfl, rfl, fun answer isGood => congrArg (bind · f) (same answer isGood)⟩

theorem AlikeAfter.within (alike : AlikeAfter c good p q) (outer : Log.Span) :
    AlikeAfter c good (p.within outer) (q.within outer) := by
  obtain ⟨span, next, next', rfl, rfl, same⟩ := alike
  exact ⟨_, _, _, rfl, rfl, fun answer isGood =>
    congrArg (Program.within outer) (same answer isGood)⟩

theorem AlikeAfter.sameRun (alike : AlikeAfter c good p q)
    (answered : ∀ answer, (q.transcript h s).head? = some (.answered c answer) → good answer) :
    SameRun h s p q := by
  obtain ⟨span, next, next', rfl, rfl, same⟩ := alike
  have onward := same _ (answered _ rfl)
  simp only [SameRun, run, transcript, onward, and_self]

/-- A rule about calls holds of all calls of a run. -/
theorem Meets.calls {allowed : AnyCall → Prop} {demand : List Happening → α → Prop}
    {past : List Happening} (meets : p.Meets (fun _ c => allowed c) demand past) (h : Handler σ)
    (s : σ) : ∀ c ∈ (p.transcript h s).filterMap Happening.call?, allowed c := by
  induction p generalizing past s with
  | done a => exact nofun
  | call c span next ih =>
    intro d member
    rcases List.mem_cons.mp member with rfl | later
    · exact meets.1
    · exact ih _ (meets.2 _) _ d later
  | log event next ih => exact ih meets _
  | lock kind id next ih => exact ih _ (meets _) _
  | unlock kind id next ih => exact ih meets _
  | fresh next ih => exact ih _ (meets _) _

end Program

namespace Lifecycle

open Procedure

variable {offering : Offering} {deployment : String} {data : OperationData} {e : Errand}

/-- The look at the tasks of a context comes first, and shows exactly one task, which is done. -/
def FindsOneDone (deployment contextId : String) (past : List Happening) : Prop :=
  ∃ task, task.isDone ∧ past.head? = some (.look deployment contextId [task])

/-- Deletions with the same errands are taken further in the same way. -/
theorem currentTask_congr {data' : OperationData} (same : data.SameDeletion data')
    (errands : data.hasContext → data'.effectiveErrands = data.effectiveErrands) :
    currentTask offering deployment data' = currentTask offering deployment data := by
  have plain : data.kind.isDeploy = false := by rw [same.deletes]; rfl
  unfold currentTask
  rw [same.hasContext, same.kind, same.taskId, plain]
  split
  · rfl
  · rename_i present
    have sameErrands := errands (by simpa using present)
    simp only [advanceDelete, same.contextId, sameErrands, Bool.false_eq_true, if_false]

/-- What follows a look at the tasks is the same if it makes the same of the tasks shown. -/
theorem alikeAfter_history {α : Type} {contextId : String} {good : List BackendTask → Prop}
    {next next' : List BackendTask → Procedure LifecycleError α}
    (same : ∀ tasks, good tasks → next tasks = next' tasks) :
    Program.AlikeAfter (.getTasksByContext deployment contextId)
      (fun answer => ∀ tasks, answer = .ok tasks → good tasks)
      (history deployment contextId >>= next).run (history deployment contextId >>= next').run := by
  refine ⟨none, _, _, rfl, rfl, fun answer isGood => ?_⟩
  match answer with
  | .error e => rfl
  | .ok [] => rfl
  | .ok (first :: rest) => exact congrArg ExceptT.run (same _ (isGood _ rfl))

/-- The tasks are not one task that is done. -/
def NotOneDone (tasks : List BackendTask) : Prop := ∀ task, tasks = [task] → ¬ task.isDone

/-- With one errand and with none, a deletion is taken further in the same way, unless there is one
task and it is done. -/
theorem alikeAfter_advanceDelete {data' : OperationData} (same : data.SameDeletion data')
    (none : data.effectiveErrands = []) (one : data'.effectiveErrands = [e]) :
    Program.AlikeAfter (.getTasksByContext deployment data.contextId)
      (fun answer => ∀ tasks, answer = .ok tasks → NotOneDone tasks)
      (advanceDelete deployment data).run (advanceDelete deployment data').run := by
  simp only [advanceDelete, same.contextId, none, one]
  refine alikeAfter_history fun tasks notOne => ?_
  rcases tasks with _ | ⟨task, _ | ⟨second, rest⟩⟩
  · rfl
  · have unfinished := notOne task rfl
    simp [unfinished]
  · simp

theorem alikeAfter_currentTask {data' : OperationData} (context : data.hasContext)
    (same : data.SameDeletion data') (none : data.effectiveErrands = [])
    (one : data'.effectiveErrands = [e]) :
    Program.AlikeAfter (.getTasksByContext deployment data.contextId)
      (fun answer => ∀ tasks, answer = .ok tasks → NotOneDone tasks)
      (currentTask offering deployment data).run (currentTask offering deployment data').run := by
  have context' : data'.hasContext := same.hasContext.trans context
  have plain : OperationKind.delete.isDeploy = false := rfl
  simp only [currentTask, context, context', same.kind, same.deletes, plain, Bool.not_true,
    Bool.false_eq_true, if_false, if_true]
  exact alikeAfter_advanceDelete same none one

/-- A deletion without errands gets no step from a poll. -/
theorem nextStep?_of_no_errands (deletes : data.kind = .delete) (none : data.effectiveErrands = [])
    (tasks : List BackendTask) : nextStep? offering deployment data tasks = .none := by
  rw [Option.eq_none_iff_forall_ne_some]
  intro step due
  obtain ⟨⟨latest, last, -⟩, after⟩ := nextStep?_eq_some.mp due
  have some : tasks ≠ [] := by
    rintro rfl
    cases last
  simp [stepAfter?, deletes, OperationKind.isDeploy, none, some] at after

/-- Where a look shows that the only errand is done, the deletion is asked for. -/
def Concludes (deployment contextId : String) (past : List Happening) : Prop :=
  past ≠ [] ∧ (FindsOneDone deployment contextId past →
    (⟨_, .submitDelete deployment contextId false⟩ : AnyCall) ∈ past.filterMap Happening.call?)

theorem Concludes.extend {contextId : String} {past later : List Happening}
    (concludes : Concludes deployment contextId past) (before : past <+: later) :
    Concludes deployment contextId later := by
  obtain ⟨rest, rfl⟩ := before
  obtain ⟨begun, asked⟩ := concludes
  obtain ⟨first, past, rfl⟩ := List.exists_cons_of_ne_nil begun
  refine ⟨List.cons_ne_nil _ _, fun finds => ?_⟩
  rw [List.filterMap_append]
  exact List.mem_append_left _ (asked finds)

theorem concludes_look {contextId : String} {tasks : List BackendTask} (notOne : NotOneDone tasks) :
    Concludes deployment contextId [.look deployment contextId tasks] := by
  refine ⟨List.cons_ne_nil _ _, ?_⟩
  rintro ⟨task, finished, found⟩
  cases found
  exact absurd finished (notOne task rfl)

theorem concludes_of_asked {contextId : String} {past : List Happening}
    (asked : (⟨_, .submitDelete deployment contextId false⟩ : AnyCall) ∈
      past.filterMap Happening.call?) : Concludes deployment contextId past := by
  refine ⟨?_, fun _ => asked⟩
  rintro rfl
  cases asked

theorem concludes_fetch (id : TaskId) (contextId : String) :
    (fetch id).run.Meets (fun _ _ => True)
      (fun past _ => Concludes deployment contextId past) [] := by
  have other (answer) : Concludes deployment contextId [.answered (.getTask id) answer] :=
    ⟨List.cons_ne_nil _ _, by rintro ⟨task, finished, ⟨⟩⟩⟩
  exact meets_fetch id trivial (fun task => other _) fun e => other _

theorem concludes_advanceDelete (one : data.effectiveErrands = [e]) :
    (advanceDelete deployment data).run.Meets (fun _ _ => True)
      (fun past _ => Concludes deployment data.contextId past) [] := by
  simp only [advanceDelete, run_bind_procedure, Program.meets_bind, one]
  refine meets_history _ trivial (concludes_look nofun) (fun tasks nonempty => ?_) fun e => ?_
  · by_cases oneDone : ∃ task, tasks = [task] ∧ task.isDone
    · obtain ⟨task, rfl, finished⟩ := oneDone
      simp only [List.getLast?_singleton, finished, List.length_singleton, if_true,
        run_bind_procedure, Program.meets_bind, meets_info, meets_submitDelete]
      refine ⟨trivial, fun id => ?_, fun e => concludes_of_asked (by simp [Happening.call?])⟩
      exact meets_fetch id trivial (fun task => concludes_of_asked (by simp [Happening.call?]))
        fun e => concludes_of_asked (by simp [Happening.call?])
    · have notOne : NotOneDone tasks := fun task is finished => oneDone ⟨task, is, finished⟩
      exact (Program.meets_extends _ _).mono (fun _ _ _ _ => trivial) fun later _ _ before =>
        (concludes_look notOne).extend before
  · exact ⟨List.cons_ne_nil _ _, by rintro ⟨task, finished, ⟨⟩⟩⟩

theorem concludes_currentTask (deletes : data.kind = .delete) (one : data.effectiveErrands = [e]) :
    (currentTask offering deployment data).run.Meets (fun _ _ => True)
      (fun past _ => Concludes deployment data.contextId past) [] := by
  unfold currentTask
  split
  · exact concludes_fetch _ _
  · rw [if_neg (by simp [deletes, OperationKind.isDeploy])]
    exact concludes_advanceDelete one

end Lifecycle

namespace Broker

open Procedure Lifecycle

variable {config : BrokerConfig} {requestId instanceId : String}
  {d d' : OperationData}

/-- A poll whose token could be read. -/
def pollOf (config : BrokerConfig) (requestId instanceId : String) (d : OperationData) :
    Procedure BrokerError LastOperation :=
  within (Steps.spanOf instanceId requestId d.kind) <|
    pollOperation config
      { config.correlation instanceId requestId d.kind with taskId := some d.taskId } d

theorem lastOperation_of_read {token : String} (read : OperationData.decode token = .ok d) :
    lastOperation config requestId instanceId token = pollOf config requestId instanceId d := by
  simp only [lastOperation, read, pollOf]

/-- Deletions with the same errands are polled in the same way. -/
theorem pollOf_congr (same : d.SameDeletion d')
    (errands : d.hasContext → d'.effectiveErrands = d.effectiveErrands) :
    pollOf config requestId instanceId d' = pollOf config requestId instanceId d := by
  simp only [pollOf, pollOperation, same.kind, same.taskId, currentTask_congr same errands]

theorem alikeAfter_pollOf (context : d.hasContext) (same : d.SameDeletion d')
    (none : d.effectiveErrands = []) (one : d'.effectiveErrands = [e]) :
    Program.AlikeAfter (.getTasksByContext (config.deploymentName instanceId) d.contextId)
      (fun answer => ∀ tasks, answer = .ok tasks → NotOneDone tasks)
      (pollOf config requestId instanceId d).run (pollOf config requestId instanceId d').run := by
  simp only [pollOf, pollOperation, same.kind, same.taskId]
  exact (((alikeAfter_currentTask context same none one).bind _).bind _).within _

theorem concludes_pollOf (deletes : d.kind = .delete) (one : d.effectiveErrands = [e]) :
    (pollOf config requestId instanceId d).run.Meets (fun _ _ => True)
      (fun past _ => Concludes (config.deploymentName instanceId) d.contextId past) [] := by
  simp only [pollOf, meets_within_procedure, pollOperation, run_bind_procedure, Program.meets_bind,
    meets_lift]
  refine (concludes_currentTask deletes one).mono (fun _ _ _ _ => trivial) fun past _ _ holds => ?_
  exact (Program.meets_extends _ _).mono (fun _ _ _ _ => trivial) fun later _ _ before =>
    holds.extend before

/-- A poll of a deletion without errands submits nothing. -/
theorem pollOf_submits_nothing {σ : Type} (h : Program.Handler σ) (s : σ)
    (deletes : d.kind = .delete) (none : d.effectiveErrands = []) :
    ∀ c ∈ ((pollOf config requestId instanceId d).run.transcript h s).filterMap Happening.call?,
      c.submits? = .none := by
  have rule : (pollOf config requestId instanceId d).run.Meets (fun _ c => c.submits? = .none)
      (fun _ _ => True) [] := by
    rw [pollOf, meets_within_procedure]
    refine (meets_pollOperation ..).mono (fun past c _ permitted => ?_) fun _ _ _ _ => trivial
    by_contra submits
    obtain ⟨-, tasks, -, due⟩ := permitted (Option.isSome_iff_ne_none.mpr submits)
    rw [nextStep?_of_no_errands deletes none] at due
    cases due
  exact rule.calls h s

section Listed

variable {σ : Type} {h : Program.Handler σ} {s : σ} {e : Errand}

/-- It makes no difference how an errand with a name is written. -/
theorem pollOf_listed (deletes : d.kind = .delete) (only : d.legacyErrand = some e)
    (unlisted : d.preDeleteErrands = []) (named : e.name ≠ "") :
    pollOf config requestId instanceId d.listed = pollOf config requestId instanceId d := by
  refine pollOf_congr (OperationData.sameDeletion_listed deletes) fun _ => ?_
  rw [OperationData.effectiveErrands_listed only,
    OperationData.effectiveErrands_named only unlisted named]

/-- It makes no difference how an errand without a name is written, unless it is done. -/
theorem sameRun_listed (deletes : d.kind = .delete) (only : d.legacyErrand = some e)
    (unlisted : d.preDeleteErrands = []) (nameless : e.name = "")
    (notDone : ¬ FindsOneDone (config.deploymentName instanceId) d.contextId
      ((pollOf config requestId instanceId d.listed).run.transcript h s)) :
    Program.SameRun h s (pollOf config requestId instanceId d).run
      (pollOf config requestId instanceId d.listed).run := by
  have deletion := OperationData.sameDeletion_listed deletes
  by_cases context : d.hasContext
  · have none := OperationData.effectiveErrands_nameless only unlisted nameless
    have one := OperationData.effectiveErrands_listed only
    refine (alikeAfter_pollOf context deletion none one).sameRun ?_
    rintro answer first tasks rfl task rfl finished
    exact notDone ⟨task, finished, first⟩
  · have same :
        pollOf config requestId instanceId d.listed = pollOf config requestId instanceId d :=
      pollOf_congr deletion fun present => absurd present context
    rw [same]
    exact ⟨rfl, rfl⟩

/-- Written in the list, an errand that is done leads to the deletion. -/
theorem deletion_mem_of_listed (deletes : d.kind = .delete) (only : d.legacyErrand = some e)
    (oneDone : FindsOneDone (config.deploymentName instanceId) d.contextId
      ((pollOf config requestId instanceId d.listed).run.transcript h s)) :
    (⟨_, .submitDelete (config.deploymentName instanceId) d.contextId false⟩ : AnyCall) ∈
      ((pollOf config requestId instanceId d.listed).run.transcript h s).filterMap
        Happening.call? := by
  have deletes' : d.listed.kind = .delete := deletes
  have one : d.listed.effectiveErrands = [e] := OperationData.effectiveErrands_listed only
  exact ((concludes_pollOf deletes' one).transcript h s).2 oneDone

/-- On its own, an errand without a name does not. -/
theorem deletion_not_mem_of_nameless (deletes : d.kind = .delete)
    (only : d.legacyErrand = some e) (unlisted : d.preDeleteErrands = [])
    (nameless : e.name = "") (deployment contextId : String) :
    (⟨_, .submitDelete deployment contextId false⟩ : AnyCall) ∉
      ((pollOf config requestId instanceId d).run.transcript h s).filterMap Happening.call? := by
  intro asked
  have submits := pollOf_submits_nothing h s deletes
    (OperationData.effectiveErrands_nameless only unlisted nameless) _ asked
  cases submits

end Listed

/-- The polls of the two tokens of a deletion with one errand are the same, unless the errand has no
name and the only task is done. Then the deletion is due, and the old token does not lead to it. -/
theorem only_errand_alike_iff {σ : Type} (h : Program.Handler σ) (s : σ) (config : BrokerConfig)
    (requestId instanceId : String) {old new : String} {d : OperationData} {e : Errand}
    (deletes : d.kind = .delete) (only : d.legacyErrand = some e)
    (unlisted : d.preDeleteErrands = [])
    (isOld : OperationData.decode old = OperationData.decode d.encode)
    (isNew : OperationData.decode new = OperationData.decode d.listed.encode) :
    let poll token := (lastOperation config requestId instanceId token).run
    let calls token := ((poll token).transcript h s).filterMap Happening.call?
    let oneDone := FindsOneDone (config.deploymentName instanceId) d.contextId
      ((poll new).transcript h s)
    let deletion : AnyCall :=
      ⟨_, .submitDelete (config.deploymentName instanceId) d.contextId false⟩
    (Program.SameRun h s (poll old) (poll new) ↔ ¬ (e.name = "" ∧ oneDone)) ∧
      (oneDone → deletion ∈ calls new ∧ (deletion ∈ calls old ↔ e.name ≠ "")) := by
  intro poll calls oneDone deletion
  rcases OperationData.decode_listed isOld isNew with ⟨readOld, readNew⟩ | ⟨error, readOld, readNew⟩
  · have pollOld : poll old = (pollOf config requestId instanceId d).run :=
      congrArg ExceptT.run (lastOperation_of_read readOld)
    have pollNew : poll new = (pollOf config requestId instanceId d.listed).run :=
      congrArg ExceptT.run (lastOperation_of_read readNew)
    have asks : oneDone → deletion ∈ calls new := by
      simp only [oneDone, calls, pollNew]
      exact deletion_mem_of_listed deletes only
    by_cases nameless : e.name = ""
    · have silent : deletion ∉ calls old := by
        simp only [calls, pollOld]
        exact deletion_not_mem_of_nameless deletes only unlisted nameless _ _
      refine ⟨⟨fun same => ?_, fun notDone => ?_⟩, fun one => ⟨asks one, ?_⟩⟩
      · rintro ⟨-, one⟩
        have sameCalls : calls old = calls new := congrArg (List.filterMap Happening.call?) same.2
        exact silent (sameCalls ▸ asks one)
      · simp only [oneDone, pollOld, pollNew] at notDone ⊢
        exact sameRun_listed deletes only unlisted nameless fun one => notDone ⟨nameless, one⟩
      · simp [silent, nameless]
    · have same : poll old = poll new := by
        rw [pollOld, pollNew, pollOf_listed deletes only unlisted nameless]
      have sameCalls : calls old = calls new := by simp only [calls, same]
      refine ⟨by simp [nameless, Program.SameRun, same], fun one => ⟨asks one, ?_⟩⟩
      simp [sameCalls, asks one, nameless]
  · have same : poll old = poll new := by simp only [poll, lastOperation, readOld, readNew]
    have silent : ¬ oneDone := by
      have quiet : (poll new).transcript h s = [] := by
        simp only [poll, lastOperation, readNew]
        rfl
      rintro ⟨task, -, first⟩
      rw [quiet] at first
      cases first
    exact ⟨by simp [silent, Program.SameRun, same], fun one => absurd one silent⟩

/-- A deletion with one errand before it, as a token of old names it. -/
def loneErrand (name : String) : OperationData :=
  { kind := .delete, taskId := 1, contextId := "c", legacyErrand := some { name } }

def loneConfig : BrokerConfig :=
  { settings := { deploymentPrefix := "d-" }, offering := { id := "s", name := "n" } }

/-- The deployment is still there. The errand before its deletion is done. -/
def loneWorld : Memory.World :=
  { backend := (({} : Memory.Backend).addDeployment "d-i" "m").addTask "d-i"
      { id := 1, state := .done, contextId := "c" }
    ids := fun _ => "c" }

theorem lastOperation_loneErrand (name : String) :
    lastOperation loneConfig "r" "i" (loneErrand name).encode =
        pollOf loneConfig "r" "i" (loneErrand name) ∧
      lastOperation loneConfig "r" "i" (loneErrand name).listed.encode =
        pollOf loneConfig "r" "i" (loneErrand name).listed :=
  ⟨lastOperation_of_read (OperationData.decode_encode _),
    lastOperation_of_read (OperationData.decode_encode _)⟩

/-- An errand with a name leads to the deletion in both ways of writing. -/
theorem only_errand_alike_iff_sample :
    Program.SameRun (Memory.World.handler none) loneWorld
        (lastOperation loneConfig "r" "i" (loneErrand "clean").encode).run
        (lastOperation loneConfig "r" "i" (loneErrand "clean").listed.encode).run ∧
      (⟨_, .submitDelete "d-i" "c" false⟩ : AnyCall) ∈
        ((lastOperation loneConfig "r" "i" (loneErrand "clean").encode).run.transcript
          (Memory.World.handler none) loneWorld).filterMap Happening.call? := by
  obtain ⟨alike, asks⟩ := only_errand_alike_iff (Memory.World.handler none) loneWorld loneConfig "r"
    "i" (d := loneErrand "clean") rfl rfl rfl rfl rfl
  have named : "clean" ≠ "" := by decide
  have oneDone : FindsOneDone "d-i" "c"
      ((lastOperation loneConfig "r" "i" (loneErrand "clean").listed.encode).run.transcript
        (Memory.World.handler none) loneWorld) := by
    rw [(lastOperation_loneErrand "clean").2]
    exact ⟨_, rfl, rfl⟩
  exact ⟨alike.mpr fun both => named both.1, (asks oneDone).2.mpr named⟩

/-- An errand without a name is done. Written on its own, it is taken for the end of the deletion,
and the deployment stays. Written in the list, it is followed by the deletion. -/
theorem nameless_errand_ends_deletion :
    (∃ w, (lastOperation loneConfig "r" "i" (loneErrand "").encode).run.run
        (Memory.World.handler none) loneWorld =
          (.ok ⟨.succeeded, "Instance deletion completed"⟩, w) ∧ w.backend.hasDeployment "d-i") ∧
      ∃ w, (lastOperation loneConfig "r" "i" (loneErrand "").listed.encode).run.run
        (Memory.World.handler none) loneWorld =
          (.ok ⟨.inProgress, "Instance deletion in progress"⟩, w) ∧
            w.backend.hasDeployment "d-i" = false := by
  rw [(lastOperation_loneErrand "").1, (lastOperation_loneErrand "").2]
  exact ⟨⟨_, rfl, rfl⟩, ⟨_, rfl, rfl⟩⟩

end Broker

end ServiceBroker
