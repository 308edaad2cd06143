import ServiceBroker.Broker.Steps
import ServiceBroker.Proofs.Broker.Course

/-! Submissions, looks at the tasks of a context, and everything else that a request may do. What
comes before or after the submissions of a request asks the collaborators for other things only;
such procedures need no more than a word about what they yield. -/
namespace ServiceBroker

/-- The deployment and the context that a submission gives its task; none for other calls. -/
def AnyCall.submits? : AnyCall → Option (String × String)
  | ⟨_, .submitDeploy request⟩ => some (request.deployment, request.contextId)
  | ⟨_, .submitErrand deployment _ contextId⟩ => some (deployment, contextId)
  | ⟨_, .submitDelete deployment contextId _⟩ => some (deployment, contextId)
  | ⟨_, .submitRecreate deployment contextId⟩ => some (deployment, contextId)
  | _ => none

/-- The submission that was answered with a task, and the task. -/
def Happening.created? : Happening → Option (AnyCall × TaskId)
  | .answered (.submitDeploy request) (.ok outcome) =>
    some (⟨_, .submitDeploy request⟩, DeployOutcome.taskId outcome)
  | .answered (.submitErrand deployment errand contextId) (.ok id) =>
    some (⟨_, .submitErrand deployment errand contextId⟩, id)
  | .answered (.submitDelete deployment contextId force) (.ok id) =>
    some (⟨_, .submitDelete deployment contextId force⟩, id)
  | .answered (.submitRecreate deployment contextId) (.ok id) =>
    some (⟨_, .submitRecreate deployment contextId⟩, id)
  | _ => none

/-- A look at the tasks of a context that was answered. -/
def Happening.look (deployment contextId : String) (tasks : List BackendTask) : Happening :=
  .answered (.getTasksByContext deployment contextId) (.ok tasks)

/-- A call that neither submits anything nor looks at the tasks of a context. -/
def AnyCall.isPreliminary (c : AnyCall) : Bool :=
  c.submits?.isNone && c.kind != .getTasksByContext

/-- What comes before a submission that opens an operation. -/
def Happening.isPreliminary : Happening → Bool
  | .answered c _ => AnyCall.isPreliminary ⟨_, c⟩
  | .issued _ => true

/-- From one point to another nothing happened but what may come before an operation is opened. -/
def Quietly (past later : List Happening) : Prop :=
  ∃ extra, later = past ++ extra ∧ ∀ h ∈ extra, h.isPreliminary

namespace Quietly

theorem refl (past : List Happening) : Quietly past past := ⟨[], by simp⟩

theorem trans {past middle later : List Happening} (first : Quietly past middle)
    (second : Quietly middle later) : Quietly past later := by
  obtain ⟨extra, rfl, quiet⟩ := first
  obtain ⟨more, rfl, still⟩ := second
  refine ⟨extra ++ more, List.append_assoc .., fun h member => ?_⟩
  exact (List.mem_append.mp member).elim (quiet h) (still h)

theorem snoc (past : List Happening) {h : Happening} (quiet : h.isPreliminary) :
    Quietly past (past ++ [h]) := ⟨[h], rfl, by simpa using quiet⟩

theorem before {past later : List Happening} (quietly : Quietly past later) : past <+: later := by
  obtain ⟨extra, rfl, _⟩ := quietly
  exact List.prefix_append ..

theorem all {later : List Happening} (quietly : Quietly [] later) :
    ∀ h ∈ later, h.isPreliminary := by
  obtain ⟨extra, rfl, quiet⟩ := quietly
  exact quiet

end Quietly

namespace Procedure

variable {ε α β : Type} {allowed : List Happening → AnyCall → Prop} {past : List Happening}

/-- A procedure that opens no operation, and what it yields if it succeeds. -/
def Asks (yields : α → Prop) (body : Procedure ε α) : Prop :=
  ∀ past, body.run.Meets (fun _ c => c.isPreliminary)
    (fun later result => Quietly past later ∧ ∀ a, result = .ok a → yields a) past

/-- What follows a procedure that opens no operation. -/
theorem Asks.bind {yields : α → Prop} {body : Procedure ε α} (asks : body.Asks yields)
    {next : α → Procedure ε β} {demand : List Happening → Except ε β → Prop}
    (permitted : ∀ later c, c.isPreliminary → allowed later c)
    (goes : ∀ later a, Quietly past later → yields a →
      (next a).run.Meets allowed demand later)
    (stops : ∀ later e, Quietly past later → demand later (.error e)) :
    (body >>= next).run.Meets allowed demand past := by
  rw [run_bind_procedure, Program.meets_bind]
  refine (asks past).mono (fun later c _ quiet => permitted later c quiet) ?_
  rintro later (e | a) _ ⟨quietly, yielded⟩
  · exact stops later e quietly
  · exact goes later a quietly (yielded a rfl)

/-- What follows a procedure that opens no operation and that may be left out. -/
theorem Asks.bind_if {c : Prop} [Decidable c] {yields : Unit → Prop} {body : Procedure ε Unit}
    (asks : body.Asks yields) {next : Unit → Procedure ε β}
    {demand : List Happening → Except ε β → Prop}
    (permitted : ∀ later c, c.isPreliminary → allowed later c)
    (goes : ∀ later, Quietly past later → (next ()).run.Meets allowed demand later)
    (stops : ∀ later e, Quietly past later → demand later (.error e)) :
    (if c then body >>= next else next ()).run.Meets allowed demand past := by
  split
  · exact asks.bind permitted (fun later _ quietly _ => goes later quietly) stops
  · exact goes past (Quietly.refl past)

theorem asks_pure {yields : α → Prop} {a : α} (holds : yields a) :
    (pure a : Procedure ε α).Asks yields :=
  fun past => ⟨Quietly.refl past, by rintro b ⟨⟩; exact holds⟩

theorem asks_refuse {yields : α → Prop} (r : Refusal) :
    (refuse r : Procedure BrokerError α).Asks yields :=
  fun past => ⟨Quietly.refl past, fun _ impossible => nomatch impossible⟩

theorem asks_note (event : Log.Event) : (note event : Procedure ε Unit).Asks fun _ => True :=
  fun past => ⟨Quietly.refl past, fun _ _ => trivial⟩

theorem Asks.then {yields : α → Prop} {yields' : β → Prop} {body : Procedure ε α}
    (asks : body.Asks yields) {next : α → Procedure ε β}
    (rest : ∀ a, yields a → (next a).Asks yields') : (body >>= next).Asks yields' := by
  intro past
  refine asks.bind (fun _ _ quiet => quiet) (fun later a quietly yielded => ?_) ?_
  · exact (rest a yielded later).mono (fun _ _ _ quiet => quiet)
      fun _ _ _ holds => ⟨quietly.trans holds.1, holds.2⟩
  · exact fun later e quietly => ⟨quietly, fun _ impossible => nomatch impossible⟩

/-- A preliminary call is asked. -/
theorem asks_ask {k : CallKind} (c : Call k) (onFailure : k.Failure → Procedure ε k.Value)
    (quiet : AnyCall.isPreliminary ⟨k, c⟩) (fails : ∀ e, (onFailure e).Asks fun _ => True) :
    (ask c onFailure).Asks fun _ => True := by
  intro past
  have step (answer : k.Answer) : Quietly past (past ++ [.answered c answer]) :=
    .snoc past quiet
  refine (meets_ask c onFailure).mpr
    ⟨quiet, fun value => ⟨step _, fun _ _ => trivial⟩, fun e => ?_⟩
  exact (fails e _).mono (fun _ _ _ quiet => quiet)
    fun _ _ _ holds => ⟨(step _).trans holds.1, holds.2⟩

/-- A preliminary call is made, and its answer looked at. -/
theorem asks_attempt {k : CallKind} (c : Call k) (quiet : AnyCall.isPreliminary ⟨k, c⟩) :
    (attempt c : Procedure ε k.Answer).Asks fun _ => True :=
  fun past => ⟨quiet, fun _ => ⟨.snoc past quiet, fun _ _ => trivial⟩⟩

end Procedure

namespace Steps

open Procedure

variable (config : BrokerConfig) (about : Correlation)

theorem asks_findPlan (planId : String) :
    (findPlan config about planId).Asks fun plan => config.offering.findPlan? planId = some plan := by
  unfold findPlan
  split
  · rename_i plan found
    exact asks_pure found
  · exact asks_refuse _

theorem asks_failed {α : Type} (e : BackendError) :
    (failed about e : Procedure BrokerError α).Asks fun _ => True := asks_refuse _

theorem asks_findDeployment (deployment : String) :
    (findDeployment about deployment).Asks fun _ => True :=
  asks_ask (.getDeployment deployment) _ rfl (asks_failed about)

theorem asks_requireIdle (deployment : String) :
    (requireIdle about deployment).Asks fun _ => True := by
  refine Asks.then (asks_ask (.getTasksInProgress deployment) _ rfl (asks_failed about)) ?_
  intro tasks _
  split
  · exact asks_pure trivial
  · exact asks_refuse _

theorem asks_countInstances (plan : Plan) :
    (countInstances config about plan).Asks fun _ => True := by
  unfold countInstances
  split
  · exact Asks.then (asks_ask .countOffering _ rfl (asks_failed about)) fun _ _ => asks_pure trivial
  · split
    · exact Asks.then (asks_ask (.countPlan plan.id) _ rfl (asks_failed about))
        fun _ _ => asks_pure trivial
    · exact asks_pure trivial

theorem asks_requireQuota (plan : Plan) : (requireQuota config about plan).Asks fun _ => True := by
  refine (asks_countInstances config about plan).then fun counts _ => ?_
  split
  · exact asks_pure trivial
  · split
    · exact asks_pure trivial
    · exact asks_refuse _

theorem asks_cleanUp (deployment : String) : (cleanUp about deployment).Asks fun _ => True := by
  refine Asks.then (asks_ask (.deleteConfigs deployment) _ rfl (asks_failed about)) fun _ _ => ?_
  refine Asks.then (asks_ask (.deleteSecrets deployment) _ rfl fun e => asks_refuse _) fun _ _ => ?_
  exact asks_note _

end Steps

end ServiceBroker
