import ServiceBroker.Proofs.Broker.Commitments
import ServiceBroker.Proofs.Memory.Account

/-! Worlds in which no call to the backend fails. What is asked for there is answered if it exists,
and the task of a submission can be looked up at once. So a poll finds out how its operation stands
if it finds as many tasks as the operation may have. -/
namespace ServiceBroker

open Memory

namespace Memory

namespace Backend

/-- No call was told to fail. -/
structure Calm (b : Backend) : Prop where
  sound : b.Sound
  willing : ∀ k, b.failures k = none

/-- There is a task with the id. -/
def HasTask (b : Backend) (id : TaskId) : Prop := ∃ task ∈ b.tasks, task.id = id

/-- So every call is carried out. -/
theorem Calm.unlessFailing_eq {b : Backend} (calm : b.Calm) {α : Type} (kind : CallKind)
    (act : Backend → Except BackendError α × Backend) : b.unlessFailing kind act = act b := by
  rw [unlessFailing, calm.willing]

theorem HasTask.task? {b : Backend} {id : TaskId} (held : b.HasTask id) :
    ∃ task, b.task? id = some task := by
  obtain ⟨task, member, same⟩ := held
  have found : (b.tasks.find? fun task => task.id == id).isSome :=
    List.find?_isSome.mpr ⟨task, member, beq_iff_eq.mpr same⟩
  exact Option.isSome_iff_exists.mp found

/-- A submission gets a task that can be looked up. -/
theorem Calm.submit {b : Backend} (calm : b.Calm) (deployment contextId description : String) :
    (b.submit deployment contextId description).2.Calm ∧
      (b.submit deployment contextId description).2.HasTask
        (b.submit deployment contextId description).1 := by
  have effect : Effect ⟨_, .submitRecreate deployment contextId⟩ b _ _ :=
    calm.sound.effect_submit description rfl
  refine ⟨⟨effect.sound calm.sound, calm.willing⟩, ?_⟩
  cases effect with
  | created _ isNext _ adds _ =>
    exact ⟨_, adds.tasks ▸ List.mem_append_right _ (List.mem_singleton_self _), isNext⟩

end Backend

namespace World

variable {w : World}

/-- A task that is held can be read. -/
theorem serve_getTask (calm : w.backend.Calm) (deadline : Option Millis) {id : TaskId}
    (held : w.backend.HasTask id) : ∃ task, (serve deadline (.getTask id) w).1 = .ok task ∧
      (serve deadline (.getTask id) w).2.backend = w.backend := by
  obtain ⟨task, found⟩ := held.task?
  refine ⟨task, ?_⟩
  change (w.backend.getTask id).1 = .ok task ∧ (w.backend.getTask id).2 = w.backend
  rw [Backend.getTask, calm.unlessFailing_eq, found]
  exact ⟨rfl, rfl⟩

/-- The tasks of a context can be read. -/
theorem serve_getTasksByContext (calm : w.backend.Calm) (deadline : Option Millis)
    (deployment contextId : String) :
    (serve deadline (.getTasksByContext deployment contextId) w).1 =
        .ok (w.backend.tasksOf deployment fun task => task.contextId == contextId) ∧
      (serve deadline (.getTasksByContext deployment contextId) w).2.backend = w.backend := by
  change (w.backend.getTasksByContext deployment contextId).1 = _ ∧
    (w.backend.getTasksByContext deployment contextId).2 = w.backend
  rw [Backend.getTasksByContext, calm.unlessFailing_eq]
  exact ⟨rfl, rfl⟩

theorem serve_submitErrand (calm : w.backend.Calm) (deadline : Option Millis) (deployment : String)
    (errand : Errand) (contextId : String) :
    ∃ id, (serve deadline (.submitErrand deployment errand contextId) w).1 = .ok id ∧
      (serve deadline (.submitErrand deployment errand contextId) w).2.backend.Calm ∧
      (serve deadline (.submitErrand deployment errand contextId) w).2.backend.HasTask id := by
  refine ⟨w.backend.nextTaskId, ?_⟩
  change (w.backend.submitErrand deployment errand contextId).1 = .ok _ ∧
    (w.backend.submitErrand deployment errand contextId).2.Calm ∧
    (w.backend.submitErrand deployment errand contextId).2.HasTask _
  rw [Backend.submitErrand, calm.unlessFailing_eq]
  exact ⟨rfl, calm.submit ..⟩

theorem serve_submitDelete (calm : w.backend.Calm) (deadline : Option Millis)
    (deployment contextId : String) (force : Bool) :
    ∃ id, (serve deadline (.submitDelete deployment contextId force) w).1 = .ok id ∧
      (serve deadline (.submitDelete deployment contextId force) w).2.backend.Calm ∧
      (serve deadline (.submitDelete deployment contextId force) w).2.backend.HasTask id := by
  refine ⟨w.backend.nextTaskId, ?_⟩
  change (w.backend.submitDelete deployment contextId).1 = .ok _ ∧
    (w.backend.submitDelete deployment contextId).2.Calm ∧
    (w.backend.submitDelete deployment contextId).2.HasTask _
  rw [Backend.submitDelete, calm.unlessFailing_eq]
  have still : Backend.Calm
      { w.backend with deployments := w.backend.deployments.erase deployment } :=
    ⟨calm.sound.congr ⟨rfl, rfl⟩ rfl, calm.willing⟩
  exact ⟨rfl, still.submit ..⟩

/-- The journal of events has no bearing on the answers. -/
theorem serve_events (w : World) (deadline : Option Millis) {k : CallKind} (c : Call k)
    (events : List Log.Event) : serve deadline c { w with events } =
      ((serve deadline c w).1, { (serve deadline c w).2 with events }) := by
  cases c with
  | submitDeploy request =>
    simp only [serve, answer, submitDeploy]
    split
    · rfl
    · split <;> rfl
  | _ => rfl

/-- Which request a program belongs to shows in the journal of events only. -/
theorem run_within (deadline : Option Millis) {α : Type} (span : Log.Span) (p : Program α)
    (w : World) (events : List Log.Event) : ∃ later,
      (p.within span).run (handler deadline) { w with events } =
        ((p.run (handler deadline) w).1,
          { (p.run (handler deadline) w).2 with events := later }) := by
  induction p generalizing w events with
  | done a => exact ⟨events, rfl⟩
  | call c inner next ih =>
    obtain ⟨later, same⟩ := ih (serve deadline c w).1 (serve deadline c w).2 events
    refine ⟨later, Eq.trans ?_ same⟩
    change ((next (serve deadline c { w with events }).1).within span).run (handler deadline)
      (serve deadline c { w with events }).2 = _
    rw [serve_events]
  | log event next ih => exact ih (w.note event) _
  | lock kind id next ih =>
    cases acquired : w.locks.acquire? kind id with
    | none =>
      obtain ⟨later, same⟩ := ih false w events
      refine ⟨later, ?_⟩
      simpa only [Program.within, Program.run, handler, acquire, acquired] using same
    | some locks =>
      obtain ⟨later, same⟩ := ih true { w with locks } events
      refine ⟨later, ?_⟩
      simpa only [Program.within, Program.run, handler, acquire, acquired] using same
  | unlock kind id next ih => exact ih (w.release kind id) events
  | fresh next ih => exact ih w.issue.1 w.issue.2 events

end World

end Memory

namespace Procedure

variable {ε α β : Type} {deadline : Option Millis} {w : World}

/-- Run in a world, a procedure yields a value; and what is then true of the value and the world. -/
def Returns (deadline : Option Millis) (w : World) (body : Procedure ε α)
    (post : α → World → Prop) : Prop :=
  ∃ a w', body.run.run (World.handler deadline) w = (.ok a, w') ∧ post a w'

theorem returns_pure {post : α → World → Prop} {a : α} (holds : post a w) :
    (pure a : Procedure ε α).Returns deadline w post := ⟨a, w, rfl, holds⟩

theorem Returns.bind {middle : α → World → Prop} {post : β → World → Prop} {body : Procedure ε α}
    (returns : body.Returns deadline w middle) {next : α → Procedure ε β}
    (rest : ∀ a w', middle a w' → (next a).Returns deadline w' post) :
    (body >>= next).Returns deadline w post := by
  obtain ⟨a, w', first, reached⟩ := returns
  obtain ⟨b, w'', second, ended⟩ := rest a w' reached
  refine ⟨b, w'', ?_, ended⟩
  rw [run_bind_procedure, Program.run_bind, first]
  exact second

theorem returns_note (event : Log.Event) :
    (note event : Procedure ε Unit).Returns deadline w fun _ w' => w'.backend = w.backend :=
  ⟨(), _, rfl, rfl⟩

theorem returns_attempt {k : CallKind} (c : Call k) :
    (attempt c : Procedure ε k.Answer).Returns deadline w
      fun answer w' => World.serve deadline c w = (answer, w') := ⟨_, _, rfl, rfl⟩

/-- A call that is answered with a value. -/
theorem returns_ask {k : CallKind} {c : Call k} {onFailure : k.Failure → Procedure ε k.Value}
    {value : k.Value} (answered : (World.serve deadline c w).1 = .ok value)
    (post : k.Value → World → Prop) (holds : post value (World.serve deadline c w).2) :
    (ask c onFailure).Returns deadline w post := by
  refine (returns_attempt c).bind ?_
  intro answer w' served
  rw [served] at answered holds
  cases answer with
  | error e => cases answered
  | ok a =>
    cases answered
    exact returns_pure holds

/-- A procedure that cannot fail returns in any world. -/
theorem Sure.returns {body : Procedure ε α} (sure : body.Sure) :
    body.Returns deadline w fun _ _ => True := by
  have always : (World.handler deadline).Keeps fun _ _ => True :=
    ⟨fun _ _ _ => trivial, fun _ _ => trivial, fun _ _ _ => trivial, fun _ _ _ => trivial,
      fun _ => trivial⟩
  obtain ⟨_, ⟨_, a, ended⟩, _⟩ := (sure []).run always (s := w) trivial
  exact ⟨a, _, Prod.ext ended rfl, trivial⟩

/-- A procedure whose outcome is looked at, whatever it is. -/
theorem Returns.lift {ε' : Type} {post : α → World → Prop} {body : Procedure ε α}
    (returns : body.Returns deadline w post) :
    Returns deadline w (ExceptT.lift body.run : Procedure ε' (Except ε α))
      fun outcome w' => ∃ a, outcome = .ok a ∧ post a w' := by
  obtain ⟨a, w', ran, ended⟩ := returns
  refine ⟨.ok a, w', ?_, a, rfl, ended⟩
  rw [ExceptT.run_lift, Program.map_eq_bind, Program.run_bind, ran]
  rfl

theorem Returns.within {post : α → World → Prop} {body : Procedure ε α}
    (returns : body.Returns deadline w post) (span : Log.Span) :
    (within span body).Returns deadline w fun a w' => ∃ events, post a { w' with events } := by
  obtain ⟨a, w', ran, ended⟩ := returns
  obtain ⟨later, same⟩ := World.run_within deadline span body.run w w.events
  rw [ran] at same
  exact ⟨a, _, same, w'.events, ended⟩

end Procedure

end ServiceBroker
