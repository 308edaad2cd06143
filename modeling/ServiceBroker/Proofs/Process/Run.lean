import Mathlib.Logic.Relation
import ServiceBroker.Proofs.Broker.Requests
import ServiceBroker.Proofs.Memory.Growth

/-! A broker at work. Requests are served side by side, one step of one program at a time, while the
backend works on its tasks. Any call may be answered in time, be carried out for nobody because the
deadline has passed, or never reach its collaborator. A process also keeps a record that the broker
itself does not have: what each request went through, and every submission with what led to it. -/
namespace ServiceBroker

open Memory

/-- How a call fares. -/
inductive Delivery where
  /-- It is carried out and answered. -/
  | inTime (deadline : Option Millis)
  /-- It is carried out, but the answer comes too late. -/
  | late (deadline : Option Millis)
  /-- It is cut off before it reaches anybody. -/
  | unsent

namespace Memory.World

/-- What a program hears of a call that fares in some way. -/
def deliver (delivery : Delivery) {k : CallKind} (c : Call k) (w : World) : k.Answer × World :=
  match delivery with
  | .inTime deadline => serve deadline c w
  | .late deadline => (.error k.expired, (serve deadline c w).2)
  | .unsent => (.error k.expired, w)

/-- The submission that a call makes, whether or not anybody hears of it. -/
def created? (delivery : Delivery) {k : CallKind} (c : Call k) (w : World) :
    Option (AnyCall × TaskId) :=
  match delivery with
  | .inTime deadline | .late deadline => (Happening.answered c (serve deadline c w).1).created?
  | .unsent => none

/-- Another state of the same world: the backend has moved its tasks on, and anything may have
changed but the tasks there are, the supply of ids and the locks. -/
structure Drifts (w w' : World) : Prop where
  tasks : w.backend.Moved w'.backend
  next : w'.backend.nextTaskId = w.backend.nextTaskId
  ids : w'.ids = w.ids
  issued : w'.issued = w.issued
  locks : w'.locks = w.locks

end Memory.World

/-- A request that is being served: what it went through and what is left to do. -/
structure Serving where
  request : Request
  past : List Happening := []
  rest : Program Response

/-- A submission that was carried out: for which request, what that request had gone through, and
the backend just before. -/
structure Submission where
  request : Request
  past : List Happening
  call : AnyCall
  taskId : TaskId
  before : Backend

namespace Serving

/-- A request that came in. -/
def start (config : BrokerConfig) (request : Request) : Serving :=
  { request, rest := request.program config }

/-- The response, once there is one. -/
def response? (s : Serving) : Option Response :=
  match s.rest with
  | .done r => some r
  | _ => none

/-- Takes one step of the program. -/
def step (delivery : Delivery) (w : World) (s : Serving) : Serving × World × List Submission :=
  match s.rest with
  | .done _ => (s, w, [])
  | .call c _ next =>
    let (answer, w') := w.deliver delivery c
    ({ s with past := s.past ++ [.answered c answer], rest := next answer }, w',
      (w.created? delivery c).toList.map fun (call, taskId) =>
        { request := s.request, past := s.past, call, taskId, before := w.backend })
  | .log event next => ({ s with rest := next }, w.note event, [])
  | .lock kind id next =>
    let (taken, w') := w.acquire kind id
    ({ s with rest := next taken }, w', [])
  | .unlock kind id next => ({ s with rest := next }, w.release kind id, [])
  | .fresh next =>
    let (id, w') := w.issue
    ({ s with past := s.past ++ [.issued id], rest := next id }, w', [])

end Serving

/-- What stands in a list stands there when the list grows at its end. -/
theorem getElem?_append_of_eq_some {α : Type} {l : List α} {i : Nat} {a : α} (held : l[i]? = some a)
    (added : List α) : (l ++ added)[i]? = some a := by
  rw [List.getElem?_append_left (List.getElem?_eq_some_iff.mp held).1, held]

/-- Nothing changes where an element is put in its own place. -/
theorem set_of_getElem?_eq_some {α : Type} {l : List α} {i : Nat} {a : α} (held : l[i]? = some a) :
    l.set i a = l := by
  obtain ⟨inside, rfl⟩ := List.getElem?_eq_some_iff.mp held
  exact List.set_getElem_self inside

/-- A broker at work, in its world. -/
structure Process where
  world : World
  servings : List Serving := []
  submissions : List Submission := []

namespace Process

/-- A request comes in. -/
def receive (config : BrokerConfig) (request : Request) (p : Process) : Process :=
  { p with servings := p.servings ++ [.start config request] }

/-- One of the requests is taken a step further. -/
def advance (i : Nat) (delivery : Delivery) (p : Process) : Process :=
  match p.servings[i]? with
  | none => p
  | some s =>
    let (s', world, made) := s.step delivery p.world
    { world, servings := p.servings.set i s', submissions := p.submissions ++ made }

/-- One step of a process that takes in the requests it admits. -/
inductive Step (config : BrokerConfig) (admits : Process → Request → Prop) :
    Process → Process → Prop where
  | receive {p : Process} {request : Request} (admitted : admits p request) :
      Step config admits p (p.receive config request)
  | advance (p : Process) (i : Nat) (delivery : Delivery) :
      Step config admits p (p.advance i delivery)
  | drift {p : Process} {world : World} (drifts : p.world.Drifts world) :
      Step config admits p { p with world }

/-- Any number of steps. -/
abbrev Run (config : BrokerConfig) (admits : Process → Request → Prop) :
    Process → Process → Prop := Relation.ReflTransGen (Step config admits)

/-- A process that serves one request, in a world where nobody else does anything. -/
def alone (config : BrokerConfig) (world : World) (request : Request) : Process :=
  { world, servings := [.start config request] }

end Process

/-- Takes a request to its end, with all calls answered in time and nothing else happening. -/
def Serving.finish (deadline : Option Millis) (request : Request) :
    Program Response → List Happening → World → Serving × World × List Submission
  | .done r, past, w => (⟨request, past, .done r⟩, w, [])
  | .call c _ next, past, w =>
    let (answer, w') := World.serve deadline c w
    let (s, last, made) := finish deadline request (next answer) (past ++ [.answered c answer]) w'
    (s, last, (w.created? (.inTime deadline) c).toList.map (fun (call, taskId) =>
      { request, past, call, taskId, before := w.backend }) ++ made)
  | .log event next, past, w => finish deadline request next past (w.note event)
  | .lock kind id next, past, w =>
    let (taken, w') := w.acquire kind id
    finish deadline request (next taken) past w'
  | .unlock kind id next, past, w => finish deadline request next past (w.release kind id)
  | .fresh next, past, w =>
    let (id, w') := w.issue
    finish deadline request (next id) (past ++ [.issued id]) w'

/-- It ends as its program runs against the world in memory. -/
theorem Serving.finish_eq_run (deadline : Option Millis) (request : Request)
    (rest : Program Response) (past : List Happening) (w : World) :
    (finish deadline request rest past w).1.rest =
        .done (rest.run (World.handler deadline) w).1 ∧
      (finish deadline request rest past w).2.1 = (rest.run (World.handler deadline) w).2 := by
  induction rest generalizing past w with
  | done r => exact ⟨rfl, rfl⟩
  | call c span next ih => exact ih _ _ _
  | log event next ih => exact ih _ _
  | lock kind id next ih => exact ih _ _ _
  | unlock kind id next ih => exact ih _ _
  | fresh next ih => exact ih _ _ _

namespace Process

/-- Takes one of the requests to its end. -/
def finish (i : Nat) (deadline : Option Millis) (p : Process) : Process :=
  match p.servings[i]? with
  | none => p
  | some s =>
    let (s', world, made) := Serving.finish deadline s.request s.rest s.past p.world
    { world, servings := p.servings.set i s', submissions := p.submissions ++ made }

theorem advance_of_served {p : Process} {i : Nat} {s : Serving} (served : p.servings[i]? = some s)
    (delivery : Delivery) : p.advance i delivery =
      ⟨(s.step delivery p.world).2.1, p.servings.set i (s.step delivery p.world).1,
        p.submissions ++ (s.step delivery p.world).2.2⟩ := by
  rw [advance, served]

private theorem run_onward {config : BrokerConfig} {admits : Process → Request → Prop} {i : Nat}
    {delivery : Delivery} {p : Process} {s t : Serving} {w : World} {made : List Submission}
    (served : p.servings[i]? = some s)
    (takes : p.advance i delivery = ⟨w, p.servings.set i t, p.submissions ++ made⟩)
    {last : Serving × World × List Submission}
    (rest : ∀ q : Process, q.servings[i]? = some t → q.world = w →
      Run config admits q ⟨last.2.1, q.servings.set i last.1, q.submissions ++ last.2.2⟩) :
    Run config admits p
      ⟨last.2.1, p.servings.set i last.1, p.submissions ++ (made ++ last.2.2)⟩ := by
  have inside := (List.getElem?_eq_some_iff.mp served).1
  have onward := rest ⟨w, p.servings.set i t, p.submissions ++ made⟩
    (List.getElem?_set_self inside) rfl
  simp only [List.set_set, List.append_assoc] at onward
  exact .head (takes ▸ .advance p i delivery) onward

private theorem run_of_served (config : BrokerConfig) (admits : Process → Request → Prop) {i : Nat}
    (deadline : Option Millis) (request : Request) (rest : Program Response) {past : List Happening}
    {w : World} {p : Process} (served : p.servings[i]? = some ⟨request, past, rest⟩)
    (within : p.world = w) : Run config admits p
      ⟨(Serving.finish deadline request rest past w).2.1,
        p.servings.set i (Serving.finish deadline request rest past w).1,
        p.submissions ++ (Serving.finish deadline request rest past w).2.2⟩ := by
  induction rest generalizing past p w with
  | done r =>
    subst within
    simpa [Serving.finish, set_of_getElem?_eq_some served] using Relation.ReflTransGen.refl
  | call c span next ih =>
    subst within
    exact run_onward served (advance_of_served served (.inTime deadline))
      fun q isServed same => ih _ isServed same
  | log event next ih =>
    subst within
    exact run_onward served (advance_of_served served (.inTime deadline))
      fun q isServed same => ih isServed same
  | lock kind id next ih =>
    subst within
    exact run_onward served (advance_of_served served (.inTime deadline))
      fun q isServed same => ih _ isServed same
  | unlock kind id next ih =>
    subst within
    exact run_onward served (advance_of_served served (.inTime deadline))
      fun q isServed same => ih isServed same
  | fresh next ih =>
    subst within
    exact run_onward served (advance_of_served served (.inTime deadline))
      fun q isServed same => ih _ isServed same

/-- What is done in one go can be done step by step, so requests that are served one after the other
are served as their programs run. -/
theorem run_finish (config : BrokerConfig) (admits : Process → Request → Prop) (i : Nat)
    (deadline : Option Millis) (p : Process) : Run config admits p (p.finish i deadline) := by
  unfold finish
  split
  · exact .refl
  · rename_i s served
    exact run_of_served config admits deadline s.request s.rest served rfl

end Process

end ServiceBroker
