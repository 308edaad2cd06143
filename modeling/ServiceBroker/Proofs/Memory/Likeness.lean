import ServiceBroker.Proofs.Memory.Isolation

/-! What the answer to a request depends on: the deployment, the machines and the tasks of its own
instance, its own lock, and what the collaborators were told to answer. Two worlds that agree on
those answer alike, and go on agreeing, however they differ in what belongs to other instances. -/
namespace ServiceBroker

/-- With as much time left, a wait is broken off or not, and there is as much time left after it. -/
theorem wait_congr {deadline deadline' : Option Nat} {now now' : Nat}
    (left : deadline.map (· - now) = deadline'.map (· - now')) (length : Nat) :
    (wait deadline now length).1 = (wait deadline' now' length).1 ∧
      deadline.map (· - (wait deadline now length).2) =
        deadline'.map (· - (wait deadline' now' length).2) := by
  cases deadline with
  | none =>
    cases deadline' with
    | none => exact ⟨rfl, rfl⟩
    | some limit' => cases left
  | some limit =>
    cases deadline' with
    | none => cases left
    | some limit' =>
      have same : limit - now = limit' - now' := Option.some.inj left
      have unfolded (limit now : Nat) : wait (some limit) now length =
          if length = 0 ∨ now + length ≤ limit then (true, now + length)
          else (false, max now limit) := by
        simp [wait]
      rw [unfolded, unfolded]
      by_cases inTime : length = 0 ∨ now + length ≤ limit
      · have inTime' : length = 0 ∨ now' + length ≤ limit' := by omega
        have rest : limit - (now + length) = limit' - (now' + length) := by omega
        rw [if_pos inTime, if_pos inTime']
        exact ⟨rfl, congrArg some rest⟩
      · have late : ¬(length = 0 ∨ now' + length ≤ limit') := by omega
        have rest : limit - max now limit = limit' - max now' limit' := by omega
        rw [if_neg inTime, if_neg late]
        exact ⟨rfl, congrArg some rest⟩

namespace Memory

namespace Backend

/-- Two backends hold the same for one deployment and are told to do the same. -/
structure Alike (deployment : String) (b b' : Backend) : Prop where
  deployed : b.deployments.get? deployment = b'.deployments.get? deployment
  machines : b.vms.get? deployment = b'.vms.get? deployment
  tasks : (b.owned.filter fun e => e.deployment == deployment) =
    b'.owned.filter fun e => e.deployment == deployment
  next : b.nextTaskId = b'.nextTaskId
  submitted : b.submittedState = b'.submittedState
  failures : b.failures = b'.failures
  delay : b.deployDelay = b'.deployDelay

/-- Two calls were answered the same, and the backends are alike after them. -/
structure AnsweredAlike {α : Type} (deployment : String) (r r' : α × Backend) : Prop where
  answer : r.1 = r'.1
  after : r.2.Alike deployment r'.2

namespace Alike

variable {deployment : String} {b b' : Backend}

/-- They show the same tasks of the deployment. -/
theorem tasksOf_eq (alike : b.Alike deployment b') (p : BackendTask → Bool) :
    b.tasksOf deployment p = b'.tasksOf deployment p := by
  have own (l : List OwnedTask) : (l.filter fun e => p e.task && e.deployment == deployment) =
      (l.filter fun e => e.deployment == deployment).filter fun e => p e.task := by
    rw [List.filter_filter]
  rw [Backend.tasksOf_eq, Backend.tasksOf_eq, own, own, alike.tasks]

theorem addDeployment (alike : b.Alike deployment b') (manifest : String) :
    (b.addDeployment deployment manifest).Alike deployment
      (b'.addDeployment deployment manifest) where
  deployed := by
    simp only [Backend.addDeployment, NameMap.get?_insert, if_true]
  machines := alike.machines
  tasks := alike.tasks
  next := alike.next
  submitted := alike.submitted
  failures := alike.failures
  delay := alike.delay

theorem erase (alike : b.Alike deployment b') :
    ({ b with deployments := b.deployments.erase deployment } : Backend).Alike deployment
      { b' with deployments := b'.deployments.erase deployment } where
  deployed := by
    simp only [NameMap.get?_erase, if_true]
  machines := alike.machines
  tasks := alike.tasks
  next := alike.next
  submitted := alike.submitted
  failures := alike.failures
  delay := alike.delay

/-- A submission gets a task of the same number. -/
theorem submit (alike : b.Alike deployment b') (sound : b.Sound) (sound' : b'.Sound)
    (contextId description : String) :
    AnsweredAlike deployment (b.submit deployment contextId description)
      (b'.submit deployment contextId description) := by
  refine ⟨alike.next, ?_⟩
  constructor
  · exact alike.deployed
  · exact alike.machines
  · rw [(sound.adds_submit deployment contextId description).owned,
      (sound'.adds_submit deployment contextId description).owned, List.filter_append,
      List.filter_append, alike.tasks, alike.next, alike.submitted]
  · exact congrArg (· + 1) alike.next
  · exact alike.submitted
  · exact alike.failures
  · exact alike.delay

/-- A call fails in both or is carried out in both. -/
theorem unlessFailing {α : Type} (alike : b.Alike deployment b') (kind : CallKind)
    {act : Backend → Except BackendError α × Backend}
    (acts : AnsweredAlike deployment (act b) (act b')) :
    AnsweredAlike deployment (b.unlessFailing kind act) (b'.unlessFailing kind act) := by
  unfold Backend.unlessFailing
  rw [← alike.failures]
  cases b.failures kind with
  | none => exact acts
  | some e => exact ⟨rfl, alike⟩

theorem admitDeploy_eq (alike : b.Alike deployment b') {request : DeployRequest}
    (own : request.deployment = deployment) : b.admitDeploy request = b'.admitDeploy request := by
  have known : b.hasDeployment request.deployment = b'.hasDeployment request.deployment := by
    rw [hasDeployment, hasDeployment, NameMap.contains, NameMap.contains, own, alike.deployed]
  rw [Backend.admitDeploy, Backend.admitDeploy, alike.failures, known]

theorem deploy (alike : b.Alike deployment b') (sound : b.Sound) (sound' : b'.Sound)
    {request : DeployRequest} (own : request.deployment = deployment) :
    AnsweredAlike deployment (b.deploy request) (b'.deploy request) := by
  subst own
  have added := alike.addDeployment (manifestOf request)
  have submitted := added.submit (sound.congr ⟨rfl, rfl⟩ rfl) (sound'.congr ⟨rfl, rfl⟩ rfl)
    request.contextId ("deploy " ++ request.deployment)
  refine ⟨?_, submitted.after⟩
  simp only [Backend.deploy]
  rw [submitted.answer]

theorem submitErrand (alike : b.Alike deployment b') (sound : b.Sound) (sound' : b'.Sound)
    (errand : Errand) (contextId : String) :
    AnsweredAlike deployment (b.submitErrand deployment errand contextId)
      (b'.submitErrand deployment errand contextId) := by
  have submitted := alike.submit sound sound' contextId ("run errand " ++ errand.name)
  exact alike.unlessFailing .submitErrand ⟨congrArg Except.ok submitted.answer, submitted.after⟩

theorem submitDelete (alike : b.Alike deployment b') (sound : b.Sound) (sound' : b'.Sound)
    (contextId : String) :
    AnsweredAlike deployment (b.submitDelete deployment contextId)
      (b'.submitDelete deployment contextId) := by
  have submitted := alike.erase.submit (sound.congr ⟨rfl, rfl⟩ rfl) (sound'.congr ⟨rfl, rfl⟩ rfl)
    contextId ("delete deployment " ++ deployment)
  exact alike.unlessFailing .submitDelete ⟨congrArg Except.ok submitted.answer, submitted.after⟩

theorem submitRecreate (alike : b.Alike deployment b') (sound : b.Sound) (sound' : b'.Sound)
    (contextId : String) :
    AnsweredAlike deployment (b.submitRecreate deployment contextId)
      (b'.submitRecreate deployment contextId) := by
  have submitted := alike.submit sound sound' contextId ("recreate deployment " ++ deployment)
  exact alike.unlessFailing .submitRecreate ⟨congrArg Except.ok submitted.answer, submitted.after⟩

/-- A lookup that finds the same in both is answered alike. -/
theorem lookup {α : Type} (alike : b.Alike deployment b') (kind : CallKind) (look : Backend → α)
    (same : look b = look b') :
    AnsweredAlike deployment (b.unlessFailing kind fun b => (.ok (look b), b))
      (b'.unlessFailing kind fun b => (.ok (look b), b)) :=
  alike.unlessFailing kind ⟨congrArg Except.ok same, alike⟩

end Alike

end Backend

/-- Two worlds that a request with a footprint cannot tell apart: the same is held for its
deployment and its locks, the collaborators were told to answer the same, and the ids to come are
the same. -/
structure World.Alike (f : Footprint) (w v : World) : Prop where
  backend : w.backend.Alike f.deployment v.backend
  counter : w.counter = v.counter
  adapter : w.adapter = v.adapter
  secrets : w.secrets = v.secrets
  locks : ∀ key ∈ f.locks, w.locks.Held key ↔ v.locks.Held key
  ids : ∀ n, w.ids (w.issued + n) = v.ids (v.issued + n)

namespace World

variable {f : Footprint} {w v : World} {deadline deadline' : Option Millis}

/-- A submission of a deploy starts in both worlds or in neither. -/
theorem Alike.submitDeploy (alike : w.Alike f v) (sound : w.backend.Sound)
    (sound' : v.backend.Sound) (left : deadline.map (· - w.now) = deadline'.map (· - v.now))
    {request : DeployRequest} (own : request.deployment = f.deployment) :
    (w.submitDeploy deadline request).1 = (v.submitDeploy deadline' request).1 ∧
      (w.submitDeploy deadline request).2.backend.Alike f.deployment
        (v.submitDeploy deadline' request).2.backend ∧
      deadline.map (· - (w.submitDeploy deadline request).2.now) =
        deadline'.map (· - (v.submitDeploy deadline' request).2.now) := by
  have deployed := alike.backend.deploy sound sound' own
  obtain ⟨inTime, rest⟩ := wait_congr left (w.backend.deployDelay.getD 0)
  unfold World.submitDeploy
  rw [← alike.backend.admitDeploy_eq own, ← alike.backend.delay]
  cases w.backend.admitDeploy request with
  | error failure => exact ⟨rfl, alike.backend, left⟩
  | ok =>
    simp only
    rw [← inTime]
    split
    · exact ⟨congrArg Except.ok deployed.answer, deployed.after, rest⟩
    · exact ⟨rfl, alike.backend, rest⟩

/-- A call inside of the footprint is answered alike, and there is as much time left after it. That
does not go for the question for a task by its number, which may be a task of any deployment. -/
theorem Alike.answered (alike : w.Alike f v) (sound : w.backend.Sound) (sound' : v.backend.Sound)
    (left : deadline.map (· - w.now) = deadline'.map (· - v.now)) {k : CallKind} {c : Call k}
    (own : ∀ name, AnyCall.deployment? ⟨k, c⟩ = some name → name = f.deployment)
    (looks : k ≠ .getTask) :
    (serve deadline c w).1 = (serve deadline' c v).1 ∧
      (serve deadline c w).2.backend.Alike f.deployment (serve deadline' c v).2.backend ∧
      deadline.map (· - (serve deadline c w).2.now) =
        deadline'.map (· - (serve deadline' c v).2.now) := by
  have both {α : Type} {a a' : Except BackendError α × Backend}
      (same : Backend.AnsweredAlike f.deployment a a') :
      a.1 = a'.1 ∧ a.2.Alike f.deployment a'.2 ∧
        deadline.map (· - w.now) = deadline'.map (· - v.now) := ⟨same.answer, same.after, left⟩
  cases c with
  | submitDeploy request =>
    let asked (u : World) : World := { u with calls := u.calls ++ [⟨_, .submitDeploy request⟩] }
    have same : (asked w).Alike f (asked v) :=
      ⟨alike.backend, alike.counter, alike.adapter, alike.secrets, alike.locks, alike.ids⟩
    exact same.submitDeploy sound sound' left (own _ rfl)
  | submitErrand name errand contextId =>
    obtain rfl := own name rfl
    exact both (alike.backend.submitErrand sound sound' errand contextId)
  | submitDelete name contextId force =>
    obtain rfl := own name rfl
    exact both (alike.backend.submitDelete sound sound' contextId)
  | submitRecreate name contextId =>
    obtain rfl := own name rfl
    exact both (alike.backend.submitRecreate sound sound' contextId)
  | getTask id => exact absurd rfl looks
  | getTasksByContext name contextId =>
    obtain rfl := own name rfl
    exact both (alike.backend.lookup .getTasksByContext
      (fun b => b.tasksOf f.deployment fun task => task.contextId == contextId)
      (alike.backend.tasksOf_eq _))
  | getTasksInProgress name =>
    obtain rfl := own name rfl
    exact both (alike.backend.lookup .getTasksInProgress
      (fun b => b.tasksOf f.deployment fun task => !task.state.isTerminal)
      (alike.backend.tasksOf_eq _))
  | getDeployment name =>
    obtain rfl := own name rfl
    exact both (alike.backend.lookup .getDeployment
      (fun b => b.deployments.get? f.deployment) alike.backend.deployed)
  | getVms name =>
    obtain rfl := own name rfl
    exact both (alike.backend.lookup .getVms
      (fun b => (b.vms.get? f.deployment).getD .empty)
      (congrArg (fun held => held.getD .empty) alike.backend.machines))
  | deleteConfigs name => exact both (alike.backend.lookup .deleteConfigs (fun _ => ()) rfl)
  | countPlan planId =>
    exact ⟨congrArg (fun c : Counter => unlessFailed c.failure ((c.counts.get? planId).getD 0))
      alike.counter, alike.backend, left⟩
  | countOffering =>
    exact ⟨congrArg (fun c : Counter => unlessFailed c.failure c.counts) alike.counter,
      alike.backend, left⟩
  | dashboardUrl => exact ⟨congrArg Adapter.dashboardUrl alike.adapter, alike.backend, left⟩
  | createBinding => exact ⟨congrArg Adapter.binding alike.adapter, alike.backend, left⟩
  | deleteBinding => exact ⟨congrArg Adapter.unbinding alike.adapter, alike.backend, left⟩
  | resolveSecrets =>
    exact ⟨congrArg (fun s : SecretStore => unlessFailed s.resolveFailure s.secrets) alike.secrets,
      alike.backend, left⟩
  | deleteSecrets =>
    exact ⟨congrArg (fun s : SecretStore => unlessFailed s.deleteFailure ()) alike.secrets,
      alike.backend, left⟩

/-- Such a call leaves the worlds alike. -/
theorem Alike.serve (alike : w.Alike f v) {k : CallKind} {c : Call k}
    (backend : (serve deadline c w).2.backend.Alike f.deployment (serve deadline' c v).2.backend) :
    (serve deadline c w).2.Alike f (serve deadline' c v).2 := by
  obtain ⟨b, now, frame⟩ := serve_frame w deadline c
  obtain ⟨b', now', frame'⟩ := serve_frame v deadline' c
  rw [frame, frame'] at backend ⊢
  exact ⟨backend, alike.counter, alike.adapter, alike.secrets, alike.locks, alike.ids⟩

theorem Alike.note (alike : w.Alike f v) (event event' : Log.Event) :
    (w.note event).Alike f (v.note event') :=
  ⟨alike.backend, alike.counter, alike.adapter, alike.secrets, alike.locks, alike.ids⟩

/-- A lock of the footprint is free in both worlds or in neither. -/
theorem Alike.acquire (alike : w.Alike f v) {kind : LockKind} {id : String}
    (listed : ⟨kind, id⟩ ∈ f.locks) :
    (w.acquire kind id).1 = (v.acquire kind id).1 ∧
      (w.acquire kind id).2.Alike f (v.acquire kind id).2 := by
  have barred (l : Locks) : l.acquire? kind id = none ↔ l.Held ⟨kind, id⟩ :=
    @Locks.acquire?_eq_none_iff l ⟨kind, id⟩
  have same : w.locks.acquire? kind id = none ↔ v.locks.acquire? kind id = none := by
    rw [barred, barred, alike.locks _ listed]
  unfold World.acquire
  cases taken : w.locks.acquire? kind id with
  | none =>
    rw [same.mp taken]
    exact ⟨rfl, alike⟩
  | some l =>
    cases taken' : v.locks.acquire? kind id with
    | none =>
      rw [same.mpr taken'] at taken
      cases taken
    | some l' =>
      refine ⟨rfl, alike.backend, alike.counter, alike.adapter, alike.secrets, ?_, alike.ids⟩
      intro key member
      have held : l.Held key ↔ key = ⟨kind, id⟩ ∨ w.locks.Held key :=
        Locks.held_of_acquire? taken
      have held' : l'.Held key ↔ key = ⟨kind, id⟩ ∨ v.locks.Held key :=
        Locks.held_of_acquire? taken'
      change l.Held key ↔ l'.Held key
      rw [held, held', alike.locks key member]

theorem Alike.release (alike : w.Alike f v) (kind : LockKind) (id : String) :
    (w.release kind id).Alike f (v.release kind id) where
  backend := alike.backend
  counter := alike.counter
  adapter := alike.adapter
  secrets := alike.secrets
  locks key member := by
    have held (u : World) :
        (u.release kind id).locks.Held key ↔ key ≠ ⟨kind, id⟩ ∧ u.locks.Held key :=
      @Locks.held_release u.locks ⟨kind, id⟩ key
    rw [held, held, alike.locks key member]
  ids := alike.ids

theorem Alike.issue (alike : w.Alike f v) :
    w.issue.1 = v.issue.1 ∧ w.issue.2.Alike f v.issue.2 := by
  refine ⟨alike.ids 0, alike.backend, alike.counter, alike.adapter, alike.secrets, alike.locks, ?_⟩
  intro n
  have next := alike.ids (1 + n)
  rwa [← Nat.add_assoc, ← Nat.add_assoc] at next

end World

end Memory

open Memory

/-- In worlds that it cannot tell apart a program comes to the same result, if it asks for no task
by its number. -/
theorem Program.StaysIn.run_congr {α : Type} {f : Footprint} {p : Program α} (stays : p.StaysIn f)
    (looks : .getTask ∉ f.kinds) {deadline deadline' : Option Millis} {w v : World}
    (alike : w.Alike f v) (sound : w.backend.Sound) (sound' : v.backend.Sound)
    (left : deadline.map (· - w.now) = deadline'.map (· - v.now)) :
    (p.run (World.handler deadline) w).1 = (p.run (World.handler deadline') v).1 := by
  induction stays generalizing w v with
  | done a => rfl
  | @call k c span next covered _ ih =>
    have other : k ≠ .getTask := by
      rintro rfl
      exact looks covered.kind
    obtain ⟨same, backend, rest⟩ := alike.answered sound sound' left covered.deployment other
    obtain ⟨_, effect, _⟩ := World.answered_serve sound deadline c
    obtain ⟨_, effect', _⟩ := World.answered_serve sound' deadline' c
    have onward := ih (World.serve deadline c w).1 (alike.serve backend) (effect.sound sound)
      (effect'.sound sound') rest
    change ((next (World.serve deadline c w).1).run _ (World.serve deadline c w).2).1 =
      ((next (World.serve deadline' c v).1).run _ (World.serve deadline' c v).2).1
    rw [← same]
    exact onward
  | log event _ ih => exact ih (alike.note event event) sound sound' left
  | @lock kind id next listed _ ih =>
    have kept (u : World) :
        (u.acquire kind id).2.backend = u.backend ∧ (u.acquire kind id).2.now = u.now := by
      obtain ⟨locks, frame⟩ := u.acquire_frame kind id
      rw [frame]
      exact ⟨rfl, rfl⟩
    obtain ⟨same, after⟩ := alike.acquire listed
    change ((next (w.acquire kind id).1).run _ (w.acquire kind id).2).1 =
      ((next (v.acquire kind id).1).run _ (v.acquire kind id).2).1
    rw [← same]
    refine ih (w.acquire kind id).1 after ?_ ?_ ?_
    · rwa [(kept w).1]
    · rwa [(kept v).1]
    · rwa [(kept w).2, (kept v).2]
  | @unlock kind id _ _ _ ih => exact ih (alike.release kind id) sound sound' left
  | @fresh next _ ih =>
    obtain ⟨same, after⟩ := alike.issue
    change ((next w.issue.1).run _ w.issue.2).1 = ((next v.issue.1).run _ v.issue.2).1
    rw [← same]
    exact ih w.issue.1 after sound sound' left

namespace Request

/-- Only a poll asks for a task by its number. -/
theorem getTask_not_mem_callKinds {request : Request} (opens : request.polled? = none) :
    .getTask ∉ request.callKinds := by
  cases request with
  | lastOperation => cases opens
  | _ => simp [callKinds]

/-- The instances do not meet. The calls of a request name no deployment but that of its instance,
and no other deployment and no task that exists is changed; what it adds belongs to its instance.
Unless it is a poll, its result is the same in any world that is alike for its own instance. -/
theorem isolated (config : BrokerConfig) (request : Request) (deadline : Option Millis) {w : World}
    (reachable : w.backend.Reachable) :
    w.Confined (config.settings.deploymentPrefix ++ request.instanceId)
        ((request.program config).run (World.handler deadline) w).2 ∧
      (request.polled? = none → ∀ {deadline' : Option Millis} {v : World}, v.backend.Reachable →
        w.Alike (request.footprint config) v →
        deadline.map (· - w.now) = deadline'.map (· - v.now) →
          ((request.program config).run (World.handler deadline) w).1 =
            ((request.program config).run (World.handler deadline') v).1) := by
  have stays := request.staysIn_program config
  refine ⟨stays.confined deadline reachable.sound, ?_⟩
  intro opens deadline' v reachable' alike left
  have looks := getTask_not_mem_callKinds opens
  exact stays.run_congr looks alike reachable.sound reachable'.sound left

/-- An instance that is alone. -/
def aloneWorld : World :=
  { ids := fun _ => "c"
    backend := ({} : Backend).addDeployment "d-i" "" }

/-- Beside the instance another one is being worked on. -/
def crowdedWorld : World :=
  { aloneWorld with
    backend := (aloneWorld.backend.addDeployment "d-j" "").addTask "d-j"
      { id := 7, state := .processing }
    locks := { instances := { held := ["j"], distinct := by decide } } }

def isolatedConfig : BrokerConfig :=
  { settings := { deploymentPrefix := "d-" }
    offering := { id := "s", name := "n", plans := [{ id := "p", name := "p" }] } }

def isolatedDeletion : Request :=
  .deprovision "r" "i" { serviceId := "s", planId := "p", force := false } true

/-- A deletion goes as if the other instance were not there. -/
theorem isolated_crowdedWorld :
    aloneWorld.Confined "d-i" ((isolatedDeletion.program isolatedConfig).run
        (World.handler none) aloneWorld).2 ∧
      ((isolatedDeletion.program isolatedConfig).run (World.handler none) aloneWorld).1 =
        ((isolatedDeletion.program isolatedConfig).run (World.handler none) crowdedWorld).1 := by
  have reachable : aloneWorld.backend.Reachable := .addDeployment .empty "d-i" ""
  have alike : aloneWorld.Alike (isolatedDeletion.footprint isolatedConfig) crowdedWorld :=
    { backend := ⟨by decide, rfl, rfl, rfl, rfl, rfl, rfl⟩
      counter := rfl
      adapter := rfl
      secrets := rfl
      locks := by decide
      ids := fun _ => rfl }
  obtain ⟨confined, same⟩ := isolated isolatedConfig isolatedDeletion none reachable
  refine ⟨confined, same rfl ?_ alike rfl⟩
  exact .addTask (.addDeployment reachable "d-j" "") "d-j" (by decide)

end Request

end ServiceBroker
