import ServiceBroker.Proofs.Broker.Footprint
import ServiceBroker.Proofs.Catalog.Entries
import ServiceBroker.Proofs.Memory.Account
import ServiceBroker.Proofs.Memory.Reachable

/-! What a request changes in a backend that it shares with others: the deployment of its own instance
and nothing else. Its calls name no other deployment, and all tasks that it adds belong to its own. -/
namespace ServiceBroker

namespace NameMap

variable {α : Type}

private theorem findEntry_filter (name wanted : String) (entries : List (String × α)) :
    findEntry wanted (entries.filter fun e => e.1 != name) =
      if wanted = name then none else findEntry wanted entries := by
  induction entries with
  | nil => simp [findEntry]
  | cons head rest ih =>
    obtain ⟨key, held⟩ := head
    by_cases gone : key = name
    · subst gone
      rw [List.filter_cons_of_neg (by simp), ih, findEntry]
      by_cases same : wanted = key
      · simp [same]
      · simp [same, Ne.symm same]
    · rw [List.filter_cons_of_pos (by simpa using gone), findEntry, findEntry, ih]
      by_cases same : key = wanted
      · subst same
        simp [gone]
      · simp [same]

theorem get?_erase (m : NameMap α) (name wanted : String) :
    (m.erase name).get? wanted = if wanted = name then none else m.get? wanted :=
  findEntry_filter name wanted m.entries

end NameMap

theorem AnyCall.deployment?_of_submits? {c : AnyCall} {deployment contextId : String}
    (submits : c.submits? = some (deployment, contextId)) : c.deployment? = some deployment := by
  obtain ⟨k, c⟩ := c
  cases c <;> cases submits <;> rfl

namespace Memory

/-- Nothing has changed but the deployment, which may be new, gone or another one, and new tasks of
it. -/
structure Backend.Confined (deployment : String) (before after : Backend) : Prop where
  others : ∀ name, name ≠ deployment →
    after.deployments.get? name = before.deployments.get? name
  machines : after.vms = before.vms
  tasks : ∃ added, after.tasks = before.tasks ++ added ∧
    ∀ task ∈ added, after.owners task.id = some deployment
  owners : ∀ task ∈ before.tasks, after.owners task.id = before.owners task.id

namespace Backend.Confined

variable {deployment : String} {a b c : Backend}

theorem refl (deployment : String) (b : Backend) : b.Confined deployment b where
  others _ _ := rfl
  machines := rfl
  tasks := ⟨[], by simp⟩
  owners _ _ := rfl

theorem trans (first : a.Confined deployment b) (second : b.Confined deployment c) :
    a.Confined deployment c where
  others name other := (second.others name other).trans (first.others name other)
  machines := second.machines.trans first.machines
  tasks := by
    obtain ⟨added, all, own⟩ := first.tasks
    obtain ⟨more, all', own'⟩ := second.tasks
    refine ⟨added ++ more, by rw [all', all, List.append_assoc], fun task member => ?_⟩
    rcases List.mem_append.mp member with early | late
    · rw [second.owners task (all ▸ List.mem_append_right _ early)]
      exact own task early
    · exact own' task late
  owners task held := by
    obtain ⟨added, all, _⟩ := first.tasks
    rw [second.owners task (all ▸ List.mem_append_left _ held), first.owners task held]

end Backend.Confined

/-- What a call does to the deployments: nothing to any but the one it names, and nothing to the
machines. -/
def Backend.SparesOthers (name : String) (before after : Backend) : Prop :=
  (∀ other, other ≠ name → after.deployments.get? other = before.deployments.get? other) ∧
    after.vms = before.vms

theorem Backend.SparesOthers.of_eq {name : String} {before after : Backend} (same : after = before) :
    before.SparesOthers name after := by
  rw [same]
  exact ⟨fun _ _ => rfl, rfl⟩

theorem Backend.spares_unlessFailing {α : Type} {name : String} (b : Backend) (kind : CallKind)
    {act : Backend → Except BackendError α × Backend} (spares : b.SparesOthers name (act b).2) :
    b.SparesOthers name (b.unlessFailing kind act).2 := by
  obtain done | ⟨e, failed⟩ := unlessFailing_cases b kind act
  · rw [done]
    exact spares
  · rw [failed]
    exact .of_eq rfl

namespace World

/-- A call changes no deployment but the one that it names. -/
theorem spares_serve (w : World) (deadline : Option Millis) {k : CallKind} (c : Call k)
    {deployment : String} (own : ∀ name, AnyCall.deployment? ⟨k, c⟩ = some name → name = deployment) :
    w.backend.SparesOthers deployment (serve deadline c w).2.backend := by
  cases c with
  | submitDeploy request =>
    let asked : World := { w with calls := w.calls ++ [⟨_, .submitDeploy request⟩] }
    change w.backend.SparesOthers deployment (asked.submitDeploy deadline request).2.backend
    obtain ⟨now, ⟨e, failed⟩ | done⟩ := asked.submitDeploy_cases deadline request
    · rw [failed]
      exact .of_eq rfl
    · rw [done]
      refine ⟨fun other different => ?_, rfl⟩
      change (w.backend.deployments.insert request.deployment _).get? other = _
      rw [NameMap.get?_insert, if_neg]
      rwa [own request.deployment rfl]
  | submitErrand name errand contextId =>
    change w.backend.SparesOthers deployment (w.backend.submitErrand name errand contextId).2
    refine Backend.spares_unlessFailing w.backend .submitErrand ?_
    exact ⟨fun _ _ => rfl, rfl⟩
  | submitRecreate name contextId =>
    change w.backend.SparesOthers deployment (w.backend.submitRecreate name contextId).2
    refine Backend.spares_unlessFailing w.backend .submitRecreate ?_
    exact ⟨fun _ _ => rfl, rfl⟩
  | submitDelete name contextId force =>
    change w.backend.SparesOthers deployment (w.backend.submitDelete name contextId).2
    refine Backend.spares_unlessFailing w.backend .submitDelete ⟨fun other different => ?_, rfl⟩
    change (w.backend.deployments.erase name).get? other = _
    rw [NameMap.get?_erase, if_neg]
    rwa [own name rfl]
  | _ => exact .of_eq (backend_serve rfl)

theorem confined_serve {w : World} (sound : w.backend.Sound) (deadline : Option Millis)
    {k : CallKind} (c : Call k) {deployment : String}
    (own : ∀ name, AnyCall.deployment? ⟨k, c⟩ = some name → name = deployment) :
    w.backend.Confined deployment (serve deadline c w).2.backend := by
  obtain ⟨others, machines⟩ := w.spares_serve deadline c own
  obtain ⟨id, effect, _⟩ := answered_serve sound deadline c
  cases effect with
  | none kept _ =>
    refine ⟨others, machines, ⟨[], ?_, fun _ impossible => nomatch impossible⟩, fun _ _ => ?_⟩
    · rw [kept.tasks, List.append_nil]
    · rw [kept.owners]
  | @created name contextId task submits _ _ adds _ =>
    refine ⟨others, machines, ⟨[task], adds.tasks, fun t member => ?_⟩, fun t held => ?_⟩
    · rw [List.mem_singleton.mp member, adds.owner,
        own name (AnyCall.deployment?_of_submits? submits)]
    · exact adds.others t.id (Nat.ne_of_lt (adds.above t held))

/-- What a request has done: its calls named one deployment, and nothing but that has changed. -/
structure Confined (deployment : String) (before after : World) : Prop where
  calls : ∃ made, after.calls = before.calls ++ made ∧
    ∀ c ∈ made, ∀ name, c.deployment? = some name → name = deployment
  backend : before.backend.Confined deployment after.backend

/-- Steps that leave the backend and the calls alone may come first. -/
theorem Confined.of_same {deployment : String} {w v after : World} (calls : v.calls = w.calls)
    (backend : v.backend = w.backend) (confined : v.Confined deployment after) :
    w.Confined deployment after :=
  ⟨calls ▸ confined.calls, backend ▸ confined.backend⟩

end World

end Memory

open Memory

namespace Program

variable {α : Type} {f : Footprint} {p : Program α}

/-- What a program does inside its footprint. -/
theorem StaysIn.confined (stays : p.StaysIn f) (deadline : Option Millis) {w : World}
    (sound : w.backend.Sound) :
    w.Confined f.deployment (p.run (World.handler deadline) w).2 := by
  induction stays generalizing w with
  | done a => exact ⟨⟨[], by simp [run]⟩, .refl _ _⟩
  | @call k c span next covered _ ih =>
    have effect := World.confined_serve sound deadline c covered.deployment
    have later : (World.serve deadline c w).2.backend.Sound := by
      obtain ⟨_, effect, _⟩ := World.answered_serve sound deadline c
      exact effect.sound sound
    obtain ⟨⟨made, calls, own⟩, rest⟩ := ih (World.serve deadline c w).1 later
    refine ⟨⟨⟨k, c⟩ :: made, ?_, ?_⟩, effect.trans rest⟩
    · have recorded : (World.serve deadline c w).2.calls = w.calls ++ [⟨k, c⟩] := by
        obtain ⟨_, _, frame⟩ := World.serve_frame w deadline c
        rw [frame]
      rw [recorded, List.append_assoc] at calls
      exact calls
    · intro c' member
      rcases List.mem_cons.mp member with rfl | more
      · exact covered.deployment
      · exact own c' more
  | @log event _ _ ih => exact .of_same (v := w.note event) rfl rfl (ih sound)
  | @lock kind id next _ _ ih =>
    obtain ⟨locks, frame⟩ := w.acquire_frame kind id
    have onward := ih (w.acquire kind id).1 (w := { w with locks }) sound
    rw [← frame] at onward
    exact .of_same (by rw [frame]) (by rw [frame]) onward
  | @unlock kind id _ _ _ ih => exact .of_same (v := w.release kind id) rfl rfl (ih sound)
  | fresh _ ih => exact .of_same (v := w.issue.2) rfl rfl (ih (w.ids w.issued) sound)

end Program

end ServiceBroker
