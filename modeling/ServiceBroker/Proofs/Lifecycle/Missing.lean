import ServiceBroker.Proofs.Broker.Openings
import ServiceBroker.Proofs.Broker.Transcript

/-! Deletions of instances that are not there. What such an instance left behind is removed first,
and a failure to do so takes the place of the answer that there is no such instance; but some failures
of the backend come out as just that answer. -/
namespace ServiceBroker

/-- The backend gives as its reason that something is missing, which stands for a missing instance
whatever the backend was asked for. -/
def BackendError.meansMissing : BackendError → Bool
  | deploymentNotFound _ => true
  | adapter error => error = .notFound
  | _ => false

/-- A failure of the backend is told as a missing instance exactly if it says that something is
missing. -/
theorem Refusal.sentinel?_ofBackend (about : Correlation) (e : BackendError) :
    (ofBackend about e).error.sentinel? = some .instanceDoesNotExist ↔ e.meansMissing := by
  cases e with
  | deploymentNotFound name => exact iff_of_true rfl rfl
  | adapter error =>
    cases error with
    | notFound => exact iff_of_true rfl rfl
    | _ => exact iff_of_false (fun same => nomatch same) (fun means => nomatch means)
  | _ => exact iff_of_false (fun same => nomatch same) (fun means => nomatch means)

/-- The configuration and the secrets of a deployment were removed. -/
structure Cleaned (deployment : String) (past : List Happening) : Prop where
  configs : .answered (.deleteConfigs deployment) (.ok ()) ∈ past
  secrets : .answered (.deleteSecrets deployment) (.ok ()) ∈ past

/-- The configuration of a deployment was not removed, for the reason that something is missing. -/
def Obscured (deployment : String) (past : List Happening) : Prop :=
  ∃ failure : BackendError,
    .answered (.deleteConfigs deployment) (.error failure) ∈ past ∧ failure.meansMissing

/-- A refusal before which nothing was submitted, and what it means if it says that there is no such
instance. -/
structure RefusedMissing (deployment : String) (past : List Happening) (e : BrokerError) :
    Prop where
  unsubmitted : ∀ c ∈ past.filterMap Happening.call?, c.submits? = none
  sentinel : e.sentinel? = some .instanceDoesNotExist ↔
    Cleaned deployment past ∨ Obscured deployment past

namespace Broker

open Procedure Steps

variable {deployment : String}

/-- How a deletion ends if there turns out to be no deployment. -/
def EndsMissing {α : Type} (deployment : String) (past : List Happening)
    (result : Except BrokerError α) : Prop :=
  (∀ answer, .answered (.getDeployment deployment) answer ∈ past → answer = .ok none) →
    ∃ e, result = .error e ∧ RefusedMissing deployment past e

/-- A refusal before anything was asked. -/
theorem refusedMissing_nil {e : BrokerError}
    (other : e.sentinel? ≠ some .instanceDoesNotExist) : RefusedMissing deployment [] e where
  unsubmitted _ impossible := nomatch impossible
  sentinel := by
    refine iff_of_false other ?_
    rintro (⟨impossible, _⟩ | ⟨_, impossible, _⟩) <;> cases impossible

/-- The course of a cleanup that works. -/
def cleaning (deployment : String) : List Happening :=
  [.answered (.getDeployment deployment) (.ok none), .answered (.deleteConfigs deployment) (.ok ()),
    .answered (.deleteSecrets deployment) (.ok ())]

theorem cleaned_cleaning (deployment : String) : Cleaned deployment (cleaning deployment) :=
  ⟨by simp [cleaning], by simp [cleaning]⟩

/-- After a cleanup that worked, a refusal may well say that there is no such instance. -/
theorem refusedMissing_cleaning {e : BrokerError}
    (missing : e.sentinel? = some .instanceDoesNotExist) :
    RefusedMissing deployment (cleaning deployment) e where
  unsubmitted := by simp [cleaning, Happening.call?, AnyCall.submits?]
  sentinel := iff_of_true missing (.inl (cleaned_cleaning deployment))

/-- What was left behind is removed, or the reason why not is told. -/
theorem meets_cleanUp (about : Correlation) :
    (cleanUp about deployment).run.Meets (fun _ _ => True)
      (fun later result => match result with
        | .ok () => later = cleaning deployment
        | .error e => RefusedMissing deployment later e)
      [.answered (.getDeployment deployment) (.ok none)] := by
  refine meets_ask_bind (.deleteConfigs deployment) _ _ trivial (fun _ => ?_) fun e => ?_
  · refine meets_ask_bind (.deleteSecrets deployment) _ _ trivial (fun _ => rfl) fun e => ?_
    refine ⟨?_, iff_of_false (fun same => nomatch same) ?_⟩
    · simp [Happening.call?, AnyCall.submits?]
    · rintro (⟨_, removed⟩ | ⟨failure, failed, _⟩)
      · simp at removed
      · simp at failed
  · refine ⟨?_, (Refusal.sentinel?_ofBackend about e).trans ⟨?_, ?_⟩⟩
    · simp [Happening.call?, AnyCall.submits?]
    · exact fun means => .inr ⟨e, List.mem_append_right _ (List.mem_singleton_self _), means⟩
    · rintro (⟨removed, _⟩ | ⟨failure, failed, means⟩)
      · simp at removed
      · rcases List.mem_append.mp failed with first | last
        · nomatch List.mem_singleton.mp first
        · injection List.mem_singleton.mp last with _ _ same
          exact Except.error.inj same ▸ means

/-- A deletion of an instance that turns out to have no deployment. -/
theorem meets_deprovision_missing (config : BrokerConfig) (requestId instanceId : String)
    (details : DeprovisionDetails) (asyncAllowed : Bool) :
    (deprovision config requestId instanceId details asyncAllowed).run.Meets (fun _ _ => True)
      (EndsMissing (config.deploymentName instanceId)) [] := by
  unfold deprovision
  rw [meets_within_procedure]
  split
  · rw [meets_holding]
    refine ⟨?_, fun _ => ⟨_, rfl, refusedMissing_nil (fun same => nomatch same)⟩⟩
    refine meets_ask_bind (.getDeployment _) _ _ trivial (fun found => ?_) fun e missing => ?_
    · cases found with
      | none =>
        refine (Program.meets_bind _ _).mpr ((meets_cleanUp _).mono (fun _ _ _ _ => trivial) ?_)
        rintro later (e | _) _ ended
        · exact fun _ => ⟨e, rfl, ended⟩
        · subst ended
          exact fun _ => ⟨_, rfl, refusedMissing_cleaning rfl⟩
      | some held =>
        refine (Program.meets_extends _ _).mono (fun _ _ _ _ => trivial) ?_
        intro later _ _ before missing
        nomatch missing _ (before.subset (List.mem_singleton_self _))
    · nomatch missing _ (List.mem_singleton_self _)
  · exact fun _ => ⟨_, rfl, refusedMissing_nil (fun same => nomatch same)⟩

/-- A deletion of an instance without a deployment submits nothing and is refused. The refusal says
that there is no such instance if and only if what the instance left behind was removed, or the
backend did not remove the configuration for a reason that sounds the same. -/
theorem missing_told_iff {σ : Type} (h : Program.Handler σ) (s : σ) {config : BrokerConfig}
    {requestId instanceId : String} {details : DeprovisionDetails} {asyncAllowed : Bool}
    (missing : ∀ answer, .answered (.getDeployment (config.deploymentName instanceId)) answer ∈
      (deprovision config requestId instanceId details asyncAllowed).run.transcript h s →
        answer = .ok none) :
    ∃ e, ((deprovision config requestId instanceId details asyncAllowed).run.run h s).1 = .error e ∧
      RefusedMissing (config.deploymentName instanceId)
        ((deprovision config requestId instanceId details asyncAllowed).run.transcript h s) e :=
  (meets_deprovision_missing config requestId instanceId details asyncAllowed).transcript h s missing

def bareConfig : BrokerConfig :=
  { settings := { deploymentPrefix := "d-" }, offering := { id := "s", name := "n" } }

def bareDeletion : Procedure BrokerError AcceptedOperation :=
  deprovision bareConfig "r" "i" { serviceId := "s", planId := "p" } true

/-- A world without deployments, where removing configuration fails or not. -/
def bareWorld (failure : Option BackendError) : Memory.World :=
  { backend := ({} : Memory.Backend).setFailure .deleteConfigs failure, ids := fun _ => "c" }

theorem missing_told_iff_sample : ∃ e,
    (bareDeletion.run.run (Memory.World.handler none) (bareWorld none)).1 = .error e ∧
      e.sentinel? = some .instanceDoesNotExist := by
  have course : bareDeletion.run.transcript (Memory.World.handler none) (bareWorld none) =
      cleaning "d-i" := rfl
  have missing : ∀ answer, .answered (.getDeployment "d-i") answer ∈
      bareDeletion.run.transcript (Memory.World.handler none) (bareWorld none) →
        answer = .ok none := by
    intro answer member
    rw [course] at member
    simpa [cleaning] using member
  obtain ⟨e, refused, told⟩ := missing_told_iff (Memory.World.handler none) (bareWorld none) missing
  exact ⟨e, refused, told.sentinel.mpr (.inl (course ▸ cleaned_cleaning "d-i"))⟩

/-- The configuration of the instance is not removed and its secrets are not touched, and still the
answer is that there is no such instance. -/
def Hidden (failure : BackendError) : Prop :=
  ∃ e, (bareDeletion.run.run (Memory.World.handler none) (bareWorld (some failure))).1 = .error e ∧
    e.sentinel? = some .instanceDoesNotExist ∧
    (bareDeletion.run.transcript (Memory.World.handler none) (bareWorld (some failure))) =
      [.answered (.getDeployment "d-i") (.ok none),
        .answered (.deleteConfigs "d-i") (.error failure)]

theorem cleanup_failure_hidden : Hidden (.deploymentNotFound "d-i") ∧ Hidden (.adapter .notFound) :=
  ⟨⟨_, rfl, rfl, rfl⟩, ⟨_, rfl, rfl, rfl⟩⟩

end Broker

end ServiceBroker
