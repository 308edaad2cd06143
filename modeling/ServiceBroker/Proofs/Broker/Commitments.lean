import ServiceBroker.Proofs.Broker.Openings

/-! Requests that open an operation do so or fail. Everything that may turn such a request down is
asked before its submission, and after the submission nothing can go wrong any more: an error says
that no submission was answered with a task, and a token that exactly one was made and answered. -/
namespace ServiceBroker

/-- Nothing got a task. -/
def Uncreated (past : List Happening) : Prop := ∀ h ∈ past, h.created? = none

/-- One submission was made, and it got a task. -/
def CreatedOnce (past : List Happening) : Prop :=
  ∃ before made after, past = before ++ made :: after ∧ (∀ h ∈ before ++ after, h.isPreliminary) ∧
    made.created?.isSome

theorem created?_of_preliminary {h : Happening} (preliminary : h.isPreliminary) :
    h.created? = none := by
  cases h with
  | issued => rfl
  | answered c answer =>
    cases c with
    | submitDeploy | submitErrand | submitDelete | submitRecreate => cases preliminary
    | _ => rfl

/-- A call that failed got no task. -/
theorem created?_error {k : CallKind} (c : Call k) (e : k.Failure) :
    (Happening.answered c (.error e)).created? = none := by
  cases c <;> rfl

theorem uncreated_of_preliminary {past : List Happening}
    (preliminary : ∀ h ∈ past, h.isPreliminary) : Uncreated past := fun h member => created?_of_preliminary (preliminary h member)

theorem Quietly.preliminary {past later : List Happening} (quietly : Quietly past later)
    (preliminary : ∀ h ∈ past, h.isPreliminary) : ∀ h ∈ later, h.isPreliminary := by
  obtain ⟨extra, rfl, quiet⟩ := quietly
  intro h member
  exact (List.mem_append.mp member).elim (preliminary h) (quiet h)

/-- What comes quietly after a single submission. -/
theorem CreatedOnce.quietly {past later : List Happening} (once : CreatedOnce past)
    (quietly : Quietly past later) : CreatedOnce later := by
  obtain ⟨before, made, after, rfl, preliminary, created⟩ := once
  obtain ⟨extra, rfl, quiet⟩ := quietly
  refine ⟨before, made, after ++ extra, by simp, fun h member => ?_, created⟩
  rw [← List.append_assoc] at member
  exact (List.mem_append.mp member).elim (preliminary h) (quiet h)

namespace Procedure

variable {ε α β : Type} {past : List Happening}

/-- How a procedure may end: with an error and nothing created, or with a value and one submission.
-/
inductive Settled {α : Type} (past : List Happening) : Except BrokerError α → Prop where
  | refused {e : BrokerError} (nothing : Uncreated past) : Settled past (.error e)
  | committed {a : α} (once : CreatedOnce past) : Settled past (.ok a)

/-- After nothing but preliminaries, a procedure commits itself with one submission or fails without
any. -/
def Commits (body : Procedure BrokerError α) : Prop :=
  ∀ past, (∀ h ∈ past, h.isPreliminary) → body.run.Meets (fun _ _ => True) Settled past

/-- A procedure that submits nothing and cannot fail. -/
def Sure (body : Procedure ε α) : Prop :=
  ∀ past, body.run.Meets (fun _ _ => True)
    (fun later result => Quietly past later ∧ ∃ a, result = .ok a) past

theorem sure_pure (a : α) : (pure a : Procedure ε α).Sure := fun past => ⟨Quietly.refl past, a, rfl⟩

theorem sure_note (event : Log.Event) : (note event : Procedure ε Unit).Sure :=
  fun past => ⟨Quietly.refl past, (), rfl⟩

/-- The answer to a preliminary call may be a failure, if it is not made an error. -/
theorem sure_attempt {k : CallKind} (c : Call k) (quiet : AnyCall.isPreliminary ⟨k, c⟩) :
    (attempt c : Procedure ε k.Answer).Sure :=
  fun past => ⟨trivial, fun answer => ⟨Quietly.snoc past quiet, answer, rfl⟩⟩

theorem Sure.then {body : Procedure ε α} (sure : body.Sure) {next : α → Procedure ε β}
    (rest : ∀ a, (next a).Sure) : (body >>= next).Sure := by
  intro past
  rw [run_bind_procedure, Program.meets_bind]
  refine (sure past).mono (fun _ _ _ permitted => permitted) ?_
  rintro later _ _ ⟨quietly, a, rfl⟩
  refine (rest a later).mono (fun _ _ _ permitted => permitted) ?_
  rintro last result _ ⟨still, ended⟩
  exact ⟨quietly.trans still, ended⟩

theorem commits_refuse (r : Refusal) : (refuse r : Procedure BrokerError α).Commits :=
  fun _ preliminary => .refused (uncreated_of_preliminary preliminary)

/-- A submission whose failure is turned into a refusal. -/
theorem commits_ask {k : CallKind} (c : Call k)
    {onFailure : k.Failure → Procedure BrokerError k.Value} {treat : k.Failure → Refusal}
    (creates : ∀ value, (Happening.answered c (.ok value)).created?.isSome)
    (fails : ∀ e, onFailure e = refuse (treat e)) : (ask c onFailure).Commits := by
  intro past preliminary
  refine (meets_ask c onFailure).mpr ⟨trivial, fun value => ?_, fun e => ?_⟩
  · exact .committed ⟨past, _, [], rfl, by simpa using preliminary, creates value⟩
  · rw [fails, meets_refuse]
    refine .refused fun h member => ?_
    rcases List.mem_append.mp member with isPast | isLast
    · exact created?_of_preliminary (preliminary h isPast)
    · rw [List.mem_singleton.mp isLast]
      exact created?_error c e

/-- After a commitment nothing may fail. -/
theorem Commits.then {body : Procedure BrokerError α} (commits : body.Commits)
    {next : α → Procedure BrokerError β} (sure : ∀ a, (next a).Sure) : (body >>= next).Commits := by
  intro past preliminary
  rw [run_bind_procedure, Program.meets_bind]
  refine (commits past preliminary).mono (fun _ _ _ permitted => permitted) ?_
  rintro later _ _ (⟨nothing⟩ | ⟨once⟩)
  · exact .refused nothing
  · refine (sure _ later).mono (fun _ _ _ permitted => permitted) ?_
    rintro last _ _ ⟨quietly, b, rfl⟩
    exact .committed (once.quietly quietly)

/-- Before a commitment anything may be asked. -/
theorem Asks.commits {yields : α → Prop} {body : Procedure BrokerError α} (asks : body.Asks yields)
    {next : α → Procedure BrokerError β} (rest : ∀ a, yields a → (next a).Commits) :
    (body >>= next).Commits := by
  intro past preliminary
  refine asks.bind (fun _ _ _ => trivial) (fun later a quietly yielded => ?_)
    fun later e quietly => ?_
  · exact rest a yielded later (quietly.preliminary preliminary)
  · exact .refused (uncreated_of_preliminary (quietly.preliminary preliminary))

/-- What is asked before may be left out. -/
theorem Asks.commits_if {c : Prop} [Decidable c] {yields : Unit → Prop}
    {body : Procedure BrokerError Unit} (asks : body.Asks yields)
    {next : Unit → Procedure BrokerError β} (rest : (next ()).Commits) :
    (if c then body >>= next else next ()).Commits := by
  split
  · exact asks.commits fun _ _ => rest
  · exact rest

theorem Commits.holding {body : Procedure BrokerError α} (commits : body.Commits)
    (about : Correlation) (kind : LockKind) (id : String) : (holding about kind id body).Commits :=
  fun past preliminary => (meets_holding about kind id body).mpr
    ⟨commits past preliminary, .refused (uncreated_of_preliminary preliminary)⟩

theorem Commits.within {body : Procedure BrokerError α} (commits : body.Commits) (span : Log.Span) :
    (within span body).Commits :=
  fun past preliminary => (meets_within_procedure span body).mpr (commits past preliminary)

theorem asks_fresh : (fresh : Procedure ε String).Asks fun _ => True :=
  fun past _ => ⟨Quietly.snoc past rfl, fun _ _ => trivial⟩

end Procedure

namespace Broker

open Procedure Steps

variable (config : BrokerConfig) (about : Correlation)

theorem asks_deployContext (plan : Plan) : (deployContext plan).Asks fun _ => True := by
  unfold deployContext
  split
  · exact asks_fresh
  · exact asks_pure trivial

/-- Without a dashboard an instance is as good as with one. -/
theorem sure_dashboardUrl (plan : Plan) (manifest : String) :
    (dashboardUrl about plan manifest).Sure := by
  refine Sure.then (sure_attempt (.dashboardUrl about.instanceId plan manifest) rfl) ?_
  intro answer
  match answer with
  | .ok url => exact sure_pure url
  | .error (e : AdapterError) =>
    change (if e = AdapterError.notImplemented then _ else _ : Procedure BrokerError String).Sure
    split
    · exact sure_pure ""
    · exact (sure_note _).then fun _ => sure_pure ""

theorem commits_provisionLocked (details : ProvisionDetails) :
    (provisionLocked config about details).Commits := by
  refine (asks_findPlan _ _ _).commits fun plan _ => ?_
  refine (asks_findDeployment _ _).commits fun deployment _ => ?_
  split
  · exact commits_refuse _
  · refine (asks_requireQuota _ _ _).commits fun _ _ => ?_
    refine (asks_deployContext plan).commits fun contextId _ => ?_
    refine (commits_ask (.submitDeploy _) (fun _ => rfl) fun _ => rfl).then fun outcome => ?_
    refine (sure_note _).then fun _ => ?_
    refine (sure_dashboardUrl _ _ _).then fun url => ?_
    exact (sure_note _).then fun _ => sure_pure _

theorem commits_submitRedeploy (way : Redeploy) (deployment contextId : String) (plan : Plan)
    (details : UpdateDetails) :
    (submitRedeploy way about deployment contextId plan details).Commits := by
  cases way with
  | recreate => exact commits_ask (.submitRecreate deployment contextId) (fun _ => rfl) fun _ => rfl
  | update | upgrade =>
    exact (commits_ask (.submitDeploy _) (fun _ => rfl) fun _ => rfl).then fun _ => sure_pure _

theorem commits_redeploy (way : Redeploy) (requestId instanceId : String)
    (details : UpdateDetails) : (redeploy config way requestId instanceId details).Commits := by
  refine Commits.holding ?_ _ _ _
  refine (asks_findPlan _ _ _).commits fun plan _ => ?_
  refine (asks_findDeployment _ _).commits fun deployment _ => ?_
  split
  · exact commits_refuse _
  · refine (asks_requireIdle _ _).commits fun _ _ => ?_
    refine (asks_requireQuota _ _ _).commits_if ?_
    refine (asks_deployContext plan).commits fun contextId _ => ?_
    refine (commits_submitRedeploy _ _ _ _ _ _).then fun taskId => ?_
    refine (sure_note _).then fun _ => ?_
    exact (sure_note _).then fun _ => sure_pure _

theorem commits_startDelete (deployment : String) (plan : Plan) (force : Bool) :
    (startDelete about deployment plan force).Commits := by
  have deletes (forced : Bool) : (submitDelete about deployment forced).Commits :=
    (commits_ask (.submitDelete deployment "" forced) (fun _ => rfl) fun _ => rfl).then
      fun _ => (sure_note _).then fun _ => sure_pure _
  have errand (first : Errand) : (submitFirstErrand about deployment plan first).Commits := by
    refine asks_fresh.commits fun contextId _ => ?_
    refine Commits.then
      (commits_ask (.submitErrand deployment first contextId) (fun _ => rfl) fun _ => rfl) ?_
    exact fun _ => (sure_note _).then fun _ => sure_pure _
  unfold startDelete
  split
  · exact (deletes true).then fun _ => sure_pure _
  · split
    · exact errand _
    · exact (deletes false).then fun _ => sure_pure _

theorem commits_deprovisionLocked (details : DeprovisionDetails) :
    (deprovisionLocked config about details).Commits := by
  refine (asks_findDeployment _ _).commits fun deployment _ => ?_
  split
  · exact (asks_cleanUp _ _).commits fun _ _ => commits_refuse _
  · refine (asks_requireIdle _ _).commits fun _ _ => ?_
    refine (asks_findPlan _ _ _).commits fun plan _ => ?_
    refine (commits_startDelete _ _ _ _).then fun data => ?_
    exact (sure_note _).then fun _ => sure_pure _

end Broker

namespace Request

/-- The request asks for a deploy or a deletion. -/
def opens (request : Request) : Bool := request.deploys?.isSome || request.deletes?.isSome

/-- A response is a refusal and nothing was created, or it has a token and one submission was made.
-/
def Settles (past : List Happening) (r : Response) : Prop :=
  (∃ e, r = .refused e ∧ Uncreated past) ∨ r.token?.isSome ∧ CreatedOnce past

theorem meets_settles_of_commits {α : Type} {body : Procedure BrokerError α}
    (commits : body.Commits) {answer : α → Response} (token : ∀ a, (answer a).token?.isSome) :
    (body.respond answer).Meets (fun _ _ => True) Settles [] := by
  refine (Procedure.meets_respond answer body).mpr ?_
  have settles := commits [] fun _ impossible => nomatch impossible
  refine settles.mono (fun _ _ _ permitted => permitted) ?_
  rintro past _ _ (⟨nothing⟩ | ⟨once⟩)
  · exact .inl ⟨_, rfl, nothing⟩
  · exact .inr ⟨token _, once⟩

/-- Requests for deploys and deletions are all or nothing. -/
theorem meets_settles (config : BrokerConfig) {request : Request} (opens : request.opens) :
    (request.program config).Meets (fun _ _ => True) Settles [] := by
  cases request with
  | provision requestId instanceId details asyncAllowed =>
    refine meets_settles_of_commits (Procedure.Commits.within ?_ _) fun _ => rfl
    split
    · exact (Broker.commits_provisionLocked _ _ _).holding _ _ _
    · exact Procedure.commits_refuse _
  | update requestId instanceId details asyncAllowed =>
    refine meets_settles_of_commits (Procedure.Commits.within ?_ _) fun _ => rfl
    split
    · exact (Broker.commits_redeploy _ _ _ _ _).then fun _ => Procedure.sure_pure _
    · exact Procedure.commits_refuse _
  | upgrade requestId instanceId details =>
    exact meets_settles_of_commits ((Broker.commits_redeploy _ _ _ _ _).within _) fun _ => rfl
  | recreate requestId instanceId planId =>
    exact meets_settles_of_commits ((Broker.commits_redeploy _ _ _ _ _).within _) fun _ => rfl
  | deprovision requestId instanceId details asyncAllowed =>
    refine meets_settles_of_commits (Procedure.Commits.within ?_ _) fun _ => rfl
    split
    · exact (Broker.commits_deprovisionLocked _ _ _).holding _ _ _
    · exact Procedure.commits_refuse _
  | bind | unbind | lastOperation => cases opens

end Request

end ServiceBroker
