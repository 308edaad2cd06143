import ServiceBroker.Proofs.Broker.Arrivals
import ServiceBroker.Proofs.Broker.Commitments
import ServiceBroker.Proofs.Broker.Reports

/-! Steps that may fail. A dashboard, the secrets of a manifest and the cleaning up after a deletion
are wanted but not needed: whatever is answered about them, also that the time is over, the request
comes to the same result, but for the dashboard and the secrets themselves. -/
namespace ServiceBroker.Broker

open Procedure Steps Program

/-- The dashboard of an instance, by what the adapter answers about it. -/
def dashboardShown : CallKind.dashboardUrl.Answer → String
  | .ok url => url
  | .error _ => ""

/-- The secrets that the adapter is told, by what is answered about those of the manifest. -/
def secretsPassed : CallKind.resolveSecrets.Answer → NameMap String
  | .ok secrets => secrets
  | .error _ => .empty

section Points

variable (config : BrokerConfig) (about : Correlation)

theorem endsWith_dashboardUrl (plan : Plan) (manifest : String) :
    (dashboardUrl about plan manifest).run.EndsWith (.dashboardUrl about.instanceId plan manifest)
      (fun answer => .ok (dashboardShown answer)) [] := by
  refine .call none fun answer => ?_
  match answer with
  | .ok url => exact .done
  | .error (e : AdapterError) =>
    change (if e = AdapterError.notImplemented then _ else _ :
      Procedure BrokerError String).run.Closes _ _
    split
    · exact .done
    · exact .log _ .done

theorem endsWith_resolveSecrets (deployment manifest : String) :
    (resolveSecrets about deployment manifest).run.EndsWith (.resolveSecrets manifest)
      (fun answer => .ok (secretsPassed answer)) [] := by
  refine .call none fun answer => ?_
  match answer with
  | .ok secrets => exact .done
  | .error (e : SecretsError) => exact .log _ .done

/-- All that is left to ask for is the dashboard. -/
def AsksDashboard (p : Program (Except BrokerError ProvisionedService)) : Prop :=
  ∃ (c : Call .dashboardUrl) (service : ProvisionedService) (released : List LockKey),
    p.EndsWith c (fun answer => .ok { service with dashboardUrl := dashboardShown answer }) released

/-- The kinds of call that a provision makes before it asks for the dashboard. -/
def deployKinds : List CallKind := [.getDeployment, .countOffering, .countPlan, .submitDeploy]

/-- Once the deploy is submitted, the dashboard is all that is left to ask for. -/
theorem comesTo_provisionLocked (details : ProvisionDetails) :
    (provisionLocked config about details).ComesTo deployKinds AsksDashboard := by
  let f : Footprint := ⟨config.deploymentName about.instanceId, deployKinds, []⟩
  have listed : ∀ k ∈ deployKinds, k ∈ f.kinds := fun _ member => member
  change (provisionLocked config about details).ComesTo f.kinds AsksDashboard
  refine (staysIn_findPlan config about details.planId).comesTo fun plan => ?_
  refine (staysIn_findDeployment about (listed _ (by decide))).comesTo fun deployment => ?_
  split
  · exact comesTo_refuse _
  · refine (staysIn_requireQuota config about (listed _ (by decide)) (listed _ (by decide))
      plan).comesTo fun _ => ?_
    refine (staysIn_deployContext plan).comesTo fun contextId => ?_
    refine StaysIn.comesTo
      (staysIn_ask (.named (listed .submitDeploy (by decide)) rfl) fun _ => staysIn_refuse _) ?_
    refine fun outcome => (staysIn_note _).comesTo fun _ => comesTo_arrive ?_
    let service : ProvisionedService :=
      { isAsync := true, dashboardUrl := "",
        operationData := (deployData .create outcome.taskId contextId plan).encode }
    refine ⟨.dashboardUrl about.instanceId plan outcome.manifest, service, [], ?_⟩
    refine (endsWith_dashboardUrl about plan outcome.manifest).bind fun answer => ?_
    exact .log _ .done

theorem comesTo_provision (requestId instanceId : String) (details : ProvisionDetails)
    (asyncAllowed : Bool) :
    (provision config requestId instanceId details asyncAllowed).ComesTo deployKinds
      AsksDashboard := by
  refine Procedure.ComesTo.within ?_ _ ?_
  · cases asyncAllowed with
    | false => exact comesTo_refuse _
    | true =>
      refine (comesTo_provisionLocked config _ details).holding _ .serviceInstance instanceId ?_
      rintro p ⟨c, service, released, ends⟩
      exact ⟨c, service, released ++ [⟨.serviceInstance, instanceId⟩],
        ends.bind fun _ => .unlock _ _ .done⟩
  · rintro p ⟨c, service, released, ends⟩
    exact ⟨c, service, released, ends.within _⟩

theorem commits_provision (requestId instanceId : String) (details : ProvisionDetails)
    (asyncAllowed : Bool) :
    (provision config requestId instanceId details asyncAllowed).Commits := by
  refine Commits.within ?_ _
  cases asyncAllowed with
  | false => exact commits_refuse _
  | true => exact (commits_provisionLocked config _ details).holding _ _ _

/-- All that is left is to ask for the secrets and then for something that is told them. Whether
that succeeds is up to the last answer. -/
def AsksAdapter {k : CallKind} {β : Type} (act : BindingRequest → Call k)
    (p : Program (Except BrokerError β)) : Prop :=
  ∃ (manifest : String) (request : BindingRequest) (value : k.Answer → Except BrokerError β)
    (released : List LockKey), (∀ answer, (value answer).isOk = answer.isOk) ∧
      p.EndsWithBoth (.resolveSecrets manifest)
        (fun answer => act { request with secrets := secretsPassed answer }) value released

/-- The kinds of call that are made before the secrets of a manifest are asked for. -/
def lookKinds : List CallKind := [.getDeployment, .getVms]

/-- A request to the adapter is complete but for the secrets, and is handed on with those. -/
theorem comesTo_bindingRequest {k : CallKind} {β : Type} {act : BindingRequest → Call k}
    {next : BindingRequest → Procedure BrokerError β} (value : k.Answer → Except BrokerError β)
    (decides : ∀ answer, (value answer).isOk = answer.isOk)
    (onward : ∀ request, (next request).run.EndsWith (act request) value []) (bindingId : String)
    (parameters : Parameters) :
    (bindingRequest config about bindingId parameters >>= next).ComesTo lookKinds
      (AsksAdapter act) := by
  let f : Footprint := ⟨config.deploymentName about.instanceId, lookKinds, []⟩
  have listed : ∀ k ∈ lookKinds, k ∈ f.kinds := fun _ member => member
  have looks : (bindingRequest config about bindingId parameters).ComesTo f.kinds fun p =>
      ∃ (manifest : String) (request : BindingRequest), p.EndsWith (.resolveSecrets manifest)
        (fun answer => .ok { request with secrets := secretsPassed answer }) [] := by
    refine (staysIn_findDeployment about (listed _ (by decide))).comesTo fun found => ?_
    split
    · exact comesTo_refuse _
    · rename_i deployment
      have asks : (ask (.getVms f.deployment) (failed about)).StaysIn f :=
        staysIn_ask (.named (listed .getVms (by decide)) rfl) fun _ => staysIn_refuse _
      refine asks.comesTo fun vms => comesTo_arrive ?_
      let request : BindingRequest :=
        { bindingId, vms, manifest := deployment.manifest, parameters, secrets := .empty }
      refine ⟨deployment.manifest, request, ?_⟩
      exact (endsWith_resolveSecrets about f.deployment deployment.manifest).bind fun _ => .done
  refine looks.bind fun q there => ?_
  obtain ⟨manifest, request, ends⟩ := there
  exact ⟨manifest, request, value, [], decides, ends.then fun _ => onward _⟩

theorem AsksAdapter.within {k : CallKind} {β : Type} {act : BindingRequest → Call k}
    {p : Program (Except BrokerError β)} (asks : AsksAdapter act p) (span : Log.Span) :
    AsksAdapter act (p.within span) := by
  obtain ⟨manifest, request, value, released, decides, ends⟩ := asks
  exact ⟨manifest, request, value, released, decides, ends.within span⟩

theorem AsksAdapter.unlock {k : CallKind} {β : Type} {act : BindingRequest → Call k}
    {p : Program (Except BrokerError β)} (asks : AsksAdapter act p) (kind : LockKind)
    (id : String) : AsksAdapter act (p.bind fun result => .unlock kind id (.done result)) := by
  obtain ⟨manifest, request, value, released, decides, ends⟩ := asks
  refine ⟨manifest, request, value, released ++ [⟨kind, id⟩], decides, ?_⟩
  exact ends.bind fun answer => .unlock kind id .done

/-- Credentials are looked after under the lock of their binding. What the adapter answers decides
about the result. -/
theorem comesTo_credentials {k : CallKind} {β : Type} (act : BindingRequest → Call k)
    {finish : k.Value → Procedure BrokerError β} (refusal : k.Failure → Refusal)
    (value : k.Value → β) (closes : ∀ a, (finish a).run.Closes (.ok (value a)) [])
    (bindingId : String) (parameters : Parameters) :
    (holding about .binding bindingId
      (bindingRequest config about bindingId parameters >>= fun request =>
        ask (act request) (fun e => refuse (refusal e)) >>= finish)).ComesTo lookKinds
      (AsksAdapter act) := by
  let result (answer : k.Answer) : Except BrokerError β :=
    (answer.map value).mapError fun e => (refusal e).error
  refine Procedure.ComesTo.holding ?_ _ .binding bindingId fun p asks => asks.unlock _ _
  have decides (answer : k.Answer) : (result answer).isOk = answer.isOk := by
    cases answer <;> rfl
  refine comesTo_bindingRequest config about result decides (fun request => ?_) bindingId parameters
  refine .call none fun answer => ?_
  cases answer with
  | ok a => exact closes a
  | error e => exact .log _ .done

theorem comesTo_bind (requestId instanceId bindingId : String) (details : BindDetails) :
    (bind config requestId instanceId bindingId details).ComesTo lookKinds
      (AsksAdapter .createBinding) := by
  refine Procedure.ComesTo.within ?_ _ fun p asks => asks.within _
  refine comesTo_credentials config _ Call.createBinding
    (fun (e : AdapterError) => .ofAdapter _ .binding e) id (fun _ => ?_) bindingId _
  exact .log _ (.log _ .done)

theorem comesTo_unbind (requestId instanceId bindingId : String) (details : UnbindDetails) :
    (unbind config requestId instanceId bindingId details).ComesTo lookKinds
      (AsksAdapter .deleteBinding) := by
  refine Procedure.ComesTo.within ?_ _ fun p asks => asks.within _
  refine comesTo_credentials config _ Call.deleteBinding
    (fun (e : AdapterError) => .ofAdapter _ .binding e) id (fun _ => ?_) bindingId _
  exact .log _ (.log _ .done)

/-- All that is left is to report something that is known. -/
def Decided (p : Program (Except BrokerError LastOperation)) : Prop :=
  ∃ operation, p.Meets (fun _ _ => True) (fun _ result => result = .ok operation) []

theorem decided_reportTask (deployment : String) (kind : OperationKind) (task : BackendTask) :
    Decided (reportTask about deployment kind task).run := by
  refine ⟨reportOf about kind task.state.outcome, ?_⟩
  refine (meets_reportTask about deployment kind task []).mono (fun _ _ _ _ => trivial) ?_
  exact fun _ _ _ told => told.2

theorem comesTo_lastOperation (requestId instanceId token : String) :
    (lastOperation config requestId instanceId token).ComesTo Lifecycle.stepKinds Decided := by
  unfold lastOperation
  split
  · exact comesTo_refuse _
  · refine Procedure.ComesTo.within ?_ _ ?_
    · let f : Footprint := ⟨config.deploymentName instanceId, Lifecycle.stepKinds, []⟩
      have steps := Lifecycle.staysIn_currentTask (f := f) (fun _ member => member) config.offering
      refine (steps _).lift.comesTo fun found => ?_
      split
      · exact comesTo_refuse _
      · exact comesTo_arrive (decided_reportTask _ _ _ _)
    · rintro p ⟨operation, reports⟩
      exact ⟨operation, (meets_within _ p).mpr reports⟩

end Points

/-- Two runs of a provision that differ in what the adapter answers about the dashboard. They fail
alike, with nothing submitted and the dashboard never asked for, or they succeed and only differ in
the dashboard. -/
inductive DashboardApart {σ : Type} (answer answer' : CallKind.dashboardUrl.Answer) :
    (u u' : Upshot σ (Except BrokerError ProvisionedService)) → Prop where
  | refused {u : Upshot σ (Except BrokerError ProvisionedService)} {e : BrokerError}
      (failed : u.result = .error e) (nothing : Uncreated u.seen)
      (kept : KeptTo deployKinds u.seen) : DashboardApart answer answer' u u
  | accepted {c : Call .dashboardUrl} (service : ProvisionedService) (state : σ)
      (seen : List Happening) : DashboardApart answer answer'
        ⟨.ok { service with dashboardUrl := dashboardShown answer }, state,
          seen ++ [.answered c answer]⟩
        ⟨.ok { service with dashboardUrl := dashboardShown answer' }, state,
          seen ++ [.answered c answer']⟩

/-- Two runs of a request about credentials that differ in what is answered about the secrets. They
fail alike and never ask for them, or they ask the adapter for the same but for the secrets, succeed
if it does, and come to the same result. -/
inductive SecretsApart {σ β : Type} {k : CallKind} (act : BindingRequest → Call k)
    (answer answer' : CallKind.resolveSecrets.Answer) (adapter : k.Answer) :
    (u u' : Upshot σ (Except BrokerError β)) → Prop where
  | refused {u : Upshot σ (Except BrokerError β)} {e : BrokerError} (failed : u.result = .error e)
      (kept : KeptTo lookKinds u.seen) : SecretsApart act answer answer' adapter u u
  | asked {result : Except BrokerError β} (decided : result.isOk = adapter.isOk) (state state' : σ)
      (seen : List Happening) (manifest : String) (request : BindingRequest) :
      SecretsApart act answer answer' adapter
        ⟨result, state, seen ++ [.answered (.resolveSecrets manifest) answer,
          .answered (act { request with secrets := secretsPassed answer }) adapter]⟩
        ⟨result, state', seen ++ [.answered (.resolveSecrets manifest) answer',
          .answered (act { request with secrets := secretsPassed answer' }) adapter]⟩

section Runs

variable {σ : Type} (h : Handler σ) (s : σ)

theorem dashboardApart_of_comesTo {body : Procedure BrokerError ProvisionedService}
    (comes : body.ComesTo deployKinds AsksDashboard) (commits : body.Commits)
    (answer answer' : CallKind.dashboardUrl.Answer) : DashboardApart answer answer'
      (body.run.upshot (h.unlogged.answering .dashboardUrl answer) s)
      (body.run.upshot (h.unlogged.answering .dashboardUrl answer') s) := by
  have agrees (answer : CallKind.dashboardUrl.Answer) :
      (h.unlogged.answering .dashboardUrl answer).Agrees deployKinds h.unlogged :=
    (Handler.Agrees.refl _ _).answering (by decide) answer
  obtain ⟨seen, s', kept, ⟨_, ⟨e, rfl⟩, same⟩ | ⟨q, ⟨c, service, released, ends⟩, same⟩⟩ :=
    Program.ComesTo.arrives comes h.unlogged s
  · have settled := (commits [] (by simp)).transcript (h.unlogged.answering .dashboardUrl answer) s
    obtain ⟨failed, _, isSeen⟩ := Upshot.mk.inj (same _ (agrees answer))
    rw [List.nil_append, failed, isSeen] at settled
    rw [same _ (agrees answer), same _ (agrees answer')]
    cases settled with
    | refused nothing => exact .refused rfl nothing kept
  · obtain ⟨span, last⟩ := ends.upshot
    have answered (answer : CallKind.dashboardUrl.Answer) (s : σ) :
        ((h.unlogged.answering .dashboardUrl answer).serve span c s).1 = answer := by
      rw [Handler.serve_answering]
    have ended (answer : CallKind.dashboardUrl.Answer) :=
      last (h := h.unlogged.answering .dashboardUrl answer) (fun _ _ => rfl) (answered answer) s'
    rw [same _ (agrees answer), same _ (agrees answer'), ended answer, ended answer',
      Handler.serve_answering, Handler.serve_answering]
    exact .accepted service _ seen

theorem secretsApart_of_comesTo {β : Type} {k : CallKind} {act : BindingRequest → Call k}
    {body : Procedure BrokerError β} (comes : body.ComesTo lookKinds (AsksAdapter act))
    (other : k ≠ .resolveSecrets) (unlooked : k ∉ lookKinds)
    (answer answer' : CallKind.resolveSecrets.Answer) (adapter : k.Answer) :
    SecretsApart act answer answer' adapter
      (body.run.upshot
        ((h.unlogged.answering .resolveSecrets answer).answering k adapter) s)
      (body.run.upshot
        ((h.unlogged.answering .resolveSecrets answer').answering k adapter) s) := by
  let told (answer : CallKind.resolveSecrets.Answer) : Handler σ :=
    (h.unlogged.answering .resolveSecrets answer).answering k adapter
  have agrees (answer : CallKind.resolveSecrets.Answer) :
      (told answer).Agrees lookKinds h.unlogged :=
    ((Handler.Agrees.refl _ _).answering (by decide) answer).answering unlooked adapter
  change SecretsApart act answer answer' adapter (body.run.upshot (told answer) s)
    (body.run.upshot (told answer') s)
  obtain ⟨seen, s', kept, ⟨_, ⟨e, rfl⟩, same⟩ | ⟨q, asks, same⟩⟩ :=
    Program.ComesTo.arrives comes h.unlogged s
  · rw [same _ (agrees answer), same _ (agrees answer')]
    exact .refused rfl kept
  · obtain ⟨manifest, request, value, released, decides, ends⟩ := asks
    have resolved (answer : CallKind.resolveSecrets.Answer) (span : Option Log.Span) (s : σ) :
        ((told answer).serve span (.resolveSecrets manifest) s).1 = answer := by
      rw [Handler.serve_answering_of_ne _ other.symm, Handler.serve_answering]
    have answered (answer : CallKind.resolveSecrets.Answer) (span : Option Log.Span) (s : σ) :
        ((told answer).serve span
          (act { request with secrets := secretsPassed answer }) s).1 = adapter := by
      rw [Handler.serve_answering]
    obtain ⟨state, ended⟩ :=
      ends.upshot (fun _ _ => rfl) (resolved answer) (answered answer) s'
    obtain ⟨state', ended'⟩ :=
      ends.upshot (fun _ _ => rfl) (resolved answer') (answered answer') s'
    -- The adapter is called with different secrets, so the states after it need not be the same.
    rw [same _ (agrees answer), same _ (agrees answer'), ended, ended']
    exact .asked (decides adapter) state state' seen manifest request

theorem result_eq_of_decided {body : Procedure BrokerError LastOperation}
    (comes : body.ComesTo Lifecycle.stepKinds Decided) {h' : Handler σ}
    (agrees : h'.Agrees Lifecycle.stepKinds h) :
    (body.run.run h' s).1 = (body.run.run h s).1 := by
  have agrees' := Handler.Agrees.refl Lifecycle.stepKinds h
  obtain ⟨seen, s', _, ⟨a, _, same⟩ | ⟨q, ⟨operation, decided⟩, same⟩⟩ :=
    Program.ComesTo.arrives comes h s
  · exact (congrArg Upshot.result (same h' agrees)).trans
      (congrArg Upshot.result (same h agrees')).symm
  · have told (h : Handler σ) : (q.run h s').1 = .ok operation := decided.transcript h s'
    have first : (body.run.run h' s).1 = (q.run h' s').1 := congrArg Upshot.result (same h' agrees)
    have second : (body.run.run h s).1 = (q.run h s').1 := congrArg Upshot.result (same h agrees')
    rw [first, second, told, told]

end Runs

/-- Steps that may fail decide nothing. Whatever the adapter answers about a dashboard, a provision
comes to the same token and leaves the same behind; whatever is answered about the secrets of a
manifest, the adapter is asked for the same but for the secrets, and what it answers is the result;
and whatever the cleaning up after a deletion comes to, the poll reports the same. -/
theorem best_effort_decides_nothing (config : BrokerConfig) {σ : Type} (h : Handler σ) (s : σ)
    (requestId instanceId : String) :
    (∀ details asyncAllowed answer answer', DashboardApart answer answer'
      ((provision config requestId instanceId details asyncAllowed).run.upshot
        (h.unlogged.answering .dashboardUrl answer) s)
      ((provision config requestId instanceId details asyncAllowed).run.upshot
        (h.unlogged.answering .dashboardUrl answer') s)) ∧
    (∀ bindingId details answer answer' adapter, SecretsApart .createBinding answer answer' adapter
      ((bind config requestId instanceId bindingId details).run.upshot
        ((h.unlogged.answering .resolveSecrets answer).answering .createBinding adapter) s)
      ((bind config requestId instanceId bindingId details).run.upshot
        ((h.unlogged.answering .resolveSecrets answer').answering .createBinding adapter) s)) ∧
    (∀ bindingId details answer answer' adapter, SecretsApart .deleteBinding answer answer' adapter
      ((unbind config requestId instanceId bindingId details).run.upshot
        ((h.unlogged.answering .resolveSecrets answer).answering .deleteBinding adapter) s)
      ((unbind config requestId instanceId bindingId details).run.upshot
        ((h.unlogged.answering .resolveSecrets answer').answering .deleteBinding adapter) s)) ∧
    ∀ token configs configs' secrets secrets',
      ((lastOperation config requestId instanceId token).run.run
        ((h.answering .deleteConfigs configs).answering .deleteSecrets secrets) s).1 =
      ((lastOperation config requestId instanceId token).run.run
        ((h.answering .deleteConfigs configs').answering .deleteSecrets secrets') s).1 := by
  refine ⟨?_, ?_, ?_, ?_⟩
  · intro details asyncAllowed answer answer'
    exact dashboardApart_of_comesTo h s
      (comesTo_provision config requestId instanceId details asyncAllowed)
      (commits_provision config requestId instanceId details asyncAllowed) answer answer'
  · intro bindingId details answer answer' adapter
    exact secretsApart_of_comesTo h s (comesTo_bind config requestId instanceId bindingId details)
      (by decide) (by decide) answer answer' adapter
  · intro bindingId details answer answer' adapter
    exact secretsApart_of_comesTo h s (comesTo_unbind config requestId instanceId bindingId details)
      (by decide) (by decide) answer answer' adapter
  · intro token configs configs' secrets secrets'
    have comes := comesTo_lastOperation config requestId instanceId token
    have agrees (configs : CallKind.deleteConfigs.Answer)
        (secrets : CallKind.deleteSecrets.Answer) :
        ((h.answering .deleteConfigs configs).answering .deleteSecrets secrets).Agrees
          Lifecycle.stepKinds h :=
      ((Handler.Agrees.refl _ _).answering (by decide) configs).answering (by decide) secrets
    exact (result_eq_of_decided h s comes (agrees configs secrets)).trans
      (result_eq_of_decided h s comes (agrees configs' secrets')).symm

end ServiceBroker.Broker
