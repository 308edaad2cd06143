import ServiceBroker.Proofs.Broker.Course

/-! Two programs side by side. They are in step if they ask for the same things in the same order
and end alike, as long as they are answered alike. What a pair of programs in step makes of two
worlds is decided by what the worlds answer; and whatever such a program locks, it unlocks. -/
namespace ServiceBroker

namespace Program

variable {α β γ : Type}

theorem bind_assoc (p : Program α) (f : α → Program β) (g : β → Program γ) :
    (p.bind f).bind g = p.bind fun a => (f a).bind g := by
  induction p with
  | done a => rfl
  | call c span next ih => exact congrArg (call c span) (funext ih)
  | log event next ih => exact congrArg (log event) ih
  | lock kind id next ih => exact congrArg (lock kind id) (funext ih)
  | unlock kind id next ih => exact congrArg (unlock kind id) ih
  | fresh next ih => exact congrArg fresh (funext ih)

theorem within_bind (span : Log.Span) (p : Program α) (f : α → Program β) :
    (p.bind f).within span = (p.within span).bind fun a => (f a).within span := by
  induction p with
  | done a => rfl
  | call c inner next ih => exact congrArg (call c (inner.or (some span))) (funext ih)
  | log event next ih => exact congrArg (log _) ih
  | lock kind id next ih => exact congrArg (lock kind id) (funext ih)
  | unlock kind id next ih => exact congrArg (unlock kind id) ih
  | fresh next ih => exact congrArg fresh (funext ih)

theorem run_bind {σ : Type} (h : Handler σ) (p : Program α) (f : α → Program β) (s : σ) :
    (p.bind f).run h s = (f (p.run h s).1).run h (p.run h s).2 := by
  induction p generalizing s with
  | done a => rfl
  | call c span next ih => exact ih _ _
  | log event next ih => exact ih _
  | lock kind id next ih => exact ih _ _
  | unlock kind id next ih => exact ih _
  | fresh next ih => exact ih _ _

/-- Two programs make the same calls, and as long as their answers are alike they go on in step, up
to ends that are alike. What they log may differ. A lock is taken around a part of both programs and
given back after it. -/
inductive InStep (alike : (k : CallKind) → k.Answer → k.Answer → Prop) :
    {α β : Type} → (α → β → Prop) → Program α → Program β → Prop where
  | done {α β : Type} {ends : α → β → Prop} {a : α} {b : β} (ended : ends a b) :
      InStep alike ends (done a) (done b)
  | call {α β : Type} {ends : α → β → Prop} {k : CallKind} (c : Call k)
      (span span' : Option Log.Span) {next : k.Answer → Program α} {next' : k.Answer → Program β}
      (onward : ∀ answer answer', alike k answer answer' →
        InStep alike ends (next answer) (next' answer')) :
      InStep alike ends (call c span next) (call c span' next')
  | logLeft {α β : Type} {ends : α → β → Prop} (event : Log.Event) {next : Program α}
      {q : Program β} (onward : InStep alike ends next q) : InStep alike ends (log event next) q
  | logRight {α β : Type} {ends : α → β → Prop} (event : Log.Event) {p : Program α}
      {next : Program β} (onward : InStep alike ends p next) : InStep alike ends p (log event next)
  | fresh {α β : Type} {ends : α → β → Prop} {next : String → Program α}
      {next' : String → Program β} (onward : ∀ id, InStep alike ends (next id) (next' id)) :
      InStep alike ends (fresh next) (fresh next')
  | locked {α β γ δ : Type} {ends : α → β → Prop} {middle : γ → δ → Prop} (kind : LockKind)
      (id : String) {next : Bool → Program α} {next' : Bool → Program β} {body : Program γ}
      {body' : Program δ} {after : γ → Program α} {after' : δ → Program β}
      (taken : next true = body.bind fun a => unlock kind id (after a))
      (taken' : next' true = body'.bind fun b => unlock kind id (after' b))
      (held : InStep alike middle body body')
      (onward : ∀ a b, middle a b → InStep alike ends (after a) (after' b))
      (refused : InStep alike ends (next false) (next' false)) :
      InStep alike ends (lock kind id next) (lock kind id next')

/-- Two states of a handler answer alike, give out the same ids and have the same locks, and so do
the states that follow. -/
structure Handler.Simulates {σ : Type} (h : Handler σ)
    (alike : (k : CallKind) → k.Answer → k.Answer → Prop) (related : σ → σ → Prop) : Prop where
  serves : ∀ {k : CallKind} (c : Call k) (span span' : Option Log.Span) {s t : σ}, related s t →
    alike k (h.serve span c s).1 (h.serve span' c t).1 ∧
      related (h.serve span c s).2 (h.serve span' c t).2
  notes : ∀ (event : Log.Event) {s t : σ}, related s t →
    related (h.note event s) t ∧ related s (h.note event t)
  issues : ∀ {s t : σ}, related s t →
    (h.issue s).1 = (h.issue t).1 ∧ related (h.issue s).2 (h.issue t).2
  acquires : ∀ (kind : LockKind) (id : String) {s t : σ}, related s t →
    (h.acquire kind id s).1 = (h.acquire kind id t).1 ∧
      related (h.acquire kind id s).2 (h.acquire kind id t).2
  releases : ∀ (kind : LockKind) (id : String) {s t : σ}, related s t →
    related (h.release kind id s) (h.release kind id t)

namespace InStep

variable {alike : (k : CallKind) → k.Answer → k.Answer → Prop} {ends : α → β → Prop}
  {p : Program α} {q : Program β}

/-- What follows programs in step. -/
theorem bind (inStep : InStep alike ends p q) {γ δ : Type} {ends' : γ → δ → Prop}
    {f : α → Program γ} {g : β → Program δ}
    (onward : ∀ a b, ends a b → InStep alike ends' (f a) (g b)) :
    InStep alike ends' (p.bind f) (q.bind g) := by
  induction inStep with
  | done ended => exact onward _ _ ended
  | call c span span' _ ih => exact .call c span span' fun a b same => ih a b same onward
  | logLeft event _ ih => exact .logLeft event (ih onward)
  | logRight event _ ih => exact .logRight event (ih onward)
  | fresh _ ih => exact .fresh fun id => ih id onward
  | locked kind id taken taken' held _ _ _ after refused =>
    refine .locked kind id ?_ ?_ held (fun a b same => after a b same onward) (refused onward)
    · rw [taken, bind_assoc]
      rfl
    · rw [taken', bind_assoc]
      rfl

/-- Which requests programs belong to does not matter. -/
theorem within (inStep : InStep alike ends p q) (span span' : Log.Span) :
    InStep alike ends (p.within span) (q.within span') := by
  induction inStep with
  | done ended => exact .done ended
  | call c inner inner' _ ih => exact .call c _ _ fun a b same => ih a b same
  | logLeft event _ ih => exact .logLeft _ ih
  | logRight event _ ih => exact .logRight _ ih
  | fresh _ ih => exact .fresh ih
  | locked kind id taken taken' _ _ _ held after refused =>
    refine .locked kind id ?_ ?_ held after refused
    · rw [taken, within_bind]
      rfl
    · rw [taken', within_bind]
      rfl

/-- Between two worlds that answer alike, programs in step end alike. -/
theorem run {σ : Type} {h : Handler σ} {related : σ → σ → Prop}
    (simulates : h.Simulates alike related) (inStep : InStep alike ends p q) {s t : σ}
    (begun : related s t) :
    ends (p.run h s).1 (q.run h t).1 ∧ related (p.run h s).2 (q.run h t).2 := by
  induction inStep generalizing s t with
  | done ended => exact ⟨ended, begun⟩
  | call c span span' _ ih =>
    obtain ⟨same, served⟩ := simulates.serves c span span' begun
    exact ih _ _ same served
  | logLeft event _ ih => exact ih (simulates.notes event begun).1
  | logRight event _ ih => exact ih (simulates.notes event begun).2
  | fresh _ ih =>
    obtain ⟨same, issued⟩ := simulates.issues begun
    simp only [Program.run, ← same]
    exact ih _ issued
  | locked kind id taken taken' _ _ _ held onward refused =>
    obtain ⟨same, acquired⟩ := simulates.acquires kind id begun
    simp only [Program.run, ← same]
    cases (h.acquire kind id s).1 with
    | false => exact refused acquired
    | true =>
      obtain ⟨ended, kept⟩ := held acquired
      rw [taken, taken', run_bind, run_bind]
      exact onward _ _ ended (simulates.releases kind id kept)

end InStep

end Program

/-- Results that are alike: both are values or both are errors. -/
inductive Outcomes {ε ε' α β : Type} (errors : ε → ε' → Prop) (values : α → β → Prop) :
    Except ε α → Except ε' β → Prop where
  | ok {a : α} {b : β} (same : values a b) : Outcomes errors values (.ok a) (.ok b)
  | error {e : ε} {e' : ε'} (same : errors e e') : Outcomes errors values (.error e) (.error e')

namespace Procedure

variable {ε ε' α β γ δ : Type} {alike : (k : CallKind) → k.Answer → k.Answer → Prop}
  {errors : ε → ε' → Prop} {values : α → β → Prop}

/-- Two procedures are in step and their results are alike. -/
def InStep (alike : (k : CallKind) → k.Answer → k.Answer → Prop) (errors : ε → ε' → Prop)
    (values : α → β → Prop) (body : Procedure ε α) (body' : Procedure ε' β) : Prop :=
  Program.InStep alike (Outcomes errors values) body.run body'.run

theorem InStep.bind {body : Procedure ε α} {body' : Procedure ε' β}
    (inStep : InStep alike errors values body body') {values' : γ → δ → Prop}
    {next : α → Procedure ε γ} {next' : β → Procedure ε' δ}
    (onward : ∀ a b, values a b → InStep alike errors values' (next a) (next' b)) :
    InStep alike errors values' (body >>= next) (body' >>= next') := by
  refine Program.InStep.bind inStep ?_
  rintro _ _ (⟨same⟩ | ⟨same⟩)
  · exact onward _ _ same
  · exact .done (.error same)

theorem inStep_pure {a : α} {b : β} (same : values a b) :
    InStep alike errors values (pure a) (pure b) := .done (.ok same)

theorem inStep_note (event event' : Log.Event) :
    InStep alike errors Eq (note event) (note event') :=
  .logLeft event (.logRight event' (.done (.ok rfl)))

theorem inStep_fresh : InStep alike errors Eq fresh fresh := .fresh fun _ => .done (.ok rfl)

theorem inStep_attempt {k : CallKind} (c : Call k) :
    InStep alike errors (alike k) (attempt c) (attempt c) :=
  .call c none none fun _ _ same => .done (.ok same)

/-- A call whose failure is treated at once. -/
theorem inStep_ask {k : CallKind} (c : Call k) {onFailure : k.Failure → Procedure ε k.Value}
    {onFailure' : k.Failure → Procedure ε' k.Value} {values : k.Value → k.Value → Prop}
    {failures : k.Failure → k.Failure → Prop}
    (answers : ∀ answer answer', alike k answer answer' →
      Outcomes failures values answer answer')
    (fails : ∀ e e', failures e e' →
      InStep alike errors values (onFailure e) (onFailure' e')) :
    InStep alike errors values (ask c onFailure) (ask c onFailure') := by
  refine (inStep_attempt c).bind fun answer answer' isAlike => ?_
  cases answers answer answer' isAlike with
  | ok same => exact inStep_pure same
  | error same => exact fails _ _ same

theorem inStep_refuse {errors : BrokerError → BrokerError → Prop} {r r' : Refusal}
    (same : errors r.error r'.error) : InStep alike errors values (refuse r) (refuse r') :=
  .logLeft _ (.logRight _ (.done (.error same)))

theorem InStep.within {body : Procedure ε α} {body' : Procedure ε' β}
    (inStep : InStep alike errors values body body') (span span' : Log.Span) :
    InStep alike errors values (within span body) (Procedure.within span' body') :=
  Program.InStep.within inStep span span'

/-- A program whose outcome is looked at, whatever it is. -/
theorem inStep_lift {ends : α → β → Prop} {p : Program α} {q : Program β}
    (inStep : Program.InStep alike ends p q) :
    InStep alike errors ends (ExceptT.lift p) (ExceptT.lift q) := by
  rw [InStep, ExceptT.run_lift, ExceptT.run_lift]
  exact Program.InStep.bind inStep fun _ _ same => .done (.ok same)

theorem inStep_holding {errors : BrokerError → BrokerError → Prop} (about : Correlation)
    (kind : LockKind) (id : String) {body : Procedure BrokerError α}
    {body' : Procedure BrokerError β} (inStep : InStep alike errors values body body')
    (refused : errors (Refusal.locked about kind id).error (Refusal.locked about kind id).error) :
    InStep alike errors values (holding about kind id body) (holding about kind id body') :=
  .locked kind id rfl rfl inStep (fun _ _ same => .done same) (inStep_refuse refused)

end Procedure

end ServiceBroker
