import ServiceBroker.Broker.Steps

/-! What a program goes through: the answers it was given and the ids it took. A rule on programs
speaks about every course they can take, whatever the collaborators answer, and so holds in any
world and in any interleaving. The rules of composed programs follow from those of their parts. -/
namespace ServiceBroker

/-- What a program notices of the world, apart from locks. -/
inductive Happening where
  | answered {k : CallKind} (c : Call k) (answer : k.Answer)
  | issued (id : String)

namespace Program

variable {α β : Type} {allowed : List Happening → AnyCall → Prop}
  {demand : List Happening → α → Prop} {past : List Happening}

/-- Along every course of a program after what it went through already, each call is allowed and the
value at the end is as demanded. -/
def Meets (allowed : List Happening → AnyCall → Prop) (demand : List Happening → α → Prop) :
    List Happening → Program α → Prop
  | past, done a => demand past a
  | past, call c _ next => allowed past ⟨_, c⟩ ∧
      ∀ answer, (next answer).Meets allowed demand (past ++ [.answered c answer])
  | past, log _ next => next.Meets allowed demand past
  | past, lock _ _ next => ∀ taken, (next taken).Meets allowed demand past
  | past, unlock _ _ next => next.Meets allowed demand past
  | past, fresh next => ∀ id, (next id).Meets allowed demand (past ++ [.issued id])

@[simp] theorem meets_done (a : α) : (done a).Meets allowed demand past ↔ demand past a := Iff.rfl

@[simp] theorem meets_call {k : CallKind} (c : Call k) (span : Option Log.Span)
    (next : k.Answer → Program α) : (call c span next).Meets allowed demand past ↔
      allowed past ⟨k, c⟩ ∧
        ∀ answer, (next answer).Meets allowed demand (past ++ [.answered c answer]) := Iff.rfl

@[simp] theorem meets_log (event : Log.Event) (next : Program α) :
    (log event next).Meets allowed demand past ↔ next.Meets allowed demand past := Iff.rfl

@[simp] theorem meets_lock (kind : LockKind) (id : String) (next : Bool → Program α) :
    (lock kind id next).Meets allowed demand past ↔
      ∀ taken, (next taken).Meets allowed demand past := Iff.rfl

@[simp] theorem meets_unlock (kind : LockKind) (id : String) (next : Program α) :
    (unlock kind id next).Meets allowed demand past ↔ next.Meets allowed demand past := Iff.rfl

@[simp] theorem meets_fresh (next : String → Program α) : (fresh next).Meets allowed demand past ↔
    ∀ id, (next id).Meets allowed demand (past ++ [.issued id]) := Iff.rfl

/-- A program that goes on with another one meets what it meets up to there, with what the other one
meets from there on as its demand. -/
@[simp] theorem meets_bind {demand : List Happening → β → Prop} (p : Program α)
    (f : α → Program β) : (p.bind f).Meets allowed demand past ↔
      p.Meets allowed (fun past a => (f a).Meets allowed demand past) past := by
  induction p generalizing past with
  | done a => exact Iff.rfl
  | call c span next ih => exact and_congr Iff.rfl (forall_congr' fun answer => ih answer)
  | log event next ih => exact ih
  | lock kind id next ih => exact forall_congr' fun taken => ih taken
  | unlock kind id next ih => exact ih
  | fresh next ih => exact forall_congr' fun id => ih id

/-- Which request a program belongs to changes nothing about its course. -/
@[simp] theorem meets_within (span : Log.Span) (p : Program α) :
    (p.within span).Meets allowed demand past ↔ p.Meets allowed demand past := by
  induction p generalizing past with
  | done a => exact Iff.rfl
  | call c inner next ih => exact and_congr Iff.rfl (forall_congr' fun answer => ih answer)
  | log event next ih => exact ih
  | lock kind id next ih => exact forall_congr' fun taken => ih taken
  | unlock kind id next ih => exact ih
  | fresh next ih => exact forall_congr' fun id => ih id

/-- Rules may be weakened, as long as they are for what lies ahead. -/
theorem Meets.mono {allowed' : List Happening → AnyCall → Prop}
    {demand' : List Happening → α → Prop} {p : Program α} (meets : p.Meets allowed demand past)
    (calls : ∀ later c, past <+: later → allowed later c → allowed' later c)
    (ends : ∀ later a, past <+: later → demand later a → demand' later a) :
    p.Meets allowed' demand' past := by
  induction p generalizing past with
  | done a => exact ends past a List.prefix_rfl meets
  | call c span next ih =>
    refine ⟨calls past _ List.prefix_rfl meets.1, fun answer => ih answer (meets.2 answer) ?_ ?_⟩
    · exact fun later c before => calls later c ((List.prefix_append ..).trans before)
    · exact fun later a before => ends later a ((List.prefix_append ..).trans before)
  | log event next ih => exact ih meets calls ends
  | lock kind id next ih => exact fun taken => ih taken (meets taken) calls ends
  | unlock kind id next ih => exact ih meets calls ends
  | fresh next ih =>
    refine fun id => ih id (meets id) ?_ ?_
    · exact fun later c before => calls later c ((List.prefix_append ..).trans before)
    · exact fun later a before => ends later a ((List.prefix_append ..).trans before)

@[simp] theorem pure_eq_done (a : α) : (pure a : Program α) = done a := rfl

@[simp] theorem bind_eq_bind (p : Program α) (f : α → Program β) : p >>= f = p.bind f := rfl

@[simp] theorem map_eq_bind (f : α → β) (p : Program α) : f <$> p = p.bind fun a => done (f a) := rfl

end Program

namespace Procedure

variable {ε α β : Type} {allowed : List Happening → AnyCall → Prop}
  {demand : List Happening → Except ε α → Prop} {past : List Happening}

@[simp] theorem run_bind_procedure (body : Procedure ε α) (next : α → Procedure ε β) :
    (body >>= next).run = body.run.bind fun
      | .ok a => (next a).run
      | .error e => .done (.error e) := rfl

@[simp] theorem meets_attempt {k : CallKind} (c : Call k)
    {demand : List Happening → Except ε k.Answer → Prop} :
    (attempt c : Procedure ε k.Answer).run.Meets allowed demand past ↔
      allowed past ⟨k, c⟩ ∧ ∀ answer, demand (past ++ [.answered c answer]) (.ok answer) := Iff.rfl

/-- A call whose failure is treated at once. -/
@[simp] theorem meets_ask {k : CallKind} (c : Call k) (onFailure : k.Failure → Procedure ε k.Value)
    {demand : List Happening → Except ε k.Value → Prop} :
    (ask c onFailure).run.Meets allowed demand past ↔ allowed past ⟨k, c⟩ ∧
      (∀ value, demand (past ++ [.answered c (.ok value)]) (.ok value)) ∧
      ∀ e, (onFailure e).run.Meets allowed demand (past ++ [.answered c (.error e)]) := by
  simp only [ask, run_bind_procedure, Program.meets_bind, meets_attempt]
  refine and_congr Iff.rfl ⟨fun all => ⟨fun value => all (.ok value), fun e => all (.error e)⟩, ?_⟩
  rintro ⟨ends, fails⟩ (e | value)
  · exact fails e
  · exact ends value

/-- A call whose failure is treated at once, and what follows its success. -/
theorem meets_ask_bind {k : CallKind} (c : Call k) (onFailure : k.Failure → Procedure ε k.Value)
    (next : k.Value → Procedure ε β) {demand : List Happening → Except ε β → Prop}
    (permitted : allowed past ⟨k, c⟩)
    (answered : ∀ value,
      (next value).run.Meets allowed demand (past ++ [.answered c (.ok value)]))
    (fails : ∀ e,
      (onFailure e >>= next).run.Meets allowed demand (past ++ [.answered c (.error e)])) :
    (ask c onFailure >>= next).run.Meets allowed demand past := by
  simp only [run_bind_procedure, Program.meets_bind] at fails ⊢
  exact (meets_ask c onFailure).mpr ⟨permitted, answered, fails⟩

@[simp] theorem meets_info (message : String) (fields : List (String × Log.FieldValue))
    {demand : List Happening → Except ε Unit → Prop} :
    (info message fields).run.Meets allowed demand past ↔ demand past (.ok ()) := Iff.rfl

@[simp] theorem meets_warn (message : String) (fields : List (String × Log.FieldValue))
    {demand : List Happening → Except ε Unit → Prop} :
    (warn message fields).run.Meets allowed demand past ↔ demand past (.ok ()) := Iff.rfl

@[simp] theorem meets_fresh {demand : List Happening → Except ε String → Prop} :
    (fresh : Procedure ε String).run.Meets allowed demand past ↔
      ∀ id, demand (past ++ [.issued id]) (.ok id) := Iff.rfl

@[simp] theorem meets_refuse (r : Refusal) {demand : List Happening → Except BrokerError α → Prop} :
    (refuse r : Procedure BrokerError α).run.Meets allowed demand past ↔
      demand past (.error r.error) := Iff.rfl

@[simp] theorem meets_pure (a : α) :
    (pure a : Procedure ε α).run.Meets allowed demand past ↔ demand past (.ok a) := Iff.rfl

@[simp] theorem meets_lift (p : Program α) :
    (ExceptT.lift p : Procedure ε α).run.Meets allowed demand past ↔
      p.Meets allowed (fun past a => demand past (.ok a)) past := by
  simp [ExceptT.run_lift]

@[simp] theorem meets_within_procedure (span : Log.Span) (body : Procedure ε α) :
    (within span body).run.Meets allowed demand past ↔ body.run.Meets allowed demand past :=
  Program.meets_within span body.run

/-- Under a lock a body does what it does without one, unless the id is held by somebody else. -/
@[simp] theorem meets_holding (about : Correlation) (kind : LockKind) (id : String)
    (body : Procedure BrokerError α) {demand : List Happening → Except BrokerError α → Prop} :
    (holding about kind id body).run.Meets allowed demand past ↔
      body.run.Meets allowed demand past ∧
        demand past (.error (Refusal.locked about kind id).error) := by
  change (∀ taken, _) ↔ _
  simp only [Bool.forall_bool, Program.meets_bind, Program.meets_unlock, Program.meets_done,
    meets_refuse]
  exact And.comm

end Procedure

end ServiceBroker
