import ServiceBroker.Proofs.Memory.Account

/-! What a program noticed when it was run. The collaborators may be any and in any state, so what is
shown for a transcript holds however they are built. -/
namespace ServiceBroker

namespace Program

variable {σ α : Type} {allowed : List Happening → AnyCall → Prop}
  {demand : List Happening → α → Prop} {past : List Happening}

/-- The answers that a run gives to a program and the ids that it issues, in their order. -/
def transcript (h : Handler σ) : Program α → σ → List Happening
  | done _, _ => []
  | call c span next, s =>
    let (answer, s) := h.serve span c s
    .answered c answer :: (next answer).transcript h s
  | log event next, s => next.transcript h (h.note event s)
  | lock kind id next, s => let (taken, s) := h.acquire kind id s; (next taken).transcript h s
  | unlock kind id next, s => next.transcript h (h.release kind id s)
  | fresh next, s => let (id, s) := h.issue s; .issued id :: (next id).transcript h s

/-- The transcript of a program that goes on with another one. -/
theorem transcript_bind {β : Type} (h : Handler σ) (p : Program α) (f : α → Program β) (s : σ) :
    (p.bind f).transcript h s =
      p.transcript h s ++ (f (p.run h s).1).transcript h (p.run h s).2 := by
  induction p generalizing s with
  | done a => rfl
  | call c span next ih => exact congrArg (.answered c (h.serve span c s).1 :: ·) (ih _ _)
  | log event next ih => exact ih _
  | lock kind id next ih => exact ih _ _
  | unlock kind id next ih => exact ih _
  | fresh next ih => exact congrArg (.issued (h.issue s).1 :: ·) (ih _ _)

/-- A run is one of the courses that a program can take. -/
theorem Meets.transcript {p : Program α} (meets : p.Meets allowed demand past) (h : Handler σ)
    (s : σ) : demand (past ++ p.transcript h s) (p.run h s).1 := by
  induction p generalizing past s with
  | done a => simpa [Program.transcript, Program.run] using meets
  | call c span next ih =>
    have onward := ih (h.serve span c s).1 (meets.2 _) (h.serve span c s).2
    rwa [List.append_assoc] at onward
  | log event next ih => exact ih meets _
  | lock kind id next ih => exact ih _ (meets _) _
  | unlock kind id next ih => exact ih meets _
  | fresh next ih =>
    have onward := ih (h.issue s).1 (meets _) (h.issue s).2
    rwa [List.append_assoc] at onward

/-- What every step of a handler keeps holds of the transcript and of the state at its end. -/
theorem Handler.Keeps.transcript {h : Handler σ} {holds : List Happening → σ → Prop}
    (keeps : h.Keeps holds) (p : Program α) {s : σ} (begun : holds past s) :
    holds (past ++ p.transcript h s) (p.run h s).2 := by
  induction p generalizing past s with
  | done a => simpa [Program.transcript, Program.run] using begun
  | call c span next ih =>
    have onward := ih (h.serve span c s).1 (keeps.serves c span begun)
    rwa [List.append_assoc] at onward
  | log event next ih => exact ih (keeps.notes event begun)
  | lock kind id next ih => exact ih _ (keeps.acquires kind id begun)
  | unlock kind id next ih => exact ih (keeps.releases kind id begun)
  | fresh next ih =>
    have onward := ih (h.issue s).1 (keeps.issues begun)
    rwa [List.append_assoc] at onward

/-- What a program ends with if it is given the answers and the ids of a record, from its beginning
on. What comes after its end does not matter, and whether it gets a lock is not recorded. -/
inductive Ends : Program α → List Happening → α → Prop where
  | done (a : α) (record : List Happening) : Ends (.done a) record a
  | call {k : CallKind} {c : Call k} {span : Option Log.Span} {next : k.Answer → Program α}
      {answer : k.Answer} {record : List Happening} {a : α} (rest : Ends (next answer) record a) :
      Ends (.call c span next) (.answered c answer :: record) a
  | log {event : Log.Event} {next : Program α} {record : List Happening} {a : α}
      (rest : Ends next record a) : Ends (.log event next) record a
  | lock {kind : LockKind} {id : String} {next : Bool → Program α} (taken : Bool)
      {record : List Happening} {a : α} (rest : Ends (next taken) record a) :
      Ends (.lock kind id next) record a
  | unlock {kind : LockKind} {id : String} {next : Program α} {record : List Happening} {a : α}
      (rest : Ends next record a) : Ends (.unlock kind id next) record a
  | fresh {next : String → Program α} {id : String} {record : List Happening} {a : α}
      (rest : Ends (next id) record a) : Ends (.fresh next) (.issued id :: record) a

/-- A program ends as it is bound to, after a beginning of the record. -/
theorem Meets.of_ends {p : Program α} {record : List Happening} {a : α} (ends : p.Ends record a)
    (meets : p.Meets allowed demand past) :
    ∃ seen, seen <+: record ∧ demand (past ++ seen) a := by
  induction ends generalizing past with
  | done a record => exact ⟨[], List.nil_prefix, by simpa using meets⟩
  | @call k c _ _ answer _ _ _ ih =>
    obtain ⟨seen, before, holds⟩ := ih (meets.2 answer)
    refine ⟨.answered c answer :: seen, List.cons_prefix_cons.mpr ⟨rfl, before⟩, ?_⟩
    simpa using holds
  | log _ ih => exact ih meets
  | lock taken _ ih => exact ih (meets taken)
  | unlock _ ih => exact ih meets
  | @fresh _ id _ _ _ ih =>
    obtain ⟨seen, before, holds⟩ := ih (meets id)
    refine ⟨.issued id :: seen, List.cons_prefix_cons.mpr ⟨rfl, before⟩, ?_⟩
    simpa using holds

theorem Ends.of_prefix {p : Program α} {record later : List Happening} {a : α}
    (ends : p.Ends record a) (before : record <+: later) : p.Ends later a := by
  obtain ⟨more, rfl⟩ := before
  induction ends with
  | done a record => exact .done a _
  | call _ ih => exact .call ih
  | log _ ih => exact .log ih
  | lock taken _ ih => exact .lock taken ih
  | unlock _ ih => exact .unlock ih
  | fresh _ ih => exact .fresh ih

private theorem meets_ends_after (p : Program α) (past : List Happening) :
    p.Meets (fun _ _ => True) (fun later a => ∃ seen, later = past ++ seen ∧ p.Ends seen a) past := by
  induction p generalizing past with
  | done a => exact ⟨[], by simp, .done a []⟩
  | call c span next ih =>
    refine ⟨trivial, fun answer => (ih answer _).mono (fun _ _ _ _ => trivial) ?_⟩
    rintro later a _ ⟨seen, rfl, ends⟩
    exact ⟨.answered c answer :: seen, by simp, .call ends⟩
  | log event next ih =>
    refine (ih past).mono (fun _ _ _ _ => trivial) ?_
    rintro later a _ ⟨seen, rfl, ends⟩
    exact ⟨seen, rfl, .log ends⟩
  | lock kind id next ih =>
    refine fun taken => (ih taken past).mono (fun _ _ _ _ => trivial) ?_
    rintro later a _ ⟨seen, rfl, ends⟩
    exact ⟨seen, rfl, .lock taken ends⟩
  | unlock kind id next ih =>
    refine (ih past).mono (fun _ _ _ _ => trivial) ?_
    rintro later a _ ⟨seen, rfl, ends⟩
    exact ⟨seen, rfl, .unlock ends⟩
  | fresh next ih =>
    refine fun id => (ih id _).mono (fun _ _ _ _ => trivial) ?_
    rintro later a _ ⟨seen, rfl, ends⟩
    exact ⟨.issued id :: seen, by simp, .fresh ends⟩

/-- Along every course a program ends as what it went through makes it end. -/
theorem meets_ends (p : Program α) : p.Meets (fun _ _ => True) p.Ends [] := by
  refine (meets_ends_after p []).mono (fun _ _ _ _ => trivial) ?_
  rintro _ a _ ⟨seen, rfl, ends⟩
  exact ends

/-- A run ends as its transcript makes it end. -/
theorem ends_transcript (p : Program α) (h : Handler σ) (s : σ) :
    p.Ends (p.transcript h s) (p.run h s).1 := p.meets_ends.transcript h s

/-- Whatever a program does, what happened before it stays the beginning of what happened. -/
theorem meets_extends (p : Program α) (past : List Happening) :
    p.Meets (fun _ _ => True) (fun later _ => past <+: later) past := by
  induction p generalizing past with
  | done a => exact List.prefix_rfl
  | call c span next ih =>
    refine ⟨trivial, fun answer => (ih answer _).mono (fun _ _ _ _ => trivial) ?_⟩
    exact fun later _ _ before => (List.prefix_append ..).trans before
  | log event next ih => exact ih past
  | lock kind id next ih => exact fun taken => ih taken past
  | unlock kind id next ih => exact ih past
  | fresh next ih =>
    refine fun id => (ih id _).mono (fun _ _ _ _ => trivial) ?_
    exact fun later _ _ before => (List.prefix_append ..).trans before

end Program

namespace Procedure

variable {ε β σ : Type} {k : CallKind} {h : Program.Handler σ} {c : Call k} {value : k.Value} {s : σ}

/-- What follows a call that succeeds. -/
theorem run_ask_bind (answered : (h.serve none c s).1 = .ok value)
    (onFailure : k.Failure → Procedure ε k.Value) (next : k.Value → Procedure ε β) :
    (ask c onFailure >>= next).run.run h s = (next value).run.run h (h.serve none c s).2 := by
  simp only [ask, attempt, run_bind_procedure, ExceptT.run_mk, Program.bind, Program.run, answered]
  rfl

theorem transcript_ask_bind (answered : (h.serve none c s).1 = .ok value)
    (onFailure : k.Failure → Procedure ε k.Value) (next : k.Value → Procedure ε β) :
    (ask c onFailure >>= next).run.transcript h s =
      .answered c (.ok value) :: (next value).run.transcript h (h.serve none c s).2 := by
  simp only [ask, attempt, run_bind_procedure, ExceptT.run_mk, Program.bind, Program.transcript,
    answered]
  rfl

end Procedure

end ServiceBroker
