import ServiceBroker.Proofs.Broker.InStep
import ServiceBroker.Proofs.Memory.Growth

/-! One program run in one world. What the program noticed accounts for what changed: the calls that
were made, the tasks that are new, and nothing else about the backend if none is. Locks that were
taken around a part of the program are free again. -/
namespace ServiceBroker

/-- The call that was answered. -/
def Happening.call? : Happening → Option AnyCall
  | .answered c _ => some ⟨_, c⟩
  | .issued _ => none

/-- A submission that created no task was not answered with one. -/
theorem Happening.ne_ok_of_created? {k : CallKind} {c : Call k} {answer : k.Answer}
    (submits : (AnyCall.submits? ⟨k, c⟩).isSome)
    (nothing : (Happening.answered c answer).created? = none) (value : k.Value) :
    answer ≠ .ok value := by
  rintro rfl
  cases c with
  | submitDeploy | submitErrand | submitDelete | submitRecreate => cases nothing
  | _ => cases submits

namespace Program

variable {α : Type} {allowed : List Happening → AnyCall → Prop} {past : List Happening}
  {demand demand' : List Happening → α → Prop}

/-- What a program meets in two ways it meets in both. -/
theorem Meets.and {p : Program α} (first : p.Meets allowed demand past)
    (second : p.Meets (fun _ _ => True) demand' past) :
    p.Meets allowed (fun later a => demand later a ∧ demand' later a) past := by
  induction p generalizing past with
  | done a => exact ⟨first, second⟩
  | call c span next ih =>
    exact ⟨first.1, fun answer => ih answer (first.2 answer) (second.2 answer)⟩
  | log event next ih => exact ih first second
  | lock kind id next ih => exact fun taken => ih taken (first taken) (second taken)
  | unlock kind id next ih => exact ih first second
  | fresh next ih => exact fun id => ih id (first id) (second id)

/-- Every step of a handler keeps what holds of a state and of what a program noticed so far. -/
structure Handler.Keeps {σ : Type} (h : Handler σ) (holds : List Happening → σ → Prop) : Prop where
  serves : ∀ {past : List Happening} {s : σ} {k : CallKind} (c : Call k) (span : Option Log.Span),
    holds past s → holds (past ++ [.answered c (h.serve span c s).1]) (h.serve span c s).2
  notes : ∀ {past : List Happening} {s : σ} (event : Log.Event),
    holds past s → holds past (h.note event s)
  acquires : ∀ {past : List Happening} {s : σ} (kind : LockKind) (id : String),
    holds past s → holds past (h.acquire kind id s).2
  releases : ∀ {past : List Happening} {s : σ} (kind : LockKind) (id : String),
    holds past s → holds past (h.release kind id s)
  issues : ∀ {past : List Happening} {s : σ},
    holds past s → holds (past ++ [.issued (h.issue s).1]) (h.issue s).2

/-- So does the run of a program, and at its end the demands on the program are met. -/
theorem Meets.run {σ : Type} {h : Handler σ} {holds : List Happening → σ → Prop}
    (keeps : h.Keeps holds) {p : Program α} (meets : p.Meets allowed demand past) {s : σ}
    (begun : holds past s) :
    ∃ later, demand later (p.run h s).1 ∧ holds later (p.run h s).2 := by
  induction p generalizing past s with
  | done a => exact ⟨past, meets, begun⟩
  | call c span next ih => exact ih _ (meets.2 _) (keeps.serves c span begun)
  | log event next ih => exact ih meets (keeps.notes event begun)
  | lock kind id next ih => exact ih _ (meets _) (keeps.acquires kind id begun)
  | unlock kind id next ih => exact ih meets (keeps.releases kind id begun)
  | fresh next ih => exact ih _ (meets _) (keeps.issues begun)

end Program

/-- What was locked is unlocked. -/
theorem Locks.release_of_acquire? {l l' : Locks} {kind : LockKind} {id : String}
    (acquired : l.acquire? kind id = some l') : l'.release kind id = l := by
  obtain ⟨r, taken, rfl⟩ := Option.map_eq_some_iff.mp acquired
  unfold LockRegistry.acquire? at taken
  split at taken
  · cases taken
  · cases taken
    cases kind <;> simp [Locks.release, Locks.set, Locks.registry, LockRegistry.release]

namespace Memory

/-- A call that is sure to be answered if it is carried out, and that was not answered. -/
theorem Backend.unlessFailing_failed {α : Type} (b : Backend) (kind : CallKind)
    (act : Backend → Except BackendError α × Backend) (acts : ∀ b, ∃ a, (act b).1 = .ok a)
    (failed : ∀ a, (b.unlessFailing kind act).1 ≠ .ok a) : (b.unlessFailing kind act).2 = b := by
  obtain done | ⟨e, turned⟩ := unlessFailing_cases b kind act
  · obtain ⟨a, answered⟩ := acts b
    exact absurd (done ▸ answered) (failed a)
  · rw [turned]

namespace World

/-- A call is recorded, and nothing but the backend and the clock may change. -/
theorem serve_frame (w : World) (deadline : Option Millis) {k : CallKind} (c : Call k) :
    ∃ backend now,
      (serve deadline c w).2 = { w with calls := w.calls ++ [⟨k, c⟩], backend, now } := by
  cases c with
  | submitDeploy request =>
    let asked : World := { w with calls := w.calls ++ [⟨_, .submitDeploy request⟩] }
    change ∃ backend now, (asked.submitDeploy deadline request).2 = { asked with backend, now }
    obtain ⟨now, ⟨e, failed⟩ | done⟩ := asked.submitDeploy_cases deadline request
    · exact ⟨_, now, by rw [failed]⟩
    · exact ⟨_, now, by rw [done]⟩
  | _ => exact ⟨_, _, rfl⟩

/-- A call that created no task left the backend alone. -/
theorem backend_serve {w : World} {deadline : Option Millis} {k : CallKind} {c : Call k}
    (nothing : (Happening.answered c (serve deadline c w).1).created? = none) :
    (serve deadline c w).2.backend = w.backend := by
  cases c with
  | submitDeploy request =>
    let asked : World := { w with calls := w.calls ++ [⟨_, .submitDeploy request⟩] }
    change (Happening.answered (.submitDeploy request)
      (asked.submitDeploy deadline request).1).created? = none at nothing
    change (asked.submitDeploy deadline request).2.backend = w.backend
    obtain ⟨now, ⟨e, failed⟩ | done⟩ := asked.submitDeploy_cases deadline request
    · rw [failed]
    · rw [done] at nothing
      cases nothing
  | submitErrand deployment errand contextId =>
    change (w.backend.submitErrand deployment errand contextId).2 = w.backend
    exact Backend.unlessFailing_failed _ _ _ (fun b => ⟨_, rfl⟩)
      (Happening.ne_ok_of_created? rfl nothing)
  | submitDelete deployment contextId force =>
    change (w.backend.submitDelete deployment contextId).2 = w.backend
    exact Backend.unlessFailing_failed _ _ _ (fun b => ⟨_, rfl⟩)
      (Happening.ne_ok_of_created? rfl nothing)
  | submitRecreate deployment contextId =>
    change (w.backend.submitRecreate deployment contextId).2 = w.backend
    exact Backend.unlessFailing_failed _ _ _ (fun b => ⟨_, rfl⟩)
      (Happening.ne_ok_of_created? rfl nothing)
  | getTask id =>
    change (w.backend.getTask id).2 = w.backend
    exact Backend.unlessFailing_reads ..
  | getTasksByContext deployment contextId =>
    change (w.backend.getTasksByContext deployment contextId).2 = w.backend
    exact Backend.unlessFailing_reads ..
  | getTasksInProgress deployment =>
    change (w.backend.getTasksInProgress deployment).2 = w.backend
    exact Backend.unlessFailing_reads ..
  | getDeployment deployment =>
    change (w.backend.getDeployment deployment).2 = w.backend
    exact Backend.unlessFailing_reads ..
  | getVms deployment =>
    change (w.backend.getVms deployment).2 = w.backend
    exact Backend.unlessFailing_reads ..
  | deleteConfigs deployment =>
    change w.backend.deleteConfigs.2 = w.backend
    exact Backend.unlessFailing_reads ..
  | _ => rfl

/-- A program that is in step with itself leaves the locks as they were. -/
theorem locks_run {alike : (k : CallKind) → k.Answer → k.Answer → Prop} {α β : Type}
    {ends : α → β → Prop} {p : Program α} {q : Program β} (deadline : Option Millis)
    (reflects : ∀ k (answer : k.Answer), alike k answer answer)
    (inStep : Program.InStep alike ends p q) (w : World) :
    (∃ b, ends (p.run (handler deadline) w).1 b) ∧
      (p.run (handler deadline) w).2.locks = w.locks := by
  induction inStep generalizing w with
  | done ended => exact ⟨⟨_, ended⟩, rfl⟩
  | call c span span' _ ih =>
    obtain ⟨ended, same⟩ := ih _ _ (reflects _ (serve deadline c w).1) (serve deadline c w).2
    obtain ⟨_, _, frame⟩ := serve_frame w deadline c
    exact ⟨ended, same.trans (by rw [frame])⟩
  | logLeft event _ ih => exact ih (w.note event)
  | logRight event _ ih => exact ih w
  | fresh _ ih => exact ih _ w.issue.2
  | @locked _ _ _ _ _ _ kind id next _ body _ after _ taken _ _ _ _ held onward refused =>
    cases acquired : w.locks.acquire? kind id with
    | none =>
      have turned : (Program.lock kind id next).run (handler deadline) w =
          (next false).run (handler deadline) w := by
        simp only [Program.run, handler, acquire, acquired]
      rw [turned]
      exact refused w
    | some locks =>
      obtain ⟨⟨b, ended⟩, kept⟩ := held { w with locks }
      have entered : (Program.lock kind id next).run (handler deadline) w =
          (after (body.run (handler deadline) { w with locks }).1).run (handler deadline)
            (release kind id (body.run (handler deadline) { w with locks }).2) := by
        simp only [Program.run, handler, acquire, acquired, taken]
        rw [Program.run_bind]
        rfl
      rw [entered]
      obtain ⟨ended', same⟩ := onward _ b ended
        (release kind id (body.run (handler deadline) { w with locks }).2)
      refine ⟨ended', same.trans ?_⟩
      change (body.run (handler deadline) { w with locks }).2.locks.release kind id = w.locks
      rw [kept]
      exact Locks.release_of_acquire? acquired

/-- How far what was noticed since an earlier state of a world accounts for the world. -/
structure Accounts (start : World) (past : List Happening) (w : World) : Prop where
  sound : w.backend.Sound
  ids : w.ids = start.ids
  issued : ∀ id, .issued id ∈ past → ∃ n, id = start.ids n
  calls : w.calls = start.calls ++ past.filterMap Happening.call?
  /-- Each new task is that of a submission, in their order. -/
  tasks : ∃ added, w.backend.owned = start.backend.owned ++ added ∧ List.Forall₂
    (fun (e : OwnedTask) made => made.2 = e.task.id ∧
      made.1.submits? = some (e.deployment, e.task.contextId))
    added (past.filterMap Happening.created?)
  /-- Without a submission the backend is what it was. -/
  untouched : (∀ h ∈ past, h.created? = none) → w.backend = start.backend

variable {start w : World} {past : List Happening}

theorem accounts_nil (sound : start.backend.Sound) : start.Accounts [] start where
  sound := sound
  ids := rfl
  issued _ impossible := nomatch impossible
  calls := (List.append_nil _).symm
  tasks := ⟨[], (List.append_nil _).symm, .nil⟩
  untouched _ := rfl

theorem Accounts.serve (accounts : start.Accounts past w) (deadline : Option Millis) {k : CallKind}
    (c : Call k) : start.Accounts (past ++ [.answered c (World.serve deadline c w).1])
      (World.serve deadline c w).2 := by
  obtain ⟨created, effect, answered⟩ := answered_serve accounts.sound deadline c
  constructor
  · exact effect.sound accounts.sound
  · exact (supply_serve w deadline c).1.trans accounts.ids
  · intro id member
    rcases List.mem_append.mp member with isPast | isLast
    · exact accounts.issued id isPast
    · cases List.mem_singleton.mp isLast
  · obtain ⟨_, _, frame⟩ := serve_frame w deadline c
    rw [frame, List.filterMap_append, ← List.append_assoc, ← accounts.calls]
    rfl
  · obtain ⟨added, tasks, paired⟩ := accounts.tasks
    rw [List.filterMap_append]
    cases effect with
    | none kept _ =>
      refine ⟨added, kept.owned.trans tasks, ?_⟩
      simpa [answered] using paired
    | @created deployment contextId task submits isNext context adds _ =>
      refine ⟨added ++ [⟨deployment, task⟩], ?_, ?_⟩
      · rw [adds.owned, tasks, List.append_assoc]
      · refine List.rel_append paired ?_
        simp only [List.filterMap_cons, answered, Option.map_some, List.filterMap_nil]
        exact .cons ⟨isNext.symm, by rw [submits, context]⟩ .nil
  · intro nothing
    have before := accounts.untouched fun h member => nothing h (List.mem_append_left _ member)
    have last := nothing _ (List.mem_append_right past (List.mem_singleton_self _))
    exact (backend_serve last).trans before

theorem Accounts.issue (accounts : start.Accounts past w) :
    start.Accounts (past ++ [.issued w.issue.1]) w.issue.2 := by
  have silent {β : Type} (f : Happening → Option β) (skips : f (.issued w.issue.1) = none) :
      (past ++ [Happening.issued w.issue.1]).filterMap f = past.filterMap f := by
    simp [skips]
  constructor
  · exact accounts.sound
  · exact accounts.ids
  · intro id member
    rcases List.mem_append.mp member with isPast | isLast
    · exact accounts.issued id isPast
    · cases List.mem_singleton.mp isLast
      exact ⟨w.issued, congrFun accounts.ids w.issued⟩
  · rw [silent Happening.call? rfl]
    exact accounts.calls
  · rw [silent Happening.created? rfl]
    exact accounts.tasks
  · exact fun nothing => accounts.untouched fun h member =>
      nothing h (List.mem_append_left _ member)

/-- Every step of a world is accounted for. -/
theorem keeps_accounts (start : World) (deadline : Option Millis) :
    (handler deadline).Keeps start.Accounts where
  serves c _ accounts := accounts.serve deadline c
  notes _ accounts := { accounts with }
  acquires {past w} kind id accounts := by
    simp only [handler, acquire]
    cases w.locks.acquire? kind id with
    | none => exact accounts
    | some held => exact { accounts with }
  releases _ _ accounts := { accounts with }
  issues accounts := accounts.issue

end World

end Memory

end ServiceBroker
