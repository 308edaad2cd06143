import ServiceBroker.Proofs.Broker.Openings
import ServiceBroker.Proofs.Process.Run

/-! What the record of a process is worth. What requests were told stays true of the world, up to
the progress of its tasks; every submission was permitted when it was made; and no id is issued
twice. All of this is kept by each step, so it holds of every process that a run leads to. -/
namespace ServiceBroker

open Memory

/-- What one step of a serving does, to the serving, to the world and to the record. -/
inductive Serving.Act (s : Serving) (w : World) : Serving → World → List Submission → Prop where
  /-- Nothing that other requests could notice in the backend or in the supply of ids. -/
  | quiet {rest : Program Response} {w' : World} (backend : w'.backend = w.backend)
      (ids : w'.ids = w.ids) (issued : w'.issued = w.issued)
      (course : ∀ {allowed demand}, s.rest.Meets allowed demand s.past →
        rest.Meets allowed demand s.past) :
      Act s w { s with rest } w' []
  /-- An id is taken. -/
  | took {rest : Program Response} (course : ∀ {allowed demand}, s.rest.Meets allowed demand s.past →
        rest.Meets allowed demand (s.past ++ [.issued (w.ids w.issued)])) :
      Act s w { s with past := s.past ++ [.issued (w.ids w.issued)], rest }
        { w with issued := w.issued + 1 } []
  /-- A call is made, and answered truthfully if at all. -/
  | asked {k : CallKind} {c : Call k} {answer : k.Answer} {rest : Program Response} {w' : World}
      {id : Option TaskId}
      (permitted : ∀ {allowed demand}, s.rest.Meets allowed demand s.past → allowed s.past ⟨k, c⟩)
      (course : ∀ {allowed demand}, s.rest.Meets allowed demand s.past →
        rest.Meets allowed demand (s.past ++ [.answered c answer]))
      (effect : Backend.Effect ⟨k, c⟩ w.backend w'.backend id) (ids : w'.ids = w.ids)
      (issued : w'.issued = w.issued)
      (created : ∀ made, Happening.created? (.answered c answer) = some made →
        id.map (fun id => (⟨k, c⟩, id)) = some made)
      (answered : ∀ value, answer = .ok value →
        ∃ deadline, (World.serve deadline c w).1 = .ok value) :
      Act s w { s with past := s.past ++ [.answered c answer], rest } w'
        (id.toList.map fun taskId =>
          { request := s.request, past := s.past, call := ⟨k, c⟩, taskId, before := w.backend })

namespace Serving

private theorem created?_expired {k : CallKind} (c : Call k) (e : k.Failure) :
    Happening.created? (.answered c (.error e)) = none := by
  cases c <;> rfl

/-- A finished serving takes no step. -/
theorem step_of_response {s : Serving} {r : Response} (finished : s.response? = some r)
    (delivery : Delivery) (w : World) : s.step delivery w = (s, w, []) := by
  obtain ⟨request, past, rest⟩ := s
  cases rest <;> first
    | rfl
    | cases finished

/-- Every step is such an act. -/
theorem act_step {w : World} (sound : w.backend.Sound) (delivery : Delivery) (s : Serving) :
    s.Act w (s.step delivery w).1 (s.step delivery w).2.1 (s.step delivery w).2.2 := by
  obtain ⟨request, past, rest⟩ := s
  cases rest with
  | done r => exact .quiet rfl rfl rfl id
  | log event next => exact .quiet rfl rfl rfl id
  | lock kind id next =>
    have same : (w.acquire kind id).2.backend = w.backend ∧ (w.acquire kind id).2.ids = w.ids ∧
        (w.acquire kind id).2.issued = w.issued := by
      obtain ⟨locks, frame⟩ := w.acquire_frame kind id
      rw [frame]
      exact ⟨rfl, rfl, rfl⟩
    exact .quiet same.1 same.2.1 same.2.2 fun meets => meets _
  | unlock kind id next => exact .quiet rfl rfl rfl fun meets => meets
  | fresh next => exact .took fun meets => meets _
  | @call k c span next =>
    cases delivery with
    | inTime deadline =>
      obtain ⟨id, effect, created⟩ := World.answered_serve sound deadline c
      have supply := World.supply_serve w deadline c
      have made : (w.created? (.inTime deadline) c) = id.map fun id => (⟨k, c⟩, id) := created
      have act : Serving.Act ⟨request, past, .call c span next⟩ w _ _ _ :=
        .asked (fun meets => meets.1) (fun meets => meets.2 (World.serve deadline c w).1) effect
          supply.1 supply.2 (fun _ isMade => created ▸ isMade) fun value is => ⟨deadline, is⟩
      cases id <;> simpa [step, World.deliver, made] using act
    | late deadline =>
      obtain ⟨id, effect, created⟩ := World.answered_serve sound deadline c
      have supply := World.supply_serve w deadline c
      have made : (w.created? (.late deadline) c) = id.map fun id => (⟨k, c⟩, id) := created
      have act : Serving.Act ⟨request, past, .call c span next⟩ w _ _ _ :=
        .asked (fun meets => meets.1) (fun meets => meets.2 (.error k.expired)) effect
          supply.1 supply.2 (fun _ isMade => nomatch (created?_expired c _).symm.trans isMade)
          fun _ impossible => nomatch impossible
      cases id <;> simpa [step, World.deliver, made] using act
    | unsent =>
      have act : Serving.Act ⟨request, past, .call c span next⟩ w _ _ _ :=
        .asked (fun meets => meets.1) (fun meets => meets.2 (.error k.expired))
          (.refl ⟨k, c⟩ w.backend) rfl rfl
          (fun _ isMade => nomatch (created?_expired c _).symm.trans isMade)
          fun _ impossible => nomatch impossible
      exact act

end Serving

/-- The task is that of the submission. -/
def Submission.Of (x : Submission) (e : OwnedTask) : Prop :=
  e.task.id = x.taskId ∧ x.call.submits? = some (e.deployment, e.task.contextId)

theorem Submission.Of.later {x : Submission} {e f : OwnedTask} (isOf : x.Of e) (moved : e.Becomes f) :
    x.Of f :=
  ⟨moved.task.id.trans isOf.1, by rw [isOf.2, moved.deployment, moved.task.context]⟩

theorem Submission.recorded_later (x : Submission) {b b' : Backend} (older : b.Older b')
    (recorded : ∃ e ∈ b.owned, x.Of e) : ∃ e ∈ b'.owned, x.Of e := by
  obtain ⟨e, member, isOf⟩ := recorded
  obtain ⟨f, member', moved⟩ := Grown.mem older member
  exact ⟨f, member', isOf.later moved⟩

/-- What happened to a request is true of the world and of the record, up to the progress of tasks.
Ids are those of the supply since some earlier world. -/
structure Happening.Holds (start w : World) (made : List Submission) (h : Happening) : Prop where
  issued : ∀ id, h = .issued id → ∃ n, start.issued ≤ n ∧ n < w.issued ∧ w.ids n = id
  fetched : ∀ id task, h = .answered (.getTask id) (.ok task) →
    task.id = id ∧ ∃ e ∈ w.backend.owned, task.Becomes e.task
  seen : ∀ deployment contextId tasks, h = .look deployment contextId tasks →
    Grown BackendTask.Becomes tasks
      (w.backend.tasksOf deployment fun task => task.contextId == contextId)
  created : ∀ c id, h.created? = some (c, id) → ∃ x ∈ made, x.call = c ∧ x.taskId = id

theorem Happening.Holds.later {start w w' : World} {made made' : List Submission} {h : Happening}
    (holds : h.Holds start w made) (older : w.backend.Older w'.backend) (ids : w'.ids = w.ids)
    (issued : w.issued ≤ w'.issued) (kept : made ⊆ made') : h.Holds start w' made' where
  issued id is := by
    obtain ⟨n, since, before, same⟩ := holds.issued id is
    exact ⟨n, since, Nat.lt_of_lt_of_le before issued, by rw [ids, same]⟩
  fetched id task is := by
    obtain ⟨same, e, member, moved⟩ := holds.fetched id task is
    obtain ⟨f, member', moved'⟩ := Grown.mem older member
    exact ⟨same, f, member', moved.trans moved'.task⟩
  seen deployment contextId tasks is :=
    Grown.trans (R := BackendTask.Becomes) BackendTask.Becomes.trans
      (holds.seen deployment contextId tasks is) (older.tasksOf deployment contextId)
  created c id is := by
    obtain ⟨x, member, same⟩ := holds.created c id is
    exact ⟨x, kept member, same⟩

/-- Every call was allowed after what had happened before it. -/
def Obeyed (allowed : List Happening → AnyCall → Prop) (past : List Happening) : Prop :=
  ∀ before (k : CallKind) (c : Call k) answer, before ++ [.answered c answer] <+: past →
    allowed before ⟨k, c⟩

theorem obeyed_nil {allowed : List Happening → AnyCall → Prop} : Obeyed allowed [] := by
  intro before k c answer isPrefix
  have := isPrefix.length_le
  simp at this

theorem Obeyed.issued {allowed : List Happening → AnyCall → Prop} {past : List Happening}
    (obeyed : Obeyed allowed past) (id : String) : Obeyed allowed (past ++ [.issued id]) := by
  intro before k c answer isPrefix
  rcases List.prefix_concat_iff.mp isPrefix with same | earlier
  · cases (List.append_inj' same rfl).2
  · exact obeyed before k c answer earlier

theorem Obeyed.answered {allowed : List Happening → AnyCall → Prop} {past : List Happening}
    (obeyed : Obeyed allowed past) {k : CallKind} {c : Call k} (permitted : allowed past ⟨k, c⟩)
    (answer : k.Answer) : Obeyed allowed (past ++ [.answered c answer]) := by
  intro before k' c' answer' isPrefix
  rcases List.prefix_concat_iff.mp isPrefix with same | earlier
  · obtain ⟨rfl, isLast⟩ := List.append_inj' same rfl
    cases isLast
    exact permitted
  · exact obeyed before k' c' answer' earlier

/-- The ids of a world can be told apart, and none that is still to be issued is in use. -/
structure Memory.World.Fresh (w : World) : Prop where
  sound : w.backend.Sound
  distinct : ∀ m n, w.ids m = w.ids n → m = n
  proper : ∀ n, w.ids n ≠ ""
  unused : ∀ n, w.issued ≤ n → ∀ task ∈ w.backend.tasks, task.contextId ≠ w.ids n

/-- A world with one deployment and nothing else. -/
def Memory.sampleWorld : World :=
  { ids := fun n => String.ofList (List.replicate (n + 1) 'c')
    backend := ({} : Backend).addDeployment "d-i" "" }

theorem Memory.fresh_sampleWorld : sampleWorld.Fresh where
  sound := Backend.sound_empty.congr ⟨rfl, rfl⟩ rfl
  distinct m n same := by
    have lengths := congrArg (fun s : String => s.toList.length) same
    simpa [sampleWorld] using lengths
  proper n empty := by
    have lengths := congrArg (fun s : String => s.toList.length) empty
    simp [sampleWorld] at lengths
  unused _ _ _ member := nomatch member

namespace Serving.Act

variable {s s' : Serving} {start w w' : World} {made old : List Submission}

theorem request_eq (act : s.Act w s' w' made) : s'.request = s.request := by
  cases act <;> rfl

/-- What happened stays in the record. -/
theorem past_subset (act : s.Act w s' w' made) : s.past ⊆ s'.past := by
  cases act with
  | quiet => exact fun _ member => member
  | took => exact List.subset_append_left ..
  | asked => exact List.subset_append_left ..

theorem supply (act : s.Act w s' w' made) : w'.ids = w.ids ∧ w.issued ≤ w'.issued := by
  cases act with
  | quiet _ ids issued _ => exact ⟨ids, Nat.le_of_eq issued.symm⟩
  | took _ => exact ⟨rfl, Nat.le_succ _⟩
  | asked _ _ _ ids issued _ _ => exact ⟨ids, Nat.le_of_eq issued.symm⟩

theorem older (act : s.Act w s' w' made) : w.backend.Older w'.backend := by
  cases act with
  | quiet backend _ _ _ => exact backend ▸ .refl _
  | took _ => exact .refl _
  | asked _ _ effect _ _ _ _ => exact effect.older

theorem sound (act : s.Act w s' w' made) (sound : w.backend.Sound) : w'.backend.Sound := by
  cases act with
  | quiet backend _ _ _ => exact backend ▸ sound
  | took _ => exact sound
  | asked _ _ effect _ _ _ _ => exact effect.sound sound

theorem keeps (act : s.Act w s' w' made) {allowed : List Happening → AnyCall → Prop}
    {demand : List Happening → Response → Prop} (keeps : s.rest.Meets allowed demand s.past) :
    s'.rest.Meets allowed demand s'.past := by
  cases act with
  | quiet _ _ _ course => exact course keeps
  | took course => exact course keeps
  | asked _ course _ _ _ _ _ => exact course keeps

theorem obeyed (act : s.Act w s' w' made) {allowed : List Happening → AnyCall → Prop}
    {demand : List Happening → Response → Prop} (obeyed : Obeyed allowed s.past)
    (keeps : s.rest.Meets allowed demand s.past) : Obeyed allowed s'.past := by
  cases act with
  | quiet => exact obeyed
  | took => exact obeyed.issued _
  | asked permitted => exact obeyed.answered (permitted keeps) _

/-- The submission of a step was permitted at that point. -/
theorem made_spec (act : s.Act w s' w' made) {x : Submission} (member : x ∈ made) :
    x.request = s.request ∧ x.past = s.past ∧ x.before = w.backend ∧
      ∀ {allowed : List Happening → AnyCall → Prop} {demand : List Happening → Response → Prop},
        s.rest.Meets allowed demand s.past → allowed s.past x.call := by
  cases act with
  | quiet => cases member
  | took => cases member
  | @asked _ _ _ _ _ id permitted _ _ _ _ _ _ =>
    cases id with
    | none => cases member
    | some id =>
      rw [List.mem_singleton.mp member]
      exact ⟨rfl, rfl, rfl, permitted⟩

/-- The submission of a step has a task. -/
theorem made_of (act : s.Act w s' w' made) {x : Submission} (member : x ∈ made) :
    ∃ e ∈ w'.backend.owned, x.Of e := by
  cases act with
  | quiet => cases member
  | took => cases member
  | asked _ _ effect =>
    cases effect with
    | none => cases member
    | created submits isNext context adds =>
      rw [List.mem_singleton.mp member, adds.owned]
      exact ⟨_, List.mem_append_right _ (List.mem_singleton_self _), isNext, by rw [submits, context]⟩

/-- What a step brings up is true. -/
theorem holds (act : s.Act w s' w' made) (sound : w.backend.Sound)
    (since : start.issued ≤ w.issued)
    (holds : ∀ h ∈ s.past, h.Holds start w old) {h : Happening} (member : h ∈ s'.past) :
    h.Holds start w' (old ++ made) := by
  have later {h : Happening} (isPast : h ∈ s.past) : h.Holds start w' (old ++ made) :=
    (holds h isPast).later act.older act.supply.1 act.supply.2 (List.subset_append_left ..)
  cases act with
  | quiet => exact later member
  | took =>
    rcases List.mem_append.mp member with member | member
    · exact later member
    · rw [List.mem_singleton.mp member]
      constructor
      · rintro id ⟨⟩
        exact ⟨w.issued, since, Nat.lt_succ_self _, rfl⟩
      · rintro _ _ ⟨⟩
      · rintro _ _ _ ⟨⟩
      · rintro _ _ ⟨⟩
  | @asked k c answer rest w' id permitted course effect ids issued created answered =>
    rcases List.mem_append.mp member with member | member
    · exact later member
    · rw [List.mem_singleton.mp member]
      constructor
      · rintro _ ⟨⟩
      · rintro id task is
        cases is
        obtain ⟨deadline, read⟩ := answered task rfl
        obtain ⟨same, e, held, rfl⟩ := World.mem_of_getTask sound read
        obtain ⟨f, held', moved⟩ := Grown.mem effect.older held
        exact ⟨same, f, held', moved.task⟩
      · rintro deployment contextId tasks is
        cases is
        obtain ⟨deadline, read⟩ := answered tasks rfl
        rw [World.eq_of_getTasksByContext read]
        exact effect.older.tasksOf deployment contextId
      · rintro c id is
        obtain ⟨taskId, rfl, same⟩ := Option.map_eq_some_iff.mp (created _ is)
        cases same
        exact ⟨_, List.mem_append_right _ (List.mem_singleton_self _), rfl, rfl⟩

/-- A submission that a step brings up is the one it made. -/
theorem created (act : s.Act w s' w' made) {h : Happening} (member : h ∈ s'.past) {c : AnyCall}
    {id : TaskId} (isCreated : h.created? = some (c, id)) :
    h ∈ s.past ∨ ∃ x, made = [x] ∧ x.call = c ∧ x.taskId = id := by
  cases act with
  | quiet => exact .inl member
  | took =>
    rcases List.mem_append.mp member with member | member
    · exact .inl member
    · rw [List.mem_singleton.mp member] at isCreated
      cases isCreated
  | asked _ _ _ _ _ created _ =>
    rcases List.mem_append.mp member with member | member
    · exact .inl member
    · rw [List.mem_singleton.mp member] at isCreated
      obtain ⟨taskId, rfl, same⟩ := Option.map_eq_some_iff.mp (created _ isCreated)
      cases same
      exact .inr ⟨_, rfl, rfl, rfl⟩

/-- A request that has only looked at tasks has seen those that there are, just now or before. -/
theorem looked (act : s.Act w s' w' made) {deployment contextId : String} {tasks : List BackendTask}
    (past : s'.past = [.look deployment contextId tasks]) : s.past = s'.past ∨
      s.past = [] ∧ tasks = w.backend.tasksOf deployment fun task => task.contextId == contextId := by
  cases act with
  | quiet => exact .inl rfl
  | took =>
    obtain ⟨_, same⟩ := List.append_inj' (past.trans (List.nil_append _).symm) rfl
    cases same
  | asked _ _ _ _ _ _ answered =>
    obtain ⟨empty, same⟩ := List.append_inj' (past.trans (List.nil_append _).symm) rfl
    cases same
    obtain ⟨deadline, read⟩ := answered tasks rfl
    exact .inr ⟨empty, World.eq_of_getTasksByContext read⟩

/-- The only id that a step may take is the next one of the supply. -/
theorem issued (act : s.Act w s' w' made) {id : String} (member : .issued id ∈ s'.past) :
    .issued id ∈ s.past ∨ id = w.ids w.issued := by
  cases act with
  | quiet => exact .inl member
  | took =>
    rcases List.mem_append.mp member with member | member
    · exact .inl member
    · cases List.mem_singleton.mp member
      exact .inr rfl
  | asked =>
    rcases List.mem_append.mp member with member | member
    · exact .inl member
    · cases List.mem_singleton.mp member

end Serving.Act

/-- What is left of the program of a request meets whatever the program as a whole meets. -/
def Serving.Follows (config : BrokerConfig) (s : Serving) : Prop :=
  ∀ (allowed : List Happening → AnyCall → Prop) (demand : List Happening → Response → Prop),
    (s.request.program config).Meets allowed demand [] → s.rest.Meets allowed demand s.past

theorem Serving.Follows.act {config : BrokerConfig} {s s' : Serving} {w w' : World}
    {made : List Submission} (follows : s.Follows config) (act : s.Act w s' w' made) :
    s'.Follows config := by
  intro allowed demand meets
  rw [act.request_eq] at meets
  exact act.keeps (follows allowed demand meets)

namespace Process

/-- The process keeps to the programs of its requests, and its record is true. -/
structure Faithful (config : BrokerConfig) (start : World) (p : Process) : Prop where
  sound : p.world.backend.Sound
  ids : p.world.ids = start.ids
  issued : start.issued ≤ p.world.issued
  follows : ∀ s ∈ p.servings, s.Follows config
  holds : ∀ s ∈ p.servings, ∀ h ∈ s.past, h.Holds start p.world p.submissions
  obeyed : ∀ s ∈ p.servings, Obeyed (s.request.Permits config) s.past
  recorded : ∀ x ∈ p.submissions, ∃ e ∈ p.world.backend.owned, x.Of e
  before : ∀ x ∈ p.submissions, x.before.Older p.world.backend
  seen : ∀ x ∈ p.submissions, ∀ deployment contextId tasks,
    .look deployment contextId tasks ∈ x.past → Grown BackendTask.Becomes tasks
      (x.before.tasksOf deployment fun task => task.contextId == contextId)
  /-- No id was issued to two requests. -/
  apart : ∀ (i j : Nat) (s t : Serving) (id : String), p.servings[i]? = some s →
    p.servings[j]? = some t → .issued id ∈ s.past → .issued id ∈ t.past → i = j

variable {config : BrokerConfig} {admits : Process → Request → Prop} {start : World} {p p' : Process}

/-- So the requests keep to their rules. -/
theorem Faithful.keeps (faithful : p.Faithful config start) (s : Serving) (served : s ∈ p.servings) :
    s.rest.Meets (s.request.Permits config) (s.request.Yields config) s.past :=
  faithful.follows s served _ _ (s.request.meets_program config)

/-- What a step of a process comes to: one that takes a request further is an act of a serving that
has not been answered. -/
inductive Move (config : BrokerConfig) (admits : Process → Request → Prop) (p : Process) :
    Process → Prop where
  | still : Move config admits p p
  | received {request : Request} (admitted : admits p request) :
      Move config admits p (p.receive config request)
  | drifted {world : World} (drifts : p.world.Drifts world) : Move config admits p { p with world }
  | acted {i : Nat} {s s' : Serving} {world : World} {made : List Submission}
      (served : p.servings[i]? = some s) (waiting : s.response? = none)
      (act : s.Act p.world s' world made) :
      Move config admits p ⟨world, p.servings.set i s', p.submissions ++ made⟩

theorem Step.move (sound : p.world.backend.Sound) (step : Step config admits p p') :
    Move config admits p p' := by
  cases step with
  | receive admitted => exact .received admitted
  | drift drifts => exact .drifted drifts
  | advance i delivery =>
    cases served : p.servings[i]? with
    | none =>
      rw [Process.advance, served]
      exact .still
    | some s =>
      rw [advance_of_served served]
      cases waiting : s.response? with
      | none => exact .acted served waiting (Serving.act_step sound delivery s)
      | some r =>
        rw [Serving.step_of_response waiting]
        simpa only [set_of_getElem?_eq_some served, List.append_nil] using Move.still

theorem Faithful.drift (faithful : p.Faithful config start) {world : World}
    (drifts : p.world.Drifts world) : ({ p with world } : Process).Faithful config start := by
  have older : p.world.backend.Older world.backend := .of_moved drifts.tasks
  exact {
    sound := faithful.sound.of_moved drifts.tasks drifts.next
    ids := drifts.ids.trans faithful.ids
    issued := drifts.issued ▸ faithful.issued
    follows := faithful.follows
    holds := fun s member h isPast =>
      (faithful.holds s member h isPast).later older drifts.ids (Nat.le_of_eq drifts.issued.symm)
        fun _ member => member
    obeyed := faithful.obeyed
    recorded := fun x member => x.recorded_later older (faithful.recorded x member)
    before := fun x member => (faithful.before x member).trans older
    seen := faithful.seen
    apart := faithful.apart }

theorem Faithful.receive (faithful : p.Faithful config start) (request : Request) :
    (p.receive config request).Faithful config start where
  sound := faithful.sound
  ids := faithful.ids
  issued := faithful.issued
  follows s member := by
    rcases List.mem_append.mp member with member | member
    · exact faithful.follows s member
    · rw [List.mem_singleton.mp member]
      exact fun _ _ meets => meets
  holds s member h isPast := by
    rcases List.mem_append.mp member with member | member
    · exact faithful.holds s member h isPast
    · rw [List.mem_singleton.mp member] at isPast
      cases isPast
  obeyed s member := by
    rcases List.mem_append.mp member with member | member
    · exact faithful.obeyed s member
    · rw [List.mem_singleton.mp member]
      exact obeyed_nil
  recorded := faithful.recorded
  before := faithful.before
  seen := faithful.seen
  apart i j s t id first second isFirst isSecond := by
    have old {i : Nat} {s : Serving} (held : (p.receive config request).servings[i]? = some s)
        (isPast : .issued id ∈ s.past) : p.servings[i]? = some s := by
      rw [Process.receive, List.getElem?_append] at held
      split at held
      · exact held
      · have new := List.mem_singleton.mp (List.mem_of_getElem? held)
        rw [new] at isPast
        cases isPast
    exact faithful.apart i j s t id (old first isFirst) (old second isSecond) isFirst isSecond

/-- An id that a request takes was not issued to any other. -/
theorem Faithful.apart_act (distinct : ∀ m n, start.ids m = start.ids n → m = n)
    (faithful : p.Faithful config start) {i : Nat} {s s' : Serving} {w : World}
    {made : List Submission} (served : p.servings[i]? = some s) (act : s.Act p.world s' w made)
    (j l : Nat) (t u : Serving) (id : String) (first : (p.servings.set i s')[j]? = some t)
    (second : (p.servings.set i s')[l]? = some u) (isFirst : .issued id ∈ t.past)
    (isSecond : .issued id ∈ u.past) : j = l := by
  have fresh {j : Nat} {t : Serving} (isServed : p.servings[j]? = some t)
      (isPast : .issued (p.world.ids p.world.issued) ∈ t.past) : False := by
    obtain ⟨n, _, before, same⟩ :=
      (faithful.holds t (List.mem_of_getElem? isServed) _ isPast).issued _ rfl
    rw [faithful.ids] at same
    have := distinct _ _ same
    omega
  have other {j : Nat} {t : Serving} (isServed : (p.servings.set i s')[j]? = some t)
      (different : i ≠ j) : p.servings[j]? = some t := by
    rwa [List.getElem?_set_ne different] at isServed
  have own {t : Serving} (isServed : (p.servings.set i s')[i]? = some t) : t = s' := by
    obtain ⟨inside, _⟩ := List.getElem?_eq_some_iff.mp served
    rw [List.getElem?_set_self inside] at isServed
    exact (Option.some.inj isServed).symm
  by_cases isLeft : i = j <;> by_cases isRight : i = l
  · exact isLeft.symm.trans isRight
  · subst isLeft
    rw [own first] at isFirst
    rcases act.issued isFirst with isPast | rfl
    · exact faithful.apart i l s u id served (other second isRight) isPast isSecond
    · exact (fresh (other second isRight) isSecond).elim
  · subst isRight
    rw [own second] at isSecond
    rcases act.issued isSecond with isPast | rfl
    · exact faithful.apart j i t s id (other first isLeft) served isFirst isPast
    · exact (fresh (other first isLeft) isFirst).elim
  · exact faithful.apart j l t u id (other first isLeft) (other second isRight) isFirst isSecond

theorem Faithful.act (distinct : ∀ m n, start.ids m = start.ids n → m = n)
    (faithful : p.Faithful config start) {i : Nat} {s s' : Serving} {w : World}
    {made : List Submission} (served : p.servings[i]? = some s) (act : s.Act p.world s' w made) :
    Faithful config start ⟨w, p.servings.set i s', p.submissions ++ made⟩ := by
  have member := List.mem_of_getElem? served
  have keeps := faithful.keeps s member
  constructor
  · exact act.sound faithful.sound
  · exact act.supply.1.trans faithful.ids
  · exact Nat.le_trans faithful.issued act.supply.2
  · intro t isServed
    rcases List.mem_or_eq_of_mem_set isServed with isOld | rfl
    · exact faithful.follows t isOld
    · exact (faithful.follows s member).act act
  · intro t isServed h isPast
    rcases List.mem_or_eq_of_mem_set isServed with isOld | rfl
    · exact (faithful.holds t isOld h isPast).later act.older act.supply.1 act.supply.2
        (List.subset_append_left ..)
    · exact act.holds faithful.sound faithful.issued (faithful.holds s member) isPast
  · intro t isServed
    rcases List.mem_or_eq_of_mem_set isServed with isOld | rfl
    · exact faithful.obeyed t isOld
    · rw [act.request_eq]
      exact act.obeyed (faithful.obeyed s member) keeps
  · intro x isMade
    rcases List.mem_append.mp isMade with isOld | isNew
    · exact x.recorded_later act.older (faithful.recorded x isOld)
    · exact act.made_of isNew
  · intro x isMade
    rcases List.mem_append.mp isMade with isOld | isNew
    · exact (faithful.before x isOld).trans act.older
    · obtain ⟨_, _, before, _⟩ := act.made_spec isNew
      rw [before]
      exact act.older
  · intro x isMade deployment contextId tasks isPast
    rcases List.mem_append.mp isMade with isOld | isNew
    · exact faithful.seen x isOld deployment contextId tasks isPast
    · obtain ⟨_, past, before, _⟩ := act.made_spec isNew
      rw [before]
      exact (faithful.holds s member _ (past ▸ isPast)).seen deployment contextId tasks rfl
  · exact faithful.apart_act distinct served act

/-- Every step keeps a process faithful. -/
theorem Faithful.step (distinct : ∀ m n, start.ids m = start.ids n → m = n)
    (faithful : p.Faithful config start) (step : Step config admits p p') :
    p'.Faithful config start := by
  cases step.move faithful.sound with
  | still => exact faithful
  | received _ => exact faithful.receive _
  | drifted drifts => exact faithful.drift drifts
  | acted served _ act => exact faithful.act distinct served act

/-- Every run keeps a process faithful. -/
theorem Faithful.run (distinct : ∀ m n, start.ids m = start.ids n → m = n)
    (faithful : p.Faithful config start) (run : Run config admits p p') :
    p'.Faithful config start := by
  induction run with
  | refl => exact faithful
  | tail _ step ih => exact ih.step distinct step

/-- A process that has served nobody is faithful. -/
theorem faithful_begin (config : BrokerConfig) (sound : start.backend.Sound) :
    ({ world := start } : Process).Faithful config start where
  sound := sound
  ids := rfl
  issued := Nat.le_refl _
  follows _ impossible := nomatch impossible
  holds _ impossible := nomatch impossible
  obeyed _ impossible := nomatch impossible
  recorded _ impossible := nomatch impossible
  before _ impossible := nomatch impossible
  seen _ impossible := nomatch impossible
  apart _ _ _ _ _ impossible := nomatch impossible

/-- So is one that has just begun with a request. -/
theorem faithful_alone (config : BrokerConfig) (sound : start.backend.Sound) (request : Request) :
    (alone config start request).Faithful config start := (faithful_begin config sound).receive request

end Process

end ServiceBroker
