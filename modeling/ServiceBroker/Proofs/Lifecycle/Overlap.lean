import ServiceBroker.Proofs.Lifecycle.Deletion

/-! Polls side by side. A poll decides by the tasks that it has seen, and nothing keeps another poll
from submitting the same step in the meantime. Each step is submitted once exactly if no poll
submits anything after the tasks have become more than it has seen. -/
namespace ServiceBroker

open Memory Lifecycle

/-- How many tasks of a context a request was told of. -/
def Happening.sawTasks : Happening → Nat
  | .answered (.getTasksByContext _ _) (.ok tasks) => List.length (α := BackendTask) tasks
  | _ => 0

/-- The place of a submission among the steps of its operation: after the tasks that the request had
seen. -/
def Submission.place (x : Submission) : Nat := (x.past.getLast?.map Happening.sawTasks).getD 0

theorem Submission.place_of_preliminary {x : Submission} (early : ∀ h ∈ x.past, h.isPreliminary) :
    x.place = 0 := by
  unfold place
  cases last : x.past.getLast? with
  | none => rfl
  | some h =>
    have preliminary := early h (List.mem_of_getLast? last)
    cases h with
    | issued id => rfl
    | answered c answer =>
      cases c <;> first
        | rfl
        | cases preliminary

theorem Submission.place_of_look {x : Submission} {deployment contextId : String}
    {tasks : List BackendTask} (past : x.past = [.look deployment contextId tasks]) :
    x.place = tasks.length := by
  rw [place, past]
  rfl

/-- Numbers that do not run ahead of their places are distinct only if they are the places. -/
theorem nodup_iff_eq_range {l : List Nat} (behind : ∀ (k n : Nat), l[k]? = some n → n ≤ k) :
    l.Nodup ↔ ∀ (k n : Nat), l[k]? = some n → n = k := by
  constructor
  · intro distinct k
    induction k using Nat.strongRecOn with
    | ind k ih =>
      intro n held
      rcases Nat.lt_or_eq_of_le (behind k n held) with before | same
      · have inside := (List.getElem?_eq_some_iff.mp held).1
        have earlier : n < l.length := by omega
        have there := List.getElem?_eq_getElem earlier
        rw [ih n before _ there] at there
        have := (List.getElem?_inj earlier distinct).mp (there.trans held.symm)
        omega
      · exact same
  · intro places
    refine List.pairwise_iff_getElem.mpr fun i j isHeld isHeld' before same => ?_
    have := places i _ (List.getElem?_eq_getElem isHeld)
    have := places j _ (List.getElem?_eq_getElem isHeld')
    omega

namespace Process

/-- Only polls with a token are taken in. -/
def polling (token : String) : Process → Request → Prop := fun _ request =>
  request.polled? = some token

variable {config : BrokerConfig} {start : World} {deployment : String} {data : OperationData}
  {steps : List AnyCall} {p p' : Process}

theorem made_eq_nil (single : data.contextId = "") (faithful : p.Faithful config start)
    {s s' : Serving} {w : World} {made : List Submission} (served : s ∈ p.servings)
    (polled : s.request.polled? = some data.encode) (act : s.Act p.world s' w made) : made = [] := by
  refine List.eq_nil_iff_forall_not_mem.mpr fun x member => ?_
  obtain ⟨_, _, _, permitted⟩ := act.made_spec member
  obtain ⟨submits, _⟩ := act.made_answered member
  rw [Request.submits?_eq_none polled single (permitted (faithful.keeps s served))] at submits
  cases submits

/-- Polls of an operation without a context submit nothing. -/
theorem submissions_eq_of_single (distinct : ∀ m n, start.ids m = start.ids n → m = n)
    (single : data.contextId = "") (faithful : p.Faithful config start)
    (waiting : ∀ s ∈ p.servings, s.response? = none → s.request.polled? = some data.encode)
    (polls : Run config (polling data.encode) p p') : p'.submissions = p.submissions := by
  have kept : p'.Faithful config start ∧ p'.submissions = p.submissions ∧
      ∀ s ∈ p'.servings, s.response? = none → s.request.polled? = some data.encode := by
    induction polls with
    | refl => exact ⟨faithful, rfl, waiting⟩
    | tail _ step ih =>
      obtain ⟨faithful, same, polled⟩ := ih
      refine ⟨faithful.step distinct step, ?_⟩
      cases step.move faithful.sound with
      | still => exact ⟨same, polled⟩
      | received admitted =>
        refine ⟨same, fun s member => ?_⟩
        rcases List.mem_append.mp member with member | member
        · exact polled s member
        · rw [List.mem_singleton.mp member]
          exact fun _ => admitted
      | drifted _ => exact ⟨same, polled⟩
      | @acted i s s' w made served waiting act =>
        have member := List.mem_of_getElem? served
        obtain rfl : made = [] := made_eq_nil single faithful member (polled s member waiting) act
        refine ⟨(List.append_nil _).trans same, fun t isServed unanswered => ?_⟩
        rcases List.mem_or_eq_of_mem_set isServed with isOld | rfl
        · exact polled t isOld unanswered
        · rw [act.request_eq]
          exact polled s member waiting
  exact kept.2.1

/-- A poll submits the step that is due after the tasks it has seen, and there may be more by then. -/
theorem Tracks.place_spec (tracks : p.Tracks config start deployment data steps) {k : Nat}
    {x : Submission} (held : (p.under data.contextId)[k + 1]? = some x) :
    x.place ≤ k + 1 ∧ stepAfter? config.offering deployment data x.place = some x.call := by
  obtain ⟨tasks, past, due⟩ := tracks.later k x held
  have isMade := List.mem_of_getElem? held
  have grown := tracks.faithful.seen x (List.mem_filter.mp isMade).1 _ _ _
    (past ▸ List.mem_singleton_self _)
  rw [(tracks.ledger.earlier _ x held).tasksOf_eq fun y member =>
    tracks.owned y (List.mem_of_mem_take member)] at grown
  have atMost := grown.length_le
  rw [List.length_map, tracks.ledger.length_before held] at atMost
  rw [Submission.place_of_look past]
  exact ⟨atMost, (nextStep?_eq_some.mp due).2⟩

/-- No poll has seen more tasks than there were when it submitted. -/
theorem Tracks.place_le (tracks : p.Tracks config start deployment data steps) {x : Submission}
    (first : (p.under data.contextId)[0]? = some x) (early : ∀ h ∈ x.past, h.isPreliminary)
    (k n : Nat) (held : ((p.under data.contextId).map Submission.place)[k]? = some n) : n ≤ k := by
  rw [List.getElem?_map] at held
  obtain ⟨y, isMade, rfl⟩ := Option.map_eq_some_iff.mp held
  cases k with
  | zero =>
    obtain rfl := Option.some.inj (first.symm.trans isMade)
    exact Nat.le_of_eq (Submission.place_of_preliminary early)
  | succ k => exact (tracks.place_spec isMade).1

/-- A submission is in its place if its request had seen all tasks that there were. -/
theorem Ledger.places_iff {contextId : String} (ledger : p.Ledger contextId) :
    (∀ (k n : Nat), ((p.under contextId).map Submission.place)[k]? = some n → n = k) ↔
      ∀ x ∈ p.under contextId, x.place = (x.before.under contextId).length := by
  constructor
  · intro places x member
    obtain ⟨k, held⟩ := List.mem_iff_getElem?.mp member
    rw [ledger.length_before held]
    exact places k _ (by rw [List.getElem?_map, held]; rfl)
  · intro current k n held
    rw [List.getElem?_map] at held
    obtain ⟨x, isMade, rfl⟩ := Option.map_eq_some_iff.mp held
    rw [current x (List.mem_of_getElem? isMade), ledger.length_before isMade]

/-- However polls of an operation interleave, each of them submits the step that is due after the
tasks it has seen. So every step is submitted once if and only if each submission comes while there
are no more tasks than its poll has seen. -/
theorem polls_submit_once_iff (fresh : start.Fresh) {request : Request}
    (opens : request.polled? = none) (run : Run config nobody (alone config start request) p)
    {r : Response} {token : String} (answered : p.response? 0 = some r)
    (yields : r.token? = some token) :
    ∃ data, token = data.encode ∧ ∀ p', Run config (polling token) p p' →
      (data.contextId = "" → p'.submissions = p.submissions) ∧
      (data.contextId ≠ "" →
        Paired (p'.world.backend.under data.contextId) (p'.under data.contextId) ∧
        (∀ k x, (p'.under data.contextId)[k + 1]? = some x →
          stepAfter? config.offering (config.deploymentName request.instanceId) data x.place =
            some x.call) ∧
        (((p'.under data.contextId).map Submission.place).Nodup ↔
          ∀ x ∈ p'.under data.contextId,
            x.place = (x.before.under data.contextId).length)) := by
  obtain ⟨s, x, data, lone, finished, made, early, same, rfl, opening⟩ :=
    opened fresh opens run answered yields
  refine ⟨data, rfl, fun p' polls => ⟨fun single => ?_, fun proper => ?_⟩⟩
  · have faithful := (faithful_alone config fresh.sound request).run fresh.distinct run
    refine submissions_eq_of_single fresh.distinct single faithful
      (fun t member unanswered => ?_) polls
    rw [lone.only, List.mem_singleton] at member
    rw [member] at unanswered
    rw [unanswered] at finished
    cases finished
  · have issued := opening.context_eq.resolve_left proper
    obtain ⟨tracks, _⟩ : p.Tracks config start _ data [x.call] ∧ p.InTurn _ data :=
      tracks_of_opened fresh run lone finished made same issued opening.submits_eq rfl
    have tracks' := tracks.run fresh.distinct
      (fun _ _ admitted => Request.genuine_of_token admitted) polls
    have first : (p'.under data.contextId)[0]? = some x := by
      have isUnder : x.isUnder data.contextId := Submission.isUnder_iff.mpr ⟨_, opening.submits_eq⟩
      obtain ⟨rest, all⟩ := polls.submissions_prefix
      rw [under, ← all, made]
      simp [isUnder]
    refine ⟨tracks'.ledger.paired, fun k y held => (tracks'.place_spec held).2, ?_⟩
    rw [nodup_iff_eq_range (tracks'.place_le first early)]
    exact tracks'.ledger.places_iff

/-- Two polls of a deletion have come in, and both have looked at the one task that there is. -/
def bothLooked : Process :=
  advance 2 (.inTime none) (advance 1 (.inTime none)
    { deletionBegun with
      world := errandDone
      servings := deletionBegun.servings ++ [samplePolling] ++ [samplePolling] })

/-- Both of them have gone on. -/
def bothSubmitted : Process := (bothLooked.finish 1 none).finish 2 none

theorem run_bothSubmitted :
    Run sampleConfig (polling sampleData.encode) deletionBegun bothSubmitted := by
  have admitted (p : Process) : polling sampleData.encode p samplePoll := rfl
  refine .head (.drift drifts_errandDone) <| .head (.receive (admitted _)) <|
    .head (.receive (admitted _)) ?_
  rw [receive_samplePoll, receive_samplePoll]
  exact .head (.advance _ 1 (.inTime none)) <| .head (.advance _ 2 (.inTime none)) <|
    .trans (run_finish ..) (run_finish ..)

theorem polls_submit_once_iff_sample :
    ¬ ∀ x ∈ bothSubmitted.under "c", x.place = (x.before.under "c").length := by
  have yields : (Response.accepted ⟨true, sampleData.encode⟩).token? = some sampleData.encode := rfl
  obtain ⟨data, same, worth⟩ :=
    polls_submit_once_iff fresh_sampleWorld rfl run_deletionBegun rfl yields
  obtain rfl := OperationData.decode_encode_ok (same ▸ decode_sampleData)
  obtain ⟨_, _, once⟩ := (worth bothSubmitted run_bothSubmitted).2 (by decide)
  intro current
  have places : (bothSubmitted.under "c").map Submission.place = [0, 1, 1] := rfl
  have distinct := once.mpr current
  rw [show sampleData.contextId = "c" from rfl, places] at distinct
  exact absurd distinct (by decide)

/-- Two polls that have both seen the first errand done submit the second errand twice. -/
theorem errand_submitted_twice : ∃ p p',
    Run sampleConfig nobody (alone sampleConfig sampleWorld sampleDeletion) p ∧
    p.response? 0 = some (.accepted ⟨true, sampleData.encode⟩) ∧
    Run sampleConfig (polling sampleData.encode) p p' ∧
    (p'.under "c").map Submission.call =
      [⟨_, .submitErrand "d-i" { name := "drain" } "c"⟩,
        ⟨_, .submitErrand "d-i" { name := "backup" } "c"⟩,
        ⟨_, .submitErrand "d-i" { name := "backup" } "c"⟩] ∧
    (p'.world.backend.under "c").length = 3 :=
  ⟨deletionBegun, bothSubmitted, run_deletionBegun, rfl, run_bothSubmitted, rfl, rfl⟩

end Process

end ServiceBroker
