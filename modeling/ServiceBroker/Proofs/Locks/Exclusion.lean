import ServiceBroker.Proofs.Locks.Stages

/-! Mutual exclusion. A journal says which request took which lock, gave it back or found it held.
However requests are interleaved and however their calls fare, a lock has at most one holder at any
time, every call of a request on an id is made while it has the lock of that id, and a lock is found
held exactly while another request has the very same one. -/
namespace ServiceBroker

open Memory

namespace Locks

variable {l l' : Locks} {moves moves' : Nat → List LockMove} {i : Nat} {key : LockKey}

/-- The locks that are held are those that somebody has taken and not given back, one holder each. -/
structure HeldBy (l : Locks) (moves : Nat → List LockMove) : Prop where
  exclusive : ∀ i j key, moves i = [.took key] → moves j = [.took key] → i = j
  registry : ∀ key, l.Held key ↔ ∃ i, moves i = [.took key]

/-- Moves count only by who holds what. -/
theorem HeldBy.congr (heldBy : l.HeldBy moves)
    (holders : ∀ j other, moves' j = [.took other] ↔ moves j = [.took other]) :
    l.HeldBy moves' where
  exclusive a b other isFirst isSecond :=
    heldBy.exclusive a b other ((holders a other).mp isFirst) ((holders b other).mp isSecond)
  registry other := by simp only [heldBy.registry, holders]

/-- A lock that was free has the one holder that took it. -/
theorem HeldBy.take (heldBy : l.HeldBy moves) (free : ¬ l.Held key)
    (taken : ∀ other, l'.Held other ↔ other = key ∨ l.Held other)
    (holders : ∀ j other, moves' j = [.took other] ↔
      j = i ∧ other = key ∨ moves j = [.took other]) : l'.HeldBy moves' := by
  have apart {j : Nat} (holds : moves j = [.took key]) : False :=
    free ((heldBy.registry key).mpr ⟨j, holds⟩)
  constructor
  · intro a b other isFirst isSecond
    obtain ⟨isTaker, new⟩ | isFirst := (holders a other).mp isFirst <;>
      obtain ⟨isTaker', new'⟩ | isSecond := (holders b other).mp isSecond
    · exact isTaker.trans isTaker'.symm
    · exact (apart (new ▸ isSecond)).elim
    · exact (apart (new' ▸ isFirst)).elim
    · exact heldBy.exclusive a b other isFirst isSecond
  · intro other
    simp only [taken, heldBy.registry, holders, exists_or, exists_and_right, exists_eq, true_and]

/-- A lock that its only holder gave back has none. -/
theorem HeldBy.giveBack (heldBy : l.HeldBy moves) (holds : moves i = [.took key])
    (holders : ∀ j other, moves' j = [.took other] ↔ j ≠ i ∧ moves j = [.took other]) :
    (l.release key.kind key.id).HeldBy moves' := by
  constructor
  · intro a b other isFirst isSecond
    exact heldBy.exclusive a b other ((holders a other).mp isFirst).2
      ((holders b other).mp isSecond).2
  · intro other
    rw [held_release, heldBy.registry]
    simp only [holders]
    -- Giving back one lock and losing one holder come to the same, since no holder has two locks
    -- and no lock two holders.
    constructor
    · rintro ⟨different, j, held⟩
      refine ⟨j, ?_, held⟩
      rintro rfl
      rw [holds] at held
      cases held
      exact different rfl
    · rintro ⟨j, different, held⟩
      refine ⟨?_, j, held⟩
      rintro rfl
      exact different (heldBy.exclusive _ _ _ held holds)

/-- Each lock keeps having one holder at most, whatever somebody does next. -/
theorem HeldBy.step {move : Option LockMove} (heldBy : l.HeldBy moves) (changes : l.Moves move l')
    (own : moves' i = moves i ++ move.toList) (others : ∀ j, j ≠ i → moves' j = moves j)
    (follows : ∀ m, move = some m → moves i = [] ∧ (∀ key, m ≠ .gaveBack key) ∨
      ∃ key, moves i = [.took key] ∧ m = .gaveBack key) : l'.HeldBy moves' := by
  cases changes with
  | none =>
    refine heldBy.congr fun j other => ?_
    by_cases isActor : j = i
    · rw [isActor, own, Option.toList_none, List.append_nil]
    · rw [others j isActor]
  | took free taken =>
    obtain ⟨first, _⟩ | ⟨_, _, impossible⟩ := follows _ rfl
    · refine heldBy.take (i := i) free taken fun j other => ?_
      by_cases isActor : j = i
      · subst isActor
        simp [own, first, eq_comm]
      · simp [others j isActor, isActor]
    · cases impossible
  | turnedAway held =>
    obtain ⟨first, _⟩ | ⟨_, _, impossible⟩ := follows _ rfl
    · refine heldBy.congr fun j other => ?_
      by_cases isActor : j = i
      · subst isActor
        simp [own, first]
      · rw [others j isActor]
    · cases impossible
  | gaveBack key =>
    obtain ⟨_, impossible⟩ | ⟨_, holds, same⟩ := follows _ rfl
    · exact absurd rfl (impossible key)
    · cases same
      refine heldBy.giveBack holds fun j other => ?_
      by_cases isActor : j = i
      · subst isActor
        simp [own, holds]
      · simp [others j isActor, isActor]

end Locks

/-- The moves of all requests about locks, in their order, each with the place of its request among
those that came in. -/
abbrev LockJournal := List (Nat × LockMove)

namespace LockJournal

variable {journal : LockJournal} {i j : Nat} {key : LockKey} {move : LockMove}

/-- The moves of one request. -/
def movesOf (journal : LockJournal) (i : Nat) : List LockMove :=
  journal.filterMap fun (j, move) => if j = i then some move else none

/-- The request has taken the lock and has not given it back. -/
def Holds (journal : LockJournal) (i : Nat) (key : LockKey) : Prop :=
  (i, .took key) ∈ journal ∧ (i, .gaveBack key) ∉ journal

theorem mem_movesOf : move ∈ journal.movesOf i ↔ (i, move) ∈ journal := by
  simp only [movesOf, List.mem_filterMap, Option.ite_none_right_eq_some, Option.some.injEq,
    Prod.exists]
  constructor
  · rintro ⟨_, _, member, rfl, rfl⟩
    exact member
  · exact fun member => ⟨i, move, member, rfl, rfl⟩

theorem movesOf_append (journal later : LockJournal) (i : Nat) :
    (journal ++ later).movesOf i = journal.movesOf i ++ later.movesOf i :=
  List.filterMap_append

theorem movesOf_same (moves : List LockMove) : movesOf (moves.map (i, ·)) i = moves := by
  simp [movesOf, List.filterMap_map]

theorem movesOf_other (different : j ≠ i) (moves : List LockMove) :
    movesOf (moves.map (i, ·)) j = [] := by
  simp [movesOf, List.filterMap_map, different.symm]

end LockJournal

namespace Process

/-- What the next step of a request does about locks. -/
def lockMoves (i : Nat) (p : Process) : LockJournal :=
  ((p.servings[i]?.bind fun s => s.lockMove? p.world).toList).map (i, ·)

/-- Any number of steps, with the moves about locks on the way. -/
inductive Journaled (config : BrokerConfig) (admits : Process → Request → Prop) (start : Process) :
    LockJournal → Process → Prop where
  | begin : Journaled config admits start [] start
  | receive {journal : LockJournal} {p : Process} {request : Request}
      (earlier : Journaled config admits start journal p) (admitted : admits p request) :
      Journaled config admits start journal (p.receive config request)
  | advance {journal : LockJournal} {p : Process} (earlier : Journaled config admits start journal p)
      (i : Nat) (delivery : Delivery) :
      Journaled config admits start (journal ++ p.lockMoves i) (p.advance i delivery)
  | drift {journal : LockJournal} {p : Process} {world : World}
      (earlier : Journaled config admits start journal p) (drifts : p.world.Drifts world) :
      Journaled config admits start journal { p with world }

variable {config : BrokerConfig} {admits : Process → Request → Prop} {start p : Process}
  {journal : LockJournal}

/-- Every run can be journaled. -/
theorem exists_journaled (run : Run config admits start p) :
    ∃ journal, Journaled config admits start journal p := by
  induction run with
  | refl => exact ⟨[], .begin⟩
  | tail _ step ih =>
    obtain ⟨journal, earlier⟩ := ih
    cases step with
    | receive admitted => exact ⟨_, earlier.receive admitted⟩
    | advance i delivery => exact ⟨_, earlier.advance i delivery⟩
    | drift drifts => exact ⟨_, earlier.drift drifts⟩

theorem Journaled.run (journaled : Journaled config admits start journal p) :
    Run config admits start p := by
  induction journaled with
  | begin => exact .refl
  | receive _ admitted ih => exact ih.tail (.receive admitted)
  | advance _ i delivery ih => exact ih.tail (.advance _ i delivery)
  | drift _ drifts ih => exact ih.tail (.drift drifts)

/-- The moves so far explain where all requests stand and which locks are held. -/
structure Guarded (journal : LockJournal) (p : Process) : Prop where
  stages : ∀ (i : Nat) (s : Serving), p.servings[i]? = some s → s.Stage (journal.movesOf i)
  known : ∀ i, p.servings.length ≤ i → journal.movesOf i = []
  locks : p.world.locks.HeldBy journal.movesOf

theorem Guarded.receive (guarded : p.Guarded journal) (request : Request) :
    (p.receive config request).Guarded journal where
  stages i s served := by
    rw [Process.receive, List.getElem?_append] at served
    split at served
    · exact guarded.stages i s served
    · rename_i beyond
      obtain rfl := List.mem_singleton.mp (List.mem_of_getElem? served)
      rw [guarded.known i (Nat.not_lt.mp beyond)]
      exact Serving.stage_start config request
  known i beyond := by
    rw [Process.receive, List.length_append] at beyond
    exact guarded.known i (Nat.le_of_add_right_le beyond)
  locks := guarded.locks

theorem Guarded.drift (guarded : p.Guarded journal) {world : World}
    (drifts : p.world.Drifts world) : ({ p with world } : Process).Guarded journal :=
  { guarded with locks := drifts.locks ▸ guarded.locks }

theorem Guarded.advance (guarded : p.Guarded journal) (i : Nat) (delivery : Delivery) :
    (p.advance i delivery).Guarded (journal ++ p.lockMoves i) := by
  cases served : p.servings[i]? with
  | none => simpa only [Process.advance, lockMoves, served, Option.bind_none, Option.toList_none,
      List.map_nil, List.append_nil] using guarded
  | some s =>
    have stage := (guarded.stages i s served).step delivery p.world
    have own : (journal ++ p.lockMoves i).movesOf i =
        journal.movesOf i ++ (s.lockMove? p.world).toList := by
      rw [LockJournal.movesOf_append, lockMoves, served]
      exact congrArg _ (LockJournal.movesOf_same _)
    have others (j : Nat) (different : j ≠ i) :
        (journal ++ p.lockMoves i).movesOf j = journal.movesOf j := by
      rw [LockJournal.movesOf_append, lockMoves, LockJournal.movesOf_other different,
        List.append_nil]
    rw [advance_of_served served]
    -- Nobody but the request that moved has a new move or stands somewhere else.
    refine ⟨fun j t isServed => ?_, fun j beyond => ?_, ?_⟩
    · by_cases same : i = j
      · subst same
        obtain ⟨inside, _⟩ := List.getElem?_eq_some_iff.mp served
        rw [List.getElem?_set_self inside] at isServed
        obtain rfl := Option.some.inj isServed
        exact own ▸ stage
      · rw [List.getElem?_set_ne same] at isServed
        exact others j (Ne.symm same) ▸ guarded.stages j t isServed
    · rw [List.length_set] at beyond
      have different : j ≠ i := by
        rintro rfl
        rw [List.getElem?_eq_none beyond] at served
        cases served
      exact (others j different).trans (guarded.known j beyond)
    · refine guarded.locks.step (s.moves_locks delivery p.world) own others fun move isMove => ?_
      rw [isMove] at stage
      exact stage.moves_of_concat

/-- Every step keeps the moves in line with the locks. -/
theorem Journaled.guarded (journaled : Journaled config admits start journal p)
    (begun : start.Guarded []) : p.Guarded journal := by
  induction journaled with
  | begin => exact begun
  | receive _ _ ih => exact ih.receive _
  | advance _ i delivery ih => exact ih.advance i delivery
  | drift _ drifts ih => exact ih.drift drifts

theorem guarded_begin {world : World} (free : world.locks = {}) :
    ({ world } : Process).Guarded [] where
  stages _ _ impossible := by simp at impossible
  known _ _ := rfl
  locks :=
    { exclusive := fun _ _ _ impossible => nomatch impossible
      registry := fun key => by
        refine iff_of_false ?_ fun ⟨_, impossible⟩ => nomatch impossible
        change ¬ world.locks.Held key
        rw [free]
        exact Locks.not_held_empty }

theorem Guarded.holds_iff (guarded : p.Guarded journal) {i : Nat} {key : LockKey} :
    journal.Holds i key ↔ journal.movesOf i = [.took key] := by
  rw [LockJournal.Holds, ← LockJournal.mem_movesOf, ← LockJournal.mem_movesOf]
  cases served : p.servings[i]? with
  | none => simp [guarded.known i (List.getElem?_eq_none_iff.mp served)]
  | some s =>
    have stage := guarded.stages i s served
    revert stage
    generalize journal.movesOf i = moves
    intro stage
    cases stage <;> simp [eq_comm]

/-- What mutual exclusion means for a process, by the moves that led to it. -/
structure Exclusive (journal : LockJournal) (p : Process) : Prop where
  /-- No two requests are past the acquisition of one lock. -/
  single : ∀ i j key, journal.Holds i key → journal.Holds j key → i = j
  /-- A lock is taken by requests that work under it. -/
  own : ∀ i key, (i, .took key) ∈ journal →
    ∃ s, p.servings[i]? = some s ∧ s.request.lock? = some key
  /-- A request that works under a lock has it at each of its calls. -/
  guarded : ∀ (i : Nat) (s : Serving) (key : LockKey), p.servings[i]? = some s →
    s.request.lock? = some key → s.IsCalling → journal.Holds i key
  /-- What the registries say is who holds what. -/
  registry : ∀ key, p.world.locks.Held key ↔ ∃ i, journal.Holds i key
  /-- A request that tries to take a lock is turned away exactly if another one has the same lock. -/
  blocked : ∀ (i : Nat) (s : Serving) (key : LockKey), p.servings[i]? = some s → s.IsTaking key →
    (p.lockMoves i = [(i, .turnedAway key)] ↔ ∃ j, j ≠ i ∧ journal.Holds j key)
  /-- Who was turned away has asked nobody anything, will not do so, and is told of the conflict. -/
  turnedAway : ∀ (i : Nat) (s : Serving) (key : LockKey), p.servings[i]? = some s →
    (i, .turnedAway key) ∈ journal → s.past = [] ∧ s.rest.Silent (· = key.conflict)
  /-- When every request has its response, nothing is locked. -/
  ended : (∀ s ∈ p.servings, s.response?.isSome) →
    p.world.locks.instances.held = [] ∧ p.world.locks.bindings.held = []

/-- However requests are interleaved and however their calls fare, they exclude each other exactly
where they have to. -/
theorem mutual_exclusion {world : World} (free : world.locks = {})
    (journaled : Journaled config admits { world } journal p) : p.Exclusive journal := by
  have guarded := journaled.guarded (guarded_begin free)
  have registry (key : LockKey) : p.world.locks.Held key ↔ ∃ i, journal.Holds i key := by
    simp only [guarded.locks.registry, guarded.holds_iff]
  constructor
  case single =>
    intro i j key first second
    exact guarded.locks.exclusive i j key (guarded.holds_iff.mp first) (guarded.holds_iff.mp second)
  case own =>
    intro i key took
    rw [← LockJournal.mem_movesOf] at took
    cases served : p.servings[i]? with
    | none =>
      rw [guarded.known i (List.getElem?_eq_none_iff.mp served)] at took
      cases took
    | some s => exact ⟨s, rfl, (guarded.stages i s served).lock_of_took took⟩
  case guarded =>
    intro i s key served lock calling
    exact guarded.holds_iff.mpr ((guarded.stages i s served).took_of_calling lock calling)
  case registry => exact registry
  case blocked =>
    intro i s key served taking
    have idle := (guarded.stages i s served).nil_of_taking taking
    have found : p.lockMoves i = [(i, .turnedAway key)] ↔ p.world.locks.Held key := by
      rw [lockMoves, served, Option.bind_some, Serving.lockMove?_of_taking taking]
      by_cases held : p.world.locks.Held key <;> simp [held]
    rw [found, registry]
    refine exists_congr fun j => (and_iff_right_of_imp ?_).symm
    rintro holds rfl
    rw [guarded.holds_iff, idle] at holds
    cases holds
  case turnedAway =>
    intro i s key served away
    exact (guarded.stages i s served).silent_of_turnedAway (LockJournal.mem_movesOf.mpr away)
  case ended =>
    intro ended
    have none (key : LockKey) : ¬ p.world.locks.Held key := by
      intro held
      obtain ⟨i, holds⟩ := (guarded.locks.registry key).mp held
      cases served : p.servings[i]? with
      | none =>
        rw [guarded.known i (List.getElem?_eq_none_iff.mp served)] at holds
        cases holds
      | some s =>
        have response := ended s (List.mem_of_getElem? served)
        exact (guarded.stages i s served).ne_took_of_response response holds
    rw [Locks.eq_empty none]
    exact ⟨rfl, rfl⟩

/-- A broker without plans. -/
def lockConfig : BrokerConfig := { offering := { id := "s", name := "n" } }

def lockRequest (requestId : String) : Request :=
  .provision requestId "i" { serviceId := "s", planId := "p" } true

def lockWorld : World := { ids := fun _ => "c" }

/-- Two requests for one instance have come in. -/
def lockRivals : Process :=
  (({ world := lockWorld } : Process).receive lockConfig (lockRequest "r")).receive lockConfig
    (lockRequest "q")

/-- Both try to take its lock. -/
def lockTried : Process := (lockRivals.advance 0 .unsent).advance 1 .unsent

def lockJournal : LockJournal :=
  [(0, .took ⟨.serviceInstance, "i"⟩), (1, .turnedAway ⟨.serviceInstance, "i"⟩)]

theorem journaled_lockTried :
    Journaled lockConfig (fun _ _ => True) { world := lockWorld } lockJournal lockTried := by
  have received : Journaled lockConfig (fun _ _ => True) { world := lockWorld } [] lockRivals :=
    (Journaled.begin.receive trivial).receive trivial
  exact (received.advance 0 .unsent).advance 1 .unsent

theorem mutual_exclusion_sample : lockTried.Exclusive lockJournal :=
  mutual_exclusion rfl journaled_lockTried

end Process

end ServiceBroker
