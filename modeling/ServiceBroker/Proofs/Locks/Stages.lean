import ServiceBroker.Proofs.Locks.Requests
import ServiceBroker.Proofs.Memory.Account
import ServiceBroker.Proofs.Process.Run

/-! Where requests stand with their locks. A request waits for its lock, works under it, has given it
back or was turned away; its own moves say which. Each move changes which locks are held in just one
way. -/
namespace ServiceBroker

open Memory

/-- What a request does about a lock. -/
inductive LockMove where
  | took (key : LockKey)
  | turnedAway (key : LockKey)
  | gaveBack (key : LockKey)
  deriving DecidableEq

/-- How the locks change with a move. -/
inductive Locks.Moves (l : Locks) : Option LockMove → Locks → Prop where
  | none : Moves l none l
  | took {key : LockKey} {l' : Locks} (free : ¬ l.Held key)
      (taken : ∀ other, l'.Held other ↔ other = key ∨ l.Held other) :
      Moves l (some (.took key)) l'
  | turnedAway {key : LockKey} (held : l.Held key) : Moves l (some (.turnedAway key)) l
  | gaveBack (key : LockKey) : Moves l (some (.gaveBack key)) (l.release key.kind key.id)

namespace Memory.World

variable {w : World} {key : LockKey}

theorem acquire_of_held (held : w.locks.Held key) : w.acquire key.kind key.id = (false, w) := by
  rw [acquire, Locks.acquire?_eq_none_iff.mpr held]

theorem acquire_of_free (free : ¬ w.locks.Held key) : ∃ locks : Locks,
    w.acquire key.kind key.id = (true, { w with locks }) ∧
      ∀ other, locks.Held other ↔ other = key ∨ w.locks.Held other := by
  cases acquired : w.locks.acquire? key.kind key.id with
  | none => exact absurd (Locks.acquire?_eq_none_iff.mp acquired) free
  | some locks =>
    exact ⟨locks, by rw [acquire, acquired], fun other => Locks.held_of_acquire? acquired⟩

theorem locks_deliver (w : World) (delivery : Delivery) {k : CallKind} (c : Call k) :
    (w.deliver delivery c).2.locks = w.locks := by
  cases delivery with
  | unsent => rfl
  | inTime deadline | late deadline =>
    obtain ⟨_, _, frame⟩ := serve_frame w deadline c
    change (serve deadline c w).2.locks = w.locks
    rw [frame]

end Memory.World

namespace Serving

/-- What the next step of a serving does about locks. -/
def lockMove? (w : World) (s : Serving) : Option LockMove :=
  match s.rest with
  | .lock kind id _ =>
    some (if (w.acquire kind id).1 then .took ⟨kind, id⟩ else .turnedAway ⟨kind, id⟩)
  | .unlock kind id _ => some (.gaveBack ⟨kind, id⟩)
  | _ => none

/-- The next step is an outbound call. -/
def IsCalling (s : Serving) : Prop :=
  ∃ (k : CallKind) (c : Call k) (span : Option Log.Span) (next : k.Answer → Program Response),
    s.rest = .call c span next

/-- The next step is to take a lock. -/
def IsTaking (key : LockKey) (s : Serving) : Prop :=
  ∃ next, s.rest = .lock key.kind key.id next

/-- Where a serving stands, by the moves that it has made. -/
inductive Stage (s : Serving) : List LockMove → Prop where
  /-- It works under no lock. -/
  | free (lock : s.request.lock? = none) (free : s.rest.LockFree) : Stage s []
  /-- It was turned down before its lock was tried. -/
  | declined (silent : s.rest.Silent fun _ => True) : Stage s []
  | waiting {key : LockKey} (lock : s.request.lock? = some key) (unasked : s.past = [])
      (enters : s.rest.Enters key (· = key.conflict)) : Stage s []
  | inside {key : LockKey} (lock : s.request.lock? = some key) (inside : s.rest.Inside key) :
      Stage s [.took key]
  | left {key : LockKey} (lock : s.request.lock? = some key) (silent : s.rest.Silent fun _ => True) :
      Stage s [.took key, .gaveBack key]
  | turnedAway {key : LockKey} (unasked : s.past = [])
      (silent : s.rest.Silent (· = key.conflict)) : Stage s [.turnedAway key]

variable {s : Serving} {moves : List LockMove} {key : LockKey} {w : World}

theorem stage_start (config : BrokerConfig) (request : Request) :
    (start config request).Stage [] := by
  cases lock : request.lock? with
  | none => exact .free lock (request.lockFree_program config lock)
  | some key =>
    rcases request.enters_program config lock with enters | silent
    · exact .waiting lock rfl enters
    · exact .declined silent

/-- Each step leads to where the moves say. -/
theorem Stage.step (stage : s.Stage moves) (delivery : Delivery) (w : World) :
    (s.step delivery w).1.Stage (moves ++ (s.lockMove? w).toList) := by
  obtain ⟨request, past, rest⟩ := s
  cases stage with
  | free lock free =>
    cases free with
    | done r => exact .free lock (.done r)
    | call c span onward => exact .free lock (onward _)
    | log event onward => exact .free lock onward
    | fresh onward => exact .free lock (onward _)
  | declined silent =>
    cases silent with
    | done ended => exact .declined (.done ended)
    | log event onward => exact .declined onward
  | @waiting key lock unasked enters =>
    cases enters with
    | @lock next held away =>
      cases taken : (w.acquire key.kind key.id).1 with
      | true =>
        have entered : Stage ⟨request, past, next true⟩ [.took key] := .inside lock held
        simpa [Serving.step, lockMove?, taken] using entered
      | false =>
        have refused : Stage ⟨request, past, next false⟩ [.turnedAway key] :=
          .turnedAway unasked away
        simpa [Serving.step, lockMove?, taken] using refused
  | inside lock inside =>
    cases inside with
    | call c span onward => exact .inside lock (onward _)
    | log event onward => exact .inside lock onward
    | fresh onward => exact .inside lock (onward _)
    | unlock after => exact .left lock after
  | left lock silent =>
    cases silent with
    | done ended => exact .left lock (.done ended)
    | log event onward => exact .left lock onward
  | turnedAway unasked silent =>
    cases silent with
    | done ended => exact .turnedAway unasked (.done ended)
    | log event onward => exact .turnedAway unasked onward

/-- After a lock was taken it is given back, and nothing else comes after another move. -/
theorem Stage.moves_of_concat {move : LockMove} (stage : s.Stage (moves ++ [move])) :
    moves = [] ∧ (∀ key, move ≠ .gaveBack key) ∨
      ∃ key, moves = [.took key] ∧ move = .gaveBack key := by
  generalize made : moves ++ [move] = all at stage
  cases stage with
  | free | declined | waiting => simp at made
  | inside | turnedAway =>
    have parts : moves ++ [move] = [] ++ [_] := made
    obtain ⟨same, last⟩ := List.append_inj' parts rfl
    exact .inl ⟨same, by simp [List.head_eq_of_cons_eq last]⟩
  | @left key =>
    have parts : moves ++ [move] = [.took key] ++ [.gaveBack key] := made
    obtain ⟨same, last⟩ := List.append_inj' parts rfl
    exact .inr ⟨key, same, List.head_eq_of_cons_eq last⟩

theorem Stage.lock_of_took (stage : s.Stage moves) (took : .took key ∈ moves) :
    s.request.lock? = some key := by
  cases stage with
  | free | declined | waiting => cases took
  | inside lock _ | left lock _ =>
    obtain rfl : key = _ := by simpa using took
    exact lock
  | turnedAway => simp at took

/-- Whoever makes a call and works under a lock has it. -/
theorem Stage.took_of_calling (stage : s.Stage moves) (lock : s.request.lock? = some key)
    (calling : s.IsCalling) : moves = [.took key] := by
  obtain ⟨k, c, span, next, isCall⟩ := calling
  cases stage with
  | free none _ => cases none.symm.trans lock
  | declined silent | left _ silent | turnedAway _ silent =>
    rw [isCall] at silent
    cases silent
  | waiting _ _ enters =>
    rw [isCall] at enters
    generalize same : Program.call c span next = rest at enters
    cases enters
    cases same
  | inside own _ =>
    cases own.symm.trans lock
    rfl

/-- Whoever takes a lock has not done anything about locks. -/
theorem Stage.nil_of_taking (stage : s.Stage moves) (taking : s.IsTaking key) : moves = [] := by
  obtain ⟨next, isLock⟩ := taking
  cases stage with
  | free | declined | waiting => rfl
  | inside _ inside =>
    rw [isLock] at inside
    cases inside
  | left _ silent | turnedAway _ silent =>
    rw [isLock] at silent
    cases silent

theorem Stage.silent_of_turnedAway (stage : s.Stage moves) (away : .turnedAway key ∈ moves) :
    s.past = [] ∧ s.rest.Silent (· = key.conflict) := by
  cases stage with
  | free | declined | waiting => cases away
  | inside | left => simp at away
  | turnedAway unasked silent =>
    obtain rfl : key = _ := by simpa using away
    exact ⟨unasked, silent⟩

theorem Stage.ne_took_of_response (stage : s.Stage moves) (ended : s.response?.isSome) :
    moves ≠ [.took key] := by
  obtain ⟨request, past, rest⟩ := s
  cases stage with
  | inside _ inside => cases inside <;> cases ended
  | _ => simp

/-- A lock that is tried is found held exactly if it is. -/
theorem lockMove?_of_taking (taking : s.IsTaking key) (w : World) :
    s.lockMove? w = some (if w.locks.Held key then .turnedAway key else .took key) := by
  obtain ⟨next, isLock⟩ := taking
  rw [lockMove?, isLock]
  by_cases held : w.locks.Held key
  · simp [World.acquire_of_held held, held]
  · obtain ⟨locks, acquired, _⟩ := World.acquire_of_free held
    simp [acquired, held]

/-- The locks change as the move says. -/
theorem moves_locks (delivery : Delivery) (w : World) (s : Serving) :
    w.locks.Moves (s.lockMove? w) (s.step delivery w).2.1.locks := by
  obtain ⟨request, past, rest⟩ := s
  cases rest with
  | done | log | fresh => exact .none
  | call c span next =>
    have same : (step delivery w ⟨request, past, .call c span next⟩).2.1.locks = w.locks :=
      w.locks_deliver delivery c
    rw [same]
    exact .none
  | unlock kind id next => exact .gaveBack ⟨kind, id⟩
  | lock kind id next =>
    obtain ⟨key, rfl, rfl⟩ : ∃ key : LockKey, key.kind = kind ∧ key.id = id := ⟨⟨kind, id⟩, rfl, rfl⟩
    rw [lockMove?_of_taking ⟨next, rfl⟩]
    by_cases held : w.locks.Held key
    · simp only [held, if_true, step, World.acquire_of_held held]
      exact .turnedAway held
    · obtain ⟨locks, acquired, taken⟩ := World.acquire_of_free held
      simp only [held, if_false, step, acquired]
      exact .took held taken

end Serving

end ServiceBroker
