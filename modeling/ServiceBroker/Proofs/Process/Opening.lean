import ServiceBroker.Proofs.Process.Ledger

/-! A request that opens an operation, served before any poll of it. It makes one submission, and if
it yields a token, the token is for the operation of that submission. -/
namespace ServiceBroker

open Memory

namespace Process

/-- The response to a request, once there is one. -/
def response? (i : Nat) (p : Process) : Option Response := p.servings[i]?.bind Serving.response?

/-- Nobody else is served. -/
def nobody : Process → Request → Prop := fun _ _ => False

/-- The process serves one request, which submits at most once and only while it has neither
submitted nor looked at anything. -/
structure Lone (request : Request) (p : Process) (s : Serving) : Prop where
  only : p.servings = [s]
  request : s.request = request
  once : p.submissions = [] ∨ ∃ x, p.submissions = [x] ∧ (∀ h ∈ x.past, h.isPreliminary) ∧
    ∃ h ∈ s.past, h.isPreliminary = false

variable {config : BrokerConfig} {start : World} {request : Request} {p p' : Process}

theorem Lone.step (opens : request.polled? = none) (faithful : p.Faithful config start)
    {s : Serving} (lone : p.Lone request s) (step : Step config nobody p p') :
    ∃ s', p'.Lone request s' := by
  cases step.move faithful.sound with
  | still => exact ⟨s, lone⟩
  | received impossible => exact impossible.elim
  | drifted _ => exact ⟨s, lone.only, lone.request, lone.once⟩
  | @acted i t s' w made served _ act =>
    rw [lone.only] at served ⊢
    obtain ⟨inside, same⟩ := List.getElem?_eq_some_iff.mp served
    obtain rfl : i = 0 := by simpa using inside
    obtain rfl : s = t := same
    refine ⟨s', rfl, act.request_eq.trans lone.request, ?_⟩
    cases made with
    | nil =>
      rcases lone.once with unmade | ⟨x, one, early, h, member, late⟩
      · exact .inl (by simp [unmade])
      · exact .inr ⟨x, by simp [one], early, h, act.past_subset member, late⟩
    | cons x rest =>
      obtain ⟨submits, only, answer, past⟩ := act.made_answered List.mem_cons_self
      obtain ⟨_, before, _, permitted⟩ := act.made_spec (List.mem_cons_self (a := x) (l := rest))
      have rule := permitted (faithful.keeps s (by simp [lone.only]))
      rw [Request.Permits, lone.request, opens] at rule
      obtain ⟨⟨target, contextId⟩, isTarget⟩ := Option.isSome_iff_exists.mp submits
      obtain ⟨_, _, preliminary⟩ := rule target contextId isTarget
      rcases lone.once with unmade | ⟨_, _, _, h, member, late⟩
      · refine .inr ⟨x, by simp [unmade, only], before ▸ preliminary,
          .answered x.call.call answer, by simp [past], ?_⟩
        simp [Happening.isPreliminary, AnyCall.isPreliminary, isTarget]
      · rw [preliminary h member] at late
        cases late

/-- What the token of a request that was served alone stands for. -/
theorem opened (fresh : start.Fresh) (opens : request.polled? = none)
    (run : Run config nobody (alone config start request) p) {r : Response} {token : String}
    (answered : p.response? 0 = some r) (yields : r.token? = some token) :
    ∃ s x data, p.Lone request s ∧ s.response?.isSome ∧ p.submissions = [x] ∧
      (∀ h ∈ x.past, h.isPreliminary) ∧ x.taskId = data.taskId ∧ token = data.encode ∧
      Opens config s.past request data x.call := by
  have faithful := (faithful_alone config fresh.sound request).run fresh.distinct run
  have lone : ∃ s, p.Lone request s := by
    have within : ∀ {p}, Run config nobody (alone config start request) p →
        p.Faithful config start ∧ ∃ s, p.Lone request s := by
      intro p run
      induction run with
      | refl => exact ⟨faithful_alone config fresh.sound request, _, rfl, rfl, .inl rfl⟩
      | tail _ step ih =>
        obtain ⟨faithful, s, lone⟩ := ih
        exact ⟨faithful.step fresh.distinct step, lone.step opens faithful step⟩
    exact (within run).2
  obtain ⟨s, lone⟩ := lone
  have finished : s.response? = some r := by simpa [response?, lone.only] using answered
  have member : s ∈ p.servings := by simp [lone.only]
  have ends := faithful.keeps s member
  obtain ⟨asked, past, rest⟩ := s
  cases rest <;> try cases finished
  rw [Program.meets_done, Request.Yields, lone.request, opens] at ends
  obtain ⟨data, first, made, rfl, opening, happened, created⟩ := ends token yields
  obtain ⟨x, held, rfl, same⟩ := (faithful.holds _ member made happened).created _ _ created
  rcases lone.once with unmade | ⟨y, one, early, _⟩
  · rw [unmade] at held
    cases held
  · rw [one] at held
    obtain rfl := List.mem_singleton.mp held
    exact ⟨_, x, data, lone, rfl, one, early, same, rfl, opening⟩

end Process

end ServiceBroker
