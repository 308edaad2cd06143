import ServiceBroker.Proofs.Process.Opening

/-! Parts of a run. A run goes through the point where a request comes in and, if others have to
wait for it, through the point where it is answered; and requests that were answered before a run
have no part in it. So what is known of a request that is served alone says something about any
request. -/
namespace ServiceBroker

open Memory

theorem Serving.request_step (delivery : Delivery) (w : World) (s : Serving) :
    (s.step delivery w).1.request = s.request := by
  obtain ⟨request, past, rest⟩ := s
  cases rest <;> rfl

namespace Process

variable {config : BrokerConfig} {admits : Process → Request → Prop} {p p' q : Process}

theorem response?_of_served {i : Nat} {s : Serving} (served : p.servings[i]? = some s) :
    p.response? i = s.response? := by
  rw [response?, served, Option.bind_some]

/-- Responses stay. -/
theorem Step.response?_eq {i : Nat} {r : Response} (answered : p.response? i = some r)
    (step : Step config admits p p') : p'.response? i = some r := by
  obtain ⟨s, served, finished⟩ := Option.bind_eq_some_iff.mp answered
  cases step with
  | @receive request _ =>
    have still := getElem?_append_of_eq_some served [Serving.start config request]
    exact (response?_of_served still).trans finished
  | drift _ => exact answered
  | advance j delivery =>
    cases taken : p.servings[j]? with
    | none => rwa [Process.advance, taken]
    | some t =>
      rw [advance_of_served taken]
      by_cases same : j = i
      · subst same
        obtain rfl := Option.some.inj (served.symm.trans taken)
        rw [Serving.step_of_response finished, set_of_getElem?_eq_some taken]
        exact answered
      · have still : (p.servings.set j (t.step delivery p.world).1)[i]? = some s := by
          rwa [List.getElem?_set_ne same]
        exact (response?_of_served still).trans finished

theorem Run.response?_eq {i : Nat} {r : Response} (answered : p.response? i = some r)
    (run : Run config admits p p') : p'.response? i = some r := by
  induction run with
  | refl => exact answered
  | tail _ step ih => exact step.response?_eq ih

/-- The run up to the point where a request comes in, and from there on. -/
theorem Run.received (run : Run config admits p p') {i : Nat} {s : Serving}
    (served : p'.servings[i]? = some s) (new : p.servings.length ≤ i) :
    ∃ q, Run config admits p q ∧ q.servings.length = i ∧ admits q s.request ∧
      Run config admits (q.receive config s.request) p' := by
  induction run generalizing s with
  | refl =>
    have inside := (List.getElem?_eq_some_iff.mp served).1
    omega
  | @tail p₁ p₂ before step ih =>
    have onward {t : Serving} (held : p₁.servings[i]? = some t) (same : t.request = s.request) :
        ∃ q, Run config admits p q ∧ q.servings.length = i ∧ admits q s.request ∧
          Run config admits (q.receive config s.request) p₂ := by
      obtain ⟨q, toThere, count, admitted, fromThere⟩ := ih held
      exact ⟨q, toThere, count, same ▸ admitted, same ▸ fromThere.tail step⟩
    cases step with
    | drift _ => exact onward served rfl
    | @receive request admitted =>
      rw [receive, List.getElem?_append] at served
      split at served
      · exact onward served rfl
      · rename_i outside
        obtain ⟨inside, same⟩ := List.getElem?_eq_some_iff.mp served
        rw [List.length_singleton] at inside
        obtain rfl : Serving.start config request = s := by simpa using same
        exact ⟨p₁, before, by omega, admitted, .refl⟩
    | advance j delivery =>
      cases taken : p₁.servings[j]? with
      | none =>
        rw [advance, taken] at served
        exact onward served rfl
      | some t =>
        rw [advance_of_served taken] at served
        by_cases same : j = i
        · subst same
          have inside := (List.getElem?_eq_some_iff.mp taken).1
          rw [List.getElem?_set_self inside] at served
          exact onward taken (Option.some.inj served ▸ (t.request_step delivery p₁.world).symm)
        · rw [List.getElem?_set_ne same] at served
          exact onward served rfl

theorem Step.length_le (step : Step config admits p p') :
    p.servings.length ≤ p'.servings.length := by
  cases step with
  | receive _ => simp [Process.receive]
  | drift _ => exact Nat.le_refl _
  | advance i delivery =>
    unfold Process.advance
    split
    · exact Nat.le_refl _
    · simp

theorem Run.length_le (run : Run config admits p p') : p.servings.length ≤ p'.servings.length := by
  induction run with
  | refl => exact Nat.le_refl _
  | tail _ step ih => exact Nat.le_trans ih step.length_le

/-- The run up to a point where the first request is answered, and from there on. Up to there nobody
else is served. -/
theorem Run.until_answered
    (waits : ∀ p request, admits p request → ∀ s ∈ p.servings, s.response?.isSome)
    (begun : 0 < p.servings.length) (run : Run config admits p p') {r : Response}
    (answered : p'.response? 0 = some r) :
    ∃ q, Run config nobody p q ∧ q.response? 0 = some r ∧ Run config admits q p' := by
  have split : Run config nobody p p' ∨
      ∃ q, Run config nobody p q ∧ (q.response? 0).isSome ∧ Run config admits q p' := by
    clear answered
    induction run with
    | refl => exact .inl .refl
    | @tail p₁ p₂ _ step ih =>
      rcases ih with sofar | ⟨q, toThere, isSome, fromThere⟩
      · cases step with
        | drift drifts => exact .inl (sofar.tail (.drift drifts))
        | advance i delivery => exact .inl (sofar.tail (.advance p₁ i delivery))
        | receive admitted =>
          have first := List.getElem?_eq_getElem (Nat.lt_of_lt_of_le begun sofar.length_le)
          have isSome := waits _ _ admitted _ (List.mem_of_getElem? first)
          exact .inr ⟨p₁, sofar, response?_of_served first ▸ isSome, .single (.receive admitted)⟩
      · exact .inr ⟨q, toThere, isSome, fromThere.tail step⟩
  rcases split with all | ⟨q, toThere, isSome, fromThere⟩
  · exact ⟨p', all, answered, .refl⟩
  · obtain ⟨r', already⟩ := Option.isSome_iff_exists.mp isSome
    obtain rfl := Option.some.inj ((fromThere.response?_eq already).symm.trans answered)
    exact ⟨q, toThere, already, fromThere⟩

/-- The process together with requests that were served before it. -/
def after (earlier : List Serving) (made : List Submission) (p : Process) : Process :=
  { p with servings := earlier ++ p.servings, submissions := made ++ p.submissions }

theorem receive_eq_after (config : BrokerConfig) (request : Request) (p : Process) :
    p.receive config request = (alone config p.world request).after p.servings p.submissions := by
  rw [after, alone, List.append_nil, receive]

section

variable {earlier : List Serving} {made : List Submission}

theorem getElem?_after (i : Nat) :
    (p.after earlier made).servings[earlier.length + i]? = p.servings[i]? := by
  rw [after, List.getElem?_append_right (Nat.le_add_right ..), Nat.add_sub_cancel_left]

/-- Requests that are answered take no steps. -/
theorem Step.of_after (answered : ∀ s ∈ earlier, s.response?.isSome)
    (step : Step config admits (p.after earlier made) q) : ∃ p', q = p'.after earlier made ∧
      Run config (fun p request => admits (p.after earlier made) request) p p' := by
  generalize whole : p.after earlier made = a at step
  cases step with
  | receive admitted =>
    subst whole
    exact ⟨_, by simp [after, Process.receive], .single (.receive admitted)⟩
  | drift drifts =>
    subst whole
    exact ⟨_, rfl, .single (.drift drifts)⟩
  | advance i delivery =>
    subst whole
    cases taken : (p.after earlier made).servings[i]? with
    | none => exact ⟨p, by rw [Process.advance, taken], .refl⟩
    | some s =>
      rw [advance_of_served taken]
      rcases Nat.lt_or_ge i earlier.length with old | new
      · have isEarlier : earlier[i]? = some s := by
          rwa [after, List.getElem?_append_left old] at taken
        have isSome := answered s (List.mem_of_getElem? isEarlier)
        obtain ⟨r, finished⟩ := Option.isSome_iff_exists.mp isSome
        rw [Serving.step_of_response finished, set_of_getElem?_eq_some taken, List.append_nil]
        exact ⟨p, rfl, .refl⟩
      · obtain ⟨j, rfl⟩ := Nat.exists_eq_add_of_le new
        have served : p.servings[j]? = some s := (getElem?_after j).symm.trans taken
        refine ⟨p.advance j delivery, ?_, .single (.advance p j delivery)⟩
        rw [advance_of_served served]
        simp [after, List.set_append_right]

/-- A run behind requests that were answered before is a run of its own. -/
theorem Run.of_after (answered : ∀ s ∈ earlier, s.response?.isSome)
    (run : Run config admits (p.after earlier made) q) : ∃ p', q = p'.after earlier made ∧
      Run config (fun p request => admits (p.after earlier made) request) p p' := by
  induction run with
  | refl => exact ⟨p, rfl, .refl⟩
  | tail _ step ih =>
    obtain ⟨p₁, rfl, sofar⟩ := ih
    obtain ⟨p₂, rfl, onward⟩ := step.of_after answered
    exact ⟨p₂, rfl, sofar.trans onward⟩

end

end Process

end ServiceBroker
