import ServiceBroker.Proofs.Json.RoundTrip

/-! Where a JSON text ends. Every value but a number says itself where it ends: once it is complete
only space may follow, and as long as it is not complete the text is not JSON. So of two texts that
both spell a value, one cannot begin with the other unless it adds nothing but space, or both are
numbers. -/
namespace ServiceBroker.Json

/-- A value that is no number, and so has an end of its own. -/
def Document.IsDelimited (d : Document) : Prop := ∀ n, d ≠ .number n

namespace ReaderState

/-- Behind a complete document there may be space and nothing else. -/
theorem run_finished (d : Document) (frames : List Frame) (added : List Char) :
    run ⟨.finished d, frames⟩ added =
      if added.all isSpace then some ⟨.finished d, frames⟩ else none := by
  induction added with
  | nil => rfl
  | cons c rest ih =>
    by_cases space : isSpace c
    · have stays : step ⟨.finished d, frames⟩ c = some ⟨.finished d, frames⟩ := by
        simp [step, structural, space]
      rw [run, stays, Option.bind_some, ih, List.all_cons, space, Bool.true_and]
    · have stops : step ⟨.finished d, frames⟩ c = none := by
        simp [step, structural, space]
      simp [run, stops, space]

/-- The text is a number so far, or a number and space behind it. -/
inductive Numeric : ReaderState → Prop where
  | reading (soFar : Numeral) (part : NumeralPart) : Numeric ⟨.number soFar part, []⟩
  | finished (n : Numeral) (frames : List Frame) : Numeric ⟨.finished (.number n), frames⟩

/-- One more character belongs to the number or is space behind it. -/
theorem Numeric.step {s next : ReaderState} {c : Char} (numeric : Numeric s)
    (stepped : s.step c = some next) : Numeric next := by
  cases numeric with
  | finished n frames =>
    simp only [ReaderState.step, structural] at stepped
    split at stepped
    · cases stepped
      exact .finished n frames
    · cases stepped
  | reading soFar part =>
    simp only [ReaderState.step] at stepped
    split at stepped
    · cases stepped
      exact .reading _ _
    · split at stepped
      · simp only [complete, structural] at stepped
        split at stepped
        · cases stepped
          exact .finished soFar.close []
        · cases stepped
      · cases stepped

theorem Numeric.run {s last : ReaderState} {added : List Char} (numeric : Numeric s)
    (ran : s.run added = some last) : Numeric last := by
  induction added generalizing s with
  | nil =>
    cases ran
    exact numeric
  | cons c rest ih =>
    obtain ⟨next, stepped, continued⟩ := Option.bind_eq_some_iff.mp ran
    exact ih (numeric.step stepped) continued

theorem Numeric.result? {s : ReaderState} {d : Document} (numeric : Numeric s)
    (ends : s.result? = some d) : ∃ n, d = .number n := by
  cases numeric with
  | finished n frames =>
    cases ends
    exact ⟨n, rfl⟩
  | reading soFar part =>
    simp only [ReaderState.result?] at ends
    split at ends
    · cases ends
      exact ⟨_, rfl⟩
    · cases ends

/-- Where a text may end, it is a number or its value is complete. -/
theorem numeric_or_finished {s : ReaderState} {d : Document} (ends : s.result? = some d) :
    Numeric s ∨ s.mode = .finished d ∧ d.IsDelimited := by
  obtain ⟨mode, frames⟩ := s
  cases mode with
  | finished document =>
    obtain rfl : document = d := Option.some.inj ends
    cases document with
    | number n => exact .inl (.finished n frames)
    | _ => exact .inr ⟨rfl, fun _ same => nomatch same⟩
  | number soFar part =>
    left
    simp only [result?] at ends
    split at ends
    · rename_i last
      have outermost : frames = [] := by simpa using (Bool.and_eq_true_iff.mp last).2
      rw [outermost]
      exact .reading soFar part
    · cases ends
  | _ => cases ends

end ReaderState

namespace Document

/-- Behind a value that has an end of its own, a text may go on with space only. -/
theorem read_append {first : List Char} {d : Document} (reads : read first = some d)
    (delimited : d.IsDelimited) (added : List Char) :
    read (first ++ added) = if added.all isSpace then some d else none := by
  obtain ⟨⟨mode, frames⟩, ran, ends⟩ := Option.bind_eq_some_iff.mp reads
  have finished : mode = .finished d := by
    rcases ReaderState.numeric_or_finished ends with numeric | ⟨finished, _⟩
    · obtain ⟨n, isNumber⟩ := numeric.result? ends
      exact absurd isNumber (delimited n)
    · exact finished
  subst finished
  rw [read, ReaderState.run_append, ran, Option.bind_some, ReaderState.run_finished]
  by_cases space : added.all isSpace
  · rw [if_pos space, if_pos space, Option.bind_some]
    exact ends
  · rw [if_neg space, if_neg space, Option.bind_none]

/-- A text that lacks more than space of such a value is not JSON. -/
theorem read_of_append {kept lost : List Char} {d : Document} (reads : read (kept ++ lost) = some d)
    (delimited : d.IsDelimited) (needed : ¬lost.all isSpace) : read kept = none := by
  cases already : read kept with
  | none => rfl
  | some e =>
    obtain ⟨s, ran, ends⟩ := Option.bind_eq_some_iff.mp already
    rcases ReaderState.numeric_or_finished ends with numeric | ⟨_, other⟩
    · rw [read, ReaderState.run_append, ran, Option.bind_some] at reads
      obtain ⟨last, continued, ended⟩ := Option.bind_eq_some_iff.mp reads
      obtain ⟨n, isNumber⟩ := (numeric.run continued).result? ended
      exact absurd isNumber (delimited n)
    · rw [read_append already other, if_neg needed] at reads
      cases reads

/-! Texts as they are written. -/

theorem renderMoreMembers_ends (members : List (Quoted × Document)) :
    '\x7d' ∈ (renderMoreMembers members).getLast? := by
  induction members with
  | nil => rfl
  | cons first rest ih =>
    rw [renderMoreMembers, List.getLast?_append]
    simp only [Option.mem_def] at ih
    simp [ih]

/-- The last character of an object is its closing brace. -/
theorem render_object_ends (members : List (Quoted × Document)) :
    '\x7d' ∈ (object members).render.getLast? := by
  cases members with
  | nil => rfl
  | cons first rest =>
    have ends := renderMoreMembers_ends rest
    simp only [Option.mem_def] at ends
    rw [render, renderMembers, ← List.cons_append, List.getLast?_append]
    simp [ends]

theorem isDelimited_object (members : List (Quoted × Document)) : (object members).IsDelimited := by
  rintro _ ⟨⟩

/-- What is read of the text of an object with more text behind it. -/
theorem read_object_append {members : List (Quoted × Document)} (plain : (object members).Plain)
    (added : List Char) : read ((object members).render ++ added) =
      if added.all isSpace then some (object members) else none := by
  have whole : read (object members).render = some (object members) := by
    have reads := ofString?_toText plain
    rwa [ofString?, toText, String.toList_ofList] at reads
  exact read_append whole (isDelimited_object members) added

/-- Nothing is read of the text of an object that was cut. -/
theorem read_object_cut {members : List (Quoted × Document)} (plain : (object members).Plain)
    {kept lost : List Char} (cut : kept ++ lost = (object members).render) (lacks : lost ≠ []) :
    read kept = none := by
  have whole : read (kept ++ lost) = some (object members) := by
    rw [cut]
    simpa using read_object_append plain []
  refine read_of_append whole (isDelimited_object members) ?_
  have ends : '\x7d' ∈ lost := by
    have last := render_object_ends members
    rw [← cut, List.getLast?_append] at last
    simp only [List.getLast?_eq_some_getLast lacks, Option.some_or, Option.mem_def,
      Option.some.injEq] at last
    rw [← last]
    exact List.getLast_mem lacks
  intro space
  have blank := List.all_eq_true.mp space _ ends
  cases blank

end Document

end ServiceBroker.Json
