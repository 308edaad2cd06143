import ServiceBroker.Proofs.Catalog.RoundTrip
import ServiceBroker.Proofs.Json.Values
import ServiceBroker.Proofs.Settings.Reading
import ServiceBroker.Request.Json

/-! What is written of the data of the broker is read back as it was: plans and configurations,
tasks, the answers to requests, and requests themselves. Requests carry values that nobody here
interprets. Those come back too, as long as they came from a text in the first place and none of
their numbers is a double. -/
namespace ServiceBroker

open Json

/-- What a text spells. -/
def ofText? {α : Type} (decode : Decoder α) (text : String) : Option α :=
  (Document.ofString? text).bind decode

/-- Some text spells it. -/
def Spelled {α : Type} (decode : Decoder α) (a : α) : Prop := ∃ text, ofText? decode text = some a

/-- The text that is written of it is read as the same again, which is written alike. -/
def Survives {α : Type} (decode : Decoder α) (encode : α → Document) (a : α) : Prop :=
  ∃ b, ofText? decode (encode a).toText = some b ∧ b = a ∧ (encode b).toText = (encode a).toText

theorem survives_of {α : Type} {decode : Decoder α} {encode : α → Document} {a : α}
    (plain : (encode a).Plain) (returns : decode (encode a) = some a) :
    Survives decode encode a := by
  refine ⟨a, ?_, rfl, rfl⟩
  rw [ofText?, Document.ofString?_toText plain, Option.bind_some, returns]

/-! Answers and tasks. -/

theorem LastOperationState.ofWord?_word (s : LastOperationState) : ofWord? s.word = some s := by
  cases s <;> rfl

theorem LastOperation.survives (o : LastOperation) :
    Survives LastOperation.ofDocument LastOperation.toDocument o := by
  refine survives_of ⟨trivial, trivial, trivial⟩ ?_
  have fields : o.toDocument.fields? [["state"], ["description"]] = some [some _, some _] :=
    Document.fields?_record [(_, _), (_, _)] (by simp)
  have state : Decode.word LastOperationState.ofWord? (.text o.state.word) = some o.state :=
    o.state.ofWord?_word
  rw [ofDocument, fields, Option.bind_some]
  simp only [Form.required, Option.bind_some, state]
  rfl

theorem ProvisionedService.survives (s : ProvisionedService) :
    Survives ProvisionedService.ofDocument ProvisionedService.toDocument s := by
  refine survives_of ⟨trivial, trivial, trivial, trivial⟩ ?_
  have fields : s.toDocument.fields? [["is_async"], ["dashboard_url"], ["operation_data"]] =
      some [some _, some _, some _] :=
    Document.fields?_record [(_, _), (_, _), (_, _)] (by simp)
  rw [ofDocument, fields]
  rfl

theorem AcceptedOperation.survives (s : AcceptedOperation) :
    Survives AcceptedOperation.ofDocument AcceptedOperation.toDocument s := by
  refine survives_of ⟨trivial, trivial, trivial⟩ ?_
  have fields : s.toDocument.fields? [["is_async"], ["operation_data"]] = some [some _, some _] :=
    Document.fields?_record [(_, _), (_, _)] (by simp)
  rw [ofDocument, fields]
  rfl

theorem BackendTask.survives (t : BackendTask) (fits : t.id < wordBound) :
    Survives BackendTask.ofDocument BackendTask.toDocument t := by
  refine survives_of ⟨Document.plain_nat t.id, trivial, trivial, trivial, trivial, trivial⟩ ?_
  have fields : t.toDocument.fields? [["id"], ["state"], ["description"], ["result"],
      ["context_id"]] = some [some _, some _, some _, some _, some _] :=
    Document.fields?_record [(_, _), (_, _), (_, _), (_, _), (_, _)] (by simp)
  have id : Decode.word64 (.nat t.id) = some t.id := by rw [Decode.word64_nat, if_pos fits]
  have state : TaskState.ofDocument (.text t.state.word) = some t.state :=
    congrArg some t.state.ofReport_word
  rw [ofDocument, fields, Option.bind_some]
  simp only [Form.required, Option.bind_some, id, state]
  rfl

/-! Parameters. -/

namespace Parameters

/-- None of the numbers of the parameters is a double. -/
def Exact (p : Parameters) : Prop := ∀ e ∈ p.entries, e.2.Exact

/-- The parameters can be kept as a field of a request. -/
def Kept (p : Parameters) : Prop := ∀ e ∈ p.entries, e.2.Kept 2

theorem ofDocument_toDocument {p : Parameters} (kept : Kept p) :
    ofDocument (toDocument p) = some p :=
  Decode.map_ofMap _ _ _ fun e member => Value.ofDocument_toDocument (kept e member)

theorem plain_toDocument {p : Parameters} (kept : Kept p) : (toDocument p).Plain :=
  Document.plain_ofMap fun e member => Value.plain_toDocument (kept e member)

/-- Parameters that were read, or were not there, can be kept. -/
theorem kept_of_orElse {p : Parameters} {field : Option Document}
    (read : Decode.orElse .empty ofDocument field = some p) (exactly : Exact p) : Kept p := by
  intro e member
  cases field with
  | none =>
    cases read
    cases member
  | some d =>
    obtain ⟨entries, _, same⟩ := Form.get?_mapOf read
    have found : some (some e.2) = ((NameMap.ofList entries).get? e.1).map (Decode.value 2) := by
      rw [← same, NameMap.get?_eq_some_iff.mpr member, Option.map_some]
    obtain ⟨_, _, ofEntry⟩ := Option.map_eq_some_iff.mp found.symm
    exact Value.kept_of_ofDocument (exactly e member) ofEntry

/-- So can the parameters of a request that some text spells. -/
theorem kept_of_spelled {α : Type} {decode : Decoder α} {parameters : α → Parameters}
    (carries : ∀ document a, decode document = some a →
      ∃ field, Decode.orElse .empty ofDocument field = some (parameters a))
    {a : α} (spelled : Spelled decode a) (exactly : Exact (parameters a)) : Kept (parameters a) := by
  obtain ⟨text, spells⟩ := spelled
  obtain ⟨document, _, read⟩ := Option.bind_eq_some_iff.mp spells
  obtain ⟨field, carried⟩ := carries document a read
  exact kept_of_orElse carried exactly

end Parameters

/-! Requests. -/

theorem nullable_text (s : Option String) :
    Decode.nullable Decode.text (.ofOption .text s) = some s :=
  Decode.nullable_ofOption Document.text Decode.text (fun _ => rfl) (fun _ => rfl) s

namespace ProvisionDetails

theorem parameters_of_ofDocument (document : Document) (d : ProvisionDetails)
    (read : ofDocument document = some d) :
    ∃ field, Decode.orElse .empty Parameters.ofDocument field = some d.parameters := by
  obtain ⟨fields, _, read⟩ := Option.bind_eq_some_iff.mp read
  split at read
  · simp only [Option.bind_eq_bind, Option.pure_def, Option.bind_eq_some_iff,
      Option.some.injEq] at read
    obtain ⟨_, _, _, _, _, _, _, _, _, parameters, rfl⟩ := read
    exact ⟨_, parameters⟩
  · cases read

theorem survives {d : ProvisionDetails} (kept : d.parameters.Kept) :
    Survives ProvisionDetails.ofDocument ProvisionDetails.toDocument d := by
  refine survives_of
    ⟨trivial, trivial, trivial, trivial, Parameters.plain_toDocument kept, trivial⟩ ?_
  have fields : d.toDocument.fields? [["service_id"], ["plan_id"], ["organization_guid"],
      ["space_guid"], ["parameters"]] = some [some _, some _, some _, some _, some _] :=
    Document.fields?_record [(_, _), (_, _), (_, _), (_, _), (_, _)] (by simp)
  rw [ofDocument, fields, Option.bind_some]
  simp only [Form.orElse, Parameters.ofDocument_toDocument kept]
  rfl

end ProvisionDetails

namespace UpdateDetails

theorem parameters_of_ofDocument (document : Document) (d : UpdateDetails)
    (read : ofDocument document = some d) :
    ∃ field, Decode.orElse .empty Parameters.ofDocument field = some d.parameters := by
  obtain ⟨fields, _, read⟩ := Option.bind_eq_some_iff.mp read
  split at read
  · simp only [Option.bind_eq_bind, Option.pure_def, Option.bind_eq_some_iff,
      Option.some.injEq] at read
    obtain ⟨_, _, _, _, _, _, _, parameters, rfl⟩ := read
    exact ⟨_, parameters⟩
  · cases read

theorem survives {d : UpdateDetails} (kept : d.parameters.Kept) :
    Survives UpdateDetails.ofDocument UpdateDetails.toDocument d := by
  refine survives_of ⟨trivial, trivial, trivial, Parameters.plain_toDocument kept, trivial⟩ ?_
  have fields : d.toDocument.fields? [["service_id"], ["plan_id"], ["previous_plan_id"],
      ["parameters"]] = some [some _, some _, some _, some _] :=
    Document.fields?_record [(_, _), (_, _), (_, _), (_, _)] (by simp)
  rw [ofDocument, fields, Option.bind_some]
  simp only [Form.orElse, Parameters.ofDocument_toDocument kept]
  rfl

end UpdateDetails

theorem DeprovisionDetails.survives (d : DeprovisionDetails) :
    Survives DeprovisionDetails.ofDocument DeprovisionDetails.toDocument d := by
  refine survives_of ⟨trivial, trivial, trivial, trivial⟩ ?_
  have fields : d.toDocument.fields? [["service_id"], ["plan_id"], ["force"]] =
      some [some _, some _, some _] :=
    Document.fields?_record [(_, _), (_, _), (_, _)] (by simp)
  rw [ofDocument, fields]
  rfl

namespace BindDetails

theorem parameters_of_ofDocument (document : Document) (d : BindDetails)
    (read : ofDocument document = some d) :
    ∃ field, Decode.orElse .empty Parameters.ofDocument field = some d.parameters := by
  obtain ⟨fields, _, read⟩ := Option.bind_eq_some_iff.mp read
  split at read
  · simp only [Option.bind_eq_bind, Option.pure_def, Option.bind_eq_some_iff,
      Option.some.injEq] at read
    obtain ⟨_, _, _, _, _, _, _, parameters, rfl⟩ := read
    exact ⟨_, parameters⟩
  · cases read

theorem survives {d : BindDetails} (kept : d.parameters.Kept) :
    Survives BindDetails.ofDocument BindDetails.toDocument d := by
  refine survives_of ⟨trivial, trivial, Document.plain_ofOption fun _ _ => trivial,
    Parameters.plain_toDocument kept, trivial⟩ ?_
  have fields : d.toDocument.fields? [["service_id"], ["plan_id"], ["app_guid"], ["parameters"]] =
      some [some _, some _, some _, some _] :=
    Document.fields?_record [(_, _), (_, _), (_, _), (_, _)] (by simp)
  rw [ofDocument, fields, Option.bind_some]
  simp only [Form.orElse, Parameters.ofDocument_toDocument kept, nullable_text]
  rfl

end BindDetails

theorem UnbindDetails.survives (d : UnbindDetails) :
    Survives UnbindDetails.ofDocument UnbindDetails.toDocument d := by
  refine survives_of ⟨trivial, trivial, trivial⟩ ?_
  have fields : d.toDocument.fields? [["service_id"], ["plan_id"]] = some [some _, some _] :=
    Document.fields?_record [(_, _), (_, _)] (by simp)
  rw [ofDocument, fields]
  rfl

namespace Binding

/-- Credentials that were read without a double can be kept. -/
theorem kept_of_ofDocument {document : Document} {b : Binding}
    (read : ofDocument document = some b) (exactly : b.credentials.Exact) :
    b.credentials.Kept 1 := by
  obtain ⟨fields, _, read⟩ := Option.bind_eq_some_iff.mp read
  split at read
  · simp only [Option.bind_eq_bind, Option.pure_def, Option.bind_eq_some_iff,
      Option.some.injEq] at read
    obtain ⟨_, credentials, _, _, _, _, rfl⟩ := read
    obtain ⟨d, _, credentials⟩ := Option.bind_eq_some_iff.mp credentials
    exact Value.kept_of_ofDocument exactly credentials
  · cases read

theorem survives {b : Binding} (kept : b.credentials.Kept 1) :
    Survives Binding.ofDocument Binding.toDocument b := by
  refine survives_of ⟨Value.plain_toDocument kept, Document.plain_ofOption fun _ _ => trivial,
    Document.plain_ofOption fun _ _ => trivial, trivial⟩ ?_
  have fields : b.toDocument.fields? [["credentials"], ["syslog_drain_url"],
      ["route_service_url"]] = some [some _, some _, some _] :=
    Document.fields?_record [(_, _), (_, _), (_, _)] (by simp)
  have credentials : Decode.value 1 b.credentials.toDocument = some b.credentials :=
    Value.ofDocument_toDocument kept
  rw [ofDocument, fields, Option.bind_some]
  simp only [Form.orElse, Form.required, Option.bind_some, credentials, nullable_text]
  rfl

end Binding

/-- Whatever the broker writes of its data is read back as it was, and would be written in the same
way again. Of requests and credentials, which carry values of any kind, this is said as far as a
text can spell them without a number that is no whole number of 64 bits. -/
theorem shapes_survive :
    (∀ p : Plan, Survives Plan.ofDocument Plan.toDocument p) ∧
    (∀ o : Offering, Survives Offering.ofDocument Offering.toDocument o) ∧
    (∀ c : BrokerConfig, Survives BrokerConfig.ofDocument BrokerConfig.toDocument c) ∧
    (∀ t : BackendTask, t.id < wordBound →
      Survives BackendTask.ofDocument BackendTask.toDocument t) ∧
    (∀ o : LastOperation, Survives LastOperation.ofDocument LastOperation.toDocument o) ∧
    (∀ s : ProvisionedService,
      Survives ProvisionedService.ofDocument ProvisionedService.toDocument s) ∧
    (∀ s : AcceptedOperation,
      Survives AcceptedOperation.ofDocument AcceptedOperation.toDocument s) ∧
    (∀ d : ProvisionDetails, Spelled ProvisionDetails.ofDocument d → d.parameters.Exact →
      Survives ProvisionDetails.ofDocument ProvisionDetails.toDocument d) ∧
    (∀ d : UpdateDetails, Spelled UpdateDetails.ofDocument d → d.parameters.Exact →
      Survives UpdateDetails.ofDocument UpdateDetails.toDocument d) ∧
    (∀ d : DeprovisionDetails,
      Survives DeprovisionDetails.ofDocument DeprovisionDetails.toDocument d) ∧
    (∀ d : BindDetails, Spelled BindDetails.ofDocument d → d.parameters.Exact →
      Survives BindDetails.ofDocument BindDetails.toDocument d) ∧
    (∀ d : UnbindDetails, Survives UnbindDetails.ofDocument UnbindDetails.toDocument d) ∧
    ∀ b : Binding, Spelled Binding.ofDocument b → b.credentials.Exact →
      Survives Binding.ofDocument Binding.toDocument b := by
  refine ⟨fun p => survives_of p.plain_toDocument p.ofDocument_toDocument,
    fun o => survives_of o.plain_toDocument o.ofDocument_toDocument,
    fun c => survives_of c.plain_toDocument c.ofDocument_toDocument, BackendTask.survives,
    LastOperation.survives, ProvisionedService.survives, AcceptedOperation.survives, ?_, ?_,
    DeprovisionDetails.survives, ?_, UnbindDetails.survives, ?_⟩
  · intro d spelled exactly
    apply ProvisionDetails.survives
    exact Parameters.kept_of_spelled ProvisionDetails.parameters_of_ofDocument spelled exactly
  · intro d spelled exactly
    apply UpdateDetails.survives
    exact Parameters.kept_of_spelled UpdateDetails.parameters_of_ofDocument spelled exactly
  · intro d spelled exactly
    apply BindDetails.survives
    exact Parameters.kept_of_spelled BindDetails.parameters_of_ofDocument spelled exactly
  · rintro b ⟨text, spells⟩ exactly
    obtain ⟨document, _, read⟩ := Option.bind_eq_some_iff.mp spells
    exact Binding.survives (Binding.kept_of_ofDocument read exactly)

/-- Parameters with a list in a list and a negative number. -/
def nestedParameters : Parameters := .singleton "a" (.array [.array [], .number (.whole (-7))])

/-- The document of a request with the parameters, one of which is written twice. -/
def repeatedDocument : Document :=
  .record [("plan_id", .text "p1"), ("parameters", .record [("a", .null),
    ("a", .array [.array [], .number (.ofInt (-7))])]), ("service_id", .text "svc")]

/-- Requests that one text spells, credentials, and a task with the largest number of a word. -/
theorem shapes_survive_repeated :
    (Spelled ProvisionDetails.ofDocument ⟨"svc", "p1", "", "", nestedParameters⟩ ∧
      Spelled UpdateDetails.ofDocument ⟨"svc", "p1", "", nestedParameters⟩ ∧
      Spelled BindDetails.ofDocument ⟨"svc", "p1", none, nestedParameters⟩ ∧
      nestedParameters.Exact ∧
      Spelled Binding.ofDocument ⟨.string "ä", none, none⟩ ∧ (Value.string "ä").Exact ∧
      18446744073709551615 < wordBound) ∧
    Survives ProvisionDetails.ofDocument ProvisionDetails.toDocument
      ⟨"svc", "p1", "", "", nestedParameters⟩ ∧
    Survives UpdateDetails.ofDocument UpdateDetails.toDocument
      ⟨"svc", "p1", "", nestedParameters⟩ ∧
    Survives BindDetails.ofDocument BindDetails.toDocument ⟨"svc", "p1", none, nestedParameters⟩ ∧
    Survives Binding.ofDocument Binding.toDocument ⟨.string "ä", none, none⟩ ∧
    Survives BackendTask.ofDocument BackendTask.toDocument
      ⟨18446744073709551615, .unrecognized, "", "", ""⟩ := by
  obtain ⟨_, _, _, task, _, _, _, provision, update, _, bind, _, binding⟩ := shapes_survive
  have plain : repeatedDocument.Plain :=
    ⟨trivial, ⟨trivial, ⟨trivial, Numeral.plain_ofInt (-7), trivial⟩, trivial⟩, trivial, trivial⟩
  have spells {α : Type} {decode : Decoder α} {a : α} (read : decode repeatedDocument = some a) :
      Spelled decode a :=
    ⟨_, Option.bind_eq_some_iff.mpr ⟨_, Document.ofString?_toText plain, read⟩⟩
  have secret : (Document.record [("credentials", .text "ä")]).Plain := ⟨trivial, trivial⟩
  have credentials : Spelled Binding.ofDocument ⟨.string "ä", none, none⟩ :=
    ⟨_, Option.bind_eq_some_iff.mpr ⟨_, Document.ofString?_toText secret, rfl⟩⟩
  have exactly : nestedParameters.Exact := by
    rintro e (_ | ⟨_, ⟨⟩⟩)
    refine .array fun v member => ?_
    simp only [List.mem_cons, List.not_mem_nil, or_false] at member
    rcases member with rfl | rfl
    · exact .array fun _ impossible => nomatch impossible
    · exact .whole (-7)
  have fits : 18446744073709551615 < wordBound := by decide
  exact ⟨⟨spells rfl, spells rfl, spells rfl, exactly, credentials, .string _, fits⟩,
    provision _ (spells rfl) exactly, update _ (spells rfl) exactly, bind _ (spells rfl) exactly,
    binding _ credentials (.string _), task _ fits⟩

end ServiceBroker
