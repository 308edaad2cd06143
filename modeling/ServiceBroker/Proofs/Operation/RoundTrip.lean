import ServiceBroker.Operation.Token
import ServiceBroker.Proofs.Json.Records

/-! Tokens give back the operation data they were made of. Nothing else is ever read of them: the
only data without a token of use are those that name no task or one beyond a machine word. -/
namespace ServiceBroker

open Json

namespace Errand

/-- The fields of an errand as they are written. -/
def written (e : Errand) : List WrittenField :=
  [{ name := "Name", others := ["name"], value := some (.text e.name) },
    { name := "Instances", others := ["instances"],
      value := if e.instances.isEmpty then none else some (.ofList .text e.instances) }]

theorem toDocument_eq_ofFields (e : Errand) : e.toDocument = .ofFields e.written := by
  unfold toDocument written Document.ofFields
  cases e.instances <;> rfl

theorem plain_toDocument (e : Errand) : e.toDocument.Plain := by
  rw [toDocument_eq_ofFields]
  refine Document.plain_ofFields fun f member d isValue => ?_
  simp only [written, List.mem_cons, List.not_mem_nil, or_false] at member
  rcases member with rfl | rfl
  · cases isValue
    exact Document.plain_text _
  · cases instances : e.instances with
    | nil => simp [instances] at isValue
    | cons first rest =>
      simp only [instances, List.isEmpty_cons, Bool.false_eq_true, if_false] at isValue
      cases isValue
      exact Document.plain_ofList fun _ _ => Document.plain_text _

/-- An errand is read back from its document. -/
theorem ofDocument_toDocument (e : Errand) : ofDocument e.toDocument = some e := by
  have distinct : e.written.Pairwise fun f g => f.name ∉ g.names ∧ g.name ∉ f.names := by
    simp [written, WrittenField.names]
  have read := Document.fields?_ofFields distinct
  have names : e.written.map WrittenField.names = fields := rfl
  rw [names] at read
  have texts : Decode.orElse [] (Decode.list Decode.text) _ = some e.instances :=
    Decode.orElse_list Document.text _ _ fun _ _ => rfl
  simp only [ofDocument, Errand.read, toDocument_eq_ofFields, form]
  rw [read]
  change (do
    let instances ← Decode.orElse [] (Decode.list Decode.text) _
    return ({ name := e.name, instances } : Errand)) = _
  rw [texts]
  rfl

end Errand

namespace OperationData

/-- The fields of operation data as they are written. -/
def written (d : OperationData) : List WrittenField :=
  [{ name := "OperationType", value := some (.text d.kind.word) },
    { name := "BackendTaskID", value := some (.nat d.taskId) },
    { name := "BackendContextID",
      value := if d.contextId.isEmpty then none else some (.text d.contextId) },
    { name := "PlanID", value := d.planId.map .text },
    { name := "PostDeployErrand", value := d.postDeployErrand.map Errand.toDocument },
    { name := "PreDeleteErrand", value := d.legacyErrand.map Errand.toDocument },
    { name := "Errands",
      value := if d.preDeleteErrands.isEmpty then none
        else some (.ofList Errand.toDocument d.preDeleteErrands) }]

theorem optionalMember_eq {α : Type} (name : String) (encode : α → Document) (a : Option α) :
    optionalMember name encode a = WrittenField.members { name, value := a.map encode } := by
  cases a <;> rfl

theorem toDocument_eq_ofFields (d : OperationData) : d.toDocument = .ofFields d.written := by
  simp only [toDocument, written, Document.ofFields, optionalMember_eq, List.flatMap_cons,
    List.flatMap_nil, List.append_assoc, List.append_nil]
  congr 1
  cases d.contextId.isEmpty <;> cases d.preDeleteErrands.isEmpty <;> rfl

theorem plain_toDocument (d : OperationData) : d.toDocument.Plain := by
  rw [toDocument_eq_ofFields]
  refine Document.plain_ofFields fun f member document isValue => ?_
  simp only [written, List.mem_cons, List.not_mem_nil, or_false] at member
  rcases member with rfl | rfl | rfl | rfl | rfl | rfl | rfl
  · cases isValue
    exact Document.plain_text _
  · cases isValue
    exact Document.plain_nat _
  · split at isValue
    · cases isValue
    · cases isValue
      exact Document.plain_text _
  · obtain ⟨_, _, rfl⟩ := Option.map_eq_some_iff.mp isValue
    exact Document.plain_text _
  · obtain ⟨e, _, rfl⟩ := Option.map_eq_some_iff.mp isValue
    exact e.plain_toDocument
  · obtain ⟨e, _, rfl⟩ := Option.map_eq_some_iff.mp isValue
    exact e.plain_toDocument
  · split at isValue
    · cases isValue
    · cases isValue
      exact Document.plain_ofList fun e _ => e.plain_toDocument

/-- Operation data are read back from their document if the number of the task fits a machine word.
-/
theorem ofDocument_toDocument (d : OperationData) :
    ofDocument d.toDocument = if d.taskId < wordBound then some d else none := by
  have distinct : d.written.Pairwise fun f g => f.name ∉ g.names ∧ g.name ∉ f.names := by
    simp [written, WrittenField.names]
  have read := Document.fields?_ofFields distinct
  have names : d.written.map WrittenField.names = fields := rfl
  rw [names] at read
  have kind : Decode.required OperationKind.ofDocument (some (.text d.kind.word)) = some d.kind :=
    OperationKind.ofWord?_word d.kind
  have plan := Decode.orElse_nullable .text Decode.text (fun _ => rfl) (fun _ => rfl) d.planId
  have errand := Decode.orElse_nullable _ _ Errand.ofDocument_toDocument fun _ => rfl
  have errands := Decode.orElse_list _ _ d.preDeleteErrands fun e _ => e.ofDocument_toDocument
  rw [ofDocument, toDocument_eq_ofFields, read, Option.bind_some]
  simp only [written, List.map_cons, List.map_nil, kind, errands, plan,
    errand d.postDeployErrand, errand d.legacyErrand, Decode.orElse_text]
  change (do
    let taskId ← Decode.word64 (.nat d.taskId)
    return { d with taskId }) = _
  rw [Decode.word64_nat]
  split <;> rfl

/-- What is read of the token of operation data. -/
theorem decode_encode (d : OperationData) : decode d.encode =
    if d.taskId < wordBound then if d.taskId == 0 then .error (.withoutTask d.kind) else .ok d
    else .error (.malformed "the text holds no operation data") := by
  have present : Text.isBlankText d.encode = false := by
    simp [Text.isBlankText, encode, Document.toText, toDocument, Document.record, Document.render,
      Text.isBlank]
  rw [decode, present, encode, Document.ofString?_toText d.plain_toDocument]
  by_cases fits : d.taskId < wordBound
  · simp only [Bool.false_eq_true, if_false, ofDocument_toDocument, if_pos fits]
  · simp only [Bool.false_eq_true, if_false, ofDocument_toDocument, if_neg fits]

/-- A token is never read as other operation data than its own. -/
theorem decode_encode_ok {d e : OperationData} (read : decode d.encode = .ok e) : e = d := by
  rw [decode_encode] at read
  split at read
  · split at read
    · cases read
    · exact (Except.ok.inj read).symm
  · cases read

/-- Where the number of the task stands in the document. -/
theorem toDocument_eq_cons (d : OperationData) : ∃ later, ∀ taskId,
    ({ d with taskId } : OperationData).toDocument = .object ((some "OperationType",
      .text d.kind.word) :: (some "BackendTaskID", .nat taskId) :: later) := by
  refine ⟨((d.written.drop 2).flatMap WrittenField.members).map fun m => (some m.1, m.2), ?_⟩
  intro taskId
  rw [toDocument_eq_ofFields]
  rfl

/-- Different operation data have different tokens, whatever the number of the task. -/
theorem encode_injective : Function.Injective encode := by
  intro d e same
  have documents : d.toDocument = e.toDocument := by
    have read := congrArg Document.ofString? same
    rw [encode, encode, Document.ofString?_toText d.plain_toDocument,
      Document.ofString?_toText e.plain_toDocument] at read
    exact Option.some.inj read
  obtain ⟨later, first⟩ := d.toDocument_eq_cons
  obtain ⟨later', second⟩ := e.toDocument_eq_cons
  have members := (first d.taskId).symm.trans (documents.trans (second e.taskId))
  simp only [Document.object.injEq, List.cons.injEq, Prod.mk.injEq, true_and] at members
  obtain ⟨kind, number, rest⟩ := members
  have taskId : d.taskId = e.taskId := Document.nat_injective number
  -- The reader refuses large numbers, so all else is compared under a small one.
  have others : ({ d with taskId := 0 } : OperationData) = { e with taskId := 0 } := by
    have zero : ({ d with taskId := 0 } : OperationData).toDocument =
        ({ e with taskId := 0 } : OperationData).toDocument := by
      rw [first, second, kind, rest]
    have read := congrArg ofDocument zero
    rw [ofDocument_toDocument, ofDocument_toDocument] at read
    exact Option.some.inj read
  calc d = { ({ d with taskId := 0 } : OperationData) with taskId := d.taskId } := rfl
    _ = { ({ e with taskId := 0 } : OperationData) with taskId := e.taskId } := by
      rw [others, taskId]
    _ = e := rfl

/-- Operation data come back from their token as they were, or are turned down if they name no task,
and no other data have the token. -/
theorem token_round_trip (d : OperationData) (fits : d.taskId < wordBound) :
    (decode d.encode = if d.taskId = 0 then .error (.withoutTask d.kind) else .ok d) ∧
      ∀ e : OperationData, e.encode = d.encode → e = d := by
  refine ⟨?_, fun e same => encode_injective same⟩
  rw [decode_encode, if_pos fits]
  by_cases none : d.taskId = 0 <;> simp [none]

/-- A deletion that was begun long ago, with names that have to be escaped. -/
def legacyData : OperationData :=
  { kind := .delete, taskId := 5, contextId := "a\"b\\c\n\t\u0001", planId := some ""
    postDeployErrand := some { name := "" }
    legacyErrand := some { name := "dräin", instances := ["redis/0", ""] } }

theorem token_round_trip_legacy : decode legacyData.encode = .ok legacyData :=
  (token_round_trip legacyData (by decide)).1

end OperationData

end ServiceBroker
