import ServiceBroker.Proofs.Json.Extent
import ServiceBroker.Proofs.Operation.RoundTrip

/-! Tokens that were cut or that have grown on their way through the platform. A token is the text
of one object, and its end is the object's closing brace: whatever is missing or added, nothing else
is ever read of it than the data it was made of. -/
namespace ServiceBroker

open Json

namespace OperationData

theorem toDocument_eq_object (d : OperationData) : ∃ members, d.toDocument = .object members :=
  ⟨_, rfl⟩

/-- A token begins with a brace, so no part of it but the empty one is blank. -/
theorem isBlankText_part {d : OperationData} {kept lost : String}
    (part : kept.toList ++ lost.toList = d.toDocument.render) :
    Text.isBlankText kept = decide (kept = "") := by
  obtain ⟨members, isObject⟩ := d.toDocument_eq_object
  cases chars : kept.toList with
  | nil =>
    have empty : kept = "" := String.toList_inj.mp chars
    rw [empty]
    rfl
  | cons c rest =>
    have some : kept ≠ "" := by
      rintro rfl
      cases chars
    have brace : c = '\x7b' := by
      rw [chars, isObject, Document.render, List.cons_append] at part
      exact (List.cons.inj part).1
    rw [decide_eq_false some, Text.isBlankText, chars, brace]
    rfl

/-- A token that was cut is told as missing if nothing is left of it, and as malformed otherwise. -/
theorem decode_cut {d : OperationData} {kept lost : String} (cut : kept ++ lost = d.encode)
    (lacks : lost ≠ "") : decode kept =
      .error (if kept = "" then .missing else .malformed "the text is not JSON") := by
  obtain ⟨members, isObject⟩ := d.toDocument_eq_object
  have parts : kept.toList ++ lost.toList = d.toDocument.render := by
    rw [← String.toList_append, cut, encode, Document.toText, String.toList_ofList]
  rw [decode, isBlankText_part parts]
  by_cases empty : kept = ""
  · simp [empty]
  · have unread : Document.ofString? kept = none := by
      have plain := d.plain_toDocument
      rw [isObject] at plain parts
      refine Document.read_object_cut plain parts fun nothing => lacks ?_
      exact String.toList_inj.mp nothing
    simp [empty, unread]

/-- A token with more text behind it is read if that is space, and is malformed otherwise. -/
theorem decode_extended (d : OperationData) (added : String) : decode (d.encode ++ added) =
    if added.toList.all isSpace then decode d.encode
    else .error (.malformed "the text is not JSON") := by
  obtain ⟨members, isObject⟩ := d.toDocument_eq_object
  have whole : d.encode.toList = (Document.object members).render := by
    rw [encode, Document.toText, String.toList_ofList, isObject]
  have plain := d.plain_toDocument
  rw [isObject] at plain
  have present (more : String) : Text.isBlankText (d.encode ++ more) = false := by
    rw [Text.isBlankText, String.toList_append, whole, Document.render]
    rfl
  have reads (more : String) : Document.ofString? (d.encode ++ more) =
      if more.toList.all isSpace then some (.object members) else none := by
    rw [Document.ofString?, String.toList_append, whole]
    exact Document.read_object_append plain more.toList
  have alone : decode d.encode = decode (d.encode ++ "") := by rw [String.append_empty]
  rw [alone, decode, decode, present, present, reads, reads]
  by_cases space : added.toList.all isSpace
  · simp [space]
  · simp [space]

/-- A token that was cut or has grown is never taken for another one. What is left of it when its
end is lost is turned down, as missing if nothing is left. With white space behind it it is read as
it was, and with anything else behind it, such as another token, it is turned down. -/
theorem never_another (d : OperationData) (fits : d.taskId < wordBound) (named : d.taskId ≠ 0) :
    (∀ kept lost, kept ++ lost = d.encode → lost ≠ "" →
      if kept = "" then decode kept = .error .missing
      else ∃ reason, decode kept = .error (.malformed reason)) ∧
    (∀ added : String,
      if added.toList.all isSpace then decode (d.encode ++ added) = .ok d
      else ∃ reason, decode (d.encode ++ added) = .error (.malformed reason)) ∧
    ∀ e : OperationData, ∃ reason, decode (d.encode ++ e.encode) = .error (.malformed reason) := by
  have read : decode d.encode = .ok d := by
    rw [decode_encode, if_pos fits]
    simp [named]
  refine ⟨fun kept lost cut lacks => ?_, fun added => ?_, fun e => ?_⟩
  · rw [decode_cut cut lacks]
    by_cases empty : kept = ""
    · rw [if_pos empty, if_pos empty]
    · rw [if_neg empty, if_neg empty]
      exact ⟨_, rfl⟩
  · rw [decode_extended, read]
    by_cases space : added.toList.all isSpace
    · rw [if_pos space, if_pos space]
    · rw [if_neg space, if_neg space]
      exact ⟨_, rfl⟩
  · have second : ¬e.encode.toList.all isSpace := by
      rw [encode, Document.toText, String.toList_ofList]
      obtain ⟨members, isObject⟩ := e.toDocument_eq_object
      rw [isObject, Document.render]
      simp [isSpace]
    rw [decode_extended, if_neg second]
    exact ⟨_, rfl⟩

/-- The token of an operation whose context looks like the end of a token. -/
theorem never_another_braces :
    (∃ reason, decode "\x7b\"OperationType\":\"delete\",\"BackendTaskID\":12" =
      .error (.malformed reason)) ∧
    decode ((⟨.delete, 123, "\x7d", none, none, none, []⟩ : OperationData).encode ++ "\n") =
      .ok ⟨.delete, 123, "\x7d", none, none, none, []⟩ := by
  have cut := never_another ⟨.delete, 123, "\x7d", none, none, none, []⟩ (by decide) (by decide)
  refine ⟨?_, cut.2.1 "\n"⟩
  exact cut.1 "\x7b\"OperationType\":\"delete\",\"BackendTaskID\":12"
    "3,\"BackendContextID\":\"\x7d\"\x7d" (by decide) (by decide)

end OperationData

end ServiceBroker
