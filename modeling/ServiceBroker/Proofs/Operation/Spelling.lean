import ServiceBroker.Proofs.Json.Rewording
import ServiceBroker.Proofs.Operation.RoundTrip

/-! Tokens in other words. Platforms keep tokens for long and brokers of old wrote them in their own
way, so a token is known by what it says: the order of its members, the names of its fields, the
white space in it, what it says beside its fields and whether it says what goes without saying make
no difference. A token that says something twice is refused. -/
namespace ServiceBroker

open Json

namespace Errand

/-- What the absence of a field of an errand says. -/
def implied : List (String × Document) := [("Instances", .array []), ("instances", .array [])]

/-- One step from the object of an errand to another way to write the errand. -/
abbrev Rewords : List (Quoted × Document) → List (Quoted × Document) → Prop :=
  Json.Rewords fields implied fun _ _ _ => False

/-- An errand is read field by field. -/
theorem ofDocument_object (members : List (Quoted × Document)) : ofDocument (.object members) =
    if members.all fun m => m.1.isSome then do
      let name ← said ["Name", "name"] (Decode.orElse "" Decode.text) members
      let instances ←
        said ["Instances", "instances"] (Decode.orElse [] (Decode.list Decode.text)) members
      return { name, instances }
    else none := by
  change ((Document.object members).fields? fields).bind _ = _
  rw [Document.fields?]
  split
  · simp only [fields, List.mapM_cons, List.mapM_nil, said]
    rcases findField? ["Name", "name"] members with _ | name
    · rfl
    · rcases findField? ["Instances", "instances"] members with _ | instances
      · simp
      · rfl
  · rfl

/-- No two fields share a name. -/
theorem fields_apart : ∀ names ∈ fields, ∀ names' ∈ fields, ∀ key ∈ names, key ∈ names' →
    names = names' := by decide

/-- An errand in other words is the same errand. -/
theorem Rewords.ofDocument {members members' : List (Quoted × Document)}
    (rewords : Rewords members members') :
    Errand.ofDocument (.object members) = Errand.ofDocument (.object members') := by
  have name : Heeds implied (fun _ _ _ => False) ["Name", "name"] (Decode.orElse "" Decode.text) :=
    { implied := by simp [implied], alike := nofun }
  have instances : Heeds implied (fun _ _ _ => False) ["Instances", "instances"]
      (Decode.orElse [] (Decode.list Decode.text)) :=
    { alike := nofun
      implied := fun key _ d meant => by
        have empty : d = .array [] := by
          simp only [implied, List.mem_cons, Prod.mk.injEq, List.not_mem_nil, or_false] at meant
          exact meant.elim And.right And.right
        rw [empty]
        rfl }
  rw [ofDocument_object, ofDocument_object, Json.Rewords.all_isSome rewords,
    Json.Rewords.said rewords fields_apart (by decide) name,
    Json.Rewords.said rewords fields_apart (by decide) instances]

/-- An errand that says something twice is none. -/
theorem ofDocument_twice {members : List (Quoted × Document)} {names : FieldNames}
    (field : names ∈ fields) (twice : SaysTwice names members) :
    Errand.ofDocument (.object members) = none := by
  rw [ofDocument_object]
  split
  · simp only [fields, List.mem_cons, List.not_mem_nil, or_false] at field
    rcases field with rfl | rfl <;> simp [said, twice.findField?]
  · rfl

end Errand

namespace OperationData

/-- What the absence of a field of operation data says. -/
def implied : List (String × Document) :=
  [("BackendContextID", .text ""), ("PlanID", .null), ("PostDeployErrand", .null),
    ("PreDeleteErrand", .null), ("Errands", .array [])]

/-- The values of a field that differ in the words of an errand. -/
inductive Alike (key : String) : Document → Document → Prop where
  | single {members members' : List (Quoted × Document)}
      (field : key = "PostDeployErrand" ∨ key = "PreDeleteErrand")
      (rewords : Errand.Rewords members members') : Alike key (.object members) (.object members')
  | listed {before after : List Document} {members members' : List (Quoted × Document)}
      (field : key = "Errands") (rewords : Errand.Rewords members members') :
      Alike key (.array (before ++ .object members :: after))
        (.array (before ++ .object members' :: after))

/-- One step from the object of operation data to another way to write them. -/
abbrev Rewords : List (Quoted × Document) → List (Quoted × Document) → Prop :=
  Json.Rewords fields implied Alike

/-- Operation data are read field by field. -/
theorem ofDocument_object (members : List (Quoted × Document)) : ofDocument (.object members) =
    if members.all fun m => m.1.isSome then do
      let kind ← said ["OperationType"] (Decode.required OperationKind.ofDocument) members
      let taskId ← said ["BackendTaskID"] (Decode.orElse 0 Decode.word64) members
      let contextId ← said ["BackendContextID"] (Decode.orElse "" Decode.text) members
      let planId ← said ["PlanID"] (Decode.orElse none (Decode.nullable Decode.text)) members
      let postDeployErrand ← said ["PostDeployErrand"]
        (Decode.orElse none (Decode.nullable Errand.ofDocument)) members
      let legacyErrand ← said ["PreDeleteErrand"]
        (Decode.orElse none (Decode.nullable Errand.ofDocument)) members
      let preDeleteErrands ←
        said ["Errands"] (Decode.orElse [] (Decode.list Errand.ofDocument)) members
      return { kind, taskId, contextId, planId, postDeployErrand, legacyErrand, preDeleteErrands }
    else none := by
  rw [ofDocument, Document.fields?]
  split
  · simp only [fields, List.mapM_cons, List.mapM_nil, said]
    rcases findField? ["OperationType"] members with _ | kind
    · rfl
    rcases findField? ["BackendTaskID"] members with _ | taskId
    · simp
    rcases findField? ["BackendContextID"] members with _ | contextId
    · simp
    rcases findField? ["PlanID"] members with _ | planId
    · simp
    rcases findField? ["PostDeployErrand"] members with _ | postDeploy
    · simp
    rcases findField? ["PreDeleteErrand"] members with _ | legacy
    · simp
    rcases findField? ["Errands"] members with _ | errands
    · simp
    rfl
  · rfl

/-- No two fields share a name. -/
theorem fields_apart : ∀ names ∈ fields, ∀ names' ∈ fields, ∀ key ∈ names, key ∈ names' →
    names = names' := by decide

/-- A list is read as the same if one of its elements is. -/
theorem list_congr {α : Type} {decode : Decoder α} {d d' : Document} (same : decode d = decode d')
    (before after : List Document) : Decode.list decode (.array (before ++ d :: after)) =
      Decode.list decode (.array (before ++ d' :: after)) := by
  change (before ++ d :: after).mapM decode = (before ++ d' :: after).mapM decode
  simp only [List.mapM_append, List.mapM_cons, same]

theorem Alike.mem {key : String} {d d' : Document} (alike : Alike key d d') :
    key ∈ ["PostDeployErrand", "PreDeleteErrand", "Errands"] := by
  cases alike with
  | single field => rcases field with rfl | rfl <;> decide
  | listed field =>
    subst field
    decide

/-- An errand that may be absent is read as the same in other words. -/
theorem Alike.nullable {key : String} {d d' : Document} (alike : Alike key d d')
    (other : key ≠ "Errands") : Decode.nullable Errand.ofDocument d =
      Decode.nullable Errand.ofDocument d' := by
  cases alike with
  | single _ rewords => exact congrArg (Option.map some) rewords.ofDocument
  | listed field => exact absurd field other

/-- So are errands in a list. -/
theorem Alike.list {d d' : Document} (alike : Alike "Errands" d d') :
    Decode.list Errand.ofDocument d = Decode.list Errand.ofDocument d' := by
  cases alike with
  | single field => exact absurd field (by decide)
  | listed _ rewords => exact list_congr rewords.ofDocument _ _

/-- Operation data in other words are the same operation data. -/
theorem Rewords.ofDocument {members members' : List (Quoted × Document)}
    (rewords : Rewords members members') :
    OperationData.ofDocument (.object members) = OperationData.ofDocument (.object members') := by
  have heeds {α : Type} (name : String) (read : Option Document → Option α)
      (silent : ∀ d, (name, d) ∈ implied → read none = read (some d))
      (alike : ∀ d d', Alike name d d' → read (some d) = read (some d')) :
      Heeds implied Alike [name] read :=
    ⟨fun _ member => List.mem_singleton.mp member ▸ silent,
      fun _ member => List.mem_singleton.mp member ▸ alike⟩
  have kind := heeds "OperationType" (Decode.required OperationKind.ofDocument) (by simp [implied])
    fun _ _ alike => absurd alike.mem (by decide)
  have taskId := heeds "BackendTaskID" (Decode.orElse 0 Decode.word64) (by simp [implied])
    fun _ _ alike => absurd alike.mem (by decide)
  have contextId := heeds "BackendContextID" (Decode.orElse "" Decode.text)
    (by simp [implied]; rfl) fun _ _ alike => absurd alike.mem (by decide)
  have planId := heeds "PlanID" (Decode.orElse none (Decode.nullable Decode.text))
    (by simp [implied]; rfl) fun _ _ alike => absurd alike.mem (by decide)
  have postDeploy := heeds "PostDeployErrand"
    (Decode.orElse none (Decode.nullable Errand.ofDocument)) (by simp [implied]; rfl)
    fun _ _ alike => alike.nullable (by decide)
  have legacy := heeds "PreDeleteErrand"
    (Decode.orElse none (Decode.nullable Errand.ofDocument)) (by simp [implied]; rfl)
    fun _ _ alike => alike.nullable (by decide)
  have errands := heeds "Errands" (Decode.orElse [] (Decode.list Errand.ofDocument))
    (by simp [implied]; rfl) fun _ _ alike => alike.list
  rw [ofDocument_object, ofDocument_object, Json.Rewords.all_isSome rewords,
    Json.Rewords.said rewords fields_apart (by decide) kind,
    Json.Rewords.said rewords fields_apart (by decide) taskId,
    Json.Rewords.said rewords fields_apart (by decide) contextId,
    Json.Rewords.said rewords fields_apart (by decide) planId,
    Json.Rewords.said rewords fields_apart (by decide) postDeploy,
    Json.Rewords.said rewords fields_apart (by decide) legacy,
    Json.Rewords.said rewords fields_apart (by decide) errands]

/-- Other words for the operation data of a token. -/
def WrittenAs (d : OperationData) (document : Document) : Prop :=
  ∃ first members, d.toDocument = .object first ∧ document = .object members ∧
    Relation.ReflTransGen Rewords first members

/-- However many steps away from their own words, operation data are read back. -/
theorem WrittenAs.ofDocument {d : OperationData} {document : Document}
    (written : d.WrittenAs document) (fits : d.taskId < wordBound) :
    OperationData.ofDocument document = some d := by
  obtain ⟨first, members, own, rfl, steps⟩ := written
  induction steps with
  | refl => rw [← own, ofDocument_toDocument, if_pos fits]
  | tail _ rewords ih => rw [← rewords.ofDocument, ih]

/-! ### Tokens that say something twice -/

/-- A document has an errand as the value of a field for errands, by its name or by its place. -/
inductive HasErrand : Document → Document → Prop where
  | named {members : List (Quoted × Document)} {key : String} {errand : Document}
      (field : key = "PostDeployErrand" ∨ key = "PreDeleteErrand")
      (written : (some key, errand) ∈ members) : HasErrand (.object members) errand
  | namedList {members : List (Quoted × Document)} {items : List Document} {errand : Document}
      (written : (some "Errands", .array items) ∈ members) (listed : errand ∈ items) :
      HasErrand (.object members) errand
  | placed {values : List Document} {place : Nat} {errand : Document}
      (field : place = 4 ∨ place = 5) (written : values[place]? = some errand) :
      HasErrand (.array values) errand
  | placedList {values items : List Document} {errand : Document}
      (written : values[6]? = some (.array items)) (listed : errand ∈ items) :
      HasErrand (.array values) errand

/-- Some object of a token says something twice. -/
inductive Repeats : Document → Prop where
  | own {members : List (Quoted × Document)} {names : FieldNames} (field : names ∈ fields)
      (twice : SaysTwice names members) : Repeats (.object members)
  | errand {document : Document} {members : List (Quoted × Document)} {names : FieldNames}
      (has : HasErrand document (.object members)) (field : names ∈ Errand.fields)
      (twice : SaysTwice names members) : Repeats document

/-- Nothing is read of a list if nothing is read of one of its elements. -/
theorem list_eq_none {α : Type} {decode : Decoder α} {d : Document} (bad : decode d = none)
    {items : List Document} (member : d ∈ items) : Decode.list decode (.array items) = none := by
  obtain ⟨before, after, rfl⟩ := List.append_of_mem member
  change (before ++ d :: after).mapM decode = none
  simp only [List.mapM_append, List.mapM_cons, bad]
  cases before.mapM decode <;> rfl

/-- What is read of the errands of a document of which something is read. -/
theorem errands_of_ofDocument {document : Document} {d : OperationData}
    (read : OperationData.ofDocument document = some d) :
    ∃ kind taskId contextId planId postDeploy legacy errands,
      document.fields? fields =
        some [kind, taskId, contextId, planId, postDeploy, legacy, errands] ∧
      Decode.orElse none (Decode.nullable Errand.ofDocument) postDeploy ≠ none ∧
      Decode.orElse none (Decode.nullable Errand.ofDocument) legacy ≠ none ∧
      Decode.orElse [] (Decode.list Errand.ofDocument) errands ≠ none := by
  obtain ⟨said, found, read⟩ := Option.bind_eq_some_iff.mp read
  split at read
  · simp only [bind, Option.bind_eq_some_iff] at read
    obtain ⟨_, _, _, _, _, _, _, _, _, postDeploy, _, legacy, _, errands, _⟩ := read
    refine ⟨_, _, _, _, _, _, _, found, ?_, ?_, ?_⟩
    · simp [postDeploy]
    · simp [legacy]
    · simp [errands]
  · cases read

/-- What an object says about the fields of operation data that are numbers or errands. -/
theorem findField?_of_fields? {members : List (Quoted × Document)}
    {kind taskId contextId planId postDeploy legacy errands : Option Document}
    (found : (Document.object members).fields? fields =
      some [kind, taskId, contextId, planId, postDeploy, legacy, errands]) :
    findField? ["BackendTaskID"] members = some taskId ∧
      findField? ["PostDeployErrand"] members = some postDeploy ∧
      findField? ["PreDeleteErrand"] members = some legacy ∧
      findField? ["Errands"] members = some errands := by
  rw [Document.fields?] at found
  split at found
  · simp only [fields, List.mapM_cons, List.mapM_nil, Option.pure_def, Option.bind_eq_bind,
      Option.bind_some, Option.bind_eq_some_iff, Option.some.injEq, List.cons.injEq,
      exists_eq_right_right, and_true, exists_eq_right] at found
    obtain ⟨_, task, _, _, errands⟩ := found
    exact ⟨task, errands⟩
  · cases found

/-- An array says it by the places of its values. -/
theorem getElem?_of_fields? {values : List Document} {answers : List (Option Document)}
    (found : (Document.array values).fields? fields = some answers) {place : Nat}
    (field : place < fields.length) : answers[place]? = some values[place]? := by
  rw [Document.fields?] at found
  split at found
  · cases found
    by_cases present : place < values.length
    · rw [List.getElem?_append_left (by simpa using present), List.getElem?_map,
        List.getElem?_eq_getElem present, Option.map_some]
    · have absent := Nat.not_lt.mp present
      rw [List.getElem?_append_right (by simpa using absent), List.getElem?_replicate,
        List.getElem?_eq_none absent, List.length_map, if_pos (by omega)]
  · cases found

/-- What a document says about its fields for errands is the errands that it has. -/
theorem HasErrand.found {document errand : Document} (has : HasErrand document errand)
    {kind taskId contextId planId postDeploy legacy errands : Option Document}
    (found : document.fields? fields =
      some [kind, taskId, contextId, planId, postDeploy, legacy, errands]) :
    postDeploy = some errand ∨ legacy = some errand ∨
      ∃ items, errands = some (.array items) ∧ errand ∈ items := by
  cases has with
  | named field written =>
    obtain ⟨_, postDeploys, legacies, _⟩ := findField?_of_fields? found
    rcases field with rfl | rfl
    · exact .inl (findField?_of_mem (List.mem_singleton_self _) written postDeploys)
    · exact .inr (.inl (findField?_of_mem (List.mem_singleton_self _) written legacies))
  | namedList written listed =>
    obtain ⟨_, _, _, lists⟩ := findField?_of_fields? found
    exact .inr (.inr ⟨_, findField?_of_mem (List.mem_singleton_self _) written lists, listed⟩)
  | placed field written =>
    rcases field with rfl | rfl
    · have value := getElem?_of_fields? found (by decide : 4 < fields.length)
      exact .inl ((Option.some.inj value).trans written)
    · have value := getElem?_of_fields? found (by decide : 5 < fields.length)
      exact .inr (.inl ((Option.some.inj value).trans written))
  | placedList written listed =>
    have value := getElem?_of_fields? found (by decide : 6 < fields.length)
    exact .inr (.inr ⟨_, (Option.some.inj value).trans written, listed⟩)

/-- Nothing is read of a token that says something twice. -/
theorem Repeats.ofDocument {document : Document} (repeats : Repeats document) :
    OperationData.ofDocument document = none := by
  cases repeats with
  | @own members names field twice =>
    rw [ofDocument_object]
    split
    · simp only [fields, List.mem_cons, List.not_mem_nil, or_false] at field
      rcases field with rfl | rfl | rfl | rfl | rfl | rfl | rfl <;> simp [said, twice.findField?]
    · rfl
  | errand has field twice =>
    cases read : OperationData.ofDocument document with
    | none => rfl
    | some d =>
      exfalso
      have bad := Errand.ofDocument_twice field twice
      obtain ⟨_, _, _, _, postDeploy, legacy, errands, found, first, second, third⟩ :=
        errands_of_ofDocument read
      rcases has.found found with rfl | rfl | ⟨items, rfl, listed⟩
      · exact first (congrArg (Option.map some) bad)
      · exact second (congrArg (Option.map some) bad)
      · exact third (list_eq_none bad listed)

/-! ### Tokens -/

/-- The text of an object or of an array holds more than white space. -/
theorem isBlankText_of_spelledBy {document : Document} {text : String}
    (spelled : document.SpelledBy text)
    (opens : (∃ members, document = .object members) ∨ ∃ values, document = .array values) :
    Text.isBlankText text = false := by
  obtain ⟨before, inside, after, _, spells, _, whole⟩ := spelled
  obtain ⟨c, rest, rfl, shown⟩ : ∃ c rest, inside = c :: rest ∧ Text.isBlank c = false := by
    rcases opens with ⟨members, rfl⟩ | ⟨values, rfl⟩ <;> obtain ⟨_, _, rfl⟩ := spells <;>
      exact ⟨_, _, rfl, by decide⟩
  simp [Text.isBlankText, whole, shown]

theorem Repeats.opens {document : Document} (repeats : Repeats document) :
    (∃ members, document = .object members) ∨ ∃ values, document = .array values := by
  cases repeats with
  | own => exact .inl ⟨_, rfl⟩
  | errand has => cases has <;> first | exact .inl ⟨_, rfl⟩ | exact .inr ⟨_, rfl⟩

/-- A token is read by what it says. Whatever text spells other words for operation data is read as
the operation data, and a text that says something twice is malformed. -/
theorem decode_words :
    (∀ (d : OperationData) (document : Document) (text : String), d.taskId < wordBound →
      d.taskId ≠ 0 → d.WrittenAs document → document.SpelledBy text → decode text = .ok d) ∧
    ∀ (document : Document) (text : String), Repeats document → document.SpelledBy text →
      ∃ reason, decode text = .error (.malformed reason) := by
  refine ⟨fun d document text fits named written spelled => ?_,
    fun document text repeats spelled => ?_⟩
  · have read := written.ofDocument fits
    obtain ⟨_, members, _, rfl, _⟩ := written
    rw [decode, isBlankText_of_spelledBy spelled (.inl ⟨_, rfl⟩), spelled.read]
    simp [read, named]
  · rw [decode, isBlankText_of_spelledBy spelled repeats.opens, spelled.read]
    simp [repeats.ofDocument]

/-- A deletion with an errand from before there were lists of them. -/
def drained : OperationData :=
  { kind := .delete, taskId := 5, legacyErrand := some { name := "drain" } }

/-- How an older broker may have written it. -/
def drainedWords : List (Quoted × Document) :=
  [(some "PreDeleteErrand", .object [(some "name", .text "drain")]),
    (some "zone", .array [.null]), (some "BackendTaskID", .nat 5),
    (some "OperationType", .text "delete")]

def drainedToken : String :=
  " \x7b\"PreDeleteErrand\":\x7b\"name\":\"drain\"\x7d,\"zone\":[null]," ++
    "\"BackendTaskID\":5,\"OperationType\":\"delete\"\x7d\n"

theorem writtenAs_drained : drained.WrittenAs (.object drainedWords) := by
  refine ⟨_, _, rfl, rfl, ?_⟩
  have name : Errand.Rewords ([] ++ [(some "Name", .text "drain")])
      ([] ++ [(some "name", .text "drain")]) :=
    .rename List.mem_cons_self (by decide) (by decide)
  let others : List (Quoted × Document) :=
    [(some "OperationType", .text "delete"), (some "BackendTaskID", .nat 5)]
  have errand : Rewords (others ++ [(some "PreDeleteErrand", .object [(some "Name", .text "drain")])])
      (others ++ [(some "PreDeleteErrand", .object [(some "name", .text "drain")])]) :=
    .revalue (.single (.inr rfl) name)
  have zone : Rewords (others ++ [(some "PreDeleteErrand", .object [(some "name", .text "drain")])])
      (others ++ (some "zone", .array [.null]) ::
        [(some "PreDeleteErrand", .object [(some "name", .text "drain")])]) :=
    .add (by decide)
  exact .tail (.tail (.single errand) zone) (.reorder (List.reverse_perm _).symm)

/-- The words of an older broker are understood, and an errand with two names is refused. -/
theorem decode_words_drained : decode drainedToken = .ok drained ∧
    ∃ reason, decode "\x7b\"PreDeleteErrand\":\x7b\"name\":\"drain\",\"Name\":\"\"\x7d\x7d" =
      .error (.malformed reason) := by
  have blank (c : Char) (listed : c ∈ [' ', '\n', '\t', '\r']) : Blank [c] :=
    fun _ member => List.mem_singleton.mp member ▸ listed
  have plain : (Document.object drainedWords).Plain :=
    ⟨⟨trivial, trivial⟩, ⟨trivial, trivial⟩, Document.plain_nat 5, trivial, trivial⟩
  have words : (Document.object drainedWords).SpelledBy drainedToken :=
    ⟨[' '], _, ['\n'], blank _ (by decide), Document.spells_render _ plain, blank _ (by decide),
      rfl⟩
  refine ⟨decode_words.1 drained _ _ (by decide) (by decide) writtenAs_drained words, ?_⟩
  let errand : List (Quoted × Document) := [(some "name", .text "drain"), (some "Name", .text "")]
  let members : List (Quoted × Document) := [(some "PreDeleteErrand", .object errand)]
  have repeats : Repeats (.object members) :=
    .errand (.named (.inr rfl) List.mem_cons_self) List.mem_cons_self
      ⟨[], [], [], "name", "Name", _, _, by decide, by decide, rfl⟩
  have plain : (Document.object members).Plain := ⟨⟨trivial, trivial, trivial⟩, trivial⟩
  exact decode_words.2 _ _ repeats (Document.spelledBy_toText plain)

end OperationData

end ServiceBroker
