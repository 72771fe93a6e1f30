import Corpus.Proofs.Document.Made
import Corpus.Proofs.Media.ReadBack
import Corpus.Proofs.Vector.Component

/-!
# Reading documents back

A document whose embedding is finite is read from its value as it was written, except that its
formatter is the standard one.  A component that is not finite is written as null, which is refused
where a component is expected.
-/

namespace Corpus

namespace Document

/-! ## Embeddings -/

/-- Why an embedding is refused that holds the value null. -/
def nullComponent : Decode.Fault :=
  .mismatch (.wrongType .null "f32")

theorem decodeComponent_ofJson {component : Float32} (finite : component.isFinite = true)
    (source : Source) :
    decodeComponent (.ofJson (componentValue component).json) =
      Decode.within source (componentValue component).json.depth component := by
  obtain ⟨real, found, rounded⟩ := Component.exists_toDouble?_eq finite
  have written : componentValue component = .number (.real real) := by
    rw [componentValue, found]
  have read : decodeComponent (.ofJson (Value.number (.real real)).json) =
      .ok (Component.ofDouble real) := rfl
  rw [written, read, rounded]
  exact (Decode.within_zero source component).symm

theorem decodeComponent_of_infinite {component : Float32} (infinite : ¬component.isFinite = true) :
    decodeComponent (.ofJson (componentValue component).json) = .error nullComponent := by
  have written : componentValue component = .null := by
    rw [componentValue, Component.toDouble?_eq_none infinite]
  rw [written]
  rfl

theorem decodeEmbedding_ofJson {embedding : List Float32}
    (finite : ∀ component ∈ embedding, component.isFinite = true) (source : Source) :
    decodeEmbedding source (.ofJson (Value.array (embedding.map componentValue)).json) =
      Decode.within source (Value.array (embedding.map componentValue)).json.depth embedding :=
  Decode.sequence_array source embedding fun inner component member =>
    decodeComponent_ofJson (finite component member) inner

theorem decodeEmbedding_of_infinite {embedding : List Float32}
    (infinite : ¬∀ component ∈ embedding, component.isFinite = true) :
    decodeEmbedding .value (.ofJson (Value.array (embedding.map componentValue)).json) =
      .error nullComponent := by
  suffices items : (Outline.ofItems ((embedding.map componentValue).map Value.json)).mapM
      decodeComponent = .error nullComponent from
    congrArg (· >>= Decode.closing true) items
  induction embedding with
  | nil => exact absurd nofun infinite
  | cons component embedding induction =>
      rw [List.map_cons, List.map_cons, Outline.ofItems, List.mapM_cons]
      by_cases finite : component.isFinite = true
      · have others := induction fun all => infinite (List.forall_mem_cons.mpr ⟨finite, all⟩)
        rw [decodeComponent_ofJson finite .value, others]
        rfl
      · rw [decodeComponent_of_infinite finite]
        rfl

/-! ## Documents -/

/-- The embedding as far as it is written. -/
def writtenEmbedding (embedding : List Float32) : Option (List Float32) :=
  if embedding.isEmpty then none else some embedding

theorem getD_writtenEmbedding (embedding : List Float32) :
    (writtenEmbedding embedding).getD [] = embedding := by
  cases embedding <;> rfl

theorem mem_writtenEmbedding {embedding given : List Float32}
    (written : given ∈ writtenEmbedding embedding) : given = embedding := by
  cases embedding with
  | nil => cases written
  | cons =>
      cases written
      rfl

/-- The fields of a document by ascending key. -/
def sortedFields (document : Document) : List (String × Json) :=
  ("content", .string document.content) ::
    (((writtenEmbedding document.embedding).map fun embedding =>
        ("embedding", (Value.array (embedding.map componentValue)).json)).toList ++
      [("id", .string document.id),
        ("media", (Value.array (document.media.map Media.value)).json),
        ("metadata", (Value.object document.metadata).json)])

theorem json_value (document : Document) :
    document.value.json = .object document.sortedFields := by
  have contentFirst : "content" < "id" ∧ ¬"media" < "content" ∧ ¬"metadata" < "content" ∧
      ¬"embedding" < "content" := by decide
  have embeddingNext : "embedding" < "id" := by decide
  have idNext : ¬"media" < "id" ∧ ¬"metadata" < "id" := by decide
  have metadataLast : ¬"metadata" < "media" := by decide
  rw [value, embeddingField, sortedFields, writtenEmbedding]
  cases document.embedding.isEmpty <;>
    simp [Value.object, KeyMap.ofList, KeyMap.insert, KeyMap.insertEntry, KeyMap.empty,
      contentFirst, embeddingNext, idNext, metadataLast, Value.string]

theorem named_sortedFields {document : Document}
    (finite : ∀ component ∈ document.embedding, component.isFinite = true) (source : Source) :
    Decode.named shape source ⟨none, none, none, none, none⟩
        (Outline.ofFields document.sortedFields) =
      Decode.within source (Json.depthFields document.sortedFields)
        ⟨some (some document.id), some document.content, some document.media,
          some document.metadata, writtenEmbedding document.embedding⟩ := by
  apply Decode.named_cons shape.fields[1] rfl rfl
  · exact (Decode.within_zero ..).symm
  apply Decode.named_option shape.fields[4]
    (fun embedding => ⟨none, some document.content, none, none, embedding⟩) rfl rfl rfl
  · intro given written
    rw [mem_writtenEmbedding written]
    change decodeEmbedding source _ >>= _ = _
    rw [decodeEmbedding_ofJson finite]
    exact Decode.within_bind_ok _ rfl
  apply Decode.named_cons shape.fields[0] rfl rfl
  · exact (Decode.within_zero ..).symm
  apply Decode.named_cons shape.fields[2] rfl rfl
  · change Decode.sequence Media.decode source _ >>= _ = _
    rw [Decode.sequence_array source document.media fun inner media _ =>
      media.decode_value inner]
    exact Decode.within_bind_ok _ rfl
  apply Decode.named_cons shape.fields[3] rfl rfl
  · change Decode.map Decode.any source _ >>= _ = _
    rw [Decode.map_any_ofJson]
    exact Decode.within_bind_ok _ rfl
  · exact (Decode.within_zero ..).symm

theorem decode_value {document : Document}
    (finite : ∀ component ∈ document.embedding, component.isFinite = true) (source : Source) :
    decode source (.ofJson document.value.json) =
      Decode.within source document.value.json.depth
        ⟨draftOf (some document.id) document.content document.media document.metadata,
          document.embedding⟩ := by
  have record : Decode.record shape ⟨none, none, none, none, none⟩ source
      (.ofJson document.value.json) =
        Decode.within source document.value.json.depth
          ⟨some (some document.id), some document.content, some document.media,
            some document.metadata, writtenEmbedding document.embedding⟩ := by
    rw [json_value]
    exact Decode.recordOfFields_eq_within source (named_sortedFields finite)
  rw [decode, record]
  apply Decode.within_bind_ok
  rw [getD_writtenEmbedding]
  rfl

theorem decode_value_of_infinite {document : Document}
    (infinite : ¬∀ component ∈ document.embedding, component.isFinite = true) :
    decode .value (.ofJson document.value.json) = .error nullComponent := by
  have occupied : writtenEmbedding document.embedding = some document.embedding := by
    apply if_neg
    intro empty
    apply infinite
    rw [List.isEmpty_iff.mp empty]
    nofun
  have fields : Decode.named shape .value ⟨none, none, none, none, none⟩
      (Outline.ofFields document.sortedFields) = .error nullComponent := by
    rw [sortedFields, occupied, Outline.ofFields, Decode.named_cons_eq shape.fields[1] rfl rfl]
    change Decode.named shape .value ⟨none, some document.content, none, none, none⟩
      ((some "embedding", _) :: _) = _
    rw [Decode.named_cons_eq shape.fields[4] rfl rfl]
    change (decodeEmbedding .value _ >>= _) >>= _ = _
    rw [decodeEmbedding_of_infinite infinite]
    rfl
  have record : Decode.record shape ⟨none, none, none, none, none⟩ .value
      (.ofJson document.value.json) = .error nullComponent := by
    rw [json_value]
    exact congrArg (· >>= Decode.closing true) fields
  rw [decode, record]
  rfl

theorem build_draftOf {id : String} (named : Text.isBlank id = false) (content : String)
    (media : List Media) (metadata : Metadata) (session : Session) :
    (draftOf (some id) content media metadata).build session =
      (.ok (assemble id content media metadata), session) := by
  have draft : draftOf (some id) content media metadata =
      { Draft.blank with id := some id, content, media, metadata } := by
    simp [draftOf, Draft.setId, named, Draft.setContent, Draft.setMedia, Draft.setMetadata]
  rw [draft, Draft.build_run, Draft.chooseId_run]
  simp only [Draft.blank, named, Bool.false_eq_true, if_false]
  rfl

theorem ofValue_value {document : Document} (named : Text.isBlank document.id = false)
    (finite : ∀ component ∈ document.embedding, component.isFinite = true) (session : Session) :
    ofValue document.value session = (.ok { document with formatter := .standard }, session) := by
  have read : Decode.fromValue decode document.value = .ok
      ⟨draftOf (some document.id) document.content document.media document.metadata,
        document.embedding⟩ :=
    decode_value finite .value
  rw [ofValue, Session.attempt_bind, Session.attempt_settle, read]
  simp only [Read.build, Session.attempt_bind, Session.attempt_adapt, build_draftOf named]
  rfl

theorem ofValue_value_of_infinite {document : Document}
    (infinite : ¬∀ component ∈ document.embedding, component.isFinite = true)
    (session : Session) :
    ofValue document.value session = (.error nullComponent, session) := by
  have refused : Decode.fromValue decode document.value = .error nullComponent :=
    decode_value_of_infinite infinite
  rw [ofValue, Session.attempt_bind, Session.attempt_settle, refused]

/-- A document that is made, with a finite embedding, is read from its value under its own
identifier, with all its parts and the standard formatter; no identifier is drawn and no event is
reported. -/
theorem ofValue_value_of_made {document : Document} (made : document.Made)
    (finite : ∀ component ∈ document.embedding, component.isFinite = true) (session : Session) :
    ofValue document.value session = (.ok { document with formatter := .standard }, session) :=
  ofValue_value made.named finite session

/-- Blanks around the identifier and what metadata holds under an empty key are kept. -/
theorem ofValue_value_of_made_padded :
    let metadata : Metadata := .ofList [("", .null),
      ("nested", .object (.singleton "key" (.array [.null, .ofNat 1])))]
    let media : List Media := [⟨"image/png", .url "page", some "m", none⟩,
      ⟨"", .bytes [0, 255], none, some "n"⟩]
    let document := ((assemble " d\n" "text" media metadata).setEmbedding
      [Component.ofWord 0x3FC00000, Component.ofWord 0x80000000]).setFormatter .contentOnly
    let session := Session.start fun _ => ""
    document.Made ∧ (∀ component ∈ document.embedding, component.isFinite = true) ∧
      ofValue document.value session = (.ok { document with formatter := .standard }, session) := by
  intro metadata media document session
  have parts : ofParts " d\n" "text" media metadata =
      .ok (assemble " d\n" "text" media metadata) := if_neg (by decide)
  have made : document.Made := ((Made.ofParts parts).setEmbedding _).setFormatter _
  have finite : ∀ component ∈ document.embedding, component.isFinite = true := by decide
  exact ⟨made, finite, ofValue_value_of_made made finite session⟩

/-! ## What was read before -/

theorem decode_eq_ok {source : Source} {outline : Outline} {read : Read}
    (decoded : decode source outline = .ok read) :
    ∃ id content media metadata, read.draft = draftOf id content media metadata := by
  obtain ⟨record, -, decoded⟩ := Decode.bind_eq_ok decoded
  obtain ⟨content, -, finished⟩ := Decode.bind_eq_ok decoded
  cases finished
  exact ⟨_, _, _, _, rfl⟩

theorem formatter_draftOf (id : Option String) (content : String) (media : List Media)
    (metadata : Metadata) : (draftOf id content media metadata).formatter = none := by
  cases id with
  | none => rfl
  | some id =>
      simp only [draftOf, Draft.setId]
      split <;> rfl

theorem formatter_of_read {value : Value} {document : Document} {session later : Session}
    (accepted : ofValue value session = (.ok document, later)) :
    document.formatter = .standard := by
  obtain ⟨read, _, settled, built⟩ := Session.attempt_bind_eq_ok accepted
  have decoded : Decode.fromValue decode value = .ok read := congrArg Prod.fst settled
  obtain ⟨id, content, media, metadata, draft⟩ := decode_eq_ok decoded
  obtain ⟨_, -, same⟩ := Read.build_eq_ok built
  rw [same, draft, formatter_draftOf]
  rfl

/-- A document that was read is read from its value again exactly if every component of its
embedding is finite, and is refused otherwise. -/
theorem ofValue_value_of_read {value : Value} {document : Document} {session later : Session}
    (accepted : ofValue value session = (.ok document, later)) (again : Session) :
    (ofValue document.value again = (.ok document, again) ↔
      ∀ component ∈ document.embedding, component.isFinite = true) ∧
    ((∃ component ∈ document.embedding, component.isFinite = false) →
      ofValue document.value again = (.error nullComponent, again)) := by
  have standard : { document with formatter := .standard } = document := by
    rw [← formatter_of_read accepted]
  refine ⟨⟨?_, ?_⟩, ?_⟩
  · intro same
    by_contra infinite
    rw [ofValue_value_of_infinite infinite] at same
    cases same
  · intro finite
    rw [ofValue_value (Made.ofValue accepted).named finite, standard]
  · rintro ⟨component, member, infinite⟩
    apply ofValue_value_of_infinite
    intro finite
    rw [finite component member] at infinite
    cases infinite

theorem ofValue_value_of_read_generated :
    let value : Value := .object (.ofList [("content", .string "x"),
      ("embedding", .array [.number (.real .negativeZero)]), ("id", .null)])
    let session := Session.start fun _ => "r"
    ∃ document later, ofValue value session = (.ok document, later) ∧
      ofValue document.value later = (.ok document, later) := by
  intro value session
  have decoded : Decode.fromValue decode value =
      .ok ⟨draftOf none "x" [] .empty, [Component.ofDouble .negativeZero]⟩ := rfl
  have built (embedding : List Float32) :
      ∃ later, Read.build ⟨draftOf none "x" [] .empty, embedding⟩ (.start fun _ => "r") =
        (.ok ((assemble "r" "x" [] .empty).setEmbedding embedding), later) := ⟨_, rfl⟩
  obtain ⟨later, built⟩ := built [Component.ofDouble .negativeZero]
  have accepted : ofValue value session =
      (.ok ((assemble "r" "x" [] .empty).setEmbedding [Component.ofDouble .negativeZero]),
        later) := by
    rw [ofValue, Session.attempt_bind, Session.attempt_settle, decoded]
    exact built
  have finite : ∀ component ∈ [Component.ofDouble .negativeZero], component.isFinite = true := by
    decide +kernel
  exact ⟨_, _, accepted, (ofValue_value_of_read accepted _).1.mpr finite⟩

/-- A real beyond every component: the one nearest to the 39th power of ten. -/
def beyond : Double := ⟨false, 6617444900424221, 77, by decide⟩

theorem ofDouble_beyond : Component.ofDouble beyond = Component.infinity false := by
  apply Component.ofDouble_eq_infinity
  norm_num [Binary.magnitude, beyond]

/-- A number beyond every component is read as an infinity; it is written as null, which is not
read. -/
theorem overflow_lost :
    let value : Value := .object (.ofList [("content", .string "x"),
      ("embedding", .array [.number (.real beyond)]), ("id", .string "d")])
    let session := Session.start fun _ => ""
    ∃ document, ofValue value session = (.ok document, session) ∧
      ofValue document.value session = (.error nullComponent, session) := by
  intro value session
  have decoded : Decode.fromValue decode value =
      .ok ⟨draftOf (some "d") "x" [] .empty, [Component.ofDouble beyond]⟩ := rfl
  have accepted : ofValue value session =
      (.ok ((assemble "d" "x" [] .empty).setEmbedding [Component.infinity false]), session) := by
    rw [ofValue, Session.attempt_bind, Session.attempt_settle, decoded, ofDouble_beyond]
    rfl
  have infinite : ¬∀ component ∈ [Component.infinity false], component.isFinite = true := by
    decide
  exact ⟨_, accepted, ofValue_value_of_infinite infinite session⟩

end Document

end Corpus
