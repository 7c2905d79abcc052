import Mathlib.Data.List.Basic
import Mathlib.Tactic.Lemma
import SearchGateway.Proofs.Delivery
import SearchGateway.Proofs.Maps

/-!
# Every object is accounted for

What becomes of an object that is published or deleted together with others is its *fate*, and
the fate is a function of the object alone: its document is made in a pass of its own, and the
id is read off the document.  A shipment lists the objects by their fates
(`shipment_eq`), so the envelopes, the objects that are skipped and those that are left out
make up all objects, and publishing and deleting differ in the envelopes only.

The main statement is `putAll_accounts_for_all`.
-/
namespace SearchGateway

/-- What becomes of an object. -/
inductive Fate where
  /-- The object has a document under this id. -/
  | sent (id : String) (document : Document)
  /-- The object has no document. -/
  | skipped
  /-- The document of the object cannot be made, or it has no id. -/
  | rejected (error : SearchError)

namespace Fate

/-- The document of an object under its id. -/
def document? : Fate → Option (String × Document)
  | .sent id document => some (id, document)
  | _ => none

/-- Whether an object has no document. -/
def isSkipped : Fate → Bool
  | .skipped => true
  | _ => false

/-- Why an object is left out. -/
def error? : Fate → Option SearchError
  | .rejected error => some error
  | _ => none

end Fate

/-- The key of the id in the envelopes of an engine. -/
def Engine.idKey : Engine → String
  | .cloudSearch => "id"
  | .elasticsearch => "_id"

lemma Engine.get?_idKey_addEnvelope (engine : Engine) (index id : String) (fields : JsonObject) :
    (engine.addEnvelope index id fields).get? engine.idKey = some (.str id) := by
  cases engine <;>
    simp [addEnvelope, idKey, Json.ofFields, Json.get?, Json.fields?, KeyMap.ofList]

lemma Engine.get?_idKey_deleteEnvelope (engine : Engine) (index id : String) :
    (engine.deleteEnvelope index id).get? engine.idKey = some (.str id) := by
  cases engine <;>
    simp [deleteEnvelope, idKey, Json.ofFields, Json.get?, Json.fields?, KeyMap.ofList]

/-- Every outcome is counted once. -/
lemma Shipment.total_ofOutcomes (outcomes : List (String × Except SearchError (Option Json))) :
    (ofOutcomes outcomes).envelopes.length + (ofOutcomes outcomes).skipped +
      (ofOutcomes outcomes).rejected.length = outcomes.length := by
  induction outcomes with
  | nil => rfl
  | cons entry rest ih =>
    obtain ⟨identity, error | _ | envelope⟩ := entry <;>
      simp only [ofOutcomes, List.length_cons] <;> omega

lemma Document.id_eq_ok_iff {d : Document} {id : String} :
    d.id = .ok id ↔ d.idText = id ∧ id ≠ "" := by
  rw [Document.id]
  split
  next hempty =>
    rw [String.isEmpty_iff] at hempty
    simp only [reduceCtorEq, hempty, false_iff, not_and, not_not]
    exact Eq.symm
  next hne =>
    rw [String.isEmpty_iff] at hne
    rw [Except.ok.injEq]
    exact ⟨fun h => ⟨h, h ▸ hne⟩, And.left⟩

namespace Endpoint

variable (e : Endpoint) (c : Corpus) (operation : Operation)

/-- What the pass of an object gives, in which no other object has been seen. -/
def generated (o : SourceObject) : Except SearchError (Option Document) :=
  ((c.generate e.index.name o).result .empty).1

/-- What becomes of an object. -/
def fate (o : SourceObject) : Fate :=
  match e.documentOf c o with
  | .error error => .rejected error
  | .ok none => .skipped
  | .ok (some document) =>
    match document.id with
    | .error error => .rejected error
    | .ok id => .sent id document

/-- The documents of some objects under their ids, in the order of the objects. -/
def documents (objects : List SourceObject) : List (String × Document) :=
  objects.filterMap fun o => (e.fate c o).document?

/-- Why an object is left out, if it is. -/
def rejection? (o : SourceObject) : Option Rejection :=
  (e.fate c o).error?.map fun error => ⟨o.identity, error⟩

/-- The objects that are left out, and why, in the order of the objects. -/
def rejections (objects : List SourceObject) : List Rejection :=
  objects.filterMap (e.rejection? c)

/-- How many objects have no document. -/
def skippedCount (objects : List SourceObject) : Nat :=
  objects.countP fun o => (e.fate c o).isSkipped

/-- The envelope of an operation for a document under its id. -/
def envelopeOf : String × Document → Json :=
  match operation with
  | .publish => fun entry => e.engine.addEnvelope e.index.name entry.1 entry.2.publishedFields
  | .delete => fun entry => e.engine.deleteEnvelope e.index.name entry.1

lemma get?_idKey_envelopeOf (entry : String × Document) :
    (e.envelopeOf operation entry).get? e.engine.idKey = some (.str entry.1) := by
  cases operation with
  | publish => exact e.engine.get?_idKey_addEnvelope _ _ _
  | delete => exact e.engine.get?_idKey_deleteEnvelope _ _

lemma documentOf_eq (o : SourceObject) :
    e.documentOf c o = (e.generated c o).map (·.filter fun d => !d.isEmpty) := rfl

lemma documentOf_eq_ok_some_iff {o : SourceObject} {document : Document} :
    e.documentOf c o = .ok (some document) ↔
      e.generated c o = .ok (some document) ∧ document.isEmpty = false := by
  rw [documentOf_eq]
  rcases e.generated c o with error | _ | generated
  · simp [Except.map]
  · simp [Except.map]
  · simp only [Except.map, Except.ok.injEq, Option.filter_eq_some_iff, Option.some.injEq,
      Bool.not_eq_true']

/-- An object is sent exactly when its pass gives a document that is not empty and has an id that
is not blank. -/
lemma fate_eq_sent_iff {o : SourceObject} {id : String} {document : Document} :
    e.fate c o = .sent id document ↔
      e.generated c o = .ok (some document) ∧ document.isEmpty = false ∧
        document.idText = id ∧ id ≠ "" := by
  rw [← and_assoc, ← documentOf_eq_ok_some_iff, ← Document.id_eq_ok_iff, fate]
  rcases e.documentOf c o with error | _ | d
  · simp
  · simp
  · simp only [Except.ok.injEq, Option.some.injEq]
    constructor
    · intro h
      rcases hid : d.id with error | id' <;> rw [hid] at h
      · exact nomatch h
      · obtain ⟨rfl, rfl⟩ := Fate.sent.inj h
        exact ⟨rfl, hid⟩
    · rintro ⟨rfl, h⟩
      rw [h]

/-- An object is left out exactly when its pass fails or gives a document without an id. -/
lemma fate_eq_rejected_iff {o : SourceObject} {error : SearchError} :
    e.fate c o = .rejected error ↔
      e.generated c o = .error error ∨ ∃ document, e.generated c o = .ok (some document) ∧
        document.isEmpty = false ∧ document.id = .error error := by
  simp only [← and_assoc, ← documentOf_eq_ok_some_iff]
  have herror : e.generated c o = .error error ↔ e.documentOf c o = .error error := by
    rw [documentOf_eq]
    cases e.generated c o <;> simp [Except.map]
  rw [herror, fate]
  rcases e.documentOf c o with error' | _ | d
  · simp
  · simp
  · rcases hid : d.id with error' | id <;> simp [hid]

/-! ## Shipments -/

/-- An operation needs an envelope exactly for the objects that are sent, and its errors do not
depend on the operation. -/
lemma outcome_eq (o : SourceObject) :
    e.outcome operation c o =
      match e.fate c o with
      | .sent id document => .ok (some (e.envelopeOf operation (id, document)))
      | .skipped => .ok none
      | .rejected error => .error error := by
  rw [outcome, fate]
  rcases e.documentOf c o with error | _ | document
  · rfl
  · rfl
  · rcases hid : document.id with error | id
    · simp [Document.identified, hid, Except.map, Except.bind]
    · cases operation <;>
        simp [Document.identified, hid, Except.map, Except.bind, envelopeFor, transform,
          Engine.envelope, envelopeOf, deleteEnvelope]

lemma shipment_cons (o : SourceObject) (rest : List SourceObject) :
    e.shipment operation c (o :: rest) =
      match e.fate c o with
      | .sent id document =>
        { e.shipment operation c rest with
          envelopes := e.envelopeOf operation (id, document) ::
            (e.shipment operation c rest).envelopes }
      | .skipped =>
        { e.shipment operation c rest with skipped := (e.shipment operation c rest).skipped + 1 }
      | .rejected error =>
        { e.shipment operation c rest with
          rejected := ⟨o.identity, error⟩ :: (e.shipment operation c rest).rejected } := by
  rw [shipment, List.map_cons, outcome_eq]
  cases e.fate c o <;> rfl

/-- A shipment lists the objects by their fates. -/
theorem shipment_eq (objects : List SourceObject) :
    e.shipment operation c objects =
      ⟨(e.documents c objects).map (e.envelopeOf operation), e.skippedCount c objects,
        e.rejections c objects⟩ := by
  induction objects with
  | nil => rfl
  | cons o rest ih =>
    rw [shipment_cons, ih]
    cases hfate : e.fate c o <;>
      simp [documents, skippedCount, rejections, rejection?, hfate, Fate.document?, Fate.isSkipped,
        Fate.error?]

/-- An operation on some objects uploads its shipment, if there is anything to upload; noting down
what is left out calls no client. -/
lemma exists_applyToAll_eq {σ : Type} [SearchClient σ] (objects : List SourceObject)
    (s : Session σ) :
    ∃ s₁ : Session σ, s₁.client = s.client ∧ e.applyToAll operation c objects s =
      if (e.shipment operation c objects).envelopes.isEmpty then
        (.ok (e.shipment operation c objects).report, s₁)
      else
        match e.publishAll operation (e.shipment operation c objects).envelopes s₁ with
        | (.ok _, t) => (.ok (e.shipment operation c objects).report, t)
        | (.error error, t) => (.error error, t) := by
  refine ⟨_, ?_, rfl⟩
  split <;> rfl

lemma envelopes_shipment (objects : List SourceObject) :
    (e.shipment operation c objects).envelopes =
      (e.documents c objects).map (e.envelopeOf operation) := by
  rw [shipment_eq]

/-- An operation on some objects succeeds when the envelopes of the objects have been accepted, and
it reports on the fates of the objects. -/
lemma exists_accepted_of_applyToAll {σ : Type} [SearchClient σ] {objects : List SourceObject}
    {s t : Session σ} {report : PublishReport}
    (h : e.applyToAll operation c objects s = (.ok report, t)) :
    report = (e.shipment operation c objects).report ∧
      ∃ batches : List (List Json),
        batches.flatten = (e.documents c objects).map (e.envelopeOf operation) ∧
        Accepted batches s.client t.client := by
  obtain ⟨s₁, hclient, happly⟩ := e.exists_applyToAll_eq c operation objects s
  rw [happly] at h
  rw [← envelopes_shipment, ← hclient]
  split at h
  next hnone =>
    obtain ⟨hreport, rfl⟩ := Prod.mk.inj h
    exact ⟨(Except.ok.inj hreport).symm, [], (List.isEmpty_iff.1 hnone).symm, .done _⟩
  next =>
    split at h
    next u hpublish =>
      obtain ⟨hreport, rfl⟩ := Prod.mk.inj h
      exact ⟨(Except.ok.inj hreport).symm, exists_accepted_of_publishAll hpublish⟩
    next => exact nomatch h

/-! ## One object -/

/-- An operation on one object and the operation on the list that has this object only do the
same; a rejection is the error of the one and is reported by the other, and neither calls the
client. -/
def SameButForRejection {σ : Type} (rejection? : Option Rejection) (s : Session σ)
    (single all : Except SearchError PublishReport × Session σ) : Prop :=
  match rejection? with
  | none => single = all
  | some rejection =>
    single = (.error rejection.error, s) ∧ all.1 = .ok ⟨0, 0, [rejection]⟩ ∧
      all.2.client = s.client

lemma sameButForRejection_applyTo {σ : Type} [SearchClient σ] (o : SourceObject)
    (s : Session σ) :
    SameButForRejection (e.rejection? c o) s (e.applyTo operation c o s)
      (e.applyToAll operation c [o] s) := by
  have hshipment := e.shipment_cons c operation o []
  rw [applyTo, applyToAll, hshipment, outcome_eq]
  have hnone : e.shipment operation c [] = .empty := rfl
  cases hfate : e.fate c o with
  | sent id document =>
    simp [rejection?, hfate, Fate.error?, SameButForRejection, hnone, Shipment.empty,
      Shipment.report, publish]
  | skipped =>
    simp [rejection?, hfate, Fate.error?, SameButForRejection, hnone, Shipment.empty,
      Shipment.report]
  | rejected error =>
    simp [rejection?, hfate, Fate.error?, SameButForRejection, hnone, Shipment.empty,
      Shipment.report]

/-! ## The main statement -/

/-- A report on an operation accounts for all objects: they are published, skipped and left out by
their fates, and the client has accepted the envelopes of those with a document and an id, one
for each and in their order. -/
structure Accounted {σ : Type} [SearchClient σ] (objects : List SourceObject) (c₀ c₁ : σ)
    (report : PublishReport) : Prop where
  total : report.published + report.skipped + report.rejected.length = objects.length
  published : report.published = (e.documents c objects).length
  skipped : report.skipped = e.skippedCount c objects
  rejected : report.rejected = e.rejections c objects
  accepted : ∃ batches : List (List Json),
    batches.flatten = (e.documents c objects).map (e.envelopeOf operation) ∧
    Accepted batches c₀ c₁

lemma accounted_of_applyToAll {σ : Type} [SearchClient σ] {objects : List SourceObject}
    {s t : Session σ} {report : PublishReport}
    (h : e.applyToAll operation c objects s = (.ok report, t)) :
    e.Accounted c operation objects s.client t.client report := by
  obtain ⟨rfl, haccepted⟩ := e.exists_accepted_of_applyToAll c operation h
  have htotal := Shipment.total_ofOutcomes
    (objects.map fun o => (o.identity, e.outcome operation c o))
  rw [List.length_map] at htotal
  refine ⟨htotal, ?_, ?_, ?_, haccepted⟩
  · rw [shipment_eq, Shipment.report, List.length_map]
  · rw [shipment_eq, Shipment.report]
  · rw [shipment_eq, Shipment.report]

/-- A client that keeps every envelope lets an operation succeed. -/
lemma exists_applyToAll_of_fit {objects : List SourceObject} {s : Session RecordingClient}
    (hfree : s.client.throttleRemaining = 0)
    (hfit : ∀ envelope ∈ (e.documents c objects).map (e.envelopeOf operation),
      envelope.encodedSize ≤ e.maxPayload) :
    ∃ t, e.applyToAll operation c objects s =
      (.ok (e.shipment operation c objects).report, t) := by
  rw [← envelopes_shipment] at hfit
  obtain ⟨s₁, hclient, happly⟩ := e.exists_applyToAll_eq c operation objects s
  rw [happly]
  rcases eq_or_ne (e.shipment operation c objects).envelopes [] with hnil | hne
  · exact ⟨s₁, if_pos (List.isEmpty_iff.2 hnil)⟩
  · obtain ⟨b, hsplit, -⟩ := Batches.exists_holds hfit
    have hlt : s₁.client.throttleRemaining < e.attempts := by
      rw [hclient, hfree]
      exact Nat.lt_of_lt_of_le Nat.zero_lt_one (Nat.le_max_left _ _)
    obtain ⟨t, hpublish, -⟩ := exists_publishAll_of_lt operation hsplit hne hlt
    refine ⟨t, ?_⟩
    rw [if_neg (by simpa using hne), hpublish]

/-- **Every object is accounted for, as if it were alone.**  A report on the publication of some
objects counts every object once, by its fate, in which no other object of the list has a part;
what the client has accepted are the envelopes of the objects that have a document with an id.
A report on deleting the same objects leaves out and skips the same ones, and the envelopes
have the same ids.  One object alone is treated as in a list of one. -/
theorem putAll_accounts_for_all {σ : Type} [SearchClient σ] {objects : List SourceObject}
    {s t : Session σ} {report : PublishReport} (h : e.putAll c objects s = (.ok report, t)) :
    e.Accounted c .publish objects s.client t.client report ∧
    (∀ (o : SourceObject) (id : String) (document : Document),
      e.fate c o = .sent id document ↔
        e.generated c o = .ok (some document) ∧ document.isEmpty = false ∧
          document.idText = id ∧ id ≠ "") ∧
    (∀ (o : SourceObject) (error : SearchError),
      e.fate c o = .rejected error ↔
        e.generated c o = .error error ∨ ∃ document, e.generated c o = .ok (some document) ∧
          document.isEmpty = false ∧ document.id = .error error) ∧
    (∀ (s' t' : Session σ) (report' : PublishReport),
      e.deleteAll c objects s' = (.ok report', t') →
        e.Accounted c .delete objects s'.client t'.client report' ∧
          report'.skipped = report.skipped ∧ report'.rejected = report.rejected) ∧
    (∀ operation : Operation,
      ((e.documents c objects).map (e.envelopeOf operation)).map (·.get? e.engine.idKey) =
        (e.documents c objects).map fun entry => some (.str entry.1)) ∧
    (∀ (o : SourceObject) (s : Session σ),
      SameButForRejection (e.rejection? c o) s (e.put c o s) (e.putAll c [o] s) ∧
      SameButForRejection (e.rejection? c o) s (e.delete c o s) (e.deleteAll c [o] s)) := by
  have haccounted := e.accounted_of_applyToAll c .publish h
  refine ⟨haccounted, fun _ _ _ => e.fate_eq_sent_iff c, fun _ _ => e.fate_eq_rejected_iff c,
    fun s' t' report' h' => ?_, fun operation => ?_, fun o s => ?_⟩
  · have hdeleted := e.accounted_of_applyToAll c .delete h'
    exact ⟨hdeleted, hdeleted.skipped.trans haccounted.skipped.symm,
      hdeleted.rejected.trans haccounted.rejected.symm⟩
  · rw [List.map_map]
    exact List.map_congr_left fun entry _ => e.get?_idKey_envelopeOf operation entry
  · exact ⟨e.sameButForRejection_applyTo c .publish o s,
      e.sameButForRejection_applyTo c .delete o s⟩

/-! ### Two books of one author -/

namespace SharedAuthor

/-- The fields of books, which nest their author, and of people. -/
def registry : Registry :=
  (Registry.empty.registerContent ⟨"Book", "books",
    ⟨[("id", .property "id" (.ofKind .string)), ("author", .nested "author" ["Person"])]⟩⟩
  ).registerContent ⟨"Person", "books", ⟨[("name", .property "name" (.ofKind .string))]⟩⟩

/-- The author of every book. -/
def author : SourceObject :=
  ⟨"Person#1", "Person", ⟨[("name", .text "Ann")]⟩, .empty, .extracted⟩

/-- A book with an id. -/
def book (identity id : String) : SourceObject :=
  ⟨identity, "Book", ⟨[("id", .text id)]⟩, ⟨[("author", "ann")]⟩, .extracted⟩

/-- An object without a document. -/
def draft : SourceObject := ⟨"Draft#1", "Draft", .empty, .empty, .hidden⟩

def corpus : Corpus := ⟨registry, ⟨[("ann", author)]⟩⟩

def endpoint : Endpoint :=
  ⟨⟨"books", .cloudSearch, .empty⟩, .structured, "5m", .standard, 1000, "|"⟩

/-- The document of a book. -/
def document (id : String) : Document :=
  ⟨[("id", .text id), ("author", .nested ⟨[("name", .text "Ann")]⟩)]⟩

/-- The envelope that adds a book. -/
def envelope (id : String) : Json :=
  .ofFields [("type", .str "add"), ("id", .str id),
    ("fields", .ofFields [("id", .str id), ("author__name", .str "Ann")])]

end SharedAuthor

open SharedAuthor

/-- Two books of one author, and between them an object without a document and a book whose id is
blank. -/
theorem putAll_accounts_for_shared_author :
    ∃ (t : Session RecordingClient) (report : PublishReport),
      endpoint.putAll corpus [book "Book#1" "b1", draft, book "Book#2" " ", book "Book#3" "b3"]
        (.ofClient .empty id) = (.ok report, t) ∧
      report.published = 2 ∧ report.skipped = 1 ∧
      report.rejected =
        [⟨"Book#2", .indexing "Document is missing a non-blank 'id' field"⟩] ∧
      t.client.uploaded = [envelope "b1", envelope "b3"] := by
  have hdocuments : endpoint.documents corpus
      [book "Book#1" "b1", draft, book "Book#2" " ", book "Book#3" "b3"] =
        [("b1", document "b1"), ("b3", document "b3")] := by rfl
  have henvelopes : [("b1", document "b1"), ("b3", document "b3")].map
      (endpoint.envelopeOf .publish) = [envelope "b1", envelope "b3"] := by rfl
  obtain ⟨t, hput⟩ := endpoint.exists_applyToAll_of_fit corpus .publish
    (s := .ofClient .empty id) (by rfl) (by
      rw [hdocuments, henvelopes]
      exact List.forall_mem_cons.2
        ⟨by decide +kernel, List.forall_mem_singleton.2 (by decide +kernel)⟩)
  have haccounted := (endpoint.putAll_accounts_for_all corpus hput).1
  obtain ⟨batches, hbatches, haccepted⟩ := haccounted.accepted
  refine ⟨t, _, hput, haccounted.published.trans ?_, haccounted.skipped.trans (by rfl),
    haccounted.rejected.trans (by rfl), ?_⟩
  · rw [hdocuments]
    rfl
  · rw [RecordingClient.uploaded, RecordingClient.uploads_of_accepted haccepted]
    exact hbatches.trans (by rw [hdocuments, henvelopes])

end Endpoint
end SearchGateway
