import SearchGateway.Client.Retry
import SearchGateway.Content.Extraction
import SearchGateway.Endpoint.Basic
import SearchGateway.Publishing.Batch
import SearchGateway.Publishing.Envelope

/-!
# Publishing

Objects are published by sending the envelopes of their documents in batches.  An object
without a document, or with an empty one, is skipped.  When many objects are published
together, one whose document cannot be made or has no id is left out and reported; alone,
it is an error.  Each object has a pass of its own, so that what becomes of it does not
depend on the others.  Deleting goes the same way and sends the envelopes that delete the
documents.
-/
namespace SearchGateway

/-- An object that was left out, and why. -/
structure Rejection where
  identity : String
  error : SearchError
deriving Inhabited

/-- What became of the objects that were published or deleted. -/
structure PublishReport where
  published : Nat
  skipped : Nat
  rejected : List Rejection
deriving Inhabited

/-- What is to be sent for some objects: the envelopes in the order of the objects, how many
objects are skipped, and which are left out. -/
structure Shipment where
  envelopes : List Json
  skipped : Nat
  rejected : List Rejection
deriving Inhabited

namespace Shipment

/-- Nothing at all. -/
def empty : Shipment := ⟨[], 0, []⟩

/-- What is to be sent, given what becomes of each object. -/
def ofOutcomes : List (String × Except SearchError (Option Json)) → Shipment
  | [] => empty
  | (identity, outcome) :: rest =>
    let shipment := ofOutcomes rest
    match outcome with
    | .ok (some envelope) => { shipment with envelopes := envelope :: shipment.envelopes }
    | .ok none => { shipment with skipped := shipment.skipped + 1 }
    | .error error => { shipment with rejected := ⟨identity, error⟩ :: shipment.rejected }

/-- The report on a shipment whose envelopes have arrived. -/
def report (s : Shipment) : PublishReport := ⟨s.envelopes.length, s.skipped, s.rejected⟩

end Shipment

namespace Endpoint

/-- The envelope that adds a document. -/
def transform (e : Endpoint) (d : Document) : Except SearchError Json :=
  e.engine.envelope e.index.name d

/-- The envelope that deletes a document. -/
def deleteEnvelope (e : Endpoint) (id : String) : Json :=
  e.engine.deleteEnvelope e.index.name id

/-- The envelope that an operation needs for a document. -/
def envelopeFor (e : Endpoint) (operation : Operation) (d : Document) :
    Except SearchError Json :=
  match operation with
  | .publish => e.transform d
  | .delete => d.id.map e.deleteEnvelope

/-- The document of an object, made in a pass of its own; an empty document is none. -/
def documentOf (e : Endpoint) (c : Corpus) (o : SourceObject) :
    Except SearchError (Option Document) :=
  (((c.generate e.index.name o).result .empty).1).map fun document =>
    document.filter fun d => !d.isEmpty

/-- The envelope that an operation needs for an object, if the object has a document; the document
must have an id, whatever the operation. -/
def outcome (e : Endpoint) (operation : Operation) (c : Corpus) (o : SourceObject) :
    Except SearchError (Option Json) :=
  match e.documentOf c o with
  | .error error => .error error
  | .ok none => .ok none
  | .ok (some document) => (document.identified.bind (e.envelopeFor operation)).map some

/-- What an operation sends for some objects. -/
def shipment (e : Endpoint) (operation : Operation) (c : Corpus) (objects : List SourceObject) :
    Shipment :=
  .ofOutcomes (objects.map fun o => (o.identity, e.outcome operation c o))

variable {σ : Type} [SearchClient σ]

/-- Uploads one batch, which is tried again when it is throttled. -/
def upload (e : Endpoint) (batch : List Json) (s : Session σ) : Response × Session σ :=
  e.retry.run e.uploadName (Session.upload batch)
    (s.note (.batch e.engine (Json.arr batch).encodedSize))

/-- Uploads some batches, up to the first that fails. -/
def uploadAll (e : Endpoint) (batches : List (List Json)) (s : Session σ) :
    Except ClientError Unit × Session σ :=
  match batches with
  | [] => (.ok (), s)
  | batch :: rest =>
    match e.upload batch s with
    | (.ok _, s) => e.uploadAll rest s
    | (.error error, s) => (.error error, s)

/-- Uploads envelopes in batches. -/
def publishAll (e : Endpoint) (operation : Operation) (envelopes : List Json) (s : Session σ) :
    Except SearchError Unit × Session σ :=
  match Batches.split e.maxPayload envelopes with
  | .error error => (.error error, s)
  | .ok batches =>
    let s := batches.cuts.foldl (fun s groups => s.note (.cut groups)) s
    match e.uploadAll batches.batches s with
    | (.ok _, s) => (.ok (), s.note (.uploaded e.engine operation envelopes.length))
    | (.error error, s) => (.error (.client error), s)

/-- Uploads one envelope. -/
def publish (e : Endpoint) (operation : Operation) (envelope : Json) (s : Session σ) :
    Except SearchError Unit × Session σ :=
  e.publishAll operation [envelope] s

/-- Applies an operation to one object. -/
def applyTo (e : Endpoint) (operation : Operation) (c : Corpus) (o : SourceObject)
    (s : Session σ) : Except SearchError PublishReport × Session σ :=
  match e.outcome operation c o with
  | .error error => (.error error, s)
  | .ok none => (.ok ⟨0, 1, []⟩, s)
  | .ok (some envelope) =>
    match e.publish operation envelope s with
    | (.ok _, s) => (.ok ⟨1, 0, []⟩, s)
    | (.error error, s) => (.error error, s)

/-- Applies an operation to some objects together. -/
def applyToAll (e : Endpoint) (operation : Operation) (c : Corpus)
    (objects : List SourceObject) (s : Session σ) :
    Except SearchError PublishReport × Session σ :=
  let shipment := e.shipment operation c objects
  let s := if shipment.rejected.isEmpty then s
    else s.note (.leftOut e.engine shipment.rejected.length)
  if shipment.envelopes.isEmpty then (.ok shipment.report, s)
  else
    match e.publishAll operation shipment.envelopes s with
    | (.ok _, s) => (.ok shipment.report, s)
    | (.error error, s) => (.error error, s)

/-- Publishes one object. -/
def put (e : Endpoint) (c : Corpus) (o : SourceObject) (s : Session σ) :
    Except SearchError PublishReport × Session σ :=
  e.applyTo .publish c o s

/-- Publishes some objects together. -/
def putAll (e : Endpoint) (c : Corpus) (objects : List SourceObject) (s : Session σ) :
    Except SearchError PublishReport × Session σ :=
  e.applyToAll .publish c objects s

/-- Deletes the document of one object. -/
def delete (e : Endpoint) (c : Corpus) (o : SourceObject) (s : Session σ) :
    Except SearchError PublishReport × Session σ :=
  e.applyTo .delete c o s

/-- Deletes the documents of some objects together. -/
def deleteAll (e : Endpoint) (c : Corpus) (objects : List SourceObject) (s : Session σ) :
    Except SearchError PublishReport × Session σ :=
  e.applyToAll .delete c objects s

end Endpoint
end SearchGateway
