import Mathlib.Tactic.Lemma
import SearchGateway.Proofs.Accounting
import SearchGateway.Proofs.Execution
import SearchGateway.Proofs.Observation
import SearchGateway.Proofs.Readings

/-!
# Metrics and client agree

An endpoint notes down what it does, and a recording client counts and keeps what reaches it.
After every run of commands the two accounts agree (`Endpoint.Agrees`): each call of the client
was kept, or it was throttled and this was noted down as a retry, as giving up or as a search
that failed; and so on for searches, batches and envelopes.

Trying a call until it is kept or given up is the only loop in which calls are made, and
its outcome is known exactly (`Tried`).  The envelopes are noted down only after the last batch
of a publication.  They agree with what was kept because a publication that fails on a recording
client has kept nothing.
-/
namespace SearchGateway

open Metrics (tally tally_append tally_replicate)
open Event (retries givenUp givenUpOf searches timings batches envelopes)
open RecordingClient (exists_send_of_free send_of_throttled)

/-! ## Trying a call -/

/-- How a recording client comes out of a call that is tried: after some retries it has kept the
call, or the last attempt was throttled as well. -/
inductive Tried (name : String) (call : Call) (s t : Session RecordingClient) : Response → Prop
  | kept (count : Nat) (raw : Json)
    (hclient : t.client = (s.client.afterThrottled count).keep call)
    (hevents : t.events = List.replicate count (.retried name) ++ s.events) :
    Tried name call s t (.ok raw)
  | givenUp (count : Nat) (error : ClientError)
    (hclient : t.client = s.client.afterThrottled (count + 1))
    (hevents : t.events = .exhausted name :: (List.replicate count (.retried name) ++ s.events)) :
    Tried name call s t (.error error)

section

variable {name : String} {call : Call} {s t u : Session RecordingClient}
  {answer : Response}

lemma Session.call_of_eq {client : RecordingClient}
    (h : call.send s.client = (answer, client)) :
    s.call call.send = (answer, { s with client }) := by
  rw [Session.call, h]

/-- One retry more in front. -/
lemma Tried.after_retry (hclient : t.client = s.client.afterThrottled 1)
    (hevents : t.events = .retried name :: s.events) (h : Tried name call t u answer) :
    Tried name call s u answer := by
  have hreplicate (count : Nat) : List.replicate count (.retried name) ++ t.events =
      List.replicate (count + 1) (.retried name) ++ s.events := by
    rw [hevents, List.replicate_succ', List.append_assoc, List.singleton_append]
  cases h with
  | kept count raw hu hnotes =>
    refine .kept (count + 1) raw ?_ ?_
    · rw [hu, hclient, RecordingClient.afterThrottled_afterThrottled, Nat.add_comm]
    · rw [hnotes, hreplicate]
  | givenUp count error hu hnotes =>
    refine .givenUp (count + 1) error ?_ ?_
    · rw [hu, hclient, RecordingClient.afterThrottled_afterThrottled, Nat.add_comm]
    · rw [hnotes, hreplicate]

/-- A call that is not throttled is kept at once. -/
lemma tried_attempt_of_free
    {operation : Session RecordingClient → Response × Session RecordingClient}
    (hoperation : ∀ s, operation s = s.call call.send) (policy : RetryPolicy) (name : String)
    (left failures : Nat) (hfree : s.client.throttleRemaining = 0) :
    Tried name call s (policy.attempt name operation left failures s).2
      (policy.attempt name operation left failures s).1 := by
  obtain ⟨raw, hsend⟩ := exists_send_of_free hfree call
  rw [RetryPolicy.attempt_of_ok ((hoperation s).trans (Session.call_of_eq hsend))]
  exact .kept 0 raw rfl rfl

lemma tried_attempt {operation : Session RecordingClient → Response × Session RecordingClient}
    (hoperation : ∀ s, operation s = s.call call.send) (policy : RetryPolicy) (name : String)
    (left failures : Nat) (s : Session RecordingClient) :
    Tried name call s (policy.attempt name operation left failures s).2
      (policy.attempt name operation left failures s).1 := by
  -- by the attempts that are left: one that is throttled uses up one of them
  induction left generalizing failures s with
  | zero =>
    rcases Nat.eq_zero_or_pos s.client.throttleRemaining with hfree | hthrottled
    · exact tried_attempt_of_free hoperation policy name 0 failures hfree
    · have hcall := (hoperation s).trans (Session.call_of_eq (send_of_throttled hthrottled call))
      rw [RetryPolicy.attempt_zero_of_transient hcall rfl]
      exact .givenUp 0 _ rfl rfl
  | succ left ih =>
    rcases Nat.eq_zero_or_pos s.client.throttleRemaining with hfree | hthrottled
    · exact tried_attempt_of_free hoperation policy name (left + 1) failures hfree
    · have hcall := (hoperation s).trans (Session.call_of_eq (send_of_throttled hthrottled call))
      rw [RetryPolicy.attempt_succ_of_transient hcall rfl]
      exact Tried.after_retry rfl rfl (ih (failures + 1) _)

/-- Trying a call notes down retries and giving up, and nothing else. -/
lemma Tried.tally_eq (h : Tried name call s t answer) {w : Event → Nat}
    (hretried : w (.retried name) = 0) (hexhausted : w (.exhausted name) = 0) :
    tally w t.events = tally w s.events := by
  cases h with
  | kept count raw hclient hevents =>
    rw [hevents, tally_append, tally_replicate, hretried]
    omega
  | givenUp count error hclient hevents =>
    rw [hevents, tally, tally_append, tally_replicate, hretried, hexhausted]
    omega

lemma Tried.uploads_of_define {definition : Json}
    (h : Tried name (.define definition) s t answer) : t.client.uploads = s.client.uploads := by
  cases h with
  | kept count raw hclient hevents => rw [hclient]; rfl
  | givenUp count error hclient hevents => rw [hclient]; rfl

end

namespace Endpoint

variable {e : Endpoint} {s t : Session RecordingClient} {answer : Response}

lemma tried_upload (e : Endpoint) (batch : List Json) (s : Session RecordingClient) :
    Tried e.uploadName (.upload batch) (s.note (.batch e.engine (Json.arr batch).encodedSize))
      (e.upload batch s).2 (e.upload batch s).1 :=
  tried_attempt (fun _ => rfl) e.retry e.uploadName (e.retry.maxAttempts - 1) 0 _

lemma tried_sendDefinition (e : Endpoint) (definition : Json) (s : Session RecordingClient) :
    Tried e.defineName (.define definition) s (e.sendDefinition definition s).2
      (e.sendDefinition definition s).1 :=
  tried_attempt (fun _ => rfl) e.retry e.defineName (e.retry.maxAttempts - 1) 0 s

/-! ## Several calls -/

section

variable {P : Session RecordingClient → Prop}

/-- What every upload keeps is kept by uploading some batches, also if one of them fails. -/
lemma uploadAll_keeps (hupload : ∀ batch s, P s → P (e.upload batch s).2)
    (batches : List (List Json)) (h : P s) : P (e.uploadAll batches s).2 := by
  induction batches generalizing s with
  | nil => exact h
  | cons batch rest ih =>
    have hbatch := hupload batch s h
    rw [uploadAll]
    rcases hanswer : e.upload batch s with ⟨error | raw, t⟩
    · rw [hanswer] at hbatch
      exact hbatch
    · rw [hanswer] at hbatch
      exact ih hbatch

lemma sendDefinitions_keeps (hdefine : ∀ definition s, P s → P (e.sendDefinition definition s).2)
    (definitions : List Json) (h : P s) : P (e.sendDefinitions definitions s).2 := by
  induction definitions generalizing s with
  | nil => exact h
  | cons definition rest ih =>
    have hdefinition := hdefine definition s h
    rw [sendDefinitions]
    rcases hanswer : e.sendDefinition definition s with ⟨error | raw, t⟩
    · rw [hanswer] at hdefinition
      exact hdefinition
    · rw [hanswer] at hdefinition
      exact ih hdefinition

/-- Before the first upload only the cuts are noted down, and after the last one only the
envelopes. -/
lemma publishAll_keeps {operation : Operation} {envelopes : List Json}
    (hcut : ∀ groups s, P s → P (s.note (.cut groups)))
    (hupload : ∀ batch s, P s → P (e.upload batch s).2)
    (huploaded : ∀ s, P s → P (s.note (.uploaded e.engine operation envelopes.length)))
    (h : P s) : P (e.publishAll operation envelopes s).2 := by
  rw [publishAll]
  rcases Batches.split e.maxPayload envelopes with error | b
  · exact h
  have hcuts : P (b.cuts.foldl (fun s groups => s.note (.cut groups)) s) :=
    List.foldlRecOn b.cuts _ h fun s hs groups _ => hcut groups s hs
  have hall := uploadAll_keeps hupload b.batches hcuts
  dsimp only
  rcases hanswer : e.uploadAll b.batches _ with ⟨error | done, t⟩
  · rw [hanswer] at hall
    exact hall
  · rw [hanswer] at hall
    exact huploaded t hall

end

/-! ## Calls, searches and batches -/

/-- What is noted down accounts for the calls of the client, and for the searches and the batches
that it has kept. -/
structure Balanced (e : Endpoint) (s : Session RecordingClient) : Prop where
  calls : s.client.calls =
    s.client.searches.length + s.client.uploads.length + s.client.definitions.length +
      (tally retries s.events + tally givenUp s.events + tally (searches e.engine .error) s.events)
  answered : tally (searches e.engine .success) s.events = s.client.searches.length
  timed : tally (timings e.engine) s.events =
    tally (searches e.engine .success) s.events + tally (searches e.engine .error) s.events
  announced : tally (batches e.engine) s.events =
    s.client.uploads.length + tally (givenUpOf e.uploadName) s.events

end Endpoint

/-- Whether an event has no part in the balance of calls, searches and batches. -/
def Event.isAside : Event → Bool
  | .searched _ status => status = .invalid
  | .uploaded _ _ _ | .leftOut _ _ | .cut _ | .defined _ _ _ => true
  | .searchTimed _ | .received _ _ | .batch _ _ | .retried _ | .exhausted _ => false

namespace Endpoint

variable {e : Endpoint} {s t : Session RecordingClient} {answer : Response}

lemma uploadName_ne_defineName (e : Endpoint) : e.uploadName ≠ e.defineName := by
  rw [uploadName, defineName]
  cases e.engine <;> decide

/-- Trying a definition keeps the balance. -/
lemma Balanced.define (h : e.Balanced s) {definition : Json}
    (htried : Tried e.defineName (.define definition) s t answer) : e.Balanced t := by
  obtain ⟨hcalls, hanswered, htimed, hannounced⟩ := h
  have hname : e.defineName ≠ e.uploadName := e.uploadName_ne_defineName.symm
  cases htried with
  | kept count raw hclient hevents =>
    constructor <;>
      simp only [hclient, hevents, RecordingClient.afterThrottled, RecordingClient.keep,
        tally_append, tally_replicate, retries, givenUp, givenUpOf, searches, timings, batches,
        List.length_append, List.length_singleton] <;> omega
  | givenUp count error hclient hevents =>
    constructor <;>
      simp only [hclient, hevents, RecordingClient.afterThrottled, tally, tally_append,
        tally_replicate, retries, Event.givenUp, givenUpOf, searches, timings, batches,
        if_neg hname] <;> omega

/-- A batch is announced, and trying to upload it restores the balance. -/
lemma Balanced.upload (h : e.Balanced s) {batch : List Json} {bytes : Nat}
    (htried : Tried e.uploadName (.upload batch) (s.note (.batch e.engine bytes)) t answer) :
    e.Balanced t := by
  obtain ⟨hcalls, hanswered, htimed, hannounced⟩ := h
  cases htried with
  | kept count raw hclient hevents =>
    constructor <;>
      simp only [hclient, hevents, RecordingClient.afterThrottled, RecordingClient.keep,
        Session.note, tally, tally_append, tally_replicate, retries, givenUp, givenUpOf, searches,
        timings, batches, List.length_append, List.length_singleton, if_true] <;> omega
  | givenUp count error hclient hevents =>
    constructor <;>
      simp only [hclient, hevents, RecordingClient.afterThrottled, Session.note, tally,
        tally_append, tally_replicate, retries, Event.givenUp, givenUpOf, searches, timings,
        batches, if_true] <;> omega

/-- A search is kept and noted down as a success, or throttled and noted down as an error. -/
lemma Balanced.send (h : e.Balanced s) (request : Request) :
    e.Balanced (e.send request s).2 := by
  obtain ⟨hcalls, hanswered, htimed, hannounced⟩ := h
  rw [send_eq (search_eq request s.client)]
  by_cases hfree : s.client.throttleRemaining = 0
  · constructor <;>
      simp only [hfree, if_true, searchNotes, tally, List.cons_append, List.nil_append, retries,
        givenUp, givenUpOf, searches, timings, batches, List.length_append,
        List.length_singleton, and_self, reduceCtorEq, and_false, if_false] <;> omega
  · constructor <;>
      simp only [hfree, if_true, searchNotes, tally, List.cons_append, List.nil_append, retries,
        givenUp, givenUpOf, searches, timings, batches, and_self, reduceCtorEq, and_false,
        if_false] <;> omega

/-- Noting down anything else keeps the balance. -/
lemma Balanced.note (h : e.Balanced s) {event : Event} (haside : event.isAside = true) :
    e.Balanced (s.note event) := by
  have hweight : ∀ w ∈ [retries, givenUp, givenUpOf e.uploadName, searches e.engine .success,
      searches e.engine .error, timings e.engine, batches e.engine], w event = 0 := by
    cases event with
    | searched engine status =>
      obtain rfl : status = .invalid := of_decide_eq_true haside
      simp [retries, givenUp, givenUpOf, searches, timings, batches]
    | uploaded _ _ _ | leftOut _ _ | cut _ | defined _ _ _ =>
      simp [retries, givenUp, givenUpOf, searches, timings, batches]
    | searchTimed _ | received _ _ | batch _ _ | retried _ | exhausted _ =>
      exact absurd haside Bool.false_ne_true
  simp only [List.forall_mem_cons] at hweight
  obtain ⟨hretries, hgivenUp, hgivenUpOf, hsuccess, herror, htimings, hbatches, -⟩ := hweight
  obtain ⟨hcalls, hanswered, htimed, hannounced⟩ := h
  constructor <;>
    simp only [Session.note, tally, hretries, hgivenUp, hgivenUpOf, hsuccess, herror, htimings,
      hbatches, Nat.add_zero] <;> assumption

lemma Balanced.publishAll (h : e.Balanced s) (operation : Operation) (envelopes : List Json) :
    e.Balanced (e.publishAll operation envelopes s).2 :=
  publishAll_keeps (fun _ _ hs => hs.note rfl)
    (fun batch s hs => hs.upload (e.tried_upload batch s)) (fun _ hs => hs.note rfl) h

/-! ## Envelopes -/

end Endpoint

/-- The key under which the envelopes of an engine say what is to be done. -/
def Engine.operationKey : Engine → String
  | .cloudSearch => "type"
  | .elasticsearch => "_op_type"

/-- How the envelopes of an engine call an operation. -/
def Engine.operationMark : Engine → Operation → String
  | .cloudSearch, .publish => "add"
  | .elasticsearch, .publish => "index"
  | .cloudSearch, .delete => "delete"
  | .elasticsearch, .delete => "delete"

/-- Whether an envelope asks for an operation. -/
def Engine.asksFor (engine : Engine) (operation : Operation) (envelope : Json) : Bool :=
  (envelope.get? engine.operationKey).bind Json.text? == some (engine.operationMark operation)

namespace Endpoint

variable {e : Endpoint} {s t : Session RecordingClient} {answer : Response}
  {operation operation' : Operation}

/-- The envelopes of an operation ask for it, and for no other. -/
lemma asksFor_envelopeOf (e : Endpoint) (operation operation' : Operation)
    (entry : String × Document) :
    e.engine.asksFor operation' (e.envelopeOf operation entry) =
      decide (operation = operation') := by
  unfold envelopeOf
  cases e.engine <;> cases operation <;> cases operation' <;>
    simp [Engine.asksFor, Engine.operationKey, Engine.operationMark, Engine.addEnvelope,
      Engine.deleteEnvelope, Json.ofFields, Json.get?, Json.fields?, Json.text?, KeyMap.ofList]

lemma countP_asksFor_map (entries : List (String × Document)) :
    (entries.map (e.envelopeOf operation)).countP (e.engine.asksFor operation') =
      if operation = operation' then entries.length else 0 := by
  induction entries with
  | nil => simp
  | cons entry rest ih =>
    rw [List.map_cons, List.countP_cons, ih, asksFor_envelopeOf]
    by_cases h : operation = operation' <;> simp [h]

/-- What a publication has published: all of its envelopes, or nothing if it fails. -/
def publishedBy (envelopes : List Json) : Except SearchError Unit → List Json
  | .ok _ => envelopes
  | .error _ => []

/-- Up to the last upload no envelopes are noted down. -/
lemma tally_uploadAll (e : Endpoint) (operation : Operation) (b : Batches)
    (s : Session RecordingClient) :
    tally (Event.envelopes e.engine operation)
        (e.uploadAll b.batches
          (b.cuts.foldl (fun s groups => s.note (.cut groups)) s)).2.events =
      tally (Event.envelopes e.engine operation) s.events := by
  refine uploadAll_keeps (P := fun t => tally (Event.envelopes e.engine operation) t.events =
    tally (Event.envelopes e.engine operation) s.events) (fun batch t ht => ?_) b.batches ?_
  · exact ((e.tried_upload batch t).tally_eq rfl rfl).trans ht
  · induction b.cuts generalizing s with
    | nil => rfl
    | cons groups rest ih => exact ih (s.note (.cut groups))

lemma tally_publishAll (e : Endpoint) (operation operation' : Operation) (envelopes : List Json)
    (s : Session RecordingClient) :
    tally (Event.envelopes e.engine operation') (e.publishAll operation envelopes s).2.events =
      tally (Event.envelopes e.engine operation') s.events +
        if operation = operation' then
          (publishedBy envelopes (e.publishAll operation envelopes s).1).length
        else 0 := by
  rw [publishAll]
  rcases Batches.split e.maxPayload envelopes with error | b
  · simp [publishedBy]
  have hall := e.tally_uploadAll operation' b s
  dsimp only
  rcases hanswer : e.uploadAll b.batches _ with ⟨error | done, t⟩
  · rw [hanswer] at hall
    simpa [publishedBy] using hall
  · rw [hanswer] at hall
    dsimp only at hall ⊢
    simp only [Session.note, tally, hall, Event.envelopes, publishedBy, true_and]

/-- A recording client keeps what has been published, and nothing of what has not. -/
lemma uploaded_publishAll (e : Endpoint) (operation : Operation) (envelopes : List Json)
    (s : Session RecordingClient) :
    (e.publishAll operation envelopes s).2.client.uploaded =
      s.client.uploaded ++ publishedBy envelopes (e.publishAll operation envelopes s).1 := by
  by_cases hlarge : ∃ envelope ∈ envelopes, e.maxPayload < envelope.encodedSize
  · obtain ⟨⟨size, hanswer⟩, hclient⟩ := e.refused_publishAll operation (s := s) hlarge
    rw [hanswer, hclient, publishedBy, List.append_nil]
  have hfit : ∀ envelope ∈ envelopes, envelope.encodedSize ≤ e.maxPayload := by
    intro envelope hmem
    exact Nat.le_of_not_lt fun hlt => hlarge ⟨envelope, hmem, hlt⟩
  by_cases hsent : envelopes ≠ [] → s.client.throttleRemaining < e.attempts
  · obtain ⟨hanswer, b, hsplit, hclient⟩ := e.delivered_publishAll operation hfit hsent
    rw [hanswer, hclient, publishedBy]
    have hflatten := (Batches.holds_of_split hsplit).flatten_eq
    by_cases hnil : envelopes = []
    · rw [if_pos hnil, hnil, List.append_nil]
    · rw [if_neg hnil, RecordingClient.uploaded, List.flatten_append, hflatten]
      rfl
  · obtain ⟨hne, hnot⟩ := Classical.not_imp.1 hsent
    obtain ⟨hanswer, hclient⟩ := e.givenUp_publishAll operation hfit hne (Nat.le_of_not_lt hnot)
    rw [hanswer, hclient, publishedBy, List.append_nil]
    rfl

/-- The metrics of an endpoint and its client agree: calls, searches and batches are balanced, and
the envelopes of each operation that were noted down are as many as the client has kept. -/
structure Agrees (e : Endpoint) (s : Session RecordingClient) : Prop extends Balanced e s where
  published : ∀ operation, tally (Event.envelopes e.engine operation) s.events =
    s.client.uploaded.countP (e.engine.asksFor operation)

lemma Agrees.note (h : e.Agrees s) {event : Event} (haside : event.isAside = true)
    (hnone : ∀ operation, Event.envelopes e.engine operation event = 0) :
    e.Agrees (s.note event) := by
  refine ⟨h.toBalanced.note haside, fun operation => ?_⟩
  rw [Session.note, tally, hnone]
  exact h.published operation

lemma Agrees.define (h : e.Agrees s) {definition : Json}
    (htried : Tried e.defineName (.define definition) s t answer) : e.Agrees t := by
  refine ⟨h.toBalanced.define htried, fun operation => ?_⟩
  rw [htried.tally_eq rfl rfl, RecordingClient.uploaded, htried.uploads_of_define]
  exact h.published operation

lemma Agrees.send (h : e.Agrees s) (request : Request) : e.Agrees (e.send request s).2 := by
  refine ⟨h.toBalanced.send request, fun operation => ?_⟩
  rw [send_eq (search_eq request s.client)]
  by_cases hfree : s.client.throttleRemaining = 0
  · simp only [hfree, if_true, searchNotes]
    exact h.published operation
  · simp only [hfree, if_false, searchNotes]
    exact h.published operation

lemma Agrees.publishAll (h : e.Agrees s) (operation : Operation)
    (entries : List (String × Document)) :
    e.Agrees (e.publishAll operation (entries.map (e.envelopeOf operation)) s).2 := by
  refine ⟨h.toBalanced.publishAll operation _, fun operation' => ?_⟩
  rw [tally_publishAll, uploaded_publishAll, List.countP_append, h.published]
  rcases (e.publishAll operation (entries.map (e.envelopeOf operation)) s).1 with error | done
  · simp [publishedBy]
  · simp only [publishedBy, countP_asksFor_map, List.length_map]

/-! ## Commands -/

lemma Agrees.applyTo (h : e.Agrees s) (operation : Operation) (c : Corpus) (o : SourceObject) :
    e.Agrees (e.applyTo operation c o s).2 := by
  rw [Endpoint.applyTo, outcome_eq]
  cases e.fate c o with
  | sent id document =>
    have hpublish := h.publishAll operation [(id, document)]
    rw [List.map_singleton] at hpublish
    dsimp only [publish]
    rcases hanswer : e.publishAll operation _ s with ⟨error | done, t⟩
    · rw [hanswer] at hpublish
      exact hpublish
    · rw [hanswer] at hpublish
      exact hpublish
  | skipped => exact h
  | rejected error => exact h

lemma Agrees.applyToAll (h : e.Agrees s) (operation : Operation) (c : Corpus)
    (objects : List SourceObject) : e.Agrees (e.applyToAll operation c objects s).2 := by
  have hnoted (count : Nat) (p : Bool) :
      e.Agrees (if p then s else s.note (.leftOut e.engine count)) := by
    cases p with
    | true => exact h
    | false => exact h.note rfl fun _ => rfl
  have hstart := hnoted (e.shipment operation c objects).rejected.length
    (e.shipment operation c objects).rejected.isEmpty
  rw [Endpoint.applyToAll]
  generalize (if (e.shipment operation c objects).rejected.isEmpty = true then s else _) = s₁
    at hstart ⊢
  have hpublish := hstart.publishAll operation (e.documents c objects)
  rw [← envelopes_shipment] at hpublish
  rcases (e.shipment operation c objects).envelopes.isEmpty
  · rcases hanswer : e.publishAll operation (e.shipment operation c objects).envelopes s₁ with
      ⟨error | done, t⟩
    · rw [hanswer] at hpublish
      exact hpublish
    · rw [hanswer] at hpublish
      exact hpublish
  · exact hstart

lemma Agrees.defineFields (h : e.Agrees s) : e.Agrees (e.defineFields s).2 := by
  have hsent := sendDefinitions_keeps
    (fun definition s hs => hs.define (e.tried_sendDefinition definition s)) e.definitions h
  rw [Endpoint.defineFields]
  rcases hanswer : e.sendDefinitions e.definitions s with ⟨error | done, t⟩
  · rw [hanswer] at hsent
    exact hsent.note rfl fun _ => rfl
  · rw [hanswer] at hsent
    exact hsent.note rfl fun _ => rfl

lemma Agrees.execute (h : e.Agrees s) (q : Query) : e.Agrees (e.execute q s).session := by
  obtain ⟨d, hd⟩ := e.exists_decided q
  cases d with
  | error error =>
    obtain ⟨notes, hnotes, hexecute⟩ := execute_of_refused hd s
    rw [hexecute]
    rcases hnotes with rfl | rfl
    · exact h
    · exact h.note rfl fun _ => rfl
  | ok request =>
    rw [execute_of_compiled hd]
    exact h.send request

/-! ## The main statement -/

/-- Nothing has happened yet. -/
lemma agrees_fresh (e : Endpoint) (response : Json) (draws : Nat → Nat) :
    e.Agrees (.ofClient (.ofResponse response) draws) :=
  ⟨⟨rfl, rfl, rfl, rfl⟩, fun _ => rfl⟩

lemma Agrees.perform (h : e.Agrees s) (command : Command) :
    e.Agrees (e.perform (fun count c => c.throttleNext count) s command) := by
  cases command with
  | execute q => exact h.execute q
  | put c o => exact h.applyTo .publish c o
  | putAll c objects => exact h.applyToAll .publish c objects
  | delete c o => exact h.applyTo .delete c o
  | deleteAll c objects => exact h.applyToAll .delete c objects
  | defineFields => exact h.defineFields
  | throttleNext count => exact ⟨⟨h.calls, h.answered, h.timed, h.announced⟩, h.published⟩

/-- What every command keeps is kept by a run. -/
lemma Agrees.runAll (h : e.Agrees s) (commands : List Command) :
    e.Agrees (e.runAll (fun count c => c.throttleNext count) s commands) := by
  induction commands generalizing s with
  | nil => exact h
  | cons command rest ih => exact ih (h.perform command)

/-- **Metrics and client agree.**  Let an endpoint start with a recording client that has not been
called and without any events, and let it carry out some commands, between which the client may
be made to throttle calls.  Observing the client shows the history of its calls and changes
nothing.  Then the client has counted the calls that it has kept and those that it has throttled,
and the latter were noted down as retries, as giving up or as searches that failed.  The searches
that succeeded are those that the client has kept, and every search that was sent was timed.  The
documents of an operation are as many as the envelopes that ask for it, and a batch was noted down
for every upload that the client has kept and for every one that was given up. -/
theorem metrics_agree_with_client (e : Endpoint) (response : Json) (draws : Nat → Nat)
    (commands : List Command) :
    let s := e.runAll (fun count c => c.throttleNext count)
      (.ofClient (RecordingClient.ofResponse response) draws) commands
    let observed := e.runAll ObservedClient.throttleNext
      (.ofClient (ObservedClient.ofResponse response) draws) commands
    let c := s.client
    let readings := Metrics.report s.events
    let backend := ("backend", e.engine.name)
    let throttled := observed.client.history.countP Call.isThrottled
    let successes := Metrics.amountAt readings "search_bridge_search_queries_total"
      [backend, ("status", "success")]
    let failures := Metrics.amountAt readings "search_bridge_search_queries_total"
      [backend, ("status", "error")]
    observed.map ObservedClient.client = s ∧
      c.calls = c.searches.length + c.uploads.length + c.definitions.length + throttled ∧
      throttled = Metrics.totalOf readings "search_bridge_retries_total" +
        Metrics.totalOf readings "search_bridge_retries_exhausted_total" + failures ∧
      successes = c.searches.length ∧
      Metrics.amountAt readings "search_bridge_operation_seconds"
        [backend, ("operation", "search")] = successes + failures ∧
      (∀ operation : Operation,
        Metrics.amountAt readings "search_bridge_documents_total"
            [backend, ("operation", operation.name)] =
          c.uploaded.countP (e.engine.asksFor operation)) ∧
      Metrics.amountAt readings "search_bridge_batch_bytes" [backend] =
        c.uploads.length + Metrics.amountAt readings "search_bridge_retries_exhausted_total"
          [("operation", e.uploadName)] := by
  intro s observed c readings backend throttled successes failures
  have hagrees : e.Agrees s := (e.agrees_fresh response draws).runAll commands
  have hsame : observed.map ObservedClient.client = s :=
    (e.runAll_map ObservedClient.keepsAnswers_client (fun _ _ => rfl)
      (.ofClient (.ofResponse response) draws) commands).symm
  have hcalls : c.calls =
      c.searches.length + c.uploads.length + c.definitions.length + throttled := by
    have hclient : observed.client.client = c := congrArg Session.client hsame
    rw [← hclient]
    exact observed.client.calls_eq
  have hsuccesses : successes = tally (searches e.engine .success) s.events :=
    Metrics.amountAt_searches e.engine s.events .success
  have hfailures : failures = tally (searches e.engine .error) s.events :=
    Metrics.amountAt_searches e.engine s.events .error
  have hretries := Metrics.totalOf_retries s.events
  have hgivenUp := Metrics.totalOf_givenUp s.events
  have hbalance : c.calls = c.searches.length + c.uploads.length + c.definitions.length +
      (tally retries s.events + tally givenUp s.events +
        tally (searches e.engine .error) s.events) := hagrees.calls
  refine ⟨hsame, hcalls, ?_, ?_, ?_, fun operation => ?_, ?_⟩
  · rw [hretries, hgivenUp, hfailures]
    omega
  · rw [hsuccesses]
    exact hagrees.answered
  · rw [hsuccesses, hfailures]
    exact (Metrics.amountAt_timings e.engine s.events).trans hagrees.timed
  · exact (Metrics.amountAt_envelopes e.engine s.events operation).trans
      (hagrees.published operation)
  · rw [Metrics.amountAt_givenUp s.events e.uploadName]
    exact (Metrics.amountAt_batches e.engine s.events).trans hagrees.announced

end Endpoint

end SearchGateway
