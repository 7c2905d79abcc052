import Mathlib.Data.List.Basic
import Mathlib.Tactic.Lemma
import SearchGateway.Client.Recording
import SearchGateway.Endpoint.Define
import SearchGateway.Endpoint.Publish
import SearchGateway.Endpoint.Search
import SearchGateway.Proofs.Delivery

/-!
# Observing a client

An endpoint knows nothing about a client but the answers to its calls.  So a client may be
replaced by one that answers alike, and every run stays the same: if a map between the states of
two clients keeps all answers (`KeepsAnswers`), it commutes with everything that an endpoint does
(`Endpoint.runAll_map`).

This is applied to a recording client together with the history of its calls and their answers
(`ObservedClient`).  Forgetting the history keeps the answers, hence observing a client changes
nothing, and an observed run shows what the client was asked and what it answered.  The state
carries the proof that what the recording client has kept is what it has answered without an
error, and that it has no errors but that of throttling.
-/
namespace SearchGateway

/-! ## Calls -/

/-- A call of a client. -/
inductive Call where
  | search (request : Request)
  | upload (batch : List Json)
  | define (definition : Json)

/-- What a client answers to a call, and its state afterwards. -/
def Call.send {σ : Type} [SearchClient σ] : Call → σ → Response × σ
  | .search request => SearchClient.search request
  | .upload batch => SearchClient.upload batch
  | .define definition => SearchClient.defineField definition

/-! ## Replacing a client -/

section Replacing

variable {σ τ : Type} {f : σ → τ}

/-- The session with another client. -/
def Session.map (f : σ → τ) (s : Session σ) : Session τ :=
  ⟨f s.client, s.events, s.pauses, s.draws⟩

/-- Replacing the client before an operation is replacing it afterwards. -/
def Commutes {α : Type} (f : σ → τ) (operation : Session σ → α × Session σ)
    (operation' : Session τ → α × Session τ) : Prop :=
  ∀ s, operation' (s.map f) = Prod.map id (Session.map f) (operation s)

lemma foldl_note_map {ι : Type} (event : ι → Event) (items : List ι) (s : Session σ) :
    items.foldl (fun s item => s.note (event item)) (s.map f) =
      (items.foldl (fun s item => s.note (event item)) s).map f :=
  List.foldl_hom (Session.map f) fun _ _ => rfl

lemma Commutes.attempt {ε α : Type} [Transient ε] {policy : RetryPolicy} {name : String}
    {operation : Session σ → Except ε α × Session σ}
    {operation' : Session τ → Except ε α × Session τ} (h : Commutes f operation operation')
    (left failures : Nat) :
    Commutes f (policy.attempt name operation left failures)
      (policy.attempt name operation' left failures) := by
  intro s
  induction left generalizing failures s with
  | zero =>
    rw [RetryPolicy.attempt, RetryPolicy.attempt, h s]
    rcases operation s with ⟨error | value, t⟩
    · by_cases htransient : Transient.isTransient error = true
      · simp only [Prod.map, id, htransient, if_true]
        rfl
      · simp only [Prod.map, id, htransient, Bool.false_eq_true, if_false]
    · rfl
  | succ left ih =>
    rw [RetryPolicy.attempt, RetryPolicy.attempt, h s]
    rcases operation s with ⟨error | value, t⟩
    · by_cases htransient : Transient.isTransient error = true
      · simp only [Prod.map, id, htransient, if_true]
        exact ih (failures + 1)
          ((t.note (.retried name)).pause (policy.backoff (failures + 1) t.draw))
      · simp only [Prod.map, id, htransient, Bool.false_eq_true, if_false]
    · rfl

variable [SearchClient σ] [SearchClient τ]

/-- Between the states of two clients, a map that keeps all answers. -/
def KeepsAnswers (f : σ → τ) : Prop :=
  ∀ (call : Call) (c : σ), call.send (f c) = Prod.map id f (call.send c)

lemma KeepsAnswers.call (hf : KeepsAnswers f) (call : Call) :
    Commutes f (fun s => s.call call.send) (fun s => s.call call.send) := by
  intro s
  have hsend := hf call s.client
  simp only [Session.call, Session.map, hsend]
  rfl

namespace Endpoint

variable (e : Endpoint)

lemma commutes_upload (hf : KeepsAnswers f) (batch : List Json) :
    Commutes f (e.upload batch) (e.upload batch) := by
  intro s
  have hrun : Commutes f (e.retry.run e.uploadName (Session.upload batch))
      (e.retry.run e.uploadName (Session.upload batch)) :=
    (hf.call (.upload batch)).attempt _ _
  exact hrun (s.note (.batch e.engine (Json.arr batch).encodedSize))

lemma commutes_uploadAll (hf : KeepsAnswers f) (batches : List (List Json)) :
    Commutes f (e.uploadAll batches) (e.uploadAll batches) := by
  intro s
  induction batches generalizing s with
  | nil => rfl
  | cons batch rest ih =>
    rw [uploadAll, uploadAll, e.commutes_upload hf batch s]
    rcases e.upload batch s with ⟨error | answer, t⟩
    · rfl
    · exact ih t

lemma commutes_publishAll (hf : KeepsAnswers f) (operation : Operation) (envelopes : List Json) :
    Commutes f (e.publishAll operation envelopes) (e.publishAll operation envelopes) := by
  intro s
  rw [publishAll, publishAll]
  rcases Batches.split e.maxPayload envelopes with error | b
  · rfl
  · dsimp only
    rw [foldl_note_map Event.cut, e.commutes_uploadAll hf b.batches]
    rcases e.uploadAll b.batches _ with ⟨error | done, t⟩
    · rfl
    · rfl

lemma commutes_applyTo (hf : KeepsAnswers f) (operation : Operation) (c : Corpus)
    (o : SourceObject) :
    Commutes f (e.applyTo operation c o) (e.applyTo operation c o) := by
  intro s
  rw [applyTo, applyTo]
  rcases e.outcome operation c o with error | _ | envelope
  · rfl
  · rfl
  · dsimp only
    rw [publish, publish, e.commutes_publishAll hf operation [envelope] s]
    rcases e.publishAll operation [envelope] s with ⟨error | done, t⟩
    · rfl
    · rfl

lemma commutes_applyToAll (hf : KeepsAnswers f) (operation : Operation) (c : Corpus)
    (objects : List SourceObject) :
    Commutes f (e.applyToAll operation c objects) (e.applyToAll operation c objects) := by
  intro s
  have hnoted (p : Bool) (event : Event) :
      (if p then s.map f else (s.map f).note event) =
        (if p then s else s.note event).map f := by
    cases p <;> rfl
  rw [applyToAll, applyToAll, hnoted]
  generalize (if (e.shipment operation c objects).rejected.isEmpty then s else _) = t
  rcases (e.shipment operation c objects).envelopes.isEmpty
  · rw [e.commutes_publishAll hf operation _ t]
    rcases e.publishAll operation (e.shipment operation c objects).envelopes t with
      ⟨error | done, u⟩
    · rfl
    · rfl
  · rfl

lemma commutes_sendDefinitions (hf : KeepsAnswers f) (definitions : List Json) :
    Commutes f (e.sendDefinitions definitions) (e.sendDefinitions definitions) := by
  intro s
  induction definitions generalizing s with
  | nil => rfl
  | cons definition rest ih =>
    have hdefinition : Commutes f (e.sendDefinition definition) (e.sendDefinition definition) :=
      (hf.call (.define definition)).attempt _ _
    rw [sendDefinitions, sendDefinitions, hdefinition s]
    rcases e.sendDefinition definition s with ⟨error | answer, t⟩
    · rfl
    · exact ih t

lemma commutes_defineFields (hf : KeepsAnswers f) : Commutes f e.defineFields e.defineFields := by
  intro s
  rw [defineFields, defineFields, e.commutes_sendDefinitions hf e.definitions s]
  rcases e.sendDefinitions e.definitions s with ⟨error | done, t⟩
  · rfl
  · rfl

lemma commutes_send (hf : KeepsAnswers f) (request : Request) :
    Commutes f (e.send request) (e.send request) := by
  intro s
  have hcall := hf.call (.search request) s
  dsimp only [Call.send] at hcall
  rw [send, send, hcall]
  rcases s.call (SearchClient.search request) with ⟨error | raw, t⟩
  · rfl
  · rfl

lemma execute_map (hf : KeepsAnswers f) (q : Query) (s : Session σ) :
    (e.execute q (s.map f)).outcome = (e.execute q s).outcome ∧
      (e.execute q (s.map f)).session = (e.execute q s).session.map f := by
  rw [execute, execute]
  rcases q.index.ensureEngine e.engine with error | bound
  · exact ⟨rfl, rfl⟩
  rcases e.ensureIndex q with error | same
  · exact ⟨rfl, rfl⟩
  dsimp only
  rcases q.ensureValid with error | valid
  · exact ⟨rfl, rfl⟩
  rcases e.compile q.validated with error | request
  · exact ⟨rfl, rfl⟩
  · dsimp only
    rw [e.commutes_send hf request s]
    exact ⟨rfl, rfl⟩

end Endpoint

end Replacing

/-! ## Runs -/

/-- Something that is done with an endpoint, or with its client. -/
inductive Command where
  | execute (q : Query)
  | put (c : Corpus) (o : SourceObject)
  | putAll (c : Corpus) (objects : List SourceObject)
  | delete (c : Corpus) (o : SourceObject)
  | deleteAll (c : Corpus) (objects : List SourceObject)
  | defineFields
  /-- The client will throttle the next calls. -/
  | throttleNext (count : Nat)

namespace Endpoint

section Runs

variable {σ τ : Type} [SearchClient σ] [SearchClient τ] {f : σ → τ} {throttle : Nat → σ → σ}
  {throttle' : Nat → τ → τ} (e : Endpoint)

/-- The session after a command, for a client that can be made to throttle calls. -/
def perform (throttle : Nat → σ → σ) (e : Endpoint) (s : Session σ) : Command → Session σ
  | .execute q => (e.execute q s).session
  | .put c o => (e.put c o s).2
  | .putAll c objects => (e.putAll c objects s).2
  | .delete c o => (e.delete c o s).2
  | .deleteAll c objects => (e.deleteAll c objects s).2
  | .defineFields => (e.defineFields s).2
  | .throttleNext count => { s with client := throttle count s.client }

/-- The session after some commands. -/
def runAll (throttle : Nat → σ → σ) (e : Endpoint) (s : Session σ) (commands : List Command) :
    Session σ :=
  commands.foldl (e.perform throttle) s

lemma perform_map (hf : KeepsAnswers f) (hthrottle : ∀ n c, throttle' n (f c) = f (throttle n c))
    (s : Session σ) (command : Command) :
    e.perform throttle' (s.map f) command = (e.perform throttle s command).map f := by
  cases command with
  | execute q => exact (e.execute_map hf q s).2
  | put c o => exact congrArg Prod.snd (e.commutes_applyTo hf .publish c o s)
  | putAll c objects => exact congrArg Prod.snd (e.commutes_applyToAll hf .publish c objects s)
  | delete c o => exact congrArg Prod.snd (e.commutes_applyTo hf .delete c o s)
  | deleteAll c objects => exact congrArg Prod.snd (e.commutes_applyToAll hf .delete c objects s)
  | defineFields => exact congrArg Prod.snd (e.commutes_defineFields hf s)
  | throttleNext count => simp only [perform, Session.map, hthrottle]

/-- A client may be replaced by one that answers alike, before a run or after it. -/
theorem runAll_map (hf : KeepsAnswers f) (hthrottle : ∀ n c, throttle' n (f c) = f (throttle n c))
    (s : Session σ) (commands : List Command) :
    e.runAll throttle' (s.map f) commands = (e.runAll throttle s commands).map f :=
  List.foldl_hom (Session.map f) fun s command => e.perform_map hf hthrottle s command

end Runs

end Endpoint

/-! ## Observed clients -/

namespace Call

/-- The search that a client has kept, if it answered a search without an error. -/
def keptSearch? : Call × Response → Option Request
  | (.search request, .ok _) => some request
  | _ => none

/-- The batch that a client has kept, if it answered an upload without an error. -/
def keptUpload? : Call × Response → Option (List Json)
  | (.upload batch, .ok _) => some batch
  | _ => none

/-- The definition that a client has kept, if it answered one without an error. -/
def keptDefinition? : Call × Response → Option Json
  | (.define definition, .ok _) => some definition
  | _ => none

/-- Whether a call was throttled. -/
def isThrottled : Call × Response → Bool
  | (_, .error (.throttled _)) => true
  | _ => false

end Call

/-- A recording client has counted the calls of a history and kept those that it answered without
an error, and it has throttled the others. -/
structure RecordingClient.Witnesses (c : RecordingClient) (history : List (Call × Response)) :
    Prop where
  calls : c.calls = history.length
  searches : c.searches = history.filterMap Call.keptSearch?
  uploads : c.uploads = history.filterMap Call.keptUpload?
  definitions : c.definitions = history.filterMap Call.keptDefinition?
  throttled : ∀ entry ∈ history, (∃ raw, entry.2 = .ok raw) ∨ Call.isThrottled entry = true

namespace RecordingClient

variable {c : RecordingClient} {history : List (Call × Response)}

/-- The client after a call that it has answered without an error. -/
def keep (c : RecordingClient) : Call → RecordingClient
  | .search request =>
    { c with calls := c.calls + 1, searches := c.searches ++ [request] }
  | .upload batch => { c with calls := c.calls + 1, uploads := c.uploads ++ [batch] }
  | .define definition =>
    { c with calls := c.calls + 1, definitions := c.definitions ++ [definition] }

lemma exists_send_of_free (h : c.throttleRemaining = 0) (call : Call) :
    ∃ raw, call.send c = (.ok raw, c.keep call) := by
  cases call with
  | search request => simp [Call.send, SearchClient.search, search, handle, keep, h]
  | upload batch => exact exists_upload_of_free h batch
  | define definition => simp [Call.send, SearchClient.defineField, defineField, handle, keep, h]

lemma send_of_throttled (h : 0 < c.throttleRemaining) (call : Call) :
    call.send c = (.error (throttledOn (c.calls + 1)), c.afterThrottled 1) := by
  obtain ⟨remaining, hremaining⟩ := Nat.exists_eq_add_one.2 h
  cases call with
  | search request =>
    simp [Call.send, SearchClient.search, search, handle, afterThrottled, hremaining]
  | upload batch => exact upload_of_throttled h batch
  | define definition =>
    simp [Call.send, SearchClient.defineField, defineField, handle, afterThrottled, hremaining]

lemma Witnesses.ofResponse (response : Json) : (ofResponse response).Witnesses [] :=
  ⟨rfl, rfl, rfl, rfl, fun _ hentry => absurd hentry List.not_mem_nil⟩

/-- One more call. -/
lemma Witnesses.send (h : c.Witnesses history) (call : Call) :
    (call.send c).2.Witnesses (history ++ [(call, (call.send c).1)]) := by
  have hentries {entry : Call × Response}
      (hentry : (∃ raw, entry.2 = .ok raw) ∨ Call.isThrottled entry = true) :
      ∀ other ∈ history ++ [entry], (∃ raw, other.2 = .ok raw) ∨ Call.isThrottled other = true := by
    intro other hother
    rcases List.mem_append.1 hother with hold | hnew
    · exact h.throttled other hold
    · exact List.mem_singleton.1 hnew ▸ hentry
  rcases Nat.eq_zero_or_pos c.throttleRemaining with hfree | hthrottled
  · obtain ⟨raw, hsend⟩ := exists_send_of_free hfree call
    rw [hsend]
    refine ⟨?_, ?_, ?_, ?_, hentries (.inl ⟨raw, rfl⟩)⟩ <;>
      cases call <;>
        simp [keep, Call.keptSearch?, Call.keptUpload?, Call.keptDefinition?, h.calls, h.searches,
          h.uploads, h.definitions]
  · rw [send_of_throttled hthrottled]
    refine ⟨?_, ?_, ?_, ?_, hentries (.inr rfl)⟩ <;>
      simp [afterThrottled, Call.keptSearch?, Call.keptUpload?, Call.keptDefinition?, h.calls,
        h.searches, h.uploads, h.definitions]

lemma Witnesses.throttleNext (h : c.Witnesses history) (count : Nat) :
    (c.throttleNext count).Witnesses history :=
  ⟨h.calls, h.searches, h.uploads, h.definitions, h.throttled⟩

/-- Every call was kept or throttled. -/
lemma length_history (h : ∀ entry ∈ history, (∃ raw, entry.2 = .ok raw) ∨
    Call.isThrottled entry = true) :
    history.length = (history.filterMap Call.keptSearch?).length +
      (history.filterMap Call.keptUpload?).length +
      (history.filterMap Call.keptDefinition?).length + history.countP Call.isThrottled := by
  induction history with
  | nil => rfl
  | cons entry rest ih =>
    have hrest := ih fun other hother => h other (List.mem_cons_of_mem _ hother)
    rcases entry with ⟨call, error | raw⟩
    · have hthrottled : Call.isThrottled (call, .error error) = true :=
        (h _ List.mem_cons_self).resolve_left (by simp)
      simp only [List.length_cons, List.filterMap_cons, Call.keptSearch?, Call.keptUpload?,
        Call.keptDefinition?, List.countP_cons, hthrottled, if_true]
      omega
    · cases call <;>
        simp only [List.length_cons, List.filterMap_cons, Call.keptSearch?, Call.keptUpload?,
          Call.keptDefinition?, List.countP_cons, Call.isThrottled, Bool.false_eq_true,
          if_false] <;>
        omega

end RecordingClient

/-- A recording client together with the history of its calls and their answers. -/
structure ObservedClient where
  client : RecordingClient
  history : List (Call × Response)
  witnesses : client.Witnesses history

namespace ObservedClient

/-- A client that has not been called. -/
def ofResponse (response : Json) : ObservedClient :=
  ⟨.ofResponse response, [], .ofResponse response⟩

/-- Makes a call and notes it down in the history. -/
def observe (call : Call) (o : ObservedClient) : Response × ObservedClient :=
  ((call.send o.client).1,
    ⟨(call.send o.client).2, o.history ++ [(call, (call.send o.client).1)], o.witnesses.send call⟩)

/-- Makes the client throttle the next calls. -/
def throttleNext (count : Nat) (o : ObservedClient) : ObservedClient :=
  ⟨o.client.throttleNext count, o.history, o.witnesses.throttleNext count⟩

instance : SearchClient ObservedClient where
  search request := observe (.search request)
  upload batch := observe (.upload batch)
  defineField definition := observe (.define definition)

/-- Forgetting the history keeps all answers. -/
lemma keepsAnswers_client : KeepsAnswers client := by
  intro call o
  cases call <;> rfl

/-- What a client has kept and what it has throttled make up its calls. -/
theorem calls_eq (o : ObservedClient) :
    o.client.calls = o.client.searches.length + o.client.uploads.length +
      o.client.definitions.length + o.history.countP Call.isThrottled := by
  obtain ⟨client, history, hcalls, hsearches, huploads, hdefinitions, hthrottled⟩ := o
  rw [hcalls, hsearches, huploads, hdefinitions]
  exact RecordingClient.length_history hthrottled

end ObservedClient
end SearchGateway
