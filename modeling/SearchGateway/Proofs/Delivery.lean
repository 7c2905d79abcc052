import Mathlib.Tactic.Lemma
import SearchGateway.Client.Recording
import SearchGateway.Endpoint.Publish
import SearchGateway.Proofs.Attempts
import SearchGateway.Proofs.Batches

/-!
# Delivery of batches

Publishing uploads one batch after the other, and every upload is tried again while the client
throttles it.  What arrives is stated twice.  For any client, `Accepted` says that a client
went from one state to another by accepting some batches in their order, each of them once,
where it may have throttled a batch before; this is what a successful publication amounts to
(`exists_accepted_of_publishAll`).

For a recording client that throttles the next calls the run is known call by call.  If the
attempts outlast the throttling, the first batch takes all the throttled calls and every other
batch takes one call; otherwise the first batch is given up and no batch has arrived.  So
nothing is ever published in part (`publishAll_all_or_nothing`).
-/
namespace SearchGateway

/-! ## Sessions and their clients -/

namespace Session

variable {σ : Type}

@[simp] lemma client_note (s : Session σ) (event : Event) : (s.note event).client = s.client :=
  rfl

@[simp] lemma client_pause (s : Session σ) (nanos : Nat) : (s.pause nanos).client = s.client :=
  rfl

/-- What is noted down does not reach the client. -/
lemma client_foldl_note {ι : Type} (event : ι → Event) (items : List ι) (s : Session σ) :
    (items.foldl (fun s item => s.note (event item)) s).client = s.client := by
  induction items generalizing s with
  | nil => rfl
  | cons item rest ih => exact ih (s.note (event item))

lemma upload_of_eq [SearchClient σ] {documents : List Json} {s : Session σ} {answer : Response}
    {client : σ} (h : SearchClient.upload documents s.client = (answer, client)) :
    s.upload documents = (answer, { s with client }) := by
  rw [upload, call, h]

end Session

/-! ## Accepted batches -/

section Accepted

variable {σ : Type} [SearchClient σ]

/-- A client goes from one state to another by accepting batches in their order, each once. -/
inductive Accepted : List (List Json) → σ → σ → Prop
  /-- Nothing is left to be uploaded. -/
  | done (c : σ) : Accepted [] c c
  /-- A batch is throttled and uploaded again. -/
  | throttled {batch : List Json} {rest : List (List Json)} {error : ClientError} {c c₁ c₂ : σ} :
    SearchClient.upload batch c = (.error error, c₁) → error.isTransient = true →
      Accepted (batch :: rest) c₁ c₂ → Accepted (batch :: rest) c c₂
  /-- A batch is accepted. -/
  | accepted {batch : List Json} {rest : List (List Json)} {answer : Json} {c c₁ c₂ : σ} :
    SearchClient.upload batch c = (.ok answer, c₁) → Accepted rest c₁ c₂ →
      Accepted (batch :: rest) c c₂

lemma upload_client {batch : List Json} {s s₁ : Session σ} {answer : Response}
    (h : Session.upload batch s = (answer, s₁)) :
    SearchClient.upload batch s.client = (answer, s₁.client) := by
  obtain ⟨rfl, rfl⟩ := Prod.mk.inj h
  rfl

/-- Trying an upload until it succeeds.  The batches that follow are part of the statement,
because the relation is built from its end. -/
lemma Accepted.of_attempt {policy : RetryPolicy} {name : String} {batch : List Json}
    {rest : List (List Json)} {left failures : Nat} {s t : Session σ} {answer : Json} {c : σ}
    (h : policy.attempt name (Session.upload batch) left failures s = (.ok answer, t))
    (hrest : Accepted rest t.client c) : Accepted (batch :: rest) s.client c := by
  induction left generalizing failures s with
  | zero =>
    rcases RetryPolicy.exists_of_attempt_eq_ok h with hok | ⟨_, _, _, fewer, hleft, -⟩
    · exact .accepted (upload_client hok) hrest
    · exact nomatch hleft
  | succ left ih =>
    rcases RetryPolicy.exists_of_attempt_eq_ok h with
      hok | ⟨error, s₁, s₂, fewer, hleft, hfailed, htransient, hlater, hclient⟩
    · exact .accepted (upload_client hok) hrest
    · obtain rfl := Nat.succ.inj hleft
      refine .throttled (upload_client hfailed) htransient ?_
      rw [← hclient]
      exact ih hlater

namespace Endpoint

variable {e : Endpoint}

lemma accepted_of_uploadAll {batches : List (List Json)} {s t : Session σ}
    (h : e.uploadAll batches s = (.ok (), t)) : Accepted batches s.client t.client := by
  induction batches generalizing s with
  | nil =>
    obtain ⟨-, rfl⟩ := Prod.mk.inj h
    exact .done _
  | cons batch rest ih =>
    rw [uploadAll] at h
    split at h
    next answer s₁ hupload =>
      rw [upload, RetryPolicy.run] at hupload
      have hbatch := Accepted.of_attempt hupload (ih h)
      rwa [Session.client_note] at hbatch
    next => cases h

/-- Where publishing succeeds, the client has accepted batches that hold the envelopes in their
order. -/
theorem exists_accepted_of_publishAll {operation : Operation} {envelopes : List Json}
    {s t : Session σ} (h : e.publishAll operation envelopes s = (.ok (), t)) :
    ∃ batches : List (List Json), batches.flatten = envelopes ∧
      Accepted batches s.client t.client := by
  rw [publishAll] at h
  split at h
  next => cases h
  next b hsplit =>
    refine ⟨b.batches, (Batches.holds_of_split hsplit).flatten_eq, ?_⟩
    dsimp only at h
    split at h
    next s₁ hall =>
      obtain ⟨-, rfl⟩ := Prod.mk.inj h
      simpa only [Session.client_foldl_note, Session.client_note] using accepted_of_uploadAll hall
    next => cases h

end Endpoint

end Accepted

/-! ## Recording clients that throttle -/

namespace RecordingClient

/-- The client after some calls that it throttled. -/
def afterThrottled (c : RecordingClient) (count : Nat) : RecordingClient :=
  { c with calls := c.calls + count, throttleRemaining := c.throttleRemaining - count }

/-- The client after some uploads that it kept. -/
def afterUploads (c : RecordingClient) (batches : List (List Json)) : RecordingClient :=
  { c with calls := c.calls + batches.length, uploads := c.uploads ++ batches }

@[simp] lemma afterThrottled_zero (c : RecordingClient) : c.afterThrottled 0 = c := rfl

@[simp] lemma afterThrottled_afterThrottled (c : RecordingClient) (j k : Nat) :
    (c.afterThrottled j).afterThrottled k = c.afterThrottled (j + k) := by
  simp [afterThrottled, Nat.add_assoc, Nat.sub_sub]

@[simp] lemma afterUploads_afterUploads (c : RecordingClient) (batches more : List (List Json)) :
    (c.afterUploads batches).afterUploads more = c.afterUploads (batches ++ more) := by
  simp [afterUploads, Nat.add_assoc]

lemma upload_of_throttled {c : RecordingClient} (h : 0 < c.throttleRemaining)
    (batch : List Json) :
    SearchClient.upload batch c = (.error (throttledOn (c.calls + 1)), c.afterThrottled 1) := by
  obtain ⟨remaining, hremaining⟩ := Nat.exists_eq_add_one.2 h
  simp [SearchClient.upload, upload, handle, afterThrottled, hremaining]

lemma exists_upload_of_free {c : RecordingClient} (h : c.throttleRemaining = 0)
    (batch : List Json) :
    ∃ answer, SearchClient.upload batch c = (.ok answer, c.afterUploads [batch]) := by
  simp [SearchClient.upload, upload, handle, afterUploads, h]

/-- A recording client keeps what it accepts. -/
lemma uploads_of_accepted {batches : List (List Json)} {c c' : RecordingClient}
    (h : Accepted batches c c') : c'.uploads = c.uploads ++ batches := by
  induction h with
  | done c => exact (List.append_nil _).symm
  | @throttled batch rest error c c₁ c₂ hupload _ _ ih =>
    have hthrottled : 0 < c.throttleRemaining := by
      by_contra hfree
      obtain ⟨answer, hkept⟩ := exists_upload_of_free (Nat.eq_zero_of_not_pos hfree) batch
      exact nomatch hkept.symm.trans hupload
    rw [upload_of_throttled hthrottled] at hupload
    obtain ⟨-, rfl⟩ := Prod.mk.inj hupload
    exact ih
  | @accepted batch rest answer c c₁ c₂ hupload _ ih =>
    have hfree : c.throttleRemaining = 0 := by
      by_contra hthrottled
      exact nomatch (upload_of_throttled (Nat.pos_of_ne_zero hthrottled) batch).symm.trans hupload
    obtain ⟨answer, hkept⟩ := exists_upload_of_free hfree batch
    obtain ⟨-, rfl⟩ := Prod.mk.inj (hkept.symm.trans hupload)
    rw [ih, afterUploads, List.append_assoc, List.singleton_append]

end RecordingClient

open RecordingClient

section Recording

variable {policy : RetryPolicy} {name : String} {batch : List Json} {left : Nat}
  {s : Session RecordingClient}

/-- An upload whose attempts outlast the throttling is kept. -/
lemma exists_attempt_of_le (failures : Nat) (h : s.client.throttleRemaining ≤ left) :
    ∃ answer t, policy.attempt name (Session.upload batch) left failures s = (.ok answer, t) ∧
      t.client = (s.client.afterThrottled s.client.throttleRemaining).afterUploads [batch] := by
  -- by the calls that are still throttled: an attempt that fails uses up one of them
  induction hremaining : s.client.throttleRemaining generalizing left failures s with
  | zero =>
    obtain ⟨answer, hupload⟩ := exists_upload_of_free hremaining batch
    exact ⟨answer, _, RetryPolicy.attempt_of_ok (Session.upload_of_eq hupload), rfl⟩
  | succ remaining ih =>
    have hthrottled := upload_of_throttled (c := s.client) (by omega) batch
    obtain ⟨fewer, rfl⟩ := Nat.exists_eq_add_one.2 (show 0 < left by omega)
    rw [RetryPolicy.attempt_succ_of_transient (Session.upload_of_eq hthrottled) rfl]
    generalize ht : Session.pause _ _ = t
    have hclient : t.client = s.client.afterThrottled 1 := by
      rw [← ht, Session.client_pause, Session.client_note]
    have hleft : t.client.throttleRemaining = remaining := by
      rw [hclient, afterThrottled, hremaining, Nat.add_one_sub_one]
    have hle : t.client.throttleRemaining ≤ fewer := by omega
    obtain ⟨answer, u, hattempt, hu⟩ := ih (failures + 1) hle hleft
    refine ⟨answer, u, hattempt, ?_⟩
    rw [hu, hclient, afterThrottled_afterThrottled, Nat.add_comm]

/-- An upload whose attempts are used up while the client still throttles is given up. -/
lemma exists_attempt_of_lt (failures : Nat) (h : left < s.client.throttleRemaining) :
    ∃ t, policy.attempt name (Session.upload batch) left failures s =
        (.error (throttledOn (s.client.calls + (left + 1))), t) ∧
      t.client = s.client.afterThrottled (left + 1) := by
  have hthrottled := upload_of_throttled (Nat.zero_lt_of_lt h) batch
  -- by the attempts that are left: each of them is throttled, the last one as well
  induction left generalizing failures s with
  | zero =>
    exact ⟨_, RetryPolicy.attempt_zero_of_transient (Session.upload_of_eq hthrottled) rfl, rfl⟩
  | succ left ih =>
    rw [RetryPolicy.attempt_succ_of_transient (Session.upload_of_eq hthrottled) rfl]
    generalize ht : Session.pause _ _ = t
    have hclient : t.client = s.client.afterThrottled 1 := by
      rw [← ht, Session.client_pause, Session.client_note]
    have hleft : left < t.client.throttleRemaining := by
      rw [hclient, afterThrottled]
      exact Nat.lt_sub_of_add_lt h
    obtain ⟨u, hattempt, hu⟩ :=
      ih (failures + 1) hleft (upload_of_throttled (Nat.zero_lt_of_lt hleft) batch)
    refine ⟨u, ?_, ?_⟩
    · rw [hattempt, hclient, afterThrottled, Nat.add_assoc, Nat.add_comm 1]
    · rw [hu, hclient, afterThrottled_afterThrottled, Nat.add_comm 1]

namespace Endpoint

variable {e : Endpoint} {batches : List (List Json)}

/-- How often an operation is tried at most. -/
def attempts (e : Endpoint) : Nat := max 1 e.retry.maxAttempts

lemma maxAttempts_sub_one (e : Endpoint) : e.retry.maxAttempts - 1 + 1 = e.attempts := by
  rw [attempts]
  omega

lemma exists_upload_of_lt (batch : List Json)
    (h : s.client.throttleRemaining < e.attempts) :
    ∃ answer t, e.upload batch s = (.ok answer, t) ∧
      t.client = (s.client.afterThrottled s.client.throttleRemaining).afterUploads [batch] := by
  rw [← maxAttempts_sub_one] at h
  exact exists_attempt_of_le 0 (Nat.le_of_lt_succ h)

lemma exists_upload_of_le (batch : List Json)
    (h : e.attempts ≤ s.client.throttleRemaining) :
    ∃ t, e.upload batch s = (.error (throttledOn (s.client.calls + e.attempts)), t) ∧
      t.client = s.client.afterThrottled e.attempts := by
  rw [← maxAttempts_sub_one] at h ⊢
  exact exists_attempt_of_lt 0 h

/-- A batch that was kept has used up the throttling, so the first batch decides. -/
lemma exists_uploadAll_of_lt (hne : batches ≠ [])
    (h : s.client.throttleRemaining < e.attempts) :
    ∃ t, e.uploadAll batches s = (.ok (), t) ∧
      t.client = (s.client.afterThrottled s.client.throttleRemaining).afterUploads batches := by
  induction batches generalizing s with
  | nil => exact absurd rfl hne
  | cons batch rest ih =>
    obtain ⟨answer, t, hupload, ht⟩ := exists_upload_of_lt batch h
    rw [uploadAll, hupload]
    cases rest with
    | nil => exact ⟨t, rfl, ht⟩
    | cons next rest =>
      -- nothing is throttled any more, so that the hypothesis holds for the rest
      have hfree : t.client.throttleRemaining = 0 := by
        rw [ht]
        exact Nat.sub_self _
      obtain ⟨u, hall, hu⟩ := ih (List.cons_ne_nil next rest) (s := t) (by omega)
      refine ⟨u, hall, ?_⟩
      rw [hu, hfree, ht, afterThrottled_zero, afterUploads_afterUploads]
      rfl

lemma exists_uploadAll_of_le (hne : batches ≠ [])
    (h : e.attempts ≤ s.client.throttleRemaining) :
    ∃ t, e.uploadAll batches s = (.error (throttledOn (s.client.calls + e.attempts)), t) ∧
      t.client = s.client.afterThrottled e.attempts := by
  obtain ⟨batch, rest, rfl⟩ := List.exists_cons_of_ne_nil hne
  obtain ⟨t, hupload, ht⟩ := exists_upload_of_le batch h
  refine ⟨t, ?_, ht⟩
  rw [uploadAll, hupload]

variable (operation : Operation) {envelopes : List Json}

lemma publishAll_of_oversized {envelope : Json}
    (h : Batches.oversized? e.maxPayload envelopes = some envelope) :
    e.publishAll operation envelopes s =
      (.error (.payloadTooLarge envelope.encodedSize e.maxPayload), s) := by
  rw [publishAll, Batches.split_of_oversized h]

lemma publishAll_nil :
    e.publishAll operation [] s = (.ok (), s.note (.uploaded e.engine operation 0)) := by
  rw [publishAll, Batches.split_nil]
  rfl

lemma exists_publishAll_of_lt {b : Batches} (hsplit : Batches.split e.maxPayload envelopes = .ok b)
    (hne : envelopes ≠ []) (h : s.client.throttleRemaining < e.attempts) :
    ∃ t, e.publishAll operation envelopes s = (.ok (), t) ∧
      t.client = (s.client.afterThrottled s.client.throttleRemaining).afterUploads b.batches := by
  have hbatches : b.batches ≠ [] := (Batches.holds_of_split hsplit).batches_ne_nil hne
  rw [publishAll, hsplit]
  dsimp only
  generalize hs : List.foldl _ s b.cuts = s₁
  have hclient : s₁.client = s.client := hs ▸ Session.client_foldl_note _ _ _
  obtain ⟨t, hall, ht⟩ := exists_uploadAll_of_lt hbatches (hclient.symm ▸ h)
  rw [hclient] at ht
  refine ⟨t.note (.uploaded e.engine operation envelopes.length), ?_, ht⟩
  rw [hall]

lemma exists_publishAll_of_le {b : Batches} (hsplit : Batches.split e.maxPayload envelopes = .ok b)
    (hne : envelopes ≠ []) (h : e.attempts ≤ s.client.throttleRemaining) :
    ∃ t, e.publishAll operation envelopes s =
        (.error (.client (throttledOn (s.client.calls + e.attempts))), t) ∧
      t.client = s.client.afterThrottled e.attempts := by
  have hbatches : b.batches ≠ [] := (Batches.holds_of_split hsplit).batches_ne_nil hne
  rw [publishAll, hsplit]
  dsimp only
  generalize hs : List.foldl _ s b.cuts = s₁
  have hclient : s₁.client = s.client := hs ▸ Session.client_foldl_note _ _ _
  obtain ⟨t, hall, ht⟩ := exists_uploadAll_of_le hbatches (hclient.symm ▸ h)
  rw [hclient] at hall ht
  refine ⟨t, ?_, ht⟩
  rw [hall]

/-- Everything has arrived.  The client has kept the batches of the envelopes after what it had
kept before, and was called once for every batch and for every call that it throttled; without
envelopes it was not called. -/
def Delivered (e : Endpoint) (envelopes : List Json) (c : RecordingClient)
    (answer : Except SearchError Unit) (c' : RecordingClient) : Prop :=
  answer = .ok () ∧ ∃ b, Batches.split e.maxPayload envelopes = .ok b ∧
    c' = if envelopes = [] then c else
      { c with
        uploads := c.uploads ++ b.batches
        calls := c.calls + c.throttleRemaining + b.batches.length
        throttleRemaining := 0 }

/-- An envelope is refused for its size, and the client was not called. -/
def Refused (e : Endpoint) (c : RecordingClient) (answer : Except SearchError Unit)
    (c' : RecordingClient) : Prop :=
  (∃ size, answer = .error (.payloadTooLarge size e.maxPayload)) ∧ c' = c

/-- The last attempt was throttled.  The client has kept nothing more and was called once for
every attempt. -/
def GivenUp (e : Endpoint) (c : RecordingClient) (answer : Except SearchError Unit)
    (c' : RecordingClient) : Prop :=
  answer = .error (.client (throttledOn (c.calls + e.attempts))) ∧
    c' = { c with
      calls := c.calls + e.attempts
      throttleRemaining := c.throttleRemaining - e.attempts }

section Outcomes

variable {c c' : RecordingClient} {answer : Except SearchError Unit}

lemma Delivered.not_refused (h : e.Delivered envelopes c answer c') : ¬ e.Refused c answer c' := by
  rintro ⟨⟨size, hanswer⟩, -⟩
  exact nomatch h.1.symm.trans hanswer

lemma Delivered.not_givenUp (h : e.Delivered envelopes c answer c') : ¬ e.GivenUp c answer c' := by
  rintro ⟨hanswer, -⟩
  exact nomatch h.1.symm.trans hanswer

lemma Refused.not_givenUp (h : e.Refused c answer c') : ¬ e.GivenUp c answer c' := by
  rintro ⟨hanswer, -⟩
  obtain ⟨size, hsize⟩ := h.1
  exact nomatch hsize.symm.trans hanswer

end Outcomes

/-- An envelope over the limit has the publication refused. -/
lemma refused_publishAll (h : ∃ envelope ∈ envelopes, e.maxPayload < envelope.encodedSize) :
    e.Refused s.client (e.publishAll operation envelopes s).1
      (e.publishAll operation envelopes s).2.client := by
  have hsome : Batches.oversized? e.maxPayload envelopes ≠ none := by
    rw [Ne, Batches.oversized?_eq_none_iff]
    push Not
    exact h
  obtain ⟨envelope, hlarge⟩ := Option.ne_none_iff_exists'.1 hsome
  rw [publishAll_of_oversized operation hlarge]
  exact ⟨⟨_, rfl⟩, rfl⟩

/-- Envelopes within the limit arrive if the attempts outlast the throttling. -/
lemma delivered_publishAll (hfit : ∀ envelope ∈ envelopes, envelope.encodedSize ≤ e.maxPayload)
    (h : envelopes ≠ [] → s.client.throttleRemaining < e.attempts) :
    e.Delivered envelopes s.client (e.publishAll operation envelopes s).1
      (e.publishAll operation envelopes s).2.client := by
  obtain ⟨b, hsplit, -⟩ := Batches.exists_holds hfit
  rcases eq_or_ne envelopes [] with rfl | hne
  · rw [publishAll_nil]
    exact ⟨rfl, b, hsplit, by rw [if_pos rfl, Session.client_note]⟩
  · obtain ⟨t, hpublish, ht⟩ := exists_publishAll_of_lt operation hsplit hne (h hne)
    rw [hpublish]
    refine ⟨rfl, b, hsplit, ?_⟩
    rw [if_neg hne, ht, afterUploads, afterThrottled, Nat.sub_self]

/-- Envelopes within the limit are given up if the attempts do not outlast the throttling. -/
lemma givenUp_publishAll (hfit : ∀ envelope ∈ envelopes, envelope.encodedSize ≤ e.maxPayload)
    (hne : envelopes ≠ []) (h : e.attempts ≤ s.client.throttleRemaining) :
    e.GivenUp s.client (e.publishAll operation envelopes s).1
      (e.publishAll operation envelopes s).2.client := by
  obtain ⟨b, hsplit, -⟩ := Batches.exists_holds hfit
  obtain ⟨t, hpublish, ht⟩ := exists_publishAll_of_le operation hsplit hne h
  rw [hpublish]
  exact ⟨rfl, ht⟩

/-- On a client that throttles the next calls publishing is all or nothing: every envelope arrives
in its order and once, or none does.  It is refused exactly when an envelope alone is over the
limit, and given up exactly when there is something to send and the attempts do not outlast
the throttling. -/
theorem publishAll_all_or_nothing (e : Endpoint) (operation : Operation) (envelopes : List Json)
    (s : Session RecordingClient) :
    let answer := (e.publishAll operation envelopes s).1
    let c' := (e.publishAll operation envelopes s).2.client
    (e.Delivered envelopes s.client answer c' ∨ e.Refused s.client answer c' ∨
      e.GivenUp s.client answer c') ∧
    (e.Refused s.client answer c' ↔
      ∃ envelope ∈ envelopes, e.maxPayload < envelope.encodedSize) ∧
    (e.GivenUp s.client answer c' ↔
      envelopes ≠ [] ∧ (∀ envelope ∈ envelopes, envelope.encodedSize ≤ e.maxPayload) ∧
        e.attempts ≤ s.client.throttleRemaining) := by
  intro answer c'
  by_cases hlarge : ∃ envelope ∈ envelopes, e.maxPayload < envelope.encodedSize
  · have hrefused : e.Refused s.client answer c' := refused_publishAll operation hlarge
    refine ⟨.inr (.inl hrefused), iff_of_true hrefused hlarge,
      iff_of_false hrefused.not_givenUp ?_⟩
    rintro ⟨-, hfit, -⟩
    obtain ⟨envelope, hmem, hlarge⟩ := hlarge
    exact Nat.not_le_of_lt hlarge (hfit envelope hmem)
  have hfit : ∀ envelope ∈ envelopes, envelope.encodedSize ≤ e.maxPayload := by
    intro envelope hmem
    exact Nat.le_of_not_lt fun hlt => hlarge ⟨envelope, hmem, hlt⟩
  by_cases hsent : envelopes ≠ [] → s.client.throttleRemaining < e.attempts
  · have hdelivered : e.Delivered envelopes s.client answer c' :=
      delivered_publishAll operation hfit hsent
    refine ⟨.inl hdelivered, iff_of_false hdelivered.not_refused hlarge,
      iff_of_false hdelivered.not_givenUp ?_⟩
    rintro ⟨hne, -, hle⟩
    exact Nat.not_le_of_lt (hsent hne) hle
  · obtain ⟨hne, hnot⟩ := Classical.not_imp.1 hsent
    have hle : e.attempts ≤ s.client.throttleRemaining := Nat.le_of_not_lt hnot
    have hgivenUp : e.GivenUp s.client answer c' := givenUp_publishAll operation hfit hne hle
    exact ⟨.inr (.inr hgivenUp), iff_of_false (fun h => h.not_givenUp hgivenUp) hlarge,
      iff_of_true hgivenUp ⟨hne, hfit, hle⟩⟩

end Endpoint

end Recording

end SearchGateway
