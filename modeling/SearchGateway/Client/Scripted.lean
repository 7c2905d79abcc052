import SearchGateway.Client.Recording

/-!
# Scripted clients

A recording client behind a script.  The script says call by call whether an error is
answered at once, without the recording client, or whether the call goes through, in the
case of a search perhaps with a response of its own.  When the script is at its end every
call goes through.
-/
namespace SearchGateway

/-- What a script says about a call. -/
inductive Cue where
  /-- The call goes through. -/
  | pass
  /-- The call goes through, and a search is answered with this response. -/
  | respond (response : Json)
  /-- The call fails. -/
  | fail (error : ClientError)
deriving Inhabited

/-- A recording client behind a script. -/
structure ScriptedClient where
  recorder : RecordingClient
  script : List Cue
  /-- How many calls have been made, also those that the script answered. -/
  calls : Nat
deriving Inhabited

namespace ScriptedClient

/-- A client that follows no script yet. -/
def ofRecorder (recorder : RecordingClient) : ScriptedClient := ⟨recorder, [], 0⟩

/-- Makes the script longer. -/
def extend (c : ScriptedClient) (cues : List Cue) : ScriptedClient :=
  { c with script := c.script ++ cues }

/-- Takes the next cue for a call; a call that goes through is handed on, and `replace` says
what becomes of its response when the script has one of its own. -/
def follow (c : ScriptedClient)
    (operation : RecordingClient → Response × RecordingClient)
    (replace : Json → Json → Json) : Response × ScriptedClient :=
  let cue := c.script.headD .pass
  let c := { c with script := c.script.tail, calls := c.calls + 1 }
  match cue with
  | .fail error => (.error error, c)
  | .pass =>
    let (response, recorder) := operation c.recorder
    (response, { c with recorder })
  | .respond own =>
    let (response, recorder) := operation c.recorder
    (response.map (replace · own), { c with recorder })

instance : SearchClient ScriptedClient where
  search request c := c.follow (RecordingClient.search request) fun _ own => own
  upload documents c := c.follow (RecordingClient.upload documents) fun response _ => response
  defineField definition c :=
    c.follow (RecordingClient.defineField definition) fun response _ => response

end ScriptedClient
end SearchGateway
