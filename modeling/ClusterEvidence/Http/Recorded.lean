import ClusterEvidence.Http.Client

/-!
# A recorded server

A server that answers from a recording. A request is answered by its target, path and query
together, or else by its path alone; what was not recorded does not exist. Requests to other servers
fail. The state is the log of all requests, in order.
-/

namespace ClusterEvidence.Http

/-- The answers of one server. -/
structure Recording where
  /-- The scheme, the host and the port of the server. -/
  address : String
  /-- The responses by target or path. -/
  responses : Keyed Response

namespace Recording

/-- The response to what was not recorded. -/
def missing : Response := ⟨404, Text.encodeString "404 page not found"⟩

/-- The response to a URL of the server. -/
def respond (recording : Recording) (url : Url) : Response :=
  ((recording.responses.get? url.target).or (recording.responses.get? url.path)).getD missing

/-- Whether a request is made to the server. -/
def isAsked (recording : Recording) (request : Request) : Bool :=
  request.url.server == recording.address

/-- The server of a recording. -/
def server (recording : Recording) : Server (List Request) := fun request log =>
  (if recording.isAsked request then .ok (recording.respond request.url)
    else .error ("error sending request for url (" ++ request.url.text ++ ")"),
    log ++ [request])

/-- The number of pages that no listing which ends exceeds: every answer but the last is recorded,
and none comes twice. -/
def pageLimit (recording : Recording) : Nat := recording.responses.size + 2

end Recording

end ClusterEvidence.Http
