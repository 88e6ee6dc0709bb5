import ClusterEvidence.Cluster.Basic
import ClusterEvidence.Http.Url
import ClusterEvidence.Json.Record

/-!
# A cluster behind HTTP

A client asks a server for URIs below a base URL. A status from 200 to 299 is success; of the others
404 is a missing object, 403 is denied access, and all of them carry the message of a `Status`
object if the body is one. A collection is only missing when its kind is not served.

The server is a function from requests to responses over a state. A URL that cannot be read or has
no host and a token that cannot be sent fail without a request, and so does a URL of another scheme
than those of HTTP.
-/

namespace ClusterEvidence.Http

/-- A request to a server. -/
structure Request where
  url : Url
  /-- The media type that is asked for. -/
  accept : String
  /-- The credentials. -/
  authorization? : Option String
  deriving DecidableEq, Repr

/-- A final response of a server. -/
structure Response where
  status : Nat
  body : Bytes

/-- A server whose state is `σ`, which may be out of reach. -/
abbrev Server (σ : Type) := Request → StateM σ (Except String Response)

/-! ## Bodies -/

/-- What a failed request says about its failure. -/
structure Status where
  reason : String
  message : String

/-- A `Status` object. -/
def Status.decoder : Json.Decoder Status :=
  Json.Decoder.record ["reason", "message"] fun fields => do
    let reason ← fields.getD "reason" Json.Decoder.string ""
    let message ← fields.getD "message" Json.Decoder.string ""
    .ok ⟨reason, message⟩

/-- The `Status` object in a body. -/
def Status.read? (body : Bytes) : Option Status := (Status.decoder.read body).toOption

/-- The message of a failed request: that of its `Status` object, or else its body. -/
def failureMessage (body : Bytes) : String :=
  match Status.read? body with
  | some ⟨_, message⟩ => if message = "" then bodyText else message
  | none => bodyText
where
  /-- The body as text, whatever it is. -/
  bodyText : String := String.ofList (Text.trim (Text.decodeLossy body))

/-- The reason of a missing object. -/
def missingReason (body : Bytes) : String :=
  match Status.read? body with
  | some ⟨reason, _⟩ => if reason = "" then "NotFound" else reason
  | none => "NotFound"

/-- The failure that an unsuccessful status and its body mean. -/
def statusFailure (code : Nat) (body : Bytes) : Cluster.Failure :=
  let message := failureMessage body
  if code = 404 then .notFound (missingReason body) message
  else if code = 403 then .forbidden message
  else .status code message

/-- Whether a status means success. -/
def isSuccess (code : Nat) : Bool := 200 ≤ code && code < 300

/-- The body of a response. Two statuses say that there is none, whatever a server sends. -/
def Response.content (response : Response) : Bytes :=
  if response.status = 204 || response.status = 304 then [] else response.body

/-- The body of a successful response. -/
def Response.result (response : Response) : Except Cluster.Failure Bytes :=
  if isSuccess response.status then .ok response.content
  else .error (statusFailure response.status response.content)

/-- A node in a list of nodes. -/
def nodeDecoder : Json.Decoder Node :=
  Json.Decoder.record ["metadata"] fun fields => fields.get "metadata" <|
    Json.Decoder.record ["name", "labels"] fun fields => do
      let name ← fields.get "name" Json.Decoder.string
      let labels ← fields.getD "labels" (Json.Decoder.keyed Json.Decoder.string) .empty
      .ok ⟨name, labels⟩

/-- A list of nodes. -/
def nodesDecoder : Json.Decoder (List Node) :=
  Json.Decoder.record ["items"] fun fields =>
    fields.getD "items" (Json.Decoder.list nodeDecoder) []

/-- The token in the metadata of a page; an empty one means that there is no other page. -/
def tokenDecoder : Json.Decoder (Option String) :=
  Json.Decoder.record ["continue"] fun fields => do
    let token ← fields.getD "continue" (Json.Decoder.nullable Json.Decoder.string) none
    .ok (token.filter (· ≠ ""))

/-- A page of a collection. -/
def pageDecoder : Json.Decoder Cluster.Page :=
  Json.Decoder.record ["metadata", "items"] fun fields => do
    let token ← fields.getD "metadata" tokenDecoder none
    let items ← fields.getD "items" (Json.Decoder.list Json.Decoder.json) []
    .ok ⟨items, token⟩

/-- Reads a body with a decoder. -/
def decodeBody {α : Type} (decoder : Json.Decoder α) (body : Bytes) :
    Except Cluster.Failure α :=
  (decoder.read body).mapError fun fault => .decode fault.message

/-! ## The client -/

/-- What a client needs to know. -/
structure Client where
  /-- What every URI is put behind. -/
  base : String
  token? : Option String
  deriving DecidableEq, Repr

namespace Client

variable {σ : Type}

/-- A client of a base URL, slashes at whose end do not count. -/
def ofBase (base : String) (token : Option String) : Client :=
  ⟨String.ofList (base.toList.reverse.dropWhile (· == '/')).reverse, token⟩

/-- Whether a text can stand in the header of a request, which has no control characters but
tabs. -/
def isHeaderText (text : String) : Bool :=
  text.toList.all fun c => c == '\t' || (' ' ≤ c && c != '\x7f')

/-- How long the text of a URL that is asked for may be, in bytes. -/
def maxUrlSize : Nat := 65534

/-- The failure of a request that cannot be made, for a URL if there is one. -/
def unsent (cause : String) (url? : Option Url) : Cluster.Failure :=
  let url? := url?.map Url.text
  let place := (url?.map fun text => " for url (" ++ text ++ ")").getD ""
  .transport ("builder error" ++ place ++ ": " ++ cause) url?

/-- The request for a URI. The parameters are added only to a URL that has a host. -/
def request (client : Client) (uri : String) (parameters : List (String × String)) :
    Except Cluster.Failure Request :=
  match Url.read (client.base ++ uri) with
  | none => .error (unsent "relative URL without a base" none)
  | some url =>
      let full := url.withoutCredentials.withParameters parameters
      if !url.hasHost then .error (unsent "URL scheme is not allowed" (some url))
      else if !client.token?.all isHeaderText then
        .error (unsent "failed to parse header value" none)
      else if url.scheme ≠ "http" && url.scheme ≠ "https" then
        .error (unsent "URL scheme is not allowed" (some full))
      else if maxUrlSize < full.text.utf8ByteSize then
        .error (unsent "Parsed Url is not a valid Uri" (some full))
      else .ok ⟨full, "application/json", client.token?.map ("Bearer " ++ ·)⟩

/-- Asks a server for a URI. -/
def get (client : Client) (server : Server σ) (uri : String)
    (parameters : List (String × String)) : StateM σ (Except Cluster.Failure Bytes) := do
  match client.request uri parameters with
  | .error failure => return .error failure
  | .ok request =>
      match ← server request with
      | .error detail => return .error (.transport detail (some request.url.text))
      | .ok response => return response.result

/-- The parameters of the request for a page. -/
def pageParameters (limit : Nat) (token : Option String) : List (String × String) :=
  ("limit", toString limit) :: (token.map fun token => ("continue", token)).toList

/-- The failure of a collection for the failure of its URI. -/
def collectionFailure : Cluster.Failure → Cluster.Failure
  | .notFound _ message => .noKindMatch message
  | failure => failure

/-- The cluster that a client reaches, of whose listings none has more pages than given. -/
def cluster (client : Client) (server : Server σ) (pageLimit : Nat) : Cluster σ where
  listNodes := do
    return (← client.get server "/api/v1/nodes" []).bind (decodeBody nodesDecoder)
  getRaw := fun uri => client.get server uri []
  listPage := fun uri limit token => do
    let body ← client.get server uri (pageParameters limit token)
    return (body.mapError collectionFailure).bind (decodeBody pageDecoder)
  pageLimit := pageLimit

end Client

end ClusterEvidence.Http
