import ClusterEvidence.Cluster.Basic

/-!
# A recorded cluster

A cluster that answers from a recording. Nodes and bodies are the same however often they are asked
for; pages are answered one after another, whatever the token. What was not recorded is answered
like an object that is missing or, past the last page, like a kind that is not served. The state is
the log of the requests made so far.
-/

namespace ClusterEvidence.Cluster

/-- A request to a cluster. -/
inductive Request where
  | listNodes
  | get (uri : String)
  | page (uri : String) (limit : Nat) (token : Option String)
  deriving DecidableEq, Repr

/-- A request as a line of a log. -/
def Request.text : Request → String
  | listNodes => "LIST nodes"
  | get uri => "GET " ++ uri
  | page uri limit token =>
      "PAGE " ++ uri ++ " limit=" ++ toString limit ++ " continue=" ++ token.getD "-"

/-- Whether a request asks for a page. -/
def Request.isPage : Request → Bool
  | page .. => true
  | _ => false

/-- The answers of a recorded cluster. -/
structure Recording where
  nodes : Except Failure (List Node)
  responses : Keyed (Except Failure Bytes)
  pages : List (Except Failure Page)

namespace Recording

/-- The answer to a URI. -/
def get (recording : Recording) (uri : String) : Except Failure Bytes :=
  (recording.responses.get? uri).getD (.error (.notFound "NotFound" (uri ++ " not found")))

/-- The answer to a page request after so many others. -/
def page (recording : Recording) (uri : String) (asked : Nat) : Except Failure Page :=
  recording.pages[asked]?.getD (.error (.noKindMatch uri))

/-- The cluster of a recording. -/
def cluster (recording : Recording) : Cluster (List Request) where
  listNodes := fun log => (recording.nodes, log ++ [.listNodes])
  getRaw := fun uri log => (recording.get uri, log ++ [.get uri])
  listPage := fun uri limit token log =>
    (recording.page uri (log.countP Request.isPage), log ++ [.page uri limit token])
  pageLimit := recording.pages.length + 1

end Recording

end ClusterEvidence.Cluster
