import ClusterEvidence.Json.Printer
import ClusterEvidence.Json.Record

/-!
# Resources

A resource is something to fetch: the URI that the API server is asked for, the key under which
the answer is stored, and a filter for it. Without a key of its own a resource is stored under its
URI, and an empty filter leaves the answer as it is.
-/

namespace ClusterEvidence

/-- A cluster object to collect. -/
structure Resource where
  /-- The URI that is requested. -/
  uri : String
  /-- The key under which the answer is stored. -/
  dumpPath : String
  /-- The filter that the answer passes; empty for none. -/
  filter : String
  deriving DecidableEq, Repr

namespace Resource

/-- A resource stored under its own URI, without a filter. -/
def plain (uri : String) : Resource := ⟨uri, uri, ""⟩

/-- Whether the answer passes a filter. -/
def hasFilter (resource : Resource) : Bool := resource.filter ≠ ""

/-- A resource as a JSON object, its fields in the order of their declaration; an empty filter is
left out. -/
def toJson (resource : Resource) : Json :=
  .object ([("obj_path", .string resource.uri), ("dump_path", .string resource.dumpPath)] ++
    if resource.hasFilter then [("filter", .string resource.filter)] else [])

/-- The record that a resource is read from. -/
def decoder : Json.Decoder Resource :=
  Json.Decoder.record ["obj_path", "dump_path", "filter"] fun fields => do
    let uri ← fields.get "obj_path" Json.Decoder.string
    let dumpPath ← fields.get "dump_path" Json.Decoder.string
    let filter ← fields.getD "filter" Json.Decoder.string ""
    .ok ⟨uri, dumpPath, filter⟩

/-- Reads a resource. -/
def read (bytes : Bytes) : Except Json.Fault Resource := decoder.read bytes

end Resource

end ClusterEvidence
