import ClusterEvidence.Error
import ClusterEvidence.Json.Pointer
import ClusterEvidence.Json.Printer
import ClusterEvidence.Json.Reader

/-!
# Machine configurations

A machine configuration embeds an Ignition configuration under `spec.config`, as an object or, in
older objects, as the JSON text of one. Its files are large and of no use as evidence, so they are
left out (`trim`): the member `files` of the member `storage`. An object stays an object and a text
a text; a missing, null or blank configuration is left as it is.
-/

namespace ClusterEvidence.MachineConfig

/-- The collection of all machine configurations. -/
def collectionUri : String := "/apis/machineconfiguration.openshift.io/v1/machineconfigs"

/-- The place of the name. -/
def namePath : List String := ["metadata", "name"]

/-- The place of the Ignition configuration. -/
def configPath : List String := ["spec", "config"]

/-- The name of a machine configuration, empty when it has none. -/
def name (item : Json) : String :=
  ((Json.Pointer.follow? namePath item).bind Json.asString?).getD ""

/-- The members of an Ignition configuration without the files of its storage. -/
def withoutFiles (members : List (String × Json)) : List (String × Json) :=
  match Entries.get? "storage" members with
  | some (.object storage) =>
      Entries.insert "storage" (.object (Entries.erase "files" storage)) members
  | _ => members

/-- An Ignition configuration without its files. -/
def stripFiles : Json → Except IgnitionFault Json
  | .object members => .ok (.object (withoutFiles members))
  | _ => .error .notObject

/-- The trimmed form of what stands under `spec.config`. -/
def trimConfig : Json → Except IgnitionFault Json
  | .object members => stripFiles (.object members)
  | .null => .ok .null
  | .string text =>
      if (Text.trim text.toList).isEmpty then .ok (.string text)
      else
        match Json.readString text with
        | .error fault => .error (.malformed fault)
        | .ok ignition => (stripFiles ignition).map fun stripped => .string stripped.compactString
  | value => .error (.unexpected value.compactString)

/-- A machine configuration without the files of its Ignition configuration. -/
def trim (item : Json) : Except Error Json :=
  match Json.Pointer.follow? configPath item with
  | none => .ok item
  | some config =>
      match trimConfig config with
      | .error fault => .error (.machineConfig (name item) fault)
      | .ok trimmed => .ok (Json.Pointer.update (fun _ => trimmed) configPath item)

/-! ## In place

A machine configuration can be trimmed where it is. What has been changed by the time of a failure
would then stay changed. -/

/-- Changes a value where it is, and may fail. -/
abbrev Editing := ExceptT Error (StateM Json) Unit

/-- Edits what stands at a place, if anything does. -/
def editAt (path : List String) (edit : Editing) : Editing :=
  ExceptT.mk fun value =>
    match Json.Pointer.follow? path value with
    | none => (.ok (), value)
    | some found =>
        let (result, edited) := edit.run found
        (result, Json.Pointer.update (fun _ => edited) path value)

/-- An object without a member; anything else as it is. -/
def dropMember (key : String) : Json → Json
  | .object members => .object (Entries.erase key members)
  | value => value

/-- Drops the files of an Ignition configuration. -/
def stripFilesInPlace (name : String) : Editing := do
  match ← get with
  | .object _ => editAt ["storage"] (modify (dropMember "files"))
  | _ => throw (.machineConfig name .notObject)

/-- Trims what stands under `spec.config`. The value of a text is edited apart from the text, which
is written anew at the end. -/
def trimConfigInPlace (name : String) : Editing := do
  match ← get with
  | .object _ => stripFilesInPlace name
  | .null => pure ()
  | .string text =>
      if (Text.trim text.toList).isEmpty then pure ()
      else
        match Json.readString text with
        | .error fault => throw (.machineConfig name (.malformed fault))
        | .ok ignition =>
            let (result, stripped) := (stripFilesInPlace name).run ignition
            match result with
            | .error e => throw e
            | .ok () => set (Json.string stripped.compactString)
  | value => throw (.machineConfig name (.unexpected value.compactString))

/-- Trims a machine configuration in its place. -/
def trimInPlace : Editing := do
  let item ← get
  editAt configPath (trimConfigInPlace (name item))

/-- The list of machine configurations as one document. -/
def list (items : List Json) : Json :=
  .object
    [("apiVersion", .string "machineconfiguration.openshift.io/v1"),
      ("items", .array items),
      ("kind", .string "MachineConfigList"),
      ("metadata", .object [])]

end ClusterEvidence.MachineConfig
