import ClusterEvidence.Json.Token

/-!
# JSON text as written

The tree of a JSON text before its values are wanted: members stand in the order of the text, a
key may occur twice, and a literal without a value is still a tree. It is built from the tokens by
one left-to-right pass over a stack of open arrays and objects, so nesting is not limited here.

A whole value is made from it by `Json.ofWritten`, a record with declared fields by
`Written.fields`.
-/

namespace ClusterEvidence.Json

/-- A JSON text as a tree. -/
inductive Written where
  | null
  | bool (value : Bool)
  | number (value : Option Number)
  | string (value : Option String)
  | array (items : List Written)
  | object (members : List (Option String × Written))
  deriving Repr, Inhabited

namespace Written

/-! ## The pass over the tokens -/

/-- An array or object that is still open, with what it holds so far, last first. An object also
knows the key whose value comes next. -/
inductive Frame where
  | array (done : List Written)
  | object (done : List (Option String × Written)) (key : Option String)

/-- What the text may go on with. -/
inductive Demand where
  /-- A value. -/
  | value
  /-- A value or the end of an array that has just been opened. -/
  | valueOrClose
  /-- A key of an object with these members, last first. -/
  | key (done : List (Option String × Written))
  /-- A key or the end of an object that has just been opened. -/
  | keyOrClose
  /-- The colon after a key. -/
  | colon (done : List (Option String × Written)) (key : Option String)
  /-- A comma or an end after this value, or nothing if no frame is open. -/
  | after (value : Written)

/-- The open frames, innermost first, and the demand. -/
structure State where
  frames : List Frame
  demand : Demand

/-- The value that a token is by itself. -/
def scalar? : Token → Option Written
  | .null => some .null
  | .bool b => some (.bool b)
  | .number n => some (.number n)
  | .string s => some (.string s)
  | _ => none

/-- Reads a token where a value may stand. -/
def State.value? (frames : List Frame) : Token → Option State
  | .openArray => some ⟨.array [] :: frames, .valueOrClose⟩
  | .openObject => some ⟨frames, .keyOrClose⟩
  | token => (scalar? token).map fun value => ⟨frames, .after value⟩

/-- Reads a token after a value that stands in the innermost frame. -/
def State.after? (value : Written) : List Frame → Token → Option State
  | .array done :: frames, .comma => some ⟨.array (value :: done) :: frames, .value⟩
  | .array done :: frames, .closeArray =>
      some ⟨frames, .after (.array (value :: done).reverse)⟩
  | .object done key :: frames, .comma => some ⟨frames, .key ((key, value) :: done)⟩
  | .object done key :: frames, .closeObject =>
      some ⟨frames, .after (.object ((key, value) :: done).reverse)⟩
  | _, _ => none

/-- Reads one token. -/
def State.step? (state : State) (token : Token) : Option State :=
  match state.demand, token with
  | .value, token => State.value? state.frames token
  | .valueOrClose, .closeArray =>
      match state.frames with
      | .array [] :: frames => some ⟨frames, .after (.array [])⟩
      | _ => none
  | .valueOrClose, token => State.value? state.frames token
  | .key done, .string key => some ⟨state.frames, .colon done key⟩
  | .keyOrClose, .string key => some ⟨state.frames, .colon [] key⟩
  | .keyOrClose, .closeObject => some ⟨state.frames, .after (.object [])⟩
  | .colon done key, .colon => some ⟨.object done key :: state.frames, .value⟩
  | .after value, token => State.after? value state.frames token
  | _, _ => none

/-- The tree of a list of tokens that is one value. -/
def ofTokens? (tokens : List Token) : Option Written :=
  match tokens.foldlM State.step? ⟨[], .value⟩ with
  | some ⟨[], .after value⟩ => some value
  | _ => none

/-- The tree of a text. -/
def read (bytes : Bytes) : Except Fault Written :=
  match (Token.all? bytes).bind ofTokens? with
  | some tree => .ok tree
  | none => .error .malformed

end Written

end ClusterEvidence.Json
