import ClusterEvidence.Text.Digits

/-!
# Arguments

A command line names a command and gives flags: some before the command, most after it. A flag is a
switch or takes a value, which follows it as the next argument, or after an equals sign, or, for a
flag of one letter, right away. Letters may be put together after one dash. A flag is given once at
most before the command and once after it.

A value that follows as an argument of its own is looked at only when the next flag of its side of
the command is read, or when that side ends. So what comes after a command is read before the value
in front of the command, and a request for help there is heard first.

The version is asked for only before the command, and ends the reading.
-/

namespace ClusterEvidence.CommandLine

/-! ## Flags -/

/-- What a flag takes. -/
inductive Kind where
  | switch
  /-- A path, which may not be empty. -/
  | path
  | text
  /-- An unsigned number of sixty-four bits. -/
  | number
  /-- The format of log lines. -/
  | format
  | version
  | help
  deriving DecidableEq, Repr

/-- A flag. -/
structure Flag where
  name : String
  letter? : Option Char
  kind : Kind
  deriving DecidableEq, Repr

/-- The flags that may be given anywhere. -/
def everywhere : List Flag :=
  [⟨"verbose", some 'v', .switch⟩, ⟨"log-format", none, .format⟩, ⟨"help", some 'h', .help⟩]

/-- The flags before a command. -/
def beforeCommand : List Flag := everywhere ++ [⟨"version", some 'V', .version⟩]

/-- The flags after a command. -/
def afterCommand : List Flag :=
  everywhere ++
    [⟨"config", some 'c', .path⟩, ⟨"content", none, .path⟩, ⟨"tailoring", none, .path⟩,
      ⟨"profile", none, .text⟩, ⟨"resultdir", none, .path⟩,
      ⟨"warnings-output-file", none, .path⟩, ⟨"content-timeout", none, .number⟩,
      ⟨"api-server", none, .text⟩, ⟨"token-file", none, .path⟩, ⟨"ca-file", none, .path⟩,
      ⟨"insecure-skip-tls-verify", none, .switch⟩]

/-- Why reading arguments stopped without a command to carry out. -/
inductive Stop where
  /-- The arguments are not used as they have to be. -/
  | usage
  | version
  | help
  deriving DecidableEq, Repr

/-- The number that a text writes, if it is one of sixty-four bits. -/
def number? (text : String) : Option Nat :=
  let digits := match text.toList with
    | '+' :: digits => digits
    | digits => digits
  (Text.natural? digits).filter (· < UInt64.size)

/-- Whether a flag takes a value. -/
def Flag.allows (flag : Flag) (value : String) : Bool :=
  match flag.kind with
  | .path => value != ""
  | .text => true
  | .number => (number? value).isSome
  | .format => value == "text" || value == "json"
  | .switch | .version | .help => false

/-- Whether a flag takes any value. -/
def Flag.takesValue (flag : Flag) : Bool :=
  match flag.kind with
  | .switch | .version | .help => false
  | _ => true

/-! ## Reading -/

/-- The flags that were given, by name, with their values; that of a switch is empty. -/
abbrev Given := List (String × String)

/-- What was read so far on one side of the command. -/
structure Reading where
  given : Given
  /-- The last flag whose value is an argument of its own, and the value once it was read. -/
  pending : Option (Flag × Option String)

namespace Reading

/-- The reading at its start. -/
def start : Reading := ⟨[], none⟩

/-- Notes a flag with its value, unless it was given before. -/
def note (reading : Reading) (flag : Flag) (value : String) : Except Stop Reading :=
  if (reading.given.lookup flag.name).isSome then .error .usage
  else .ok ⟨reading.given ++ [(flag.name, value)], none⟩

/-- Notes a flag whose value is given. -/
def noteValue (reading : Reading) (flag : Flag) (value : String) : Except Stop Reading :=
  if flag.allows value then reading.note flag value else .error .usage

/-- Notes the flag that is pending. -/
def settle (reading : Reading) : Except Stop Reading :=
  match reading.pending with
  | none => .ok reading
  | some (flag, some value) => reading.noteValue flag value
  | some (_, none) => .error .usage

/-- The flag whose value has to follow. -/
def awaiting (reading : Reading) : Option Flag :=
  match reading.pending with
  | some (flag, none) => some flag
  | _ => none

/-- Reads a flag whose value is part of its argument. -/
def attached (reading : Reading) (flag : Flag) (value : String) : Except Stop Reading := do
  let reading ← reading.settle
  reading.noteValue flag value

/-- Reads a flag that stands without a value. -/
def bare (reading : Reading) (flag : Flag) : Except Stop Reading := do
  let reading ← reading.settle
  match flag.kind with
  | .version => .error .version
  | .help => .error .help
  | .switch => reading.note flag ""
  | _ => .ok { reading with pending := some (flag, none) }

/-- Reads an argument after two dashes: a name, and a value if an equals sign follows. -/
def long (flags : List Flag) (reading : Reading) (text : List Char) :
    Except Stop Reading :=
  let name := String.ofList (text.takeWhile (· != '='))
  match flags.find? (·.name == name), text.dropWhile (· != '=') with
  | none, _ => .error .usage
  | some flag, [] => reading.bare flag
  | some flag, _ :: value => reading.attached flag (String.ofList value)

/-- Reads letters after one dash; what follows a letter that takes a value is the value. -/
def short (flags : List Flag) (reading : Reading) : List Char → Except Stop Reading
  | [] => .ok reading
  | letter :: rest =>
      match flags.find? (·.letter? == some letter) with
      | none => .error .usage
      | some flag =>
          if flag.takesValue then
            match rest with
            | [] => reading.bare flag
            | '=' :: value => reading.attached flag (String.ofList value)
            | value => reading.attached flag (String.ofList value)
          else do
            let reading ← reading.bare flag
            reading.short flags rest

end Reading

/-- The commands. -/
inductive Command where
  | collect
  | discover
  deriving DecidableEq, Repr

/-- What a command line asks for. -/
structure Invocation where
  command : Command
  /-- The flags before the command. -/
  general : Given
  /-- The flags after the command. -/
  given : Given
  deriving DecidableEq, Repr

/-- The command of a name. -/
def command? (name : String) : Option Command :=
  if name = "collect" then some .collect
  else if name = "discover" then some .discover
  else none

/-- Reads the arguments after a command, which are all flags. -/
def readGiven (reading : Reading) : List String → Except Stop Given
  | [] => reading.settle.map Reading.given
  | argument :: rest =>
      match reading.awaiting, argument.toList with
      | some _, '-' :: _ :: _ => .error .usage
      | some flag, _ => readGiven { reading with pending := some (flag, some argument) } rest
      | none, ['-', '-'] =>
          if rest.isEmpty then reading.settle.map Reading.given else .error .usage
      | none, '-' :: '-' :: text => do readGiven (← reading.long afterCommand text) rest
      | none, '-' :: letter :: text => do
          readGiven (← reading.short afterCommand (letter :: text)) rest
      | none, _ => .error .usage

/-- Reads what follows a request for help: nothing, or the name of a command. -/
def readHelp : List String → Stop
  | [] => .help
  | [name] => if (command? name).isSome || name = "help" then .help else .usage
  | _ => .usage

/-- Reads arguments up to the command and after it. -/
def readFrom (reading : Reading) : List String → Except Stop Invocation
  | [] => .error .usage
  | argument :: rest =>
      match reading.awaiting, argument.toList with
      | some _, '-' :: _ :: _ => .error .usage
      | some flag, _ => readFrom { reading with pending := some (flag, some argument) } rest
      | none, ['-', '-'] => .error .usage
      | none, '-' :: '-' :: text => do readFrom (← reading.long beforeCommand text) rest
      | none, '-' :: letter :: text => do
          readFrom (← reading.short beforeCommand (letter :: text)) rest
      | none, _ =>
          match command? argument with
          | none => .error (if argument = "help" then readHelp rest else .usage)
          | some command => do
              let given ← readGiven .start rest
              let reading ← reading.settle
              .ok ⟨command, reading.given, given⟩

/-- Reads the arguments of a command line. -/
def read (arguments : List String) : Except Stop Invocation := readFrom .start arguments

end ClusterEvidence.CommandLine
