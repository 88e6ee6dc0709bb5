import ClusterEvidence.Text.Bytes

/-!
# The outline of a certificate

A certificate is an element: a kind, a length and as many bytes, which are elements again where the
kind says so. Only the outline is looked at: which parts there are, and their order. The signed part
says a second time which algorithm signs it, and may end with extensions. One that is critical has
to be known, and one that is known may be given once.

A certificate without a version is one of the first version, which has no extensions; any other one
is of the third version. Lengths of elements are written as short as they can be, and are below
65535.
-/

namespace ClusterEvidence.Http.Certificate

/-! ## Elements -/

/-- The kinds of elements that a certificate consists of. -/
inductive Kind where
  | boolean
  | integer
  | bits
  | octets
  | identifier
  | sequence
  | version
  | extensions
  | other
  deriving DecidableEq, Repr

/-- The kind that a byte means. -/
def Kind.ofCode (code : Nat) : Kind :=
  match code with
  | 0x01 => .boolean
  | 0x02 => .integer
  | 0x03 => .bits
  | 0x04 => .octets
  | 0x06 => .identifier
  | 0x30 => .sequence
  | 0xa0 => .version
  | 0xa3 => .extensions
  | _ => .other

/-- An element. -/
structure Element where
  kind : Kind
  contents : Bytes

/-- The length in front of some bytes, and what follows it. -/
def length? : Bytes → Option (Nat × Bytes)
  | [] => none
  | first :: rest =>
      if first.toNat < 0x80 then some (first.toNat, rest)
      else if first.toNat = 0x81 then
        match rest with
        | low :: rest => if low.toNat < 0x80 then none else some (low.toNat, rest)
        | [] => none
      else if first.toNat = 0x82 then
        match rest with
        | high :: low :: rest =>
            let length := high.toNat * 256 + low.toNat
            if length < 0x100 || length = 0xffff then none else some (length, rest)
        | _ => none
      else none

/-- The element in front of some bytes, and what follows it. A kind of several bytes is refused. -/
def element? : Bytes → Option (Element × Bytes)
  | [] => none
  | code :: rest =>
      if code.toNat % 32 = 31 then none
      else
        match length? rest with
        | none => none
        | some (length, rest) =>
            if rest.length < length then none
            else some (⟨Kind.ofCode code.toNat, rest.take length⟩, rest.drop length)

private theorem length_le_of_length? {bytes rest : Bytes} {length : Nat}
    (h : length? bytes = some (length, rest)) : rest.length ≤ bytes.length := by
  unfold length? at h
  grind

theorem length_lt_of_element? {bytes rest : Bytes} {element : Element}
    (h : element? bytes = some (element, rest)) : rest.length < bytes.length := by
  cases bytes with
  | nil => simp [element?] at h
  | cons code bytes =>
      simp only [element?, Option.ite_none_left_eq_some] at h
      obtain ⟨_, h⟩ := h
      split at h
      · simp at h
      · next hlength =>
          simp only [Option.ite_none_left_eq_some, Option.some.injEq, Prod.mk.injEq] at h
          obtain ⟨_, _, rfl⟩ := h
          have := length_le_of_length? hlength
          simp only [List.length_drop, List.length_cons]
          omega

/-- The elements that bytes consist of. -/
def elements? (bytes : Bytes) : Option (List Element) :=
  if bytes.isEmpty then some []
  else
    match h : element? bytes with
    | none => none
    | some (element, rest) =>
        have : rest.length < bytes.length := length_lt_of_element? h
        (elements? rest).map (element :: ·)
termination_by bytes.length

/-! ## Extensions -/

/-- An extension. -/
structure Extension where
  id : Bytes
  critical : Bool
  value : Bytes

/-- The truth value that bytes write. -/
def truth? : Bytes → Option Bool
  | [byte] => if byte = 0xff then some true else if byte = 0 then some false else none
  | _ => none

/-- The extension that bytes write; it is not critical unless it says so. -/
def extension? (bytes : Bytes) : Option Extension :=
  match elements? bytes with
  | some [⟨.identifier, id⟩, ⟨.octets, value⟩] => some ⟨id, false, value⟩
  | some [⟨.identifier, id⟩, ⟨.boolean, critical⟩, ⟨.octets, value⟩] =>
      (truth? critical).map (⟨id, ·, value⟩)
  | _ => none

/-- The number of the extension for the use of a key, whose value is a string of bits. -/
def keyUsage : Nat := 15

/-- The numbers of the extensions that are known: the use of a key, other names of the subject, the
place in a chain, the names that a chain may hold, and further uses of a key. -/
def knownNumbers : List Nat := [keyUsage, 17, 19, 30, 37]

/-- The number of an extension that is known. -/
def Extension.number? (extension : Extension) : Option Nat :=
  match extension.id with
  | [first, second, number] =>
      if first = 0x55 && second = 0x1d && knownNumbers.contains number.toNat then
        some number.toNat
      else none
  | _ => none

/-- Whether bytes are one sequence. -/
def isSequence (bytes : Bytes) : Bool :=
  match elements? bytes with
  | some [⟨.sequence, _⟩] => true
  | _ => false

/-- Whether extensions may stand together, after known ones of some numbers. -/
def areExtensions (seen : List Nat) : List Element → Bool
  | [] => true
  | ⟨.sequence, contents⟩ :: rest =>
      match extension? contents with
      | none => false
      | some extension =>
          match extension.number? with
          | none => !extension.critical && areExtensions seen rest
          | some number =>
              !seen.contains number && (number = keyUsage || isSequence extension.value) &&
                areExtensions (number :: seen) rest
  | _ => false

/-- Whether bytes are a list of extensions, of which there has to be one. -/
def isExtensionList (bytes : Bytes) : Bool :=
  match elements? bytes with
  | some [⟨.sequence, contents⟩] =>
      match elements? contents with
      | some [] | none => false
      | some elements => areExtensions [] elements
  | _ => false

/-! ## Certificates -/

/-- Whether bytes are the number of the third version. -/
def isThirdVersion (bytes : Bytes) : Bool :=
  match elements? bytes with
  | some [⟨.integer, number⟩] => number == [2]
  | _ => false

/-- Whether elements are the signed part of a certificate: a serial number, an algorithm, an issuer,
a validity, a subject and a key, and around them a version and extensions. -/
def isSignedPart (algorithm : Bytes) : List Element → Bool
  | [⟨.integer, _⟩, ⟨.sequence, _⟩, ⟨.sequence, _⟩, ⟨.sequence, _⟩, ⟨.sequence, _⟩,
      ⟨.sequence, _⟩] => true
  | ⟨.version, version⟩ :: ⟨.integer, _⟩ :: ⟨.sequence, signing⟩ :: ⟨.sequence, _⟩ ::
      ⟨.sequence, _⟩ :: ⟨.sequence, _⟩ :: ⟨.sequence, _⟩ :: rest =>
      isThirdVersion version && signing == algorithm &&
        match rest with
        | [] => true
        | [⟨.extensions, extensions⟩] => isExtensionList extensions
        | _ => false
  | _ => false

/-- Whether the elements of a certificate are a signed part, an algorithm, and a signature that
leaves no bits of its last byte unused. -/
def isSigned : List Element → Bool
  | [⟨.sequence, signed⟩, ⟨.sequence, algorithm⟩, ⟨.bits, unused :: _⟩] =>
      unused == 0 && (elements? signed).any (isSignedPart algorithm)
  | _ => false

/-- Whether bytes have the outline of a certificate. -/
def isCertificate (bytes : Bytes) : Bool :=
  match elements? bytes with
  | some [⟨.sequence, contents⟩] => (elements? contents).any isSigned
  | _ => false

end ClusterEvidence.Http.Certificate
