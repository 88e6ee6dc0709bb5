import ClusterEvidence.Http.Certificate.Outline
import ClusterEvidence.Text.Base64

/-!
# Certificates

Accepted certificates are given in a text of blocks. A block of the type `CERTIFICATE` holds a
certificate in base 64; a text without such a block accepts nothing more than the system does, which
is no fault. A block that does not end, or whose contents are no certificate, is one.
-/

namespace ClusterEvidence.Http.Certificate

/-- Why the certificates of a text cannot be used. -/
inductive Fault where
  /-- A block does not start as it has to or does not end, or its contents are not in base 64. -/
  | malformedText
  /-- A block holds something else than a certificate. -/
  | malformedCertificate
  deriving DecidableEq, Repr

/-- The wording of a fault. -/
def Fault.message : Fault → String
  | malformedText => "unexpected error: No valid certificate was found"
  | malformedCertificate => "invalid peer certificate: BadEncoding"

/-! ## Blocks -/

/-- The lines of a text, without their ends. -/
def lines : Bytes → List Bytes
  | [] => [[]]
  | byte :: rest =>
      if byte = 10 || byte = 13 then [] :: lines rest
      else
        match lines rest with
        | [] => [[byte]]
        | line :: others => (byte :: line) :: others

/-- The bytes without spaces at their end. -/
def trimEnd (bytes : Bytes) : Bytes := (bytes.reverse.dropWhile (· == 32)).reverse

/-- What a block starts with. -/
def beginMark : Bytes := Text.encodeString "-----BEGIN "

/-- What a block ends with. -/
def endMark : Bytes := Text.encodeString "-----END "

/-- The dashes after the type of a block. -/
def dashes : Bytes := Text.encodeString "-----"

/-- A text given from its end, less the dashes there, between which spaces may stand: how many there
are, and what is before them. -/
def dropDashes (count : Nat) (before : Bytes) : Bytes → Nat × Bytes
  | [] => (count, before)
  | byte :: rest =>
      if byte = 45 then dropDashes (count + 1) rest rest
      else if byte = 32 then dropDashes count before rest
      else (count, before)

/-- The type of block that a line starts; none within if it does not end in five dashes. -/
def startedBy (line : Bytes) : Option (Option Bytes) :=
  (beginMark.isPrefixOf? line).map fun label =>
    let (count, before) := dropDashes 0 label.reverse label.reverse
    if count = 5 then some before.reverse else none

/-- The certificates in the blocks of a text, from a line on, with the type of the block that the
line stands in and the contents before it. A block that starts within another one goes on with its
contents. -/
def blocks (label? : Option Bytes) (contents : Bytes) : List Bytes → Except Fault (List Bytes)
  | [] => if label?.isNone then .ok [] else .error .malformedText
  | line :: rest =>
      match startedBy line, label? with
      | some none, _ => .error .malformedText
      | some (some label), _ => blocks (some label) contents rest
      | none, none => blocks none [] rest
      | none, some label =>
          if (endMark ++ label ++ dashes).isPrefixOf line then
            match Text.Base64.decode? contents with
            | none => .error .malformedText
            | some bytes => do
                let others ← blocks none [] rest
                .ok (if label = Text.encodeString "CERTIFICATE" then bytes :: others else others)
          else blocks (some label) (contents ++ trimEnd line) rest

/-- Why the certificates of a text cannot be used, if they cannot. -/
def fault? (text : Bytes) : Option Fault :=
  match blocks none [] (lines text) with
  | .error fault => some fault
  | .ok certificates => if certificates.all isCertificate then none else some .malformedCertificate

end ClusterEvidence.Http.Certificate
