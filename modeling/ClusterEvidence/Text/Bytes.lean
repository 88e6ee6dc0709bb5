/-!
# Bytes and their text

Bodies, files and results are byte lists. Text is encoded as UTF-8; reading it back is strict
(`decode?`) where a format demands UTF-8 and lossy (`decodeLossy`) where a message only shows
what a server sent.

The strict reader accepts exactly the well-formed sequences of the Unicode standard: no overlong
form, no surrogate, nothing above U+10FFFF. The lossy reader replaces each maximal part of an
ill-formed sequence by U+FFFD, as the standard recommends.
-/

namespace ClusterEvidence

/-- The content of a file, a request or a stored result. -/
abbrev Bytes := List UInt8

namespace Text

/-! ## Encoding -/

/-- The UTF-8 form of a text. -/
def encode (text : List Char) : Bytes := text.flatMap String.utf8EncodeChar

/-- The UTF-8 form of a string. -/
def encodeString (text : String) : Bytes := encode text.toList

/-- How many bytes a text takes. -/
def byteLength : List Char → Nat
  | [] => 0
  | c :: text => c.utf8Size + byteLength text

@[simp] theorem byteLength_nil : byteLength [] = 0 := rfl

@[simp] theorem byteLength_cons (c : Char) (text : List Char) :
    byteLength (c :: text) = c.utf8Size + byteLength text := rfl

@[simp] theorem byteLength_append (a b : List Char) :
    byteLength (a ++ b) = byteLength a + byteLength b := by
  induction a with
  | nil => simp
  | cons c a ih => simp [ih, Nat.add_assoc]

/-- The measure is the length of the encoded form. -/
theorem length_encode (text : List Char) : (encode text).length = byteLength text := by
  induction text with
  | nil => rfl
  | cons c text ih => simp_all [encode, String.length_utf8EncodeChar]

/-! ## Decoding -/

/-- A byte that continues a sequence. -/
def isContinuation (b : UInt8) : Bool := 0x80 ≤ b && b ≤ 0xBF

/-- The six value bits of a continuation byte. -/
def continuationBits (b : UInt8) : Nat := b.toNat % 64

/-- Whether `b` may follow the lead byte of a sequence of three: this rules out overlong forms
and surrogates. -/
def isSecondOfThree (lead b : UInt8) : Bool :=
  if lead == 0xE0 then 0xA0 ≤ b && b ≤ 0xBF
  else if lead == 0xED then 0x80 ≤ b && b ≤ 0x9F
  else isContinuation b

/-- Whether `b` may follow the lead byte of a sequence of four: this rules out overlong forms and
values above U+10FFFF. -/
def isSecondOfFour (lead b : UInt8) : Bool :=
  if lead == 0xF0 then 0x90 ≤ b && b ≤ 0xBF
  else if lead == 0xF4 then 0x80 ≤ b && b ≤ 0x8F
  else isContinuation b

/-- What stands at the front of a byte list. -/
inductive Front where
  /-- No byte is left. -/
  | done
  /-- A well-formed character, then the rest. -/
  | character (c : Char) (rest : Bytes)
  /-- The longest front of the list that starts a character but does not finish it, then the
  rest. -/
  | broken (rest : Bytes)

/-- Reads one character or skips one ill-formed part. -/
def front : Bytes → Front
  | [] => .done
  | a :: rest =>
      if a < 0x80 then .character (Char.ofNat a.toNat) rest
      else if 0xC2 ≤ a && a ≤ 0xDF then
        match rest with
        | b :: rest' =>
            if isContinuation b then
              .character (Char.ofNat ((a.toNat % 32) * 64 + continuationBits b)) rest'
            else .broken rest
        | [] => .broken rest
      else if 0xE0 ≤ a && a ≤ 0xEF then
        match rest with
        | b :: rest' =>
            if isSecondOfThree a b then
              match rest' with
              | c :: rest'' =>
                  if isContinuation c then
                    .character (Char.ofNat
                      (((a.toNat % 16) * 64 + continuationBits b) * 64 + continuationBits c)) rest''
                  else .broken rest'
              | [] => .broken rest'
            else .broken rest
        | [] => .broken rest
      else if 0xF0 ≤ a && a ≤ 0xF4 then
        match rest with
        | b :: rest' =>
            if isSecondOfFour a b then
              match rest' with
              | c :: rest'' =>
                  if isContinuation c then
                    match rest'' with
                    | d :: rest''' =>
                        if isContinuation d then
                          .character (Char.ofNat
                            ((((a.toNat % 8) * 64 + continuationBits b) * 64 + continuationBits c)
                              * 64 + continuationBits d)) rest'''
                        else .broken rest''
                    | [] => .broken rest''
                  else .broken rest'
              | [] => .broken rest'
            else .broken rest
        | [] => .broken rest
      else .broken rest

/-- A well-formed character uses up at least one byte. -/
private theorem length_lt_of_front_character {bytes rest : Bytes} {c : Char}
    (h : front bytes = .character c rest) : rest.length < bytes.length := by
  unfold front at h
  repeat' split at h
  all_goals simp_all
  all_goals (obtain ⟨_, rfl⟩ := h; omega)

/-- An ill-formed part holds at least one byte. -/
private theorem length_lt_of_front_broken {bytes rest : Bytes} (h : front bytes = .broken rest) :
    rest.length < bytes.length := by
  unfold front at h
  repeat' split at h
  all_goals simp_all
  all_goals (subst h; simp)

/-- The characters of a well-formed UTF-8 text, or nothing. -/
def decode? (bytes : Bytes) : Option (List Char) :=
  match _hfront : front bytes with
  | .done => some []
  | .character c rest => (decode? rest).map (c :: ·)
  | .broken _ => none
termination_by bytes.length
decreasing_by exact length_lt_of_front_character _hfront

/-- The characters of a text with U+FFFD for each ill-formed part. -/
def decodeLossy (bytes : Bytes) : List Char :=
  match _hfront : front bytes with
  | .done => []
  | .character c rest => c :: decodeLossy rest
  | .broken rest => '\ufffd' :: decodeLossy rest
termination_by bytes.length
decreasing_by
  · exact length_lt_of_front_character _hfront
  · exact length_lt_of_front_broken _hfront

/-- `decode?` as a string. -/
def decodeString? (bytes : Bytes) : Option String := (decode? bytes).map String.ofList

end Text

end ClusterEvidence
