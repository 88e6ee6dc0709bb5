import ClusterEvidence.Proofs.Json.RoundTrip

/-!
# The two layouts

The indented layout differs from the compact one in the white space between its tokens alone, so
both are read as the same value. That two texts have the same tokens is kept by everything that the
text of an array or object is put together with: a bracket, comma or colon in front, white space in
front of one of the two, and a rest that begins with a stop.

## Main results

* `sameTokens_indented` — the two layouts of a value have the same tokens.
* `read_prettyBytes` — the indented text of a value is read as an equal value.
-/

namespace ClusterEvidence.Json

open Text (encode)
open Token (Tokenizes isStop isSpace)

/-! ## Texts with the same tokens -/

/-- Two texts have tokens, and they are the same. -/
def SameTokens (text other : List Char) : Prop :=
  ∃ tokens, Tokenizes (encode text) tokens ∧ Tokenizes (encode other) tokens

/-- A text is empty or begins with a byte that ends every token. -/
def Stops (text : List Char) : Prop := ∀ b ∈ (encode text).head?, isStop b = true

/-- An ASCII character that is a token of its own. -/
def IsMark (c : Char) (token : Token) : Prop :=
  c.toNat < 0x80 ∧ Token.isPlain (UInt8.ofNat c.toNat) = true ∧
    ∀ rest, Token.scan (UInt8.ofNat c.toNat :: rest) = some (token, rest)

private theorem isMark_openArray : IsMark '[' .openArray := ⟨by decide, by decide, fun _ => rfl⟩

private theorem isMark_closeArray : IsMark ']' .closeArray := ⟨by decide, by decide, fun _ => rfl⟩

private theorem isMark_openObject : IsMark '{' .openObject := ⟨by decide, by decide, fun _ => rfl⟩

private theorem isMark_closeObject : IsMark '}' .closeObject := ⟨by decide, by decide, fun _ => rfl⟩

private theorem isMark_colon : IsMark ':' .colon := ⟨by decide, by decide, fun _ => rfl⟩

private theorem isMark_comma : IsMark ',' .comma := ⟨by decide, by decide, fun _ => rfl⟩

theorem stops_cons {c : Char} (hascii : c.toNat < 0x80)
    (hstop : isStop (UInt8.ofNat c.toNat) = true) (text : List Char) : Stops (c :: text) := by
  intro b hb
  rw [Text.encode_ascii hascii] at hb
  cases hb
  exact hstop

namespace SameTokens

variable {text other rest further : List Char}

theorem nil : SameTokens [] [] := ⟨[], .nil, .nil⟩

private theorem of_tokenizes {tokens : List Token} (h : Tokenizes (encode text) tokens) :
    SameTokens text text :=
  ⟨tokens, h, h⟩

/-- A mark in front of both texts. -/
theorem mark {c : Char} {token : Token} (hmark : IsMark c token) (h : SameTokens text other) :
    SameTokens (c :: text) (c :: other) := by
  obtain ⟨tokens, htext, hother⟩ := h
  obtain ⟨hascii, hplain, hscan⟩ := hmark
  refine ⟨token :: tokens, ?_, ?_⟩
  · rw [Text.encode_ascii hascii]
    exact Written.tokenizes_mark hplain hscan htext
  · rw [Text.encode_ascii hascii]
    exact Written.tokenizes_mark hplain hscan hother

/-- White space in front of the second text. -/
private theorem space {c : Char} (hascii : c.toNat < 0x80)
    (hspace : isSpace (UInt8.ofNat c.toNat) = true) (h : SameTokens text other) :
    SameTokens text (c :: other) := by
  obtain ⟨tokens, htext, hother⟩ := h
  refine ⟨tokens, htext, ?_⟩
  rw [Text.encode_ascii hascii]
  exact .space hspace hother

/-- A new line in front of the second text. -/
theorem newline (depth : Nat) (h : SameTokens text other) :
    SameTokens text (Json.newline depth ++ other) := by
  have hblanks : ∀ count, SameTokens text (List.replicate count ' ' ++ other) := by
    intro count
    induction count with
    | zero => exact h
    | succ count ih => exact ih.space (c := ' ') (by decide) (by decide)
  exact (hblanks (2 * depth)).space (c := '\n') (by decide) (by decide)

/-- Rests that begin with stops. -/
theorem append (h : SameTokens text other) (hrest : SameTokens rest further) (hstop : Stops rest)
    (hstop' : Stops further) : SameTokens (text ++ rest) (other ++ further) := by
  obtain ⟨tokens, htext, hother⟩ := h
  obtain ⟨others, hrest, hfurther⟩ := hrest
  refine ⟨tokens ++ others, ?_, ?_⟩
  · rw [Text.encode_append]
    exact htext.append hrest hstop
  · rw [Text.encode_append]
    exact hother.append hfurther hstop'

/-- Texts with the same tokens are read alike. -/
private theorem read_eq (h : SameTokens text other) : read (encode text) = read (encode other) := by
  obtain ⟨tokens, htext, hother⟩ := h
  rw [read, read, Written.read, Written.read, Token.tokenizes_iff.1 htext,
    Token.tokenizes_iff.1 hother]

/-- A closing bracket, which the indented layout puts on a line of its own. -/
private theorem close {c : Char} {token : Token} (hmark : IsMark c token)
    (hstop : isStop (UInt8.ofNat c.toNat) = true) (depth : Nat) (h : SameTokens text other) :
    SameTokens (text ++ [c]) (other ++ Json.newline depth ++ [c]) := by
  rw [List.append_assoc]
  have hclose : SameTokens [c] (Json.newline depth ++ [c]) := (nil.mark hmark).newline depth
  exact h.append hclose (stops_cons hmark.1 hstop []) (stops_cons (by decide) (by decide) _)

/-- A comma behind both texts. -/
private theorem comma (h : SameTokens text other) (hrest : SameTokens rest further) :
    SameTokens (text ++ ',' :: rest) (other ++ ',' :: further) :=
  h.append (hrest.mark isMark_comma) (stops_cons (by decide) (by decide) _)
    (stops_cons (by decide) (by decide) _)

/-- A key with its value, which the indented layout puts on a line of its own. -/
private theorem member (depth : Nat) (key : String) (h : SameTokens text other) :
    SameTokens (quote key ++ ':' :: text)
      (Json.newline depth ++ quote key ++ ':' :: ' ' :: other) := by
  have hvalue : SameTokens text (' ' :: other) := h.space (by decide) (by decide)
  have hkey := of_tokenizes (Token.tokenizes_quote key)
  have hmember := hkey.append (hvalue.mark isMark_colon) (stops_cons (by decide) (by decide) _)
    (stops_cons (by decide) (by decide) _)
  rw [List.append_assoc]
  exact hmember.newline depth

end SameTokens

/-! ## The layouts of a value -/

private theorem sameTokens_scalar {value : Json} {room : Nat} (hscalar : value.isContainer = false)
    (h : Within Number.ReadsBack room value) : SameTokens (compact value) (scalarText value) := by
  obtain ⟨tree, other, ⟨tokens, htokens, _⟩, _⟩ := exists_reads_scalar hscalar h
  have htext : compact value = scalarText value := by
    cases value <;> first | rfl | cases hscalar
  rw [← htext]
  exact .of_tokenizes htokens

mutual

/-- The two layouts of a value have the same tokens. -/
theorem sameTokens_indented (room depth : Nat) : ∀ value : Json,
    Within Number.ReadsBack room value → SameTokens (compact value) (indented depth value)
  | null, h => sameTokens_scalar rfl h
  | bool _, h => sameTokens_scalar rfl h
  | number _, h => sameTokens_scalar rfl h
  | string _, h => sameTokens_scalar rfl h
  | array [], _ => (SameTokens.nil.mark isMark_closeArray).mark isMark_openArray
  | array (item :: items), ⟨_, h⟩ => by
      have hitems := sameTokens_items (room - 1) (depth + 1) (item :: items) h
      rw [compact, indented]
      exact (hitems.close isMark_closeArray (by decide) depth).mark isMark_openArray
  | object [], _ => (SameTokens.nil.mark isMark_closeObject).mark isMark_openObject
  | object (member :: members), ⟨_, h⟩ => by
      have hmembers := sameTokens_members (room - 1) (depth + 1) (member :: members) h
      rw [compact, indented]
      exact (hmembers.close isMark_closeObject (by decide) depth).mark isMark_openObject

theorem sameTokens_items (room depth : Nat) : ∀ items : List Json,
    WithinItems Number.ReadsBack room items →
    SameTokens (compactItems items) (indentedItems depth items)
  | [], _ => .nil
  | [item], ⟨h, _⟩ => (sameTokens_indented room depth item h).newline depth
  | item :: second :: items, ⟨h, hrest⟩ => by
      have hitem := (sameTokens_indented room depth item h).newline depth
      have hitems := sameTokens_items room depth (second :: items) hrest
      rw [compactItems, indentedItems]
      · exact hitem.comma hitems
      · exact List.cons_ne_nil _ _
      · exact List.cons_ne_nil _ _

theorem sameTokens_members (room depth : Nat) : ∀ members : List (String × Json),
    WithinMembers Number.ReadsBack room members →
    SameTokens (compactMembers members) (indentedMembers depth members)
  | [], _ => .nil
  | [(key, value)], ⟨h, _⟩ => (sameTokens_indented room depth value h).member depth key
  | (key, value) :: second :: members, ⟨h, hrest⟩ => by
      have hmember := (sameTokens_indented room depth value h).member depth key
      have hmembers := sameTokens_members room depth (second :: members) hrest
      rw [compactMembers, indentedMembers]
      · exact hmember.comma hmembers
      · exact List.cons_ne_nil _ _
      · exact List.cons_ne_nil _ _

end

/-- The indented text of a value is read as an equal value. -/
theorem read_prettyBytes {value : Json} (hcanonical : Canonical value)
    (h : Within Number.ReadsBack maxDepth value) :
    ∃ other, read value.prettyBytes = .ok other ∧ equal value other = true := by
  obtain ⟨other, hread, hequal⟩ := read_compactBytes hcanonical h
  exact ⟨other, (sameTokens_indented maxDepth 0 value h).read_eq.symm.trans hread, hequal⟩

end ClusterEvidence.Json
