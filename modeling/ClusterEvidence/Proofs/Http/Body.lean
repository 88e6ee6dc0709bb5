import ClusterEvidence.Http.Client
import ClusterEvidence.Proofs.Json.Record

/-!
# What a server's bodies say

A server says why a request failed with a `Status` object, and gives a page of a collection with its
items and the token of the next page. Both are read leniently: a field may be missing, an object may
be written as an array of its fields, and a body that cannot be read at all still has a reason and a
message. The relations here say what a body is read as in terms of its tree alone.

## Main results

* `read?_eq_some_iff`: the `Status` object in a body.
* `missingReason_eq_iff`, `failureMessage_eq_iff`: the reason and the message of a failed request.
* `decodeBody_page_eq_ok_iff`: the page in a body, with the token of the next one.
-/

namespace ClusterEvidence.Http

open Json

variable {body : Bytes} {room : Nat}

/-! ## Why a request failed -/

/-- The text of a field that may be missing. -/
inductive GivesText : Option Written → String → Prop where
  | missing : GivesText none ""
  | text {text : String} : GivesText (some (.string (some text))) text

/-- The fields of a `Status` object. -/
def statusFields : List String := ["reason", "message"]

/-- A body holds a `Status` object, whose reason and message may be empty. -/
inductive HoldsStatus (body : Bytes) (status : Status) : Prop where
  | intro {tree : Written} (hread : Written.read body = .ok tree)
      (hrecord : IsRecord statusFields tree)
      (hreason : GivesText (tree.field? statusFields "reason") status.reason)
      (hmessage : GivesText (tree.field? statusFields "message") status.message)

/-- What a failed request says in a field of its `Status` object, and otherwise. -/
inductive Says (body : Bytes) (field : Status → String) (otherwise : String) : String → Prop where
  | named {status : Status} (h : HoldsStatus body status) (hne : field status ≠ "") :
      Says body field otherwise (field status)
  | unnamed {status : Status} (h : HoldsStatus body status) (hempty : field status = "") :
      Says body field otherwise otherwise
  | unread (h : ∀ status, ¬ HoldsStatus body status) : Says body field otherwise otherwise

private theorem getD_string_eq_ok_iff {given? : Option Written} {text : String} :
    given?.elim (.ok "") (Decoder.string room) = .ok text ↔ GivesText given? text := by
  constructor
  · intro h
    cases given? with
    | none =>
        cases h
        exact .missing
    | some value =>
        cases value with
        | string text? =>
            cases text? with
            | none => cases h
            | some text =>
                cases h
                exact .text
        | _ => cases h
  · intro h
    cases h with
    | missing => rfl
    | text => rfl

/-- The `Status` object in a body. -/
theorem read?_eq_some_iff {status : Status} :
    Status.read? body = some status ↔ HoldsStatus body status := by
  have hdecoder (tree : Written) :
      Status.decoder maxDepth tree = .ok status ↔
        IsRecord statusFields tree ∧
          GivesText (tree.field? statusFields "reason") status.reason ∧
          GivesText (tree.field? statusFields "message") status.message := by
    obtain ⟨reason, message⟩ := status
    have hreason : "reason" ∈ ["reason", "message"] := by decide
    have hmessage : "message" ∈ ["reason", "message"] := by decide
    rw [Status.decoder, maxDepth, Decoder.record_eq_ok_iff]
    simp only [Written.getD_given hreason, Written.getD_given hmessage, bind_eq_ok_iff,
      getD_string_eq_ok_iff, Except.ok.injEq, Status.mk.injEq]
    constructor
    · rintro ⟨hrecord, _, hreason, _, hmessage, rfl, rfl⟩
      exact ⟨hrecord, hreason, hmessage⟩
    · rintro ⟨hrecord, hreason, hmessage⟩
      exact ⟨hrecord, reason, hreason, message, hmessage, rfl, rfl⟩
  have hread : Status.read? body = some status ↔ Status.decoder.read body = .ok status := by
    rw [Status.read?]
    cases Status.decoder.read body <;> simp [Except.toOption]
  rw [hread, Decoder.read, bind_eq_ok_iff]
  constructor
  · rintro ⟨tree, htree, hstatus⟩
    obtain ⟨hrecord, hreason, hmessage⟩ := (hdecoder tree).1 hstatus
    exact .intro htree hrecord hreason hmessage
  · rintro ⟨htree, hrecord, hreason, hmessage⟩
    exact ⟨_, htree, (hdecoder _).2 ⟨hrecord, hreason, hmessage⟩⟩

private theorem says_iff {field : Status → String} {otherwise text : String} :
    (match Status.read? body with
      | some status => if field status = "" then otherwise else field status
      | none => otherwise) = text ↔ Says body field otherwise text := by
  cases hread : Status.read? body with
  | none =>
      have hunread (status : Status) : ¬ HoldsStatus body status := by
        rw [← read?_eq_some_iff, hread]
        exact nofun
      constructor
      · rintro rfl
        exact .unread hunread
      · intro h
        cases h with
        | named h | unnamed h => exact absurd h (hunread _)
        | unread => rfl
  | some status =>
      have hholds := read?_eq_some_iff.1 hread
      have hsame {other : Status} (h : HoldsStatus body other) : other = status := by
        rw [← read?_eq_some_iff, hread, Option.some.injEq] at h
        exact h.symm
      dsimp only
      by_cases hempty : field status = ""
      · rw [if_pos hempty]
        constructor
        · rintro rfl
          exact .unnamed hholds hempty
        · intro h
          cases h with
          | named h hne =>
              rw [hsame h] at hne
              exact absurd hempty hne
          | unnamed | unread => rfl
      · rw [if_neg hempty]
        constructor
        · rintro rfl
          exact .named hholds hempty
        · intro h
          cases h with
          | named h => rw [hsame h]
          | unnamed h hempty' =>
              rw [hsame h] at hempty'
              exact absurd hempty' hempty
          | unread h => exact absurd hholds (h status)

/-- The reason of a missing object. -/
theorem missingReason_eq_iff {reason : String} :
    missingReason body = reason ↔ Says body Status.reason "NotFound" reason := by
  rw [← says_iff, missingReason]
  cases Status.read? body <;> rfl

-- A `Status` may be written as an array of its fields.
example : missingReason (Text.encodeString "[\"Gone\"]") = "Gone" := by cbv

/-- The message of a failed request. -/
theorem failureMessage_eq_iff {message : String} :
    failureMessage body = message ↔
      Says body Status.message (failureMessage.bodyText body) message := by
  rw [← says_iff, failureMessage]
  cases Status.read? body <;> rfl

/-! ## Pages -/

/-- The token in the metadata of a page, none if it is missing, null or empty. -/
inductive IsToken : Option Written → Option String → Prop where
  | missing : IsToken none none
  | null : IsToken (some .null) none
  | empty : IsToken (some (.string (some ""))) none
  | text {token : String} (hne : token ≠ "") : IsToken (some (.string (some token))) (some token)

/-- The fields of the metadata that are read. -/
def metadataFields : List String := ["continue"]

/-- The token that a page gives with its metadata, which may be missing. -/
inductive GivesToken : Option Written → Option String → Prop where
  | missing : GivesToken none none
  | metadata {tree : Written} {token : Option String} (hrecord : IsRecord metadataFields tree)
      (htoken : IsToken (tree.field? metadataFields "continue") token) :
      GivesToken (some tree) token

/-- The items that a page gives, which may be missing. Two levels of nesting are taken. -/
inductive GivesItems : Option Written → List Json → Prop where
  | missing : GivesItems none []
  | array {trees : List Written} {items : List Json}
      (h : trees.map (ofWritten (maxDepth - 2)) = items.map .ok) :
      GivesItems (some (.array trees)) items

/-- The fields of a page. -/
def pageFields : List String := ["metadata", "items"]

/-- A body holds a page of a collection. -/
inductive HoldsPage (body : Bytes) (page : Cluster.Page) : Prop where
  | intro {tree : Written} (hread : Written.read body = .ok tree)
      (hrecord : IsRecord pageFields tree)
      (hnext : GivesToken (tree.field? pageFields "metadata") page.next)
      (hitems : GivesItems (tree.field? pageFields "items") page.items)

private theorem isToken_iff {given? : Option Written} {token : Option String} :
    (∃ found, given?.elim (.ok none) (Decoder.nullable Decoder.string room) = .ok found ∧
        found.filter (· ≠ "") = token) ↔ IsToken given? token := by
  constructor
  · rintro ⟨found, hfound, rfl⟩
    cases given? with
    | none =>
        cases hfound
        exact .missing
    | some value =>
        cases value with
        | null =>
            cases hfound
            exact .null
        | string text? =>
            cases text? with
            | none => cases hfound
            | some text =>
                cases hfound
                by_cases hempty : text = ""
                · subst hempty
                  exact .empty
                · rw [Option.filter_some_pos (by simpa using hempty)]
                  exact .text hempty
        | _ => cases hfound
  · intro h
    cases h with
    | missing => exact ⟨none, rfl, rfl⟩
    | null => exact ⟨none, rfl, rfl⟩
    | empty => exact ⟨some "", rfl, rfl⟩
    | @text token hne =>
        exact ⟨some token, rfl, Option.filter_some_pos (by simpa using hne)⟩

private theorem tokenDecoder_eq_ok_iff {tree : Written} {token : Option String} :
    tokenDecoder (room + 1) tree = .ok token ↔
      IsRecord metadataFields tree ∧ IsToken (tree.field? metadataFields "continue") token := by
  have hcontinue : "continue" ∈ ["continue"] := by decide
  rw [tokenDecoder, Decoder.record_eq_ok_iff]
  simp only [Written.getD_given hcontinue, bind_eq_ok_iff, Except.ok.injEq]
  exact and_congr_right' isToken_iff

private theorem getD_token_eq_ok_iff {given? : Option Written} {token : Option String} :
    given?.elim (.ok none) (tokenDecoder (room + 1)) = .ok token ↔ GivesToken given? token := by
  constructor
  · intro h
    cases given? with
    | none =>
        cases h
        exact .missing
    | some tree =>
        obtain ⟨hrecord, htoken⟩ := tokenDecoder_eq_ok_iff.1 h
        exact .metadata hrecord htoken
  · intro h
    cases h with
    | missing => rfl
    | metadata hrecord htoken => exact tokenDecoder_eq_ok_iff.2 ⟨hrecord, htoken⟩

private theorem getD_items_eq_ok_iff {given? : Option Written} {items : List Json} :
    given?.elim (.ok []) (Decoder.list Decoder.json (maxDepth - 1)) = .ok items ↔
      GivesItems given? items := by
  have hlist (trees : List Written) :
      Decoder.list Decoder.json (maxDepth - 1) (.array trees) =
        mapAll (ofWritten (maxDepth - 2)) trees := Decoder.items_eq_mapAll _ _ _
  constructor
  · intro h
    cases given? with
    | none =>
        cases h
        exact .missing
    | some tree =>
        cases tree with
        | array trees =>
            rw [Option.elim_some, hlist] at h
            exact .array (mapAll_eq_ok_iff.1 h)
        | _ => cases h
  · intro h
    cases h with
    | missing => rfl
    | array h =>
        rw [Option.elim_some, hlist]
        exact mapAll_eq_ok_iff.2 h

private theorem decodeBody_eq_ok_iff {α : Type} {decoder : Decoder α} {value : α} :
    decodeBody decoder body = .ok value ↔
      ∃ tree, Written.read body = .ok tree ∧ decoder maxDepth tree = .ok value := by
  rw [← bind_eq_ok_iff, decodeBody, Decoder.read]
  cases (Written.read body >>= fun tree => decoder maxDepth tree) with
  | error fault => exact ⟨nofun, nofun⟩
  | ok found =>
      constructor
      · rintro ⟨⟩
        rfl
      · rintro ⟨⟩
        rfl

/-- A body that cannot be read is a malformed response. -/
theorem exists_of_decodeBody_eq_error {α : Type} {decoder : Decoder α}
    {failure : Cluster.Failure} (h : decodeBody decoder body = .error failure) :
    ∃ message, failure = .decode message := by
  rw [decodeBody] at h
  cases hread : decoder.read body with
  | ok value =>
      rw [hread] at h
      cases h
  | error fault =>
      rw [hread] at h
      cases h
      exact ⟨fault.message, rfl⟩

/-- The page in a body. -/
theorem decodeBody_page_eq_ok_iff {page : Cluster.Page} :
    decodeBody pageDecoder body = .ok page ↔ HoldsPage body page := by
  have hdecoder (tree : Written) :
      pageDecoder maxDepth tree = .ok page ↔
        IsRecord pageFields tree ∧ GivesToken (tree.field? pageFields "metadata") page.next ∧
          GivesItems (tree.field? pageFields "items") page.items := by
    obtain ⟨items, next⟩ := page
    have hmetadata : "metadata" ∈ ["metadata", "items"] := by decide
    have hitems : "items" ∈ ["metadata", "items"] := by decide
    rw [pageDecoder, maxDepth, Decoder.record_eq_ok_iff]
    simp only [Written.getD_given hmetadata, Written.getD_given hitems, bind_eq_ok_iff,
      getD_token_eq_ok_iff, Except.ok.injEq, Cluster.Page.mk.injEq]
    constructor
    · rintro ⟨hrecord, _, hnext, _, hitems, rfl, rfl⟩
      exact ⟨hrecord, hnext, getD_items_eq_ok_iff.1 hitems⟩
    · rintro ⟨hrecord, hnext, hitems⟩
      exact ⟨hrecord, next, hnext, items, getD_items_eq_ok_iff.2 hitems, rfl, rfl⟩
  rw [decodeBody_eq_ok_iff]
  constructor
  · rintro ⟨tree, htree, hpage⟩
    obtain ⟨hrecord, hnext, hitems⟩ := (hdecoder tree).1 hpage
    exact .intro htree hrecord hnext hitems
  · rintro ⟨htree, hrecord, hnext, hitems⟩
    exact ⟨_, htree, (hdecoder _).2 ⟨hrecord, hnext, hitems⟩⟩

-- An empty token means that there is no other page, in whichever form the page is written.
example :
    (decodeBody pageDecoder (Text.encodeString "[[\"\"]]")).toOption.map (·.next) = some none := by
  cbv

end ClusterEvidence.Http
