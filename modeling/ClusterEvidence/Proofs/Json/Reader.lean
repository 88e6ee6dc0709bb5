import ClusterEvidence.Json.Reader
import ClusterEvidence.Proofs.Json.Token
import ClusterEvidence.Proofs.Json.Written

/-!
# What is read as a value

A text that is read as a value is a row of tokens, and one that is read as anything but an array or
object is a single token, with white space around it.

## Main results

* `read_of_tokenizes` — a text is read from its tokens.
* `exists_token_of_read` — a text of anything but an array or object is a single token.
* `read_of_trim` — white space around a value makes no difference.
* `enclosed_of_read` — a string literal has one quote at each end and no other that is not escaped.
-/

namespace ClusterEvidence.Json

open Token (Tokenizes Enclosed isVisible)

/-- A text that is read as a value has tokens. -/
theorem exists_tokens_of_read {bytes : Bytes} {value : Json} (h : read bytes = .ok value) :
    ∃ tokens, Tokenizes bytes tokens ∧
      ∃ tree, Written.ofTokens? tokens = some tree ∧ ofWritten maxDepth tree = .ok value := by
  simp only [read, bind, Except.bind] at h
  split at h
  · cases h
  · next tree htree =>
      unfold Written.read at htree
      split at htree
      · next found hfound =>
          cases htree
          obtain ⟨tokens, htokens, htree⟩ := Option.bind_eq_some_iff.1 hfound
          exact ⟨tokens, Token.tokenizes_iff.2 htokens, tree, htree, h⟩
      · cases htree

/-- A text is read from its tokens. -/
theorem read_of_tokenizes {bytes : Bytes} {tokens : List Token} {tree : Written} {value : Json}
    (h : Tokenizes bytes tokens) (htree : Written.ofTokens? tokens = some tree)
    (hvalue : ofWritten maxDepth tree = .ok value) : read bytes = .ok value := by
  simp only [read, Written.read, Token.tokenizes_iff.1 h, Option.bind_some, htree, bind,
    Except.bind, hvalue]

/-- What does not show around a value makes no difference. -/
theorem read_of_trim {front bytes tail : Bytes} {value : Json}
    (h : read (front ++ bytes ++ tail) = .ok value) (hfront : ∀ b ∈ front, isVisible b = false)
    (htail : ∀ b ∈ tail, isVisible b = false) : read bytes = .ok value := by
  obtain ⟨tokens, htokens, tree, htree, hvalue⟩ := exists_tokens_of_read h
  have hbytes := (htokens.of_append htail).of_prepend hfront
  exact read_of_tokenizes hbytes htree hvalue

/-- Whether a value is an array or an object. -/
def isContainer : Json → Bool
  | array _ => true
  | object _ => true
  | _ => false

/-- The tree of an array or object is one. -/
private theorem isContainer_of_ofWritten {room : Nat} {tree : Written} {value : Json}
    (h : ofWritten room tree = .ok value) : tree.isContainer = value.isContainer := by
  cases tree with
  | null => cases h; rfl
  | bool b => cases h; rfl
  | number n => cases n <;> cases h; rfl
  | string text => cases text <;> cases h; rfl
  | array items =>
      cases room with
      | zero => cases h
      | succ room =>
          rw [ofWritten] at h
          cases hitems : itemsOfWritten room items <;> rw [hitems] at h <;> cases h
          rfl
  | object members =>
      cases room with
      | zero => cases h
      | succ room =>
          rw [ofWritten] at h
          cases hmembers : membersOfWritten room [] members <;> rw [hmembers] at h <;> cases h
          rfl

/-- A text that is read as anything but an array or object is a single token. -/
theorem exists_token_of_read {bytes : Bytes} {value : Json} (h : read bytes = .ok value)
    (hscalar : value.isContainer = false) :
    ∃ token tree, Tokenizes bytes [token] ∧ Written.scalar? token = some tree ∧
      ofWritten maxDepth tree = .ok value := by
  obtain ⟨tokens, htokens, tree, htree, hvalue⟩ := exists_tokens_of_read h
  rw [← isContainer_of_ofWritten hvalue] at hscalar
  obtain ⟨token, rfl, htoken⟩ := Written.exists_token_of_ofTokens? htree hscalar
  exact ⟨token, tree, htokens, htoken, hvalue⟩

private theorem tokenizes_of_read_string {bytes : Bytes} {s : String}
    (h : read bytes = .ok (.string s)) :
    Tokenizes bytes [.string (some s)] := by
  obtain ⟨token, tree, htokens, htoken, hvalue⟩ := exists_token_of_read h rfl
  cases token with
  | string text =>
      cases htoken
      cases text <;> cases hvalue
      exact htokens
  | number n => cases htoken; cases n <;> cases hvalue
  | _ => cases htoken <;> cases hvalue

theorem tokenizes_of_read_number {bytes : Bytes} {n : Number} (h : read bytes = .ok (.number n)) :
    Tokenizes bytes [.number (some n)] := by
  obtain ⟨token, tree, htokens, htoken, hvalue⟩ := exists_token_of_read h rfl
  cases token with
  | number m =>
      cases htoken
      cases m <;> cases hvalue
      exact htokens
  | string text => cases htoken; cases text <;> cases hvalue
  | _ => cases htoken <;> cases hvalue

/-- A string literal has one quote at each end and no other that is not escaped. -/
theorem enclosed_of_read {body : Bytes} {s : String}
    (h : read (0x22 :: (body ++ [0x22])) = .ok (.string s)) : Enclosed body := by
  have htokens := tokenizes_of_read_string h
  generalize hall : 0x22 :: (body ++ [0x22]) = all at htokens
  cases htokens with
  | space hspace =>
      cases hall
      simp [Token.isSpace] at hspace
  | @token used left _ _ hchunk hscan hleft =>
      cases hchunk with
      | @plain b used hplain =>
          rw [List.cons_append, List.cons.injEq] at hall
          have hquote := hplain b List.mem_cons_self
          rw [← hall.1] at hquote
          cases hquote
      | @quoted inner henclosed =>
          rw [List.cons_append, List.cons.injEq, List.append_assoc, List.singleton_append] at hall
          by_cases hnil : left = []
          · subst hnil
            rw [List.append_cancel_right hall.2]
            exact henclosed
          · -- The last quote would be white space.
            obtain ⟨front, c, rfl⟩ := (List.eq_nil_or_concat left).resolve_left hnil
            have hconcat : body ++ [0x22] = (inner ++ 0x22 :: front) ++ [c] := by
              simpa using hall.2
            have hlast : [0x22] = [c] := List.append_inj_right' hconcat rfl
            cases hlast
            have hspace := hleft.isSpace_of_nil 0x22 (by simp)
            cases hspace

end ClusterEvidence.Json
