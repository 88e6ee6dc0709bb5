/-!
# White space

White space everywhere in this library is the Unicode property `White_Space`: filters, path
directives, class attributes and token files are all trimmed and split by it. Only the readers of
JSON, YAML and XML have narrower classes of their own, which stand beside them.

## Main results

* `trimStart_append_of_blank`, `trimStart_eq_self` — trimming drops exactly the leading run.
-/

namespace ClusterEvidence.Text

/-! ## The class -/

/-- The twenty-five characters with the Unicode property `White_Space`. -/
def isBlank (c : Char) : Bool :=
  let n := c.toNat
  (9 ≤ n && n ≤ 13) || n == 0x20 || n == 0x85 || n == 0xA0 || n == 0x1680 ||
    (0x2000 ≤ n && n ≤ 0x200A) || n == 0x2028 || n == 0x2029 || n == 0x202F || n == 0x205F ||
    n == 0x3000

/-! ## Trimming -/

/-- The text from its first character that is not white space. -/
def trimStart (text : List Char) : List Char := text.dropWhile isBlank

/-- The text up to its last character that is not white space. -/
def trimEnd (text : List Char) : List Char := (trimStart text.reverse).reverse

/-- The text between its first and last characters that are not white space. -/
def trim (text : List Char) : List Char := trimEnd (trimStart text)

/-- `trim` on strings. -/
def trimString (text : String) : String := String.ofList (trim text.toList)

/-- Leading white space does not change what trimming leaves. -/
theorem trimStart_append_of_blank {run text : List Char} (h : ∀ c ∈ run, isBlank c = true) :
    trimStart (run ++ text) = trimStart text := by
  induction run with
  | nil => rfl
  | cons c run ih =>
      have hc : isBlank c = true := h c List.mem_cons_self
      have hrun : ∀ d ∈ run, isBlank d = true := fun d hd => h d (List.mem_cons_of_mem _ hd)
      simpa [trimStart, hc] using ih hrun

/-- A text that starts with another character is left alone. -/
theorem trimStart_eq_self {c : Char} {text : List Char} (h : isBlank c = false) :
    trimStart (c :: text) = c :: text := by
  simp [trimStart, h]

/-! ## Splitting -/

/-- The pieces of a text between the characters that satisfy `cut`; there is one more piece than
there are such characters, so that an empty text has one empty piece. -/
def splitWhen (cut : Char → Bool) : List Char → List (List Char)
  | [] => [[]]
  | c :: text =>
      if cut c then [] :: splitWhen cut text
      else
        match splitWhen cut text with
        | [] => [[c]]
        | piece :: pieces => (c :: piece) :: pieces

/-- The pieces of a text between the occurrences of a separator. -/
def splitOn (separator : Char) (text : List Char) : List (List Char) :=
  splitWhen (· == separator) text

/-- The words of a text: its non-empty pieces between white space. -/
def words (text : List Char) : List (List Char) :=
  (splitWhen isBlank text).filter (!·.isEmpty)

/-- A text never has no piece. -/
theorem splitWhen_ne_nil (cut : Char → Bool) (text : List Char) : splitWhen cut text ≠ [] := by
  induction text with
  | nil => simp [splitWhen]
  | cons c text ih =>
      rw [splitWhen]
      split
      · simp
      · split <;> simp

/-- Pieces joined again by the separator give the text back. -/
theorem intercalate_splitOn (separator : Char) (text : List Char) :
    List.intercalate [separator] (splitOn separator text) = text := by
  induction text with
  | nil => rfl
  | cons c text ih =>
      simp only [splitOn] at ih ⊢
      rw [splitWhen]
      cases hsplit : splitWhen (· == separator) text with
      | nil => exact absurd hsplit (splitWhen_ne_nil _ text)
      | cons piece pieces =>
          rw [hsplit] at ih
          by_cases hc : c = separator
          · subst hc
            simpa [List.intercalate, List.intersperse] using ih
          · simp only [beq_iff_eq, hc, if_false]
            cases pieces with
            | nil => simpa [List.intercalate, List.intersperse] using ih
            | cons next rest => simpa [List.intercalate, List.intersperse] using ih

end ClusterEvidence.Text
