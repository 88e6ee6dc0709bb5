import ClusterEvidence.Json.Basic
import ClusterEvidence.Json.Fault

/-!
# Filters

A filter is a pipeline of stages that each turn one JSON value into several. A stage selects what a
path leads to, assigns a literal to the places a path leads to, or yields nothing.

This module holds the filters themselves and what can go wrong with one: in its text
(`SyntaxError`), on a value (`RunFault`), or in that it yields nothing where a result is needed.
-/

namespace ClusterEvidence

namespace Filter

/-! ## Paths and stages -/

/-- One step of a path. An index counts from the end when it is negative. -/
inductive Step where
  | field (key : String)
  | index (position : Int)
  | iterate
  deriving DecidableEq, Repr

/-- One stage of a filter. -/
inductive Stage where
  | empty
  | path (steps : List Step)
  | assign (steps : List Step) (literal : Json)
  deriving Repr

/-! ## Faults -/

/-- Why the text of a filter was refused. -/
inductive SyntaxReason where
  | expectedPath (found : List Char)
  | trailingDot
  | expectedFieldName
  | unexpected (text : List Char)
  | expectedIndexOrKey
  | expectedClose
  | badString (fault : Json.Fault)
  | unterminatedString
  | comparison
  | badLiteral (fault : Json.Fault)
  | chainedAssignment
  deriving DecidableEq, Repr

/-- The wording of a reason. -/
def SyntaxReason.message : SyntaxReason → String
  | expectedPath found => "expected a path, found '" ++ String.ofList found ++ "'"
  | trailingDot => "trailing '.'"
  | expectedFieldName => "expected a field name"
  | unexpected text => "unexpected '" ++ String.ofList text ++ "'"
  | expectedIndexOrKey => "expected an index or a string key"
  | expectedClose => "expected ']'"
  | badString fault => "bad string literal: " ++ fault.message
  | unterminatedString => "unterminated string"
  | comparison => "comparisons are not supported"
  | badLiteral fault => "expected a JSON literal: " ++ fault.message
  | chainedAssignment => "chained assignment is not supported"

/-- A reason and the byte offset in the filter's text at which it was found. -/
structure SyntaxError where
  offset : Nat
  reason : SyntaxReason
  deriving DecidableEq, Repr

/-- The error's message around the wording of its reason. -/
def SyntaxError.messageWith (error : SyntaxError) (reason : String) : String :=
  "syntax error at offset " ++ toString error.offset ++ ": " ++ reason

/-- The wording of a syntax error. -/
def SyntaxError.message (error : SyntaxError) : String :=
  error.messageWith error.reason.message

/-- Why a filter failed on a value; the first argument is the kind of the value that did not
fit. -/
inductive RunFault where
  | indexedByKey (kind : String) (key : String)
  | indexedByNumber (kind : String)
  | iterated (kind : String)
  | indexTooLarge
  | indexBeforeStart
  deriving DecidableEq, Repr

/-- The wording of a fault. -/
def RunFault.message : RunFault → String
  | indexedByKey kind key => "cannot index " ++ kind ++ " with \"" ++ key ++ "\""
  | indexedByNumber kind => "cannot index " ++ kind ++ " with number"
  | iterated kind => "cannot iterate over " ++ kind
  | indexTooLarge => "array index too large"
  | indexBeforeStart => "out of bounds negative array index"

/-- Why a filter gave no result. -/
inductive Fault where
  | malformed (error : SyntaxError)
  | runtime (fault : RunFault)
  | noResult
  deriving DecidableEq, Repr

/-- The wording of a fault. -/
def Fault.message : Fault → String
  | malformed error => error.message
  | runtime fault => fault.message
  | noResult => "couldn't get filtered object"

end Filter

/-- A filter: its stages, in the order in which values pass through them. -/
structure Filter where
  stages : List Filter.Stage
  deriving Repr

end ClusterEvidence
