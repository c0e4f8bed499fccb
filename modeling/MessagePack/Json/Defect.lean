/-!
# Defects of JSON documents

Why a document is refused. The first defect met decides, and a document that
ends too early is told apart from one that goes wrong.
-/

namespace MessagePack.Json

/-- What is wrong with a document. The place of the defect is not kept. -/
inductive Defect where
  /-- The text ends where more has to follow. -/
  | truncated
  /-- The text is not JSON, or goes on where it has to end. -/
  | malformed
  /-- The document is not of the shape that its reader expects. -/
  | mismatched
  deriving DecidableEq, Repr

end MessagePack.Json
