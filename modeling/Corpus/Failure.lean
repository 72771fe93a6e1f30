import Corpus.Error
import Corpus.Json.Decode

/-!
# Failures

Everything that can go wrong with documents, in one type whose messages say where it went wrong.
-/

namespace Corpus

/-- A failure of some part of the library. -/
inductive Failure where
  | document (error : DocumentError)
  | formatter (error : FormatterError)
  | embedding (error : EmbeddingError)
  | store (error : StoreError)
  | json (error : Decode.Mismatch)

namespace Failure

def message : Failure → String
  | .document error => "Document error: " ++ error.message
  | .formatter error => "Formatter configuration error: " ++ error.message
  | .embedding error => "Embedding failed: " ++ error.message
  | .store error => "Store failed: " ++ error.message
  | .json error => "Serialization/deserialization error: " ++ error.message

/-- The messages of the deeper causes of a failure. -/
def sources : Failure → List String
  | .document error => [error.message]
  | .formatter error => [error.message]
  | .embedding error => error.message :: error.sources
  | .store error => error.message :: error.sources
  | .json error => [error.message]

end Failure

end Corpus
