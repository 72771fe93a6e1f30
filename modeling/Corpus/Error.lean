/-!
# Errors

The causes for which a document, a formatter, an embedding model, a store or a retrieval pipeline
refuses its work.  Every cause has a message, and some carry the message of a deeper cause.
-/

namespace Corpus

/-- A span of time; nanoseconds beyond a second count as seconds. -/
structure Duration where
  seconds : Nat
  nanoseconds : Nat
  deriving DecidableEq

namespace Duration

/-- A whole number with a fraction of some places, without trailing zeros. -/
def withFraction (whole fraction places : Nat) : String :=
  let digits := Nat.toDigits 10 fraction
  let padded := List.replicate (places - digits.length) '0' ++ digits
  let kept := (padded.reverse.dropWhile (· == '0')).reverse
  if kept.isEmpty then toString whole
  else toString whole ++ "." ++ String.ofList kept

/-- The span in the largest unit of which it holds at least one. -/
def text (duration : Duration) : String :=
  let seconds := duration.seconds + duration.nanoseconds / 1000000000
  let nanoseconds := duration.nanoseconds % 1000000000
  if 0 < seconds then withFraction seconds nanoseconds 9 ++ "s"
  else if 1000000 ≤ nanoseconds then
    withFraction (nanoseconds / 1000000) (nanoseconds % 1000000) 6 ++ "ms"
  else if 1000 ≤ nanoseconds then
    withFraction (nanoseconds / 1000) (nanoseconds % 1000) 3 ++ "µs"
  else toString nanoseconds ++ "ns"

end Duration

/-- Why a document is refused. -/
inductive DocumentError where
  | emptyId
  | emptyMetadataKey
  | nullMetadataValue (key : String)
  deriving DecidableEq

def DocumentError.message : DocumentError → String
  | .emptyId => "id must not be null or empty"
  | .emptyMetadataKey => "metadata key must not be empty"
  | .nullMetadataValue key => "metadata value for key '" ++ key ++ "' must not be null"

/-- Why a formatter is refused: a template is blank. -/
inductive FormatterError where
  | emptyTemplate (field : String)
  deriving DecidableEq

def FormatterError.message : FormatterError → String
  | .emptyTemplate field => field ++ " must not be empty"

/-- Why an embedding model gives no vectors. -/
inductive EmbeddingError where
  | invalidResponse (reason : String)
  | rateLimited (retryAfter : Option Duration)
  | timeout (after : Duration)
  | provider (reason : String)
  | other (cause : String)
  deriving DecidableEq

def EmbeddingError.message : EmbeddingError → String
  | .invalidResponse reason => "Embedding invalid response: " ++ reason
  | .rateLimited retryAfter =>
    let delay := (retryAfter.map Duration.text).getD "unknown"
    "Embedding rate limited (retry_after=" ++ delay ++ ")"
  | .timeout after => "Embedding timeout after " ++ after.text
  | .provider reason => "Embedding provider error: " ++ reason
  | .other cause => "Embedding error: " ++ cause

/-- The messages of the deeper causes of a failed embedding. -/
def EmbeddingError.sources : EmbeddingError → List String
  | .other cause => [cause]
  | _ => []

/-- Why a store refuses its work. -/
inductive StoreError where
  | dimensionMismatch (expected got : Nat)
  | missingEmbedding (id : String)
  | internal (cause : String)
  deriving DecidableEq

def StoreError.message : StoreError → String
  | .dimensionMismatch expected got =>
    "dimension mismatch: expected " ++ toString expected ++ ", got " ++ toString got
  | .missingEmbedding id => "document '" ++ id ++ "' is missing embedding"
  | .internal cause => "Store error: " ++ cause

/-- The messages of the deeper causes of a refused store operation. -/
def StoreError.sources : StoreError → List String
  | .internal cause => [cause]
  | _ => []

/-- Why a retrieval pipeline fails. -/
inductive RetrievalError where
  | embeddingCountMismatch (expected got : Nat)
  | document (error : DocumentError)
  | embedding (error : EmbeddingError)
  | store (error : StoreError)
  deriving DecidableEq

def RetrievalError.message : RetrievalError → String
  | .embeddingCountMismatch expected got =>
    "embedder returned " ++ toString got ++ " embeddings for " ++ toString expected ++ " documents"
  | .document error => "document error: " ++ error.message
  | .embedding error => "embedding error: " ++ error.message
  | .store error => "store error: " ++ error.message

/-- The messages of the deeper causes of a failed pipeline. -/
def RetrievalError.sources : RetrievalError → List String
  | .embeddingCountMismatch .. => []
  | .document error => [error.message]
  | .embedding error => error.message :: error.sources
  | .store error => error.message :: error.sources

end Corpus
