import Corpus.Digest.Sha256
import Corpus.Metadata
import Corpus.Session
import Corpus.Uuid

/-!
# Document identifiers

An identifier is drawn at random or derived from content and metadata.  The content identifier is
a name-based one: its name is the digest of the content followed by the canonical metadata.
-/

namespace Corpus

/-- Where the identifier of a document comes from. -/
inductive IdScheme where
  | random
  | derived (derive : String → Metadata → String)

namespace ContentId

/-- The bytes that identify a content with its metadata. -/
def message (content : String) (metadata : Metadata) : Digest.Bytes :=
  Digest.utf8 content ++ Digest.utf8 metadata.canonical

def derive (content : String) (metadata : Metadata) : String :=
  Uuid.text (Uuid.ofName Uuid.oidNamespace (Digest.sha256 (message content metadata)))

end ContentId

namespace IdScheme

/-- The same content with the same metadata has the same identifier. -/
def ofContent : IdScheme := .derived ContentId.derive

def generate (scheme : IdScheme) (content : String) (metadata : Metadata) : Run String :=
  match scheme with
  | .random => Session.drawId
  | .derived derive => return derive content metadata

end IdScheme

end Corpus
