import Corpus.Document.Json
import Corpus.Failure
import Corpus.Filter.Json
import Corpus.Formatter.Draft
import Corpus.KeyMap.Lemmas
import Corpus.Pipeline
import Corpus.Splitter.Words
import Corpus.Transformer
import Corpus.Proofs.Binary.Rounding
import Corpus.Proofs.Decimal.ReadBack
import Corpus.Proofs.Json.Literal
import Corpus.Proofs.Json.NumberText
import Corpus.Proofs.Json.Shown
import Corpus.Proofs.Json.StringText
import Corpus.Proofs.Json.RoundTrip
import Corpus.Proofs.Json.Nesting
import Corpus.Proofs.Metadata.Canonical
import Corpus.Proofs.Digest.Utf8
import Corpus.Proofs.Id.Message
import Corpus.Proofs.Json.ZeroSigns
import Corpus.Proofs.Document.Identity
import Corpus.Proofs.Store.Contents
import Corpus.Proofs.Store.Reachable
import Corpus.Proofs.Store.Ranking
import Corpus.Proofs.Store.Search
import Corpus.Proofs.Splitter.Tiling
import Corpus.Proofs.Store.InPlace
import Corpus.Proofs.Store.Batch
import Corpus.Proofs.Formatter.Visibility
import Corpus.Proofs.Pipeline.Indexing
import Corpus.Proofs.Json.Depth
import Corpus.Proofs.Filter.Written
import Corpus.Proofs.Filter.ReadBack
import Corpus.Proofs.Store.Log
import Corpus.Proofs.Formatter.Chain
import Corpus.Proofs.Vector.Component
import Corpus.Proofs.Media.ReadBack
import Corpus.Proofs.Document.Made
import Corpus.Proofs.Document.ReadBack
import Corpus.Proofs.Template.Filling
import Corpus.Proofs.Formatter.ContentWarning
import Corpus.Proofs.Document.Drafting
import Corpus.Proofs.Splitter.Reassembly
import Corpus.Proofs.Pipeline.Completeness
import Corpus.Proofs.Binary.Order
import Corpus.Proofs.Json.NumberOrder
import Corpus.Proofs.Filter.Range
import Corpus.Proofs.Text.Capitals
import Corpus.Proofs.Text.LoweredWords
import Corpus.Proofs.Vector.Casing
import Corpus.Proofs.Document.ReadMetadata
import Corpus.Proofs.Document.CleanMetadata
import Corpus.Proofs.Document.Kept
import Corpus.Proofs.Template.Sections
import Corpus.Proofs.Formatter.Substitution
import Corpus.Proofs.Store.Boundaries
import Corpus.Proofs.Store.Refusals
import Corpus.Proofs.Filter.Widening
import Corpus.Proofs.Store.TakingBack
import Corpus.Proofs.Splitter.Positions
import Corpus.Proofs.Text.WordRuns
import Corpus.Proofs.Vector.WordCounts
import Corpus.Proofs.Formatter.Rebuilding
import Corpus.Proofs.KeyMap.Listing
import Corpus.Proofs.Metadata.Listing
import Corpus.Proofs.Json.Reread
import Corpus.Proofs.Filter.Steady
import Corpus.Proofs.Binary.Nearest
import Corpus.Proofs.Vector.Order
