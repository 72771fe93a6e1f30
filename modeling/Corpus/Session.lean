import Corpus.Event

/-!
# Sessions

A session holds what a run of the library takes from the outside and leaves there: the random
identifiers still to be drawn, the events reported and the texts sent to embedding models.
`Run` is a computation in a session, and `Attempt` one that may fail; a failed attempt keeps what
it has drawn, reported and sent.
-/

namespace Corpus

/-- What a run shares with the outside. -/
structure Session where
  /-- The random identifiers in the order in which they are drawn. -/
  randomId : Nat → String
  /-- How many of them have been drawn. -/
  drawn : Nat
  /-- The events reported so far. -/
  events : Array Event
  /-- The texts sent to embedding models so far. -/
  sent : Array String

abbrev Run : Type → Type := StateM Session

abbrev Attempt (ε : Type) : Type → Type := ExceptT ε Run

namespace Session

def start (randomId : Nat → String) : Session :=
  ⟨randomId, 0, #[], #[]⟩

def report (event : Event) : Run Unit :=
  modify fun session => { session with events := session.events.push event }

def send (texts : List String) : Run Unit :=
  modify fun session => { session with sent := session.sent ++ texts.toArray }

/-- Draws the next random identifier. -/
def drawId : Run String := do
  let session ← get
  set { session with drawn := session.drawn + 1 }
  return session.randomId session.drawn

/-- An attempt whose outcome is already known. -/
def settle {ε α : Type} (outcome : Except ε α) : Attempt ε α :=
  fun session => (outcome, session)

end Session

end Corpus
