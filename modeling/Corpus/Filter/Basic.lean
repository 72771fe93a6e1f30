import Corpus.Metadata

/-!
# Metadata filters

A filter accepts or refuses metadata by the values of some keys.  `Filter.matchesMetadata` decides
it.
-/

namespace Corpus

/-- A condition on metadata. -/
inductive Filter where
  /-- The key has this value. -/
  | eq (key : String) (value : Value)
  /-- The key has one of these values. -/
  | oneOf (key : String) (values : List Value)
  /-- The key has a number between two bounds, each of which may be missing. -/
  | range (key : String) (min max : Option Value)
  /-- All of these conditions hold. -/
  | all (filters : List Filter)
  /-- At least one of these conditions holds. -/
  | any (filters : List Filter)

namespace Filter

/-- Whether a bound is met: a missing one always is, and one that is not a number never is. -/
def within (bound : Option Value) (test : Double → Bool) : Bool :=
  match bound with
  | none => true
  | some value => (value.toDouble?.map test).getD false

/-- Whether the number of a value lies between two bounds.  Whole numbers are compared as the
reals nearest to them. -/
def inRange (min max : Option Value) (value : Value) : Bool :=
  match value.toDouble? with
  | none => false
  | some number => within min (·.le number) && within max (number.le ·)

mutual

def matchesMetadata (metadata : Metadata) : Filter → Bool
  | .eq key value => (metadata.get? key).any fun entry => entry.alike value
  | .oneOf key values => (metadata.get? key).any fun entry => values.any (·.alike entry)
  | .range key min max => (metadata.get? key).any (inRange min max)
  | .all filters => allMatch metadata filters
  | .any filters => anyMatches metadata filters

def allMatch (metadata : Metadata) : List Filter → Bool
  | [] => true
  | filter :: filters => filter.matchesMetadata metadata && allMatch metadata filters

def anyMatches (metadata : Metadata) : List Filter → Bool
  | [] => false
  | filter :: filters => filter.matchesMetadata metadata || anyMatches metadata filters

end

end Filter

end Corpus
