import Corpus.Binary.Word
import Corpus.Json.Number

/-!
# Vector components

The components of vectors are floating-point numbers of 32 bits.  Numbers that are read are
rounded once, and what lies beyond every finite component becomes an infinity.
-/

namespace Corpus

namespace Component

theorem toBits_injective {left right : Float32} (same : left.toBits = right.toBits) :
    left = right := by
  cases left with
  | ofModel left =>
    cases right with
    | ofModel right =>
      cases left
      cases right
      cases same
      rfl

def ofWord (word : UInt32) : Float32 :=
  if special : Float.Model.UnpackedFloat.unpackExponent
      (show BitVec Float.Model.Format.binary32.numBits from word.toBitVec) = -1#_ then
    Float32.ofBits word
  else
    Float32.ofModel ⟨word, ⟨fun ones => absurd ones special⟩⟩

def finite? (component : Float32) : Option Single :=
  Single.ofWord? component.toBits

def infinity (negative : Bool) : Float32 :=
  ofWord (if negative then 0xFF800000 else 0x7F800000)

/-- A rounded number, or the infinity that it overflows to. -/
def ofRounded (negative : Bool) : Option Single → Float32
  | some number => ofWord number.toWord
  | none => infinity negative

def ofInt (whole : Int) : Float32 :=
  ofRounded (decide (whole < 0)) (Binary.ofInt? .single whole)

def ofDouble (real : Double) : Float32 :=
  ofRounded real.negative (Binary.convert .single real)

def ofNumber : Number → Float32
  | .integer whole _ => ofInt whole
  | .real real => ofDouble real

/-- The real that a component is, if it is finite. -/
def toDouble? (component : Float32) : Option Double :=
  (finite? component).bind (Binary.convert .double ·)

/-- Components are written positionally from six places behind the point up to thirteen digits
before it. -/
def layout : Decimal.Layout := ⟨-6, 12⟩

/-- The text of a component; one that is not finite is null. -/
def write (component : Float32) : List Char :=
  match finite? component with
  | some number => layout.writeBinary number
  | none => ['n', 'u', 'l', 'l']

/-- A rank in the total order of components: a negative zero comes just before zero. -/
def rank (component : Float32) : Int :=
  let word := component.toBits.toNat
  if word < 0x80000000 then word else 0x7FFFFFFF - (word : Int)

end Component

end Corpus
