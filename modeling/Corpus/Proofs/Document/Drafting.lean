import Corpus.Document.Draft
import Corpus.Proofs.Json.Shown
import Corpus.Proofs.Session
import Mathlib.Data.List.DropRight

/-!
# What a draft comes to

The first step that is refused decides what building a draft reports.  Where no step is refused,
every part of the document is decided by the steps that concern this part, in their order: a part
is what was set last, with what was added since.
-/

namespace Corpus

namespace Draft

/-- The parts of a draft that steps set or add to. -/
inductive Part where
  | id
  | content
  | media
  | metadata
  | scheme
  | formatter
  deriving DecidableEq

namespace Step

/-- The part that a step concerns. -/
def part : Step → Part
  | .id _ => .id
  | .content _ => .content
  | .media _ | .addMedia _ => .media
  | .metadata _ | .entry _ _ => .metadata
  | .scheme _ => .scheme
  | .formatter _ => .formatter

/-- Why a step is refused. -/
inductive Refused : Step → DocumentError → Prop where
  | blankId {id : String} : Text.isBlank id = true → Refused (.id id) .emptyId
  | emptyKey {key : String} (value : Value) :
      key = "" → Refused (.entry key value) .emptyMetadataKey
  | nullValue {key : String} : key ≠ "" → Refused (.entry key .null) (.nullMetadataValue key)

def Accepted (step : Step) : Prop :=
  ∀ error, ¬step.Refused error

def id? : Step → Option String
  | .id given => some given
  | _ => none

def content? : Step → Option String
  | .content given => some given
  | _ => none

/-- The media that take the place of all others. -/
def media? : Step → Option (List Media)
  | .media given => some given
  | _ => none

def addedMedium? : Step → Option Media
  | .addMedia given => some given
  | _ => none

/-- The metadata that take the place of all others. -/
def metadata? : Step → Option Metadata
  | .metadata given => some given
  | _ => none

/-- The value that a step sets for a key. -/
def entry? (key : String) : Step → Option Value
  | .entry other value => if key = other then some value else none
  | _ => none

def scheme? : Step → Option IdScheme
  | .scheme given => some given
  | _ => none

def formatter? : Step → Option Formatter
  | .formatter given => some given
  | _ => none

end Step

/-- What is set last, or the standard value. -/
def lastSet {α : Type} (set? : Step → Option α) (standard : α) (steps : List Step) : α :=
  (steps.filterMap set?).getLastD standard

/-- The steps behind the last one that sets. -/
def sinceSet {α : Type} (set? : Step → Option α) (steps : List Step) : List Step :=
  steps.rtakeWhile fun step => (set? step).isNone

/-- The draft after a step that is accepted. -/
def take (draft : Draft) : Step → Draft
  | .id given => { draft with id := some given }
  | .entry key value => { draft with metadata := draft.metadata.insert key value }
  | step => draft.apply step

/-- A blank draft with one part of another one. -/
def only (draft : Draft) : Part → Draft
  | .id => { blank with id := draft.id }
  | .content => { blank with content := draft.content }
  | .media => { blank with media := draft.media }
  | .metadata => { blank with metadata := draft.metadata }
  | .scheme => { blank with scheme := draft.scheme }
  | .formatter => { blank with formatter := draft.formatter }

/-- The first step that is refused, and why. -/
def FirstRefusal (steps : List Step) (error : DocumentError) : Prop :=
  ∃ before step after, steps = before ++ step :: after ∧
    (∀ earlier ∈ before, earlier.Accepted) ∧ step.Refused error

/-- The parts of a document other than its identifier, as steps determine them. -/
structure Determined (steps : List Step) (document : Document) : Prop where
  content : document.content = lastSet Step.content? "" steps
  media : document.media = lastSet Step.media? [] steps ++
    (sinceSet Step.media? steps).filterMap Step.addedMedium?
  metadata : ∀ key, document.metadata.get? key =
    ((sinceSet Step.metadata? steps).filterMap (Step.entry? key)).getLast?.or
      ((lastSet Step.metadata? .empty steps).get? key)
  embedding : document.embedding = []
  formatter : document.formatter = lastSet Step.formatter? .standard steps

theorem ofSteps_concat (steps : List Step) (step : Step) :
    ofSteps (steps ++ [step]) = (ofSteps steps).apply step := by
  rw [ofSteps, List.foldl_concat]
  rfl

theorem apply_of_refused {step : Step} {error : DocumentError} (refused : step.Refused error)
    (draft : Draft) : draft.apply step = draft.refuse error := by
  cases refused with
  | blankId blank => simp [apply, setId, blank]
  | emptyKey value empty => simp [apply, setEntry, empty]
  | nullValue named => simp [apply, setEntry, named, Value.isNull_iff]

theorem apply_of_accepted {step : Step} (accepted : step.Accepted) (draft : Draft) :
    draft.apply step = draft.take step := by
  cases step with
  | id given =>
      have named : Text.isBlank given = false :=
        Bool.eq_false_iff.mpr fun blank => accepted _ (.blankId blank)
      simp [apply, take, setId, named]
  | entry key value =>
      have named : key ≠ "" := by
        intro empty
        exact accepted _ (.emptyKey value empty)
      have present : value ≠ .null := by
        rintro rfl
        exact accepted _ (.nullValue named)
      simp [apply, take, setEntry, named, Value.isNull_iff, present]
  | _ => rfl

theorem error_take (draft : Draft) (step : Step) : (draft.take step).error = draft.error := by
  cases step <;> rfl

/-! ## The first refusal -/

theorem error_apply_of_error {draft : Draft} {error : DocumentError}
    (refused : draft.error = some error) (step : Step) :
    (draft.apply step).error = some error := by
  by_cases accepted : step.Accepted
  · rw [apply_of_accepted accepted, error_take, refused]
  · obtain ⟨other, again⟩ := not_forall_not.mp accepted
    rw [apply_of_refused again, refuse, refused, Option.some_or]

theorem ofSteps_eq_foldl_take {steps : List Step} (accepted : ∀ step ∈ steps, step.Accepted) :
    ofSteps steps = steps.foldl take blank := by
  induction steps using List.reverseRecOn with
  | nil => rfl
  | append_singleton steps step induction =>
      rw [List.forall_mem_append, List.forall_mem_singleton] at accepted
      rw [ofSteps_concat, apply_of_accepted accepted.2, induction accepted.1, List.foldl_concat]

theorem error_foldl_take (steps : List Step) (draft : Draft) :
    (steps.foldl take draft).error = draft.error := by
  induction steps generalizing draft with
  | nil => rfl
  | cons step steps induction => rw [List.foldl_cons, induction, error_take]

theorem error_of_firstRefusal {steps : List Step} {error : DocumentError}
    (first : FirstRefusal steps error) : (ofSteps steps).error = some error := by
  obtain ⟨before, step, after, rfl, accepted, refused⟩ := first
  induction after using List.reverseRecOn with
  | nil =>
      rw [ofSteps_concat, apply_of_refused refused, refuse, ofSteps_eq_foldl_take accepted,
        error_foldl_take]
      rfl
  | append_singleton after later induction =>
      rw [← List.cons_append, ← List.append_assoc, ofSteps_concat]
      exact error_apply_of_error induction later

theorem exists_firstRefusal {steps : List Step} (refused : ∃ step ∈ steps, ¬step.Accepted) :
    ∃ error, FirstRefusal steps error := by
  induction steps with
  | nil => simp at refused
  | cons head steps induction =>
      by_cases accepted : head.Accepted
      · have later : ∃ step ∈ steps, ¬step.Accepted := by
          simpa [accepted] using refused
        obtain ⟨error, before, step, after, rfl, beforeAccepted, stepRefused⟩ := induction later
        exact ⟨error, head :: before, step, after, rfl,
          List.forall_mem_cons.mpr ⟨accepted, beforeAccepted⟩, stepRefused⟩
      · obtain ⟨error, headRefused⟩ := not_forall_not.mp accepted
        exact ⟨error, [], head, steps, rfl, List.forall_mem_nil _, headRefused⟩

/-! ## The parts -/

section

variable {α : Type} {set? : Step → Option α} {standard : α}

theorem lastSet_concat (steps : List Step) (step : Step) :
    lastSet set? standard (steps ++ [step]) = (set? step).getD (lastSet set? standard steps) := by
  rw [lastSet, List.filterMap_append]
  cases given : set? step with
  | none => simp [given, lastSet]
  | some value => simp [given]

theorem sinceSet_concat (steps : List Step) (step : Step) :
    sinceSet set? (steps ++ [step]) =
      if (set? step).isNone then sinceSet set? steps ++ [step] else [] :=
  List.rtakeWhile_concat ..

/-- A part that is set and added to is what was set last, joined with what was added since. -/
theorem foldl_take_eq_join {β γ : Type} (read : Draft → β) (added? : Step → Option γ)
    (join : α → List γ → β) (start : read blank = join standard [])
    (next : ∀ draft step base added, read draft = join base added →
      read (draft.take step) =
        match set? step with
        | some given => join given []
        | none => join base (added ++ (added? step).toList)) (steps : List Step) :
    read (steps.foldl take blank) =
      join (lastSet set? standard steps) ((sinceSet set? steps).filterMap added?) := by
  induction steps using List.reverseRecOn with
  | nil => exact start
  | append_singleton steps step induction =>
      rw [List.foldl_concat, next _ step _ _ induction, lastSet_concat, sinceSet_concat]
      cases set? step with
      | some given => rfl
      | none =>
          have last : [step].filterMap added? = (added? step).toList := by
            cases given : added? step <;> simp [given]
          simp [last]

theorem foldl_take_eq_lastSet (read : Draft → α)
    (next : ∀ draft step, read (draft.take step) = (set? step).getD (read draft))
    (steps : List Step) : read (steps.foldl take blank) = lastSet set? (read blank) steps := by
  refine foldl_take_eq_join read (fun _ => (none : Option Unit)) (fun base _ => base) rfl ?_ steps
  intro draft step base added same
  rw [next, same]
  cases set? step <;> rfl

end

theorem id_foldl_take (steps : List Step) :
    (steps.foldl take blank).id = (steps.filterMap Step.id?).getLast? := by
  induction steps using List.reverseRecOn with
  | nil => rfl
  | append_singleton steps step induction =>
      rw [List.foldl_concat, List.filterMap_append]
      cases step with
      | id given => simp [take, Step.id?]
      | _ => exact induction.trans (congrArg List.getLast? (List.append_nil _).symm)

theorem scheme_foldl_take (steps : List Step) :
    (steps.foldl take blank).scheme = lastSet Step.scheme? .random steps :=
  foldl_take_eq_lastSet (·.scheme) (by rintro draft (_ | _) <;> rfl) steps

theorem media_foldl_take (steps : List Step) :
    (steps.foldl take blank).media = lastSet Step.media? [] steps ++
      (sinceSet Step.media? steps).filterMap Step.addedMedium? := by
  refine foldl_take_eq_join (·.media) Step.addedMedium? (· ++ ·) rfl ?_ steps
  intro draft step base added same
  cases step with
  | media given => exact (List.append_nil given).symm
  | addMedia medium =>
      simp only [take, apply, addMedia, same, Step.media?, Step.addedMedium?, Option.toList_some,
        List.append_assoc]
  | _ => exact same.trans (congrArg (base ++ ·) (List.append_nil added).symm)

theorem get?_metadata_foldl_take (steps : List Step) (key : String) :
    (steps.foldl take blank).metadata.get? key =
      ((sinceSet Step.metadata? steps).filterMap (Step.entry? key)).getLast?.or
        ((lastSet Step.metadata? .empty steps).get? key) := by
  refine foldl_take_eq_join (·.metadata.get? key) (Step.entry? key)
    (fun (base : Metadata) added => added.getLast?.or (base.get? key)) rfl ?_ steps
  intro draft step base added same
  cases step with
  | metadata given => rfl
  | entry other value =>
      by_cases named : key = other
      · simp [take, KeyMap.get?_insert, Step.metadata?, Step.entry?, named]
      · simp [take, KeyMap.get?_insert, Step.metadata?, Step.entry?, named, same]
  | _ => exact same.trans (congrArg (fun entries : List Value =>
      entries.getLast?.or (base.get? key)) (List.append_nil added).symm)

/-! ## Steps that change places -/

theorem only_take (draft : Draft) (step : Step) (part : Part) :
    (draft.take step).only part =
      if step.part = part then ((draft.only part).take step).only part else draft.only part := by
  cases part <;> cases step <;> rfl

/-- A part depends on no other steps than those that concern it. -/
theorem only_foldl_take {draft other : Draft} {part : Part}
    (same : draft.only part = other.only part) (steps : List Step) :
    (steps.foldl take draft).only part =
      ((steps.filter fun step => step.part = part).foldl take other).only part := by
  induction steps generalizing draft other with
  | nil => exact same
  | cons step steps induction =>
      rw [List.foldl_cons]
      by_cases concerns : step.part = part
      · rw [List.filter_cons_of_pos (by simpa using concerns), List.foldl_cons]
        apply induction
        rw [only_take draft, only_take other, same]
      · rw [List.filter_cons_of_neg (by simpa using concerns)]
        apply induction
        rw [only_take, if_neg concerns, same]

theorem ext_only {left right : Draft} (same : ∀ part, left.only part = right.only part)
    (errors : left.error = right.error) : left = right := by
  cases left
  cases right
  congr
  · exact congrArg (·.id) (same .id)
  · exact congrArg (·.content) (same .content)
  · exact congrArg (·.media) (same .media)
  · exact congrArg (·.metadata) (same .metadata)
  · exact congrArg (·.scheme) (same .scheme)
  · exact congrArg (·.formatter) (same .formatter)

/-- Steps that are not refused can change places with steps that concern other parts. -/
theorem ofSteps_eq_of_parts {steps reordered : List Step}
    (accepted : ∀ step ∈ steps, step.Accepted)
    (same : ∀ part, (reordered.filter fun step => step.part = part) =
      steps.filter fun step => step.part = part) : ofSteps reordered = ofSteps steps := by
  have alsoAccepted : ∀ step ∈ reordered, step.Accepted := by
    intro step member
    have concerning : step ∈ reordered.filter fun other => other.part = step.part := by
      simpa using member
    rw [same] at concerning
    exact accepted step (List.mem_of_mem_filter concerning)
  rw [ofSteps_eq_foldl_take accepted, ofSteps_eq_foldl_take alsoAccepted]
  apply ext_only
  · intro part
    rw [only_foldl_take rfl reordered, same, ← only_foldl_take rfl steps]
  · rw [error_foldl_take, error_foldl_take]

/-! ## Building -/

theorem chooseId_run (draft : Draft) (session : Session) :
    draft.chooseId session =
      match draft.id with
      | some given => (given, session)
      | none =>
        let (made, drawn) := draft.scheme.generate draft.content draft.metadata session
        (made, drawn.reporting [.generatedId made]) := by
  rw [chooseId]
  cases draft.id with
  | some given => rfl
  | none =>
    have reported (made : String) (drawn : Session) :
        (Session.report (.generatedId made) drawn).2 = drawn.reporting [.generatedId made] :=
      (Prod.ext_iff.mp (Session.attempt_report (ε := Unit) (.generatedId made) drawn)).2
    exact Prod.ext rfl (reported _ _)

/-- The document of a draft under an identifier. -/
def assembled (draft : Draft) (id : String) : Document :=
  (Document.assemble id draft.content draft.media draft.metadata).setFormatter
    (draft.formatter.getD .standard)

/-- Building reports the refusal of the draft, or else assembles its parts under the chosen
identifier, which must not be blank. -/
theorem build_run (draft : Draft) (session : Session) :
    draft.build session =
      match draft.error with
      | some error => (.error error, session)
      | none =>
        let (chosen, later) := draft.chooseId session
        (if Text.isBlank chosen then .error .emptyId else .ok (draft.assembled chosen), later) := by
  rw [build]
  cases draft.error with
  | some error => rfl
  | none =>
      simp only [Session.attempt_bind, Session.attempt_lift, Session.attempt_settle]
      rcases draft.chooseId session with ⟨chosen, later⟩
      dsimp only [Document.ofParts]
      cases Text.isBlank chosen <;> rfl

theorem build_of_random {draft : Draft} {session : Session} (clean : draft.error = none)
    (unnamed : draft.id = none) (random : draft.scheme = .random)
    (named : Text.isBlank (session.randomId session.drawn) = false) :
    draft.build session =
      (.ok (draft.assembled (session.randomId session.drawn)),
        { session with drawn := session.drawn + 1 }.reporting
          [.generatedId (session.randomId session.drawn)]) := by
  have chosen : draft.chooseId session =
      (session.randomId session.drawn,
        { session with drawn := session.drawn + 1 }.reporting
          [.generatedId (session.randomId session.drawn)]) := by
    rw [chooseId_run, unnamed, random]
    rfl
  rw [build_run, clean, chosen]
  simp only [named, Bool.false_eq_true, if_false]

theorem isBlank_of_accepted {steps : List Step} {given : String}
    (accepted : ∀ step ∈ steps, step.Accepted)
    (last : (steps.filterMap Step.id?).getLast? = some given) : Text.isBlank given = false := by
  obtain ⟨step, member, sets⟩ := List.mem_filterMap.mp (List.mem_of_getLast? last)
  cases step with
  | id other =>
      cases sets
      exact Bool.eq_false_iff.mpr fun blank => accepted _ member _ (.blankId blank)
  | _ => cases sets

theorem determined_assembled {steps : List Step} (accepted : ∀ step ∈ steps, step.Accepted)
    (id : String) : Determined steps ((ofSteps steps).assembled id) := by
  rw [ofSteps_eq_foldl_take accepted]
  exact {
    content := foldl_take_eq_lastSet (·.content) (by rintro draft (_ | _) <;> rfl) steps
    media := media_foldl_take steps
    metadata := get?_metadata_foldl_take steps
    embedding := rfl
    formatter := foldl_take_eq_lastSet (·.formatter.getD .standard)
      (by rintro draft (_ | _) <;> rfl) steps }

/-- Every draft is built or refused as its steps determine.  The first step that is refused decides
the refusal.  Where none is refused, each part is decided by the steps that concern it, a missing
identifier is generated from the final content and metadata, and steps that concern other parts can
change places. -/
theorem build_outcome (steps : List Step) (session : Session) :
    ((∃ step ∈ steps, ¬step.Accepted) →
      ∃ error, FirstRefusal steps error ∧
        (ofSteps steps).build session = (.error error, session)) ∧
    ((∀ step ∈ steps, step.Accepted) →
      (∃ document, Determined steps document ∧
        (ofSteps steps).build session =
          match (steps.filterMap Step.id?).getLast? with
          | some given => (.ok { document with id := given }, session)
          | none =>
            let scheme := lastSet Step.scheme? .random steps
            let (made, later) := scheme.generate document.content document.metadata session
            (if Text.isBlank made then .error .emptyId else .ok { document with id := made },
              later.reporting [.generatedId made])) ∧
      ∀ reordered : List Step,
        (∀ part, (reordered.filter fun step => step.part = part) =
          steps.filter fun step => step.part = part) →
        (ofSteps reordered).build session = (ofSteps steps).build session) := by
  constructor
  · intro refused
    obtain ⟨error, first⟩ := exists_firstRefusal refused
    refine ⟨error, first, ?_⟩
    rw [build_run, error_of_firstRefusal first]
  · intro accepted
    constructor
    · have determined := determined_assembled accepted ""
      refine ⟨_, determined, ?_⟩
      have clean : (ofSteps steps).error = none := by
        rw [ofSteps_eq_foldl_take accepted, error_foldl_take]
        rfl
      have lastId : (ofSteps steps).id = (steps.filterMap Step.id?).getLast? := by
        rw [ofSteps_eq_foldl_take accepted, id_foldl_take]
      have lastScheme : (ofSteps steps).scheme = lastSet Step.scheme? .random steps := by
        rw [ofSteps_eq_foldl_take accepted, scheme_foldl_take]
      rw [build_run, clean, chooseId_run, lastId, lastScheme]
      cases last : (steps.filterMap Step.id?).getLast? with
      | some given =>
          simp only [isBlank_of_accepted accepted last, Bool.false_eq_true, if_false]
          rfl
      | none => rfl
    · intro reordered same
      rw [ofSteps_eq_of_parts accepted same]

theorem build_outcome_mixed :
    let session := Session.start fun _ => " "
    let refused : List Step := [.content "Body", .entry "key" .null, .id "", .id "named"]
    let accepted : List Step := [.entry "lost" (.bool true), .metadata .empty,
      .scheme (.derived fun content _ => content), .entry "kept" (.bool false), .content "Body"]
    (ofSteps refused).build session = (.error (.nullMetadataValue "key"), session) ∧
      ∃ document, (ofSteps accepted).build session =
          (.ok document, session.reporting [.generatedId "Body"]) ∧
        document.id = "Body" ∧ document.metadata.get? "lost" = none ∧
        document.metadata.get? "kept" = some (.bool false) := by
  intro session refused accepted
  constructor
  · have blank : ¬(Step.id "").Accepted := fun taken => taken _ (.blankId rfl)
    obtain ⟨error, first, built⟩ :=
      (build_outcome refused session).1 ⟨.id "", by simp [refused], blank⟩
    have reported : some (.nullMetadataValue "key") = some error := error_of_firstRefusal first
    cases reported
    exact built
  · have taken : ∀ step ∈ accepted, step.Accepted := by
      intro step member error wrong
      simp only [accepted, List.mem_cons, List.not_mem_nil, or_false] at member
      rcases member with rfl | rfl | rfl | rfl | rfl <;> cases wrong <;> contradiction
    obtain ⟨⟨document, determined, built⟩, -⟩ := (build_outcome accepted session).2 taken
    have unnamed : (accepted.filterMap Step.id?).getLast? = none := rfl
    have made : (lastSet Step.scheme? .random accepted).generate document.content
        document.metadata session = ("Body", session) := by
      rw [determined.content]
      rfl
    have named : Text.isBlank "Body" = false := by decide
    simp only [unnamed, made, named, Bool.false_eq_true, if_false] at built
    exact ⟨_, built, rfl, determined.metadata "lost", determined.metadata "kept"⟩

end Draft

end Corpus
