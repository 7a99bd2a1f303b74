import Introspect.Copy
import Introspect.LiveValue

/-!
# Sessions

In a session one caller works with one cache. It keeps profiles and objects under names, asks
questions that start from what it keeps, and may switch the cache on and off in between.

* `Question.inquiry?` is the inquiry behind a question, with what the caller keeps afterwards.
* `Session.step` takes one step, and `Session.run` all of them: each question makes a report.
-/

namespace Introspect

variable {V : Type}

/-! ## What a caller keeps -/

/-- Profiles and objects by name, the newest first. -/
structure Holdings (V : Type) where
  profiles : List (String × Profile V)
  objects : List (String × V)

namespace Holdings

/-- Keeps a profile, if there is a name for it. -/
def keep (held : Holdings V) (profile : Profile V) : Option String → Holdings V
  | some name => { held with profiles := (name, profile) :: held.profiles }
  | none => held

/-- Puts an object in the place of the one that has its name. -/
def place (held : Holdings V) (name : String) (object : V) : Holdings V :=
  { held with objects := (name, object) :: held.objects.filter (·.1 != name) }

end Holdings

/-! ## Questions -/

/-- Where a question starts: from a type, or from a profile that was kept. -/
inductive Root where
  | fresh (type : TypeName)
  | kept (name : String)
  deriving DecidableEq, Repr

/-- The profile that a question starts from; a name may stand for none. -/
def Root.profile? (held : Holdings V) : Root → Option (Inquiry V (Profile V))
  | .fresh type => some (Inquiry.profile type)
  | .kept name => (held.profiles.lookup name).map .done

/-- What is asked about a path. -/
inductive Aspect where
  | presence (direction : Direction)
  | type (direction : Direction)
  | accessor (direction : Direction)
  /-- The spelling, with the setting or with a choice of one's own. -/
  | spelling (camelCase? : Option Bool)
  | resolution
  deriving DecidableEq, Repr

/-- What a caller asks, and what it asks to be done with its objects. -/
inductive Question (V : Type) where
  /-- The profile of a type, to be kept under a name. -/
  | profile (root : Root) (name? : Option String)
  /-- The profile of the type of a property's values, to be kept under a name. -/
  | valueProfile (root : Root) (property : String) (name? : Option String)
  | about (aspect : Aspect) (root : Root) (path : String)
  | read (root : Root) (object path : String)
  | write (root : Root) (object path : String) (value : Option V)
  | copy (type : TypeName) (origin target : String)

/-- The answer to a question. -/
inductive Answer (V : Type) where
  | profile (profile : Profile V)
  | presence (holds : Bool)
  | type (type : TypeName)
  | accessor (accessor : Accessor V)
  | spelling (path? : Option String)
  | resolution (resolution : Profile.Resolution)
  | read (value : Option V)
  | written
  | copied (fields : Nat)

/-- Answers a question about a path. -/
def Aspect.ask (settings : Settings) (profile : Profile V) (path : Path) :
    Aspect → Inquiry V (Answer V)
  | .presence direction => .presence <$> profile.hasAt direction path
  | .type direction => .type <$> profile.typeAt direction path
  | .accessor direction => .accessor <$> profile.accessorAt direction path
  | .spelling camelCase? => do
    let found ← profile.findPath (camelCase?.getD settings.camelCase) path
    return .spelling (found.map Path.render)
  | .resolution => .resolution <$> profile.resolveAt settings.camelCase path

/-- The inquiry behind a question, where its names stand for something: it gives the outcome, and
what is kept afterwards. A write may fail and leave its object changed. -/
def Question.inquiry? (settings : Settings) (held : Holdings V) :
    Question V → Option (Inquiry V (Except PropertyError (Answer V) × Holdings V))
  | .profile root name? => do
    let start ← root.profile? held
    return do
      let profile ← start
      return (.ok (.profile profile), held.keep profile name?)
  | .valueProfile root property name? => do
    let start ← root.profile? held
    return do
      let profile ← (← start).valueProfile property
      return (.ok (.profile profile), held.keep profile name?)
  | .about aspect root path => do
    let start ← root.profile? held
    return do
      let answer ← aspect.ask settings (← start) (.parse path)
      return (.ok answer, held)
  | .read root name path => do
    let start ← root.profile? held
    let object ← held.objects.lookup name
    return do
      let value ← (← start).readAt object (.parse path)
      return (.ok (.read value), held)
  | .write root name path value => do
    let start ← root.profile? held
    let object ← held.objects.lookup name
    return do
      let (after, result) ← (← start).writeAt object (.parse path) value
      -- the object is kept as the write leaves it, whether it succeeded or not
      return (result.map fun () => .written, held.place name after)
  | .copy type origin target => do
    let source ← held.objects.lookup origin
    let object ← held.objects.lookup target
    return do
      let (fields, after) ← Inquiry.copyFields type source object
      return (.ok (.copied fields), held.place target after)

/-! ## Steps -/

/-- What a caller does. -/
inductive Step (V : Type) where
  | ask (question : Question V)
  /-- Makes an object, or changes one without asking. -/
  | place (name : String) (object : V)
  /-- Switches the cache on or off. -/
  | switch (enabled : Bool)
  /-- Sees to it that the next look into the source switches the cache. -/
  | arm (interruption : Interruption)

/-- Whether a step does nothing but switch the cache. -/
def Step.isSwitch : Step V → Bool
  | .ask _ => false
  | .place .. => false
  | .switch _ => true
  | .arm _ => true

/-- What a caller sees of a question: the outcome, unless a name stood for nothing, and what it
keeps afterwards. -/
structure Report (V : Type) where
  outcome? : Option (Except PropertyError (Answer V))
  held : Holdings V

/-- The report of a question, by the result of its inquiry; one that fails leaves alone what the
caller keeps. -/
def Report.ofResult (held : Holdings V) :
    Except PropertyError (Except PropertyError (Answer V) × Holdings V) → Report V
  | .ok (outcome, after) => ⟨some outcome, after⟩
  | .error cause => ⟨some (.error cause), held⟩

/-- A cache and what its caller keeps. -/
structure Session (V : Type) where
  cache : Cache V
  held : Holdings V

namespace Session

/-- Asks a question. -/
def ask (source : Source V) (session : Session V) (question : Question V) :
    Report V × Session V :=
  match question.inquiry? session.cache.settings session.held with
  | none => (⟨none, session.held⟩, session)
  | some inquiry =>
    let (result, cache) := inquiry.run source session.cache
    let report := Report.ofResult session.held result
    (report, ⟨cache, report.held⟩)

/-- Takes a step; a question makes a report. -/
def step (source : Source V) (session : Session V) : Step V → Option (Report V) × Session V
  | .ask question =>
    let (report, after) := session.ask source question
    (some report, after)
  | .place name object => (none, { session with held := session.held.place name object })
  | .switch enabled => (none, { session with cache := session.cache.setEnabled enabled })
  | .arm interruption =>
    (none, { session with cache := { session.cache with interruption? := some interruption } })

/-- Takes steps in turn: gives the reports, and the session as it is at the end. -/
def run (source : Source V) (session : Session V) : List (Step V) → List (Report V) × Session V
  | [] => ([], session)
  | next :: rest =>
    let (report?, after) := session.step source next
    let (reports, last) := after.run source rest
    (report?.toList ++ reports, last)

end Session

end Introspect
