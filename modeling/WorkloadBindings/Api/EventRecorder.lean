import WorkloadBindings.Api.Reply
import WorkloadBindings.Reconcile.Call

/-!
# Publishing events

An event is published as an object of its own. When the same thing happens to the same binding
again, the object published first is changed instead: it keeps its name and note, and a count tells
how often the thing happened. An event that could not be published is forgotten, and that is no
failure.
-/

namespace WorkloadBindings

/-- An event that was published. -/
structure PublishedEvent where
  /-- The event as it happened first. -/
  event : Event
  /-- When it happened first. -/
  time : Timestamp
  /-- How often it happened. -/
  count : Nat
  deriving DecidableEq

/-- Publishes events in the name of a controller. -/
structure EventRecorder where
  controller : String
  /-- The replica of the controller, if it has a name of its own. -/
  «instance» : Option String
  published : List PublishedEvent := []
  deriving DecidableEq

namespace EventRecorder

/-- Two events are of the same thing that happened: all but their notes agree. -/
def sameThing (a b : Event) : Bool :=
  a.reference == b.reference && a.type == b.type && a.reason == b.reason

/-- The time in nanoseconds since the beginning of 1970, if it is near enough, else in seconds. -/
def stamp (t : Timestamp) : Nat :=
  let nanos := t.seconds * 1000000000 + t.nanos
  (if nanos < 9223372036854775808 then nanos else t.seconds).toNat

/-- A number in hexadecimal digits. -/
def hex (n : Nat) : String := String.ofList (Nat.toDigits 16 n)

/-- The name of the object for an event that happened first at some time. -/
def objectName (r : EventRecorder) (e : Event) (time : Timestamp) : String :=
  e.reference.name.getD r.controller ++ "." ++ hex (stamp time)

/-- The object for an event, with the count and the time when it happened more than once. -/
def toJson (r : EventRecorder) (p : PublishedEvent) (series : Option Timestamp) : Json :=
  .record
    [("action", some (.str "Reconcile")),
     ("apiVersion", some (.str "events.k8s.io/v1")),
     ("eventTime", some (.str p.time.renderMicros)),
     ("kind", some (.str "Event")),
     ("metadata", some (.record
       [("name", some (.str (r.objectName p.event p.time))),
        ("namespace", p.event.reference.namespace.map .str)])),
     ("note", p.event.note.map .str),
     ("reason", some (.str p.event.reason)),
     ("regarding", some p.event.reference.toJson),
     ("reportingController", some (.str r.controller)),
     ("reportingInstance", some (.str (r.instance.getD r.controller))),
     ("series", series.map fun t => .obj
       [("count", .int p.count), ("lastObservedTime", .str t.renderMicros)]),
     ("type", some (.str p.event.type.name))]

/-- The wire shape of an event. -/
def shape : Shape :=
  .api "Event"
    [("action", .nullable, .text),
     ("apiVersion", .lenient (.str "events.k8s.io/v1"), .literal "events.k8s.io/v1"),
     ("deprecatedCount", .nullable, Shape.int32),
     ("deprecatedFirstTimestamp", .nullable, .instant false),
     ("deprecatedLastTimestamp", .nullable, .instant false),
     ("deprecatedSource", .nullable,
       .api "EventSource" [("component", .nullable, .text), ("host", .nullable, .text)]),
     ("eventTime", .nullable, .instant true),
     ("kind", .lenient (.str "Event"), .literal "Event"),
     ("metadata", .filled (.obj []), Metadata.shape),
     ("note", .nullable, .text),
     ("reason", .nullable, .text),
     ("regarding", .nullable, ObjectReference.shape),
     ("related", .nullable, ObjectReference.shape),
     ("reportingController", .nullable, .text),
     ("reportingInstance", .nullable, .text),
     ("series", .nullable,
       .api "EventSeries"
         [("count", .filled (.int 0), Shape.int32),
          ("lastObservedTime", .filled (.str "1970-01-01T00:00:00Z"), .instant true)]),
     ("type", .nullable, .text)]

/-- The path of the events that a reference's are among. -/
def path (reference : ObjectReference) : String :=
  namespacedPath "events.k8s.io" "v1" (reference.namespace.getD "default") "events"

/-- The events published so far with one of them put in, in place of one of the same thing. -/
def remember (r : EventRecorder) (p : PublishedEvent) : EventRecorder :=
  { r with published := p :: r.published.filter fun q => !sameThing q.event p.event }

/-- Publishes an event. -/
def publish (r : EventRecorder) (now : Timestamp) (e : Event) : Exchange EventRecorder := do
  let (p, request) :=
    match r.published.find? fun q => sameThing q.event e with
    | some q =>
      let p := { q with count := q.count + 1 }
      (p,
        Request.patch (path e.reference) (r.objectName p.event p.time) [] Request.mergePatch
          (r.toJson p (some now)))
    | none =>
      let p : PublishedEvent := ⟨e, now, 1⟩
      (p, Request.create (path e.reference) (r.toJson p none))
  match ← Request.send request shape id with
  | .ok _ => pure (r.remember p)
  | .error _ => pure r

end EventRecorder

end WorkloadBindings
