import MessagePack.Nesting.Violation

/-!
# Log events

What the library reports to its log as it works. A violation of the nesting of
compounds is reported where it is found, and a latch reports the fault that it
keeps. A failed allocation is not reported where it is found.
-/

namespace MessagePack

/-- The severity of an event. Nothing is reported as an error: what ends the
work of an owner is a warning at most. -/
inductive Level where
  | debug
  | warn
  deriving DecidableEq, Repr

/-- The name of a severity, as the log writes it. -/
def Level.name : Level → String
  | debug => "DEBUG"
  | warn => "WARN"

/-- One report to the log. It keeps its cause as data, and level, target,
message and fields are computed from that. -/
inductive Event where
  /-- A call did not fit the open compounds. -/
  | nesting (cause : Violation)
  /-- A latch keeps a fault, which is a breach of the rules or not. -/
  | latched (fault : Fault) (breach : Bool)
  deriving DecidableEq, Repr

namespace Event

/-- Only a latched breach is a warning. What a stack reports is never one, since
a latch that hears of it warns by itself. -/
def level : Event → Level
  | latched _ true => .warn
  | _ => .debug

/-- The part of the library that reports: the stack of open compounds or the
latch. -/
def target : Event → String
  | nesting _ => "msgpack_core::track"
  | latched _ _ => "msgpack_core::error"

/-- The event in words. A latch says only whether a breach was latched; the
fault stands among the fields. -/
def message : Event → String
  | nesting cause => cause.message
  | latched _ true => "api misuse latched"
  | latched _ false => "error latched"

/-- The names and values that the event gives beside its message, in the order
in which they are written. -/
def fields : Event → List (String × String)
  | nesting cause => cause.fields
  | latched fault _ => [("error", fault.name)]

end Event

/-- The events that tell of a refusal where it is found. Missing memory is told
only by the latch that hears of it, if there is one. -/
def Refusal.events : Refusal → List Event
  | violation cause => [.nesting cause]
  | allocation => []

end MessagePack
