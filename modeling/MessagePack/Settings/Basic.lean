import MessagePack.Direction

/-!
# Settings

The switches that a reader, a writer or a tree is made with. The values as built
depend on the kind of build. A debug build has every check switched on, and it
is the one described here; a release build has all three checks switched off and
reserves the same number of frames. The tracking settings are the same in both:
they keep both directions tracked, but latch misuse without failing an
assertion.
-/

namespace MessagePack

/-- The switches of one reader, writer or tree. They are read when it is made
and not again. -/
structure Settings where
  /-- Whether latching misuse fails an assertion. -/
  assertsMisuse : Bool
  /-- Whether compounds opened by a reader are tracked. -/
  tracksReading : Bool
  /-- Whether compounds opened by a writer are tracked. -/
  tracksWriting : Bool
  /-- The number of frames reserved when the first compound is opened. -/
  initialCapacity : UInt64
  deriving DecidableEq, Repr

namespace Settings

/-- The settings as built, with every check switched on. These are the values of
a debug build; in a release build the three checks are off. -/
def asBuilt : Settings := ⟨true, true, true, 8⟩

/-- The settings that track both directions without assertions, in every kind of
build. -/
def tracking : Settings := ⟨false, true, true, 8⟩

instance : Inhabited Settings := ⟨asBuilt⟩

/-- Whether compounds are tracked in a direction. Each direction has a switch of
its own. -/
def tracks (settings : Settings) : Direction → Bool
  | .reading => settings.tracksReading
  | .writing => settings.tracksWriting

end Settings

end MessagePack
