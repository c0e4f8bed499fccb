/-!
# Directions

Values are either read from a source or written to a sink. Both directions count
the same units in the same way; they differ in the switch that tracks them and
in the word that reports use.
-/

namespace MessagePack

/-- Whether values are read or written. A stack of open compounds has no
direction of its own: each call brings the one that its reports name. -/
inductive Direction where
  | reading
  | writing
  deriving DecidableEq, Repr

namespace Direction

/-- What has been done to a unit that went by. It is the only word in which the
reports of the two directions differ. -/
def participle : Direction → String
  | reading => "read"
  | writing => "written"

/-- The other direction. Taking it twice changes nothing. -/
def opposite : Direction → Direction
  | reading => writing
  | writing => reading

end Direction

end MessagePack
