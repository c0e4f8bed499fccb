/-!
# Faults

The ways in which reading or writing MessagePack data can fail for good. Misuse
of the interface by its caller is one of them and is told apart from bad data.
-/

namespace MessagePack

/-- A terminal failure of a reader, a writer or a tree of values. No work goes
on after one: an owner keeps the first and refuses everything else with it. -/
inductive Fault where
  /-- The source or the sink below failed. -/
  | io
  /-- The bytes read are not MessagePack. -/
  | invalidEncoding
  /-- The kind or the range of a value is not the one expected. -/
  | kindMismatch
  /-- A size went over the limit of the operation. -/
  | sizeExceeded
  /-- Memory could not be had. -/
  | allocationFailure
  /-- The caller broke the rules of the interface. -/
  | misuse
  /-- The data is MessagePack, but what it holds is not valid. -/
  | invalidData
  deriving DecidableEq, Repr

namespace Fault

/-- Every fault once, in the fixed order in which they are numbered. -/
def all : List Fault :=
  [io, invalidEncoding, kindMismatch, sizeExceeded, allocationFailure, misuse, invalidData]

/-- The short name of a fault. It is what events and statuses give, and it tells
faults apart. -/
def name : Fault → String
  | io => "io"
  | invalidEncoding => "invalid"
  | kindMismatch => "type"
  | sizeExceeded => "too_big"
  | allocationFailure => "memory"
  | misuse => "bug"
  | invalidData => "data"

/-- The fault of that name, if there is one. The name of a good status belongs
to none. -/
def ofName? (name : String) : Option Fault := all.find? (·.name == name)

/-- The fault in words, for a reader of a message rather than for a program. -/
def message : Fault → String
  | io => "i/o failure while filling or flushing"
  | invalidEncoding => "data is not valid MessagePack"
  | kindMismatch => "type or value range mismatch"
  | sizeExceeded => "size limit exceeded"
  | allocationFailure => "allocation failure"
  | misuse => "api misuse"
  | invalidData => "contained data is invalid"

/-- Whether the fault lies with the caller and not with the data. A caller who
keeps to the rules never sees one that does. -/
def isMisuse (fault : Fault) : Bool := fault == misuse

/-- The short name of a status, where no fault is a good status. -/
def statusName (status : Option Fault) : String := (status.map name).getD "ok"

instance : ToString Fault := ⟨message⟩

end Fault

end MessagePack
