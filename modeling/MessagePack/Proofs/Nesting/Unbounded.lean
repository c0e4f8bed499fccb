import MessagePack.Proofs.Nesting.Plain

/-!
# A stack is a list that may lack memory

Seen without its room a stack is its plain list of open compounds, and a call on
it shows what the same call on the list shows. The only exception is an opening
that the list would carry out and for which memory ran out; that leaves the
stack as it is. So what a run shows up to there tells nothing about how much
room the stack began with, when it grew and how its requests were answered.
-/

namespace MessagePack.Nesting

/-! ## The plain list as a machine -/

/-- Carries out a call on a plain list of open compounds. The step shows an
outcome and a report just as that of a stack does. -/
def performPlain (direction : Direction) (frames : List Frame) (call : Call) :
    Step (List Frame) Unit :=
  match attemptPlain direction frames call with
  | .ok after => ⟨after, .ok (), []⟩
  | .error violation => ⟨frames, .refused violation.fault, [.nesting violation]⟩

/-- The plain list as a machine on calls with their directions. It goes on after
refusals, with the list as it was. -/
def unbounded : Machine (List Frame) (Call × Direction) (Step (List Frame) Unit) where
  react frames asked := performPlain asked.2 frames asked.1
  next step := step.state

/-- What is asked in a turn, without how requests for room are answered: the
part of a turn that the plain list knows. -/
def Turn.asked (turn : Turn) : Call × Direction := (turn.call, turn.direction)

/-- Gives a plain list up. Unless it is cancelled, nothing may be open, and
otherwise the report names the innermost compound and how many there are. -/
def destroyPlain (frames : List Frame) (cancel : Bool) : Except Refusal Unit :=
  match frames with
  | [] => .ok ()
  | top :: _ => if cancel then .ok () else .error (.violation (.unclosed top.kind frames.length))

/-- A stack is given up as its plain list, since giving it up does not ask for
room. -/
theorem destroy_eq_plain (nesting : Nesting) (cancel : Bool) :
    nesting.destroy cancel = destroyPlain nesting.frames cancel := by
  obtain ⟨frames, capacity, initialCapacity⟩ := nesting
  cases frames <;> cases cancel <;> rfl

/-! ## The same call on both -/

/-- A call on a stack shows what it shows on the plain list, or it is an opening
that the list would carry out, and memory ran out. In the second case the stack
is left as it was and nothing is reported.

Proof: by the three cases of a call on a stack and on its list. -/
theorem perform_plain (nesting : Nesting) (allocator : Allocator) (direction : Direction)
    (call : Call) :
    (nesting.perform allocator direction call).within Nesting.frames =
        performPlain direction nesting.frames call ∨
      call.isPush = true ∧ (performPlain direction nesting.frames call).outcome = .ok () ∧
        nesting.perform allocator direction call = ⟨nesting, .refused .allocationFailure, []⟩ := by
  rw [perform, performPlain]
  rcases attempt_cases nesting allocator direction call with
    ⟨frames, capacity, fits, tried⟩ | ⟨violation, misfit, tried⟩ | ⟨opening, ⟨frames, fits⟩, tried⟩
  · rw [fits, tried]
    exact .inl rfl
  · rw [misfit, tried]
    exact .inl rfl
  · rw [fits, tried]
    exact .inr ⟨opening, rfl, rfl⟩

/-- No call on a plain list lacks memory: it is carried out or it is a
violation, which is not a lack of memory. -/
theorem performPlain_spares (direction : Direction) (frames : List Frame) (call : Call) :
    ¬ (performPlain direction frames call).LacksMemory := by
  unfold performPlain
  cases attemptPlain direction frames call with
  | ok after => exact nofun
  | error violation =>
    intro lacking
    exact violation.fault_ne_allocationFailure (Outcome.refused.inj lacking)

/-! ## A run of the stack and of its list -/

/-- A stack is seen as its plain list, but for calls that lack memory. The
frames of a stack are the list, and a step is seen through them. -/
def asPlainList : machine.Refines unbounded Step.LacksMemory where
  state := Nesting.frames
  input := Turn.asked
  reaction step := step.within Nesting.frames
  next _ := rfl
  react nesting turn spared := by
    rcases perform_plain nesting turn.allocator turn.direction turn.call with same | ⟨_, _, step⟩
    · exact same
    · exact absurd (congrArg Step.outcome step) spared

/-- Only an opening that the plain list would carry out lacks memory, and it
leaves the stack as it was. Where a run first differs from the run on the list,
this says how. -/
theorem opening_of_lacking {nesting : Nesting} {turn : Turn}
    (lacking : (machine.react nesting turn).LacksMemory) :
    turn.call.isPush = true ∧ (unbounded.react nesting.frames turn.asked).outcome = .ok () ∧
      (machine.react nesting turn).state = nesting := by
  rcases perform_plain nesting turn.allocator turn.direction turn.call with
    same | ⟨opening, fits, step⟩
  · have plainLacks : (performPlain turn.direction nesting.frames turn.call).LacksMemory := by
      rw [← same]
      exact lacking
    exact absurd plainLacks (performPlain_spares _ _ _)
  · exact ⟨opening, fits, congrArg Step.state step⟩

end MessagePack.Nesting
