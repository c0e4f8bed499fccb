import MessagePack.Proofs.Monitor.Turn
import MessagePack.Proofs.Nesting.Room
import MessagePack.Proofs.Nesting.Unbounded

/-!
# Room is seen only where it is missing

Two stacks with the same open compounds answer the same to the same calls, leave
the same compounds and report the same events, until one of them lacks memory.
Nothing else depends on what room they have, for how much they ask and how that
is answered. The same holds of two monitors with the same switches and the same
kept fault, whatever their initial capacities, also when they are given up.

Each of the two is compared with one that has a plain list of open compounds in
the place of a stack and so never lacks memory.
-/

namespace MessagePack.Monitor

variable {α : Type}

/-! ## A monitor with a plain list -/

/-- The tracking state with a plain list of open compounds, innermost first.
There is no room in it that could be missing. -/
structure Plain where
  latch : Latch
  frames : List Frame
  direction : Direction
  enabled : Bool
  deriving DecidableEq, Repr

/-- The monitor without the room of its stack. Two monitors are compared by
it. -/
def plain (monitor : Monitor) : Plain :=
  ⟨monitor.latch, monitor.nesting.frames, monitor.direction, monitor.enabled⟩

namespace Plain

/-- The state with another state of its latch. -/
def withLatch (plain : Plain) (latch : Latch) : Plain := { plain with latch }

/-- Carries out a call on the list. -/
def perform (plain : Plain) (call : Nesting.Call) : Step Plain Unit :=
  match plain.latch.held with
  | some fault => ⟨plain, .refused fault, []⟩
  | none =>
    if plain.enabled then
      match Nesting.attemptPlain plain.direction plain.frames call with
      | .ok frames => ⟨{ plain with frames }, .ok (), []⟩
      | .error violation =>
        (plain.latch.deliverRefusal (.violation violation) (.refused violation.fault)).within
          plain.withLatch
    else ⟨plain, .ok (), []⟩

/-- Does a deed. Beside the step stands how often guarded work ran. -/
def take (plain : Plain) (deed : Deed α) : Step Plain (Option α) × Nat :=
  match deed with
  | .act (.track call) => ((plain.perform call).replace none, 0)
  | .act (.latch call) =>
    let (step, runs) := plain.latch.perform call
    (step.within plain.withLatch, runs)
  | .flag fault => (((plain.latch.flag fault).within plain.withLatch).replace none, 0)

/-- Gives the state up and tells how its owner fared. -/
def close (plain : Plain) (cancel : Bool) : Step Latch Unit :=
  match Nesting.destroyPlain plain.frames
      (cancel || !plain.latch.isClear || !plain.enabled) with
  | .ok () => ⟨plain.latch, verdict plain.latch, []⟩
  | .error refusal =>
    plain.latch.deliverRefusal refusal (verdict (plain.latch.flagViolation refusal.fault).state)

end Plain

/-- The monitor with a plain list as a machine on deeds. It takes deeds, because
turns differ from them only in the allocator. -/
def unbounded : Machine Plain (Deed α) (Step Plain (Option α) × Nat) where
  react := Plain.take
  next reply := reply.1.state

/-! ## The same deed on both -/

/-- A call on the stack of a monitor shows what it shows on the plain list, or
it lacks memory.

Proof: a kept fault and the switch are the same on both sides. Behind them the
stack does what the plain list does, or lacks memory, and a violation is
delivered to the same latch. -/
theorem perform_plain (monitor : Monitor) (allocator : Allocator) (call : Nesting.Call) :
    (monitor.perform allocator call).within plain = monitor.plain.perform call ∨
      (monitor.perform allocator call).LacksMemory := by
  cases latched : monitor.fault? with
  | some kept =>
    have held : monitor.plain.latch.held = some kept := latched
    rw [perform_of_held latched, Plain.perform, held]
    exact .inl rfl
  | none =>
    have clear : monitor.plain.latch.held = none := latched
    by_cases tracked : monitor.enabled = true
    · have enabled : monitor.plain.enabled = true := tracked
      rw [Plain.perform, clear]
      simp only [if_pos enabled]
      rcases Nesting.attempt_cases monitor.nesting allocator monitor.direction call with
        ⟨frames, capacity, fits, tried⟩ | ⟨violation, misfit, tried⟩ | ⟨_, _, tried⟩
      · rw [perform_of_carried latched tracked tried]
        have plainFits : Nesting.attemptPlain monitor.plain.direction monitor.plain.frames call =
            .ok frames := fits
        rw [plainFits]
        exact .inl rfl
      · rw [perform_delivers latched tracked tried]
        have plainMisfit : Nesting.attemptPlain monitor.plain.direction monitor.plain.frames call =
            .error violation := misfit
        rw [plainMisfit]
        exact .inl rfl
      · rw [perform_of_refused latched tracked tried]
        exact .inr (if_neg fun both => both.2 rfl)
    · have untracked : monitor.enabled = false := Bool.eq_false_iff.mpr tracked
      have disabled : monitor.plain.enabled = false := untracked
      rw [perform_of_untracked latched untracked, Plain.perform, clear]
      simp only [disabled, Bool.false_eq_true, if_false]
      exact .inl rfl

/-- A monitor is seen with its plain list, but for calls that lack memory. Of a
turn only the deed is seen, since a plain list needs no allocator. -/
def asPlainList : (@machine α).Refines (@unbounded α) fun reply => reply.1.LacksMemory where
  state := plain
  input := Turn.deed
  reaction reply := (reply.1.within plain, reply.2)
  next _ := rfl
  react monitor turn spared := by
    obtain ⟨deed, allocator⟩ := turn
    cases deed with
    | flag fault => rfl
    | act action =>
      cases action with
      | latch call => rfl
      | track call =>
        rcases perform_plain monitor allocator call with same | lacking
        · exact congrArg (fun step => (step.replace none, 0)) same
        · have replaced :
              ((monitor.perform allocator call).replace (none : Option α)).LacksMemory :=
            congrArg (Outcome.bind · fun _ => .ok none) lacking
          exact absurd replaced spared

/-- A monitor is given up as it is with its plain list, as this needs no
memory. -/
theorem close_eq_plain (monitor : Monitor) (cancel : Bool) :
    monitor.close cancel = monitor.plain.close cancel := by
  rw [close, Nesting.destroy_eq_plain]
  rfl

/-! ## Room is not seen -/

/-- A new monitor has the same plain list as another one with the same switches.
Their initial capacities do not count, nor does the switch of the other
direction. -/
theorem ofSettings_plain {direction : Direction} {settings other : Settings}
    (asserts : settings.assertsMisuse = other.assertsMisuse)
    (tracks : settings.tracks direction = other.tracks direction) :
    (ofSettings direction settings).plain = (ofSettings direction other).plain := by
  simp [ofSettings, plain, Latch.ofSettings, Nesting.ofInitialCapacity, asserts, tracks]

/-- Room is not seen until it is missing.

Two bare stacks with the same open compounds, such as two that were just made in
whatever ways, are asked the same. As long as neither answers that memory ran
out, both show what a plain list of open compounds shows, in outcome, frames and
events, and they are given up as that. When one does, it was asked to open a
compound that the plain list opens, and it is left as it was.

The same holds of two monitors that differ only in the room of their stacks,
such as two new ones with the same switches. What is shown there is also the
latch and how often guarded work ran.

Proof: a stack refines the plain list, but for calls that lack memory, so up to
the first of these both runs show what the plain list shows on what they were
asked, and that is the same for both. They are given up as the plain list is,
which asks for no memory. A monitor refines the one with a plain list in the
same way. -/
theorem room_unseen :
    (∀ (left right : Nesting) (leftTurns rightTurns : List Nesting.Turn) (count : Nat),
      left.frames = right.frames →
      leftTurns.map Nesting.Turn.asked = rightTurns.map Nesting.Turn.asked →
      (∀ step ∈ (Nesting.machine.reactions left leftTurns).take count, ¬ step.LacksMemory) →
      (∀ step ∈ (Nesting.machine.reactions right rightTurns).take count, ¬ step.LacksMemory) →
      let asked := leftTurns.map Nesting.Turn.asked
      let shown := (Nesting.unbounded.reactions left.frames asked).take count
      let list := Nesting.unbounded.after left.frames (asked.take count)
      ((Nesting.machine.reactions left leftTurns).take count).map (·.within Nesting.frames) =
          shown ∧
        ((Nesting.machine.reactions right rightTurns).take count).map (·.within Nesting.frames) =
          shown ∧
        ∀ cancel,
          (Nesting.machine.after left (leftTurns.take count)).destroy cancel =
              Nesting.destroyPlain list cancel ∧
            (Nesting.machine.after right (rightTurns.take count)).destroy cancel =
              Nesting.destroyPlain list cancel) ∧
    (∀ (nesting : Nesting) (turn : Nesting.Turn),
      (Nesting.machine.react nesting turn).LacksMemory →
        turn.call.isPush = true ∧
          (Nesting.unbounded.react nesting.frames turn.asked).outcome = .ok () ∧
          (Nesting.machine.react nesting turn).state = nesting) ∧
    (∀ {nesting : Nesting}, Nesting.Fresh nesting → nesting.frames = []) ∧
    (∀ (left right : Monitor) (leftTurns rightTurns : List (Turn α)) (count : Nat),
      left.plain = right.plain → leftTurns.map Turn.deed = rightTurns.map Turn.deed →
      (∀ reply ∈ (machine.reactions left leftTurns).take count, ¬ reply.1.LacksMemory) →
      (∀ reply ∈ (machine.reactions right rightTurns).take count, ¬ reply.1.LacksMemory) →
      let deeds := leftTurns.map Turn.deed
      let shown := (unbounded.reactions left.plain deeds).take count
      let ended := unbounded.after left.plain (deeds.take count)
      ((machine.reactions left leftTurns).take count).map
            (fun reply => (reply.1.within plain, reply.2)) = shown ∧
        ((machine.reactions right rightTurns).take count).map
            (fun reply => (reply.1.within plain, reply.2)) = shown ∧
        ∀ cancel,
          (machine.after left (leftTurns.take count)).close cancel = ended.close cancel ∧
            (machine.after right (rightTurns.take count)).close cancel = ended.close cancel) ∧
    ∀ (direction : Direction) (settings other : Settings),
      settings.assertsMisuse = other.assertsMisuse →
      settings.tracks direction = other.tracks direction →
        (ofSettings direction settings).plain = (ofSettings direction other).plain := by
  refine ⟨?_, fun nesting turn lacking => Nesting.opening_of_lacking lacking,
    fun made => made.made.1, ?_, fun _ _ _ => ofSettings_plain⟩
  · intro left right leftTurns rightTurns count sameFrames sameAsked leftSpared rightSpared asked
      shown list
    have leftShown := Nesting.asPlainList.reactions_take leftSpared
    have leftEnds := Nesting.asPlainList.after_take leftSpared
    have rightShown : _ = (Nesting.unbounded.reactions right.frames
        (rightTurns.map Nesting.Turn.asked)).take count :=
      Nesting.asPlainList.reactions_take rightSpared
    have rightEnds : _ = Nesting.unbounded.after right.frames
        ((rightTurns.map Nesting.Turn.asked).take count) :=
      Nesting.asPlainList.after_take rightSpared
    rw [← sameFrames, ← sameAsked] at rightShown rightEnds
    refine ⟨leftShown, rightShown, ?_⟩
    intro cancel
    rw [Nesting.destroy_eq_plain, Nesting.destroy_eq_plain]
    exact ⟨congrArg (Nesting.destroyPlain · cancel) leftEnds,
      congrArg (Nesting.destroyPlain · cancel) rightEnds⟩
  · intro left right leftTurns rightTurns count samePlain sameDeeds leftSpared rightSpared deeds
      shown ended
    have leftShown := asPlainList.reactions_take leftSpared
    have leftEnds := asPlainList.after_take leftSpared
    have rightShown : _ = (unbounded.reactions right.plain (rightTurns.map Turn.deed)).take count :=
      asPlainList.reactions_take rightSpared
    have rightEnds : _ = unbounded.after right.plain ((rightTurns.map Turn.deed).take count) :=
      asPlainList.after_take rightSpared
    rw [← samePlain, ← sameDeeds] at rightShown rightEnds
    refine ⟨leftShown, rightShown, ?_⟩
    intro cancel
    rw [close_eq_plain, close_eq_plain]
    exact ⟨congrArg (Plain.close · cancel) leftEnds, congrArg (Plain.close · cancel) rightEnds⟩

/-- A stack as it is by default and one that is made with no room and gets
little, with an array in an array and bytes that do not fit there. A third
compound needs more memory than the second stack gets. Two monitors with these
initial capacities show the same, too. -/
theorem scarce_room_unseen :
    let calls : List Nesting.Call :=
      [.push .array 2, .element, .push .array 0, .bytes 1, .pop .array, .push .map 1]
    let turns (allocator : Allocator) : List Nesting.Turn := calls.map (⟨·, .reading, allocator⟩)
    let tracked (allocator : Allocator) : List (Turn Unit) :=
      calls.map fun call => ⟨.act (.track call), allocator⟩
    let scarce : Nesting := ⟨[], 0, 1⟩
    let narrow : Settings := { Settings.tracking with initialCapacity := 0 }
    let opening : Nesting.Turn := ⟨.push .str 3, .reading, .limited 2⟩
    let filled := Nesting.machine.after scarce (turns (.limited 2))
    Nesting.Fresh .empty ∧ Nesting.Fresh scarce ∧
      (Nesting.machine.reactions .empty (turns .unlimited)).map (·.within Nesting.frames) =
        (Nesting.machine.reactions scarce (turns (.limited 2))).map (·.within Nesting.frames) ∧
      (Nesting.machine.react filled opening).LacksMemory ∧
      (Nesting.unbounded.react filled.frames opening.asked).outcome = .ok () ∧
      (Nesting.machine.react filled opening).state = filled ∧
      (machine.reactions (ofSettings .reading .tracking) (tracked .unlimited)).map
          (fun reply => (reply.1.within plain, reply.2)) =
        (machine.reactions (ofSettings .reading narrow) (tracked (.limited 2))).map
          (fun reply => (reply.1.within plain, reply.2)) := by
  intro calls turns tracked scarce narrow opening filled
  have fresh : Nesting.Fresh scarce := @Nesting.Fresh.withCapacity .unlimited 0 scarce rfl
  obtain ⟨bare, lacking, made, owned, switched⟩ := @room_unseen Unit
  have missing : (Nesting.machine.react filled opening).LacksMemory := by decide
  obtain ⟨_, fits, unchanged⟩ := lacking filled opening missing
  obtain ⟨leftShown, rightShown, _⟩ :=
    bare .empty scarce (turns .unlimited) (turns (.limited 2)) 6
      ((made .empty).trans (made fresh).symm) rfl (by decide) (by decide)
  obtain ⟨leftTracked, rightTracked, _⟩ :=
    owned (ofSettings .reading .tracking) (ofSettings .reading narrow) (tracked .unlimited)
      (tracked (.limited 2)) 6 (switched .reading .tracking narrow rfl rfl) rfl (by decide)
      (by decide)
  exact ⟨.empty, fresh, leftShown.trans rightShown.symm, missing, fits, unchanged,
    leftTracked.trans rightTracked.symm⟩

end MessagePack.Monitor
