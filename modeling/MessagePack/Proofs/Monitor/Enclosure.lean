import MessagePack.Proofs.Monitor.Verdict

/-!
# What is open around other compounds

The body of a string, a blob or an extension consists of bytes, so nothing can
be nested in it. An element among its bytes is refused for that reason. The
opening of a compound is not: what is opened is checked only for itself, and a
compound is opened among bytes as well as anywhere else.

This is the only way to a compound around another one that is neither an array
nor a map. A run is free of them exactly if no call that succeeds in it opens a
compound among bytes.
-/

namespace MessagePack

namespace Nesting

/-- Every compound around another one is an array or a map. The innermost
compound may be of any kind, as nothing is in it yet. -/
def Enclosed (frames : List Frame) : Prop :=
  ∀ frame ∈ frames.tail, frame.kind = .array ∨ frame.kind = .map

instance (frames : List Frame) : Decidable (Enclosed frames) :=
  inferInstanceAs (Decidable (∀ frame ∈ frames.tail, _ ∨ _))

/-- Whether a call opens a compound while the innermost one is counted in bytes.
Whether the call succeeds is another question. -/
def intrudes (frames : List Frame) (call : Call) : Bool :=
  call.isPush && frames.head?.any (·.kind.isByteCounted)

/-! ## One call -/

/-- A call that fits keeps arrays and maps around all else exactly if it does
not open a compound among bytes.

Proof: only an opening puts anything around a compound. The frames that were
there are then all around the new one, and of these only the innermost was not
around another before. It is an array or a map exactly if it is not counted in
bytes. Any other call leaves all kinds as they are or takes the innermost frame
off. -/
theorem Accepts.enclosed_iff {before after : List Frame} {call : Call}
    (fits : Accepts before call after)
    (compounds : ∀ frame ∈ before, frame.kind.isCompound = true) (enclosed : Enclosed before) :
    Enclosed after ↔ intrudes before call = false := by
  cases fits with
  | push frames hasBody countable =>
    cases before with
    | nil => simp [Enclosed, intrudes]
    | cons top outer =>
      have kind := array_or_map_iff (compounds top List.mem_cons_self)
      have around : (∀ frame ∈ outer, frame.kind = .array ∨ frame.kind = .map) := enclosed
      simp only [Enclosed, List.tail_cons, List.forall_mem_cons, and_iff_left around, kind]
      rfl
  | pop kind outer =>
    refine iff_of_true ?_ rfl
    intro frame member
    exact enclosed frame (List.mem_of_mem_tail member)
  | element outer inValues unfinished => exact iff_of_true enclosed rfl
  | bytes outer inBytes enough => exact iff_of_true enclosed rfl
  | checkEmpty => exact iff_of_true enclosed rfl

/-- Among bytes an element is refused, and a compound is opened if it can be
opened at all. The two calls are told apart by nothing but that an element is
checked against the innermost compound and an opening is not. -/
theorem perform_among_bytes {nesting : Nesting} {top : Frame} {outer : List Frame}
    (opened : nesting.frames = top :: outer) (bytes : top.kind.isByteCounted = true)
    (allocator : Allocator) (direction : Direction) :
    nesting.perform allocator direction .element =
        ⟨nesting, .refused .misuse, [.nesting (.elementAmongBytes direction top.kind)]⟩ ∧
      ∀ (kind : Kind) (count : UInt64), kind.isCompound = true →
        (kind = .map → 2 * count.toNat < UInt64.size) → allocator.Unfailing →
        (nesting.perform allocator direction (.push kind count)).outcome = .ok () ∧
          ¬ Enclosed (nesting.perform allocator direction (.push kind count)).state.frames := by
  constructor
  · simp [perform, attempt, element, opened, bytes, settle, Refusal.fault, Violation.fault,
      Refusal.events]
  · intro kind count hasBody countable unfailing
    obtain ⟨left, _, fits⟩ := accepts_push nesting.frames hasBody countable
    rcases attempt_of_accepts allocator direction fits with
      ⟨capacity, carried⟩ | ⟨_, held, needed, refused⟩
    · rw [perform, carried]
      refine ⟨rfl, ?_⟩
      intro enclosed
      have around := enclosed top (by simp [settle, opened])
      rcases around with array | map
      · rw [array] at bytes
        cases bytes
      · rw [map] at bytes
        cases bytes
    · exact absurd refused (unfailing held needed)

/-! ## A run of calls -/

/-- In a run that makes calls which fit and otherwise leaves the open compounds
alone, there are only arrays and maps around other compounds exactly if no call
opens a compound among bytes.

Proof: by induction on the inputs. A call that fits keeps arrays and maps around
all else exactly if it does not intrude, and leaves compounds only, so that the
rest of the run can be judged in the same way. Where no call is made nothing
changes. -/
theorem run_enclosed_iff {σ ι ρ : Type} {machine : Machine σ ι ρ} (frames : σ → List Frame)
    (made? : Moment σ ι ρ → Option Call) {state : σ} {inputs : List ι}
    (fits : ∀ moment ∈ machine.moments state inputs,
      (∃ call, made? moment = some call ∧
        Accepts (frames moment.before) call (frames (machine.next moment.reaction))) ∨
      made? moment = none ∧ frames (machine.next moment.reaction) = frames moment.before)
    (compounds : ∀ frame ∈ frames state, frame.kind.isCompound = true)
    (enclosed : Enclosed (frames state)) :
    (∀ moment ∈ machine.moments state inputs, Enclosed (frames (machine.next moment.reaction))) ↔
      ∀ moment ∈ machine.moments state inputs, ∀ call, made? moment = some call →
        intrudes (frames moment.before) call = false := by
  induction inputs generalizing state with
  | nil => simp
  | cons input inputs inductionHypothesis =>
    rw [Machine.moments_cons, List.forall_mem_cons] at fits
    rw [Machine.moments_cons, List.forall_mem_cons, List.forall_mem_cons]
    obtain ⟨first, later⟩ := fits
    rcases first with ⟨call, made, accepted⟩ | ⟨silent, same⟩
    · have step := accepted.enclosed_iff compounds enclosed
      have rest := inductionHypothesis later (accepted.compounds compounds)
      simp only [made, Option.some.injEq, forall_eq', ← step]
      exact and_congr_right rest
    · have rest := inductionHypothesis later (same ▸ compounds) (same ▸ enclosed)
      simp only at same
      simp only [silent, same, reduceCtorEq, false_implies, implies_true, enclosed, true_and]
      exact rest

/-- A stack that starts empty has only arrays and maps around other compounds,
at every point of a run, exactly if no call that succeeds opens a compound among
bytes. -/
theorem enclosed_unless_intruded {nesting : Nesting} (fresh : nesting.frames = [])
    (turns : List Turn) :
    (∀ moment ∈ machine.moments nesting turns, Enclosed moment.reaction.state.frames) ↔
      ∀ moment ∈ machine.moments nesting turns, moment.reaction.outcome = .ok () →
        intrudes moment.before.frames moment.input.call = false := by
  let made? (moment : Moment Nesting Turn (Step Nesting Unit)) : Option Call :=
    if moment.reaction.outcome = .ok () then some moment.input.call else none
  have fits : ∀ moment ∈ machine.moments nesting turns,
      (∃ call, made? moment = some call ∧
        Accepts moment.before.frames call (machine.next moment.reaction).frames) ∨
      made? moment = none ∧ (machine.next moment.reaction).frames = moment.before.frames := by
    intro moment member
    obtain ⟨_, reaction⟩ := machine.moments_keep (fun _ => True) (fun _ _ => id) trivial turns
      moment member
    rcases react_cases moment.before moment.input with ⟨after, step, accepted⟩ | ⟨refusal, step⟩
    · exact .inl ⟨moment.input.call, by simp [made?, reaction, step],
        by rw [reaction, step]; exact accepted⟩
    · exact .inr ⟨by simp [made?, reaction, step], by rw [reaction, step]; rfl⟩
  have enclosed : Enclosed nesting.frames := by simp [Enclosed, fresh]
  have run := run_enclosed_iff Nesting.frames made? fits (by simp [fresh]) enclosed
  have succeeded (moment : Moment Nesting Turn (Step Nesting Unit)) :
      (∀ call, made? moment = some call → intrudes moment.before.frames call = false) ↔
        (moment.reaction.outcome = .ok () →
          intrudes moment.before.frames moment.input.call = false) := by
    by_cases well : moment.reaction.outcome = .ok () <;> simp [made?, well]
  simp only [succeeded] at run
  exact run

end Nesting

namespace Monitor

open Nesting

variable {α : Type}

/-- A new monitor that tracks its direction has only arrays and maps around
other compounds, at every point of a run, exactly if no call that succeeds opens
a compound among bytes. -/
theorem enclosed_unless_intruded {settings : Settings} {direction : Direction}
    (tracked : settings.tracks direction = true) (turns : List (Turn α)) :
    (∀ moment ∈ machine.moments (ofSettings direction settings) turns,
        Enclosed moment.reaction.1.state.nesting.frames) ↔
      ∀ moment ∈ machine.moments (ofSettings direction settings) turns,
        ∀ call, carried? moment = some call →
          intrudes moment.before.nesting.frames call = false := by
  have fits : ∀ moment ∈ machine.moments (ofSettings direction settings) turns,
      (∃ call, carried? moment = some call ∧ Accepts moment.before.nesting.frames call
        (machine.next moment.reaction).nesting.frames) ∨
      carried? moment = none ∧
        (machine.next moment.reaction).nesting.frames = moment.before.nesting.frames := by
    rintro ⟨before, turn, reaction⟩ member
    obtain ⟨enabled, reacted⟩ := machine.moments_keep (fun monitor => monitor.enabled = true)
      (fun monitor turn enabled => (take_switches monitor turn).2.1.trans enabled) tracked turns
      _ member
    have taken : reaction = before.take turn := reacted
    subst taken
    rcases take_carries enabled turn with carried | ⟨silent, same⟩
    · exact .inl carried
    · exact .inr ⟨silent, congrArg Nesting.frames same⟩
  have enclosed : Enclosed (ofSettings direction settings).nesting.frames := List.forall_mem_nil _
  exact run_enclosed_iff (fun monitor : Monitor => monitor.nesting.frames) carried? fits
    (List.forall_mem_nil _) enclosed

/-- The runs of a stack that starts empty, and of a new monitor that tracks its
direction, have only arrays and maps around other compounds exactly if no call
that succeeds opens a compound among bytes.

Such calls do succeed. Where the innermost compound is counted in bytes an
element is refused as misuse, but any compound that can be opened at all is
opened if room is granted.

Proof: a stack and a monitor are two instances of a machine that makes calls
which fit and otherwise leaves the open compounds alone. On a stack these calls
are the ones with a good outcome. For the second half, an opening among bytes
fits as it does anywhere, and so it is carried out. -/
theorem openings_among_bytes_accepted :
    (∀ (nesting : Nesting) (turns : List Nesting.Turn), nesting.frames = [] →
      ((∀ moment ∈ Nesting.machine.moments nesting turns, Enclosed moment.reaction.state.frames) ↔
        ∀ moment ∈ Nesting.machine.moments nesting turns, moment.reaction.outcome = .ok () →
          intrudes moment.before.frames moment.input.call = false)) ∧
    (∀ (settings : Settings) (direction : Direction) (turns : List (Turn α)),
      settings.tracks direction = true →
      ((∀ moment ∈ machine.moments (ofSettings direction settings) turns,
          Enclosed moment.reaction.1.state.nesting.frames) ↔
        ∀ moment ∈ machine.moments (ofSettings direction settings) turns,
          ∀ call, carried? moment = some call →
            intrudes moment.before.nesting.frames call = false)) ∧
    ∀ (nesting : Nesting) (top : Frame) (outer : List Frame), nesting.frames = top :: outer →
      top.kind.isByteCounted = true → ∀ (allocator : Allocator) (direction : Direction),
      nesting.perform allocator direction .element =
          ⟨nesting, .refused .misuse, [.nesting (.elementAmongBytes direction top.kind)]⟩ ∧
        ∀ (kind : Kind) (count : UInt64), kind.isCompound = true →
          (kind = .map → 2 * count.toNat < UInt64.size) → allocator.Unfailing →
          (nesting.perform allocator direction (.push kind count)).outcome = .ok () ∧
            ¬ Enclosed (nesting.perform allocator direction (.push kind count)).state.frames := by
  refine ⟨?_, ?_, ?_⟩
  · intro nesting turns fresh
    exact Nesting.enclosed_unless_intruded fresh turns
  · intro settings direction turns tracked
    exact enclosed_unless_intruded tracked turns
  · intro nesting top outer opened bytes allocator direction
    exact perform_among_bytes opened bytes allocator direction

/-- In a blob that a reader opened, an element is refused and a map is
opened. -/
theorem blob_around_map :
    let blob := Nesting.machine.after .empty [⟨.push .bin 2, .reading, .unlimited⟩]
    blob.perform .unlimited .reading .element =
        ⟨blob, .refused .misuse, [.nesting (.elementAmongBytes .reading .bin)]⟩ ∧
      (blob.perform .unlimited .reading (.push .map 1)).outcome = .ok () ∧
      ¬ Enclosed (blob.perform .unlimited .reading (.push .map 1)).state.frames := by
  intro blob
  obtain ⟨_, _, amongBytes⟩ := @openings_among_bytes_accepted Unit
  obtain ⟨element, opening⟩ := amongBytes blob ⟨.bin, 2⟩ [] rfl rfl .unlimited .reading
  exact ⟨element, opening .map 1 rfl (by decide) Allocator.unlimited_unfailing⟩

/-- A writer opens an array among the bytes of a string. Neither a stack nor a
monitor that tracks it takes this for misuse. -/
theorem string_around_array :
    let opening : List Nesting.Call := [.push .str 3, .push .array 0]
    let stack := opening.map fun call => (⟨call, .writing, .unlimited⟩ : Nesting.Turn)
    let turns := opening.map fun call => (⟨.act (.track call), .unlimited⟩ : Turn Unit)
    let reached := Nesting.machine.after .empty stack
    let monitor := machine.after (ofSettings .writing .tracking) turns
    (Nesting.machine.reactions .empty stack).map (·.outcome) = [.ok (), .ok ()] ∧
      reached.frames = [⟨.array, 0⟩, ⟨.str, 3⟩] ∧ ¬ Enclosed reached.frames ∧
      (machine.reactions (ofSettings .writing .tracking) turns).map (·.1.outcome) =
        [.ok none, .ok none] ∧
      monitor.fault? = none ∧ ¬ Enclosed monitor.nesting.frames := by
  decide

end Monitor

end MessagePack
