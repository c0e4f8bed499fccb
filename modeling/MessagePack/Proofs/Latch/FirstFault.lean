import MessagePack.Proofs.Latch.Delivery

/-!
# The first fault wins

Requests come to a latch one after the other, each check and each guard with a
type of its own. The work that is guarded may do anything to a world around the
latch. Whether it runs depends on what came before, so the faults that were
delivered are read off a whole run: those that were flagged, those of failed
results that were checked, and those of guarded work that ran and failed.

A latch keeps the first fault delivered in the run and reports it once, when it
comes. Guarded work runs once if nothing was delivered before and not at all
otherwise.
-/

namespace MessagePack.Latch

universe u v
variable {ω : Type v}

/-! ## Requests in a world -/

/-- Something that is asked of a latch. Each check and each guard may have a
type of its own, so one run can mix them. -/
inductive Request (ω : Type v) : Type (max (u + 1) v) where
  | flag (fault : Fault)
  | flagViolation (fault : Fault)
  | check {α : Type u} (neutral : α) (result : Except Fault α)
  | guard {α : Type u} (neutral : α) (work : ω → Except Fault α × ω)

/-- What came of a request: the step of the latch, apart from its value, the
world after it and how often guarded work ran. Values have no common type, which
is why they are looked at apart from runs. -/
structure Reply (ω : Type v) where
  step : Step Latch Unit
  world : ω
  runs : Nat

/-- Work that counts how often it runs, in a world that holds the count. -/
def counted {α : Type u} (work : ω → Except Fault α × ω) :
    Nat × ω → Except Fault α × Nat × ω :=
  fun (runs, world) => ((work world).1, runs + 1, (work world).2)

/-- Does what is asked of a latch. Only guarded work touches the world. -/
def serve (latch : Latch) (world : ω) : Request.{u} ω → Reply ω
  | .flag fault => ⟨latch.flag fault, world, 0⟩
  | .flagViolation fault => ⟨latch.flagViolation fault, world, 0⟩
  | .check neutral result => ⟨(latch.check neutral result).replace (), world, 0⟩
  | .guard neutral work =>
    let (step, runs, after) := latch.guard neutral (counted work) (0, world)
    ⟨step.replace (), after, runs⟩

/-- A latch and the world around it, as a machine that goes on after a failed
assertion. Here a run can depend on what guarded work did before. -/
def service : Machine (Latch × ω) (Request.{u} ω) (Reply ω) where
  react state request := state.1.serve state.2 request
  next reply := (reply.step.state, reply.world)

/-- A fault that comes to a latch, as a breach or not. It comes whether or not
the latch takes notice of it. -/
structure Delivery where
  fault : Fault
  breach : Bool
  deriving DecidableEq, Repr

/-- The report of a delivery that is kept. -/
def Delivery.event (delivery : Delivery) : Event := .latched delivery.fault delivery.breach

/-- The delivery of a fault by the owner of the latch, which is a breach if it
is misuse. -/
def Delivery.byOwner (fault : Fault) : Delivery := ⟨fault, fault.isMisuse⟩

/-- What a failed result delivers. A good one delivers nothing. -/
def Delivery.ofResult? {α : Type u} : Except Fault α → Option Delivery
  | .ok _ => none
  | .error fault => some (.byOwner fault)

/-- What is delivered at one moment of a run. Guarded work delivers only if it
ran, and what it delivers depends on the world that it met. -/
def delivery? (moment : Moment (Latch × ω) (Request.{u} ω) (Reply ω)) : Option Delivery :=
  match moment.input with
  | .flag fault => some (.byOwner fault)
  | .flagViolation fault => some ⟨fault, fault != .allocationFailure⟩
  | .check _ result => Delivery.ofResult? result
  | .guard _ work =>
    if moment.reaction.runs = 0 then none else Delivery.ofResult? (work moment.before.2).1

/-- All that is delivered in a run, in order. The latch plays no part in it but
by keeping guarded work from running. -/
def deliveries (latch : Latch) (world : ω) (requests : List (Request.{u} ω)) : List Delivery :=
  (service.moments (latch, world) requests).filterMap delivery?

/-- All that is reported in a run, in order. -/
def reports (latch : Latch) (world : ω) (requests : List (Request.{u} ω)) : List Event :=
  (service.moments (latch, world) requests).flatMap fun moment => moment.reaction.step.events

/-! ## A run is its deliveries -/

/-- Delivers one fault after the other. What is left is a latch and what it
reported. A run of requests is compared with this. -/
def deliverAll (latch : Latch) : List Delivery → Latch × List Event
  | [] => (latch, [])
  | delivery :: later =>
    let step := latch.deliver delivery.fault delivery.breach
    let (final, events) := step.state.deliverAll later
    (final, step.events ++ events)

/-- A latch that keeps a fault takes no notice of deliveries, however many there
are. -/
theorem deliverAll_of_held {latch : Latch} {kept : Fault} (held : latch.held = some kept)
    (delivered : List Delivery) : latch.deliverAll delivered = (latch, []) := by
  induction delivered with
  | nil => rfl
  | cons delivery later inductionHypothesis =>
    simp [deliverAll, deliver_of_held held, inductionHypothesis]

/-- A clear latch keeps and reports the first delivery and takes no notice of
the later ones. With this a whole run is known as soon as its deliveries are. -/
theorem deliverAll_of_clear {latch : Latch} (clear : latch.held = none)
    (delivered : List Delivery) :
    latch.deliverAll delivered =
      ({ latch with held := delivered.head?.map Delivery.fault },
        (delivered.head?.map Delivery.event).toList) := by
  cases delivered with
  | nil => simp [deliverAll, ← clear]
  | cons delivery later =>
    have frozen := @deliverAll_of_held { latch with held := some delivery.fault } _ rfl later
    simp [deliverAll, deliver_of_clear clear, frozen, Delivery.event]

/-- A clear latch runs guarded work once and checks its result. The count shows
that it is once. -/
theorem guard_counted_of_clear {α : Type u} {latch : Latch} (clear : latch.held = none)
    (neutral : α) (work : ω → Except Fault α × ω) (world : ω) :
    latch.guard neutral (counted work) (0, world) =
      (latch.check neutral (work world).1, 1, (work world).2) := by
  simp [guard, isClear, clear, counted]

/-- A latch that keeps a fault does not run guarded work. The count stays at
zero, and the world is the one before. -/
theorem guard_counted_of_held {α : Type u} {latch : Latch} {kept : Fault}
    (held : latch.held = some kept) (neutral : α) (work : ω → Except Fault α × ω) (world : ω) :
    latch.guard neutral (counted work) (0, world) = (⟨latch, .ok neutral, []⟩, 0, world) := by
  simp [guard, isClear, held]

/-- Checking a failed result gives the neutral value, unless an assertion fails.
This does not depend on whether a fault is kept already. -/
theorem check_failed {α : Type u} (latch : Latch) (neutral : α) (fault : Fault) :
    (latch.check neutral (.error fault)).outcome = .ok neutral ∨
      (latch.check neutral (.error fault)).outcome = .assertion fault := by
  cases held : latch.held with
  | some kept =>
    left
    simp [check, flag, deliver_of_held held, Step.replace, Outcome.bind]
  | none =>
    cases asserted : fault.isMisuse && latch.asserts with
    | false =>
      left
      simp [check, flag, deliver_of_clear held, asserted, Step.replace, Outcome.bind]
    | true =>
      right
      simp [check, flag, deliver_of_clear held, asserted, Step.replace, Outcome.bind]

/-- Checking a result does to a latch what delivering its fault does, if it has
one. -/
theorem check_delivers {α : Type u} (latch : Latch) (neutral : α) (result : Except Fault α) :
    ((latch.check neutral result).state, (latch.check neutral result).events) =
      latch.deliverAll (Delivery.ofResult? result).toList := by
  cases result with
  | ok value => rfl
  | error fault =>
    simp [deliverAll, Delivery.ofResult?, check, flag, Delivery.byOwner, Step.replace]

/-- A request does to a latch what delivering its fault does, if it delivers
one. This is the step of the comparison with `deliverAll`. -/
theorem serve_delivers (latch : Latch) (world : ω) (request : Request.{u} ω) :
    let reply := latch.serve world request
    (reply.step.state, reply.step.events) =
      latch.deliverAll (delivery? ⟨(latch, world), request, reply⟩).toList := by
  cases request with
  | flag fault => simp [deliverAll, delivery?, serve, flag, Delivery.byOwner]
  | flagViolation fault => simp [deliverAll, delivery?, serve, flagViolation]
  | check neutral result => exact check_delivers latch neutral result
  | guard neutral work =>
    cases held : latch.held with
    | none =>
      simp only [serve, delivery?, guard_counted_of_clear held]
      exact check_delivers latch neutral (work world).1
    | some kept =>
      simp only [serve, delivery?, guard_counted_of_held held]
      rfl

/-- Deliveries can be made in two stretches, of which the second begins with the
latch that the first one leaves. -/
theorem deliverAll_append (latch : Latch) (delivered later : List Delivery) :
    latch.deliverAll (delivered ++ later) =
      (((latch.deliverAll delivered).1.deliverAll later).1,
        (latch.deliverAll delivered).2 ++ ((latch.deliverAll delivered).1.deliverAll later).2) := by
  induction delivered generalizing latch with
  | nil => rfl
  | cons delivery delivered inductionHypothesis =>
    simp [deliverAll, inductionHypothesis, List.append_assoc]

/-- What a run delivers is what its first request delivers and then what the
rest delivers, from the state that the first request leaves. -/
theorem deliveries_cons (latch : Latch) (world : ω) (request : Request.{u} ω)
    (requests : List (Request.{u} ω)) :
    let reply := latch.serve world request
    deliveries latch world (request :: requests) =
      (delivery? ⟨(latch, world), request, reply⟩).toList ++
        deliveries reply.step.state reply.world requests := by
  intro reply
  have unfolded : deliveries latch world (request :: requests) =
      (⟨(latch, world), request, reply⟩ ::
        service.moments (reply.step.state, reply.world) requests).filterMap delivery? := rfl
  rw [unfolded, List.filterMap_cons]
  cases delivery? ⟨(latch, world), request, reply⟩ <;> rfl

/-- A run of requests does to a latch what its deliveries do, and reports what
they report.

Proof: by induction on the requests. The first one does what delivering its
fault does, and the rest is a run from the latch and the world that it leaves.
The deliveries of the two stretches, made one after the other, are the
deliveries of the run. -/
theorem run_delivers (latch : Latch) (world : ω) (requests : List (Request.{u} ω)) :
    ((service.after (latch, world) requests).1, reports latch world requests) =
      latch.deliverAll (deliveries latch world requests) := by
  induction requests generalizing latch world with
  | nil => rfl
  | cons request requests inductionHypothesis =>
    let reply := latch.serve world request
    have first := serve_delivers latch world request
    have rest := inductionHypothesis reply.step.state reply.world
    rw [deliveries_cons, deliverAll_append, ← first, ← rest]
    rfl

/-! ## Whole runs -/

/-- What holds after a run of requests to a latch that starts clear. Each field
is said of the deliveries of the run, so it does not matter by which requests
they were made. -/
structure FirstFaultWins (start : Latch) (world : ω) (past : List (Request.{u} ω)) : Prop where
  /-- The first fault delivered is kept. -/
  held : (service.after (start, world) past).1.held =
    (deliveries start world past).head?.map Delivery.fault
  /-- The latch is clear if nothing was delivered. -/
  clear : (service.after (start, world) past).1.isClear = (deliveries start world past).isEmpty
  /-- What is kept stays kept. -/
  sticky : ∀ fault, (service.after (start, world) past).1.held = some fault →
    ∀ future, (service.after (start, world) (past ++ future)).1.held = some fault
  /-- The first delivery is reported, and nothing else. -/
  reported : reports start world past =
    ((deliveries start world past).head?.map Delivery.event).toList
  /-- It is reported when it is made. -/
  atOnce : ∀ next : Request.{u} ω,
    let reached := service.after (start, world) past
    let reply := service.react reached next
    reply.step.events = if deliveries start world past = []
      then ((delivery? ⟨reached, next, reply⟩).map Delivery.event).toList else []
  /-- A report names the fault, and is a warning for a breach. -/
  named : ∀ delivery ∈ deliveries start world past,
    delivery.event.target = "msgpack_core::error" ∧
      delivery.event.fields = [("error", delivery.fault.name)] ∧
      delivery.event.level = if delivery.breach then .warn else .debug
  /-- Guarded work runs once and its result is checked, if nothing was delivered
  before it. Otherwise it does not run, and the value is the neutral one. -/
  guarded : ∀ {α : Type u} (neutral : α) (work : ω → Except Fault α × ω),
    let reached := service.after (start, world) past
    reached.1.guard neutral (counted work) (0, reached.2) =
      if deliveries start world past = []
      then (reached.1.check neutral (work reached.2).1, 1, (work reached.2).2)
      else (⟨reached.1, .ok neutral, []⟩, 0, reached.2)
  /-- Checking a good result gives its value and changes nothing. -/
  good : ∀ {α : Type u} (neutral value : α),
    let latch := (service.after (start, world) past).1
    latch.check neutral (.ok value) = ⟨latch, .ok value, []⟩
  /-- Checking a failed result gives the neutral value, unless an assertion
  fails. -/
  failed : ∀ {α : Type u} (neutral : α) (fault : Fault),
    let outcome := ((service.after (start, world) past).1.check neutral (.error fault)).outcome
    outcome = .ok neutral ∨ outcome = .assertion fault

/-- In any run of requests to a new latch the first fault delivered wins.

Proof: the run does what its deliveries do, and of those a clear latch keeps and
reports the first. So whether something was delivered tells whether the latch
that is reached keeps a fault. If it does, requests from there change and report
nothing and guarded work does not run; if not, the next request finds a clear
latch. -/
theorem first_fault_wins (settings : Settings) (world : ω) (past : List (Request.{u} ω)) :
    FirstFaultWins (ofSettings settings) world past := by
  have run := run_delivers (ofSettings settings) world past
  rw [deliverAll_of_clear rfl] at run
  obtain ⟨latch, reported⟩ := Prod.mk.inj run
  have held := congrArg Latch.held latch
  have untouched (none : deliveries (ofSettings settings) world past = []) :
      (service.after (ofSettings settings, world) past).1.held = Option.none := by
    rw [held, none]
    rfl
  have touched (some : deliveries (ofSettings settings) world past ≠ []) :
      ∃ kept, (service.after (ofSettings settings, world) past).1.held = Option.some kept := by
    obtain ⟨first, later, delivered⟩ := List.exists_cons_of_ne_nil some
    exact ⟨first.fault, by rw [held, delivered]; rfl⟩
  refine
    { held := held
      clear := ?_
      sticky := ?_
      reported := reported
      atOnce := ?_
      named := ?_
      guarded := ?_
      good := fun _ _ => rfl
      failed := ?_ }
  · rw [isClear, held]
    cases deliveries (ofSettings settings) world past <;> rfl
  · intro fault kept future
    have frozen := run_delivers (service.after (ofSettings settings, world) past).1
      (service.after (ofSettings settings, world) past).2 future
    rw [deliverAll_of_held kept] at frozen
    rw [Machine.after_append, (Prod.mk.inj frozen).1]
    exact kept
  · intro next reached reply
    have served := (Prod.mk.inj (serve_delivers reached.1 reached.2 next)).2
    split
    · rename_i none
      rw [deliverAll_of_clear (untouched none), Option.head?_toList] at served
      exact served
    · rename_i some
      obtain ⟨kept, still⟩ := touched some
      rw [deliverAll_of_held still] at served
      exact served
  · intro delivery _
    obtain ⟨fault, breach⟩ := delivery
    cases breach <;> exact ⟨rfl, rfl, rfl⟩
  · intro α neutral work reached
    split
    · rename_i none
      exact guard_counted_of_clear (untouched none) neutral work reached.2
    · rename_i some
      obtain ⟨kept, still⟩ := touched some
      exact guard_counted_of_held still neutral work reached.2
  · intro α neutral fault
    exact check_failed _ neutral fault

/-- Work before the first fault has run, work after it has not, and a later
fault is not kept. -/
example :
    let work (result : Except Fault Unit) (step : Nat) : Request.{0} Nat :=
      .guard () fun count => (result, count + step)
    service.after (⟨none, false⟩, 0)
      [work (.ok ()) 1, work (.error .io) 10, work (.ok ()) 100, .flag .invalidData] =
        (⟨some .io, false⟩, 11) := rfl

end MessagePack.Latch
