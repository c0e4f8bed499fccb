/-!
# Machines and their runs

A machine keeps a state, and its reaction to an input shows the state that it
leaves. A run takes inputs one after the other and goes on whatever the
reactions say, so it also covers what happens after a refusal or a failed
assertion. What holds at first and is kept by each reaction holds after any
inputs.

A machine may do as a plainer one does, but for reactions that fail for reasons
that the plainer one does not know. Up to the first failure a run of it is a run
of the plainer machine.
-/

namespace MessagePack

universe u v w
variable {σ : Type u} {ι : Type v} {ρ : Type w}

/-- Something that keeps a state and reacts to inputs. A reaction is more than
the state it leaves, and what else it shows is up to the machine. -/
structure Machine (σ : Type u) (ι : Type v) (ρ : Type w) where
  react : σ → ι → ρ
  /-- The state that a reaction leaves. -/
  next : ρ → σ

/-- One input as a run takes it: the state it meets and the reaction. A run is
told moment by moment where it matters what came before an input. -/
structure Moment (σ : Type u) (ι : Type v) (ρ : Type w) where
  before : σ
  input : ι
  reaction : ρ

namespace Machine

variable (machine : Machine σ ι ρ)

/-- The state after some inputs. No reaction ends a run. -/
def after : σ → List ι → σ
  | state, [] => state
  | state, input :: inputs => after (machine.next (machine.react state input)) inputs

/-- The moments of a run, in order, one for each input. -/
def moments : σ → List ι → List (Moment σ ι ρ)
  | _, [] => []
  | state, input :: inputs =>
    ⟨state, input, machine.react state input⟩ ::
      moments (machine.next (machine.react state input)) inputs

/-- What a run answers, in order. It is the run without the states between the
answers. -/
def reactions (state : σ) (inputs : List ι) : List ρ :=
  (machine.moments state inputs).map Moment.reaction

@[simp] theorem after_nil (state : σ) : machine.after state [] = state := rfl

@[simp] theorem after_cons (state : σ) (input : ι) (inputs : List ι) :
    machine.after state (input :: inputs) =
      machine.after (machine.next (machine.react state input)) inputs := rfl

@[simp] theorem moments_nil (state : σ) : machine.moments state [] = [] := rfl

@[simp] theorem moments_cons (state : σ) (input : ι) (inputs : List ι) :
    machine.moments state (input :: inputs) = ⟨state, input, machine.react state input⟩ ::
      machine.moments (machine.next (machine.react state input)) inputs := rfl

@[simp] theorem reactions_nil (state : σ) : machine.reactions state [] = [] := rfl

@[simp] theorem reactions_cons (state : σ) (input : ι) (inputs : List ι) :
    machine.reactions state (input :: inputs) = machine.react state input ::
      machine.reactions (machine.next (machine.react state input)) inputs := rfl

/-- A run answers each input once, so answers can be matched with inputs by
their places. -/
@[simp] theorem length_reactions (state : σ) (inputs : List ι) :
    (machine.reactions state inputs).length = inputs.length := by
  induction inputs generalizing state with
  | nil => rfl
  | cons input inputs inductionHypothesis =>
    rw [reactions_cons, List.length_cons, List.length_cons, inductionHypothesis]

/-- A run over two stretches of inputs ends where the second ends from the end
of the first. What went before a state is of no account for what follows it. -/
theorem after_append (state : σ) (past future : List ι) :
    machine.after state (past ++ future) = machine.after (machine.after state past) future := by
  induction past generalizing state with
  | nil => rfl
  | cons input past inductionHypothesis => exact inductionHypothesis _

/-- What every reaction keeps still holds after any inputs. This is the one
induction over runs that an invariant needs: its step is all that is shown of
each invariant. -/
theorem after_keeps (Invariant : σ → Prop)
    (kept : ∀ state input, Invariant state → Invariant (machine.next (machine.react state input)))
    {state : σ} (initially : Invariant state) (inputs : List ι) :
    Invariant (machine.after state inputs) := by
  induction inputs generalizing state with
  | nil => exact initially
  | cons input inputs inductionHypothesis =>
    exact inductionHypothesis (kept state input initially)

/-- What every reaction keeps holds at every moment of a run, and each moment
shows the reaction to its input. So a fact about one step, shown under the
invariant, is a fact about every moment. -/
theorem moments_keep (Invariant : σ → Prop)
    (kept : ∀ state input, Invariant state → Invariant (machine.next (machine.react state input)))
    {state : σ} (initially : Invariant state) (inputs : List ι) :
    ∀ moment ∈ machine.moments state inputs,
      Invariant moment.before ∧ moment.reaction = machine.react moment.before moment.input := by
  induction inputs generalizing state with
  | nil => exact List.forall_mem_nil _
  | cons input inputs inductionHypothesis =>
    exact List.forall_mem_cons.mpr
      ⟨⟨initially, rfl⟩, inductionHypothesis (kept state input initially)⟩

/-! ## Plainer machines -/

variable {τ : Type u} {κ : Type v} {π : Type w} {machine : Machine σ ι ρ} {plain : Machine τ κ π}
  {Fails : ρ → Prop}

/-- How a machine is seen as a plainer one, which reacts as it does unless it
fails. Nothing is asked of the state that a failure leaves, but that it can be
seen too. -/
structure Refines (machine : Machine σ ι ρ) (plain : Machine τ κ π) (Fails : ρ → Prop) where
  state : σ → τ
  input : ι → κ
  reaction : ρ → π
  next : ∀ reply, state (machine.next reply) = plain.next (reaction reply)
  react : ∀ before asked, ¬ Fails (machine.react before asked) →
    reaction (machine.react before asked) = plain.react (state before) (input asked)

namespace Refines

/-- Where none of the first reactions fails they are those of the plainer
machine.

Proof: by induction on the inputs, for any number of reactions. The first one
does not fail, so it is the plainer machine's and leaves a state that is seen as
the plainer machine's next state. The reactions behind it are those of a run
from there. -/
theorem reactions_take (refines : machine.Refines plain Fails) {state : σ} {inputs : List ι}
    {count : Nat} (spared : ∀ reply ∈ (machine.reactions state inputs).take count, ¬ Fails reply) :
    ((machine.reactions state inputs).take count).map refines.reaction =
      (plain.reactions (refines.state state) (inputs.map refines.input)).take count := by
  induction inputs generalizing state count with
  | nil => simp
  | cons input inputs inductionHypothesis =>
    cases count with
    | zero => rfl
    | succ count =>
      rw [reactions_cons, List.take_succ_cons] at spared ⊢
      obtain ⟨first, later⟩ := List.forall_mem_cons.mp spared
      have rest := inductionHypothesis later
      rw [refines.next, refines.react state input first] at rest
      rw [List.map_cons, List.map_cons, reactions_cons, List.take_succ_cons, rest,
        refines.react state input first]

/-- Where none of the first reactions fails they lead where those of the plainer
machine do. The state behind a failure is left out, since the two machines may
part there. -/
theorem after_take (refines : machine.Refines plain Fails) {state : σ} {inputs : List ι}
    {count : Nat} (spared : ∀ reply ∈ (machine.reactions state inputs).take count, ¬ Fails reply) :
    refines.state (machine.after state (inputs.take count)) =
      plain.after (refines.state state) ((inputs.map refines.input).take count) := by
  induction inputs generalizing state count with
  | nil => simp
  | cons input inputs inductionHypothesis =>
    cases count with
    | zero => rfl
    | succ count =>
      rw [reactions_cons, List.take_succ_cons] at spared
      obtain ⟨first, later⟩ := List.forall_mem_cons.mp spared
      have rest := inductionHypothesis later
      rw [refines.next, refines.react state input first] at rest
      exact rest

/-- A run in which nothing fails answers as the plainer machine does. Here all
reactions count as the first ones. -/
theorem reactions_map (refines : machine.Refines plain Fails) {state : σ} {inputs : List ι}
    (spared : ∀ reply ∈ machine.reactions state inputs, ¬ Fails reply) :
    (machine.reactions state inputs).map refines.reaction =
      plain.reactions (refines.state state) (inputs.map refines.input) := by
  have taken : ∀ reply ∈ (machine.reactions state inputs).take inputs.length, ¬ Fails reply :=
    fun reply member => spared reply (List.mem_of_mem_take member)
  have whole := refines.reactions_take taken
  rw [List.take_of_length_le (by simp), List.take_of_length_le (by simp)] at whole
  exact whole

/-- A run in which nothing fails leads where the plainer machine does, with all
reactions as the first ones again. -/
theorem after_map (refines : machine.Refines plain Fails) {state : σ} {inputs : List ι}
    (spared : ∀ reply ∈ machine.reactions state inputs, ¬ Fails reply) :
    refines.state (machine.after state inputs) =
      plain.after (refines.state state) (inputs.map refines.input) := by
  have taken : ∀ reply ∈ (machine.reactions state inputs).take inputs.length, ¬ Fails reply :=
    fun reply member => spared reply (List.mem_of_mem_take member)
  have whole := refines.after_take taken
  rw [List.take_length, List.take_of_length_le (by simp)] at whole
  exact whole

end Refines

end Machine

end MessagePack
