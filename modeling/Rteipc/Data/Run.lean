import Mathlib.Logic.Basic

namespace Rteipc.Data

/-! Runs of a labelled transition relation.

`Reaches` is a run, `Always` says a property holds in every state a run passes
through, and `Guarded` says every step a run takes meets a condition on the
input and on the state before it.  `always_iff_guarded` turns an exact
condition on one step into an exact condition on a whole run.
-/

variable {State Input : Type*} (step : State → Input → State → Prop)

/-- Taking the inputs in order leads from the first state to the last. -/
inductive Reaches : State → List Input → State → Prop
  | nil (state : State) : Reaches state [] state
  | cons {before middle after : State} {input : Input} {rest : List Input}
      (first : step before input middle) (following : Reaches middle rest after) :
      Reaches before (input :: rest) after

/-- The property holds in every state reached after some of the inputs. -/
def Always (good : State → Prop) : State → List Input → Prop
  | state, [] => good state
  | state, input :: rest =>
      good state ∧ ∀ next, step state input next → Always good next rest

/-- Every step taken meets the condition in the state before it. -/
def Guarded (guard : State → Input → Prop) : State → List Input → Prop
  | _, [] => True
  | state, input :: rest =>
      ∀ next, step state input next → guard state input ∧ Guarded guard next rest

variable {step}

theorem Reaches.append {before middle after : State} {first second : List Input}
    (left : Reaches step before first middle) (right : Reaches step middle second after) :
    Reaches step before (first ++ second) after := by
  induction left with
  | nil state => exact right
  | cons taken _ ih => exact .cons taken (ih right)

theorem Reaches.of_foldlM {next : State → Input → Option State} {before after : State} {inputs : List Input}
    (ran : inputs.foldlM next before = some after) :
    Reaches (fun state input last => next state input = some last) before inputs after := by
  induction inputs generalizing before with
  | nil =>
      cases ran
      exact .nil _
  | cons input rest ih =>
      obtain ⟨middle, first, following⟩ := Option.bind_eq_some_iff.mp ran
      exact .cons first (ih following)

theorem Reaches.invariant {inv : State → Prop} {before after : State} {inputs : List Input}
    (preserved : ∀ state input next, inv state → step state input next → inv next)
    (run : Reaches step before inputs after) (start : inv before) : inv after := by
  induction run with
  | nil state => exact start
  | cons taken _ ih => exact ih (preserved _ _ _ start taken)

/-- If a related system answers every step with some steps of its own, it follows every run. -/
theorem Reaches.simulated {Other Move : Type*} {other : Other → Move → Other → Prop} {rel : State → Other → Prop}
    (answers : ∀ before input after beside, rel before beside → step before input after →
      ∃ moves next, Reaches other beside moves next ∧ rel after next)
    {before after : State} {inputs : List Input} (run : Reaches step before inputs after) {beside : Other}
    (start : rel before beside) : ∃ moves next, Reaches other beside moves next ∧ rel after next := by
  induction run generalizing beside with
  | nil state => exact ⟨[], beside, .nil beside, start⟩
  | cons taken _ ih =>
      obtain ⟨moves, middle, answer, related⟩ := answers _ _ _ _ start taken
      obtain ⟨later, next, following, last⟩ := ih related
      exact ⟨moves ++ later, next, answer.append following, last⟩

theorem Always.start {good : State → Prop} {state : State} {inputs : List Input}
    (always : Always step good state inputs) : good state := by
  cases inputs with
  | nil => exact always
  | cons input rest => exact always.1

theorem Guarded.of_forall {guard : State → Input → Prop} (met : ∀ state input, guard state input) (state : State)
    (inputs : List Input) : Guarded step guard state inputs := by
  induction inputs generalizing state with
  | nil => trivial
  | cons input rest ih => exact fun next _ => ⟨met state input, ih next⟩

/-- An invariant that the steps meeting `guard` preserve holds in every state of
a run of such steps. -/
theorem Guarded.always {inv good : State → Prop} {guard : State → Input → Prop}
    (preserved : ∀ state input next, inv state → guard state input → step state input next → inv next)
    (enough : ∀ state, inv state → good state) {state : State} {inputs : List Input} (start : inv state)
    (guarded : Guarded step guard state inputs) : Always step good state inputs := by
  induction inputs generalizing state with
  | nil => exact enough state start
  | cons input rest ih =>
      refine ⟨enough state start, fun next taken => ?_⟩
      obtain ⟨met, following⟩ := guarded next taken
      exact ih (preserved _ _ _ start met taken) following

/-- An invariant of the steps meeting `guard` that is enough for a property only
these steps keep decides the property along whole runs. -/
theorem always_iff_guarded_of {inv good : State → Prop} {guard : State → Input → Prop}
    (preserved : ∀ state input next, inv state → guard state input → step state input next → inv next)
    (enough : ∀ state, inv state → good state)
    (needed : ∀ state input next, inv state → step state input next → good next → guard state input)
    {state : State} {inputs : List Input} (start : inv state) :
    Always step good state inputs ↔ Guarded step guard state inputs := by
  refine ⟨fun always => ?_, fun guarded => guarded.always preserved enough start⟩
  induction inputs generalizing state with
  | nil => trivial
  | cons input rest ih =>
      intro next taken
      have met := needed _ _ _ start taken (always.2 next taken).start
      exact ⟨met, ih (preserved _ _ _ start met taken) (always.2 next taken)⟩

/-- What one step does to the property under `guard`, given an auxiliary
invariant, decides the property along whole runs. -/
theorem always_iff_guarded {inv good : State → Prop} {guard : State → Input → Prop}
    (preserved : ∀ state input next, inv state → step state input next → inv next)
    (exactStep : ∀ state input next, inv state → good state → step state input next →
      (good next ↔ guard state input))
    {state : State} {inputs : List Input} (startInv : inv state) (startGood : good state) :
    Always step good state inputs ↔ Guarded step guard state inputs := by
  have both : ∀ state input next, inv state ∧ good state → guard state input → step state input next →
      inv next ∧ good next := fun _ _ _ kept met taken =>
    ⟨preserved _ _ _ kept.1 taken, (exactStep _ _ _ kept.1 kept.2 taken).mpr met⟩
  exact always_iff_guarded_of both (fun _ kept => kept.2)
    (fun _ _ _ kept taken => (exactStep _ _ _ kept.1 kept.2 taken).mp) ⟨startInv, startGood⟩

end Rteipc.Data
