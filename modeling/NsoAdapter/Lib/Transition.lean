import Mathlib.Logic.Relation

/-! Transition systems over arbitrary states and labels: reachability, the
invariant rule, runs whose steps all meet a condition, and evaluation of a trace
of labels. Nothing here depends on a particular system. -/

namespace NsoAdapter.Lib

/-- A system with a set of starting states and a partial, labelled step
function. A label with no successor is a refused operation. -/
structure TransitionSystem (State Label : Type) where
  initial : State → Prop
  step : Label → State → Option State

namespace TransitionSystem

variable {State Label : Type} (system : TransitionSystem State Label)

/-- States visited by a run from a starting state in which every step is allowed
in the state it starts from. -/
inductive ReachableUnder (allowed : State → Label → Prop) : State → Prop where
  | initial {state : State} : system.initial state → ReachableUnder allowed state
  | step {before after : State} {label : Label} :
      ReachableUnder allowed before → allowed before label →
      system.step label before = some after → ReachableUnder allowed after

def Reachable : State → Prop :=
  system.ReachableUnder fun _ _ => True

def Step (before after : State) : Prop :=
  ∃ label, system.step label before = some after

def Steps : State → State → Prop :=
  Relation.ReflTransGen system.Step

def StepsUnder (permitted : Label → Prop) : State → State → Prop :=
  Relation.ReflTransGen fun before after =>
    ∃ label, permitted label ∧ system.step label before = some after

/-- Execute a list of labels; a refused label ends the trace with no state. -/
def trace : List Label → State → Option State
  | [], state => some state
  | label :: labels, state => (system.step label state).bind (trace labels)

/-- Execute a list of labels, each of them only where it is permitted. -/
def traceUnder (permitted : State → Label → Bool) : List Label → State → Option State
  | [], state => some state
  | label :: labels, state =>
    if permitted state label then
      (system.step label state).bind (traceUnder permitted labels)
    else none

variable {system} {allowed : State → Label → Prop}

theorem Reachable.initial {state : State} (starts : system.initial state) : system.Reachable state := ReachableUnder.initial starts

theorem Reachable.step {before after : State} {label : Label}
    (reached : system.Reachable before) (stepped : system.step label before = some after) :
    system.Reachable after :=
  ReachableUnder.step reached trivial stepped

theorem ReachableUnder.reachable {state : State} (reached : system.ReachableUnder allowed state) : system.Reachable state := by
  induction reached with
  | initial starts => exact .initial starts
  | step _ _ stepped ih => exact .step ih stepped

theorem Reachable.steps {start finish : State} (reached : system.Reachable start)
    (taken : system.Steps start finish) : system.Reachable finish := by
  induction taken with
  | refl => exact reached
  | tail _ last ih =>
    obtain ⟨label, stepped⟩ := last
    exact ih.step stepped

theorem Reachable.trace {labels : List Label} {start finish : State}
    (reached : system.Reachable start) (executed : system.trace labels start = some finish) :
    system.Reachable finish := by
  induction labels generalizing start with
  | nil =>
    cases executed
    exact reached
  | cons label labels ih =>
    obtain ⟨middle, stepped, rest⟩ := Option.bind_eq_some_iff.mp executed
    exact ih (reached.step stepped) rest

theorem ReachableUnder.trace {permitted : State → Label → Bool} {labels : List Label} {start finish : State}
    (reached : system.ReachableUnder (fun state label => permitted state label = true) start)
    (executed : system.traceUnder permitted labels start = some finish) :
    system.ReachableUnder (fun state label => permitted state label = true) finish := by
  induction labels generalizing start with
  | nil =>
    cases executed
    exact reached
  | cons label labels ih =>
    unfold traceUnder at executed
    split at executed
    · rename_i allowed
      obtain ⟨middle, stepped, rest⟩ := Option.bind_eq_some_iff.mp executed
      exact ih (reached.step allowed stepped) rest
    · cases executed

theorem ReachableUnder.invariant {invariant : State → Prop} {state : State} (reached : system.ReachableUnder allowed state)
    (initially : ∀ start, system.initial start → invariant start)
    (preserved : ∀ label before after, invariant before → allowed before label →
      system.step label before = some after → invariant after) :
    invariant state := by
  induction reached with
  | initial starts => exact initially _ starts
  | step _ permitted stepped ih => exact preserved _ _ _ ih permitted stepped

theorem Reachable.invariant {invariant : State → Prop} {state : State} (reached : system.Reachable state)
    (initially : ∀ start, system.initial start → invariant start)
    (preserved : ∀ label before after, invariant before → system.step label before = some after → invariant after) :
    invariant state :=
  ReachableUnder.invariant reached initially fun label before after valid _ stepped => preserved label before after valid stepped

theorem StepsUnder.related {permitted : Label → Prop} {invariant : State → Prop} {related : State → State → Prop} {start finish : State}
    (taken : system.StepsUnder permitted start finish) (valid : invariant start)
    (preserved : ∀ label before after, invariant before → system.step label before = some after → invariant after)
    (reflexive : ∀ state, related state state)
    (transitive : ∀ first second third, related first second → related second third → related first third)
    (stepwise : ∀ label before after, permitted label → invariant before →
      system.step label before = some after → related before after) :
    related start finish := by
  have both : invariant finish ∧ related start finish := by
    induction taken with
    | refl => exact ⟨valid, reflexive start⟩
    | tail _ last ih =>
      obtain ⟨label, allowed, stepped⟩ := last
      exact ⟨preserved _ _ _ ih.1 stepped, transitive _ _ _ ih.2 (stepwise _ _ _ allowed ih.1 stepped)⟩
  exact both.2

theorem Steps.related {invariant : State → Prop} {related : State → State → Prop}
    {start finish : State} (taken : system.Steps start finish) (valid : invariant start)
    (preserved : ∀ label before after, invariant before → system.step label before = some after → invariant after)
    (reflexive : ∀ state, related state state)
    (transitive : ∀ first second third, related first second → related second third → related first third)
    (stepwise : ∀ label before after, invariant before → system.step label before = some after → related before after) :
    related start finish := by
  have permitted : system.StepsUnder (fun _ => True) start finish := by
    refine Relation.ReflTransGen.mono ?_ start finish taken
    rintro before after ⟨label, stepped⟩
    exact ⟨label, trivial, stepped⟩
  exact permitted.related valid preserved reflexive transitive fun label before after _ => stepwise label before after

end TransitionSystem

end NsoAdapter.Lib
