import Mathlib.Data.List.Basic

/-! Computations that may refuse: how a success is taken apart, and when two runs
of them agree. -/

namespace NsoAdapter.Lib

variable {Failure Value Result Item State : Type}

variable {first : Except Failure Value}

theorem bind_eq_ok {next : Value → Except Failure Result} {result : Result} :
    (first >>= next) = .ok result ↔ ∃ value, first = .ok value ∧ next value = .ok result := by
  cases first with
  | error failure =>
    constructor
    · intro succeeded
      cases succeeded
    · rintro ⟨_, succeeded, _⟩
      cases succeeded
  | ok value =>
    constructor
    · intro succeeded
      exact ⟨value, rfl, succeeded⟩
    · rintro ⟨other, same, succeeded⟩
      cases same
      exact succeeded

theorem map_eq_ok {function : Value → Result} {result : Result} :
    first.map function = .ok result ↔ ∃ value, first = .ok value ∧ function value = result := by
  cases first with
  | error failure =>
    constructor
    · intro succeeded
      cases succeeded
    · rintro ⟨_, succeeded, _⟩
      cases succeeded
  | ok value =>
    constructor
    · intro succeeded
      exact ⟨value, rfl, Except.ok.inj succeeded⟩
    · rintro ⟨other, same, rfl⟩
      cases same
      rfl

theorem bind_mapped {Image : Type} (first : Except Failure Value) (function : Value → Image) (next : Image → Except Failure Result) :
    (first.map function >>= next) = first >>= fun value => next (function value) := by
  cases first <;> rfl

theorem map_bound {Image : Type} (first : Except Failure Value) (next : Value → Except Failure Result) (function : Result → Image) :
    (first >>= next).map function = first >>= fun value => (next value).map function := by
  cases first <;> rfl

variable {value : Value}

theorem toOption_eq_some {outcome : Except Failure Value} : outcome.toOption = some value ↔ outcome = .ok value := by
  cases outcome with
  | error | ok => simp [Except.toOption]

theorem toOption_any_eq_true {outcome : Except Failure Value} {test : Value → Bool}
    (holds : outcome.toOption.any test = true) : ∃ value, outcome = .ok value ∧ test value = true := by
  cases outcome with
  | error failure => cases holds
  | ok value => exact ⟨value, rfl, holds⟩

variable {items : List Item}

theorem foldlM_ok (holds : State → Prop) {step : State → Item → Except Failure State}
    (keeps : ∀ item ∈ items, ∀ before after, holds before → step before item = .ok after → holds after)
    {start finish : State} (initially : holds start)
    (run : items.foldlM step start = .ok finish) : holds finish := by
  induction items generalizing start with
  | nil =>
    cases run
    exact initially
  | cons item items ih =>
    rw [List.foldlM_cons] at run
    obtain ⟨middle, first, rest⟩ := bind_eq_ok.mp run
    exact ih (fun later member => keeps later (List.mem_cons_of_mem _ member))
      (keeps item List.mem_cons_self start middle initially first) rest

theorem foldlM_some (holds : State → Prop) {step : State → Item → Option State} (keeps : ∀ item ∈ items, ∀ before after, holds before →
      step before item = some after → holds after)
    {start finish : State} (initially : holds start)
    (run : items.foldlM step start = some finish) : holds finish := by
  induction items generalizing start with
  | nil =>
    cases run
    exact initially
  | cons item items ih =>
    rw [List.foldlM_cons] at run
    obtain ⟨middle, first, rest⟩ := Option.bind_eq_some_iff.mp run
    exact ih (fun later member => keeps later (List.mem_cons_of_mem _ member))
      (keeps item List.mem_cons_self start middle initially first) rest

theorem forall₂_append_left {related : Value → Item → Prop} {front back : List Value} (all : List.Forall₂ related (front ++ back) items) :
    ∃ first second, items = first ++ second ∧ List.Forall₂ related front first ∧ List.Forall₂ related back second := by
  induction front generalizing items with
  | nil => exact ⟨[], items, rfl, .nil, all⟩
  | cons value front ih =>
    cases all with
    | cons head rest =>
      obtain ⟨first, second, rfl, own, later⟩ := ih rest
      exact ⟨_ :: first, second, rfl, .cons head own, later⟩

variable {values : List Value}

theorem foldlM_of_forall₂ {related : Value → Item → Prop} {step : State → Item → Option State} {next : State → Value → State}
    (each : ∀ value ∈ values, ∀ item, related value item → ∀ state, step state item = some (next state value))
    (all : List.Forall₂ related values items) (start : State) :
    items.foldlM step start = some (values.foldl next start) := by
  induction all generalizing start with
  | nil => rfl
  | @cons value item values items first _ ih =>
    rw [List.foldlM_cons, each value List.mem_cons_self item first start]
    exact ih (fun later member => each later (List.mem_cons_of_mem _ member)) _

theorem foldlM_total {step : State → Item → Except Failure State}
    (total : ∀ item ∈ items, ∀ before, ∃ after, step before item = .ok after) (start : State) :
    ∃ finish, items.foldlM step start = .ok finish := by
  induction items generalizing start with
  | nil => exact ⟨start, rfl⟩
  | cons item items ih =>
    obtain ⟨middle, first⟩ := total item List.mem_cons_self start
    obtain ⟨finish, rest⟩ := ih (fun later member => total later (List.mem_cons_of_mem _ member)) middle
    exact ⟨finish, by rw [List.foldlM_cons]; exact bind_eq_ok.mpr ⟨middle, first, rest⟩⟩

/-- Two runs agree when both fail alike or their results are related. -/
inductive Alike (related : Value → Value → Prop) :
    Except Failure Value → Except Failure Value → Prop where
  | error (failure : Failure) : Alike related (.error failure) (.error failure)
  | ok {left right : Value} : related left right → Alike related (.ok left) (.ok right)

namespace Alike

variable {related : Value → Value → Prop} {further : Result → Result → Prop}

variable {left right : Except Failure Value}

theorem bind {leftNext rightNext : Value → Except Failure Result} (alike : Alike related left right)
    (next : ∀ leftValue rightValue, related leftValue rightValue →
      Alike further (leftNext leftValue) (rightNext rightValue)) :
    Alike further (left >>= leftNext) (right >>= rightNext) := by
  cases alike with
  | error failure => exact .error failure
  | ok same => exact next _ _ same

theorem map {leftFunction rightFunction : Value → Result} (alike : Alike related left right)
    (each : ∀ leftValue rightValue, related leftValue rightValue →
      further (leftFunction leftValue) (rightFunction rightValue)) :
    Alike further (left.map leftFunction) (right.map rightFunction) := by
  cases alike with
  | error failure => exact .error failure
  | ok same => exact .ok (each _ _ same)

theorem bind_same {first : Except Failure Value} {leftNext rightNext : Value → Except Failure Result}
    (next : ∀ value, first = .ok value → Alike further (leftNext value) (rightNext value)) :
    Alike further (first >>= leftNext) (first >>= rightNext) := by
  cases first with
  | error failure => exact .error failure
  | ok value => exact next value rfl

theorem mono {weaker : Value → Value → Prop} (alike : Alike related left right)
    (implied : ∀ leftValue rightValue, related leftValue rightValue →
      weaker leftValue rightValue) : Alike weaker left right := by
  cases alike with
  | error failure => exact .error failure
  | ok same => exact .ok (implied _ _ same)

theorem foldlM {leftStep rightStep : Value → Item → Except Failure Value} {items : List Item}
    {left right : Value} (start : related left right)
    (step : ∀ item ∈ items, ∀ leftValue rightValue, related leftValue rightValue →
      Alike related (leftStep leftValue item) (rightStep rightValue item)) :
    Alike related (items.foldlM leftStep left) (items.foldlM rightStep right) := by
  induction items generalizing left right with
  | nil => exact .ok start
  | cons item items ih =>
    rw [List.foldlM_cons, List.foldlM_cons]
    refine (step item List.mem_cons_self left right start).bind fun _ _ same => ?_
    exact ih same fun later member => step later (List.mem_cons_of_mem _ member)

end Alike

variable {function : Item → Except Failure Value}

theorem forall₂_of_mapM (mapped : items.mapM function = .ok values) :
    List.Forall₂ (fun item value => function item = .ok value) items values := by
  induction items generalizing values with
  | nil =>
    cases mapped
    exact .nil
  | cons item items ih =>
    rw [List.mapM_cons] at mapped
    obtain ⟨value, first, mapped⟩ := bind_eq_ok.mp mapped
    obtain ⟨rest, later, returned⟩ := bind_eq_ok.mp mapped
    cases returned
    exact .cons first (ih later)

theorem exists_of_forall₂ {related : Item → Value → Prop} (each : List.Forall₂ related items values)
    {value : Value} (member : value ∈ values) : ∃ item ∈ items, related item value := by
  induction each with
  | nil => cases member
  | cons first _ ih =>
    rcases List.mem_cons.mp member with rfl | later
    · exact ⟨_, List.mem_cons_self, first⟩
    · obtain ⟨item, listed, holds⟩ := ih later
      exact ⟨item, List.mem_cons_of_mem _ listed, holds⟩

theorem exists_of_mem_mapM (mapped : items.mapM function = .ok values)
    (member : value ∈ values) : ∃ item ∈ items, function item = .ok value :=
  exists_of_forall₂ (forall₂_of_mapM mapped) member

theorem mapM_perm {others : List Item} (shuffled : items.Perm others) (mapped : items.mapM function = .ok values) :
    ∃ again, others.mapM function = .ok again ∧ values.Perm again := by
  induction shuffled generalizing values with
  | nil => exact ⟨values, mapped, .refl _⟩
  | cons item _ ih =>
    rw [List.mapM_cons] at mapped
    obtain ⟨value, first, mapped⟩ := bind_eq_ok.mp mapped
    obtain ⟨rest, later, returned⟩ := bind_eq_ok.mp mapped
    cases returned
    obtain ⟨again, mappedAgain, same⟩ := ih later
    refine ⟨value :: again, ?_, same.cons value⟩
    rw [List.mapM_cons, first, mappedAgain]
    rfl
  | swap item other items =>
    rw [List.mapM_cons] at mapped
    obtain ⟨value, first, mapped⟩ := bind_eq_ok.mp mapped
    obtain ⟨rest, later, returned⟩ := bind_eq_ok.mp mapped
    cases returned
    rw [List.mapM_cons] at later
    obtain ⟨next, second, later⟩ := bind_eq_ok.mp later
    obtain ⟨last, final, returned⟩ := bind_eq_ok.mp later
    cases returned
    refine ⟨next :: value :: last, ?_, .swap _ _ _⟩
    rw [List.mapM_cons, List.mapM_cons, first, second, final]
    rfl
  | trans _ _ ihFirst ihSecond =>
    obtain ⟨middle, mappedMiddle, same⟩ := ihFirst mapped
    obtain ⟨again, mappedAgain, alike⟩ := ihSecond mappedMiddle
    exact ⟨again, mappedAgain, same.trans alike⟩

theorem mapM_congr {left right : Item → Except Failure Value}
    (same : ∀ item ∈ items, left item = right item) : items.mapM left = items.mapM right := by
  induction items with
  | nil => rfl
  | cons item items ih =>
    rw [List.mapM_cons, List.mapM_cons, same item List.mem_cons_self, ih fun later member => same later (List.mem_cons_of_mem _ member)]

/-! A failure that no step of a sequence or of a loop raises. -/

variable {failure : Failure}

theorem ok_ne_error : (Except.ok value : Except Failure Value) ≠ .error failure := by
  intro same
  cases same

theorem bind_ne_error {next : Value → Except Failure Result} (before : first ≠ .error failure)
    (after : ∀ value, next value ≠ .error failure) : (first >>= next) ≠ .error failure := by
  cases first with
  | error other => exact fun raised => before (congrArg _ (Except.error.inj raised))
  | ok value => exact after value

theorem mapM_ne_error (each : ∀ item, function item ≠ .error failure) (items : List Item) : items.mapM function ≠ .error failure := by
  induction items with
  | nil => exact nofun
  | cons item items ih =>
    rw [List.mapM_cons]
    exact bind_ne_error (each item) fun _ => bind_ne_error ih nofun

theorem filterMapM_ne_error {function : Item → Except Failure (Option Value)}
    (each : ∀ item, function item ≠ .error failure) (items : List Item) :
    items.filterMapM function ≠ .error failure := by
  induction items with
  | nil => exact nofun
  | cons item items ih =>
    rw [List.filterMapM_cons]
    refine bind_ne_error (each item) fun found => ?_
    cases found with
    | none => exact ih
    | some value => exact bind_ne_error ih nofun

end NsoAdapter.Lib
