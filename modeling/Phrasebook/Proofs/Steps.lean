import Mathlib.Data.List.Forall2

/-!
# Steps that can fail

A chain of steps succeeds when each step does, and fails with what the first
failing step reports. The same holds of one step made for each item of a list, where the
first item that lacks what the step needs decides the failure.
-/

namespace Phrasebook.Steps

variable {ε α β : Type}

/-- Two steps succeed when the second one does with the outcome of the first. -/
theorem bind_eq_ok_iff {step : Except ε α} {next : α → Except ε β} {result : β} :
    step >>= next = .ok result ↔ ∃ value, step = .ok value ∧ next value = .ok result := by
  cases step <;> simp [bind, Except.bind]

/-- Two steps fail when the first one does, or the second one with its outcome. -/
theorem bind_eq_error_iff {step : Except ε α} {next : α → Except ε β} {failure : ε} :
    step >>= next = .error failure ↔
      step = .error failure ∨ ∃ value, step = .ok value ∧ next value = .error failure := by
  cases step <;> simp [bind, Except.bind]

/-- A changed outcome is the change of an outcome. -/
theorem map_eq_ok_iff {step : Except ε α} {change : α → β} {result : β} :
    change <$> step = .ok result ↔ ∃ value, step = .ok value ∧ change value = result := by
  cases step <;> simp [Functor.map, Except.map]

/-- Changing the outcome leaves a failure alone. -/
theorem map_eq_error_iff {step : Except ε α} {change : α → β} {failure : ε} :
    change <$> step = .error failure ↔ step = .error failure := by
  cases step <;> simp [Functor.map, Except.map]

/-- A step for each item succeeds when it does so for all of them. -/
theorem mapM_eq_ok_iff {step : α → Except ε β} {items : List α} {results : List β} :
    items.mapM step = .ok results ↔
      List.Forall₂ (fun item result => step item = .ok result) items results := by
  induction items generalizing results with
  | nil =>
    simp [pure, Except.pure, eq_comm]
  | cons item rest inductionHypothesis =>
    simp only [List.mapM_cons, bind_eq_ok_iff, List.forall₂_cons_left_iff, inductionHypothesis]
    constructor
    · rintro ⟨first, taken, others, later, same⟩
      cases same
      exact ⟨first, others, taken, later, rfl⟩
    · rintro ⟨first, others, taken, later, rfl⟩
      exact ⟨first, taken, others, later, rfl⟩

/-- A step that succeeds for all items does so for each of them. -/
theorem exists_of_mapM_eq_ok {step : α → Except ε β} {items : List α} {results : List β}
    (done : items.mapM step = .ok results) : ∀ item ∈ items, ∃ result, step item = .ok result := by
  rw [mapM_eq_ok_iff] at done
  induction done with
  | nil => simp
  | cons first _ inductionHypothesis =>
    intro item member
    rcases List.mem_cons.1 member with rfl | member
    · exact ⟨_, first⟩
    · exact inductionHypothesis item member

/-- A step for each item fails at the first item for which it does. -/
theorem mapM_eq_error_iff {step : α → Except ε β} {items : List α} {failure : ε} :
    items.mapM step = .error failure ↔
      ∃ earlier item later, items = earlier ++ item :: later ∧
        (∃ results, earlier.mapM step = .ok results) ∧ step item = .error failure := by
  induction items with
  | nil => simp [pure, Except.pure]
  | cons first rest inductionHypothesis =>
    simp only [List.mapM_cons, bind_eq_error_iff, inductionHypothesis]
    constructor
    · rintro (failed | ⟨value, taken, ⟨earlier, item, later, rfl, ⟨results, before⟩, failed⟩ |
        ⟨results, _, impossible⟩⟩)
      · exact ⟨[], first, rest, rfl, ⟨[], rfl⟩, failed⟩
      · refine ⟨first :: earlier, item, later, rfl, ⟨value :: results, ?_⟩, failed⟩
        simp only [List.mapM_cons, taken, before]
        rfl
      · cases impossible
    · rintro ⟨earlier, item, later, same, ⟨results, before⟩, failed⟩
      cases earlier with
      | nil =>
        cases same
        exact .inl failed
      | cons head more =>
        cases same
        obtain ⟨value, taken, before⟩ := bind_eq_ok_iff.1 (List.mapM_cons.symm.trans before)
        obtain ⟨others, before, -⟩ := bind_eq_ok_iff.1 before
        exact .inr ⟨value, taken, .inl ⟨more, item, later, rfl, ⟨others, before⟩, failed⟩⟩

/-- Steps that succeed for all items take a state through the same changes as these do. -/
theorem foldlM_eq_ok {σ : Type} {step : σ → α → Except ε σ} {next : σ → α → σ} {items : List α}
    (each : ∀ state, ∀ item ∈ items, step state item = .ok (next state item)) (start : σ) :
    items.foldlM step start = .ok (items.foldl next start) := by
  induction items generalizing start with
  | nil => rfl
  | cons item rest inductionHypothesis =>
    have first : step start item = .ok (next start item) := each start item List.mem_cons_self
    rw [List.foldlM_cons, first]
    exact inductionHypothesis (fun state other member =>
      each state other (List.mem_cons_of_mem item member)) _

/-- Whether an item is the first one of a list that lacks a property. -/
def FirstLacking (property : α → Prop) (items : List α) (item : α) : Prop :=
  ∃ earlier later, items = earlier ++ item :: later ∧ (∀ other ∈ earlier, property other) ∧
    ¬ property item

/-- Either all items have a property, or there is a first one that lacks it. -/
theorem all_or_firstLacking (property : α → Prop) (items : List α) :
    (∀ item ∈ items, property item) ∨ ∃ item, FirstLacking property items item := by
  induction items with
  | nil => simp
  | cons first rest inductionHypothesis =>
    by_cases has : property first
    · rcases inductionHypothesis with all | ⟨item, earlier, later, rfl, before, lacks⟩
      · exact .inl (List.forall_mem_cons.2 ⟨has, all⟩)
      · exact .inr ⟨item, first :: earlier, later, rfl, List.forall_mem_cons.2 ⟨has, before⟩, lacks⟩
    · exact .inr ⟨first, [], rest, rfl, by simp, has⟩

/-- The first item that lacks a property is an item of the list. -/
theorem FirstLacking.mem {property : α → Prop} {items : List α} {item : α}
    (first : FirstLacking property items item) : item ∈ items ∧ ¬ property item := by
  obtain ⟨earlier, later, rfl, -, lacks⟩ := first
  exact ⟨by simp, lacks⟩

/-- Whether an outcome is decided by a list of items: there is one when all items have a property,
and otherwise what is wrong with the first item that lacks it is reported. -/
def DecidedBy (outcome : Except ε β) (items : List α) (property : α → Prop)
    (wrong : α → ε → Prop) : Prop :=
  ((∃ result, outcome = .ok result) ↔ ∀ item ∈ items, property item) ∧
    ∀ failure, outcome = .error failure ↔
      ∃ item, FirstLacking property items item ∧ wrong item failure

/-- It is enough to know the outcome when all items have the property, and when there is a first
one that lacks it. -/
theorem decidedBy_of_cases {outcome : Except ε β} {items : List α} {property : α → Prop}
    {wrong : α → ε → Prop}
    (done : (∀ item ∈ items, property item) → ∃ result, outcome = .ok result)
    (exists_wrong : ∀ item, ¬ property item → ∃ failure, wrong item failure)
    (failed : ∀ item, FirstLacking property items item →
      ∀ failure, wrong item failure → outcome = .error failure) :
    DecidedBy outcome items property wrong := by
  rcases all_or_firstLacking property items with all | ⟨item, first⟩
  · obtain ⟨result, rfl⟩ := done all
    refine ⟨⟨fun _ => all, fun _ => ⟨result, rfl⟩⟩, fun failure => ⟨nofun, ?_⟩⟩
    rintro ⟨item, first, -⟩
    exact absurd (all item first.mem.1) first.mem.2
  · obtain ⟨failure, isWrong⟩ := exists_wrong item first.mem.2
    obtain rfl := failed item first failure isWrong
    refine ⟨⟨nofun, fun all => absurd (all item first.mem.1) first.mem.2⟩, fun other => ?_⟩
    constructor
    · rintro ⟨⟩
      exact ⟨item, first, isWrong⟩
    · rintro ⟨another, alsoFirst, alsoWrong⟩
      exact failed another alsoFirst other alsoWrong

end Phrasebook.Steps
