import Phrasebook.Localizer.Inquiry

/-!
# Inquiries one after the other

What follows an inquiry without a failure adds its own questions behind those asked
before. What follows a failed inquiry is not made. Inquiries obey the laws of a monad, so
it does not matter how a sequence of them is put together.

Two inquiries that are made step by step with the same choices, but of two sources, come
out the same as soon as the sources agree on what the first of them asks.
-/

namespace Phrasebook

/-- Whether another source answers questions as this one does. -/
def Source.AgreesOn (source other : Source) (asked : List Question) : Prop :=
  ∀ question ∈ asked,
    other.lookup question.1 question.2 = source.lookup question.1 question.2

instance (source other : Source) (asked : List Question) :
    Decidable (source.AgreesOn other asked) :=
  inferInstanceAs (Decidable (∀ question ∈ asked, _))

namespace Inquiry

universe u
variable {α β : Type u}

@[simp] theorem asked_pure (value : α) : (pure value : Inquiry α).asked = [] := rfl

@[simp] theorem result_pure (value : α) : (pure value : Inquiry α).result = .ok value := rfl

@[simp] theorem asked_ofExcept (result : Except LocalizationFailure α) :
    (ofExcept result).asked = [] := rfl

@[simp] theorem result_ofExcept (result : Except LocalizationFailure α) :
    (ofExcept result).result = result := rfl

/-- After an answer the next inquiry is made with that answer. -/
theorem bind_ok (asked : List Question) (value : α) (second : α → Inquiry β) :
    (⟨asked, .ok value⟩ : Inquiry α) >>= second =
      ⟨asked ++ (second value).asked, (second value).result⟩ := rfl

/-- A failure is passed on with the questions asked up to then. -/
theorem bind_error (asked : List Question) (failure : LocalizationFailure)
    (second : α → Inquiry β) :
    (⟨asked, .error failure⟩ : Inquiry α) >>= second = ⟨asked, .error failure⟩ := rfl

instance : LawfulMonad Inquiry := LawfulMonad.mk' Inquiry
  (by
    rintro α ⟨asked, failure | value⟩
    · rfl
    · exact congrArg (fun asked => (⟨asked, .ok value⟩ : Inquiry α)) (List.append_nil asked))
  (by
    intro α β value second
    exact bind_ok [] value second)
  (by
    rintro α β γ ⟨asked, failure | value⟩ second third
    · rfl
    · rw [bind_ok]
      cases answered : second value with
      | mk more result =>
        cases result with
        | error failure => simp [bind_ok, bind_error, answered]
        | ok next => simp [bind_ok, answered, List.append_assoc])

/-- Changing the answer asks nothing more. -/
@[simp] theorem asked_map (change : α → β) (inquiry : Inquiry α) :
    (change <$> inquiry).asked = inquiry.asked := by
  obtain ⟨asked, failure | value⟩ := inquiry
  · rfl
  · exact List.append_nil asked

/-- Changing the answer leaves a failure as it is. -/
@[simp] theorem result_map (change : α → β) (inquiry : Inquiry α) :
    (change <$> inquiry).result = change <$> inquiry.result := by
  obtain ⟨asked, failure | value⟩ := inquiry <;> rfl

/-- What comes out after an answer is what the next inquiry gives. -/
theorem result_bind {inquiry : Inquiry α} {value : α} (answered : inquiry.result = .ok value)
    (next : α → Inquiry β) : (inquiry >>= next).result = (next value).result := by
  obtain ⟨asked, result⟩ := inquiry
  obtain rfl : result = .ok value := answered
  rfl

/-- Inquiries that are all answered give their answers one after the other. -/
theorem result_mapM {step : α → Inquiry β} {answer : α → β}
    (answered : ∀ item, (step item).result = .ok (answer item)) (items : List α) :
    (items.mapM step).result = .ok (items.map answer) := by
  induction items with
  | nil => rfl
  | cons item rest inductionHypothesis =>
    rw [List.mapM_cons, result_bind (answered item), result_bind inductionHypothesis]
    rfl

/-- A result that needs no question is just passed on. -/
theorem ofExcept_ok (value : α) : ofExcept (.ok value) = pure value := rfl

/-- Nothing is asked after a failure that comes before the first question. -/
theorem ofExcept_error_bind (failure : LocalizationFailure) (second : α → Inquiry β) :
    ofExcept (.error failure) >>= second = ofExcept (.error failure) := rfl

/-- Whether an inquiry of another source repeats one, questions included, provided that
the other source answers these questions alike. -/
def Tracks (source other : Source) (inquiry twin : Inquiry α) : Prop :=
  source.AgreesOn other inquiry.asked → twin = inquiry

variable {source other : Source}

/-- An inquiry that looks at no source repeats itself. -/
theorem Tracks.refl (inquiry : Inquiry α) : Tracks source other inquiry inquiry :=
  fun _ => rfl

/-- A question has the same answer where the sources agree. -/
theorem Tracks.ask (language name : String) :
    Tracks source other (ask source language name) (ask other language name) := by
  intro agrees
  have same : other.lookup language name = source.lookup language name :=
    agrees (language, name) (List.mem_singleton_self _)
  rw [Inquiry.ask, Inquiry.ask, same]

/-- One step after the other repeats one step after the other. -/
theorem Tracks.bind {inquiry twin : Inquiry α} {next twinNext : α → Inquiry β}
    (tracks : Tracks source other inquiry twin)
    (following : ∀ value, Tracks source other (next value) (twinNext value)) :
    Tracks source other (inquiry >>= next) (twin >>= twinNext) := by
  obtain ⟨asked, failure | value⟩ := inquiry
  · intro agrees
    rw [tracks agrees]
    rfl
  · intro agrees
    rw [bind_ok] at agrees
    have before : source.AgreesOn other asked :=
      fun question member => agrees question (List.mem_append_left _ member)
    have behind : source.AgreesOn other (next value).asked :=
      fun question member => agrees question (List.mem_append_right _ member)
    rw [tracks before, bind_ok, bind_ok, following value behind]

/-- Changing the answer asks nothing. -/
theorem Tracks.map (change : α → β) {inquiry twin : Inquiry α}
    (tracks : Tracks source other inquiry twin) :
    Tracks source other (change <$> inquiry) (change <$> twin) := by
  rw [map_eq_pure_bind, map_eq_pure_bind]
  exact tracks.bind fun value => Tracks.refl (pure (change value))

end Inquiry

end Phrasebook
