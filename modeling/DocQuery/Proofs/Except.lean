/-
**Computations that can fail.**

* `bind_eq_ok`, `map_eq_ok`: a computation in two parts succeeds exactly if both parts do;
* `ok_bind`, `error_bind`, `mapError_ok`, `mapError_error`: what comes of a part with a known end;
* `exists_of_any`: a result with a property, from a computation that can be evaluated;
* `FailsOnly`: the causes for which a computation can fail, with `FailsOnly.bind` for two parts;
* `SameUpTo`: two computations have the same result, or fail for causes that are the same in some
  respect, with `SameUpTo.bind` for two parts.
-/

namespace DocQuery

variable {ε α β : Type}

theorem bind_eq_ok {first : Except ε α} {next : α → Except ε β} {result : β} :
    (first >>= next) = .ok result ↔ ∃ value, first = .ok value ∧ next value = .ok result := by
  cases first with
  | error failure => exact ⟨nofun, fun ⟨_, refused, _⟩ => nomatch refused⟩
  | ok value =>
    refine ⟨fun found => ⟨value, rfl, found⟩, ?_⟩
    rintro ⟨_, ⟨⟩, found⟩
    exact found

theorem map_eq_ok {computation : Except ε α} {image : α → β} {result : β} :
    computation.map image = .ok result ↔
      ∃ value, computation = .ok value ∧ image value = result := by
  cases computation with
  | error failure =>
    constructor
    · rintro ⟨⟩
    · rintro ⟨_, ⟨⟩, -⟩
  | ok value =>
    refine ⟨fun same => ⟨value, rfl, Except.ok.inj same⟩, ?_⟩
    rintro ⟨_, ⟨⟩, rfl⟩
    rfl

@[simp] theorem ok_bind (value : α) (next : α → Except ε β) :
    (Except.ok value >>= next) = next value := rfl

@[simp] theorem error_bind (failure : ε) (next : α → Except ε β) :
    (Except.error failure >>= next) = .error failure := rfl

@[simp] theorem mapError_ok {δ : Type} (image : ε → δ) (value : α) :
    (Except.ok value : Except ε α).mapError image = .ok value := rfl

@[simp] theorem mapError_error {δ : Type} (image : ε → δ) (failure : ε) :
    (Except.error failure : Except ε α).mapError image = .error (image failure) := rfl

theorem exists_of_any {computation : Except ε α} {property : α → Bool}
    (holds : computation.toOption.any property) :
    ∃ value, computation = .ok value ∧ property value := by
  cases computation with
  | error failure => cases holds
  | ok value => exact ⟨value, rfl, holds⟩

/-! ### Causes of failures -/

/-- A computation fails for causes with a property only. -/
def FailsOnly (allowed : ε → Prop) (computation : Except ε α) : Prop :=
  ∀ failure, computation = .error failure → allowed failure

section

variable {allowed : ε → Prop}

theorem failsOnly_ok (value : α) : FailsOnly allowed (Except.ok value) := nofun

theorem failsOnly_error {failure : ε} (permitted : allowed failure) :
    FailsOnly allowed (Except.error failure : Except ε α) := by
  rintro _ ⟨⟩
  exact permitted

theorem FailsOnly.mono {other : ε → Prop} {computation : Except ε α}
    (fails : FailsOnly allowed computation) (implies : ∀ failure, allowed failure → other failure) :
    FailsOnly other computation := fun failure refused => implies failure (fails failure refused)

/-- The second part has to fail for such causes with the results of the first part only. -/
theorem FailsOnly.bind {first : Except ε α} {next : α → Except ε β}
    (fails : FailsOnly allowed first)
    (further : ∀ value, first = .ok value → FailsOnly allowed (next value)) :
    FailsOnly allowed (first >>= next) := by
  cases first with
  | error failure => exact failsOnly_error (fails failure rfl)
  | ok value => exact further value rfl

theorem FailsOnly.map {computation : Except ε α} (image : α → β)
    (fails : FailsOnly allowed computation) : FailsOnly allowed (image <$> computation) := by
  cases computation with
  | error failure => exact failsOnly_error (fails failure rfl)
  | ok value => exact failsOnly_ok _

end

/-! ### Computations that agree -/

/-- Two computations have the same result, or fail for causes with the same image. -/
def SameUpTo {δ : Type} (image : ε → δ) (first second : Except ε α) : Prop :=
  first.mapError image = second.mapError image

section

variable {δ : Type} {image : ε → δ}

theorem sameUpTo_id {first second : Except ε α} : SameUpTo id first second ↔ first = second := by
  cases first <;> cases second <;> simp [SameUpTo]

theorem SameUpTo.refl (computation : Except ε α) : SameUpTo image computation computation := rfl

/-- The second parts have to agree for a common result of the first parts only. -/
theorem SameUpTo.bind {first first' : Except ε α} {next next' : α → Except ε β}
    (same : SameUpTo image first first')
    (further : ∀ value, SameUpTo image (next value) (next' value)) :
    SameUpTo image (first >>= next) (first' >>= next') := by
  cases first with
  | error failure =>
    cases first' with
    | error _ => exact congrArg Except.error (Except.error.inj same)
    | ok _ => cases same
  | ok value =>
    cases first' with
    | error _ => cases same
    | ok _ =>
      cases same
      exact further value

theorem SameUpTo.map {first second : Except ε α} (result : α → β)
    (same : SameUpTo image first second) :
    SameUpTo image (result <$> first) (result <$> second) := by
  have mapped := same.bind fun value => SameUpTo.refl (Except.ok (result value))
  cases first <;> cases second <;> exact mapped

end

end DocQuery
