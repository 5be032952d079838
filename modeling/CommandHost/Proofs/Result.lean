/-!
# Results of steps in a row

A step gives a value or the cause of its failure.  Steps in a row succeed exactly if
each of them does.
-/

namespace CommandHost

variable {ε α β : Type}

theorem bind_eq_ok_iff {first : Except ε α} {next : α → Except ε β} {result : β} :
    first >>= next = .ok result ↔ ∃ value, first = .ok value ∧ next value = .ok result := by
  cases first with
  | error cause => simp [bind, Except.bind]
  | ok value => simp [bind, Except.bind]

theorem map_eq_ok_iff {first : Except ε α} {change : α → β} {result : β} :
    first.map change = .ok result ↔ ∃ value, first = .ok value ∧ change value = result := by
  cases first <;> simp [Except.map]

/-- A step that gives a value. -/
def Succeeds (result : Except ε α) : Prop := ∃ value, result = .ok value

@[simp] theorem succeeds_ok (value : α) : Succeeds (.ok value : Except ε α) := ⟨value, rfl⟩

@[simp] theorem not_succeeds_error (cause : ε) : ¬ Succeeds (.error cause : Except ε α) := by
  rintro ⟨_, impossible⟩
  cases impossible

theorem succeeds_bind_iff {first : Except ε α} {next : α → Except ε β} :
    Succeeds (first >>= next) ↔ ∃ value, first = .ok value ∧ Succeeds (next value) := by
  cases first with
  | error cause => simp [bind, Except.bind]
  | ok value => simp [bind, Except.bind]

/-- A last step that only changes the value does not matter. -/
theorem succeeds_bind_pure_iff {first : Except ε α} {change : α → β} :
    Succeeds (first >>= fun value => pure (change value)) ↔ Succeeds first := by
  cases first with
  | error cause => simp [bind, Except.bind]
  | ok value => simp [bind, Except.bind, pure, Except.pure]

@[simp] theorem throw_eq_error (cause : ε) : (throw cause : Except ε α) = .error cause := rfl

@[simp] theorem pure_eq_ok (value : α) : (pure value : Except ε α) = .ok value := rfl

@[simp] theorem ok_bind (value : α) (next : α → Except ε β) :
    (.ok value : Except ε α) >>= next = next value := rfl

@[simp] theorem error_bind (cause : ε) (next : α → Except ε β) :
    (.error cause : Except ε α) >>= next = .error cause := rfl

end CommandHost
