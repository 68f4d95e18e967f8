import LinkRelay.Fault

namespace LinkRelay

/-- A fault that is not the user's interruption. -/
def Fault.Regular (fault : Fault) : Prop :=
  ∀ text, fault ≠ .interrupted text

theorem Fault.regular_link (error : LinkError) : (Fault.link error).Regular := by
  intro text h
  cases h

/-- Whatever keeps a file from having a text is no interruption. -/
theorem Fault.regular_of_readError {fault : Fault} {cause : ReadError}
    (hcause : fault.readError? = some cause) : fault.Regular := by
  rintro text rfl
  cases hcause

namespace Answer

variable {ε α β : Type}

/-- A composed answer is good if both parts are, one after the other. -/
theorem bind_eq_ok_iff {first : Except ε α} {next : α → Except ε β} {b : β} :
    (first >>= next) = .ok b ↔ ∃ a, first = .ok a ∧ next a = .ok b := by
  cases first <;> simp [Bind.bind, Except.bind]

/-- A composed answer is the fault of the first part that has one. -/
theorem bind_eq_error_iff {first : Except ε α} {next : α → Except ε β} {e : ε} :
    (first >>= next) = .error e ↔ first = .error e ∨ ∃ a, first = .ok a ∧ next a = .error e := by
  cases first <;> simp [Bind.bind, Except.bind]

theorem map_eq_ok_iff {answer : Except ε α} {f : α → β} {b : β} :
    f <$> answer = .ok b ↔ ∃ a, answer = .ok a ∧ f a = b := by
  cases answer <;> simp [Functor.map, Except.map]

theorem map_eq_error_iff {answer : Except ε α} {f : α → β} {e : ε} :
    f <$> answer = .error e ↔ answer = .error e := by
  cases answer <;> simp [Functor.map, Except.map]

@[simp]
theorem mapError_ok {ε' : Type} (f : ε → ε') (a : α) :
    (Except.ok a : Except ε α).mapError f = .ok a :=
  rfl

@[simp]
theorem mapError_error {ε' : Type} (f : ε → ε') (e : ε) :
    (Except.error e : Except ε α).mapError f = .error (f e) :=
  rfl

theorem mapError_eq_error_iff {ε' : Type} {answer : Except ε α} {f : ε → ε'} {e' : ε'} :
    answer.mapError f = .error e' ↔ ∃ e, answer = .error e ∧ f e = e' := by
  cases answer <;> simp

@[simp]
theorem ok_bind (a : α) (next : α → Except ε β) : (Except.ok a >>= next) = next a :=
  rfl

@[simp]
theorem error_bind (e : ε) (next : α → Except ε β) : (Except.error e >>= next) = .error e :=
  rfl

end Answer

end LinkRelay
