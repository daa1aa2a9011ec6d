/-! Results that may fail: what follows from a computation that has come to its end. -/
namespace Letterpress
variable {ε ζ α β : Type}

theorem exists_of_bind_ok {x : Except ε α} {next : α → Except ε β} {b : β} (done : (x >>= next) = .ok b) :
    ∃ a, x = .ok a ∧ next a = .ok b := by
  cases x with
  | error e => exact nomatch done
  | ok a => exact ⟨a,rfl,done⟩

theorem cases_of_bind_error {x : Except ε α} {next : α → Except ε β} {e : ε} (failed : (x >>= next) = .error e) :
    x = .error e ∨ ∃ a, x = .ok a ∧ next a = .error e := by
  cases x with
  | error e' => exact .inl (congrArg _ (Except.error.inj failed))
  | ok a => exact .inr ⟨a,rfl,failed⟩

theorem ok_bind (a : α) (next : α → Except ε β) : (Except.ok a >>= next) = next a := rfl

theorem mapError_error (e : ε) (report : ε → ζ) : (Except.error e : Except ε α).mapError report = .error (report e) := rfl

theorem eq_ok_of_mapError {x : Except ε α} {report : ε → ζ} {a : α} (done : x.mapError report = .ok a) : x = .ok a := by
  cases x with
  | error e => exact nomatch done
  | ok b => exact congrArg _ (Except.ok.inj done)

theorem exists_of_mapError {x : Except ε α} {report : ε → ζ} {e : ζ} (failed : x.mapError report = .error e) :
    ∃ cause, x = .error cause ∧ report cause = e := by
  cases x with
  | error cause => exact ⟨cause,rfl,Except.error.inj failed⟩
  | ok a => exact nomatch failed

theorem mapError_bind (x : Except ε α) (next : α → Except ε β) (report : ε → ζ) :
    (x >>= next).mapError report = x.mapError report >>= fun a => (next a).mapError report := by
  cases x <;> rfl

/-- Results that differ in what is left out of their errors at most. -/
theorem cases_of_mapError {x y : Except ε α} {report : ε → ζ} (same : x.mapError report = y.mapError report) :
    (∃ a, x = .ok a ∧ y = .ok a) ∨ ∃ e other, x = .error e ∧ y = .error other ∧ report e = report other := by
  cases x with
  | ok a =>
    cases y with
    | ok b =>
      cases same
      exact .inl ⟨a,rfl,rfl⟩
    | error other => contradiction
  | error e =>
    cases y with
    | ok b => contradiction
    | error other => exact .inr ⟨e,other,rfl,rfl,Except.error.inj same⟩

end Letterpress
