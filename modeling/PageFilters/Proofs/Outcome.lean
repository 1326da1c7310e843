/-!
# Outcomes of steps in sequence

A step behind another one is reached only where the first has succeeded.  These
are the ways in which the two together succeed or fail.  Two sequences whose
steps fail alike or give related values do so as a whole.
-/

namespace PageFilters.Outcome

theorem bind_eq_ok_iff {ε α β : Type} {outcome : Except ε α} {next : α → Except ε β}
    {value : β} :
    outcome >>= next = .ok value ↔ ∃ found, outcome = .ok found ∧ next found = .ok value := by
  cases outcome with
  | error failure => simp [bind, Except.bind]
  | ok found => simp [bind, Except.bind]

theorem bind_eq_error_iff {ε α β : Type} {outcome : Except ε α} {next : α → Except ε β}
    {failure : ε} :
    outcome >>= next = .error failure ↔
      outcome = .error failure ∨ ∃ found, outcome = .ok found ∧ next found = .error failure := by
  cases outcome with
  | error failure => simp [bind, Except.bind]
  | ok found => simp [bind, Except.bind]

theorem mapError_eq_ok_iff {ε ε' α : Type} {outcome : Except ε α} {report : ε → ε'}
    {value : α} : outcome.mapError report = .ok value ↔ outcome = .ok value := by
  cases outcome with
  | error failure =>
      change Except.error (report failure) = .ok value ↔ _
      simp
  | ok found =>
      change Except.ok found = .ok value ↔ _
      simp

theorem mapError_eq_error_iff {ε ε' α : Type} {outcome : Except ε α} {report : ε → ε'}
    {reported : ε'} :
    outcome.mapError report = .error reported ↔
      ∃ failure, outcome = .error failure ∧ report failure = reported := by
  cases outcome with
  | error failure =>
      change Except.error (report failure) = .error reported ↔ _
      simp
  | ok found =>
      change Except.ok found = .error reported ↔ _
      simp

theorem map_eq_ok_iff {ε α β : Type} {outcome : Except ε α} {change : α → β} {value : β} :
    outcome.map change = .ok value ↔ ∃ found, outcome = .ok found ∧ change found = value := by
  cases outcome with
  | error failure => simp [Except.map]
  | ok found => simp [Except.map]

theorem map_eq_error_iff {ε α β : Type} {outcome : Except ε α} {change : α → β} {failure : ε} :
    outcome.map change = .error failure ↔ outcome = .error failure := by
  cases outcome with
  | error failure => simp [Except.map]
  | ok found => simp [Except.map]

theorem map_map_unit {ε α : Type} (outcome : Except ε Unit) (value : α) :
    (outcome.map fun () => value).map (fun _ => ()) = outcome := by
  cases outcome with
  | error failure => rfl
  | ok found => rfl

/-- Two outcomes are failures for one reason, or their values are related. -/
inductive Alike {ε α β : Type} (Related : α → β → Prop) : Except ε α → Except ε β → Prop where
  | ok {left : α} {right : β} (related : Related left right) :
      Alike Related (.ok left) (.ok right)
  | error (failure : ε) : Alike Related (.error failure) (.error failure)

namespace Alike

variable {ε α β : Type} {Related : α → β → Prop} {left : Except ε α} {right : Except ε β}

theorem refl (outcome : Except ε α) : Alike (· = ·) outcome outcome := by
  cases outcome with
  | error failure => exact .error failure
  | ok value => exact .ok rfl

theorem bind {γ δ : Type} {Reached : γ → δ → Prop} {first : α → Except ε γ}
    {second : β → Except ε δ} (alike : Alike Related left right)
    (next : ∀ found other, Related found other → Alike Reached (first found) (second other)) :
    Alike Reached (left >>= first) (right >>= second) := by
  cases alike with
  | ok related => exact next _ _ related
  | error failure => exact .error failure

theorem mapRight {γ : Type} {Reached : α → γ → Prop} {change : β → γ}
    (alike : Alike Related left right)
    (next : ∀ found other, Related found other → Reached found (change other)) :
    Alike Reached left (right.map change) := by
  cases alike with
  | ok related => exact .ok (next _ _ related)
  | error failure => exact .error failure

theorem of_ok {value : α} (alike : Alike Related left right) (succeeded : left = .ok value) :
    ∃ other, right = .ok other ∧ Related value other := by
  cases alike with
  | ok related =>
      cases succeeded
      exact ⟨_, rfl, related⟩
  | error failure => contradiction

theorem of_error {failure : ε} (alike : Alike Related left right)
    (failed : left = .error failure) : right = .error failure := by
  cases alike with
  | ok related => contradiction
  | error failure =>
      cases failed
      rfl

theorem symm (alike : Alike Related left right) :
    Alike (fun other found => Related found other) right left := by
  cases alike with
  | ok related => exact .ok related
  | error failure => exact .error failure

end Alike

end PageFilters.Outcome
