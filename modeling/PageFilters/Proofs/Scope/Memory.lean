import PageFilters.Scope.Kind

/-!
# What is remembered of scopes

Classes of scopes are looked up once and remembered.  A memory that started
empty holds nothing but the classes themselves, so a kind that is found by way
of it is the kind of the scopes.
-/

namespace PageFilters.ClassMemory

/-- Whatever is remembered of a scope is its class. -/
def Sound (memory : ClassMemory) : Prop :=
  ∀ (scope : Scope) (known : Option ScopeClass),
    memory[scope]? = some known → known = scope.class?

theorem sound_empty : Sound ∅ := by
  intro scope known remembered
  simp at remembered

variable {memory : ClassMemory}

theorem Sound.insert (sound : memory.Sound) (scope : Scope) :
    Sound (memory.insert scope scope.class?) := by
  intro other known remembered
  rw [Std.HashMap.getElem?_insert] at remembered
  split at remembered
  next same =>
      rw [beq_iff_eq] at same
      rw [← same]
      exact (Option.some.inj remembered).symm
  next => exact sound other known remembered

theorem Sound.classOf (sound : memory.Sound) (scope : Scope) :
    (memory.classOf scope).1 = scope.class? ∧ (memory.classOf scope).2.Sound := by
  unfold ClassMemory.classOf
  split
  next known remembered => exact ⟨sound scope known remembered, sound⟩
  next => exact ⟨rfl, sound.insert scope⟩

theorem Sound.kindOf (sound : memory.Sound) (weak : Option TokenKind) (scopes : List Scope) :
    (memory.kindOf weak scopes).1 = kindOfScopes weak scopes ∧
      (memory.kindOf weak scopes).2.Sound := by
  induction scopes generalizing weak memory with
  | nil => exact ⟨rfl, sound⟩
  | cons scope outer induction =>
      obtain ⟨found, soundBehind⟩ := sound.classOf scope
      rw [ClassMemory.kindOf, kindOfScopes, ← found]
      split
      next kind behind looked =>
          rw [looked] at soundBehind ⊢
          exact ⟨rfl, soundBehind⟩
      next kind behind looked =>
          rw [looked] at soundBehind ⊢
          exact induction soundBehind (weak.or (some kind))
      next behind looked =>
          rw [looked] at soundBehind ⊢
          exact induction soundBehind weak

end PageFilters.ClassMemory
