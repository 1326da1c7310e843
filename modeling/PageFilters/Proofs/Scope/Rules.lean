import Mathlib.Data.List.MinMax
import Mathlib.Data.List.Nodup
import PageFilters.Scope.Kind

/-!
# The most particular rule

The rules for scopes are searched from the first one on.  A lead covers a scope
at the boundaries of its atoms only, so of two leads that cover one scope the
longer continues the shorter.  No rule of the table stands behind one whose lead
it continues, and therefore the first rule that covers a scope is the one with
the longest lead, which is found in a table of any order.
-/

namespace PageFilters

namespace Scope

/-- A scope is the lead, or the lead goes on in it behind a dot. -/
def Continues (scope lead : Scope) : Prop :=
  scope = lead ∨ ∃ more, scope = lead ++ "." ++ more

section Continuation

variable {scope lead other : Scope}

theorem continues_iff_toList :
    scope.Continues lead ↔
      ∃ rest, scope.toList = lead.toList ++ rest ∧ ∀ char ∈ rest.head?, char = '.' := by
  constructor
  · intro continues
    rcases continues with same | ⟨more, parts⟩
    · exact ⟨[], by simp [same], by simp⟩
    · exact ⟨'.' :: more.toList, by simp [parts], by simp⟩
  · intro found
    obtain ⟨rest, parts, dotted⟩ := found
    cases rest with
    | nil =>
        left
        exact String.toList_inj.mp (by simpa using parts)
    | cons char more =>
        right
        have isDot : char = '.' := dotted char rfl
        refine ⟨String.ofList more, String.toList_inj.mp ?_⟩
        simpa [isDot] using parts

theorem isUnder_iff : scope.isUnder lead = true ↔ scope.Continues lead := by
  rw [continues_iff_toList, isUnder, isUnderChars, Bool.and_eq_true, List.isPrefixOf_iff_prefix]
  constructor
  · intro under
    obtain ⟨⟨rest, parts⟩, dotted⟩ := under
    refine ⟨rest, parts.symm, ?_⟩
    rw [← parts, List.drop_left] at dotted
    simpa [Option.all_eq_true] using dotted
  · intro found
    obtain ⟨rest, parts, dotted⟩ := found
    refine ⟨⟨rest, parts.symm⟩, ?_⟩
    rw [parts, List.drop_left]
    simpa [Option.all_eq_true] using dotted

instance : Decidable (scope.Continues lead) :=
  decidable_of_iff _ isUnder_iff

theorem Continues.refl (scope : Scope) : scope.Continues scope :=
  .inl rfl

theorem Continues.length_le (continues : scope.Continues lead) : lead.length ≤ scope.length := by
  obtain ⟨rest, parts, -⟩ := continues_iff_toList.mp continues
  rw [← String.length_toList, ← String.length_toList, parts, List.length_append]
  exact Nat.le_add_right _ _

theorem Continues.append (continues : scope.Continues lead) (more : String) :
    (scope ++ "." ++ more).Continues lead := by
  rcases continues with same | ⟨between, parts⟩
  · exact .inr ⟨more, by rw [same]⟩
  · refine .inr ⟨between ++ "." ++ more, ?_⟩
    simp only [parts, String.append_assoc]

/-- Of two leads that cover a scope, the longer one continues the other. -/
theorem Continues.of_length_le (first : scope.Continues lead) (second : scope.Continues other)
    (shorter : lead.length ≤ other.length) : other.Continues lead := by
  obtain ⟨rest, parts, dotted⟩ := continues_iff_toList.mp first
  obtain ⟨behind, otherParts, -⟩ := continues_iff_toList.mp second
  rw [← String.length_toList, ← String.length_toList] at shorter
  have together : lead.toList <+: other.toList :=
    List.prefix_of_prefix_length_le ⟨rest, parts.symm⟩ ⟨behind, otherParts.symm⟩ shorter
  obtain ⟨between, betweenParts⟩ := together
  refine continues_iff_toList.mpr ⟨between, betweenParts.symm, ?_⟩
  rw [otherParts, ← betweenParts, List.append_assoc] at parts
  have same : between ++ behind = rest := List.append_cancel_left parts
  intro char first
  apply dotted
  rw [← same, List.head?_append, Option.mem_def.mp first]
  rfl

theorem Continues.eq_of_length_eq (first : scope.Continues lead) (second : scope.Continues other)
    (same : lead.length = other.length) : lead = other := by
  obtain ⟨rest, parts, -⟩ := continues_iff_toList.mp (first.of_length_le second same.le)
  rw [← String.length_toList, ← String.length_toList, parts, List.length_append] at same
  have nothing : rest = [] := List.length_eq_zero_iff.mp (by omega)
  rw [nothing, List.append_nil] at parts
  exact String.toList_inj.mp parts.symm

end Continuation

section Tables

variable {rules : List (Scope × TokenKind)} {scope : Scope} {rule : Scope × TokenKind}

/-- A rule of a table covers a scope, and no longer lead of the table does. -/
structure Longest (rules : List (Scope × TokenKind)) (scope : Scope)
    (rule : Scope × TokenKind) : Prop where
  listed : rule ∈ rules
  covers : scope.Continues rule.1
  longest : ∀ other ∈ rules, scope.Continues other.1 → other.1.length ≤ rule.1.length

/-- Of the rules that cover a scope the one with the longest lead. -/
def longest? (rules : List (Scope × TokenKind)) (scope : Scope) : Option (Scope × TokenKind) :=
  (rules.filter fun rule => decide (scope.Continues rule.1)).argmax fun rule => rule.1.length

/-- No rule stands behind one whose lead it continues. -/
def ParticularFirst (rules : List (Scope × TokenKind)) : Prop :=
  rules.Pairwise fun earlier later => ¬ later.1.Continues earlier.1

instance : Decidable (ParticularFirst rules) :=
  inferInstanceAs (Decidable (rules.Pairwise _))

theorem ParticularFirst.nodup (ordered : ParticularFirst rules) :
    (rules.map Prod.fst).Nodup := by
  rw [List.Nodup, List.pairwise_map]
  apply ordered.imp
  intro earlier later apart same
  apply apart
  rw [same]
  exact .refl later.1

theorem Longest.unique (distinct : (rules.map Prod.fst).Nodup) {other : Scope × TokenKind}
    (left : Longest rules scope rule) (right : Longest rules scope other) : rule = other := by
  have sameLength : rule.1.length = other.1.length :=
    Nat.le_antisymm (right.longest rule left.listed left.covers)
      (left.longest other right.listed right.covers)
  have sameLead := left.covers.eq_of_length_eq right.covers sameLength
  exact List.inj_on_of_nodup_map distinct left.listed right.listed sameLead

theorem longest_of_longest? (found : longest? rules scope = some rule) :
    Longest rules scope rule := by
  have member := List.mem_filter.mp (List.argmax_mem found)
  refine ⟨member.1, by simpa using member.2, ?_⟩
  intro other listed covers
  have candidate : other ∈ rules.filter fun rule => decide (scope.Continues rule.1) :=
    List.mem_filter.mpr ⟨listed, by simpa using covers⟩
  exact List.le_of_mem_argmax (f := fun rule : Scope × TokenKind => rule.1.length) candidate found

theorem longest?_eq_none_iff :
    longest? rules scope = none ↔ ∀ rule ∈ rules, ¬ scope.Continues rule.1 := by
  rw [longest?, List.argmax_eq_none, List.filter_eq_nil_iff]
  simp

theorem longest?_eq_some_iff (distinct : (rules.map Prod.fst).Nodup) :
    longest? rules scope = some rule ↔ Longest rules scope rule := by
  constructor
  · exact longest_of_longest?
  · intro longest
    cases found : longest? rules scope with
    | none =>
        have uncovered := longest?_eq_none_iff.mp found rule longest.listed
        exact absurd longest.covers uncovered
    | some other => rw [(longest_of_longest? found).unique distinct longest]

theorem longest?_perm {other : List (Scope × TokenKind)} (permuted : other.Perm rules)
    (distinct : (rules.map Prod.fst).Nodup) (scope : Scope) :
    longest? other scope = longest? rules scope := by
  have otherDistinct : (other.map Prod.fst).Nodup :=
    (permuted.map Prod.fst).nodup_iff.mpr distinct
  apply Option.ext
  intro rule
  rw [longest?_eq_some_iff distinct, longest?_eq_some_iff otherDistinct]
  constructor
  · intro longest
    refine ⟨permuted.mem_iff.mp longest.listed, longest.covers, ?_⟩
    exact fun other listed => longest.longest other (permuted.mem_iff.mpr listed)
  · intro longest
    refine ⟨permuted.mem_iff.mpr longest.listed, longest.covers, ?_⟩
    exact fun other listed => longest.longest other (permuted.mem_iff.mp listed)

/-- Where no rule stands behind one that it continues, the first rule that covers
a scope has the longest lead. -/
theorem longest_of_find? (ordered : ParticularFirst rules)
    (found : (rules.find? fun rule => scope.isUnder rule.1) = some rule) :
    Longest rules scope rule := by
  obtain ⟨under, before, behind, parts, passed⟩ := List.find?_eq_some_iff_append.mp found
  have covers : scope.Continues rule.1 := isUnder_iff.mp under
  refine ⟨by simp [parts], covers, ?_⟩
  intro other listed otherCovers
  apply Nat.le_of_not_lt
  intro longer
  have continues : other.1.Continues rule.1 := covers.of_length_le otherCovers longer.le
  rw [parts, List.mem_append, List.mem_cons] at listed
  rcases listed with earlier | same | later
  · have notUnder : scope.isUnder other.1 = false := by simpa using passed other earlier
    rw [isUnder_iff.mpr otherCovers] at notUnder
    contradiction
  · rw [same] at longer
    exact Nat.lt_irrefl _ longer
  · rw [ParticularFirst, parts, List.pairwise_append, List.pairwise_cons] at ordered
    exact ordered.2.1.1 other later continues

theorem find?_eq_longest? (ordered : ParticularFirst rules) (scope : Scope) :
    (rules.find? fun rule => scope.isUnder rule.1) = longest? rules scope := by
  cases found : rules.find? fun rule => scope.isUnder rule.1 with
  | none =>
      symm
      rw [longest?_eq_none_iff]
      intro rule listed covers
      exact List.find?_eq_none.mp found rule listed (isUnder_iff.mpr covers)
  | some rule =>
      symm
      rw [longest?_eq_some_iff ordered.nodup]
      exact longest_of_find? ordered found

/-- If every search for the first rule ends at the longest lead, then no rule
stands behind one that it continues: the search for its own lead would stop
there. -/
theorem particularFirst_of_find? (distinct : (rules.map Prod.fst).Nodup)
    (found : ∀ scope : Scope, (rules.find? fun rule => scope.isUnder rule.1) =
      longest? rules scope) : ParticularFirst rules := by
  apply List.pairwise_iff_getElem.mpr
  intro first second firstWithin secondWithin inFront continues
  let later := rules[second]
  have longest : Longest rules later.1 later :=
    ⟨List.getElem_mem secondWithin, .refl later.1, fun other _ covers => covers.length_le⟩
  have foundLater := (found later.1).trans ((longest?_eq_some_iff distinct).mpr longest)
  obtain ⟨-, index, within, same, passed⟩ := List.find?_eq_some_iff_getElem.mp foundLater
  have sameIndex : index = second := (distinct.of_map Prod.fst).getElem_inj_iff.mp same
  have notUnder : later.1.isUnder rules[first].1 = false := by
    simpa using passed first (sameIndex ▸ inFront)
  rw [isUnder_iff.mpr continues] at notUnder
  contradiction

end Tables

theorem particularFirst_scopeRules : ParticularFirst scopeRules := by
  decide +kernel

theorem class?_of_punctuation {scope : Scope} (punctuation : scope.Continues "punctuation") :
    scope.class? = some (.weak .punctuation) := by
  rw [class?, if_pos (isUnder_iff.mpr punctuation)]

theorem class?_of_not_punctuation {scope : Scope}
    (other : ¬ scope.Continues "punctuation") :
    scope.class? = (longest? scopeRules scope).map fun rule => .strong rule.2 := by
  have notUnder : ¬ scope.isUnder "punctuation" = true := fun under => other (isUnder_iff.mp under)
  rw [class?, if_neg notUnder, find?_eq_longest? particularFirst_scopeRules]

/-- The lead of a rule is its own longest lead. -/
theorem class?_of_mem_scopeRules {rule : Scope × TokenKind} (listed : rule ∈ scopeRules) :
    rule.1.class? = some (.strong rule.2) := by
  have others : ∀ rule ∈ scopeRules, ¬ rule.1.Continues "punctuation" := by decide +kernel
  have longest : Longest scopeRules rule.1 rule :=
    ⟨listed, .refl rule.1, fun other _ covers => covers.length_le⟩
  have found := (longest?_eq_some_iff particularFirst_scopeRules.nodup).mpr longest
  rw [class?_of_not_punctuation (others rule listed), found]
  rfl

theorem class?_eq_none_iff {scope : Scope} :
    scope.class? = none ↔
      ¬ scope.Continues "punctuation" ∧ ∀ rule ∈ scopeRules, ¬ scope.Continues rule.1 := by
  by_cases punctuation : scope.Continues "punctuation"
  · simp [class?_of_punctuation punctuation, punctuation]
  · simp [class?_of_not_punctuation punctuation, punctuation, longest?_eq_none_iff]

/-- Punctuation is weak.  Any other scope has the kind of the longest lead that
covers it, in whatever order the rules are listed, and no class if none covers
it.  The search for the first rule can be made in just those orders in which no
rule stands behind one that it continues.  Every rule decides its own lead, and
a scope that has a class has one when it goes on. -/
theorem class?_most_particular :
    (∀ scope : Scope, scope.Continues "punctuation" →
      scope.class? = some (.weak .punctuation)) ∧
    (∀ scope : Scope, ¬ scope.Continues "punctuation" → ∀ rules, rules.Perm scopeRules →
      scope.class? = (longest? rules scope).map fun rule => .strong rule.2) ∧
    (∀ rules, rules.Perm scopeRules →
      ((∀ scope : Scope, (rules.find? fun rule => scope.isUnder rule.1) =
          scopeRules.find? fun rule => scope.isUnder rule.1) ↔ ParticularFirst rules)) ∧
    (∀ rule ∈ scopeRules, rule.1.class? = some (.strong rule.2)) ∧
    ∀ (scope : Scope) (more : String), scope.class? ≠ none →
      (scope ++ "." ++ more).class? ≠ none := by
  have distinct := particularFirst_scopeRules.nodup
  refine ⟨fun scope => class?_of_punctuation, ?_, ?_, fun rule => class?_of_mem_scopeRules, ?_⟩
  · intro scope other rules permuted
    rw [class?_of_not_punctuation other, longest?_perm permuted distinct]
  · intro rules permuted
    constructor
    · intro same
      have rulesDistinct := (permuted.map Prod.fst).nodup_iff.mpr distinct
      apply particularFirst_of_find? rulesDistinct
      intro scope
      rw [same, find?_eq_longest? particularFirst_scopeRules, longest?_perm permuted distinct]
    · intro ordered scope
      rw [find?_eq_longest? ordered, find?_eq_longest? particularFirst_scopeRules,
        longest?_perm permuted distinct]
  · intro scope more classified unclassified
    apply classified
    obtain ⟨notPunctuation, uncovered⟩ := class?_eq_none_iff.mp unclassified
    apply class?_eq_none_iff.mpr
    constructor
    · exact fun punctuation => notPunctuation (punctuation.append more)
    · exact fun rule listed covers => uncovered rule listed (covers.append more)

/-- In the reversed table strings stand in front of regular expressions, so the
longest lead is not the first one there. -/
theorem class?_most_particular_reversed :
    ¬ Scope.Continues "string.regexp.js" "punctuation" ∧
      scopeRules.reverse.Perm scopeRules ∧ ¬ ParticularFirst scopeRules.reverse ∧
      longest? scopeRules.reverse "string.regexp.js" = some ("string.regexp", .regex) ∧
      Scope.class? "string.regexp.js" = some (.strong .regex) ∧
      Scope.Continues "punctuation.comma" "punctuation" ∧
      Scope.class? "punctuation.comma" = some (.weak .punctuation) ∧
      Scope.class? "string.regexp" = some (.strong .regex) ∧
      Scope.class? ("string.regexp.js" ++ "." ++ "..") ≠ none := by
  obtain ⟨punctuation, others, -, own, goesOn⟩ := class?_most_particular
  have notPunctuation : ¬ Scope.Continues "string.regexp.js" "punctuation" := by decide +kernel
  have permuted : scopeRules.reverse.Perm scopeRules := List.reverse_perm scopeRules
  have found : longest? scopeRules.reverse "string.regexp.js" = some ("string.regexp", .regex) := by
    decide +kernel
  have strong : Scope.class? "string.regexp.js" = some (.strong .regex) := by
    rw [others _ notPunctuation _ permuted, found]
    rfl
  have comma : Scope.Continues "punctuation.comma" "punctuation" := .inr ⟨"comma", rfl⟩
  have classified : Scope.class? "string.regexp.js" ≠ none := by simp [strong]
  exact ⟨notPunctuation, permuted, by decide +kernel, found, strong, comma, punctuation _ comma,
    own ("string.regexp", .regex) (by decide), goesOn _ ".." classified⟩

end Scope

end PageFilters
