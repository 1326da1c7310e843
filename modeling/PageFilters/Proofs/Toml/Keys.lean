import PageFilters.Toml.Document

/-!
# A document has every key once

Whatever is added to a table, either something changes under a key that is there
or a key that is not there yet comes to the end.  The table of a document
therefore has no key twice.
-/

namespace PageFilters.Toml

namespace Entries

def Distinct (entries : Entries) : Prop :=
  (entries.map (·.1.text)).Nodup

theorem distinct_nil : Distinct [] :=
  List.nodup_nil

theorem distinct_append_singleton {entries : Entries} {key : Key} {node : Node}
    (distinct : Distinct entries) (fresh : ∀ entry ∈ entries, entry.1.text ≠ key.text) :
    Distinct (entries ++ [(key, node)]) := by
  unfold Distinct
  rw [List.map_append, List.nodup_append]
  refine ⟨distinct, by simp, ?_⟩
  intro text member other last
  obtain ⟨entry, found, rfl⟩ := List.mem_map.mp member
  rw [List.map_singleton, List.mem_singleton] at last
  rw [last]
  exact fresh entry found

section OneKey

variable {key : Key} {change : Option Node → Option Node} {entries altered : Entries}

/-- The keys stay as they are, or the key is new and comes to the end. -/
theorem keys_alter (changed : alter key change entries = some altered) :
    altered.map (·.1.text) = entries.map (·.1.text) ∨
      (∀ entry ∈ entries, entry.1.text ≠ key.text) ∧
        ∃ node, altered = entries ++ [(key, node)] := by
  induction entries generalizing altered with
  | nil =>
      obtain ⟨node, -, rfl⟩ := Option.map_eq_some_iff.mp changed
      exact .inr ⟨by simp, node, rfl⟩
  | cons entry rest induction =>
      rw [alter] at changed
      split at changed
      next same =>
        obtain ⟨node, -, rfl⟩ := Option.map_eq_some_iff.mp changed
        exact .inl rfl
      next other =>
        obtain ⟨behind, further, rfl⟩ := Option.map_eq_some_iff.mp changed
        rcases induction further with kept | ⟨fresh, node, rfl⟩
        · refine .inl ?_
          simp [kept]
        · refine .inr ⟨?_, node, rfl⟩
          intro entry member
          rcases List.mem_cons.mp member with rfl | later
          · simpa using other
          · exact fresh entry later

theorem Distinct.alter (distinct : Distinct entries)
    (changed : alter key change entries = some altered) : Distinct altered := by
  rcases keys_alter changed with kept | ⟨fresh, node, rfl⟩
  · unfold Distinct
    rw [kept]
    exact distinct
  · exact distinct_append_singleton distinct fresh

end OneKey

section Additions

variable {entries extended : Entries} (distinct : Distinct entries)

include distinct

theorem Distinct.assign {last : Key} {value : Node} {path : List Key}
    (assigned : assign last value path entries = some extended) : Distinct extended := by
  cases path with
  | nil => exact distinct.alter assigned
  | cons key path => exact distinct.alter assigned

theorem Distinct.addTable {header : Header} {assignments : List Assignment}
    (added : addTable header assignments entries = some extended) : Distinct extended := by
  unfold Entries.addTable at added
  split at added
  next absent =>
    obtain ⟨table, made, rfl⟩ := Option.map_eq_some_iff.mp added
    obtain ⟨inner, -, rfl⟩ := Option.map_eq_some_iff.mp made
    have fresh := List.find?_eq_none.mp (Option.map_eq_none_iff.mp absent)
    apply distinct_append_singleton distinct
    intro entry member
    simpa using fresh entry member
  next span inner passed =>
    obtain ⟨table, made, rfl⟩ := Option.map_eq_some_iff.mp added
    obtain ⟨inner, -, rfl⟩ := Option.map_eq_some_iff.mp made
    apply distinct_append_singleton
    · exact distinct.sublist (List.filter_sublist.map _)
    · intro entry member
      simpa using (List.mem_filter.mp member).2
  next => contradiction

theorem Distinct.addElement {header : Header} {assignments : List Assignment}
    (added : addElement header assignments entries = some extended) : Distinct extended := by
  obtain ⟨element, -, altered⟩ := Option.bind_eq_some_iff.mp added
  exact distinct.alter altered

theorem Distinct.under {change : Entries → Option Entries} {path : List Key}
    (keeps : ∀ {changed}, change entries = some changed → Distinct changed)
    (changed : under change path entries = some extended) : Distinct extended := by
  cases path with
  | nil => exact keeps changed
  | cons key path => exact distinct.alter changed

theorem Distinct.addSection {header : Header} {assignments : List Assignment}
    (added : addSection header assignments entries = some extended) : Distinct extended := by
  refine distinct.under ?_ added
  intro changed made
  split at made
  next repeated => exact distinct.addElement made
  next single => exact distinct.addTable made

end Additions

end Entries

theorem distinct_addStatements {entries extended : Entries} {statements : List Statement}
    (distinct : entries.Distinct) (added : addStatements entries statements = some extended) :
    extended.Distinct := by
  induction entries, statements using addStatements.induct with
  | case1 entries =>
      rw [addStatements] at added
      cases added
      exact distinct
  | case2 entries assignment rest induction =>
      rw [addStatements] at added
      obtain ⟨assigned, made, further⟩ := Option.bind_eq_some_iff.mp added
      exact induction assigned (distinct.assign made) further
  | case3 entries header rest assigned made induction =>
      rw [addStatements, made] at added
      exact induction (distinct.addSection made) added
  | case4 entries header rest refused =>
      rw [addStatements, refused] at added
      contradiction

theorem distinct_parse? {text : List Char} {entries : Entries}
    (parsed : parse? text = some entries) : entries.Distinct := by
  obtain ⟨⟨statements, cursor⟩, -, added⟩ := Option.bind_eq_some_iff.mp parsed
  exact distinct_addStatements Entries.distinct_nil added

end PageFilters.Toml
