import Mathlib
import PageFilters.FileName

/-!
# Base names and the case of letters

A base name does not depend on the directories in front of it.  What is taken
from a name, its base name and its extension, keeps pace with a change of its
letters to lower case, because neither slashes nor dots are letters.
-/

namespace PageFilters.FileName

/-- A name with the case of some of its ASCII letters changed. -/
def Recased (name other : String) : Prop :=
  List.Forall₂ (fun old new => new = old ∨ new = old.toUpper ∨ new = old.toLower)
    name.toList other.toList

theorem Recased.refl (name : String) : Recased name name :=
  List.forall₂_same.mpr fun _ _ => .inl rfl

theorem toList_toLower (name : String) : name.toLower.toList = name.toList.map Char.toLower :=
  String.toList_map

theorem Recased.toLower_eq {name other : String} (recased : Recased name other) :
    other.toLower = name.toLower := by
  apply String.toList_inj.mp
  rw [toList_toLower, toList_toLower]
  unfold Recased at recased
  generalize name.toList = oldChars at recased ⊢
  generalize other.toList = newChars at recased ⊢
  induction recased with
  | nil => rfl
  | cons changed _ induction =>
      rw [List.map_cons, List.map_cons, induction]
      rcases changed with rfl | rfl | rfl
      · rfl
      · rw [Char.toLower_toUpper_eq_toLower]
      · rw [Char.toLower_toLower_eq_toLower]

theorem sameName_iff {left right : String} :
    sameName left right = true ↔ left.toLower = right.toLower := by
  rw [sameName, beq_iff_eq, ← toList_toLower, ← toList_toLower, String.toList_inj]

theorem sameName_toLower (left right : String) :
    sameName left right.toLower = sameName left right := by
  apply Bool.eq_iff_iff.mpr
  rw [sameName_iff, sameName_iff]
  have again : right.toLower.toLower = right.toLower := by
    apply String.toList_inj.mp
    simp [toList_toLower, Function.comp_def]
  rw [again]

theorem char_toLower_eq_iff {char mark : Char} (noLetter : mark.isAlpha = false) :
    char.toLower = mark ↔ char = mark := by
  by_cases upper : char.isUpper
  · have letter : char.isAlpha = true := by
      simp [Char.isAlpha, upper]
    constructor
    · intro same
      rw [← same, Char.isAlpha_toLower_eq_isAlpha, letter] at noLetter
      contradiction
    · intro same
      rw [← same, letter] at noLetter
      contradiction
  · rw [Char.toLower_eq_of_not_isUpper upper]

/-- A name without letters is not made by a change of case. -/
theorem toLower_eq_iff {name mark : String} (noLetters : mark.toList.all (!·.isAlpha) = true) :
    name.toLower = mark ↔ name = mark := by
  rw [← String.toList_inj, ← String.toList_inj, toList_toLower]
  generalize mark.toList = marks at noLetters ⊢
  generalize name.toList = chars
  induction chars generalizing marks with
  | nil => rfl
  | cons char chars induction =>
      cases marks with
      | nil => simp
      | cons first marks =>
          rw [List.all_cons, Bool.and_eq_true, Bool.not_eq_true'] at noLetters
          rw [List.map_cons, List.cons.injEq, List.cons.injEq, char_toLower_eq_iff noLetters.1,
            induction marks noLetters.2]

theorem toLower_bne {mark : String} (noLetters : mark.toList.all (!·.isAlpha) = true)
    (name : String) : (name.toLower != mark) = (name != mark) := by
  apply Bool.eq_iff_iff.mpr
  rw [bne_iff_ne, bne_iff_ne, ne_eq, toLower_eq_iff noLetters]

theorem splitOnP_map {α β : Type} (change : α → β) (separates : β → Bool) (text : List α) :
    (text.map change).splitOnP separates =
      (text.splitOnP (separates ∘ change)).map (·.map change) := by
  induction text with
  | nil => rfl
  | cons first rest induction =>
      rw [List.map_cons, List.splitOnP_cons_eq_if_modifyHead, List.splitOnP_cons_eq_if_modifyHead,
        induction]
      by_cases separator : separates (change first) = true
      · simp [separator]
      · simp only [separator, Function.comp_apply]
        cases rest.splitOnP (separates ∘ change) with
        | nil => rfl
        | cons part parts => rfl

/-- The parts of a path that mean something. -/
def components (path : String) : List String :=
  (path.splitToList (· == '/')).filter fun part => part != "" && part != "."

/-- The name that a path with these components goes by. -/
def nameOf? (components : List String) : Option String :=
  match components.getLast? with
  | some ".." => none
  | last => last

theorem base?_eq (path : String) : base? path = nameOf? (components path) :=
  rfl

theorem components_append (directory path : String) :
    components (directory ++ "/" ++ path) = components directory ++ components path := by
  have split : (directory ++ "/" ++ path).splitToList (· == '/') =
      directory.splitToList (· == '/') ++ path.splitToList (· == '/') := by
    simp only [String.splitToList_of_valid, ← List.map_append, String.toList_append,
      String.reduceToList, List.append_assoc, List.singleton_append]
    rw [List.splitOnP_append_cons _ _ rfl]
  rw [components, split, List.filter_append]
  rfl

theorem base?_append {path : String} (directory : String) (named : (base? path).isSome) :
    base? (directory ++ "/" ++ path) = base? path := by
  have nonempty : components path ≠ [] := by
    intro empty
    rw [base?_eq, empty] at named
    contradiction
  rw [base?_eq, base?_eq, components_append, nameOf?, List.getLast?_append_of_ne_nil _ nonempty]
  rfl

theorem splitToList_toLower (path : String) :
    path.toLower.splitToList (· == '/') = (path.splitToList (· == '/')).map String.toLower := by
  have separates : (fun char : Char => char == '/') ∘ Char.toLower = (· == '/') := by
    funext char
    apply Bool.eq_iff_iff.mpr
    rw [Function.comp_apply, beq_iff_eq, beq_iff_eq, char_toLower_eq_iff rfl]
  rw [String.splitToList_of_valid, String.splitToList_of_valid, toList_toLower, splitOnP_map,
    separates, List.map_map, List.map_map]
  apply List.map_congr_left
  intro part _
  apply String.toList_inj.mp
  rw [Function.comp_apply, Function.comp_apply, String.toList_ofList, toList_toLower,
    String.toList_ofList]

theorem components_toLower (path : String) :
    components path.toLower = (components path).map String.toLower := by
  rw [components, components, splitToList_toLower, List.filter_map]
  congr 1
  apply List.filter_congr
  intro part _
  rw [Function.comp_apply, toLower_bne rfl, toLower_bne rfl]

theorem base?_toLower (path : String) : base? path.toLower = (base? path).map String.toLower := by
  rw [base?_eq, base?_eq, components_toLower, nameOf?, nameOf?, List.getLast?_map]
  cases (components path).getLast? with
  | none => rfl
  | some last =>
      have up : last.toLower = ".." ↔ last = ".." := toLower_eq_iff rfl
      by_cases upward : last = ".."
      · rw [Option.map_some, up.mpr upward, upward]
        rfl
      · have lowerUpward : last.toLower ≠ ".." := mt up.mp upward
        simp [upward, lowerUpward]

theorem extension?_toLower (base : String) :
    extension? base.toLower = (extension? base).map String.toLower := by
  have dots : (fun char : Char => char != '.') ∘ Char.toLower = (· != '.') := by
    funext char
    apply Bool.eq_iff_iff.mpr
    rw [Function.comp_apply, bne_iff_ne, bne_iff_ne, ne_eq, char_toLower_eq_iff rfl]
  unfold extension?
  dsimp only
  rw [toList_toLower, ← List.map_reverse, List.takeWhile_map, dots, List.length_map,
    ← List.map_drop, List.isEmpty_map]
  split
  next => rfl
  next =>
    rw [Option.map_some, Option.some.injEq]
    apply String.toList_inj.mp
    rw [toList_toLower, String.toList_ofList, String.toList_ofList, List.map_reverse]

end PageFilters.FileName
