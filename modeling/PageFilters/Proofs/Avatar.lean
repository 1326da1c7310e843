import PageFilters.Avatar
import PageFilters.Proofs.Text.Case

/-!
# Addresses as they are written

An address goes by one avatar in whatever case its letters are written, and with
blanks and a pair of angle brackets around it or without them.  The two brackets
are taken away one after the other, each on its own: where only one of them
stands, it goes as well.
-/

namespace PageFilters.Avatar

section Brackets

/-- A text without the pair of angle brackets around it, if it has both. -/
def stripPair (text : List Char) : List Char :=
  if 2 ≤ text.length ∧ text.head? = some '<' ∧ text.getLast? = some '>' then
    text.tail.dropLast
  else
    text

/-- Whether a text has angle brackets at both its ends or at neither. -/
def Paired (text : List Char) : Prop :=
  text.head? = some '<' ↔ text.getLast? = some '>'

variable {text inner : List Char}

theorem exists_bracketed (begins : text.head? = some '<') (ends : text.getLast? = some '>') :
    ∃ inner, text = '<' :: (inner ++ ['>']) := by
  obtain ⟨rest, rfl⟩ := List.head?_eq_some_iff.mp begins
  cases rest with
  | nil => contradiction
  | cons next rest =>
      rw [List.getLast?_cons_cons] at ends
      obtain ⟨inner, parts⟩ := List.getLast?_eq_some_iff.mp ends
      exact ⟨inner, congrArg ('<' :: ·) parts⟩

theorem stripBrackets_bracketed (inner : List Char) :
    stripBrackets ('<' :: (inner ++ ['>'])) = inner := by
  simp [stripBrackets]

theorem stripBrackets_of_bare (begins : text.head? ≠ some '<') (ends : text.getLast? ≠ some '>') :
    stripBrackets text = text := by
  simp [stripBrackets, begins, ends]

theorem stripBrackets_of_begins (ends : ('<' :: inner).getLast? ≠ some '>') :
    stripBrackets ('<' :: inner) = inner := by
  have innerEnds : inner.getLast? ≠ some '>' := by
    cases inner with
    | nil => simp
    | cons next rest => rwa [List.getLast?_cons_cons] at ends
  simp [stripBrackets, innerEnds]

theorem stripBrackets_of_ends (begins : (inner ++ ['>']).head? ≠ some '<') :
    stripBrackets (inner ++ ['>']) = inner := by
  have last : (inner ++ ['>']).getLast? = some '>' := List.getLast?_concat
  simp only [stripBrackets, beq_iff_eq, if_neg begins, if_pos last, List.dropLast_concat]

theorem stripPair_bracketed (inner : List Char) : stripPair ('<' :: (inner ++ ['>'])) = inner := by
  have last : ('<' :: (inner ++ ['>'])).getLast? = some '>' := by
    rw [← List.cons_append, List.getLast?_concat]
  simp [stripPair, last]

theorem stripPair_of_lone (lone : ¬ (text.head? = some '<' ∧ text.getLast? = some '>')) :
    stripPair text = text :=
  if_neg fun bracketed => lone bracketed.2

/-- A text with brackets at both ends or at neither loses just the pair of them;
any other text loses the bracket it has. -/
theorem stripBrackets_cases (text : List Char) :
    Paired text ∧ stripBrackets text = stripPair text ∨
      ¬ Paired text ∧ (text = '<' :: stripBrackets text ∨ text = stripBrackets text ++ ['>']) := by
  by_cases begins : text.head? = some '<'
  · by_cases ends : text.getLast? = some '>'
    · left
      obtain ⟨inner, rfl⟩ := exists_bracketed begins ends
      exact ⟨iff_of_true begins ends, by rw [stripBrackets_bracketed, stripPair_bracketed]⟩
    · right
      refine ⟨fun paired => ends (paired.mp begins), .inl ?_⟩
      obtain ⟨inner, rfl⟩ := List.head?_eq_some_iff.mp begins
      rw [stripBrackets_of_begins ends]
  · by_cases ends : text.getLast? = some '>'
    · right
      refine ⟨fun paired => begins (paired.mpr ends), .inr ?_⟩
      obtain ⟨inner, rfl⟩ := List.getLast?_eq_some_iff.mp ends
      rw [stripBrackets_of_ends begins]
    · left
      refine ⟨iff_of_false begins ends, ?_⟩
      rw [stripBrackets_of_bare begins ends, stripPair_of_lone fun both => begins both.1]

theorem stripBrackets_eq_stripPair_iff (text : List Char) :
    stripBrackets text = stripPair text ↔ Paired text := by
  rcases stripBrackets_cases text with ⟨paired, same⟩ | ⟨unpaired, dropped⟩
  · exact iff_of_true same paired
  · refine iff_of_false (fun same => ?_) unpaired
    have kept : stripPair text = text :=
      stripPair_of_lone fun both => unpaired (iff_of_true both.1 both.2)
    have lengths := congrArg List.length (same.trans kept)
    rcases dropped with parts | parts
    · have longer := congrArg List.length parts
      rw [List.length_cons] at longer
      omega
    · have longer := congrArg List.length parts
      rw [List.length_append, List.length_singleton] at longer
      omega

end Brackets

/-- An address in lower case, without the blanks around it. -/
def lowered (address : String) : List Char :=
  Text.lowercase (Text.trim address.toList)

theorem normalize_eq (address : String) :
    normalize address = String.ofList (stripBrackets (lowered address)) :=
  rfl

/-- Just the pair of brackets around an address is taken away if and only if the
address has brackets at both its ends or at neither.  A bracket at one end only
is lost. -/
theorem normalize_eq_stripPair_iff (address : String) :
    (normalize address = String.ofList (stripPair (lowered address)) ↔
      Paired (lowered address)) ∧
    (Paired (lowered address) ∨ lowered address = '<' :: (normalize address).toList ∨
      lowered address = (normalize address).toList ++ ['>']) := by
  constructor
  · rw [normalize_eq, String.ofList_inj, stripBrackets_eq_stripPair_iff]
  · rw [normalize_eq, String.toList_ofList]
    rcases stripBrackets_cases (lowered address) with ⟨paired, -⟩ | ⟨-, dropped⟩
    · exact .inl paired
    · exact .inr dropped

/-- Behind a name an address in brackets loses the closing one, and the opening
one stays. -/
theorem normalize_drops_unpaired :
    normalize "Name <addr>" = "name <addr" ∧
      String.ofList (stripPair (lowered "Name <addr>")) = "name <addr>" := by
  decide +kernel

section Written

/-- Whether an address stands there without blanks or brackets around it. -/
structure IsBare (address : String) : Prop where
  begins : ∀ char ∈ address.toList.head?, Text.isBlank char = false ∧ char ≠ '<'
  ends : ∀ char ∈ address.toList.getLast?, Text.isBlank char = false ∧ char ≠ '>'

theorem lowercase_bracketed (text : List Char) :
    Text.lowercase ('<' :: (text ++ ['>'])) = '<' :: (Text.lowercase text ++ ['>']) := by
  have less : Text.SeparatesWords '<' := ⟨rfl, rfl⟩
  have greater : Text.SeparatesWords '>' := ⟨rfl, rfl⟩
  have lessImage : Text.lowerChar '<' = ['<'] := rfl
  have greaterImage : Text.lowerChar '>' = ['>'] := rfl
  have nothing : Text.lowercase [] = [] := rfl
  rw [← List.nil_append ('<' :: _), less.lowercase_append, greater.lowercase_append, lessImage,
    greaterImage, nothing, List.append_nil]
  rfl

section Recased

variable {address written : String}

theorem map_toLower_of_recased (recased : FileName.Recased address written) :
    written.toList.map Char.toLower = address.toList.map Char.toLower := by
  rw [← FileName.toList_toLower, recased.toLower_eq, FileName.toList_toLower]

theorem lowercase_of_recased (recased : FileName.Recased address written) :
    Text.lowercase written.toList = Text.lowercase address.toList := by
  rw [← Text.lowercase_map_toLower, map_toLower_of_recased recased, Text.lowercase_map_toLower]

theorem isBlank_of_map_toLower {first other : Option Char}
    (recased : other.map Char.toLower = first.map Char.toLower)
    (bare : ∀ char ∈ first, Text.isBlank char = false) :
    ∀ char ∈ other, Text.isBlank char = false := by
  rintro char rfl
  obtain ⟨source, found, same⟩ := Option.map_eq_some_iff.mp recased.symm
  rw [← Text.isBlank_toLower, ← same, Text.isBlank_toLower, bare source found]

end Recased

variable {address written before behind : String}

theorem stripBrackets_lowercase (bare : IsBare address) :
    stripBrackets (Text.lowercase address.toList) = Text.lowercase address.toList := by
  apply stripBrackets_of_bare
  · intro begins
    have first := Text.head?_of_head?_lowercase (by decide) begins
    exact (bare.begins '<' first).2 rfl
  · intro ends
    have last := Text.getLast?_of_getLast?_lowercase (by decide) ends
    exact (bare.ends '>' last).2 rfl

/-- Blanks around an address are trimmed off, and its letters are lower-cased. -/
theorem normalize_written (bare : IsBare address) (recased : FileName.Recased address written)
    (blankBefore : ∀ char ∈ before.toList, Text.isBlank char = true)
    (blankBehind : ∀ char ∈ behind.toList, Text.isBlank char = true) :
    normalize (before ++ written ++ behind) =
      String.ofList (Text.lowercase address.toList) := by
  have chars := map_toLower_of_recased recased
  have begins : ∀ char ∈ written.toList.head?, Text.isBlank char = false := by
    refine isBlank_of_map_toLower ?_ fun char first => (bare.begins char first).1
    rw [← List.head?_map, chars, List.head?_map]
  have ends : ∀ char ∈ written.toList.getLast?, Text.isBlank char = false := by
    refine isBlank_of_map_toLower ?_ fun char last => (bare.ends char last).1
    rw [← List.getLast?_map, chars, List.getLast?_map]
  rw [normalize, String.toList_append, String.toList_append,
    Text.trim_append blankBefore blankBehind begins ends, lowercase_of_recased recased,
    stripBrackets_lowercase bare]

/-- Between brackets an address is lower-cased as it is without them. -/
theorem normalize_bracketed (recased : FileName.Recased address written)
    (blankBefore : ∀ char ∈ before.toList, Text.isBlank char = true)
    (blankBehind : ∀ char ∈ behind.toList, Text.isBlank char = true) :
    normalize (before ++ "<" ++ written ++ ">" ++ behind) =
      String.ofList (Text.lowercase address.toList) := by
  have parts : (before ++ "<" ++ written ++ ">" ++ behind).toList =
      before.toList ++ '<' :: (written.toList ++ ['>']) ++ behind.toList := by
    simp
  have begins : ∀ char ∈ ('<' :: (written.toList ++ ['>'])).head?, Text.isBlank char = false := by
    rintro char ⟨⟩
    decide +kernel
  have ends : ∀ char ∈ ('<' :: (written.toList ++ ['>'])).getLast?, Text.isBlank char = false := by
    rw [← List.cons_append, List.getLast?_concat]
    rintro char ⟨⟩
    decide +kernel
  rw [normalize, parts, Text.trim_append blankBefore blankBehind begins ends,
    lowercase_bracketed, stripBrackets_bracketed, lowercase_of_recased recased]

/-- An address goes by one avatar, in whatever case its ASCII letters are
written, and with blanks and a pair of angle brackets around it or without. -/
theorem hash_written (bare : IsBare address) (recased : FileName.Recased address written)
    (blankBefore : ∀ char ∈ before.toList, Text.isBlank char = true)
    (blankBehind : ∀ char ∈ behind.toList, Text.isBlank char = true) :
    (normalize (before ++ written ++ behind) = normalize address ∧
      hash (before ++ written ++ behind) = hash address) ∧
    normalize (before ++ "<" ++ written ++ ">" ++ behind) = normalize address ∧
      hash (before ++ "<" ++ written ++ ">" ++ behind) = hash address := by
  have itself : normalize address = String.ofList (Text.lowercase address.toList) := by
    have alone : normalize ("" ++ address ++ "") = _ :=
      normalize_written bare (.refl address) (by simp) (by simp)
    simpa using alone
  have around := normalize_written bare recased blankBefore blankBehind
  have bracketed := normalize_bracketed recased blankBefore blankBehind
  simp only [hash, itself, around, bracketed, and_self]

/-- Neither a bracket nor a blank keeps a capital sigma from ending a word. -/
theorem hash_written_sigma :
    IsBare "nikoΣ" ∧ FileName.Recased "nikoΣ" "NikoΣ" ∧ normalize "nikoΣ" = "nikoς" ∧
      normalize (" " ++ "NikoΣ" ++ "\n") = "nikoς" ∧
      normalize (" " ++ "<" ++ "NikoΣ" ++ ">" ++ "\n") = "nikoς" ∧
      hash (" " ++ "<" ++ "NikoΣ" ++ ">" ++ "\n") = hash "nikoΣ" := by
  have first : Text.isBlank 'n' = false := by decide +kernel
  have last : Text.isBlank 'Σ' = false := by decide +kernel
  have bare : IsBare "nikoΣ" := ⟨by simpa using first, by simpa using last⟩
  have recased : FileName.Recased "nikoΣ" "NikoΣ" := by
    simp [FileName.Recased]
  have space : ∀ char ∈ " ".toList, Text.isBlank char = true := by
    have blank : Text.isBlank ' ' = true := by decide +kernel
    simpa using blank
  have newline : ∀ char ∈ "\n".toList, Text.isBlank char = true := by
    have blank : Text.isBlank '\n' = true := by decide +kernel
    simpa using blank
  have image : normalize "nikoΣ" = "nikoς" := by decide +kernel
  obtain ⟨⟨around, -⟩, bracketed, digest⟩ := hash_written bare recased space newline
  exact ⟨bare, recased, image, around.trans image, bracketed.trans image, digest⟩

end Written

end PageFilters.Avatar
