import PageFilters.Proofs.Text.Hex
import PageFilters.Proofs.Text.Lines
import PageFilters.Theme.Palette

/-!
# Rules are lines

What a rule has besides the class prefix is written by the palette alone, and
that writes neither a line feed within a rule nor any less-than sign.  So each
rule is a line of its own if the prefix has no line feed, and a style sheet has
no tag in it if the prefix has none.
-/

namespace PageFilters

theorem Text.mem_toList_intercalate {separator : String} {texts : List String} {char : Char}
    (member : char ∈ (separator.intercalate texts).toList) :
    char ∈ separator.toList ∨ ∃ text ∈ texts, char ∈ text.toList := by
  induction texts with
  | nil => simp at member
  | cons text texts induction =>
      by_cases last : texts = []
      · right
        exact ⟨text, List.mem_cons_self, by simpa [last] using member⟩
      · rw [String.intercalate_cons_of_ne_nil last, String.toList_append, String.toList_append,
          List.mem_append, List.mem_append] at member
        rcases member with (first | between) | later
        · exact .inr ⟨text, List.mem_cons_self, first⟩
        · exact .inl between
        · rcases induction later with between | ⟨other, listed, found⟩
          · exact .inl between
          · exact .inr ⟨other, List.mem_cons_of_mem _ listed, found⟩

/-- Whether a character ends a line or begins a tag. -/
def Text.isDelimiter (char : Char) : Prop :=
  char = '\n' ∨ char = '<'

open Text (isDelimiter)

section Delimiters

variable {char : Char} (delimiter : isDelimiter char)

include delimiter

theorem TokenKind.not_mem_classSuffix (kind : TokenKind) : char ∉ kind.classSuffix.toList := by
  rcases delimiter with rfl | rfl
  · cases kind <;> decide
  · cases kind <;> decide

theorem Text.not_mem_hex (bytes : Text.Bytes) : char ∉ (Text.hex bytes).toList := by
  intro member
  have digit := Text.hexDigit_of_mem_hex member
  rcases delimiter with rfl | rfl
  · exact absurd digit (by decide)
  · exact absurd digit (by decide)

theorem TokenStyle.not_mem_of_mem_declarationList {style : TokenStyle} {declaration : String}
    (listed : declaration ∈ style.declarationList) : char ∉ declaration.toList := by
  simp only [TokenStyle.declarationList, List.mem_append, Option.mem_toList,
    Option.map_eq_some_iff, List.mem_ite_nil_right, List.mem_singleton] at listed
  rcases listed with ((⟨colour, -, rfl⟩ | ⟨-, rfl⟩) | ⟨-, rfl⟩) | ⟨-, rfl⟩
  · have digits := Text.not_mem_hex delimiter [colour.red, colour.green, colour.blue]
    rw [String.toList_append, String.toList_append, List.mem_append, List.mem_append, not_or,
      not_or]
    refine ⟨⟨?_, digits⟩, ?_⟩
    · rcases delimiter with rfl | rfl <;> decide
    · rcases delimiter with rfl | rfl <;> decide
  all_goals
    rcases delimiter with rfl | rfl <;> decide

theorem TokenStyle.not_mem_declarations (style : TokenStyle) :
    char ∉ style.declarations.toList := by
  intro member
  rcases Text.mem_toList_intercalate member with between | ⟨declaration, listed, found⟩
  · rcases delimiter with rfl | rfl
    · exact absurd between (by decide)
    · exact absurd between (by decide)
  · exact TokenStyle.not_mem_of_mem_declarationList delimiter listed found

end Delimiters

/-- A rule without the line feed behind it. -/
def CssRule.content (rule : CssRule) : String :=
  "." ++ rule.className ++ " \x7b " ++ rule.declarations ++ " \x7d"

theorem CssRule.toList_text (rule : CssRule) :
    rule.text.toList = rule.content.toList ++ ['\n'] := by
  simp [CssRule.text, CssRule.content]

namespace Palette

variable {palette : Palette} {classPrefix : String} {rule : CssRule} {char : Char}

theorem not_mem_content (absent : char ∉ classPrefix.toList) (delimiter : isDelimiter char)
    (listed : rule ∈ palette.rules classPrefix) : char ∉ rule.content.toList := by
  obtain ⟨kind, -, rfl⟩ := List.mem_map.mp listed
  have suffix := TokenKind.not_mem_classSuffix delimiter kind
  have declared := TokenStyle.not_mem_declarations delimiter (palette.style kind)
  simp only [CssRule.content, String.toList_append, List.mem_append, not_or]
  refine ⟨⟨⟨⟨?_, absent, suffix⟩, ?_⟩, declared⟩, ?_⟩
  all_goals
    rcases delimiter with rfl | rfl <;> decide

theorem isLine_text (unbroken : '\n' ∉ classPrefix.toList)
    (listed : rule ∈ palette.rules classPrefix) : Text.IsLine rule.text.toList :=
  ⟨rule.content.toList, not_mem_content unbroken (.inl rfl) listed, rule.toList_text⟩

theorem toList_css (palette : Palette) (classPrefix : String) :
    (palette.css classPrefix).toList =
      ((palette.rules classPrefix).map (·.text.toList)).flatten := by
  rw [css, String.toList_join, List.flatMap_map, List.flatMap_def]

theorem not_mem_css (absent : '<' ∉ classPrefix.toList) :
    '<' ∉ (palette.css classPrefix).toList := by
  rw [toList_css]
  intro member
  obtain ⟨line, written, found⟩ := List.mem_flatten.mp member
  obtain ⟨rule, listed, rfl⟩ := List.mem_map.mp written
  rw [CssRule.toList_text, List.mem_append] at found
  rcases found with within | behind
  · exact not_mem_content absent (.inr rfl) listed within
  · exact absurd behind (by decide)

end Palette

end PageFilters
