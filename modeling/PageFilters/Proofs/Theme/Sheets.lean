import Mathlib
import PageFilters.Proofs.Text.Reading
import PageFilters.Proofs.Theme.Colours
import PageFilters.Proofs.Theme.Rules

/-!
# Style sheets read back

A declaration ends at its first semicolon.  Behind the class prefix, which every
rule has, a class suffix ends at its first blank and the declarations at their
first closing brace.  So each of them can be read off the front of a text, and a
style sheet is the text of one list of styled kinds only.
-/

namespace PageFilters

open Text (ReadsOff)

/-- What a rule can declare. -/
inductive Declaration where
  | ink (colour : Rgb)
  | bold
  | italic
  | underline
  deriving Repr, DecidableEq, Inhabited

namespace Declaration

/-- A declaration without the semicolon at its end. -/
def content : Declaration → String
  | .ink colour => "color: #" ++ Text.hex colour.octets
  | .bold => "font-weight: bold"
  | .italic => "font-style: italic"
  | .underline => "text-decoration: underline"

def text (declaration : Declaration) : String :=
  declaration.content ++ ";"

theorem toList_text (declaration : Declaration) :
    declaration.text.toList = declaration.content.toList ++ [';'] := by
  rw [text, String.toList_append]
  rfl

/-- What stands in declarations, the semicolons aside. -/
def IsLetter (char : Char) : Prop :=
  char ∈ "0123456789abcdef".toList ∨ char ∈ "color: #".toList ∨
    ∃ fixed ∈ [bold, italic, underline], char ∈ fixed.content.toList

instance : DecidablePred IsLetter := fun char =>
  inferInstanceAs (Decidable (char ∈ "0123456789abcdef".toList ∨ char ∈ "color: #".toList ∨
    ∃ fixed ∈ [bold, italic, underline], char ∈ fixed.content.toList))

theorem isLetter_of_mem_content {declaration : Declaration} {char : Char}
    (member : char ∈ declaration.content.toList) : IsLetter char := by
  cases declaration with
  | ink colour =>
      rw [content, String.toList_append, List.mem_append] at member
      rcases member with name | digit
      · exact .inr (.inl name)
      · exact .inl (Text.hexDigit_of_mem_hex digit)
  | bold => exact .inr (.inr ⟨.bold, by decide, member⟩)
  | italic => exact .inr (.inr ⟨.italic, by decide, member⟩)
  | underline => exact .inr (.inr ⟨.underline, by decide, member⟩)

theorem sign_mem_content_ink (colour : Rgb) : '#' ∈ (ink colour).content.toList := by
  rw [content, String.toList_append]
  exact List.mem_append_left _ (by decide)

theorem eq_ink_of_sign_mem {declaration : Declaration} (sign : '#' ∈ declaration.content.toList) :
    ∃ colour, declaration = .ink colour := by
  cases declaration with
  | ink colour => exact ⟨colour, rfl⟩
  | bold => exact absurd sign (by decide)
  | italic => exact absurd sign (by decide)
  | underline => exact absurd sign (by decide)

theorem content_injective {left right : Declaration} (same : left.content = right.content) :
    left = right := by
  by_cases sign : '#' ∈ left.content.toList
  · obtain ⟨colour, rfl⟩ := eq_ink_of_sign_mem sign
    obtain ⟨other, rfl⟩ := eq_ink_of_sign_mem (same ▸ sign)
    have sameDigits : Text.hex colour.octets = Text.hex other.octets := by
      simpa [content] using same
    rw [Rgb.octets_injective (Text.hex_injective sameDigits)]
  · cases left with
    | ink colour => exact absurd (sign_mem_content_ink colour) sign
    | bold | italic | underline =>
        cases right with
        | ink other => exact absurd (same ▸ sign_mem_content_ink other) sign
        | _ => first | rfl | exact absurd same (by decide)

theorem readsOff_text : ReadsOff fun declaration : Declaration => declaration.text.toList := by
  simp only [toList_text]
  apply ReadsOff.of_end
  · intro declaration member
    exact absurd (isLetter_of_mem_content member) (by decide)
  · intro left right same
    exact content_injective (String.toList_inj.mp same)

end Declaration

namespace TokenStyle

/-- What the rule of a style declares, in order. -/
def declared (style : TokenStyle) : List Declaration :=
  (style.foreground.map .ink).toList ++
  (if style.bold then [.bold] else []) ++
  (if style.italic then [.italic] else []) ++
  (if style.underline then [.underline] else [])

variable {style left right : TokenStyle}

theorem declarationList_eq_map (style : TokenStyle) :
    style.declarationList = style.declared.map Declaration.text := by
  have inked : (style.foreground.map colourDeclaration).toList =
      (style.foreground.map .ink).toList.map Declaration.text := by
    cases style.foreground with
    | none => rfl
    | some colour => rfl
  rw [declarationList_eq, inked, fontDeclarations, declared]
  rw [List.map_append, List.map_append, List.map_append, List.append_assoc, List.append_assoc,
    List.append_assoc]
  cases style.bold <;> cases style.italic <;> cases style.underline <;> rfl

@[simp] theorem mem_declared_ink {colour : Rgb} :
    .ink colour ∈ style.declared ↔ style.foreground = some colour := by
  simp [declared]

@[simp] theorem mem_declared_bold : .bold ∈ style.declared ↔ style.bold = true := by
  simp [declared]

@[simp] theorem mem_declared_italic : .italic ∈ style.declared ↔ style.italic = true := by
  simp [declared]

@[simp] theorem mem_declared_underline :
    .underline ∈ style.declared ↔ style.underline = true := by
  simp [declared]

theorem declared_injective (same : left.declared = right.declared) : left = right := by
  have sameMembers : ∀ declaration, declaration ∈ left.declared ↔ declaration ∈ right.declared := by
    intro declaration
    rw [same]
  have sameForeground : left.foreground = right.foreground := by
    apply Option.ext
    intro colour
    simpa using sameMembers (.ink colour)
  have sameBold : left.bold = right.bold := by
    apply Bool.eq_iff_iff.mpr
    simpa using sameMembers .bold
  have sameItalic : left.italic = right.italic := by
    apply Bool.eq_iff_iff.mpr
    simpa using sameMembers .italic
  have sameUnderline : left.underline = right.underline := by
    apply Bool.eq_iff_iff.mpr
    simpa using sameMembers .underline
  cases left
  cases right
  rw [TokenStyle.mk.injEq]
  exact ⟨sameForeground, sameBold, sameItalic, sameUnderline⟩

theorem declared_eq_nil_iff : style.declared = [] ↔ style = {} := by
  constructor
  · intro nothing
    exact declared_injective nothing
  · rintro rfl
    rfl

theorem declarations_injective (same : left.declarations = right.declarations) : left = right := by
  rw [declarations, declarations, declarationList_eq_map, declarationList_eq_map] at same
  apply declared_injective
  apply Declaration.readsOff_text.intercalate_injective _ " " same
  intro declaration
  simp [Declaration.text]

theorem isLetter_of_mem_declarations {char : Char}
    (member : char ∈ style.declarations.toList) : Declaration.IsLetter char ∨ char = ';' := by
  rcases Text.mem_toList_intercalate member with between | ⟨text, listed, found⟩
  · rw [List.mem_singleton.mp between]
    decide
  · rw [declarationList_eq_map] at listed
    obtain ⟨declaration, -, rfl⟩ := List.mem_map.mp listed
    rw [Declaration.toList_text, List.mem_append] at found
    rcases found with within | ending
    · exact .inl (Declaration.isLetter_of_mem_content within)
    · exact .inr (List.mem_singleton.mp ending)

theorem readsOff_declarations :
    ReadsOff fun style : TokenStyle => (style.declarations ++ " ").toList ++ ['\x7d'] := by
  apply ReadsOff.of_end
  · intro style member
    rw [String.toList_append, List.mem_append] at member
    rcases member with within | behind
    · exact absurd (isLetter_of_mem_declarations within) (by decide)
    · exact absurd behind (by decide)
  · intro left right same
    apply declarations_injective
    apply String.toList_inj.mp
    simpa using same

end TokenStyle

theorem TokenKind.readsOff_classSuffix :
    ReadsOff fun kind : TokenKind => kind.classSuffix.toList ++ [' '] := by
  apply ReadsOff.of_end
  · intro kind
    cases kind <;> decide
  · intro left right same
    exact classSuffix_injective (String.toList_inj.mp same)

/-- Some of the four declarations, at least one, in order. -/
def IsRuleBody (declarations : List String) : Prop :=
  declarations ≠ [] ∧
  ∃ digits : String, digits.toList.length = 6 ∧
    (∀ digit ∈ digits.toList, digit ∈ "0123456789abcdef".toList) ∧
    declarations.Sublist ["color: #" ++ digits ++ ";", "font-weight: bold;",
      "font-style: italic;", "text-decoration: underline;"]

theorem TokenStyle.isRuleBody_declarationList {style : TokenStyle} (set : style ≠ {}) :
    IsRuleBody style.declarationList := by
  constructor
  · rw [declarationList_eq_map]
    intro nothing
    exact set (declared_eq_nil_iff.mp (List.map_eq_nil_iff.mp nothing))
  · have optional : ∀ (on : Bool) (text : String), (if on then [text] else []).Sublist [text] := by
      intro on text
      cases on with
      | false => exact List.nil_sublist _
      | true => exact List.Sublist.refl _
    let colour := style.foreground.getD ⟨0, 0, 0⟩
    refine ⟨Text.hex colour.octets, Text.length_hex _, ?_, ?_⟩
    · intro digit member
      exact Text.hexDigit_of_mem_hex member
    · have inked : (style.foreground.map colourDeclaration).toList.Sublist
          [colourDeclaration colour] := by
        unfold colour
        cases style.foreground with
        | none => exact List.nil_sublist _
        | some shown => exact List.Sublist.refl _
      rw [declarationList_eq, fontDeclarations]
      exact inked.append
        (((optional _ _).append (optional _ _)).append (optional _ _))

namespace Palette

variable {palette left right : Palette} {classPrefix : String} {kind : TokenKind}
  {style : TokenStyle}

def styledKinds (palette : Palette) : List TokenKind :=
  TokenKind.all.filter fun kind => !kind.isPlain && !(palette.style kind).isDefault

theorem mem_styledKinds_iff :
    kind ∈ palette.styledKinds ↔ kind ≠ .plain ∧ palette.style kind ≠ {} := by
  simp [styledKinds, TokenKind.mem_all, TokenKind.isPlain, TokenStyle.isDefault]

/-- The kinds that have a rule, with their styles. -/
def styled (palette : Palette) : List (TokenKind × TokenStyle) :=
  palette.styledKinds.map fun kind => (kind, palette.style kind)

theorem mem_styled_iff :
    (kind, style) ∈ palette.styled ↔
      kind ≠ .plain ∧ style ≠ {} ∧ palette.style kind = style := by
  simp only [styled, List.mem_map, mem_styledKinds_iff, Prod.mk.injEq]
  constructor
  · rintro ⟨kind, ⟨shown, set⟩, rfl, rfl⟩
    exact ⟨shown, set, rfl⟩
  · rintro ⟨shown, set, rfl⟩
    exact ⟨kind, ⟨shown, set⟩, rfl, rfl⟩

theorem styled_eq_iff :
    left.styled = right.styled ↔ ∀ kind ≠ .plain, left.style kind = right.style kind := by
  constructor
  · intro same kind shown
    have agree : ∀ style ≠ {}, left.style kind = style ↔ right.style kind = style := by
      intro style set
      have listed : (kind, style) ∈ left.styled ↔ (kind, style) ∈ right.styled := by rw [same]
      simpa [mem_styled_iff, shown, set] using listed
    by_cases unset : left.style kind = {}
    · by_contra different
      have set : right.style kind ≠ {} := fun alsoUnset => different (unset.trans alsoUnset.symm)
      exact different ((agree _ set).mpr rfl)
    · exact ((agree _ unset).mp rfl).symm
  · intro agree
    have sameKinds : left.styledKinds = right.styledKinds := by
      apply List.filter_congr
      intro kind listed
      by_cases plain : kind = .plain
      · rw [plain]
        rfl
      · rw [agree kind plain]
    unfold styled
    rw [sameKinds]
    apply List.map_congr_left
    intro kind listed
    rw [agree kind (mem_styledKinds_iff.mp listed).1]

def ruleText (classPrefix : String) (entry : TokenKind × TokenStyle) : String :=
  "." ++ classPrefix ++ entry.1.classSuffix ++ " \x7b " ++ entry.2.declarations ++ " \x7d\n"

theorem css_eq_join (palette : Palette) (classPrefix : String) :
    palette.css classPrefix = String.join (palette.styled.map (ruleText classPrefix)) := by
  simp only [css, rules, styled, styledKinds, List.map_map]
  rfl

theorem toList_ruleText (classPrefix : String) (entry : TokenKind × TokenStyle) :
    (ruleText classPrefix entry).toList =
      ("." ++ classPrefix).toList ++ ((entry.1.classSuffix.toList ++ [' ']) ++
        ("\x7b ".toList ++ ((entry.2.declarations ++ " ").toList ++ ['\x7d']))) ++ ['\n'] := by
  simp [ruleText]

theorem readsOff_ruleText (classPrefix : String) :
    ReadsOff fun entry => (ruleText classPrefix entry).toList := by
  simp only [toList_ruleText]
  apply ReadsOff.before
  apply ReadsOff.behind
  exact TokenKind.readsOff_classSuffix.pair (TokenStyle.readsOff_declarations.behind _)

theorem css_eq_iff : left.css classPrefix = right.css classPrefix ↔ left.styled = right.styled := by
  constructor
  · intro same
    rw [css_eq_join, css_eq_join] at same
    have sameText := congrArg String.toList same
    rw [String.toList_join, String.toList_join, List.flatMap_map, List.flatMap_map] at sameText
    apply (readsOff_ruleText classPrefix).flatMap_injective _ sameText
    intro entry
    simp [ruleText]
  · intro same
    rw [css_eq_join, css_eq_join, same]

/-- A style sheet determines the style of every kind that is not plain text.  It
is a rule for each styled kind, in the order of the kinds, and a rule declares
some of four attributes in a fixed order, never a background. -/
theorem css_determines_styles (classPrefix : String) :
    (∀ left right : Palette, left.css classPrefix = right.css classPrefix ↔
      ∀ kind ≠ .plain, left.style kind = right.style kind) ∧
    ∀ palette : Palette, ∃ kinds : List TokenKind,
      kinds.Sublist TokenKind.all ∧ kinds.Nodup ∧
      (∀ kind, kind ∈ kinds ↔ kind ≠ .plain ∧ palette.style kind ≠ {}) ∧
      palette.css classPrefix = String.join (kinds.map fun kind =>
        "." ++ classPrefix ++ kind.classSuffix ++ " \x7b " ++
          " ".intercalate (palette.style kind).declarationList ++ " \x7d\n") ∧
      ∀ kind ∈ kinds, IsRuleBody (palette.style kind).declarationList ∧
        ¬ "background".toList <:+: (palette.style kind).declarations.toList := by
  constructor
  · intro left right
    rw [css_eq_iff, styled_eq_iff]
  · intro palette
    refine ⟨palette.styledKinds, List.filter_sublist, ?_, ?_, ?_, ?_⟩
    · exact List.Nodup.filter _ (by decide)
    · intro kind
      exact mem_styledKinds_iff
    · rw [css_eq_join, styled, List.map_map]
      rfl
    · intro kind listed
      obtain ⟨-, set⟩ := mem_styledKinds_iff.mp listed
      refine ⟨TokenStyle.isRuleBody_declarationList set, ?_⟩
      intro infixed
      have letter : 'k' ∈ (palette.style kind).declarations.toList := infixed.subset (by decide)
      exact absurd (TokenStyle.isLetter_of_mem_declarations letter) (by decide)

/-- Only comments are set off. -/
def commented (style : TokenStyle) : Palette where
  style kind := if kind = .comment then style else {}

/-- Bold comments are told from slanted ones, also behind the class prefix `k`. -/
theorem css_determines_styles_comment :
    (commented { bold := true }).css "k" ≠ (commented { italic := true }).css "k" ∧
      ∃ kinds : List TokenKind, kinds.Nodup ∧ .comment ∈ kinds ∧
        IsRuleBody ((commented { bold := true }).style .comment).declarationList := by
  obtain ⟨determined, written⟩ := css_determines_styles "k"
  obtain ⟨kinds, -, distinct, listed, -, body⟩ := written (commented { bold := true })
  have comment : .comment ∈ kinds := (listed .comment).mpr (by decide)
  refine ⟨?_, kinds, distinct, comment, (body .comment comment).1⟩
  intro same
  exact absurd ((determined _ _).mp same .comment (by decide)) (by decide)

end Palette

end PageFilters
