import Mathlib
import PageFilters.Proofs.Text.Hex
import PageFilters.Theme.Bundled
import PageFilters.Theme.Palette

/-!
# Colours of a palette

A palette shows a kind in the colour in which the theme sets its text, unless
that is one of the two colours of the page.  Colours are compared with their
opacity and written without it.  Text is therefore told apart from the page
wherever no colour of the theme differs from one of the page in opacity alone;
a theme that has such a colour can hide its text.
-/

namespace PageFilters

theorem Rgba.eq_of_opaqueColour {left right : Rgba}
    (sameOpaque : left.opaqueColour = right.opaqueColour) (sameAlpha : left.alpha = right.alpha) :
    left = right := by
  cases left
  cases right
  simp_all [opaqueColour]

/-- An attribute is as it was or as the item sets it. -/
theorem Rated.holds_offer {α : Type} {Holds : α → Prop} {rated : Rated α} {value : Option α}
    (held : Holds rated.value) (set : ∀ new, value = some new → Holds new) (score : Nat) :
    Holds (rated.offer value score).value := by
  unfold offer
  split
  next new =>
    split
    · exact set new rfl
    · exact held
  next => exact held

namespace Theme

def pageColours (theme : Theme) : List Rgba := [theme.foreground, theme.background]

/-- The colours of the page and those that the items set. -/
def colours (theme : Theme) : List Rgba :=
  theme.pageColours ++
    theme.items.flatMap fun item => item.foreground.toList ++ item.background.toList

variable {theme : Theme}

theorem mem_pageColours {colour : Rgba} :
    colour ∈ theme.pageColours ↔ colour = theme.foreground ∨ colour = theme.background := by
  simp [pageColours]

theorem mem_colours_of_page {colour : Rgba} (own : colour ∈ theme.pageColours) :
    colour ∈ theme.colours :=
  List.mem_append_left _ own

theorem mem_colours_of_item {item : ThemeItem} {colour : Rgba} (listed : item ∈ theme.items)
    (set : item.foreground = some colour ∨ item.background = some colour) :
    colour ∈ theme.colours := by
  have ofItem : colour ∈ item.foreground.toList ++ item.background.toList := by
    rcases set with same | same <;> simp [same]
  exact List.mem_append_right _ (List.mem_flatMap.mpr ⟨item, listed, ofItem⟩)

theorem mem_items_of_mem_selectors {entry : ScopeSelector × ThemeItem}
    (listed : entry ∈ theme.selectors) : entry.2 ∈ theme.items := by
  simp only [selectors, List.mem_append, List.mem_mergeSort, List.mem_filter, List.mem_flatMap,
    List.mem_map] at listed
  rcases listed with ⟨⟨item, member, selector, -, rfl⟩, -⟩ | ⟨⟨item, member, selector, -, rfl⟩, -⟩
  · exact member
  · exact member

/-- Both colours of a style are the theme's. -/
structure Colours (theme : Theme) (style : RatedStyle) : Prop where
  foreground : style.foreground.value ∈ theme.colours
  background : style.background.value ∈ theme.colours

theorem Colours.consider {style : RatedStyle} (held : theme.Colours style) (scope : Scope)
    {entry : ScopeSelector × ThemeItem} (listed : entry ∈ theme.selectors) :
    theme.Colours (style.consider scope entry) := by
  have ofItem := mem_items_of_mem_selectors listed
  unfold RatedStyle.consider
  split
  next => exact held
  next score selected =>
    constructor
    · exact Rated.holds_offer held.foreground
        (fun _ set => mem_colours_of_item ofItem (.inl set)) score
    · exact Rated.holds_offer held.background
        (fun _ set => mem_colours_of_item ofItem (.inr set)) score

theorem style_mem_colours (theme : Theme) (scope : Scope) :
    (theme.style scope).foreground ∈ theme.colours ∧
      (theme.style scope).background ∈ theme.colours := by
  have held : theme.Colours (theme.selectors.foldl (RatedStyle.consider scope)
      ⟨{ value := theme.foreground }, { value := theme.background }, { value := {} }⟩) := by
    refine List.foldlRecOn theme.selectors _ ?_ ?_
    · exact ⟨mem_colours_of_page (mem_pageColours.mpr (.inl rfl)),
        mem_colours_of_page (mem_pageColours.mpr (.inr rfl))⟩
    · intro style held entry listed
      exact held.consider scope listed
  exact ⟨held.foreground, held.background⟩

/-- A colour in which the theme sets the text of a kind: the text colour or,
where that is the background of the page, the background of the text. -/
def Inks (theme : Theme) (kind : TokenKind) (colour : Rgba) : Prop :=
  ∃ scope, kind.themeScope? = some scope ∧
    ((theme.style scope).foreground = colour ∨
      (theme.style scope).foreground = theme.background ∧ (theme.style scope).background = colour)

theorem Inks.mem_colours {kind : TokenKind} {colour : Rgba} (inked : theme.Inks kind colour) :
    colour ∈ theme.colours := by
  obtain ⟨scope, -, rfl | ⟨-, rfl⟩⟩ := inked
  · exact (theme.style_mem_colours scope).1
  · exact (theme.style_mem_colours scope).2

/-- No colour of the theme but those of the page differs from one of these in
opacity alone. -/
def TellsPageApart (theme : Theme) : Prop :=
  ∀ colour ∈ theme.colours, ∀ own ∈ theme.pageColours,
    colour.opaqueColour = own.opaqueColour → colour ∈ theme.pageColours

instance (theme : Theme) : Decidable theme.TellsPageApart :=
  inferInstanceAs (Decidable (∀ colour ∈ theme.colours, ∀ own ∈ theme.pageColours,
    colour.opaqueColour = own.opaqueColour → colour ∈ theme.pageColours))

theorem TellsPageApart.of_alpha {alpha : UInt8}
    (same : ∀ colour ∈ theme.colours, colour.alpha = alpha) : theme.TellsPageApart := by
  intro colour listed own ownListed sameOpaque
  have sameAlpha : colour.alpha = own.alpha := by
    rw [same colour listed, same own (mem_colours_of_page ownListed)]
  rw [Rgba.eq_of_opaqueColour sameOpaque sameAlpha]
  exact ownListed

end Theme

theorem BundledTheme.tellsPageApart (choice : BundledTheme) : choice.theme.TellsPageApart := by
  have solid : ∀ colour ∈ choice.theme.colours, colour.alpha = 255 := by
    cases choice <;> decide
  exact .of_alpha solid

def Rgb.octets (colour : Rgb) : Text.Bytes := [colour.red, colour.green, colour.blue]

theorem Rgb.octets_injective {left right : Rgb} (same : left.octets = right.octets) :
    left = right := by
  cases left
  cases right
  simpa [octets] using same

namespace TokenStyle

variable {page text : TextStyle} {style : TokenStyle} {shown : Rgb}

theorem foreground_ofTextStyle_eq_some_iff :
    (ofTextStyle page text).foreground = some shown ↔
      ∃ colour, (text.foreground = colour ∨
          text.foreground = page.background ∧ text.background = colour) ∧
        (colour ≠ page.foreground ∧ colour ≠ page.background) ∧
        colour.opaqueColour = shown := by
  simp only [ofTextStyle, Option.ite_none_right_eq_some, Bool.and_eq_true, bne_iff_ne,
    beq_iff_eq, Option.some.injEq]
  constructor
  · rintro ⟨other, same⟩
    refine ⟨_, ?_, other, same⟩
    split
    next swapped => exact .inr ⟨swapped.1, rfl⟩
    next => exact .inl rfl
  · rintro ⟨colour, rfl | ⟨ground, rfl⟩, other, same⟩
    · rw [if_neg fun swapped => other.2 swapped.1]
      exact ⟨other, same⟩
    · rw [if_pos ⟨ground, other.2⟩]
      exact ⟨other, same⟩

def colourDeclaration (colour : Rgb) : String :=
  "color: #" ++ Text.hex colour.octets ++ ";"

theorem toList_colourDeclaration (colour : Rgb) :
    (colourDeclaration colour).toList =
      "color: ".toList ++ '#' :: ((Text.hex colour.octets).toList ++ [';']) := by
  simp only [colourDeclaration, String.toList_append, String.reduceToList, List.cons_append,
    List.nil_append]

def fontDeclarations (style : TokenStyle) : List String :=
  (if style.bold then ["font-weight: bold;"] else []) ++
  (if style.italic then ["font-style: italic;"] else []) ++
  (if style.underline then ["text-decoration: underline;"] else [])

theorem declarationList_eq (style : TokenStyle) :
    style.declarationList =
      (style.foreground.map colourDeclaration).toList ++ style.fontDeclarations := by
  simp only [declarationList, fontDeclarations, List.append_assoc]
  rfl

theorem fontDeclarations_uncoloured (style : TokenStyle) :
    '#' ∉ (" ".intercalate style.fontDeclarations).toList := by
  unfold fontDeclarations
  cases style.bold <;> cases style.italic <;> cases style.underline <;> decide

theorem declarations_uncoloured (unset : style.foreground = none) :
    '#' ∉ style.declarations.toList := by
  rw [declarations, declarationList_eq, unset]
  exact style.fontDeclarations_uncoloured

theorem declarations_coloured (set : style.foreground = some shown) :
    ∃ rest, '#' ∉ rest.toList ∧ style.declarations = colourDeclaration shown ++ rest := by
  have uncoloured := style.fontDeclarations_uncoloured
  rw [declarations, declarationList_eq, set, Option.map_some, Option.toList_some,
    List.singleton_append]
  by_cases bare : style.fontDeclarations = []
  · refine ⟨"", by simp, ?_⟩
    rw [bare, String.intercalate_singleton, String.append_empty]
  · refine ⟨" " ++ " ".intercalate style.fontDeclarations, ?_, ?_⟩
    · simpa using uncoloured
    · rw [String.intercalate_cons_of_ne_nil bare, String.append_assoc]

/-- A style declares no text colour but its own: the number sign stands only
before the digits of that colour. -/
theorem foreground_of_declared
    (declared : (colourDeclaration shown).toList <:+: style.declarations.toList) :
    style.foreground = some shown := by
  cases set : style.foreground with
  | none =>
      have sign : '#' ∈ (colourDeclaration shown).toList := by simp [toList_colourDeclaration]
      exact absurd (declared.subset sign) (declarations_uncoloured set)
  | some colour =>
      obtain ⟨rest, restUncoloured, written⟩ := declarations_coloured set
      obtain ⟨before, behind, framed⟩ := declared
      have sameText :
          "color: ".toList ++ '#' :: ((Text.hex colour.octets).toList ++ ';' :: rest.toList) =
            (before ++ "color: ".toList) ++
              '#' :: ((Text.hex shown.octets).toList ++ ';' :: behind) := by
        rw [written] at framed
        simpa only [String.toList_append, toList_colourDeclaration, List.append_assoc,
          List.cons_append, List.nil_append] using framed.symm
      have uncoloured : '#' ∉ (Text.hex colour.octets).toList ++ ';' :: rest.toList := by
        have digits : '#' ∉ (Text.hex colour.octets).toList := fun member =>
          absurd (Text.hexDigit_of_mem_hex member) (by decide)
        simp only [List.mem_append, List.mem_cons, digits, restUncoloured, or_false, false_or]
        decide
      obtain ⟨-, -, sameBehind⟩ :=
        (List.append_cons_inj_of_notMem (by decide) uncoloured).mp sameText
      obtain ⟨sameDigits, -⟩ :=
        List.append_inj sameBehind (by rw [Text.length_hex, Text.length_hex]; rfl)
      have sameOctets := Text.hex_injective (String.toList_inj.mp sameDigits)
      rw [Rgb.octets_injective sameOctets]

end TokenStyle

namespace Palette

variable {theme : Theme} {kind : TokenKind} {shown : Rgb}

theorem foreground_eq_some_iff :
    ((ofTheme theme).style kind).foreground = some shown ↔
      ∃ colour, theme.Inks kind colour ∧ colour ∉ theme.pageColours ∧
        colour.opaqueColour = shown := by
  unfold ofTheme Theme.Inks
  dsimp only
  split
  next scope named =>
    simp only [TokenStyle.foreground_ofTextStyle_eq_some_iff, Theme.pageStyle,
      Theme.mem_pageColours, not_or, named, Option.some.injEq, exists_eq_left']
  next unnamed => simp [unnamed]

theorem foreground_ne_of_tellsPageApart (apart : theme.TellsPageApart) (kind : TokenKind)
    {own : Rgba} (ownListed : own ∈ theme.pageColours) :
    ((ofTheme theme).style kind).foreground ≠ some own.opaqueColour := by
  intro kept
  obtain ⟨colour, inked, other, same⟩ := foreground_eq_some_iff.mp kept
  exact other (apart colour inked.mem_colours own ownListed same)

theorem foreground_ne_of_bundled (choice : BundledTheme) (kind : TokenKind) {own : Rgba}
    (ownListed : own ∈ choice.theme.pageColours) :
    ((ofTheme choice.theme).style kind).foreground ≠ some own.opaqueColour :=
  foreground_ne_of_tellsPageApart choice.tellsPageApart kind ownListed

/-- A kind is shown in the colour in which the theme sets it unless the page
has that colour, opacity included.  Where the theme tells the page apart by more
than opacity, what is written for a kind is neither colour of the page, and no
rule declares one of them. -/
theorem ofTheme_visible (theme : Theme) :
    (∀ kind shown, ((ofTheme theme).style kind).foreground = some shown ↔
      ∃ colour, theme.Inks kind colour ∧ colour ∉ theme.pageColours ∧
        colour.opaqueColour = shown) ∧
    (theme.TellsPageApart → ∀ own ∈ theme.pageColours,
      (∀ kind, ((ofTheme theme).style kind).foreground ≠ some own.opaqueColour) ∧
      ∀ classPrefix, ∀ rule ∈ (ofTheme theme).rules classPrefix,
        ¬ (TokenStyle.colourDeclaration own.opaqueColour).toList <:+:
          rule.declarations.toList) := by
  refine ⟨fun kind shown => foreground_eq_some_iff, fun apart own ownListed => ?_⟩
  refine ⟨fun kind => foreground_ne_of_tellsPageApart apart kind ownListed, ?_⟩
  intro classPrefix rule listed declared
  obtain ⟨kind, -, rfl⟩ := List.mem_map.mp listed
  exact foreground_ne_of_tellsPageApart apart kind ownListed
    (TokenStyle.foreground_of_declared declared)

/-- A dark theme that gives all text one colour. -/
def washed (colour : Rgba) : Theme :=
  { foreground := ⟨200, 200, 200, 255⟩
    background := ⟨20, 20, 20, 255⟩
    items := [{ selectors := "", foreground := some colour }] }

/-- A colour of its own, on comments and in their rule. -/
theorem ofTheme_visible_washed :
    ((ofTheme (washed ⟨101, 115, 126, 255⟩)).style .comment).foreground =
        some ⟨101, 115, 126⟩ ∧
      (∃ colour, (washed ⟨101, 115, 126, 255⟩).Inks .comment colour ∧
        colour ∉ (washed ⟨101, 115, 126, 255⟩).pageColours ∧
          colour.opaqueColour = ⟨101, 115, 126⟩) ∧
      (washed ⟨101, 115, 126, 255⟩).TellsPageApart ∧
      ((ofTheme (washed ⟨101, 115, 126, 255⟩)).style .comment).foreground ≠
        some ⟨20, 20, 20⟩ ∧
      ⟨"hl-c", "color: #65737e;"⟩ ∈ (ofTheme (washed ⟨101, 115, 126, 255⟩)).rules "hl-" ∧
      ¬ (TokenStyle.colourDeclaration ⟨20, 20, 20⟩).toList <:+: "color: #65737e;".toList := by
  have written : (ofTheme (washed ⟨101, 115, 126, 255⟩)).style .comment =
      { foreground := some ⟨101, 115, 126⟩ } := by cbv
  have kept : ((ofTheme (washed ⟨101, 115, 126, 255⟩)).style .comment).foreground =
      some ⟨101, 115, 126⟩ := by rw [written]
  have apart : (washed ⟨101, 115, 126, 255⟩).TellsPageApart := by decide
  have listed : (⟨"hl-c", "color: #65737e;"⟩ : CssRule) ∈
      (ofTheme (washed ⟨101, 115, 126, 255⟩)).rules "hl-" := by
    refine List.mem_map.mpr ⟨.comment, List.mem_filter.mpr ⟨by decide, ?_⟩, ?_⟩
    · rw [written]
      rfl
    · rw [written]
      decide
  obtain ⟨shown, visible⟩ := ofTheme_visible (washed ⟨101, 115, 126, 255⟩)
  obtain ⟨notGround, undeclared⟩ := visible apart ⟨20, 20, 20, 255⟩ (by decide)
  exact ⟨kept, (shown .comment _).mp kept, apart, notGround .comment, listed,
    undeclared "hl-" _ listed⟩

/-- The background colour of the page less some opacity hides comments. -/
theorem ofTheme_hides_washed :
    ((ofTheme (washed ⟨20, 20, 20, 128⟩)).style .comment).foreground =
      some (washed ⟨20, 20, 20, 128⟩).background.opaqueColour := by
  cbv

end Palette

end PageFilters
