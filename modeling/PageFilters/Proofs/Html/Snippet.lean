import PageFilters.Html.Page
import PageFilters.Proofs.Html.Reading
import PageFilters.Proofs.Theme.Rules

/-!
# A page snippet read back

A reader who knows nothing of the settings goes through a page snippet line by
line.  It expects the lines that frame the two rule sets, takes what stands
between them for rules, and all that follows the style element for the
fragment.  What it finds are the rules of the two palettes and the fragment,
whatever that contains, as long as class names have no line feed in them.
-/

namespace PageFilters.Html

/-- The line in front of the rules that hold under a media query. -/
def queryLine (scheme : String) : String :=
  "@media (prefers-color-scheme: " ++ scheme ++ ") \x7b\n"

def closingLine : String := "\x7d\n"

/-- The parts of a page snippet: the lines of its two rule sets and the text
behind its style element. -/
structure Snippet where
  dark : List String
  light : List String
  fragment : String
  deriving Repr, DecidableEq

/-- Takes lines for a page snippet.  A rule set ends in front of the first line
that closes a block. -/
def Snippet.ofLines? (lines : List String) : Option Snippet := do
  let lines ← lines.dropPrefix? ["<style>\n", queryLine "dark"]
  let dark := lines.takeWhile (· != closingLine)
  let lines ← (lines.dropWhile (· != closingLine)).dropPrefix? [closingLine, queryLine "light"]
  let light := lines.takeWhile (· != closingLine)
  let lines ← (lines.dropWhile (· != closingLine)).dropPrefix? [closingLine, "</style>\n"]
  return { dark, light, fragment := String.join lines }

/-- Reads a page snippet line by line. -/
def Snippet.read? (html : String) : Option Snippet :=
  ofLines? ((Text.lines html.toList).map String.ofList)

/-- The lines of a style element in front of the one that closes it. -/
def elementLines (dark light : List CssRule) : List String :=
  ["<style>\n", queryLine "dark"] ++ (dark.map CssRule.text ++
    ([closingLine, queryLine "light"] ++ (light.map CssRule.text ++ [closingLine])))

theorem text_ne_closingLine (rule : CssRule) : rule.text ≠ closingLine := by
  intro same
  have first := congrArg (fun text => text.toList.head?) same
  simp [CssRule.text, closingLine] at first

theorem all_ne_closingLine (rules : List CssRule) :
    ∀ line ∈ rules.map CssRule.text, (line != closingLine) = true := by
  intro line written
  obtain ⟨rule, -, rfl⟩ := List.mem_map.mp written
  exact bne_iff_ne.mpr (text_ne_closingLine rule)

theorem takeWhile_ne_closingLine (rules : List CssRule) (later : List String) :
    (rules.map CssRule.text ++ closingLine :: later).takeWhile (· != closingLine) =
      rules.map CssRule.text := by
  rw [List.takeWhile_append_of_pos (all_ne_closingLine rules)]
  simp

theorem dropWhile_ne_closingLine (rules : List CssRule) (later : List String) :
    (rules.map CssRule.text ++ closingLine :: later).dropWhile (· != closingLine) =
      closingLine :: later := by
  rw [List.dropWhile_append_of_pos (all_ne_closingLine rules)]
  simp

/-- Rules are not taken for the end of their block, nor is anything behind it. -/
theorem ofLines?_elementLines (dark light : List CssRule) (rest : List String) :
    Snippet.ofLines? (elementLines dark light ++ "</style>\n" :: rest) =
      some ⟨dark.map CssRule.text, light.map CssRule.text, String.join rest⟩ := by
  have behindDark : elementLines dark light ++ "</style>\n" :: rest =
      ["<style>\n", queryLine "dark"] ++ (dark.map CssRule.text ++ closingLine ::
        (queryLine "light" ::
          (light.map CssRule.text ++ closingLine :: "</style>\n" :: rest))) := by
    simp [elementLines]
  have opened := dropPrefix?_append ["<style>\n", queryLine "dark"]
    (dark.map CssRule.text ++ closingLine ::
      (queryLine "light" :: (light.map CssRule.text ++ closingLine :: "</style>\n" :: rest)))
  have between := dropPrefix?_append [closingLine, queryLine "light"]
    (light.map CssRule.text ++ closingLine :: "</style>\n" :: rest)
  have closed := dropPrefix?_append [closingLine, "</style>\n"] rest
  simp only [List.cons_append, List.nil_append] at between closed
  rw [behindDark, Snippet.ofLines?]
  simp only [opened, Option.bind_eq_bind, Option.bind_some, takeWhile_ne_closingLine,
    dropWhile_ne_closingLine, between, closed, Option.pure_def]

theorem mediaBlock_eq (scheme css : String) :
    mediaBlock scheme css = queryLine scheme ++ closedSheet css ++ closingLine :=
  rfl

theorem isLine_queryLine {scheme : String} (unbroken : '\n' ∉ scheme.toList) :
    Text.IsLine (queryLine scheme).toList := by
  have isLine : ∀ lead : String, '\n' ∉ lead.toList →
      Text.IsLine (lead ++ scheme ++ ") \x7b\n").toList := by
    intro lead leadUnbroken
    refine ⟨lead.toList ++ scheme.toList ++ [')', ' ', '{'], ?_, ?_⟩
    · simp [leadUnbroken, unbroken]
    · simp
  exact isLine _ (by decide)

theorem isLine_elementLines {dark light : List CssRule}
    (darkLines : ∀ rule ∈ dark, Text.IsLine rule.text.toList)
    (lightLines : ∀ rule ∈ light, Text.IsLine rule.text.toList) :
    ∀ line ∈ elementLines dark light, Text.IsLine line.toList := by
  have opening : Text.IsLine "<style>\n".toList := ⟨"<style>".toList, by decide, rfl⟩
  have darkQuery : Text.IsLine (queryLine "dark").toList := isLine_queryLine (by decide)
  have lightQuery : Text.IsLine (queryLine "light").toList := isLine_queryLine (by decide)
  have closing : Text.IsLine closingLine.toList := ⟨['}'], by decide, rfl⟩
  intro line listed
  simp only [elementLines, List.mem_append, List.mem_cons, List.not_mem_nil, or_false,
    List.mem_map] at listed
  rcases listed with (rfl | rfl) | ⟨rule, member, rfl⟩ | (rfl | rfl) | ⟨rule, member, rfl⟩ | rfl
  · exact opening
  · exact darkQuery
  · exact darkLines rule member
  · exact closing
  · exact lightQuery
  · exact lightLines rule member
  · exact closing

/-- Rules that are lines need no line feed at the end of their sheet. -/
theorem closedSheet_rules {rules : List CssRule}
    (each : ∀ rule ∈ rules, Text.IsLine rule.text.toList) :
    closedSheet (String.join (rules.map CssRule.text)) = String.join (rules.map CssRule.text) := by
  have ends : Text.EndsLine (String.join (rules.map CssRule.text)).toList := by
    rw [String.toList_join, List.flatMap_map, List.flatMap_def]
    apply Text.endsLine_flatten
    intro line written
    obtain ⟨rule, member, rfl⟩ := List.mem_map.mp written
    exact each rule member
  unfold closedSheet
  rcases ends with empty | feed
  · rw [String.toList_eq_nil_iff.mp empty]
    rfl
  · simp only [feed, BEq.rfl, Bool.or_true, ↓reduceIte]

/-- The style element without the line that closes it. -/
def openElement (dark light : String) : String :=
  "<style>\n" ++ mediaBlock "dark" dark ++ mediaBlock "light" light

theorem assemble_eq_openElement_append (dark light fragment : String) :
    assemble dark light fragment = openElement dark light ++ "</style>\n" ++ fragment :=
  rfl

theorem toList_openElement {dark light : List CssRule}
    (darkLines : ∀ rule ∈ dark, Text.IsLine rule.text.toList)
    (lightLines : ∀ rule ∈ light, Text.IsLine rule.text.toList) :
    (openElement (String.join (dark.map CssRule.text))
        (String.join (light.map CssRule.text))).toList =
      ((elementLines dark light).map String.toList).flatten := by
  simp only [openElement, mediaBlock_eq, closedSheet_rules darkLines, closedSheet_rules lightLines]
  simp [elementLines, List.flatMap_def]

theorem read?_assemble {dark light : List CssRule}
    (darkLines : ∀ rule ∈ dark, Text.IsLine rule.text.toList)
    (lightLines : ∀ rule ∈ light, Text.IsLine rule.text.toList) (fragment : String) :
    Snippet.read? (assemble (String.join (dark.map CssRule.text))
        (String.join (light.map CssRule.text)) fragment) =
      some ⟨dark.map CssRule.text, light.map CssRule.text, fragment⟩ := by
  have closing : Text.IsLine "</style>\n".toList := ⟨"</style>".toList, by decide, rfl⟩
  have eachLine : ∀ line ∈ (elementLines dark light ++ ["</style>\n"]).map String.toList,
      Text.IsLine line := by
    intro line written
    obtain ⟨text, listed, rfl⟩ := List.mem_map.mp written
    rcases List.mem_append.mp listed with inside | last
    · exact isLine_elementLines darkLines lightLines text inside
    · rw [List.mem_singleton.mp last]
      exact closing
  have lines : Text.lines (assemble (String.join (dark.map CssRule.text))
        (String.join (light.map CssRule.text)) fragment).toList =
      (elementLines dark light ++ ["</style>\n"]).map String.toList ++
        Text.lines fragment.toList := by
    rw [← Text.lines_flatten_append eachLine, assemble_eq_openElement_append, String.toList_append,
      String.toList_append, toList_openElement darkLines lightLines, List.map_append,
      List.flatten_append]
    rfl
  have unchanged : ((elementLines dark light ++ ["</style>\n"]).map String.toList).map
      String.ofList = elementLines dark light ++ ["</style>\n"] := by
    simp [Function.comp_def]
  have whole : String.join ((Text.lines fragment.toList).map String.ofList) = fragment := by
    apply String.toList_inj.mp
    rw [String.toList_join, List.flatMap_map]
    simp [List.flatMap_def, Text.flatten_lines]
  rw [Snippet.read?, lines, List.map_append, unchanged, List.append_assoc, List.singleton_append,
    ofLines?_elementLines, whole]

theorem tag_not_mem_mediaBlock {scheme css : String} (schemeUntagged : '<' ∉ scheme.toList)
    (cssUntagged : '<' ∉ css.toList) : '<' ∉ (mediaBlock scheme css).toList := by
  have query : ∀ lead : String, '<' ∉ lead.toList →
      '<' ∉ (lead ++ scheme ++ ") \x7b\n").toList := by
    intro lead leadUntagged
    simp [leadUntagged, schemeUntagged]
  have closed : '<' ∉ (closedSheet css).toList := by
    unfold closedSheet
    split
    next => exact cssUntagged
    next => simpa using cssUntagged
  rw [mediaBlock_eq, String.toList_append, String.toList_append, List.mem_append, List.mem_append,
    not_or, not_or]
  exact ⟨⟨query _ (by decide), closed⟩, by decide⟩

section Untagged

variable {dark light : String} (darkUntagged : '<' ∉ dark.toList)
  (lightUntagged : '<' ∉ light.toList)

include darkUntagged lightUntagged

/-- An opened style element has no other tag in it than the one that opens it. -/
theorem toList_openElement_eq_cons :
    ∃ rest, '<' ∉ rest ∧ (openElement dark light).toList = '<' :: 's' :: rest := by
  have darkBlock := tag_not_mem_mediaBlock (by decide : '<' ∉ "dark".toList) darkUntagged
  have lightBlock := tag_not_mem_mediaBlock (by decide : '<' ∉ "light".toList) lightUntagged
  refine ⟨['t', 'y', 'l', 'e', '>', '\n'] ++ ((mediaBlock "dark" dark).toList ++
    (mediaBlock "light" light).toList), ?_, ?_⟩
  · simp [darkBlock, lightBlock]
  · simp [openElement]

/-- The closing tag is found nowhere in front of the place where it is written. -/
theorem openElement_prefix {fragment : String} {front back : List Char}
    (found : (assemble dark light fragment).toList = front ++ "</style>".toList ++ back) :
    (openElement dark light).toList <+: front := by
  obtain ⟨rest, untagged, opened⟩ := toList_openElement_eq_cons darkUntagged lightUntagged
  rw [assemble_eq_openElement_append, String.append_assoc, String.toList_append,
    List.append_assoc] at found
  rcases List.append_eq_append_iff.mp found with ⟨between, rfl, -⟩ | ⟨overlap, parts, tag⟩
  · exact List.prefix_append _ _
  · -- A tag that began in the opened element would be the one that opens it.
    cases overlap with
    | nil =>
        rw [List.append_nil] at parts
        exact parts ▸ List.prefix_refl _
    | cons first overlap =>
        have tagChars : "</style>".toList = '<' :: '/' :: "style>".toList := rfl
        rw [tagChars] at tag
        obtain ⟨rfl, behindFirst⟩ := List.cons.inj tag
        rw [opened] at parts
        cases front with
        | nil =>
            rw [List.nil_append] at parts
            cases parts
            exact absurd (List.cons.inj behindFirst).1 (by decide)
        | cons char front =>
            have later : '<' ∈ 's' :: rest := by
              rw [(List.cons.inj parts).2]
              simp
            rcases List.mem_cons.mp later with same | member
            · exact absurd same (by decide)
            · exact absurd member untagged

end Untagged

/-- Page snippets are read back, for all class prefixes without a line feed, all
palettes of the two slots, where a slot may also have none, and all fragments.
The lines in front of the first one that closes a block are the rules for dark
screens, those in front of the next one the rules for light screens, and behind
the line that closes the style element stands the fragment.  If moreover there is
no less-than sign in the prefix, that line is where the closing tag is first
found. -/
theorem assemble_decodes {classPrefix : String} (unbroken : '\n' ∉ classPrefix.toList)
    (dark light : Option Palette) (fragment : String) :
    let css (slot : Option Palette) := slot.elim "" (·.css classPrefix)
    let rules (slot : Option Palette) := slot.elim [] (·.rules classPrefix)
    let html := assemble (css dark) (css light) fragment
    Snippet.read? html =
        some ⟨(rules dark).map CssRule.text, (rules light).map CssRule.text, fragment⟩ ∧
      ('<' ∉ classPrefix.toList → ∃ header : String,
        header = String.join (elementLines (rules dark) (rules light)) ∧
          html = header ++ "</style>\n" ++ fragment ∧
          ∀ front back, html.toList = front ++ "</style>".toList ++ back →
            header.toList <+: front) := by
  intro css rules html
  have sheet : ∀ slot, css slot = String.join ((rules slot).map CssRule.text) := by
    intro slot
    cases slot with
    | none => rfl
    | some palette => rfl
  have eachLine : ∀ slot, ∀ rule ∈ rules slot, Text.IsLine rule.text.toList := by
    intro slot rule listed
    cases slot with
    | none => simp [rules] at listed
    | some palette => exact Palette.isLine_text unbroken listed
  constructor
  · simp only [html, sheet]
    exact read?_assemble (eachLine dark) (eachLine light) fragment
  · intro untagged
    have sheetUntagged : ∀ slot, '<' ∉ (css slot).toList := by
      intro slot
      cases slot with
      | none => simp [css]
      | some palette => exact Palette.not_mem_css untagged
    refine ⟨openElement (css dark) (css light), ?_, rfl, ?_⟩
    · apply String.toList_inj.mp
      rw [sheet dark, sheet light, toList_openElement (eachLine dark) (eachLine light),
        String.toList_join, List.flatMap_def]
    · intro front back found
      exact openElement_prefix (sheetUntagged dark) (sheetUntagged light) found

/-- A palette that sets off comments alone. -/
def greyComments : Palette where
  style
    | .comment => { foreground := some ⟨101, 115, 126⟩ }
    | _ => {}

/-- One rule for dark screens, no sheet for light ones, and a fragment that looks
like the end of a style element. -/
theorem assemble_decodes_ending :
    '\n' ∉ "hl-".toList ∧ '<' ∉ "hl-".toList ∧
      Snippet.read? (assemble (greyComments.css "hl-") "" "\x7d\n</style>\n<b>") =
        some ⟨[".hl-c \x7b color: #65737e; \x7d\n"], [], "\x7d\n</style>\n<b>"⟩ ∧
      ∃ header : String,
        assemble (greyComments.css "hl-") "" "\x7d\n</style>\n<b>" =
            header ++ "</style>\n" ++ "\x7d\n</style>\n<b>" ∧
          ∀ front back,
            (assemble (greyComments.css "hl-") "" "\x7d\n</style>\n<b>").toList =
                front ++ "</style>".toList ++ back →
              header.toList <+: front := by
  have unbroken : '\n' ∉ "hl-".toList := by decide
  have untagged : '<' ∉ "hl-".toList := by decide
  have rule : (greyComments.rules "hl-").map CssRule.text =
      [".hl-c \x7b color: #65737e; \x7d\n"] := by decide +kernel
  obtain ⟨read, closed⟩ :=
    assemble_decodes unbroken (some greyComments) none "\x7d\n</style>\n<b>"
  obtain ⟨header, -, written, first⟩ := closed untagged
  simp only [Option.elim_some, Option.elim_none, rule, List.map_nil] at read
  exact ⟨unbroken, untagged, read, header, written, first⟩

end PageFilters.Html
