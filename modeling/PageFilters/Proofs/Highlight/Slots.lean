import PageFilters.Grammar.Bundled.Catalogue
import PageFilters.Proofs.Highlight.Page
import PageFilters.Theme.Bundled

/-!
# The parts of a page are apart from each other

A page has a media block for each of its two slots and a fragment.  A block
depends on the theme of its own slot, the fragment on the document and the class
prefix.  So a theme that is exchanged or missing shows in its block and nowhere
else.
-/

namespace PageFilters

namespace StyleSheets

/-- The theme that is held under the key chosen for a slot. -/
def theme? (sheets : StyleSheets) (slot : Slot) : Option Theme :=
  sheets.themes.lookup (sheets.choice slot).key

def block (sheets : StyleSheets) (slot : Slot) : String :=
  Html.mediaBlock slot.name (sheets.cssOrEmpty slot)

/-- The two media blocks in their style element, and a fragment behind them. -/
def pageAround (sheets : StyleSheets) (fragment : String) : String :=
  "<style>\n" ++ sheets.block .dark ++ sheets.block .light ++ "</style>\n" ++ fragment

theorem cssOrEmpty_eq (sheets : StyleSheets) (slot : Slot) :
    sheets.cssOrEmpty slot =
      (sheets.theme? slot).elim "" fun theme => (Palette.ofTheme theme).css sheets.classPrefix := by
  unfold cssOrEmpty css palette theme?
  cases held : sheets.themes.lookup (sheets.choice slot).key with
  | none => simp [held, Except.map]
  | some theme => simp [held, Except.map]

theorem cssOrEmpty_congr {left right : StyleSheets} {slot other : Slot}
    (samePrefix : left.classPrefix = right.classPrefix)
    (sameTheme : left.theme? slot = right.theme? other) :
    left.cssOrEmpty slot = right.cssOrEmpty other := by
  rw [cssOrEmpty_eq, cssOrEmpty_eq, samePrefix, sameTheme]

theorem block_congr {left right : StyleSheets} {slot : Slot}
    (samePrefix : left.classPrefix = right.classPrefix)
    (sameTheme : left.theme? slot = right.theme? slot) : left.block slot = right.block slot := by
  rw [block, block, cssOrEmpty_congr samePrefix sameTheme]

theorem block_of_theme?_eq_none {sheets : StyleSheets} {slot : Slot}
    (missing : sheets.theme? slot = none) :
    sheets.block slot = "@media (prefers-color-scheme: " ++ slot.name ++ ") \x7b\n\x7d\n" := by
  rw [block, cssOrEmpty_eq, missing]
  cases slot with
  | light => rfl
  | dark => rfl

end StyleSheets

theorem resolveBySettings_congr {m : Type → Type} [Monad m] [Logs m] (provider : Provider m)
    {left right : Settings} (sameEnabled : left.highlightingEnabled = right.highlightingEnabled)
    (document : Document) :
    resolveBySettings provider left document = resolveBySettings provider right document := by
  rw [resolveBySettings, resolveBySettings, sameEnabled]

/-- Two settings with the same class prefix, both with highlighting on or both
with it off, and any theme sets.  What is found for a document is the same, and
the pages that are made of it have the same fragment, grammar and origin.  They
have the same media block for every slot whose theme is the same or missing in
both, whatever the other slot has.  The block of a missing theme is empty, and two
slots that choose the same theme have the same rules. -/
theorem slots_isolated {m : Type → Type} [Monad m] [LawfulMonad m] [Logs m]
    (provider : Provider m) (document : Document) {left right : Settings}
    (samePrefix : left.classPrefix = right.classPrefix)
    (sameEnabled : left.highlightingEnabled = right.highlightingEnabled)
    (leftThemes rightThemes : ThemeSet) :
    let leftSheets := StyleSheets.ofSettings leftThemes left
    let rightSheets := StyleSheets.ofSettings rightThemes right
    (highlight provider left leftSheets document =
        resolveBySettings provider left document >>=
          Resolution.present left leftSheets document ∧
      highlight provider right rightSheets document =
        resolveBySettings provider left document >>=
          Resolution.present right rightSheets document) ∧
    (∀ resolution : Resolution, ∃ (fragment : String) (leftPage rightPage : Highlighted),
      SatisfiesM (· = leftPage)
          (resolution.present left leftSheets document : m Highlighted) ∧
        SatisfiesM (· = rightPage)
          (resolution.present right rightSheets document : m Highlighted) ∧
        leftPage.html = leftSheets.pageAround fragment ∧
        rightPage.html = rightSheets.pageAround fragment ∧
        leftPage.grammar = rightPage.grammar ∧ leftPage.origin = rightPage.origin) ∧
    ∀ slot,
      (leftSheets.theme? slot = rightSheets.theme? slot →
        leftSheets.block slot = rightSheets.block slot) ∧
      (leftSheets.theme? slot = none →
        leftSheets.block slot =
          "@media (prefers-color-scheme: " ++ slot.name ++ ") \x7b\n\x7d\n") ∧
      ∀ other, leftSheets.choice slot = leftSheets.choice other →
        leftSheets.cssOrEmpty slot = leftSheets.cssOrEmpty other := by
  intro leftSheets rightSheets
  refine ⟨?_, ?_, ?_⟩
  · refine ⟨rfl, ?_⟩
    rw [resolveBySettings_congr provider sameEnabled]
    rfl
  · intro resolution
    let tokens := (resolution.tokenizer.tokenize document.content).tokens
    refine ⟨Html.render left.classPrefix tokens, Highlighted.of left leftSheets document resolution,
      Highlighted.of right rightSheets document resolution, ?_, ?_, rfl, ?_, rfl, rfl⟩
    · exact satisfiesM_present left leftSheets document resolution
    · exact satisfiesM_present right rightSheets document resolution
    · rw [samePrefix]
      rfl
  · intro slot
    refine ⟨?_, ?_, ?_⟩
    · intro sameTheme
      exact StyleSheets.block_congr samePrefix sameTheme
    · intro missing
      exact StyleSheets.block_of_theme?_eq_none missing
    · intro other sameChoice
      apply StyleSheets.cssOrEmpty_congr rfl
      rw [StyleSheets.theme?, StyleSheets.theme?, sameChoice]

/-- The theme for dark screens is exchanged for one that is missing. -/
theorem slots_isolated_darkless :
    let dusk : Settings := { darkTheme := .solarizedDark, avatarSize := 40 }
    let lightOnly : ThemeSet := [("InspiredGitHub", BundledTheme.theme .inspiredGitHub)]
    let provider : Provider Id := GrammarSet.bundled.provider
    let sheets := StyleSheets.ofSettings BundledTheme.themeSet {}
    let duskSheets := StyleSheets.ofSettings lightOnly dusk
    ({} : Settings).classPrefix = dusk.classPrefix ∧
      ({} : Settings).highlightingEnabled = dusk.highlightingEnabled ∧
      sheets.block .light = duskSheets.block .light ∧
      duskSheets.block .dark = "@media (prefers-color-scheme: dark) \x7b\n\x7d\n" ∧
      ∃ fragment,
        (highlight provider {} sheets ⟨"main.rs", "fn"⟩).html = sheets.pageAround fragment ∧
          (highlight provider dusk duskSheets ⟨"main.rs", "fn"⟩).html =
            duskSheets.pageAround fragment := by
  intro dusk lightOnly provider sheets duskSheets
  have samePrefix : ({} : Settings).classPrefix = dusk.classPrefix := rfl
  have sameEnabled : ({} : Settings).highlightingEnabled = dusk.highlightingEnabled := rfl
  have sameLight : sheets.theme? .light = duskSheets.theme? .light := rfl
  have noDark : duskSheets.theme? .dark = none := rfl
  obtain ⟨⟨-, duskFound⟩, shown, apart⟩ := slots_isolated provider ⟨"main.rs", "fn"⟩
    samePrefix sameEnabled BundledTheme.themeSet lightOnly
  obtain ⟨-, -, duskApart⟩ := slots_isolated provider ⟨"main.rs", "fn"⟩
    samePrefix.symm sameEnabled.symm lightOnly BundledTheme.themeSet
  refine ⟨samePrefix, sameEnabled, (apart .light).1 sameLight, (duskApart .dark).2.1 noDark, ?_⟩
  obtain ⟨fragment, page, duskPage, made, duskMade, html, duskHtml, -⟩ :=
    shown (resolveBySettings provider {} ⟨"main.rs", "fn"⟩)
  refine ⟨fragment, ?_, ?_⟩
  · rw [← html, ← SatisfiesM_Id_eq.mp made]
    rfl
  · rw [← duskHtml, ← SatisfiesM_Id_eq.mp duskMade]
    exact congrArg Highlighted.html duskFound

end PageFilters
