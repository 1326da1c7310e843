import PageFilters.Proofs.Highlight.Page
import PageFilters.Proofs.Html.Spans
import PageFilters.Proofs.Resolution.Protocol
import PageFilters.Theme.Bundled

/-!
# Plain pages

Whenever a document falls back to plain text its page is the same, for whatever
reason it did: the two style sheets and the escaped content.  With highlighting
switched off it always does, and then nobody is asked.
-/

namespace PageFilters

theorem Html.render_plain (classPrefix text : String) :
    render classPrefix (Tokenizer.plain.tokenize text).tokens = escape text := by
  rw [Tokenizer.tokens_plain]
  split
  next empty =>
    rw [empty]
    rfl
  next filled => simp [render, Writing.add, Token.plain, filled, escape]

/-- The page of a content that is shown as plain text. -/
def Highlighted.plain (sheets : StyleSheets) (content : String) (reason : FallbackReason) :
    Highlighted where
  html := Html.assemble (sheets.cssOrEmpty .dark) (sheets.cssOrEmpty .light) (Html.escape content)
  grammar := Tokenizer.plainName
  origin := .fallback reason

theorem Highlighted.of_fallback (settings : Settings) (sheets : StyleSheets) (document : Document)
    (reason : FallbackReason) :
    of settings sheets document (.fallback reason) = plain sheets document.content reason := by
  simp only [of, plain, Resolution.fallback, Html.render_plain]
  rfl

section Effects

variable {m : Type → Type} [Monad m] [LawfulMonad m] [Logs m]

theorem satisfiesM_eq_fallback (provider : Provider m) (settings : Settings)
    (document : Document) :
    SatisfiesM
      (fun resolution => ∀ reason, resolution.origin = .fallback reason →
        resolution = .fallback reason)
      (resolveBySettings provider settings document) := by
  by_cases enabled : settings.highlightingEnabled
  · simp only [resolveBySettings, enabled, ↓reduceIte]
    have settled : SatisfiesM (Settles document (fun _ => True) fun _ => True)
        (resolve provider document) :=
      satisfiesM_settles SatisfiesM.trivial SatisfiesM.trivial
    exact settled.imp fun known reason fallen => known.eq_fallback fallen
  · simp only [resolveBySettings, enabled]
    refine SatisfiesM.pure fun reason fallen => ?_
    cases fallen
    rfl

theorem highlight_disabled (provider : Provider m) {settings : Settings}
    (disabled : settings.highlightingEnabled = false) (sheets : StyleSheets)
    (document : Document) :
    highlight provider settings sheets document =
      (Resolution.fallback .disabled).present settings sheets document := by
  simp [highlight, resolveBySettings, disabled]

theorem run_prepare {σ : Type} (sheets : StyleSheets) (slot : Slot) (state : σ) :
    (sheets.prepare slot : StateT σ m String).run state =
      (fun css => (css, state)) <$> (sheets.prepare slot : m String) := by
  simp [StyleSheets.prepare, run_tell]

theorem run_present {σ : Type} (settings : Settings) (sheets : StyleSheets) (document : Document)
    (resolution : Resolution) (state : σ) :
    (resolution.present settings sheets document : StateT σ m Highlighted).run state =
      (fun page => (page, state)) <$> (resolution.present settings sheets document) := by
  unfold Resolution.present
  dsimp only
  split
  next => simp [run_tell, run_prepare]
  next => simp [run_prepare]

end Effects

/-- For all settings and themes, a content that is shown as plain text has one
page, whoever is asked about it, by whatever name, and whether or not
highlighting is switched on.  Where it is switched off, the page depends on
neither the name nor the provider, and no question is asked. -/
theorem fallback_page (settings : Settings) (themes : ThemeSet) (content : String) :
    let sheets := StyleSheets.ofSettings themes settings
    let html := Html.assemble (sheets.cssOrEmpty .dark) (sheets.cssOrEmpty .light)
      (Html.escape content)
    let off := { settings with highlightingEnabled := false }
    (∀ {m : Type → Type} [Monad m] [LawfulMonad m] [Logs m] (provider : Provider m)
      (filename : String) (enabled : Bool),
        SatisfiesM
          (fun page => ∀ reason, page.origin = .fallback reason →
            page.html = html ∧ page.grammar = Tokenizer.plainName)
          (highlight provider { settings with highlightingEnabled := enabled } sheets
            ⟨filename, content⟩)) ∧
    ∀ {m : Type → Type} [Monad m] [LawfulMonad m] [Logs m] (provider : Provider m)
      (filename : String),
        SatisfiesM (· = ⟨html, Tokenizer.plainName, .fallback .disabled⟩)
          (highlight provider off sheets ⟨filename, content⟩) ∧
        (∀ (other : Provider m) (otherName : String),
          highlight other off sheets ⟨otherName, content⟩ =
            highlight provider off sheets ⟨filename, content⟩) ∧
        ∀ calls : Provider.Calls,
          (highlight provider.counted off sheets ⟨filename, content⟩).run calls =
            (fun page => (page, calls)) <$> highlight provider off sheets ⟨filename, content⟩ := by
  intro sheets html off
  constructor
  · intro m _ _ _ provider filename enabled
    have found := satisfiesM_eq_fallback provider
      { settings with highlightingEnabled := enabled } ⟨filename, content⟩
    refine (satisfiesM_highlight sheets found).imp ?_
    rintro page ⟨resolution, known, rfl⟩ reason fallen
    rw [known reason fallen, Highlighted.of_fallback]
    exact ⟨rfl, rfl⟩
  · intro m _ _ _ provider filename
    refine ⟨?_, fun other otherName => ?_, fun calls => ?_⟩
    · rw [highlight_disabled provider rfl]
      refine (satisfiesM_present off sheets ⟨filename, content⟩ (.fallback .disabled)).imp ?_
      rintro page rfl
      exact Highlighted.of_fallback off sheets ⟨filename, content⟩ .disabled
    · rw [highlight_disabled other rfl, highlight_disabled provider rfl]
      rfl
    · rw [highlight_disabled provider.counted rfl, highlight_disabled provider rfl]
      exact run_present off sheets ⟨filename, content⟩ (.fallback .disabled) calls

/-- A contested file and one about which the provider fails have the page that
both have without highlighting. -/
theorem fallback_page_scripted :
    let page (filename : String) (enabled : Bool) : Highlighted :=
      highlight Provider.scripted { highlightingEnabled := enabled }
        (.ofSettings BundledTheme.themeSet {}) ⟨filename, "<b>"⟩
    (page "x.h" true).origin = .fallback .ambiguous ∧
      (page "y" true).origin = .fallback .providerFault ∧
      (page "x.h" true).html = (page "y" true).html ∧
      (page "x.h" true).html = (page "z" false).html := by
  intro page
  obtain ⟨fallen, off⟩ := fallback_page {} BundledTheme.themeSet "<b>"
  have contested := SatisfiesM_Id_eq.mp (fallen Provider.scripted "x.h" true) .ambiguous rfl
  have failed := SatisfiesM_Id_eq.mp (fallen Provider.scripted "y" true) .providerFault rfl
  have disabled := SatisfiesM_Id_eq.mp (off Provider.scripted "z").1
  refine ⟨rfl, rfl, contested.1.trans failed.1.symm, ?_⟩
  exact contested.1.trans (congrArg Highlighted.html disabled).symm

end PageFilters
