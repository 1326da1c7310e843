import PageFilters.Grammar.Bundled.Catalogue
import PageFilters.Proofs.Highlight.Page
import PageFilters.Proofs.Html.Reading
import PageFilters.Proofs.Token.Losslessness

/-!
# A page shows its document

Behind a header that depends on the settings and the themes alone, a page is a
flat sequence of texts and spans.  Without the tags of the spans and with the
entities decoded it is the document, character by character, whatever tokenizer
is found for it, as long as that loses nothing.
-/

namespace PageFilters

/-- What a page has in front of its fragment. -/
def StyleSheets.header (sheets : StyleSheets) : String :=
  Html.assemble (sheets.cssOrEmpty .dark) (sheets.cssOrEmpty .light) ""

theorem assemble_eq_header_append (sheets : StyleSheets) (fragment : String) :
    Html.assemble (sheets.cssOrEmpty .dark) (sheets.cssOrEmpty .light) fragment =
      sheets.header ++ fragment := by
  simp [StyleSheets.header, Html.assemble, String.append_assoc]

theorem exists_spans_eq_render (classPrefix : String) (tokens : List Token) :
    ∃ runs, Html.render classPrefix tokens = Html.spans classPrefix runs ∧
      Token.chars runs = Token.chars tokens := by
  refine ⟨Token.runs tokens, Html.render_eq_spans classPrefix tokens, ?_⟩
  rw [← Token.map_fst_markedChars, Token.markedChars_runs, Token.map_fst_markedChars]

/-- For all settings and themes there is a header, so that every page made with
them is that header and a flat sequence of escaped texts, bare or in a span; and
what a reader of HTML finds in the sequence is the decoded input.  This holds
for every provider whose tokenizers lose nothing.  A grammar set is such a
provider, whatever its engine answers. -/
theorem page_fidelity (settings : Settings) (themes : ThemeSet) :
    (∃ header : String, ∀ {m : Type → Type} [Monad m] [LawfulMonad m] [Logs m]
      (provider : Provider m), provider.Offers Tokenizer.Lossless →
      ∀ (filename : String) (input : Text.Bytes),
        SatisfiesM
          (fun page => ∃ runs : List Token,
            page.html = header ++ Html.spans settings.classPrefix runs ∧
              (∀ run ∈ runs, ∀ char ∈ (Html.escape run.text).toList,
                Html.isMarkup char → char = '&') ∧
              Html.readText? settings.classPrefix (Html.spans settings.classPrefix runs) =
                some (Text.decodeLossy input))
          (highlight provider settings (.ofSettings themes settings)
            (.ofBytes filename input))) ∧
    ∀ {m : Type → Type} [Monad m] [LawfulMonad m] [Logs m] (set : GrammarSet) {σ : Type}
      (engine : Engine σ) (start : Grammar → σ),
      (set.providerOf fun grammar => .ofEngine grammar.name engine (start grammar) :
        Provider m).Offers Tokenizer.Lossless := by
  let sheets := StyleSheets.ofSettings themes settings
  constructor
  · refine ⟨sheets.header, ?_⟩
    intro m _ _ _ provider offers filename input
    let document := Document.ofBytes filename input
    have found := satisfiesM_resolveBySettings Tokenizer.plain_lossless offers settings document
    refine (satisfiesM_highlight sheets found).imp ?_
    rintro page ⟨resolution, lossless, rfl⟩
    obtain ⟨runs, written, sameChars⟩ := exists_spans_eq_render settings.classPrefix
      (resolution.tokenizer.tokenize document.content).tokens
    refine ⟨runs, ?_, fun run _ char member markup => ?_, ?_⟩
    · rw [← written]
      exact assemble_eq_header_append sheets _
    · exact Html.eq_ampersand_of_mem_escape member markup
    · rw [Html.readText?_spans, sameChars, lossless document.content]
      exact congrArg some String.toList_ofList
  · intro m _ _ _ set σ engine start
    exact set.providerOf_offers fun grammar =>
      Tokenizer.ofEngine_lossless grammar.name engine (start grammar)

/-- The bundled grammars and an input that is not UTF-8. -/
theorem page_fidelity_bundled :
    (GrammarSet.bundled.provider : Provider Id).Offers Tokenizer.Lossless ∧
      ∃ header, ∃ runs : List Token,
        (highlight (GrammarSet.bundled.provider : Provider Id) {} (.ofSettings [] {})
            (.ofBytes "main.rs" [0x3C, 0xFF])).html = header ++ Html.spans "hl-" runs ∧
          Html.readText? "hl-" (Html.spans "hl-" runs) = some ['<', '\ufffd'] := by
  obtain ⟨⟨header, shows⟩, registry⟩ := page_fidelity {} []
  have offers : (GrammarSet.bundled.provider : Provider Id).Offers Tokenizer.Lossless :=
    registry GrammarSet.bundled GrammarSet.bundled.engine
      fun grammar => Grammar.ParserState.initial grammar.start
  have shown := shows GrammarSet.bundled.provider offers "main.rs" [0x3C, 0xFF]
  obtain ⟨runs, html, -, text⟩ := SatisfiesM_Id_eq.mp shown
  have decoded : Text.decodeLossy [0x3C, 0xFF] = ['<', '\ufffd'] := by decide +kernel
  rw [decoded] at text
  exact ⟨offers, header, runs, html, text⟩

end PageFilters
