import PageFilters.Highlight
import PageFilters.Proofs.Resolution.Registry

/-!
# What a page is made of

Whoever answers for tokenizers may have effects, and so may telling of events.
The page depends on neither: once a tokenizer has been found, it is made of the
style sheets and of the tokens.  What all tokenizers of a provider have in
common with the plain one, the tokenizer that is found has too.
-/

namespace PageFilters

/-- The page of a document whose tokenizer has been found. -/
def Highlighted.of (settings : Settings) (sheets : StyleSheets) (document : Document)
    (resolution : Resolution) : Highlighted where
  html := Html.assemble (sheets.cssOrEmpty .dark) (sheets.cssOrEmpty .light)
    (Html.render settings.classPrefix (resolution.tokenizer.tokenize document.content).tokens)
  grammar := resolution.tokenizer.grammar
  origin := resolution.origin

section Effects

variable {m : Type → Type} [Monad m] [LawfulMonad m] [Logs m]

theorem satisfiesM_prepare (sheets : StyleSheets) (slot : Slot) :
    SatisfiesM (· = sheets.cssOrEmpty slot) (sheets.prepare slot : m String) :=
  SatisfiesM.trivial.bind fun _ _ => SatisfiesM.pure rfl

theorem satisfiesM_present (settings : Settings) (sheets : StyleSheets) (document : Document)
    (resolution : Resolution) :
    SatisfiesM (· = Highlighted.of settings sheets document resolution)
      (resolution.present settings sheets document : m Highlighted) := by
  have sheetsBehind : SatisfiesM (· = Highlighted.of settings sheets document resolution)
      (do
        let dark ← sheets.prepare .dark
        let light ← sheets.prepare .light
        return {
          html := Html.assemble dark light (Html.render settings.classPrefix
            (resolution.tokenizer.tokenize document.content).tokens)
          grammar := resolution.tokenizer.grammar
          origin := resolution.origin } : m Highlighted) := by
    refine (satisfiesM_prepare sheets .dark).bind fun dark sameDark => ?_
    refine (satisfiesM_prepare sheets .light).bind fun light sameLight => ?_
    rw [sameDark, sameLight]
    exact SatisfiesM.pure rfl
  unfold Resolution.present
  dsimp only
  split
  next fault found => exact SatisfiesM.trivial.bind fun _ _ => sheetsBehind
  next => exact sheetsBehind

/-- What is known of the tokenizer that is found for a document is known of the
one whose tokens are shown. -/
theorem satisfiesM_highlight {provider : Provider m} {settings : Settings} {document : Document}
    {Found : Resolution → Prop} (sheets : StyleSheets)
    (found : SatisfiesM Found (resolveBySettings provider settings document)) :
    SatisfiesM (fun page => ∃ resolution, Found resolution ∧
        page = Highlighted.of settings sheets document resolution)
      (highlight provider settings sheets document) := by
  refine found.bind fun resolution known => ?_
  exact (satisfiesM_present settings sheets document resolution).imp fun same =>
    ⟨resolution, known, same⟩

/-- All tokenizers that a provider answers with are of some sort. -/
structure Provider.Offers (provider : Provider m) (Fits : Tokenizer → Prop) : Prop where
  byFilename : ∀ filename content, SatisfiesM
    (fun answer => ∀ tokenizer, answer = .ok (.recognized tokenizer) → Fits tokenizer)
    (provider.byFilename filename content)
  byContent : ∀ content, SatisfiesM
    (fun answer => ∀ tokenizer, answer = .ok (some tokenizer) → Fits tokenizer)
    (provider.byContent content)

variable {provider : Provider m} {Fits : Tokenizer → Prop}

/-- The tokenizer that is found for a document is the provider's or the plain
one. -/
theorem satisfiesM_resolve (plain : Fits .plain) (offers : provider.Offers Fits)
    (document : Document) :
    SatisfiesM (fun resolution => Fits resolution.tokenizer) (resolve provider document) := by
  have settled := satisfiesM_settles (offers.byFilename document.filename document.content)
    (offers.byContent document.content)
  refine settled.imp fun {resolution} known => ?_
  cases known with
  | named claimed => exact claimed _ rfl
  | directed unclaimed directive matched => exact matched _ rfl
  | ambiguous contested => exact plain
  | filenameFault failed => exact plain
  | unknown unclaimed bare => exact plain
  | unmatched unclaimed directive silent => exact plain
  | contentFault unclaimed directive failed => exact plain

theorem satisfiesM_resolveBySettings (plain : Fits .plain) (offers : provider.Offers Fits)
    (settings : Settings) (document : Document) :
    SatisfiesM (fun resolution => Fits resolution.tokenizer)
      (resolveBySettings provider settings document) := by
  by_cases enabled : settings.highlightingEnabled
  · simp only [resolveBySettings, enabled, ↓reduceIte]
    exact satisfiesM_resolve plain offers document
  · simp only [resolveBySettings, enabled, Bool.false_eq_true, ↓reduceIte]
    exact SatisfiesM.pure plain

theorem GrammarSet.providerOf_offers (set : GrammarSet) {tokenizer : Grammar → Tokenizer}
    (fits : ∀ grammar, Fits (tokenizer grammar)) :
    (set.providerOf tokenizer : Provider m).Offers Fits := by
  constructor
  · intro filename content
    refine (set.satisfiesM_byFilename tokenizer filename content).imp fun answered found same => ?_
    rw [← answered, Except.ok.injEq, Guess.map_eq_recognized_iff] at same
    obtain ⟨grammar, -, rfl⟩ := same
    exact fits grammar
  · intro content
    refine (set.satisfiesM_byContent tokenizer content).imp fun answered found same => ?_
    rw [← answered, Except.ok.injEq, Option.map_eq_some_iff] at same
    obtain ⟨grammar, -, rfl⟩ := same
    exact fits grammar

end Effects

end PageFilters
