import PageFilters.Proofs.Highlight.Page
import PageFilters.Proofs.Resolution.Protocol

/-!
# Answers and effects

A provider that has one answer to every question leads to the pages of its
answers, whatever effects come with them.  The grammars of a set are such a
provider.
-/

namespace PageFilters

theorem Settles.unique {document : Document} {name : Except Failure (Guess Tokenizer)}
    {content : Except Failure (Option Tokenizer)} {left right : Resolution}
    (first : Settles document (name = ·) (content = ·) left)
    (second : Settles document (name = ·) (content = ·) right) : left = right := by
  cases first <;> cases second <;> simp_all

section Effects

variable {m : Type → Type} [Monad m] [LawfulMonad m] [Logs m]

theorem GrammarSet.providerOf_gives (set : GrammarSet) (tokenizer : Grammar → Tokenizer) :
    (set.providerOf tokenizer : Provider m).Gives (set.providerOf tokenizer) where
  byFilename filename content := by
    have alone := SatisfiesM_Id_eq.mp
      (set.satisfiesM_byFilename (m := Id) tokenizer filename content)
    exact (set.satisfiesM_byFilename tokenizer filename content).imp fun answered =>
      answered.symm.trans alone
  byContent content := (set.satisfiesM_byContent tokenizer content).imp Eq.symm

variable {provider : Provider m} {answers : Provider Id} (gives : provider.Gives answers)

include gives

theorem satisfiesM_eq_resolve (document : Document) :
    SatisfiesM (· = resolve answers document) (resolve provider document) := by
  have settled : SatisfiesM
      (Settles document (answers.byFilename document.filename document.content = ·)
        (answers.byContent document.content = ·)) (resolve provider document) := by
    apply satisfiesM_settles
    · exact (gives.byFilename document.filename document.content).imp Eq.symm
    · exact (gives.byContent document.content).imp Eq.symm
  exact settled.imp fun known => known.unique (settles_resolve answers document)

theorem satisfiesM_eq_resolveBySettings (settings : Settings) (document : Document) :
    SatisfiesM (· = resolveBySettings answers settings document)
      (resolveBySettings provider settings document) := by
  unfold resolveBySettings
  split
  next => exact satisfiesM_eq_resolve gives document
  next => exact SatisfiesM.pure rfl

theorem satisfiesM_eq_highlight (settings : Settings) (sheets : StyleSheets)
    (document : Document) :
    SatisfiesM (· = highlight answers settings sheets document)
      (highlight provider settings sheets document) := by
  have found := satisfiesM_eq_resolveBySettings gives settings document
  have alone := satisfiesM_highlight sheets
    (satisfiesM_eq_resolveBySettings answers.gives_self settings document)
  obtain ⟨_, rfl, same⟩ := SatisfiesM_Id_eq.mp alone
  refine (satisfiesM_highlight sheets found).imp ?_
  rintro page ⟨_, rfl, shown⟩
  exact shown.trans same.symm

end Effects

end PageFilters
