import Mathlib
import PageFilters.Resolution

/-!
# What a document is settled on

`Settles` has one case for each way through the two questions of a resolution.
It does not say who is asked, and it knows the answers only as far as they are
known to be of some sort; a single answer is a sort too.  Whatever effects a
provider has, a document is settled on in one of these ways.
-/

namespace PageFilters

/-- The resolutions to which answers of some sort can lead.  The content is
asked about only behind `unclaimed` file names, and only where it opens with an
interpreter directive. -/
inductive Settles (document : Document)
    (ByFilename : Except Failure (Guess Tokenizer) → Prop)
    (ByContent : Except Failure (Option Tokenizer) → Prop) : Resolution → Prop where
  | named {tokenizer : Tokenizer}
      (claimed : ByFilename (.ok (.recognized tokenizer))) :
      Settles document ByFilename ByContent ⟨tokenizer, .filename⟩
  | ambiguous {candidates : List String}
      (contested : ByFilename (.ok (.ambiguous candidates))) :
      Settles document ByFilename ByContent (.fallback .ambiguous)
  | filenameFault {failure : Failure}
      (failed : ByFilename (.error failure)) :
      Settles document ByFilename ByContent (.fallback .providerFault)
  | unknown
      (unclaimed : ByFilename (.ok .notRecognized)) (bare : document.hasShebang = false) :
      Settles document ByFilename ByContent (.fallback .notRecognized)
  | directed {tokenizer : Tokenizer}
      (unclaimed : ByFilename (.ok .notRecognized)) (directive : document.hasShebang = true)
      (matched : ByContent (.ok (some tokenizer))) :
      Settles document ByFilename ByContent ⟨tokenizer, .shebang⟩
  | unmatched
      (unclaimed : ByFilename (.ok .notRecognized)) (directive : document.hasShebang = true)
      (silent : ByContent (.ok none)) :
      Settles document ByFilename ByContent (.fallback .noShebangMatch)
  | contentFault {failure : Failure}
      (unclaimed : ByFilename (.ok .notRecognized)) (directive : document.hasShebang = true)
      (failed : ByContent (.error failure)) :
      Settles document ByFilename ByContent (.fallback .providerFault)

section Effects

variable {m : Type → Type} [Monad m] [LawfulMonad m] [Logs m]
variable {provider : Provider m} {document : Document}
variable {ByFilename : Except Failure (Guess Tokenizer) → Prop}
variable {ByContent : Except Failure (Option Tokenizer) → Prop}

theorem satisfiesM_settles_byContent
    (contents : SatisfiesM ByContent (provider.byContent document.content))
    (unclaimed : ByFilename (.ok .notRecognized)) (directive : document.hasShebang = true) :
    SatisfiesM (Settles document ByFilename ByContent) (resolveByContent provider document) := by
  refine contents.bind fun answer known => ?_
  match answer with
  | .ok (some tokenizer) => exact SatisfiesM.pure (.directed unclaimed directive known)
  | .ok none => exact SatisfiesM.pure (.unmatched unclaimed directive known)
  | .error failure =>
      exact SatisfiesM.trivial.bind fun _ _ =>
        SatisfiesM.pure (.contentFault unclaimed directive known)

theorem satisfiesM_settles_guess {guess : Guess Tokenizer} (known : ByFilename (.ok guess))
    (contents : SatisfiesM ByContent (provider.byContent document.content)) :
    SatisfiesM (Settles document ByFilename ByContent) (resolveGuess provider document guess) := by
  cases guess with
  | recognized tokenizer => exact SatisfiesM.pure (.named known)
  | ambiguous candidates =>
      exact SatisfiesM.trivial.bind fun _ _ => SatisfiesM.pure (.ambiguous known)
  | notRecognized =>
      simp only [resolveGuess]
      split
      next directive => exact satisfiesM_settles_byContent contents known directive
      next bare =>
          exact SatisfiesM.pure (Settles.unknown known (Bool.eq_false_of_not_eq_true bare))

/-- A resolution ends in one of the ways that its answers leave open. -/
theorem satisfiesM_settles
    (names : SatisfiesM ByFilename (provider.byFilename document.filename document.content))
    (contents : SatisfiesM ByContent (provider.byContent document.content)) :
    SatisfiesM (Settles document ByFilename ByContent) (resolve provider document) := by
  refine names.bind fun answer known => ?_
  match answer with
  | .error failure =>
      exact SatisfiesM.trivial.bind fun _ _ => SatisfiesM.pure (.filenameFault known)
  | .ok guess =>
      refine (satisfiesM_settles_guess known contents).bind fun resolution settled => ?_
      exact SatisfiesM.trivial.bind fun _ _ => SatisfiesM.pure settled

end Effects

namespace Settles

variable {document : Document} {resolution : Resolution}

section AnySort

variable {ByFilename : Except Failure (Guess Tokenizer) → Prop}
variable {ByContent : Except Failure (Option Tokenizer) → Prop}

theorem eq_fallback (settled : Settles document ByFilename ByContent resolution)
    {reason : FallbackReason} (fallen : resolution.origin = .fallback reason) :
    resolution = .fallback reason := by
  cases settled with
  | named claimed => contradiction
  | directed unclaimed directive matched => contradiction
  | ambiguous contested => cases fallen; rfl
  | filenameFault failed => cases fallen; rfl
  | unknown unclaimed bare => cases fallen; rfl
  | unmatched unclaimed directive silent => cases fallen; rfl
  | contentFault unclaimed directive failed => cases fallen; rfl

/-- Only whoever switches highlighting off falls back without asking. -/
theorem ne_disabled (settled : Settles document ByFilename ByContent resolution) :
    resolution.origin ≠ .fallback .disabled := by
  cases settled <;> simp [Resolution.fallback]

end AnySort

section OneAnswer

variable {name : Except Failure (Guess Tokenizer)} {content : Except Failure (Option Tokenizer)}
variable (settled : Settles document (name = ·) (content = ·) resolution)

include settled

theorem eq_filename_iff {tokenizer : Tokenizer} :
    resolution = ⟨tokenizer, .filename⟩ ↔ name = .ok (.recognized tokenizer) := by
  cases settled <;> simp_all [Resolution.fallback]

theorem eq_shebang_iff {tokenizer : Tokenizer} :
    resolution = ⟨tokenizer, .shebang⟩ ↔
      name = .ok .notRecognized ∧ document.hasShebang = true ∧
        content = .ok (some tokenizer) := by
  cases settled <;> simp_all [Resolution.fallback]

theorem origin_eq_filename_iff :
    resolution.origin = .filename ↔ ∃ tokenizer, name = .ok (.recognized tokenizer) := by
  cases settled <;> simp_all [Resolution.fallback]

theorem origin_eq_shebang_iff :
    resolution.origin = .shebang ↔
      name = .ok .notRecognized ∧ document.hasShebang = true ∧
        ∃ tokenizer, content = .ok (some tokenizer) := by
  cases settled <;> simp_all [Resolution.fallback]

theorem origin_eq_notRecognized_iff :
    resolution.origin = .fallback .notRecognized ↔
      name = .ok .notRecognized ∧ document.hasShebang = false := by
  cases settled <;> simp_all [Resolution.fallback]

theorem origin_eq_noShebangMatch_iff :
    resolution.origin = .fallback .noShebangMatch ↔
      name = .ok .notRecognized ∧ document.hasShebang = true ∧ content = .ok none := by
  cases settled <;> simp_all [Resolution.fallback]

theorem origin_eq_ambiguous_iff :
    resolution.origin = .fallback .ambiguous ↔
      ∃ candidates, name = .ok (.ambiguous candidates) := by
  cases settled <;> simp_all [Resolution.fallback]

theorem origin_eq_providerFault_iff :
    resolution.origin = .fallback .providerFault ↔
      (∃ failure, name = .error failure) ∨
        name = .ok .notRecognized ∧ document.hasShebang = true ∧
          ∃ failure, content = .error failure := by
  cases settled <;> simp_all [Resolution.fallback]

end OneAnswer

end Settles

end PageFilters
