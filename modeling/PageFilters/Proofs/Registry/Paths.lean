import PageFilters.Proofs.FileName
import PageFilters.Proofs.Registry.Guesses

/-!
# Paths to one base name

A guess is told from the base name alone, and claims are compared without regard
to the case of ASCII letters.  So neither the directories in front of a file nor
the case in which its name is written have a say in its grammar.
-/

namespace PageFilters

namespace Grammar

theorem claimsName_toLower (grammar : Grammar) (name : String) :
    grammar.claimsName name.toLower = grammar.claimsName name := by
  unfold claimsName
  simp only [FileName.sameName_toLower]

theorem claimsFile_toLower (grammar : Grammar) (base : String) (extension : Option String) :
    grammar.claimsFile base.toLower (extension.map String.toLower) =
      grammar.claimsFile base extension := by
  unfold claimsFile
  rw [claimsName_toLower, Option.any_map]
  congr 2
  funext name
  apply claimsName_toLower

theorem rank?_toLower (grammar : Grammar) (extension : Option String) :
    grammar.rank? (extension.map String.toLower) = grammar.rank? extension := by
  cases extension with
  | none => rfl
  | some extension =>
      change grammar.claims.findIdx? _ = grammar.claims.findIdx? _
      simp only [FileName.sameName_toLower]

theorem earliest_toLower (extension : Option String) (first : Grammar) (rest : List Grammar) :
    earliest (extension.map String.toLower) first rest = earliest extension first rest := by
  unfold earliest
  simp only [rank?_toLower]

end Grammar

namespace GrammarSet

theorem candidates_toLower (set : GrammarSet) (base : String) (extension : Option String) :
    set.candidates base.toLower (extension.map String.toLower) =
      set.candidates base extension := by
  unfold candidates
  simp only [Grammar.claimsFile_toLower, Grammar.claimsName_toLower]

theorem preferred_toLower (base : String) (extension : Option String) (first : Grammar)
    (rest : List Grammar) :
    preferred base.toLower (extension.map String.toLower) first rest =
      preferred base extension first rest := by
  unfold preferred
  rw [Grammar.claimsName_toLower, Grammar.earliest_toLower]

theorem guess_toLower (set : GrammarSet) (filename content : String) :
    set.guess filename.toLower content = set.guess filename content := by
  unfold guess
  rw [FileName.base?_toLower]
  cases FileName.base? filename with
  | none => rfl
  | some base =>
      simp only [Option.map_some, FileName.extension?_toLower, candidates_toLower,
        preferred_toLower]

variable {set : GrammarSet} {filename other : String}

/-- Of a file name only the base name is looked at. -/
theorem guess_congr (same : FileName.base? other = FileName.base? filename) (content : String) :
    set.guess other content = set.guess filename content := by
  unfold guess
  rw [same]

theorem guess_recased (recased : FileName.Recased filename other) (content : String) :
    set.guess other content = set.guess filename content := by
  rw [← guess_toLower, recased.toLower_eq, guess_toLower]

end GrammarSet

open GrammarSet

/-- A file that has a base name is guessed to be the same, and so are the names
of its candidates and their order, whatever directory it stands in and whatever
case the ASCII letters of its name are in. -/
theorem byFilename_of_base_name {m : Type → Type} [Monad m] [LawfulMonad m] [Logs m]
    (set : GrammarSet) (content : String) {filename other : String}
    (named : (FileName.base? filename).isSome) (recased : FileName.Recased filename other)
    (directory : String) :
    set.guess other content = set.guess filename content ∧
      set.guess (directory ++ "/" ++ other) content = set.guess filename content ∧
      ∀ path ∈ [filename, other, directory ++ "/" ++ other],
        SatisfiesM (· = .ok ((set.guess filename content).map set.tokenizer))
          ((set.provider : Provider m).byFilename path content) := by
  have otherNamed : (FileName.base? other).isSome := by
    have lowered := congrArg FileName.base? recased.toLower_eq
    rw [FileName.base?_toLower, FileName.base?_toLower] at lowered
    rw [← Option.isSome_map (f := String.toLower), lowered, Option.isSome_map, named]
  have plain : set.guess other content = set.guess filename content :=
    guess_recased recased content
  have below : set.guess (directory ++ "/" ++ other) content = set.guess filename content := by
    rw [guess_congr (FileName.base?_append directory otherNamed), plain]
  refine ⟨plain, below, ?_⟩
  intro path listed
  have guessed : set.guess path content = set.guess filename content := by
    simp only [List.mem_cons, List.not_mem_nil, or_false] at listed
    rcases listed with rfl | rfl | rfl
    · rfl
    · exact plain
    · exact below
  rw [← guessed]
  exact (set.satisfiesM_byFilename set.tokenizer path content).imp Eq.symm

/-- A header below a parent directory, written in capitals and with a slash and a
dot behind it, is still taken for C. -/
theorem byFilename_of_base_name_header :
    LawfulMonad Id ∧ (FileName.base? "x.h/.").isSome ∧ FileName.Recased "x.h/." "X.H/." ∧
      ∃ grammar, headers.grammars[1]? = some grammar ∧
        (headers.provider : Provider Id).byFilename ("src/.." ++ "/" ++ "X.H/.") "" =
          .ok (.recognized (headers.tokenizer grammar)) := by
  have named : FileName.base? "x.h/." = some "x.h" := by decide +kernel
  have present : (FileName.base? "x.h/.").isSome := by
    rw [named]
    rfl
  have recased : FileName.Recased "x.h/." "X.H/." := by
    simp [FileName.Recased]
  obtain ⟨-, -, answered⟩ := byFilename_of_base_name (m := Id) headers "" present recased "src/.."
  have answer := SatisfiesM_Id_eq.mp (answered ("src/.." ++ "/" ++ "X.H/.") (by simp))
  have found : headers.candidates "x.h" (FileName.extension? "x.h") = headers.grammars := rfl
  have silent := hint?_eq_none_iff.mp (rfl : headers.hint? "" = none)
  rw [guess_of_silent named found silent] at answer
  exact ⟨inferInstance, present, recased, _, rfl, answer⟩

end PageFilters
