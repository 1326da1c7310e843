import Mathlib
import PageFilters.Proofs.Settings.Fields
import PageFilters.Proofs.Text.Utf8
import PageFilters.Settings.File

/-!
# All of a settings file or nothing

A settings file counts if it is a text, the text is a document, and the document
fits field by field.  Then it sets what it says and leaves the rest at the
defaults; in every other case all fields have their defaults.
-/

namespace PageFilters.Settings

section OneFile

variable {text : List Char} {bytes : Text.Bytes} {settings : Settings}

theorem ofEntries_eq_ok_iff {entries : Toml.Entries} (distinct : entries.Distinct) :
    ofEntries entries = .ok settings ↔ Described entries {} settings :=
  foldlM_setEntry_eq_ok_iff distinct

theorem ofText_eq_ok_iff :
    ofText text = .ok settings ↔
      ∃ entries, Toml.parse? text = some entries ∧ Described entries {} settings := by
  unfold ofText
  split
  next malformed => simp [malformed]
  next entries parsed =>
    rw [Outcome.mapError_eq_ok_iff, ofEntries_eq_ok_iff (Toml.distinct_parse? parsed)]
    simp [parsed]

theorem ofFile_present_eq_ok_iff :
    ofFile (.present bytes) = .ok (some settings) ↔
      ∃ text entries, bytes = Text.encode text ∧ Toml.parse? text = some entries ∧
        Described entries {} settings := by
  simp only [ofFile, ← Text.decode?_eq_some_iff]
  split
  next undecoded => simp [undecoded]
  next text decoded =>
    rw [Outcome.map_eq_ok_iff]
    simp [decoded, ofText_eq_ok_iff]

theorem ofFile_present_ne_none : ofFile (.present bytes) ≠ .ok none := by
  simp only [ofFile]
  split
  next => simp
  next text decoded =>
    rw [ne_eq, Outcome.map_eq_ok_iff]
    simp

/-- A file has settings if what its document says under each key fits. -/
theorem exists_ofFile_present_iff :
    (∃ found, ofFile (.present bytes) = .ok found) ↔
      ∃ text entries, bytes = Text.encode text ∧ Toml.parse? text = some entries ∧
        Fits entries := by
  constructor
  · intro loaded
    obtain ⟨found, loaded⟩ := loaded
    cases found with
    | none => exact absurd loaded ofFile_present_ne_none
    | some settings =>
        obtain ⟨text, entries, encoded, parsed, described⟩ := ofFile_present_eq_ok_iff.mp loaded
        have distinct := Toml.distinct_parse? parsed
        exact ⟨text, entries, encoded, parsed,
          (exists_described_iff distinct).mp ⟨settings, described⟩⟩
  · intro fitting
    obtain ⟨text, entries, encoded, parsed, fits⟩ := fitting
    have distinct := Toml.distinct_parse? parsed
    obtain ⟨settings, described⟩ := (exists_described_iff distinct).mpr fits
    exact ⟨some settings, ofFile_present_eq_ok_iff.mpr ⟨text, entries, encoded, parsed, described⟩⟩

end OneFile

theorem ofFileOrDefault_of_ok {file : FileState} {settings : Settings}
    (loaded : ofFile file = .ok (some settings)) : ofFileOrDefault file = settings := by
  simp only [ofFileOrDefault, loaded]

theorem ofFileOrDefault_of_ne_ok {file : FileState}
    (refused : ∀ settings, ofFile file ≠ .ok (some settings)) : ofFileOrDefault file = {} := by
  unfold ofFileOrDefault
  split
  next settings loaded => exact absurd loaded (refused settings)
  next => rfl

section Effects

variable {m : Type → Type} [Monad m] [LawfulMonad m] [Logs m]

theorem satisfiesM_load (path : String) (file : FileState) :
    SatisfiesM (· = ofFileOrDefault file) (load path file : m Settings) := by
  unfold load
  split
  next failure refused => exact SatisfiesM.trivial.bind fun _ _ => SatisfiesM.pure rfl
  next => exact SatisfiesM.pure rfl

end Effects

/-- A settings file is loaded exactly if it is UTF-8 and a document in which
whatever stands under one of the six keys is of its type.  Each field is then
what its key says, or the default; other keys, the order of the entries and the
way they are written make no difference.  Where no settings are loaded all
fields have their defaults, whatever else the file says. -/
theorem load_fieldwise :
    (∀ bytes : Text.Bytes,
      ((∃ found, ofFile (.present bytes) = .ok found) ↔
        ∃ text entries, bytes = Text.encode text ∧ Toml.parse? text = some entries ∧
          Fits entries) ∧
      ofFile (.present bytes) ≠ .ok none ∧
      ∀ settings, ofFile (.present bytes) = .ok (some settings) ↔
        ∃ text entries, bytes = Text.encode text ∧ Toml.parse? text = some entries ∧
          Described entries {} settings) ∧
    (∀ (left right : List Char) (leftEntries rightEntries : Toml.Entries),
      Toml.parse? left = some leftEntries → Toml.parse? right = some rightEntries →
        (∀ name ∈ fieldNames, SameUnder name leftEntries rightEntries) →
          ∀ settings, ofFile (.present (Text.encode left)) = .ok (some settings) ↔
            ofFile (.present (Text.encode right)) = .ok (some settings)) ∧
    ofFile .missing = .ok none ∧
    (∀ reason, ofFile (.unreadable reason) = .error (.transfer reason)) ∧
    ∀ {m : Type → Type} [Monad m] [LawfulMonad m] [Logs m] (path : String) (file : FileState),
      SatisfiesM
        (fun loaded =>
          (∀ settings, ofFile file = .ok (some settings) → loaded = settings) ∧
            ((∀ settings, ofFile file ≠ .ok (some settings)) → loaded = {}))
        (load path file : m Settings) := by
  refine ⟨fun bytes => ?_, ?_, rfl, fun reason => rfl, ?_⟩
  · exact ⟨exists_ofFile_present_iff, ofFile_present_ne_none,
      fun settings => ofFile_present_eq_ok_iff⟩
  · intro left right leftEntries rightEntries leftParsed rightParsed same settings
    have loaded (text : List Char) (entries : Toml.Entries)
        (parsed : Toml.parse? text = some entries) :
        ofFile (.present (Text.encode text)) = .ok (some settings) ↔
          Described entries {} settings := by
      simp only [ofFile, Text.decode?_encode]
      rw [Outcome.map_eq_ok_iff]
      simp [ofText_eq_ok_iff, parsed]
    rw [loaded left leftEntries leftParsed, loaded right rightEntries rightParsed]
    exact described_congr same
  · intro m _ _ _ path file
    refine (satisfiesM_load path file).imp ?_
    rintro settings rfl
    exact ⟨fun settings loaded => ofFileOrDefault_of_ok loaded, ofFileOrDefault_of_ne_ok⟩

/-- A size below zero costs a file the class prefix, too, which is in good
order. -/
theorem load_fieldwise_negative :
    let file (size : String) : FileState :=
      .present (Text.encode ("class_prefix = 'x-'\navatar_size = " ++ size).toList)
    (¬ ∃ found, ofFile (file "-1") = .ok found) ∧
      (load "settings.toml" (file "-1") : Id Settings) = {} ∧
      (load "settings.toml" (file "20") : Id Settings) =
        { classPrefix := "x-", avatarSize := 20 } := by
  intro file
  obtain ⟨-, -, -, -, loads⟩ := load_fieldwise
  have failed : (ofFile (file "-1")).toOption = none := by decide +kernel
  have refused : ¬ ∃ found, ofFile (file "-1") = .ok found := by
    intro succeeded
    obtain ⟨found, loaded⟩ := succeeded
    rw [loaded] at failed
    contradiction
  have accepted : ofFile (file "20") = .ok (some { classPrefix := "x-", avatarSize := 20 }) := by
    decide +kernel
  have small := SatisfiesM_Id_eq.mp (loads (m := Id) "settings.toml" (file "-1"))
  have large := SatisfiesM_Id_eq.mp (loads (m := Id) "settings.toml" (file "20"))
  refine ⟨refused, ?_, large.1 _ accepted⟩
  exact small.2 fun settings found => refused ⟨some settings, found⟩

end PageFilters.Settings
