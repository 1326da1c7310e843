import PageFilters.Proofs.Outcome
import PageFilters.Proofs.Toml.Keys
import PageFilters.Settings.Reading

/-!
# Settings field by field

A table describes settings if each field has what its key says, and the default
where the table has no such key.  Reading a table gives the settings that it
describes, and fails only if there are none.
-/

namespace PageFilters.Settings

open Toml (Entries Key Node)

def IsBoolean (node : Node) (value : Bool) : Prop :=
  ∃ span, node = .scalar (.boolean value) span

def IsString (node : Node) (value : String) : Prop :=
  ∃ span, node = .scalar (.string value) span

/-- The node is an integer of at most thirty-two bits, and not negative. -/
def IsNatural (node : Node) (value : UInt32) : Prop :=
  ∃ span, node = .scalar (.integer value.toNat) span

/-- The node is the name of a theme, or a table with an empty table under the
name and nothing else. -/
inductive IsTheme : Node → BundledTheme → Prop where
  | name {theme : BundledTheme} {span : Toml.Span} :
      IsTheme (.scalar (.string theme.name) span) theme
  | table {theme : BundledTheme} {key : Key} {outer inner : Toml.TableForm}
      {outerSpan innerSpan : Option Toml.Span} (named : key.text = theme.name) :
      IsTheme (.table outer outerSpan [(key, .table inner innerSpan [])]) theme

section Values

variable {node : Node}

theorem boolean_eq_ok_iff {value : Bool} : boolean node = .ok value ↔ IsBoolean node value := by
  unfold boolean IsBoolean
  split
  next found span => simp
  next other =>
    constructor
    · intro read
      contradiction
    · intro described
      obtain ⟨span, rfl⟩ := described
      exact absurd rfl (other value span)

theorem string_eq_ok_iff {value : String} : string node = .ok value ↔ IsString node value := by
  unfold string IsString
  split
  next found span => simp
  next other =>
    constructor
    · intro read
      contradiction
    · intro described
      obtain ⟨span, rfl⟩ := described
      exact absurd rfl (other value span)

theorem natural_eq_ok_iff {value : UInt32} : natural node = .ok value ↔ IsNatural node value := by
  unfold natural IsNatural
  split
  next found span =>
    have bounded : value.toNat < UInt32.size := value.toNat_lt
    split
    next range =>
      simp only [Bool.and_eq_true, decide_eq_true_eq] at range
      have small : found.toNat < UInt32.size := by omega
      have same : UInt32.ofNat found.toNat = value ↔ found = (value.toNat : Int) := by
        rw [← UInt32.toNat_inj, UInt32.toNat_ofNat_of_lt' small]
        omega
      simp [same]
    next range =>
      simp only [Bool.and_eq_true, decide_eq_true_eq] at range
      have other : found ≠ (value.toNat : Int) := by omega
      simp [other]
  next other =>
    constructor
    · intro read
      contradiction
    · intro described
      obtain ⟨span, rfl⟩ := described
      exact absurd rfl (other value.toNat span)

theorem ofName?_eq_some_iff {name : String} {theme : BundledTheme} :
    BundledTheme.ofName? name = some theme ↔ name = theme.name := by
  constructor
  · intro found
    have same := List.find?_some found
    simpa using (eq_of_beq same).symm
  · intro named
    subst named
    exact theme.ofName?_name

theorem themeNamed_eq_ok_iff {name : String} {span : Toml.Span} {value : BundledTheme} :
    themeNamed name span = .ok value ↔ name = value.name := by
  rw [← ofName?_eq_some_iff]
  unfold themeNamed
  split
  next found known => simp [known]
  next unknown => simp [unknown]

theorem emptyVariant_eq_ok_iff :
    emptyVariant node = .ok () ↔ ∃ form span, node = .table form span [] := by
  unfold emptyVariant
  split
  next form span => simp
  next form span entries filled =>
    constructor
    · intro read
      contradiction
    · intro empty
      obtain ⟨form, span, same⟩ := empty
      cases same
      exact absurd rfl filled
  next other _ =>
    constructor
    · intro read
      contradiction
    · intro empty
      obtain ⟨form, span, rfl⟩ := empty
      exact absurd rfl (other form span)

theorem theme_eq_ok_iff {value : BundledTheme} : theme node = .ok value ↔ IsTheme node value := by
  unfold theme
  split
  next name span =>
    rw [themeNamed_eq_ok_iff]
    constructor
    · intro named
      subst named
      exact .name
    · intro described
      cases described
      rfl
  next form span =>
    constructor
    · intro read
      contradiction
    · intro described
      cases described
  next form span key inner =>
    rw [Outcome.bind_eq_ok_iff]
    constructor
    · intro read
      obtain ⟨found, named, further⟩ := read
      obtain ⟨⟨⟩, empty, same⟩ := Outcome.bind_eq_ok_iff.mp further
      obtain ⟨innerForm, innerSpan, rfl⟩ := emptyVariant_eq_ok_iff.mp empty
      cases same
      exact .table (themeNamed_eq_ok_iff.mp named)
    · intro described
      cases described with
      | table named => exact ⟨value, themeNamed_eq_ok_iff.mpr named, rfl⟩
  next form span entries none one =>
    constructor
    · intro read
      contradiction
    · intro described
      cases described with
      | table named => exact absurd rfl (one _ _)
  next noName _ _ noTable =>
    constructor
    · intro read
      contradiction
    · intro described
      cases described with
      | name => exact absurd rfl (noName _ _)
      | table named => exact absurd rfl (noTable _ _ _)

end Values

/-- A field has what its key says, and what it had before where there is no such
key. -/
def Field {α : Type} (entries : Entries) (name : String) (Says : Node → α → Prop)
    (before value : α) : Prop :=
  (∀ entry ∈ entries, entry.1.text = name → Says entry.2 value) ∧
    ((∀ entry ∈ entries, entry.1.text ≠ name) → value = before)

/-- Each field has what its key says, and what it had at the start where there
is no such key. -/
structure Described (entries : Entries) (start settings : Settings) : Prop where
  highlightingEnabled : Field entries "highlighting_enabled" IsBoolean
    start.highlightingEnabled settings.highlightingEnabled
  lightTheme : Field entries "syntax_theme_light" IsTheme start.lightTheme settings.lightTheme
  darkTheme : Field entries "syntax_theme_dark" IsTheme start.darkTheme settings.darkTheme
  classPrefix : Field entries "class_prefix" IsString start.classPrefix settings.classPrefix
  avatarBaseUrl : Field entries "avatar_base_url" IsString
    start.avatarBaseUrl settings.avatarBaseUrl
  avatarSize : Field entries "avatar_size" IsNatural start.avatarSize settings.avatarSize

/-- What stands under a key, if it is there, is of the type that the field asks
for. -/
def FieldFits {α : Type} (entries : Entries) (name : String) (Says : Node → α → Prop) : Prop :=
  ∀ entry ∈ entries, entry.1.text = name → ∃ value, Says entry.2 value

/-- What stands under each key that is there is of the type of its field. -/
structure Fits (entries : Entries) : Prop where
  highlightingEnabled : FieldFits entries "highlighting_enabled" IsBoolean
  lightTheme : FieldFits entries "syntax_theme_light" IsTheme
  darkTheme : FieldFits entries "syntax_theme_dark" IsTheme
  classPrefix : FieldFits entries "class_prefix" IsString
  avatarBaseUrl : FieldFits entries "avatar_base_url" IsString
  avatarSize : FieldFits entries "avatar_size" IsNatural

/-- Two nodes say the same to every field. -/
structure Alike (left right : Node) : Prop where
  boolean : ∀ value, IsBoolean left value ↔ IsBoolean right value
  string : ∀ value, IsString left value ↔ IsString right value
  natural : ∀ value, IsNatural left value ↔ IsNatural right value
  theme : ∀ value, IsTheme left value ↔ IsTheme right value

/-- Whatever stands under a key on one side, its like stands there on the
other. -/
def SameUnder (name : String) (left right : Entries) : Prop :=
  (∀ entry ∈ left, entry.1.text = name →
      ∃ other ∈ right, other.1.text = name ∧ Alike entry.2 other.2) ∧
    ∀ other ∈ right, other.1.text = name →
      ∃ entry ∈ left, entry.1.text = name ∧ Alike entry.2 other.2

theorem Alike.symm {left right : Node} (alike : Alike left right) : Alike right left where
  boolean value := (alike.boolean value).symm
  string value := (alike.string value).symm
  natural value := (alike.natural value).symm
  theme value := (alike.theme value).symm

theorem SameUnder.symm {name : String} {left right : Entries} (same : SameUnder name left right) :
    SameUnder name right left := by
  constructor
  · intro other member named
    obtain ⟨entry, found, sameName, alike⟩ := same.2 other member named
    exact ⟨entry, found, sameName, alike.symm⟩
  · intro entry member named
    obtain ⟨other, found, sameName, alike⟩ := same.1 entry member named
    exact ⟨other, found, sameName, alike.symm⟩

def fieldNames : List String :=
  ["highlighting_enabled", "syntax_theme_light", "syntax_theme_dark", "class_prefix",
    "avatar_base_url", "avatar_size"]

section OneField

variable {α : Type} {entries rest : Entries} {entry : Key × Node} {name : String}
variable {Says : Node → α → Prop} {before value : α}

theorem field_of_absent (absent : ∀ entry ∈ entries, entry.1.text ≠ name) :
    Field entries name Says before value ↔ value = before := by
  constructor
  · intro field
    exact field.2 absent
  · intro same
    exact ⟨fun entry member named => absurd named (absent entry member), fun _ => same⟩

theorem field_singleton_iff :
    Field [entry] name Says before value ↔
      if entry.1.text = name then Says entry.2 value else value = before := by
  split
  next named => simp [Field, named]
  next other => simp [Field, other]

theorem field_cons_iff (distinct : Entries.Distinct (entry :: rest)) :
    Field (entry :: rest) name Says before value ↔
      ∃ between, Field [entry] name Says before between ∧
        Field rest name Says between value := by
  have fresh : ∀ other ∈ rest, other.1.text ≠ entry.1.text := by
    intro other member same
    have once := (List.nodup_cons.mp distinct).1
    exact once (List.mem_map.mpr ⟨other, member, same⟩)
  by_cases named : entry.1.text = name
  · have absent : ∀ other ∈ rest, other.1.text ≠ name := by
      rw [← named]
      exact fresh
    have behind (between : α) : Field rest name Says between value ↔ value = between :=
      field_of_absent absent
    simp only [field_singleton_iff, named, if_true, behind]
    constructor
    · intro field
      exact ⟨value, field.1 entry List.mem_cons_self named, rfl⟩
    · intro settled
      obtain ⟨between, said, rfl⟩ := settled
      refine ⟨fun other member same => ?_, fun none => ?_⟩
      · rcases List.mem_cons.mp member with rfl | later
        · exact said
        · exact absurd same (absent other later)
      · exact absurd named (none entry List.mem_cons_self)
  · simp [named, Field]

theorem exists_field_iff (distinct : entries.Distinct) :
    (∃ value, Field entries name Says before value) ↔ FieldFits entries name Says := by
  constructor
  · intro field
    obtain ⟨value, said, -⟩ := field
    intro entry member named
    exact ⟨value, said entry member named⟩
  · intro fits
    induction entries generalizing before with
    | nil => exact ⟨before, (field_of_absent (by simp)).mpr rfl⟩
    | cons entry rest induction =>
        have first : ∃ between, Field [entry] name Says before between := by
          simp only [field_singleton_iff]
          split
          next named => exact fits entry List.mem_cons_self named
          next => exact ⟨before, rfl⟩
        obtain ⟨between, said⟩ := first
        have behind : FieldFits rest name Says := fun other member =>
          fits other (List.mem_cons_of_mem entry member)
        have settled : ∃ value, Field rest name Says between value :=
          induction (List.nodup_cons.mp distinct).2 behind
        obtain ⟨value, last⟩ := settled
        exact ⟨value, (field_cons_iff distinct).mpr ⟨between, said, last⟩⟩

theorem Field.of_same {left right : Entries} (field : Field left name Says before value)
    (same : SameUnder name left right)
    (kept : ∀ {first second}, Alike first second → Says first value → Says second value) :
    Field right name Says before value := by
  obtain ⟨said, absent⟩ := field
  constructor
  · intro other member named
    obtain ⟨entry, found, sameName, alike⟩ := same.2 other member named
    exact kept alike (said entry found sameName)
  · intro none
    apply absent
    intro entry member named
    obtain ⟨other, found, sameName, -⟩ := same.1 entry member named
    exact none other found sameName

end OneField

section AllFields

variable {entries rest : Entries} {entry : Key × Node} {start settings : Settings}

theorem described_nil_iff : Described [] start settings ↔ settings = start := by
  have unchanged {α : Type} {name : String} {Says : Node → α → Prop} {before value : α} :
      Field [] name Says before value ↔ value = before :=
    field_of_absent (by simp)
  constructor
  · intro described
    obtain ⟨enabled, light, dark, classPrefix, baseUrl, size⟩ := described
    rw [unchanged] at enabled light dark classPrefix baseUrl size
    cases settings
    simp_all
  · intro same
    subst same
    constructor <;> exact unchanged.mpr rfl

theorem described_singleton_iff :
    Described [entry] start settings ↔
      (if entry.1.text = "highlighting_enabled" then
          IsBoolean entry.2 settings.highlightingEnabled
        else settings.highlightingEnabled = start.highlightingEnabled) ∧
      (if entry.1.text = "syntax_theme_light" then IsTheme entry.2 settings.lightTheme
        else settings.lightTheme = start.lightTheme) ∧
      (if entry.1.text = "syntax_theme_dark" then IsTheme entry.2 settings.darkTheme
        else settings.darkTheme = start.darkTheme) ∧
      (if entry.1.text = "class_prefix" then IsString entry.2 settings.classPrefix
        else settings.classPrefix = start.classPrefix) ∧
      (if entry.1.text = "avatar_base_url" then IsString entry.2 settings.avatarBaseUrl
        else settings.avatarBaseUrl = start.avatarBaseUrl) ∧
      (if entry.1.text = "avatar_size" then IsNatural entry.2 settings.avatarSize
        else settings.avatarSize = start.avatarSize) := by
  simp only [← field_singleton_iff]
  constructor
  · intro described
    obtain ⟨enabled, light, dark, classPrefix, baseUrl, size⟩ := described
    exact ⟨enabled, light, dark, classPrefix, baseUrl, size⟩
  · intro fields
    obtain ⟨enabled, light, dark, classPrefix, baseUrl, size⟩ := fields
    exact ⟨enabled, light, dark, classPrefix, baseUrl, size⟩

theorem setField_eq_ok_iff :
    start.setField entry.1.text entry.2 = .ok settings ↔ Described [entry] start settings := by
  rw [described_singleton_iff]
  obtain ⟨enabled, light, dark, classPrefix, baseUrl, size⟩ := settings
  cases start
  unfold setField
  -- In each case at most one field is another one than before.
  split
  all_goals
    simp only [Outcome.map_eq_ok_iff, boolean_eq_ok_iff, theme_eq_ok_iff, string_eq_ok_iff,
      natural_eq_ok_iff, Except.ok.injEq, mk.injEq]
    grind

theorem described_cons_iff (distinct : Entries.Distinct (entry :: rest)) :
    Described (entry :: rest) start settings ↔
      ∃ next, Described [entry] start next ∧ Described rest next settings := by
  constructor
  · intro described
    obtain ⟨enabled, light, dark, classPrefix, baseUrl, size⟩ := described
    obtain ⟨_, firstEnabled, restEnabled⟩ := (field_cons_iff distinct).mp enabled
    obtain ⟨_, firstLight, restLight⟩ := (field_cons_iff distinct).mp light
    obtain ⟨_, firstDark, restDark⟩ := (field_cons_iff distinct).mp dark
    obtain ⟨_, firstPrefix, restPrefix⟩ := (field_cons_iff distinct).mp classPrefix
    obtain ⟨_, firstBaseUrl, restBaseUrl⟩ := (field_cons_iff distinct).mp baseUrl
    obtain ⟨_, firstSize, restSize⟩ := (field_cons_iff distinct).mp size
    exact ⟨⟨_, _, _, _, _, _⟩,
      ⟨firstEnabled, firstLight, firstDark, firstPrefix, firstBaseUrl, firstSize⟩,
      ⟨restEnabled, restLight, restDark, restPrefix, restBaseUrl, restSize⟩⟩
  · intro settled
    obtain ⟨next, first, behind⟩ := settled
    exact {
      highlightingEnabled :=
        (field_cons_iff distinct).mpr ⟨_, first.highlightingEnabled, behind.highlightingEnabled⟩
      lightTheme := (field_cons_iff distinct).mpr ⟨_, first.lightTheme, behind.lightTheme⟩
      darkTheme := (field_cons_iff distinct).mpr ⟨_, first.darkTheme, behind.darkTheme⟩
      classPrefix := (field_cons_iff distinct).mpr ⟨_, first.classPrefix, behind.classPrefix⟩
      avatarBaseUrl :=
        (field_cons_iff distinct).mpr ⟨_, first.avatarBaseUrl, behind.avatarBaseUrl⟩
      avatarSize := (field_cons_iff distinct).mpr ⟨_, first.avatarSize, behind.avatarSize⟩ }

theorem foldlM_setEntry_eq_ok_iff (distinct : entries.Distinct) :
    entries.foldlM setEntry start = .ok settings ↔ Described entries start settings := by
  induction entries generalizing start with
  | nil =>
      rw [described_nil_iff]
      change Except.ok start = .ok settings ↔ _
      rw [Except.ok.injEq]
      exact eq_comm
  | cons entry rest induction =>
      have behind : Entries.Distinct rest := (List.nodup_cons.mp distinct).2
      rw [List.foldlM_cons, Outcome.bind_eq_ok_iff, described_cons_iff distinct]
      simp only [setEntry, Outcome.mapError_eq_ok_iff, setField_eq_ok_iff, induction behind]

theorem exists_described_iff (distinct : entries.Distinct) :
    (∃ settings, Described entries start settings) ↔ Fits entries := by
  constructor
  · intro described
    obtain ⟨settings, enabled, light, dark, classPrefix, baseUrl, size⟩ := described
    exact {
      highlightingEnabled := (exists_field_iff distinct).mp ⟨_, enabled⟩
      lightTheme := (exists_field_iff distinct).mp ⟨_, light⟩
      darkTheme := (exists_field_iff distinct).mp ⟨_, dark⟩
      classPrefix := (exists_field_iff distinct).mp ⟨_, classPrefix⟩
      avatarBaseUrl := (exists_field_iff distinct).mp ⟨_, baseUrl⟩
      avatarSize := (exists_field_iff distinct).mp ⟨_, size⟩ }
  · intro fits
    obtain ⟨enabled, light, dark, classPrefix, baseUrl, size⟩ := fits
    obtain ⟨_, enabled⟩ := (exists_field_iff distinct).mpr enabled
    obtain ⟨_, light⟩ := (exists_field_iff distinct).mpr light
    obtain ⟨_, dark⟩ := (exists_field_iff distinct).mpr dark
    obtain ⟨_, classPrefix⟩ := (exists_field_iff distinct).mpr classPrefix
    obtain ⟨_, baseUrl⟩ := (exists_field_iff distinct).mpr baseUrl
    obtain ⟨_, size⟩ := (exists_field_iff distinct).mpr size
    exact ⟨⟨_, _, _, _, _, _⟩, ⟨enabled, light, dark, classPrefix, baseUrl, size⟩⟩

theorem Described.of_same {left right : Entries} (described : Described left start settings)
    (same : ∀ name ∈ fieldNames, SameUnder name left right) :
    Described right start settings where
  highlightingEnabled := described.highlightingEnabled.of_same (same _ (by simp [fieldNames]))
    fun alike => (alike.boolean _).mp
  lightTheme := described.lightTheme.of_same (same _ (by simp [fieldNames]))
    fun alike => (alike.theme _).mp
  darkTheme := described.darkTheme.of_same (same _ (by simp [fieldNames]))
    fun alike => (alike.theme _).mp
  classPrefix := described.classPrefix.of_same (same _ (by simp [fieldNames]))
    fun alike => (alike.string _).mp
  avatarBaseUrl := described.avatarBaseUrl.of_same (same _ (by simp [fieldNames]))
    fun alike => (alike.string _).mp
  avatarSize := described.avatarSize.of_same (same _ (by simp [fieldNames]))
    fun alike => (alike.natural _).mp

/-- Neither the order of the entries nor any other key matters. -/
theorem described_congr {left right : Entries}
    (same : ∀ name ∈ fieldNames, SameUnder name left right) :
    Described left start settings ↔ Described right start settings := by
  constructor
  · intro described
    exact described.of_same same
  · intro described
    exact described.of_same fun name known => (same name known).symm

end AllFields

end PageFilters.Settings
