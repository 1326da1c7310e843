import PageFilters.Proofs.Registry.Claims

/-!
# Contenders

Of the grammars that claim a file only the first loaded one of each name is
considered.  `Contends` says so by positions in the load order.  `ranking` lists
the contenders with their positions in the order in which a guess looks at
them: those that claim the base name come first, and load order decides the
rest.  In front of that order stands the contender that is preferred when the
first line is silent.
-/

namespace PageFilters

namespace Grammar

/-- At a position of the load order stands a grammar that is the first of its
name among the eligible ones. -/
structure FirstAt (grammars : List Grammar) (eligible : Grammar → Prop) (position : Nat)
    (grammar : Grammar) : Prop where
  loaded : grammars[position]? = some grammar
  held : eligible grammar
  first : ∀ earlier < position, ∀ other, grammars[earlier]? = some other → eligible other →
    other.name ≠ grammar.name

def placed (eligible : Grammar → Bool) : List Grammar → List (Nat × Grammar)
  | [] => []
  | grammar :: rest =>
      let later := (placed eligible rest).map (Prod.map (· + 1) id)
      if eligible grammar then
        (0, grammar) :: later.filter fun placing => placing.2.name != grammar.name
      else later

variable {head grammar : Grammar} {grammars : List Grammar} {position : Nat}

section Placing

variable {eligible : Grammar → Prop}

theorem firstAt_cons_zero :
    FirstAt (head :: grammars) eligible 0 grammar ↔ grammar = head ∧ eligible head := by
  constructor
  · intro placing
    obtain rfl : head = grammar := Option.some.inj placing.loaded
    exact ⟨rfl, placing.held⟩
  · rintro ⟨rfl, held⟩
    exact ⟨rfl, held, fun _ below => absurd below (Nat.not_lt_zero _)⟩

theorem firstAt_cons_succ :
    FirstAt (head :: grammars) eligible (position + 1) grammar ↔
      FirstAt grammars eligible position grammar ∧ (eligible head → grammar.name ≠ head.name) := by
  constructor
  · intro placing
    refine ⟨⟨placing.loaded, placing.held, ?_⟩, ?_⟩
    · intro earlier below other loaded held
      exact placing.first (earlier + 1) (Nat.succ_lt_succ below) other loaded held
    · exact fun held => Ne.symm (placing.first 0 (Nat.succ_pos position) head rfl held)
  · rintro ⟨placing, differs⟩
    refine ⟨placing.loaded, placing.held, ?_⟩
    intro earlier below other loaded held
    cases earlier with
    | zero =>
        obtain rfl : head = other := Option.some.inj loaded
        exact Ne.symm (differs held)
    | succ earlier => exact placing.first earlier (Nat.lt_of_succ_lt_succ below) other loaded held

theorem FirstAt.grammar_eq {other : Grammar} (left : FirstAt grammars eligible position grammar)
    (right : FirstAt grammars eligible position other) : grammar = other :=
  Option.some.inj (left.loaded.symm.trans right.loaded)

end Placing

variable {eligible : Grammar → Bool}

theorem map_snd_placed (eligible : Grammar → Bool) (grammars : List Grammar) :
    (placed eligible grammars).map Prod.snd = firstOfEachName (grammars.filter eligible) := by
  induction grammars with
  | nil => rfl
  | cons head rest induction =>
      have shifted : ((placed eligible rest).map (Prod.map (· + 1) id)).map Prod.snd =
          firstOfEachName (rest.filter eligible) := by
        rw [List.map_map, ← induction]
        rfl
      by_cases held : eligible head = true
      · rw [placed, if_pos held, List.filter_cons_of_pos held, firstOfEachName, ← shifted,
          List.map_cons]
        congr 1
        exact (List.filter_map (f := Prod.snd)
          (p := fun other : Grammar => other.name != head.name)).symm
      · rw [placed, if_neg held, List.filter_cons_of_neg held, shifted]

theorem mem_placed_iff :
    (position, grammar) ∈ placed eligible grammars ↔
      FirstAt grammars (eligible · = true) position grammar := by
  induction grammars generalizing position with
  | nil =>
      constructor
      · intro member
        contradiction
      · intro placing
        have loaded := placing.loaded
        simp at loaded
  | cons head rest induction =>
      have shifted : (position, grammar) ∈ (placed eligible rest).map (Prod.map (· + 1) id) ↔
          ∃ behind, position = behind + 1 ∧
            FirstAt rest (eligible · = true) behind grammar := by
        simp only [List.mem_map, Prod.exists, Prod.map_apply, id_eq, Prod.mk.injEq, ← induction]
        constructor
        · rintro ⟨behind, other, member, rfl, rfl⟩
          exact ⟨behind, rfl, member⟩
        · rintro ⟨behind, rfl, member⟩
          exact ⟨behind, grammar, member, rfl, rfl⟩
      by_cases held : eligible head = true
      · rw [placed, if_pos held, List.mem_cons, List.mem_filter, shifted]
        cases position with
        | zero => simp [firstAt_cons_zero, held]
        | succ position => simp [firstAt_cons_succ, held]
      · rw [placed, if_neg held, shifted]
        cases position with
        | zero => simp [firstAt_cons_zero, held]
        | succ position => simp [firstAt_cons_succ, held]

theorem pairwise_placed (eligible : Grammar → Bool) (grammars : List Grammar) :
    (placed eligible grammars).Pairwise fun left right => left.1 < right.1 := by
  induction grammars with
  | nil => exact List.Pairwise.nil
  | cons head rest induction =>
      have later : ((placed eligible rest).map (Prod.map (· + 1) id)).Pairwise
          fun left right => left.1 < right.1 :=
        List.pairwise_map.mpr (induction.imp Nat.succ_lt_succ)
      by_cases held : eligible head = true
      · rw [placed, if_pos held]
        refine List.Pairwise.cons ?_ (later.filter _)
        intro placing member
        obtain ⟨behind, -, rfl⟩ := List.mem_map.mp (List.mem_filter.mp member).1
        exact Nat.succ_pos behind.1
      · rw [placed, if_neg held]
        exact later

/-- Of grammars in load order that all list the extension, the earliest one lists
it at the least index, and of those it is the one loaded first. -/
theorem exists_earliest {extension : Option String} {index : Nat × Grammar → Nat}
    {first : Nat × Grammar} {rest : List (Nat × Grammar)}
    (ordered : (first :: rest).Pairwise fun left right => left.1 < right.1)
    (ranked : ∀ placing ∈ first :: rest, placing.2.rank? extension = some (index placing)) :
    ∃ best ∈ first :: rest, earliest extension first.2 (rest.map Prod.snd) = best.2 ∧
      ∀ other ∈ first :: rest, index best < index other ∨
        index best = index other ∧ best.1 ≤ other.1 := by
  induction rest generalizing first with
  | nil => exact ⟨first, List.mem_cons_self, rfl, by simp⟩
  | cons second rest induction =>
      obtain ⟨firstBelow, secondOrdered⟩ := List.pairwise_cons.mp ordered
      obtain ⟨firstRanked, secondRanked⟩ := List.forall_mem_cons.mp ranked
      have below : first.1 < second.1 := firstBelow second List.mem_cons_self
      have step : earliest extension first.2 ((second :: rest).map Prod.snd) =
          earliest extension (if index second < index first then second.2 else first.2)
            (rest.map Prod.snd) := by
        simp [earliest, rankLess, firstRanked, secondRanked second List.mem_cons_self]
      rw [step]
      by_cases earlier : index second < index first
      · obtain ⟨best, member, same, least⟩ := induction secondOrdered secondRanked
        rw [if_pos earlier]
        refine ⟨best, List.mem_cons_of_mem first member, same, ?_⟩
        intro other listed
        rcases List.mem_cons.mp listed with rfl | behind
        · have leastSecond := least second List.mem_cons_self
          omega
        · exact least other behind
      · have withoutSecond : (first :: rest).Sublist (first :: second :: rest) :=
          (List.sublist_cons_self second rest).cons_cons first
        obtain ⟨best, member, same, least⟩ := induction (ordered.sublist withoutSecond)
          fun placing listed => ranked placing (withoutSecond.subset listed)
        rw [if_neg earlier]
        refine ⟨best, withoutSecond.subset member, same, ?_⟩
        intro other listed
        have leastFirst := least first List.mem_cons_self
        rcases List.mem_cons.mp listed with rfl | later
        · exact leastFirst
        · rcases List.mem_cons.mp later with rfl | behind
          · omega
          · exact least other (List.mem_cons_of_mem first behind)

def ClaimsBase (grammar : Grammar) (filename : String) : Prop :=
  ∃ base, FileName.base? filename = some base ∧ grammar.claimsName base = true

/-- At an index of its names a grammar lists the extension of a file. -/
def ListsExtension (grammar : Grammar) (filename : String) (index : Nat) : Prop :=
  ∃ base extension entry, FileName.base? filename = some base ∧
    FileName.extension? base = some extension ∧ grammar.claims[index]? = some entry ∧
    FileName.sameName entry extension = true

variable {filename base : String} (named : FileName.base? filename = some base)

include named

theorem claimsBase_iff : grammar.ClaimsBase filename ↔ grammar.claimsName base = true := by
  simp [ClaimsBase, named]

theorem not_claimsBase_iff :
    ¬ grammar.ClaimsBase filename ↔ (!grammar.claimsName base) = true := by
  simp [claimsBase_iff named]

/-- The rank is the least index at which the extension is listed. -/
theorem rank?_eq_some_iff {index : Nat} :
    grammar.rank? (FileName.extension? base) = some index ↔
      grammar.ListsExtension filename index ∧
        ∀ other, grammar.ListsExtension filename other → index ≤ other := by
  cases extended : FileName.extension? base with
  | none => simp [rank?, ListsExtension, named, extended]
  | some extension =>
      have lists : ∀ other, grammar.ListsExtension filename other ↔
          ∃ entry, grammar.claims[other]? = some entry ∧
            FileName.sameName entry extension = true := by
        intro other
        simp [ListsExtension, named, extended]
      simp only [lists]
      change grammar.claims.findIdx? _ = some index ↔ _
      rw [List.findIdx?_eq_some_iff_getElem]
      constructor
      · rintro ⟨inside, listed, before⟩
        refine ⟨⟨_, List.getElem?_eq_getElem inside, listed⟩, ?_⟩
        rintro other ⟨entry, found, same⟩
        obtain ⟨otherInside, rfl⟩ := List.getElem?_eq_some_iff.mp found
        exact Nat.le_of_not_lt fun below => before other below same
      · rintro ⟨⟨entry, found, same⟩, least⟩
        obtain ⟨inside, rfl⟩ := List.getElem?_eq_some_iff.mp found
        refine ⟨inside, same, ?_⟩
        intro other below listed
        have otherInside : other < grammar.claims.length := Nat.lt_trans below inside
        have atMost := least other ⟨_, List.getElem?_eq_getElem otherInside, listed⟩
        omega

end Grammar

namespace GrammarSet

/-- A grammar claims a file, and at its position it is the first one of its name
to do so. -/
def Contends (set : GrammarSet) (filename : String) : Nat → Grammar → Prop :=
  Grammar.FirstAt set.grammars (set.Claims filename)

/-- One contender is considered before another one. -/
def Precedes (filename : String) (left right : Nat × Grammar) : Prop :=
  left.2.ClaimsBase filename ∧ ¬ right.2.ClaimsBase filename ∨
    (left.2.ClaimsBase filename ↔ right.2.ClaimsBase filename) ∧ left.1 < right.1

/-- A list holds the contenders with their positions, in the order in which they
are considered. -/
structure Ranks (set : GrammarSet) (filename : String) (ranking : List (Nat × Grammar)) :
    Prop where
  mem_iff : ∀ position grammar,
    (position, grammar) ∈ ranking ↔ set.Contends filename position grammar
  ordered : ranking.Pairwise (Precedes filename)

def ranking (set : GrammarSet) (base : String) (extension : Option String) :
    List (Nat × Grammar) :=
  let found := Grammar.placed (fun grammar =>
    grammar.name != Tokenizer.plainName && grammar.claimsFile base extension) set.grammars
  found.filter (·.2.claimsName base) ++ found.filter (!·.2.claimsName base)

theorem map_snd_ranking (set : GrammarSet) (base : String) (extension : Option String) :
    (set.ranking base extension).map Prod.snd = set.candidates base extension := by
  simp only [ranking, candidates, List.map_append, ← Grammar.map_snd_placed, List.filter_map]
  rfl

variable {set : GrammarSet} {filename content base : String} {grammar : Grammar} {position : Nat}

section Named

variable (named : FileName.base? filename = some base)

include named

theorem contends_iff :
    set.Contends filename position grammar ↔
      Grammar.FirstAt set.grammars (fun grammar => (grammar.name != Tokenizer.plainName &&
        grammar.claimsFile base (FileName.extension? base)) = true) position grammar := by
  have claims : ∀ {place : Nat} {other : Grammar}, set.grammars[place]? = some other →
      (set.Claims filename other ↔ (other.name != Tokenizer.plainName &&
        other.claimsFile base (FileName.extension? base)) = true) := by
    intro place other loaded
    rw [claims_iff named, List.mem_filter]
    exact and_iff_right (List.mem_of_getElem? loaded)
  constructor
  · intro contends
    refine ⟨contends.loaded, (claims contends.loaded).mp contends.held, ?_⟩
    intro earlier below other loaded held
    exact contends.first earlier below other loaded ((claims loaded).mpr held)
  · intro placing
    refine ⟨placing.loaded, (claims placing.loaded).mpr placing.held, ?_⟩
    intro earlier below other loaded held
    exact placing.first earlier below other loaded ((claims loaded).mp held)

theorem mem_ranking_iff :
    (position, grammar) ∈ set.ranking base (FileName.extension? base) ↔
      set.Contends filename position grammar := by
  rw [contends_iff named, ← Grammar.mem_placed_iff, ranking]
  exact (List.filter_append_perm _ _).mem_iff

theorem ranks_ranking : set.Ranks filename (set.ranking base (FileName.extension? base)) where
  mem_iff _ _ := mem_ranking_iff named
  ordered := by
    have loaded := Grammar.pairwise_placed (fun grammar =>
      grammar.name != Tokenizer.plainName &&
        grammar.claimsFile base (FileName.extension? base)) set.grammars
    refine List.pairwise_append.mpr ⟨?_, ?_, ?_⟩
    · refine (loaded.filter _).imp_of_mem ?_
      intro left right leftKept rightKept below
      have leftClaims := (Grammar.claimsBase_iff named).mpr (List.mem_filter.mp leftKept).2
      have rightClaims := (Grammar.claimsBase_iff named).mpr (List.mem_filter.mp rightKept).2
      exact Or.inr ⟨iff_of_true leftClaims rightClaims, below⟩
    · refine (loaded.filter _).imp_of_mem ?_
      intro left right leftKept rightKept below
      have leftOther := (Grammar.not_claimsBase_iff named).mpr (List.mem_filter.mp leftKept).2
      have rightOther := (Grammar.not_claimsBase_iff named).mpr (List.mem_filter.mp rightKept).2
      exact Or.inr ⟨iff_of_false leftOther rightOther, below⟩
    · intro left leftKept right rightKept
      have leftClaims := (Grammar.claimsBase_iff named).mpr (List.mem_filter.mp leftKept).2
      have rightOther := (Grammar.not_claimsBase_iff named).mpr (List.mem_filter.mp rightKept).2
      exact Or.inl ⟨leftClaims, rightOther⟩

theorem mem_candidates_iff :
    grammar ∈ set.candidates base (FileName.extension? base) ↔
      ∃ position, set.Contends filename position grammar := by
  rw [← map_snd_ranking, List.mem_map]
  constructor
  · rintro ⟨⟨position, _⟩, listed, rfl⟩
    exact ⟨position, (mem_ranking_iff named).mp listed⟩
  · rintro ⟨position, contends⟩
    exact ⟨(position, grammar), (mem_ranking_iff named).mpr contends, rfl⟩

/-- Whatever claims a file has a contender of its name in front of it, unless it
is one itself. -/
theorem Claims.exists_contender (claimed : set.Claims filename grammar) :
    ∃ position contender, set.Contends filename position contender ∧
      contender.name = grammar.name := by
  obtain ⟨contender, listed, same⟩ := claimed.exists_candidate named
  obtain ⟨position, contends⟩ := (mem_candidates_iff named).mp listed
  exact ⟨position, contender, contends, same⟩

end Named

namespace Ranks

variable {first : Nat × Grammar} {rest : List (Nat × Grammar)}

theorem contends_first (ranks : set.Ranks filename (first :: rest)) :
    set.Contends filename first.1 first.2 :=
  (ranks.mem_iff first.1 first.2).mp List.mem_cons_self

/-- If any contender claims the base name, then the one considered first does,
and it is the first loaded one of those. -/
theorem first_of_claimsBase (ranks : set.Ranks filename (first :: rest))
    (contends : set.Contends filename position grammar) (claims : grammar.ClaimsBase filename) :
    first.2.ClaimsBase filename ∧ first.1 ≤ position := by
  rcases List.mem_cons.mp ((ranks.mem_iff position grammar).mpr contends) with rfl | behind
  · exact ⟨claims, Nat.le_refl _⟩
  · rcases List.rel_of_pairwise_cons ranks.ordered behind with ⟨-, other⟩ | ⟨same, below⟩
    · exact absurd claims other
    · exact ⟨same.mpr claims, Nat.le_of_lt below⟩

/-- Contenders none of which claims the base name are considered in load
order. -/
theorem pairwise_of_not_claimsBase {ranking : List (Nat × Grammar)}
    (ranks : set.Ranks filename ranking)
    (extended : ∀ position grammar, set.Contends filename position grammar →
      ¬ grammar.ClaimsBase filename) :
    ranking.Pairwise fun left right => left.1 < right.1 := by
  refine ranks.ordered.imp_of_mem ?_
  intro left right member _ precedes
  rcases precedes with ⟨claims, -⟩ | ⟨-, below⟩
  · exact absurd claims (extended left.1 left.2 ((ranks.mem_iff left.1 left.2).mp member))
  · exact below

end Ranks

/-- A contender that does not claim the base name lists the extension. -/
theorem Contends.exists_rank (named : FileName.base? filename = some base)
    (contends : set.Contends filename position grammar)
    (extended : ¬ grammar.ClaimsBase filename) :
    ∃ index, grammar.rank? (FileName.extension? base) = some index := by
  obtain ⟨-, -, base', named', claims⟩ := contends.held
  obtain rfl : base = base' := Option.some.inj (named.symm.trans named')
  rcases claims with claims | ⟨extension, present, claims⟩
  · exact absurd ((Grammar.claimsBase_iff named).mpr claims) extended
  · rw [Grammar.claimsName, List.any_eq_true] at claims
    have found : (grammar.claims.findIdx? (FileName.sameName · extension)).isSome :=
      List.findIdx?_isSome.trans (List.any_eq_true.mpr claims)
    rw [present]
    exact Option.isSome_iff_exists.mp found

/-- The contender that lists the extension at the least index, and of several
the first loaded one, is preferred where none claims the base name. -/
theorem Ranks.exists_preferred (named : FileName.base? filename = some base)
    {first : Nat × Grammar} {rest : List (Nat × Grammar)}
    (ranks : set.Ranks filename (first :: rest))
    (extended : ∀ position grammar, set.Contends filename position grammar →
      ¬ grammar.ClaimsBase filename) :
    ∃ position grammar index, set.Contends filename position grammar ∧
      grammar.ListsExtension filename index ∧
      (∀ other contender otherIndex, set.Contends filename other contender →
        contender.ListsExtension filename otherIndex →
        index < otherIndex ∨ index = otherIndex ∧ position ≤ other) ∧
      preferred base (FileName.extension? base) first.2 (rest.map Prod.snd) = grammar := by
  let index (placing : Nat × Grammar) : Nat :=
    (placing.2.rank? (FileName.extension? base)).getD 0
  have ranked : ∀ placing ∈ first :: rest,
      placing.2.rank? (FileName.extension? base) = some (index placing) := by
    intro placing member
    have contends := (ranks.mem_iff placing.1 placing.2).mp member
    obtain ⟨found, same⟩ := contends.exists_rank named (extended _ _ contends)
    simp [index, same]
  have firstExtended : ¬ first.2.claimsName base = true := fun claims =>
    extended _ _ ranks.contends_first ((Grammar.claimsBase_iff named).mpr claims)
  obtain ⟨best, member, same, least⟩ :=
    Grammar.exists_earliest (ranks.pairwise_of_not_claimsBase extended) ranked
  refine ⟨best.1, best.2, index best, (ranks.mem_iff best.1 best.2).mp member, ?_, ?_, ?_⟩
  · exact ((Grammar.rank?_eq_some_iff named).mp (ranked best member)).1
  · intro other contender otherIndex contends lists
    have listed := (ranks.mem_iff other contender).mpr contends
    have atMost := ((Grammar.rank?_eq_some_iff named).mp (ranked _ listed)).2 otherIndex lists
    have before := least (other, contender) listed
    dsimp only at before
    omega
  · rw [preferred, if_neg firstExtended, same]

end GrammarSet

end PageFilters
