import PageFilters.Token

/-!
# Token lists up to their cuts

A token list says of each character which kind it has, and besides that where
it has been cut.  `markedChars` keeps only the former.  `runs` is the token list
without needless cuts: no token of it is empty, and neighbours of one kind have
been joined.  Two token lists have the same runs exactly when they mark the
same characters in the same way.
-/

namespace PageFilters.Token

def chars (tokens : List Token) : List Char :=
  tokens.flatMap fun token => token.text.toList

/-- The characters of tokens in order, each with the kind of its token. -/
def markedChars (tokens : List Token) : List (Char × TokenKind) :=
  tokens.flatMap fun token => token.text.toList.map (·, token.kind)

/-- Puts a token in front of runs. -/
def joinRun (token : Token) (runs : List Token) : List Token :=
  if token.text.isEmpty then runs
  else
    match runs with
    | [] => [token]
    | run :: later =>
        if token.kind = run.kind then ⟨token.kind, token.text ++ run.text⟩ :: later
        else token :: run :: later

/-- The longest runs of one kind in a token list; empty tokens do not count. -/
def runs (tokens : List Token) : List Token :=
  tokens.foldr joinRun []

@[simp] theorem chars_nil : chars [] = [] := rfl

@[simp] theorem chars_cons (token : Token) (tokens : List Token) :
    chars (token :: tokens) = token.text.toList ++ chars tokens := rfl

@[simp] theorem chars_append (front back : List Token) :
    chars (front ++ back) = chars front ++ chars back :=
  List.flatMap_append

@[simp] theorem markedChars_nil : markedChars [] = [] := rfl

@[simp] theorem markedChars_cons (token : Token) (tokens : List Token) :
    markedChars (token :: tokens) =
      token.text.toList.map (·, token.kind) ++ markedChars tokens := rfl

@[simp] theorem markedChars_append (front back : List Token) :
    markedChars (front ++ back) = markedChars front ++ markedChars back :=
  List.flatMap_append

theorem map_fst_markedChars (tokens : List Token) :
    (markedChars tokens).map Prod.fst = chars tokens := by
  induction tokens with
  | nil => rfl
  | cons token tokens induction => simp [induction, Function.comp_def]

@[simp] theorem joinRun_empty (kind : TokenKind) (runs : List Token) :
    joinRun ⟨kind, ""⟩ runs = runs := rfl

theorem markedChars_joinRun (token : Token) (runs : List Token) :
    markedChars (joinRun token runs) = markedChars (token :: runs) := by
  by_cases empty : token.text = ""
  · simp [joinRun, empty]
  · cases runs with
    | nil => simp [joinRun, empty]
    | cons run later =>
        by_cases same : token.kind = run.kind
        · simp [joinRun, empty, same]
        · simp [joinRun, empty, same]

theorem markedChars_runs (tokens : List Token) :
    markedChars (runs tokens) = markedChars tokens := by
  induction tokens with
  | nil => rfl
  | cons token tokens induction =>
      have step := markedChars_joinRun token (runs tokens)
      rw [markedChars_cons, induction] at step
      exact step

theorem joinRun_cut (kind : TokenKind) (front back : String) (runs : List Token) :
    joinRun ⟨kind, front ++ back⟩ runs = joinRun ⟨kind, front⟩ (joinRun ⟨kind, back⟩ runs) := by
  by_cases frontEmpty : front = ""
  · simp [frontEmpty]
  · by_cases backEmpty : back = ""
    · simp [backEmpty]
    · cases runs with
      | nil => simp [joinRun, frontEmpty, backEmpty]
      | cons run later =>
          by_cases same : kind = run.kind
          · simp [joinRun, frontEmpty, backEmpty, same, String.append_assoc]
          · simp [joinRun, frontEmpty, backEmpty, same]

/-- Puts one character with its kind in front of runs. -/
def joinChar (marked : Char × TokenKind) (runs : List Token) : List Token :=
  joinRun ⟨marked.2, String.singleton marked.1⟩ runs

theorem joinRun_eq_foldr (token : Token) (runs : List Token) :
    joinRun token runs = (token.text.toList.map (·, token.kind)).foldr joinChar runs := by
  obtain ⟨kind, text⟩ := token
  obtain ⟨chars, rfl⟩ := String.exists_eq_ofList text
  rw [String.toList_ofList]
  induction chars with
  | nil => rfl
  | cons char rest induction =>
      have first : String.ofList (char :: rest) = String.singleton char ++ String.ofList rest :=
        String.toList_inj.mp (by simp)
      rw [first, joinRun_cut, induction]
      rfl

theorem runs_eq_foldr (tokens : List Token) :
    runs tokens = (markedChars tokens).foldr joinChar [] := by
  induction tokens with
  | nil => rfl
  | cons token tokens induction =>
      rw [markedChars_cons, List.foldr_append, ← induction, ← joinRun_eq_foldr]
      rfl

theorem runs_eq_runs_iff {left right : List Token} :
    runs left = runs right ↔ markedChars left = markedChars right := by
  constructor
  · intro same
    rw [← markedChars_runs left, same, markedChars_runs]
  · intro same
    rw [runs_eq_foldr, same, ← runs_eq_foldr]

end PageFilters.Token
