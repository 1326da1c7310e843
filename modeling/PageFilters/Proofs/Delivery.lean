import PageFilters.Filter
import PageFilters.Proofs.Outcome
import PageFilters.Proofs.Output

/-!
# Deliveries to a sink that fails

A delivery asks a sink to write one text after the other and then to flush; what
is refused ends it.  A sink with room for some octets therefore keeps that many
of the whole output, and its flush is asked for only if all of them fitted.
Both filters end in a delivery, and nothing they do before depends on the sink.
-/

namespace PageFilters

namespace Sink

/-- What a sink is asked to do. -/
inductive Request where
  | write (text : String)
  | flush
  deriving Repr, DecidableEq, Inhabited

/-- What a sink is asked to do while texts are delivered, and what the delivery
ends in. -/
inductive Delivers : Sink → List String → List Request → Except Failure Unit × Sink → Prop where
  | flushed (sink : Sink) : Delivers sink [] [.flush] (sink.flush, sink)
  | written {sink kept : Sink} {text : String} {texts : List String} {requests : List Request}
      {ending : Except Failure Unit × Sink} :
      sink.write (Text.encode text.toList) = (.ok (), kept) →
      Delivers kept texts requests ending →
      Delivers sink (text :: texts) (.write text :: requests) ending
  | refused {sink kept : Sink} {text : String} {texts : List String} {failure : Failure} :
      sink.write (Text.encode text.toList) = (.error failure, kept) →
      Delivers sink (text :: texts) [.write text] (.error failure, kept)

def requested (sink : Sink) : List String → List Request
  | [] => [.flush]
  | text :: texts =>
      match sink.write (Text.encode text.toList) with
      | (.ok (), sink) => .write text :: sink.requested texts
      | (.error _, _) => [.write text]

variable {sink : Sink} {texts : List String} {requests other : List Request}
  {ending : Except Failure Unit × Sink}

theorem delivers_deliver (sink : Sink) (texts : List String) :
    sink.Delivers texts (sink.requested texts) (sink.deliver texts) := by
  induction texts generalizing sink with
  | nil => exact .flushed sink
  | cons text texts induction =>
      cases outcome : sink.write (Text.encode text.toList) with
      | mk result kept =>
        cases result with
        | ok done =>
            simp only [deliver, requested, outcome]
            exact .written outcome (induction kept)
        | error failure =>
            simp only [deliver, requested, outcome]
            exact .refused outcome

theorem Delivers.eq_deliver (delivers : sink.Delivers texts requests ending) :
    ending = sink.deliver texts := by
  induction delivers with
  | flushed sink => rfl
  | written outcome _ induction => rw [induction, deliver, outcome]
  | refused outcome => rw [deliver, outcome]

/-- All texts are written and flushed, or they are written up to one that is
refused. -/
theorem Delivers.requests_eq (delivers : sink.Delivers texts requests ending) :
    (sink.Holds (Text.encodeAll texts) ∧ requests = texts.map .write ++ [.flush]) ∨
    (¬ sink.Holds (Text.encodeAll texts) ∧ ∃ count, requests = (texts.take count).map .write) := by
  induction delivers with
  | flushed sink => exact .inl ⟨holds_nil, rfl⟩
  | @written sink kept text texts requests ending outcome _ induction =>
      by_cases holds : sink.Holds (Text.encode text.toList)
      · rw [write_of_holds holds] at outcome
        cases outcome
        rw [Text.encodeAll_cons, holds_append_iff]
        rcases induction with ⟨rest, rfl⟩ | ⟨exceeded, count, rfl⟩
        · exact .inl ⟨⟨holds, rest⟩, rfl⟩
        · exact .inr ⟨fun all => exceeded all.2, count + 1, rfl⟩
      · rw [write_of_not_holds holds] at outcome
        cases outcome
  | @refused sink kept text texts failure outcome =>
      by_cases holds : sink.Holds (Text.encode text.toList)
      · rw [write_of_holds holds] at outcome
        cases outcome
      · rw [Text.encodeAll_cons, holds_append_iff]
        exact .inr ⟨fun all => holds all.1, 1, rfl⟩

theorem Delivers.flush_mem_iff (delivers : sink.Delivers texts requests ending) :
    .flush ∈ requests ↔ sink.Holds (Text.encodeAll texts) := by
  rcases delivers.requests_eq with ⟨holds, rfl⟩ | ⟨exceeded, count, rfl⟩
  · simp [holds]
  · simp only [exceeded, iff_false]
    intro member
    obtain ⟨text, -, isFlush⟩ := List.mem_map.mp member
    cases isFlush

theorem Delivers.requests_unique (delivers : sink.Delivers texts requests ending)
    {otherEnding : Except Failure Unit × Sink}
    (others : sink.Delivers texts other otherEnding) : requests = other := by
  induction delivers generalizing other with
  | flushed sink =>
      cases others
      rfl
  | written outcome _ induction =>
      cases others with
      | written otherOutcome delivers =>
          rw [outcome] at otherOutcome
          cases otherOutcome
          rw [induction delivers]
      | refused otherOutcome =>
          rw [outcome] at otherOutcome
          cases otherOutcome
  | refused outcome =>
      cases others with
      | written otherOutcome delivers =>
          rw [outcome] at otherOutcome
          cases otherOutcome
      | refused otherOutcome => rfl

/-- Delivers texts and, if that succeeds, results in a value. -/
def conclude {α : Type} (sink : Sink) (texts : List String) (value : α) :
    Except Failure α × Sink :=
  ((sink.deliver texts).1.map fun () => value, (sink.deliver texts).2)

theorem map_conclude {α : Type} (sink : Sink) (texts : List String) (value : α) :
    ((sink.conclude texts value).1.map fun _ => (), (sink.conclude texts value).2) =
      sink.deliver texts := by
  apply Prod.ext
  · exact Outcome.map_map_unit _ _
  · rfl

theorem conclude_unit (sink : Sink) (texts : List String) :
    sink.conclude texts () = sink.deliver texts := by
  apply Prod.ext
  · cases outcome : (sink.deliver texts).1 with
    | ok done => simp [conclude, outcome, Except.map]
    | error failure => simp [conclude, outcome, Except.map]
  · rfl

/-- A sink that takes some octets and then fails. -/
def failing (room : Nat) (fullReason : String) (flushReason : Option String) : Sink :=
  { limit := some room, fullReason, flushReason }

variable {room : Nat} {fullReason : String} {flushReason : Option String} {bytes : Text.Bytes}

theorem holds_failing_iff :
    (failing room fullReason flushReason).Holds bytes ↔ bytes.length ≤ room := by
  simp [Holds, failing]

theorem fitting_failing :
    (failing room fullReason flushReason).fitting bytes = bytes.take room := by
  simp [fitting, failing]

theorem deliver_failing (texts : List String) :
    (failing room fullReason flushReason).deliver texts =
      (if (Text.encodeAll texts).length ≤ room then
          (failing room fullReason flushReason).flush
        else .error (.transfer fullReason),
        (failing room fullReason flushReason).keep ((Text.encodeAll texts).take room)) := by
  rw [deliver_eq, fitting_failing]
  simp only [holds_failing_iff]
  rfl

theorem deliver_unlimited (texts : List String) :
    ({} : Sink).deliver texts = (.ok (), { written := Text.encodeAll texts }) := by
  have holds : ({} : Sink).Holds (Text.encodeAll texts) := holds_of_unlimited rfl
  rw [deliver_eq, if_pos holds, fitting_of_holds holds]
  rfl

theorem conclude_unlimited {α : Type} (texts : List String) (value : α) :
    ({} : Sink).conclude texts value = (.ok value, { written := Text.encodeAll texts }) := by
  rw [conclude, deliver_unlimited]
  rfl

theorem conclude_failing {α : Type} (texts : List String) (value : α) :
    (failing room fullReason flushReason).conclude texts value =
      (if (Text.encodeAll texts).length ≤ room then
          match flushReason with
          | none => .ok value
          | some reason => .error (.transfer reason)
        else .error (.transfer fullReason),
        (failing room fullReason flushReason).keep ((Text.encodeAll texts).take room)) := by
  rw [conclude, deliver_failing]
  apply Prod.ext
  · by_cases fits : (Text.encodeAll texts).length ≤ room
    · simp only [fits, if_true]
      cases flushReason with
      | none => rfl
      | some reason => rfl
    · simp only [fits, if_false]
      rfl
  · rfl

/-- How a call ends at a sink that fails, which it asks for `requests`, where it
ends in `full` at a sink without limit. -/
structure Curtails {α : Type} (room : Nat) (fullReason : String) (flushReason : Option String)
    (value : α) (full cut : Except Failure α × Sink) (requests : List Request) : Prop where
  complete : full.1 = .ok value
  written : cut.2.written = full.2.written.take room
  ok_iff : ∀ result, cut.1 = .ok result ↔
    result = value ∧ full.2.written.length ≤ room ∧ flushReason = none
  refused : room < full.2.written.length → cut.1 = .error (.transfer fullReason)
  unflushed : full.2.written.length ≤ room → ∀ reason, flushReason = some reason →
    cut.1 = .error (.transfer reason)
  asked : .flush ∈ requests ↔ full.2.written.length ≤ room

theorem curtails_conclude {α : Type} (texts : List String) (value : α)
    (delivers : (failing room fullReason flushReason).Delivers texts requests ending) :
    Curtails room fullReason flushReason value (({} : Sink).conclude texts value)
      ((failing room fullReason flushReason).conclude texts value) requests := by
  rw [conclude_unlimited, conclude_failing]
  constructor
  case complete => rfl
  case written => rfl
  case ok_iff =>
    intro result
    by_cases fits : (Text.encodeAll texts).length ≤ room
    · cases flushReason with
      | none => simp [fits, eq_comm]
      | some reason => simp [fits]
    · simp [fits]
  case refused =>
    intro exceeded
    exact if_neg (Nat.not_le_of_lt exceeded)
  case unflushed =>
    intro fits reason hindered
    subst hindered
    exact if_pos fits
  case asked => exact delivers.flush_mem_iff.trans holds_failing_iff

/-- The same call at a sink without limit and at a sink that fails: what it finds
and writes, and what either sink makes of it. -/
structure Curtailment (α : Type) (room : Nat) (fullReason : String)
    (flushReason : Option String) where
  value : α
  texts : List String
  requests : List Request
  full : Except Failure α × Sink
  cut : Except Failure α × Sink
  delivered : full = (.ok value, { written := Text.encodeAll texts })
  asked : ∀ other ending, (failing room fullReason flushReason).Delivers texts other ending ↔
    other = requests ∧ ending = (cut.1.map fun _ => (), cut.2)
  curtails : Curtails room fullReason flushReason value full cut requests

/-- What sinks make of the delivery of some texts. -/
def Curtailment.conclude {α : Type} (value : α) (texts : List String) :
    Curtailment α room fullReason flushReason where
  value := value
  texts := texts
  requests := (failing room fullReason flushReason).requested texts
  full := ({} : Sink).conclude texts value
  cut := (failing room fullReason flushReason).conclude texts value
  delivered := conclude_unlimited texts value
  asked := by
    intro other ending
    have delivers := delivers_deliver (failing room fullReason flushReason) texts
    rw [map_conclude]
    constructor
    · intro others
      exact ⟨others.requests_unique delivers, others.eq_deliver⟩
    · intro same
      obtain ⟨rfl, rfl⟩ := same
      exact delivers
  curtails := curtails_conclude texts value (delivers_deliver _ texts)

/-- Calls at a sink without limit and at a sink that fails have the same effects,
those of `found`, and what they end in goes together. -/
def Curtailed {m : Type → Type} [Monad m] {α : Type} (room : Nat) (fullReason : String)
    (flushReason : Option String) (found : m (α × List String))
    (call : Sink → m (Except Failure α × Sink)) : Prop :=
  ∃ both : m (Curtailment α room fullReason flushReason),
    (fun curtailment => (curtailment.value, curtailment.texts)) <$> both = found ∧
      (·.full) <$> both = call {} ∧
      (·.cut) <$> both = call (failing room fullReason flushReason)

theorem curtailed_of_conclude {m : Type → Type} [Monad m] [LawfulMonad m] {α : Type}
    {found : m (α × List String)} {call : Sink → m (Except Failure α × Sink)}
    (concludes : ∀ sink, call sink = (fun found => sink.conclude found.2 found.1) <$> found) :
    Curtailed room fullReason flushReason found call := by
  refine ⟨(fun pair => .conclude pair.1 pair.2) <$> found, ?_, ?_, ?_⟩
  · simp [Curtailment.conclude]
  · simp [Curtailment.conclude, concludes]
  · simp [Curtailment.conclude, concludes]

/-- In whatever state they begin, both calls leave the same state behind. -/
theorem Curtailed.run {σ α : Type} {found : StateM σ (α × List String)}
    {call : Sink → StateM σ (Except Failure α × Sink)}
    (curtailed : Curtailed room fullReason flushReason found call) (state : σ) :
    ∃ curtailment : Curtailment α room fullReason flushReason,
      (found.run state).1 = (curtailment.value, curtailment.texts) ∧
        ((call {}).run state).1 = curtailment.full ∧
        ((call (failing room fullReason flushReason)).run state).1 = curtailment.cut ∧
        ((call (failing room fullReason flushReason)).run state).2 = ((call {}).run state).2 := by
  obtain ⟨both, finds, whole, cut⟩ := curtailed
  rw [← finds, ← whole, ← cut]
  exact ⟨(both.run state).1, rfl, rfl, rfl, rfl⟩

end Sink

open Sink (failing)

/-- A call of either filter at a sink that fails has the effects of the call at a
sink without limit.  As much of the same output is kept as there is room for, and
the first failure is what the call ends in. -/
theorem filters_curtailed {m : Type → Type} [Monad m] [LawfulMonad m] [Logs m] (room : Nat)
    (fullReason : String) (flushReason : Option String) :
    (∀ (provider : Provider m) (settings : Settings) (sheets : StyleSheets) (filename : String)
        (input : Text.Bytes),
      let found : m (Origin × List String) := do
        let highlighted ← highlight provider settings sheets (Document.ofBytes filename input)
        Logs.tell (highlighted.event filename input.length)
        return (highlighted.origin, [highlighted.html])
      Sink.Curtailed room fullReason flushReason found
        (sourceFilter provider settings sheets filename input)) ∧
    ∀ (settings : Settings) (email : String) (page : Option String) (input : Text.Bytes),
      let text := String.ofList (Text.decodeLossy input)
      let line := Avatar.annotate email text settings.avatarBaseUrl settings.avatarSize
      let found : m (Unit × List String) := do
        Logs.tell (Avatar.event page)
        return ((), [line, "\n"])
      Sink.Curtailed room fullReason flushReason found
        (emailFilter settings email page input) := by
  constructor
  · intro provider settings sheets filename input found
    apply Sink.curtailed_of_conclude
    intro sink
    simp only [found, map_bind, map_pure]
    rfl
  · intro settings email page input text line found
    apply Sink.curtailed_of_conclude
    intro sink
    simp only [found, map_bind, map_pure, Sink.conclude_unit]
    rfl

/-- The line of an address without its line feed fits: it is kept, the line feed
is refused, and that the flush would fail as well is never found out.  The log is
the same. -/
theorem filters_curtailed_line :
    let input := Text.encode "Jané".toList
    let run (sink : Sink) : (Except Failure Unit × Sink) × List Log.Event :=
      (emailFilter (m := Logged) {} "jane@example.org" (some "log") input sink).run []
    let full := (run {}).1.2.written
    let cut := run (failing (full.length - 1) "no space left" (some "gone"))
    cut.1.1 = .error (.transfer "no space left") ∧
      cut.1.2.written = full.take (full.length - 1) ∧ cut.2 = (run {}).2 := by
  intro input run full cut
  obtain ⟨-, line⟩ :=
    filters_curtailed (m := Logged) (full.length - 1) "no space left" (some "gone")
  obtain ⟨curtailment, found, whole, curtailed, sameLog⟩ :=
    (line {} "jane@example.org" (some "log") input).run []
  change (run {}).1 = curtailment.full at whole
  change cut.1 = curtailment.cut at curtailed
  have texts := congrArg Prod.snd found
  change [_, "\n"] = curtailment.texts at texts
  have short : full.length - 1 < curtailment.full.2.written.length := by
    have feed : (Text.encodeAll ["\n"]).length = 1 := by decide
    have nonempty : 0 < curtailment.full.2.written.length := by
      rw [curtailment.delivered, ← texts, Text.encodeAll_cons, List.length_append, feed]
      omega
    rw [← whole] at nonempty ⊢
    exact Nat.sub_lt nonempty Nat.one_pos
  rw [curtailed]
  refine ⟨curtailment.curtails.refused short, ?_, sameLog⟩
  have written := curtailment.curtails.written
  rw [← whole] at written
  exact written

end PageFilters
