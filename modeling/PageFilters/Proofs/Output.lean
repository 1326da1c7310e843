import PageFilters.Output

/-!
# What a sink takes

Texts that are delivered one after the other are taken as if they were one: the
sink takes as much of them as it has room for, and the delivery succeeds if that
is all of them and the flush is not refused.
-/

namespace PageFilters

def Text.encodeAll (texts : List String) : Bytes :=
  encode (texts.flatMap String.toList)

theorem Text.encodeAll_cons (text : String) (texts : List String) :
    encodeAll (text :: texts) = encode text.toList ++ encodeAll texts :=
  encode_append text.toList (texts.flatMap String.toList)

namespace Sink

/-- There is room for all of the octets. -/
def Holds (sink : Sink) (bytes : Text.Bytes) : Prop :=
  ∀ limit ∈ sink.limit, bytes.length ≤ limit - sink.written.length

instance (sink : Sink) (bytes : Text.Bytes) : Decidable (sink.Holds bytes) :=
  inferInstanceAs (Decidable (∀ limit ∈ sink.limit, _))

/-- All of the octets are taken, and the flush is not refused. -/
def Accepts (sink : Sink) (bytes : Text.Bytes) : Prop :=
  sink.Holds bytes ∧ sink.flushReason = none

def keep (sink : Sink) (taken : Text.Bytes) : Sink :=
  { sink with written := sink.written ++ taken }

variable {sink : Sink} {bytes front behind : Text.Bytes}

theorem fitting_of_holds (holds : sink.Holds bytes) : sink.fitting bytes = bytes := by
  unfold fitting
  split
  next => rfl
  next limit limited => exact List.take_of_length_le (holds limit limited)

theorem length_fitting_lt_iff :
    (sink.fitting bytes).length < bytes.length ↔ ¬ sink.Holds bytes := by
  unfold fitting Holds
  split
  next unlimited => simp [unlimited]
  next limit limited =>
    simp only [limited, List.length_take, Option.mem_def, Option.some.injEq, forall_eq']
    omega

theorem write_of_holds (holds : sink.Holds bytes) :
    sink.write bytes = (.ok (), sink.keep bytes) := by
  simp only [write, fitting_of_holds holds, Nat.lt_irrefl, if_false, keep]

theorem write_of_not_holds (exceeded : ¬ sink.Holds bytes) :
    sink.write bytes = (.error (.transfer sink.fullReason), sink.keep (sink.fitting bytes)) := by
  simp only [write, if_pos (length_fitting_lt_iff.mpr exceeded), keep]

theorem holds_nil : sink.Holds [] := by
  intro limit limited
  exact Nat.zero_le _

theorem holds_of_unlimited (unlimited : sink.limit = none) : sink.Holds bytes := by
  intro limit limited
  rw [unlimited] at limited
  contradiction

theorem holds_append_iff :
    sink.Holds (front ++ behind) ↔ sink.Holds front ∧ (sink.keep front).Holds behind := by
  constructor
  · intro holds
    constructor
    · intro limit limited
      have room := holds limit limited
      rw [List.length_append] at room
      omega
    · intro limit limited
      have room := holds limit limited
      simp only [keep, List.length_append] at room ⊢
      omega
  · intro holds
    obtain ⟨holds, further⟩ := holds
    intro limit limited
    have room := holds limit limited
    have rest := further limit limited
    simp only [keep, List.length_append] at rest ⊢
    omega

theorem keep_fitting_append (holds : sink.Holds front) :
    sink.keep (sink.fitting (front ++ behind)) =
      (sink.keep front).keep ((sink.keep front).fitting behind) := by
  have taken : sink.fitting (front ++ behind) = front ++ (sink.keep front).fitting behind := by
    unfold fitting
    cases limited : sink.limit with
    | none => simp [keep, limited]
    | some limit =>
        have room := holds limit limited
        have rest : limit - (sink.written ++ front).length =
            limit - sink.written.length - front.length := by
          rw [List.length_append]
          omega
        simp only [keep, limited]
        rw [rest, List.take_append, List.take_of_length_le room]
  rw [taken]
  simp [keep]

theorem fitting_append_of_not_holds (exceeded : ¬ sink.Holds front) :
    sink.fitting (front ++ behind) = sink.fitting front := by
  unfold fitting
  cases limited : sink.limit with
  | none => exact absurd (holds_of_unlimited limited) exceeded
  | some limit =>
      have short : limit - sink.written.length < front.length := by
        simpa [Holds, limited] using exceeded
      exact List.take_append_of_le_length (Nat.le_of_lt short)

/-- The texts are taken as if they were one. -/
theorem deliver_eq (sink : Sink) (texts : List String) :
    sink.deliver texts =
      (if sink.Holds (Text.encodeAll texts) then sink.flush else .error (.transfer sink.fullReason),
        sink.keep (sink.fitting (Text.encodeAll texts))) := by
  induction texts generalizing sink with
  | nil =>
      have nothing : sink.keep (sink.fitting []) = sink := by
        rw [fitting_of_holds holds_nil]
        simp [keep]
      change (sink.flush, sink) = (if sink.Holds [] then _ else _, sink.keep (sink.fitting []))
      rw [if_pos holds_nil, nothing]
  | cons text texts induction =>
      rw [Text.encodeAll_cons]
      by_cases holds : sink.Holds (Text.encode text.toList)
      · simp only [deliver, write_of_holds holds, induction]
        rw [keep_fitting_append holds]
        simp only [holds_append_iff, holds, true_and]
        rfl
      · have exceeded : ¬ sink.Holds (Text.encode text.toList ++ Text.encodeAll texts) :=
          fun all => holds (holds_append_iff.mp all).1
        simp only [deliver, write_of_not_holds holds]
        rw [if_neg exceeded, fitting_append_of_not_holds holds]

theorem deliver_pair {left right : String} :
    sink.deliver [left, right] = sink.deliver [left ++ right] := by
  rw [deliver_eq, deliver_eq]
  simp [Text.encodeAll]

theorem deliver_eq_ok_iff {texts : List String} :
    (sink.deliver texts).1 = .ok () ↔ sink.Accepts (Text.encodeAll texts) := by
  rw [deliver_eq]
  by_cases holds : sink.Holds (Text.encodeAll texts)
  · simp only [holds, if_true, Accepts, true_and, flush]
    split
    next reason refused => simp [refused]
    next unhindered => simp [unhindered]
  · simp [holds, Accepts]

theorem eq_transfer_of_deliver {texts : List String} {failure : Failure}
    (failed : (sink.deliver texts).1 = .error failure) : ∃ reason, failure = .transfer reason := by
  rw [deliver_eq] at failed
  by_cases holds : sink.Holds (Text.encodeAll texts)
  · simp only [holds, if_true, flush] at failed
    split at failed
    next reason refused =>
      cases failed
      exact ⟨reason, rfl⟩
    next => contradiction
  · simp only [holds, if_false] at failed
    cases failed
    exact ⟨sink.fullReason, rfl⟩

theorem written_deliver_of_ok {texts : List String} (succeeded : (sink.deliver texts).1 = .ok ()) :
    (sink.deliver texts).2.written = sink.written ++ Text.encodeAll texts := by
  obtain ⟨holds, -⟩ := deliver_eq_ok_iff.mp succeeded
  rw [deliver_eq, fitting_of_holds holds]
  rfl

end Sink

end PageFilters
