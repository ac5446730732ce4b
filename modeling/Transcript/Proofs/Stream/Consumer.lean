import Transcript.Proofs.Segment.Counts
import Transcript.Proofs.Stream

/-!
# Streaming to a consumer

A consumer takes lines one by one, keeps a state and may refuse a line. Whatever it does, it
is called with the formatted lines from the first on, once each, and not again after a line
that it refuses. So the calls made to two consumers differ at most in how many they are.
-/

namespace Transcript

/-- Takes lines one by one and may refuse one. -/
structure Consumer (σ ε : Type) where
  /-- What becomes of a line and of the state. -/
  take : Text → σ → Except ε Unit × σ

namespace Consumer

variable {σ ε : Type}

/-- The sink that hands lines to a consumer. Nobody listens to the notices. -/
def sink (consumer : Consumer σ ε) : Sink (ExceptT ε (StateM σ)) where
  emit line := ExceptT.mk (consumer.take line)
  report _ := pure ()

theorem sink_quiet (consumer : Consumer σ ε) : consumer.sink.Quiet := fun _ => rfl

/-- The consumer that also keeps the lines it is called with. -/
def noting (consumer : Consumer σ ε) : Consumer (σ × List Text) ε where
  take line state :=
    let (result, next) := consumer.take line state.1
    (result, next, state.2 ++ [line])

/-- Hands lines to a consumer until it refuses one. -/
def feed (consumer : Consumer σ ε) (state : σ) : List Text → Except ε Unit × σ
  | [] => (.ok (), state)
  | line :: rest =>
    match consumer.take line state with
    | (.ok (), next) => consumer.feed next rest
    | (.error error, next) => (.error error, next)

/-- The lines a consumer is called with: those it takes and the first it refuses. -/
def calls (consumer : Consumer σ ε) (state : σ) : List Text → List Text
  | [] => []
  | line :: rest =>
    match consumer.take line state with
    | (.ok (), next) => line :: consumer.calls next rest
    | (.error _, _) => [line]

variable {consumer : Consumer σ ε} {state next : σ} {line : Text}

theorem feed_of_taken (htake : consumer.take line state = (.ok (), next)) (rest : List Text) :
    consumer.feed state (line :: rest) = consumer.feed next rest := by
  rw [feed, htake]

theorem feed_of_refused {error : ε} (htake : consumer.take line state = (.error error, next))
    (rest : List Text) : consumer.feed state (line :: rest) = (.error error, next) := by
  rw [feed, htake]

theorem calls_of_taken (htake : consumer.take line state = (.ok (), next)) (rest : List Text) :
    consumer.calls state (line :: rest) = line :: consumer.calls next rest := by
  rw [calls, htake]

theorem calls_of_refused {error : ε} (htake : consumer.take line state = (.error error, next))
    (rest : List Text) : consumer.calls state (line :: rest) = [line] := by
  rw [calls, htake]

/-! ## Calls -/

theorem calls_prefix (consumer : Consumer σ ε) (state : σ) (lines : List Text) :
    consumer.calls state lines <+: lines := by
  induction lines generalizing state with
  | nil => exact List.prefix_refl _
  | cons line rest ih =>
      rcases htake : consumer.take line state with ⟨error | ⟨⟩, next⟩
      · rw [calls_of_refused htake]
        exact List.prefix_append [line] rest
      · rw [calls_of_taken htake, List.prefix_cons_inj]
        exact ih next

theorem calls_of_feed_ok {lines : List Text} {last : σ}
    (hfeed : consumer.feed state lines = (.ok (), last)) : consumer.calls state lines = lines := by
  induction lines generalizing state with
  | nil => rfl
  | cons line rest ih =>
      rcases htake : consumer.take line state with ⟨error | ⟨⟩, next⟩
      · rw [feed_of_refused htake] at hfeed
        simp at hfeed
      · rw [feed_of_taken htake] at hfeed
        rw [calls_of_taken htake, ih hfeed]

/-- When a line is refused, it is the last call, and the calls before it were taken. -/
theorem calls_of_feed_error {lines : List Text} {error : ε} {last : σ}
    (hfeed : consumer.feed state lines = (.error error, last)) :
    ∃ taken line before, consumer.calls state lines = taken ++ [line] ∧
      consumer.feed state taken = (.ok (), before) ∧
      consumer.take line before = (.error error, last) := by
  induction lines generalizing state with
  | nil => simp [feed] at hfeed
  | cons line rest ih =>
      rcases htake : consumer.take line state with ⟨refusal | ⟨⟩, next⟩
      · rw [feed_of_refused htake] at hfeed
        exact ⟨[], line, state, calls_of_refused htake rest, rfl, htake.trans hfeed⟩
      · rw [feed_of_taken htake] at hfeed
        obtain ⟨taken, refused, before, hcalls, htaken, hrefused⟩ := ih hfeed
        refine ⟨line :: taken, refused, before, ?_, ?_, hrefused⟩
        · rw [calls_of_taken htake, hcalls, List.cons_append]
        · rw [feed_of_taken htake, htaken]

/-- Keeping the calls changes neither the result nor the state. -/
theorem feed_noting (consumer : Consumer σ ε) (state : σ) (noted lines : List Text) :
    consumer.noting.feed (state, noted) lines =
      ((consumer.feed state lines).1, (consumer.feed state lines).2,
        noted ++ consumer.calls state lines) := by
  induction lines generalizing state noted with
  | nil => simp [feed, calls]
  | cons line rest ih =>
      have hnoting : consumer.noting.take line (state, noted) =
          ((consumer.take line state).1, (consumer.take line state).2, noted ++ [line]) := rfl
      rcases htake : consumer.take line state with ⟨error | ⟨⟩, next⟩
      · rw [htake] at hnoting
        rw [feed_of_refused hnoting, feed_of_refused htake, calls_of_refused htake]
      · rw [htake] at hnoting
        rw [feed_of_taken hnoting, feed_of_taken htake, calls_of_taken htake, ih,
          List.append_assoc, List.singleton_append]

theorem run_forM_emit (consumer : Consumer σ ε) (state : σ) (lines : List Text) :
    (lines.forM consumer.sink.emit).run.run state = consumer.feed state lines := by
  induction lines generalizing state with
  | nil => rfl
  | cons line rest ih =>
      rw [List.forM_eq_forM, List.forM_cons, ExceptT.run_bind, StateT.run_bind]
      have hemit : (consumer.sink.emit line).run.run state = consumer.take line state := rfl
      rw [hemit]
      rcases htake : consumer.take line state with ⟨error | ⟨⟩, next⟩
      · rw [feed_of_refused htake]
        rfl
      · rw [feed_of_taken htake]
        exact ih next

/-- The consumer that takes so many lines, and keeps them. -/
def limited (count : Nat) : Consumer (List Text) Unit where
  take line taken :=
    if taken.length < count then (.ok (), taken ++ [line]) else (.error (), taken)

theorem feed_limited {count : Nat} {taken : List Text} (hle : taken.length ≤ count)
    (lines : List Text) :
    (limited count).feed taken lines =
      (if taken.length + lines.length ≤ count then .ok () else .error (),
        taken ++ lines.take (count - taken.length)) := by
  induction lines generalizing taken with
  | nil => simp [feed, hle]
  | cons line rest ih =>
      by_cases hroom : taken.length < count
      · have htake : (limited count).take line taken = (.ok (), taken ++ [line]) := if_pos hroom
        have hlength : (taken ++ [line]).length = taken.length + 1 := by simp
        obtain ⟨left, hleft⟩ : ∃ left, count - taken.length = left + 1 :=
          ⟨count - (taken.length + 1), by omega⟩
        have hrest : count - (taken.length + 1) = left := by omega
        have hsum : taken.length + 1 + rest.length = taken.length + (rest.length + 1) := by omega
        rw [feed_of_taken htake, ih (by omega), hlength, hrest, hleft, List.take_succ_cons,
          List.length_cons, List.append_assoc, List.singleton_append, hsum]
      · have htake : (limited count).take line taken = (.error (), taken) := if_neg hroom
        have hnone : count - taken.length = 0 := by omega
        have hmore : ¬ taken.length + (line :: rest).length ≤ count := by
          rw [List.length_cons]
          omega
        rw [feed_of_refused htake, if_neg hmore, hnone, List.take_zero, List.append_nil]

end Consumer

namespace Options

variable {σ ε : Type}

theorem run_stream_consumer (options : Options) (consumer : Consumer σ ε) (state : σ)
    (lines : List Text) :
    (options.stream consumer.sink lines).run.run state =
      ((consumer.feed state (options.formatLines lines)).1.map fun _ => options.stats lines,
        (consumer.feed state (options.formatLines lines)).2) := by
  rw [stream_of_quiet options consumer.sink_quiet, ExceptT.run_bind, StateT.run_bind,
    Consumer.run_forM_emit]
  rcases consumer.feed state (options.formatLines lines) with ⟨error | ⟨⟩, last⟩ <;> rfl

theorem run_stream_noting (options : Options) (consumer : Consumer σ ε) (state : σ)
    (lines : List Text) :
    (options.stream consumer.noting.sink lines).run.run (state, []) =
      ((consumer.feed state (options.formatLines lines)).1.map fun _ => options.stats lines,
        (consumer.feed state (options.formatLines lines)).2,
        consumer.calls state (options.formatLines lines)) := by
  rw [run_stream_consumer, Consumer.feed_noting, List.nil_append]

/-- Streaming to any consumer is handing it the lines that a consumer which takes all of them
collects. It is called with these lines in order and once each, up to the first it refuses;
the run then ends with its error. If it refuses none, the run gives the counts, and the
lines printed are as many as the calls. A consumer that takes so many lines and no more is left
with the first so many. -/
theorem stream_feeds (options : Options) (consumer : Consumer σ ε) (state : σ)
    (lines : List Text) :
    let (counts, printed) := (options.stream Sink.collect lines).run []
    let (result, last, calls) := (options.stream consumer.noting.sink lines).run.run (state, [])
    (options.stream consumer.sink lines).run.run state = (result, last) ∧
      calls <+: printed ∧
      (result = .ok counts ∧ calls = printed ∧ counts.linesOut = calls.length ∧
          consumer.feed state calls = (.ok (), last) ∨
        ∃ error taken line before, result = .error error ∧ calls = taken ++ [line] ∧
          consumer.feed state taken = (.ok (), before) ∧
          consumer.take line before = (.error error, last)) ∧
      ∀ count, (options.stream (Consumer.limited count).sink lines).run.run [] =
        (if printed.length ≤ count then .ok counts else .error (), printed.take count) := by
  rw [run_stream_collect, run_stream_noting, run_stream_consumer]
  refine ⟨rfl, consumer.calls_prefix state _, ?_, ?_⟩
  · rcases hfeed : consumer.feed state (options.formatLines lines) with ⟨error | ⟨⟩, last⟩
    · obtain ⟨taken, line, before, hcalls, htaken, hrefused⟩ := Consumer.calls_of_feed_error hfeed
      exact .inr ⟨error, taken, line, before, rfl, hcalls, htaken, hrefused⟩
    · have hcalls := Consumer.calls_of_feed_ok hfeed
      rw [hcalls]
      exact .inl ⟨rfl, rfl, options.linesOut_stats lines, hfeed⟩
  · intro count
    rw [run_stream_consumer, Consumer.feed_limited (Nat.zero_le count), List.length_nil,
      Nat.zero_add, Nat.sub_zero, List.nil_append]
    split <;> rfl

end Options

end Transcript
