import Transcript.Delivery

/-!
# The calls a writer sees

Behind the writing of one buffer stand as many calls as short writes and interruptions
make necessary. What becomes of the bytes is told by one relation between the bytes to be
written, the bytes taken, the calls and the result. It holds of a buffer, and where one
buffer follows another it is put together from the two.
-/

namespace Transcript

/-! ## Calls -/

/-- A call to a writer, and what came of it. -/
inductive Call where
  /-- A buffer was offered, and so many of its bytes were taken, or the write failed. -/
  | write (buffer : Bytes) (result : Except IoError Nat)
  /-- What was held back was to be handed on. -/
  | flush (result : Except IoError Unit)

namespace Call

/-- Whether the call was a write. -/
def isWrite : Call → Bool
  | write _ _ => true
  | flush _ => false

/-- The failure of a write that is not tried again. A writer that takes nothing of a buffer
fails too. -/
def failure? : Call → Option IoError
  | write buffer (.ok 0) => if buffer.isEmpty then none else some .nothingWritten
  | write _ (.ok (_ + 1)) => none
  | write _ (.error error) => if error.isInterrupted then none else some error
  | flush _ => none

/-- The bytes a call took. -/
def taken : Call → Bytes
  | write buffer (.ok count) => buffer.take count
  | write _ (.error _) => []
  | flush _ => []

/-- Whether the call, if it was a write and succeeded, took its whole buffer. -/
def isWhole : Call → Bool
  | write buffer (.ok count) => count == buffer.length
  | write _ (.error _) => true
  | flush _ => true

end Call

/-- What a sequence of writes comes to: the first failure that is not tried again. -/
def verdict (calls : List Call) : Except IoError Unit :=
  match calls.findSome? Call.failure? with
  | some error => .error error
  | none => .ok ()

/-- The calls by which a buffer is written, when the writer's steps are these. -/
def Writer.calls : (buffer : Bytes) → List WriteStep → List Call
  | [], _ => []
  | buffer, [] => [.write buffer (.ok buffer.length)]
  | buffer, .fail error :: steps =>
    .write buffer (.error error) :: if error.isInterrupted then calls buffer steps else []
  | buffer, .accept 0 :: _ => [.write buffer (.ok 0)]
  | buffer, .accept (count + 1) :: steps =>
    .write buffer (.ok (min (count + 1) buffer.length)) :: calls (buffer.drop (count + 1)) steps

/-! ## Answers -/

/-- What comes of a write of a buffer that meets this step. -/
def WriteStep.answer (buffer : Bytes) : WriteStep → Except IoError Nat
  | accept count => .ok (min count buffer.length)
  | fail error => .error error

/-- Writes that met the writer's steps one after the other, from the steps before them to
those left behind them. A write that meets no step any more takes its whole buffer. -/
inductive Answered : List WriteStep → List Call → List WriteStep → Prop
  | nil (steps : List WriteStep) : Answered steps [] steps
  | step {steps left : List WriteStep} {calls : List Call} (step : WriteStep) (buffer : Bytes)
      (hrest : Answered steps calls left) :
      Answered (step :: steps) (.write buffer (step.answer buffer) :: calls) left
  | free {left : List WriteStep} {calls : List Call} (buffer : Bytes)
      (hrest : Answered [] calls left) :
      Answered [] (.write buffer (.ok buffer.length) :: calls) left

namespace Answered

theorem append {first middle last : List WriteStep} {calls later : List Call}
    (hfirst : Answered first calls middle) (hsecond : Answered middle later last) :
    Answered first (calls ++ later) last := by
  induction hfirst with
  | nil => exact hsecond
  | step step buffer _ ih => exact .step step buffer (ih hsecond)
  | free buffer _ ih => exact .free buffer (ih hsecond)

theorem isWrite {steps left : List WriteStep} {calls : List Call}
    (hanswered : Answered steps calls left) : ∀ call ∈ calls, call.isWrite = true := by
  induction hanswered with
  | nil => exact fun _ hmem => absurd hmem List.not_mem_nil
  | step _ _ _ ih => exact List.forall_mem_cons.mpr ⟨rfl, ih⟩
  | free _ _ ih => exact List.forall_mem_cons.mpr ⟨rfl, ih⟩

end Answered

/-! ## Bytes, calls and results -/

/-- Calls that are to write the bytes `wanted` took the bytes `taken` and came to `result`. -/
structure Wrote (wanted taken : Bytes) (calls : List Call) (result : Except IoError Unit) :
    Prop where
  initial : taken <+: wanted
  ok_iff : result = .ok () ↔ taken = wanted
  result_eq : result = verdict calls
  taken_eq : taken = calls.flatMap Call.taken

theorem verdict_eq_ok_iff {calls : List Call} :
    verdict calls = .ok () ↔ calls.findSome? Call.failure? = none := by
  unfold verdict
  cases calls.findSome? Call.failure? <;> simp

theorem verdict_eq_error_iff {calls : List Call} {error : IoError} :
    verdict calls = .error error ↔ calls.findSome? Call.failure? = some error := by
  unfold verdict
  cases calls.findSome? Call.failure? <;> simp

theorem verdict_append_of_ok {first : List Call} (hfirst : verdict first = .ok ())
    (second : List Call) : verdict (first ++ second) = verdict second := by
  rw [verdict, List.findSome?_append, verdict_eq_ok_iff.mp hfirst, Option.none_or]
  rfl

namespace Wrote

theorem nil : Wrote [] [] [] (.ok ()) where
  initial := List.prefix_refl _
  ok_iff := ⟨fun _ => rfl, fun _ => rfl⟩
  result_eq := rfl
  taken_eq := rfl

/-- A call that does not fail takes what it was to take. -/
theorem of_call (call : Call) (hfailure : call.failure? = none) :
    Wrote call.taken call.taken [call] (.ok ()) where
  initial := List.prefix_refl _
  ok_iff := ⟨fun _ => rfl, fun _ => rfl⟩
  result_eq := by
    rw [verdict, List.findSome?_cons, hfailure]
    rfl
  taken_eq := (List.flatMap_singleton _ _).symm

/-- A call that fails takes nothing. -/
theorem of_failure (call : Call) {error : IoError} (hfailure : call.failure? = some error)
    (htaken : call.taken = []) {wanted : Bytes} (hne : wanted ≠ []) :
    Wrote wanted [] [call] (.error error) where
  initial := List.nil_prefix
  ok_iff := ⟨fun hok => by simp at hok, fun heq => absurd heq.symm hne⟩
  result_eq := by rw [verdict, List.findSome?_cons, hfailure]
  taken_eq := by rw [List.flatMap_singleton, htaken]

/-- Writes that succeeded took all they were to take. -/
theorem taken_of_ok {wanted taken : Bytes} {calls : List Call}
    (hwrote : Wrote wanted taken calls (.ok ())) : taken = wanted :=
  hwrote.ok_iff.mp rfl

/-- Writes that succeeded are followed by others. -/
theorem append {first second taken more : Bytes} {calls later : List Call}
    {result : Except IoError Unit} (hfirst : Wrote first taken calls (.ok ()))
    (hsecond : Wrote second more later result) :
    Wrote (first ++ second) (taken ++ more) (calls ++ later) result where
  initial := by
    rw [hfirst.taken_of_ok]
    exact (List.prefix_append_right_inj first).mpr hsecond.initial
  ok_iff := by rw [hfirst.taken_of_ok, hsecond.ok_iff, List.append_cancel_left_eq]
  result_eq := by rw [verdict_append_of_ok hfirst.result_eq.symm, hsecond.result_eq]
  taken_eq := by rw [List.flatMap_append, ← hfirst.taken_eq, ← hsecond.taken_eq]

/-- Writes that failed are followed by none, whatever was to be written after them. -/
theorem append_of_error {first taken : Bytes} {calls : List Call} {error : IoError}
    (hfirst : Wrote first taken calls (.error error)) (second : Bytes) :
    Wrote (first ++ second) taken calls (.error error) where
  initial := hfirst.initial.trans (List.prefix_append first second)
  ok_iff := by
    have hne : taken ≠ first := fun heq => by simpa using hfirst.ok_iff.mpr heq
    constructor
    · intro hok
      simp at hok
    · intro heq
      -- What was taken is no longer than the first bytes, so nothing would be left to write.
      have hlength := hfirst.initial.length_le
      rw [heq, List.length_append] at hlength
      have hnil : second = [] := List.eq_nil_of_length_eq_zero (by omega)
      rw [hnil, List.append_nil] at heq
      exact absurd heq hne
  result_eq := hfirst.result_eq
  taken_eq := hfirst.taken_eq

end Wrote

/-! ## One buffer -/

namespace Writer

theorem calls_of_no_step {buffer : Bytes} (hne : buffer ≠ []) :
    calls buffer [] = [.write buffer (.ok buffer.length)] := by
  cases buffer with
  | nil => exact absurd rfl hne
  | cons => rfl

theorem calls_of_fail {buffer : Bytes} (hne : buffer ≠ []) (error : IoError)
    (steps : List WriteStep) :
    calls buffer (.fail error :: steps) =
      .write buffer (.error error) :: if error.isInterrupted then calls buffer steps else [] := by
  cases buffer with
  | nil => exact absurd rfl hne
  | cons => rfl

theorem calls_of_accept_zero {buffer : Bytes} (hne : buffer ≠ []) (steps : List WriteStep) :
    calls buffer (.accept 0 :: steps) = [.write buffer (.ok 0)] := by
  cases buffer with
  | nil => exact absurd rfl hne
  | cons => rfl

theorem calls_of_accept {buffer : Bytes} (hne : buffer ≠ []) (count : Nat)
    (steps : List WriteStep) :
    calls buffer (.accept (count + 1) :: steps) =
      .write buffer (.ok (min (count + 1) buffer.length)) ::
        calls (buffer.drop (count + 1)) steps := by
  cases buffer with
  | nil => exact absurd rfl hne
  | cons => rfl

/-- A successful write of at least one byte is no failure. -/
theorem failure?_of_taken {buffer : Bytes} {count : Nat} (hcount : count ≠ 0) :
    (Call.write buffer (.ok count)).failure? = none := by
  cases count with
  | zero => exact absurd rfl hcount
  | succ count => rfl

/-- Writing a buffer takes bytes from its front, and all of them unless a call fails. -/
theorem wrote_feed (buffer accepted : Bytes) (steps : List WriteStep) :
    ∃ taken, (feed buffer accepted steps).2.2 = accepted ++ taken ∧
      Wrote buffer taken (calls buffer steps) (feed buffer accepted steps).1 := by
  fun_induction feed buffer accepted steps with
  | case1 accepted steps =>
      rw [calls]
      exact ⟨[], (List.append_nil _).symm, Wrote.nil⟩
  | case2 buffer accepted hne =>
      have hlength : buffer.length ≠ 0 := fun hzero => hne (List.eq_nil_of_length_eq_zero hzero)
      have hwrote := Wrote.of_call (.write buffer (.ok buffer.length))
        (failure?_of_taken hlength)
      rw [Call.taken, List.take_length] at hwrote
      rw [calls_of_no_step hne]
      exact ⟨buffer, rfl, hwrote⟩
  | case3 buffer accepted error steps hne hinterrupted ih =>
      obtain ⟨taken, haccepted, hwrote⟩ := ih
      have hcall := Wrote.of_call (.write buffer (.error error)) (if_pos hinterrupted)
      rw [calls_of_fail hne, if_pos hinterrupted]
      exact ⟨taken, haccepted, hcall.append hwrote⟩
  | case4 buffer accepted error steps hne hinterrupted =>
      have hcall := Wrote.of_failure (.write buffer (.error error)) (if_neg hinterrupted) rfl hne
      rw [calls_of_fail hne, if_neg hinterrupted]
      exact ⟨[], (List.append_nil _).symm, hcall⟩
  | case5 buffer accepted steps hne =>
      have hempty : ¬ buffer.isEmpty = true := fun hempty => hne (List.isEmpty_iff.mp hempty)
      have hcall := Wrote.of_failure (.write buffer (.ok 0)) (if_neg hempty) rfl hne
      rw [calls_of_accept_zero hne]
      exact ⟨[], (List.append_nil _).symm, hcall⟩
  | case6 buffer accepted count steps hne ih =>
      obtain ⟨taken, haccepted, hwrote⟩ := ih
      have hlength : buffer.length ≠ 0 := fun hzero => hne (List.eq_nil_of_length_eq_zero hzero)
      have hcall := Wrote.of_call (.write buffer (.ok (min (count + 1) buffer.length)))
        (failure?_of_taken (by omega))
      rw [Call.taken, ← List.take_eq_take_min] at hcall
      have hboth := hcall.append hwrote
      rw [List.take_append_drop] at hboth
      rw [calls_of_accept hne, haccepted, List.append_assoc]
      exact ⟨buffer.take (count + 1) ++ taken, rfl, hboth⟩

/-- The calls behind a buffer meet the writer's steps. -/
theorem answered_feed (buffer accepted : Bytes) (steps : List WriteStep) :
    Answered steps (calls buffer steps) (feed buffer accepted steps).2.1 := by
  fun_induction feed buffer accepted steps with
  | case1 accepted steps =>
      rw [calls]
      exact .nil steps
  | case2 buffer accepted hne =>
      rw [calls_of_no_step hne]
      exact .free buffer (.nil [])
  | case3 buffer accepted error steps hne hinterrupted ih =>
      rw [calls_of_fail hne, if_pos hinterrupted]
      exact .step (.fail error) buffer ih
  | case4 buffer accepted error steps hne hinterrupted =>
      rw [calls_of_fail hne, if_neg hinterrupted]
      exact .step (.fail error) buffer (.nil steps)
  | case5 buffer accepted steps hne =>
      have hanswer : WriteStep.answer buffer (.accept 0) = .ok 0 := by
        rw [WriteStep.answer, Nat.zero_min]
      rw [calls_of_accept_zero hne, ← hanswer]
      exact .step (.accept 0) buffer (.nil steps)
  | case6 buffer accepted count steps hne ih =>
      rw [calls_of_accept hne]
      exact .step (.accept (count + 1)) buffer ih

/-- When no successful call takes less than it is offered, a buffer is taken as a whole or
not at all. -/
theorem feed_of_whole (buffer accepted : Bytes) (steps : List WriteStep)
    (hwhole : ∀ call ∈ calls buffer steps, call.isWhole = true) :
    (feed buffer accepted steps).2.2 = accepted ∨
      (feed buffer accepted steps).2.2 = accepted ++ buffer := by
  fun_induction feed buffer accepted steps with
  | case1 => exact .inl rfl
  | case2 => exact .inr rfl
  | case3 buffer accepted error steps hne hinterrupted ih =>
      rw [calls_of_fail hne, if_pos hinterrupted] at hwhole
      exact ih fun call hmem => hwhole call (List.mem_cons_of_mem _ hmem)
  | case4 => exact .inl rfl
  | case5 => exact .inl rfl
  | case6 buffer accepted count steps hne ih =>
      rw [calls_of_accept hne] at hwhole
      have hcount : min (count + 1) buffer.length = buffer.length :=
        beq_iff_eq.mp (hwhole _ List.mem_cons_self)
      have hlength : buffer.length ≤ count + 1 := by omega
      rw [List.drop_of_length_le hlength, List.take_of_length_le hlength, feed]
      exact .inr rfl

end Writer

end Transcript
