import Transcript.Delivery

/-!
# What a sequence of reads brings

The input ends with the reads, or before with a read that brings nothing, and no read is made
after that. Interrupted reads leave no trace. The first other failure ends the input too, whatever
was read before it. Without one, the input is all the data up to its end.
-/

namespace Transcript

namespace ReadStep

/-- The bytes a read brings. -/
def bytes : ReadStep → Bytes
  | data bytes => bytes
  | fail _ => []

/-- The failure a read ends the input with, if it is not tried again. -/
def failure? : ReadStep → Option IoError
  | data _ => none
  | fail error => if error.isInterrupted then none else some error

theorem failure?_of_interrupted {error : IoError} (hinterrupted : error.isInterrupted = true) :
    (fail error).failure? = none := if_pos hinterrupted

/-- Whether a read tells that the input has ended, by bringing nothing. -/
def isEnd : ReadStep → Bool
  | data bytes => bytes.isEmpty
  | fail _ => false

theorem isEnd_data {bytes : Bytes} (hbytes : bytes ≠ []) : (data bytes).isEnd = false :=
  List.isEmpty_eq_false_iff.mpr hbytes

end ReadStep

/-- The reads before the end of the input. -/
def readsBeforeEnd (reads : List ReadStep) : List ReadStep := reads.takeWhile fun step => !step.isEnd

/-- All data up to the end of the input. -/
def received (reads : List ReadStep) : Bytes := (readsBeforeEnd reads).flatMap ReadStep.bytes

/-- The first failure up to the end of the input that is not tried again. -/
def readFailure? (reads : List ReadStep) : Option IoError :=
  (readsBeforeEnd reads).findSome? ReadStep.failure?

theorem readsBeforeEnd_of_not_isEnd {step : ReadStep} (hgoesOn : step.isEnd = false)
    (rest : List ReadStep) : readsBeforeEnd (step :: rest) = step :: readsBeforeEnd rest :=
  List.takeWhile_cons_of_pos (by rw [hgoesOn]; rfl)

theorem received_cons {step : ReadStep} (hgoesOn : step.isEnd = false) (rest : List ReadStep) :
    received (step :: rest) = step.bytes ++ received rest := by
  rw [received, readsBeforeEnd_of_not_isEnd hgoesOn, List.flatMap_cons]
  rfl

theorem readFailure?_cons {step : ReadStep} (hgoesOn : step.isEnd = false)
    (rest : List ReadStep) : readFailure? (step :: rest) = step.failure?.or (readFailure? rest) := by
  rw [readFailure?, readsBeforeEnd_of_not_isEnd hgoesOn, List.findSome?_cons]
  cases step.failure? <;> rfl

/-- The reads bring all data up to the end of the input, or the first failure that is not tried
again. -/
theorem readAll_eq (reads : List ReadStep) :
    readAll reads =
      match readFailure? reads with
      | some error => .error error
      | none => .ok (received reads) := by
  induction reads with
  | nil => rfl
  | cons step rest ih =>
      cases step with
      | data bytes =>
          by_cases hempty : bytes = []
          · rw [hempty]
            rfl
          · have hgoesOn := ReadStep.isEnd_data hempty
            rw [readFailure?_cons hgoesOn, received_cons hgoesOn, readAll,
              if_neg (mt List.isEmpty_iff.mp hempty), ih]
            change _ = match readFailure? rest with
              | some error => Except.error error
              | none => .ok (bytes ++ received rest)
            cases readFailure? rest <;> rfl
      | fail error =>
          have hgoesOn : (ReadStep.fail error).isEnd = false := rfl
          rw [readFailure?_cons hgoesOn, received_cons hgoesOn, readAll]
          split
          next hinterrupted =>
            rw [ih, ReadStep.failure?_of_interrupted hinterrupted]
            rfl
          next hinterrupted =>
            have hfailure : (ReadStep.fail error).failure? = some error := if_neg hinterrupted
            rw [hfailure]
            rfl

theorem readAll_of_failure {reads : List ReadStep} {error : IoError}
    (hfailure : readFailure? reads = some error) : readAll reads = .error error := by
  rw [readAll_eq, hfailure]

theorem readAll_of_no_failure {reads : List ReadStep} (hfailure : readFailure? reads = none) :
    readAll reads = .ok (received reads) := by
  rw [readAll_eq, hfailure]

end Transcript
