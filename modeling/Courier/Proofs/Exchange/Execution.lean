import Courier.Proofs.Exchange.Client

/-!
# Executions

An execution reads the clock, sends the request and reads the clock again. It ends without an outcome
if a reading is not a time or if the request breaks off, and in no other case.
-/

namespace Courier

namespace World

/-- The world in which a request is sent: the clock was read once. -/
def started (w : World) : World := { w with clock := (next .zero w.clock).2 }

/-- The reading of the clock before a request is sent. -/
def startReading (w : World) : Binary64 := (next .zero w.clock).1

/-- The reading of the clock when the request is over. -/
def stopReading (w : World) : Binary64 := w.started.startReading

lemma tick_eq (w : World) : w.tick = (milliseconds w.startReading, w.started) := rfl

/-- That a reading of the clock is not a time in milliseconds. -/
inductive Untimed (seconds : Binary64) : Crash → Prop
  | infinite {negative : Bool} (h : seconds.scale 1000 = .infinite negative) :
      Untimed seconds .timeInfinite
  | nan (h : seconds.scale 1000 = .nan) : Untimed seconds .timeNaN

end World

namespace Execution

/-- What a finished execution says: the two readings of the clock, and what came of the request. -/
structure Runs (w : World) (d : Descriptor) (e : Execution) : Prop where
  start : World.milliseconds w.startReading = .ok e.start
  stop : World.milliseconds w.stopReading = .ok e.stop
  reports : Client.Reports d w.reply.1 e.status e.data

/-- The ways in which an execution ends without an outcome. -/
inductive Breaks (w : World) (d : Descriptor) : Crash → Prop
  /-- The first reading of the clock is not a time. -/
  | start {crash : Crash} (h : World.Untimed w.startReading crash) : Breaks w d crash
  /-- The request breaks off. -/
  | client {start : Int} {crash : Crash} (hstart : World.milliseconds w.startReading = .ok start)
      (h : Client.Breaks d w.reply.1 crash) : Breaks w d crash
  /-- The second reading of the clock is not a time. -/
  | stop {start status : Int} {data : Json} {crash : Crash}
      (hstart : World.milliseconds w.startReading = .ok start)
      (hreports : Client.Reports d w.reply.1 status data)
      (h : World.Untimed w.stopReading crash) : Breaks w d crash

section

variable {w : World} {d : Descriptor}

lemma finish_fst (w : World) (start status : Int) (data : Json) :
    (finish w start status data).1 =
      (World.milliseconds w.startReading).map fun stop => { status, start, stop, data } := by
  unfold finish
  rw [World.tick_eq]
  cases World.milliseconds w.startReading <;> rfl

/-- Sending a request does not touch the clock. -/
lemma clock_send (w : World) (d : Descriptor) : (Client.send w d).2.clock = w.clock := by
  unfold Client.send
  cases Client.check d <;> rfl

/-- An execution times the report of its request. -/
lemma execute_fst (w : World) (d : Descriptor) : (execute w d).1 =
    World.milliseconds w.startReading >>= fun start =>
      Client.report (Client.outcome d w.reply.1) >>= fun report =>
        World.milliseconds w.stopReading >>= fun stop =>
          .ok { status := report.1, start, stop, data := report.2 } := by
  unfold execute
  rw [World.tick_eq]
  cases World.milliseconds w.startReading with
  | error crash => rfl
  | ok start =>
    have hsend : (Client.send w.started d).1 = Client.outcome d w.reply.1 := Client.send_fst _ d
    have hclock := clock_send w.started d
    dsimp only
    generalize Client.send w.started d = sent at hsend hclock ⊢
    obtain ⟨result, after⟩ := sent
    dsimp only at hsend hclock
    -- The world after the request has the clock that was left by the first reading.
    have hstop : after.startReading = w.stopReading := by
      rw [World.startReading, hclock]
      rfl
    rw [← hsend]
    rcases result with (⟨failure, message⟩ | crash) | ⟨status, data⟩
    · show (finish (after.write (failureLine d failure)) start 0 (failureData failure message)).1 = _
      rw [finish_fst]
      show (World.milliseconds after.startReading).map _ = _
      rw [hstop]
      cases World.milliseconds w.stopReading <;> rfl
    · rfl
    · show (finish after start status data).1 = _
      rw [finish_fst, hstop]
      cases World.milliseconds w.stopReading <;> rfl

/-- An execution has an outcome if and only if it can be timed and its request is reported. -/
theorem execute_eq_ok_iff {e : Execution} : (execute w d).1 = .ok e ↔ Runs w d e := by
  rw [execute_fst]
  simp only [bind_eq_ok_iff]
  constructor
  · rintro ⟨start, hstart, ⟨status, data⟩, hreport, stop, hstop, h⟩
    cases h
    exact ⟨hstart, hstop, Client.report_outcome_eq_ok_iff.mp hreport⟩
  · rintro ⟨hstart, hstop, hreports⟩
    exact ⟨_, hstart, _, Client.report_outcome_eq_ok_iff.mpr hreports, _, hstop, rfl⟩

end

end Execution

end Courier
