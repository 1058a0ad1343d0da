import Courier.CommandLine
import Courier.Proofs.Exchange.Calls
import Courier.Proofs.Service.Regular

/-!
# The command line and the service agree

A statement that is executed from the command line has the outcome that it has when it is posted to
the service. Both parse it and execute it in the same way; what is left is that the printed document
is the answer: whatever is in it, and in whatever layout it is printed, it is read back as it was. For
this, all numbers in a document have to be finite, which they are made, and short enough to be read,
which those that were read are, and the times are.
-/

namespace Courier

/-! ## Printing -/

namespace Document

/-- A document that is made of a regular value is read back from the line that is printed of it. -/
lemma read?_line {dialect : Json.Dialect} {v data : Json} (hregular : v.isRegular = true)
    (hdata : dump v = .ok data) :
    Json.read? dialect (CommandLine.line (data.write Json.indented)) = some data := by
  unfold dump at hdata
  split at hdata
  · cases hdata
  · next hdepth =>
    split at hdata
    · cases hdata
      have hnesting : v.withoutInfinities.depth ≤ Json.maxNesting := by
        rw [Json.depth_withoutInfinities]
        exact Nat.le_trans (Nat.not_lt.mp hdepth) (by decide)
      exact Json.read?_write_append Json.isJson_indented (Json.keeps_isFinite rfl)
        (Json.isFinite_withoutInfinities _) (Json.isRegular_withoutInfinities _ hregular) hnesting
        (Json.isBlank_singleton (by decide))
    · cases hdata

end Document

/-! ## Calls -/

/-- An execution makes one call, unless it breaks off before. -/
lemma exists_sent_execute (w : World) (d : Descriptor) : ∃ calls : List Call,
    (execute w d).2.sent = w.sent ++ calls ∧
      ((∃ e, (execute w d).1 = .ok e) → ∃ call, calls = [call]) := by
  cases hstart : World.milliseconds w.startReading with
  | error crash =>
    rw [Execution.execute_of_error hstart]
    refine ⟨[], (List.append_nil _).symm, ?_⟩
    rintro ⟨e, h⟩
    cases h
  | ok start => exact ⟨[Client.call d], Execution.sent_execute hstart, fun _ => ⟨_, rfl⟩⟩

/-! ## Two ways to execute a statement -/

namespace CommandLine

open Http

/-- That a run of the program ends as an answer of the service says, with some calls made. -/
inductive Agrees : Ending → Except Crash Answer → List Call → Prop
  | refused (message : Text) :
      Agrees (.finished 2 [] (line message)) (.ok (errorAnswer 400 message)) []
  | executed {output errors : Text} {data : Json} (call : Call)
      (houtput : Json.read? .lenient output = some data) :
      Agrees (.finished 0 output errors) (.ok ⟨200, data⟩) [call]
  | crashed (crash : Crash) (calls : List Call) : Agrees (.crashed crash) (.error crash) calls

section

variable {w : World} {environment : Fields Text} {file : Option Text} {statement : Text}
  {settings : Settings}

lemma ne_dashes (h : statement.head? ≠ some (CodePoint.ofChar '-')) :
    (statement != Text.ofString "--") = true := by
  rw [bne_iff_ne]
  rintro rfl
  exact h rfl

lemma readArgument_of_head?_ne (h : statement.head? ≠ some (CodePoint.ofChar '-')) :
    readArgument statement = some (.plain statement) := by
  rw [readArgument, if_pos (.inl h)]

lemma readArguments_singleton (h : statement.head? ≠ some (CodePoint.ofChar '-')) :
    readArguments [statement] = .statement statement false := by
  unfold readArguments
  simp only [List.dropWhile_cons, List.takeWhile_cons, ne_dashes h, if_true, List.dropWhile_nil,
    List.takeWhile_nil, List.mapM_cons, List.mapM_nil, readArgument_of_head?_ne h]
  rfl

lemma readArguments_execute (h : statement.head? ≠ some (CodePoint.ofChar '-')) :
    readArguments [statement, Text.ofString "--execute"] = .statement statement true := by
  have hoption : (Text.ofString "--execute" != Text.ofString "--") = true := by decide
  have hexecute : readArgument (Text.ofString "--execute") = some (.execute none) := by decide
  unfold readArguments
  simp only [List.dropWhile_cons, List.takeWhile_cons, ne_dashes h, hoption, if_true,
    List.dropWhile_nil, List.takeWhile_nil, List.mapM_cons, List.mapM_nil,
    readArgument_of_head?_ne h, hexecute]
  rfl

/-- The payload with a statement. -/
def payloadOf (statement : Text) : Json := .object [(Text.ofString "reqline", .string statement)]

lemma statement?_payloadOf (statement : Text) :
    Service.statement? (payloadOf statement) = some statement := by
  rw [payloadOf, Service.statement?, Fields.get?]
  simp

/-- A run and the service go the same way. -/
lemma exists_agrees (hdash : statement.head? ≠ some (CodePoint.ofChar '-'))
    (hsettings : Settings.load environment file = .ok settings) (hstatuses : w.HasStatuses) :
    ∃ calls, Agrees (run w environment file [statement, Text.ofString "--execute"]).1
        (Service.handle w (payloadOf statement)).1 calls ∧
      (run w environment file [statement, Text.ofString "--execute"]).2.sent = w.sent ++ calls ∧
        (Service.handle w (payloadOf statement)).2.sent = w.sent ++ calls := by
  rw [run, readArguments_execute hdash, Service.handle, statement?_payloadOf]
  dsimp only
  cases hparse : Statement.parse (some statement) with
  | error rejection =>
    cases rejection with
    | fault fault => exact ⟨[], .refused fault.message, by simp, by simp [World.write]⟩
    | invalid reports => exact ⟨[], .crashed (.invalid reports) [], by simp, by simp⟩
  | ok d =>
    obtain ⟨calls, hcalls, hone⟩ := exists_sent_execute w d
    refine ⟨calls, ?_⟩
    simp only [executeAndPrint, hsettings, if_true]
    cases hexecute : execute w d with
    | mk result after =>
      rw [hexecute] at hcalls hone
      cases result with
      | error crash => exact ⟨.crashed crash calls, hcalls, hcalls⟩
      | ok e =>
        obtain ⟨call, rfl⟩ := hone ⟨e, rfl⟩
        refine ⟨?_, hcalls, hcalls⟩
        dsimp only
        cases hresult : Document.result d e with
        | error crash => exact .crashed crash [call]
        | ok data =>
          have hruns : Execution.Runs w d e := by
            rw [← Execution.execute_eq_ok_iff, hexecute]
          have hstatus := hruns.reports.isRegular_status hstatuses
          exact .executed call
            (Document.read?_line (Document.isRegular_whole hparse hruns hstatus) hresult)

/-- Different messages are printed differently. -/
lemma line_inj {s t : Text} : line s = line t ↔ s = t := List.append_left_inj _

/-- **The command line and the service agree** on every statement: they refuse it with the same
message, without a call; or they make the same call, and what is printed is read as the document that
is answered; or they break off in the same way. -/
theorem run_execute_iff_handle (hdash : statement.head? ≠ some (CodePoint.ofChar '-'))
    (hsettings : Settings.load environment file = .ok settings) (hstatuses : w.HasStatuses) :
    let ran := run w environment file [statement, Text.ofString "--execute"]
    let handled := Service.handle w (payloadOf statement)
    (∀ message, (ran.1 = .finished 2 [] (line message) ↔
        ∃ answer, handled.1 = .ok answer ∧ answer.status = 400 ∧ answer.data = errorData message) ∧
      (ran.1 = .finished 2 [] (line message) → ran.2.sent = w.sent ∧ handled.2.sent = w.sent)) ∧
    ((∃ output errors, ran.1 = .finished 0 output errors) ↔
      ∃ answer, handled.1 = .ok answer ∧ answer.status = 200) ∧
    (∀ output errors, ran.1 = .finished 0 output errors → ∃ answer call,
      handled.1 = .ok answer ∧ Json.read? .lenient output = some answer.data ∧
        ran.2.sent = w.sent ++ [call] ∧ handled.2.sent = w.sent ++ [call]) ∧
    ∀ crash, ran.1 = .crashed crash ↔ handled.1 = .error crash := by
  intro ran handled
  obtain ⟨calls, hagrees, hran, hhandled⟩ := exists_agrees hdash hsettings hstatuses
  have hagrees : Agrees ran.1 handled.1 calls := hagrees
  have hran : ran.2.sent = w.sent ++ calls := hran
  have hhandled : handled.2.sent = w.sent ++ calls := hhandled
  generalize ran = ran at hagrees hran ⊢
  generalize handled = handled at hagrees hhandled ⊢
  obtain ⟨ending, after⟩ := ran
  obtain ⟨result, after'⟩ := handled
  cases hagrees with
  | refused message =>
    rw [List.append_nil] at hran hhandled
    refine ⟨?_, by simp [errorAnswer], by simp, by simp⟩
    intro other
    simp only [Ending.finished.injEq, line_inj, true_and, Except.ok.injEq]
    refine ⟨⟨?_, ?_⟩, fun _ => ⟨hran, hhandled⟩⟩
    · rintro rfl
      exact ⟨_, rfl, rfl, rfl⟩
    · rintro ⟨answer, rfl, -, hdata⟩
      simpa [errorAnswer, errorData] using hdata
  | executed call houtput =>
    refine ⟨by simp, ?_, ?_, by simp⟩
    · simp
    · rintro output errors h
      cases h
      exact ⟨_, call, rfl, houtput, hran, hhandled⟩
  | crashed crash calls => exact ⟨by simp, by simp, by simp, by simp⟩

/-- A statement without a URL is refused in the same words by both, and nothing is sent. -/
theorem run_execute_iff_handle_refused :
    let w : World := { replies := [.response { status := 204 }] }
    let statement := Text.ofString "HTTP GET"
    let message := Fault.missingUrlKeyword.message
    statement.head? ≠ some (CodePoint.ofChar '-') ∧ Settings.load [] none = .ok {} ∧
      w.HasStatuses ∧ (Service.handle w (payloadOf statement)).1 = .ok (errorAnswer 400 message) ∧
        (run w [] none [statement, Text.ofString "--execute"]).1 = .finished 2 [] (line message) ∧
          (run w [] none [statement, Text.ofString "--execute"]).2.sent = [] := by
  intro w statement message
  have hdash : statement.head? ≠ some (CodePoint.ofChar '-') := by decide
  have hsettings : Settings.load [] none = .ok {} := by cbv
  have hstatuses : w.HasStatuses := by
    intro r hr
    cases List.mem_singleton.mp hr
    exact Json.isRegular_int.mp (by decide)
  have hhandled : (Service.handle w (payloadOf statement)).1 = .ok (errorAnswer 400 message) := by
    simp only [statement, message]
    cbv
  obtain ⟨hrefused, -⟩ := run_execute_iff_handle hdash hsettings hstatuses
  have hran := (hrefused message).1.mpr ⟨_, hhandled, rfl, rfl⟩
  exact ⟨hdash, hsettings, hstatuses, hhandled, hran, ((hrefused message).2 hran).1⟩

end

end CommandLine

end Courier
