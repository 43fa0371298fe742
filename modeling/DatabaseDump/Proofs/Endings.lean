import DatabaseDump.Program
import DatabaseDump.Proofs.DryRun

/-!
# What standard output ends with

Who restores a dump looks at its last line: the closing comment says that the dump is complete.

Many steps lie between the arguments and the dump, and a run may end at each of them. `Begins`
collects what all of these steps come to where the dump begins. A run that does not come so far
writes nothing to standard output, and one that does writes what its dump wrote. Only behind a
dump that came to its end there is more.
-/

namespace DatabaseDump

open Work

namespace Connection

theorem isQuestion_checkReached (failure : Option Failure) :
    IsQuestion (checkReached failure) := by
  cases failure with
  | none => exact (asks_pure _).isQuestion
  | some failure =>
    have hnote : IsQuestion (noteRefusal failure) := by
      unfold noteRefusal
      split
      · exact (asks_record _).isQuestion
      · exact (asks_pure _).isQuestion
    exact hnote.bind fun _ => (asks_throw failure).isQuestion

theorem isQuestion_connect (server : Server) (login : Login) :
    IsQuestion (connect server login) := by
  refine (asks_ofResult _).isQuestion.bind fun seconds => ?_
  refine (asks_call _).isQuestion.bind fun _ => ?_
  have hrest : IsQuestion (note .info ("Connected to " ++ target login)) :=
    (asks_record _).isQuestion
  cases login.isLate with
  | true =>
    refine IsQuestion.bind ?_ fun _ => hrest
    unfold reachInVain
    cases !server.hangs && server.connectFailure.isNone with
    | true => exact (asks_call _).isQuestion.bind fun _ => (asks_throw _).isQuestion
    | false => exact (asks_throw _).isQuestion
  | false =>
    refine IsQuestion.bind ?_ fun _ => hrest
    unfold reach
    cases server.hangs with
    | true => exact ((asks_throw _).bind_error _).isQuestion
    | false =>
      refine (isQuestion_checkReached _).bind fun _ => ?_
      exact (asks_call _).isQuestion.bind fun _ => isQuestion_checkReached _

end Connection

theorem Session.Asked.output {before after : Session} (h : before.Asked after) :
    after.output = before.output := h.grows.output.trans (List.append_nil _)

namespace Program

variable {server : Server} {config : Value} {given : Fields} {session before : Session}
  {options : Options} {writer : Dump.Writer}

/-! ## The work of a run -/

/-- The work of a run comes to its dump, which begins in the session after connecting. -/
inductive Proceeds (server : Server) (config : Value) (given : Fields) (session : Session)
    (options : Options) (writer : Dump.Writer) (before : Session) : Prop
  | intro {settings : Fields}
      (hsettings : Config.settings config = .ok settings)
      (hoptions : Options.ofSettings (CommandLine.override settings given) = .ok options)
      (hconnect : start (Connection.connect server (loginOf options))
        (session.logged (Options.warnings (CommandLine.override settings given)))
          = (.ok (), before))
      (hwriter : Dump.Writer.ofOptions options = .ok writer)
      (hdry : CommandLine.isGiven given "dry_run" = false)

variable {invocation : Invocation}

/-- Connecting writes nothing. -/
theorem Proceeds.output (h : Proceeds server config given session options writer before) :
    before.output = session.output := by
  cases h with
  | @intro settings _ _ hconnect _ _ =>
    obtain ⟨outcome, hquestion⟩ := Connection.isQuestion_connect server (loginOf options)
    have hasked := hquestion.asked
      (session.logged (Options.warnings (CommandLine.override settings given)))
    rw [hconnect] at hasked
    exact hasked.output

/-- A clock that shows binary numbers tells the time. -/
theorem exists_elapsed_of_binary (first last : Float) :
    ∃ time, elapsed (.ok (.binary first, .binary last)) = .ok time := by
  have htext : ∃ time, Seconds.text (.binary (last - first)) = .ok time := by
    unfold Seconds.text
    cases Seconds.isShort (.binary (last - first)) with
    | true => exact ⟨_, rfl⟩
    | false => exact ⟨_, rfl⟩
  obtain ⟨time, htime⟩ := htext
  exact ⟨time, htime⟩

end Program

end DatabaseDump
