import EntityService.Text.Quoted

/-!
# Ends of commands

A command that is started ends with a status.  A status above zero is the one that the command gave
itself; a status below zero says that a signal ended the command, and is the negated number of the
signal.  Not every command can be started: there may be no such tool, or no right to start it.

## What is here

* `signalNames`, `signalName?` — the signals that have names.
* `endText` — the end of a command, in words.
* `StartFault` — why a command is not started, with `StartFault.message`.
* `Ending` — what becomes of a command.
-/

set_option autoImplicit false

namespace EntityService

/-- The names of signals, by number. -/
def signalNames : List (Nat × String) :=
  [(1, "SIGHUP"), (2, "SIGINT"), (3, "SIGQUIT"), (4, "SIGILL"), (5, "SIGTRAP"), (6, "SIGABRT"),
    (7, "SIGBUS"), (8, "SIGFPE"), (9, "SIGKILL"), (10, "SIGUSR1"), (11, "SIGSEGV"),
    (12, "SIGUSR2"), (13, "SIGPIPE"), (14, "SIGALRM"), (15, "SIGTERM"), (16, "SIGSTKFLT"),
    (17, "SIGCHLD"), (18, "SIGCONT"), (19, "SIGSTOP"), (20, "SIGTSTP"), (21, "SIGTTIN"),
    (22, "SIGTTOU"), (23, "SIGURG"), (24, "SIGXCPU"), (25, "SIGXFSZ"), (26, "SIGVTALRM"),
    (27, "SIGPROF"), (28, "SIGWINCH"), (29, "SIGIO"), (30, "SIGPWR"), (31, "SIGSYS"),
    (34, "SIGRTMIN"), (64, "SIGRTMAX")]

/-- The name of a signal, if it has one. -/
def signalName? (number : Nat) : Option String := signalNames.lookup number

/-- How a command ended that did not end with status zero. -/
def endText (status : Int) : String :=
  if status < 0 then
    match signalName? status.natAbs with
    | some name => "died with <Signals." ++ name ++ ": " ++ toString status.natAbs ++ ">."
    | none => "died with unknown signal " ++ toString status.natAbs ++ "."
  else "returned non-zero exit status " ++ toString status ++ "."

/-- Why a command is not started. -/
inductive StartFault
  /-- The operating system refuses, with a code and a reason. -/
  | system (code : Nat) (reason : String)
  /-- A word of the command holds the character U+0000. -/
  | nullCharacter
deriving DecidableEq, Repr

/-- Why a tool is not started, in words. -/
def StartFault.message (tool : String) : StartFault → String
  | system code reason => "[Errno " ++ toString code ++ "] " ++ reason ++ ": " ++ Text.literal tool
  | nullCharacter => "embedded null byte"

/-- What becomes of a command. -/
inductive Ending
  /-- It was started and ended with a status. -/
  | exited (status : Int)
  | notStarted (fault : StartFault)
deriving DecidableEq, Repr

end EntityService
