import BackendIR.Session.Command

/-!
# Scripts

A script is a list of steps. A step is a command, or a pass whose body is again a
list of steps. A refused step inside a pass ends the pass; a refused step of the
script itself does not end the script.
-/

namespace BackendIR

/-- A command, or a named pass. -/
inductive Step where
  | perform (command : Command)
  | pass (name : String) (body : List Step)

mutual

/-- Carry out a step. A pass that succeeds leaves its report in the session. -/
def Step.run : Step → Edit Reply
  | .perform command => command.run
  | .pass name body => do
      let (report, replies) ← runPass Session.procedure Refusal.fault name (Step.runAll body)
      modify fun session => { session with report? := some report }
      return .passed report replies

/-- Carry out steps in order, up to the first refusal. -/
def Step.runAll : List Step → Edit (List Reply)
  | [] => return []
  | step :: rest => do
      let reply ← step.run
      let replies ← Step.runAll rest
      return reply :: replies

end

/-- The outcome of a step, and the procedure's fingerprint after it. -/
structure Record where
  outcome : Except Refusal Reply
  fingerprint : UInt32

/-- Play a whole script, recording every step. -/
def Session.play (session : Session) : List Step → List Record × Session
  | [] => ([], session)
  | step :: rest =>
      let (outcome, next) := step.run.run.run session
      let (records, final) := next.play rest
      (⟨outcome, next.procedure.fingerprint⟩ :: records, final)

end BackendIR
