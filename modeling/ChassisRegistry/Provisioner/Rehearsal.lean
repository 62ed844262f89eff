import ChassisRegistry.Provisioner

/-! # Provisioning systems for rehearsal

    Systems that stand in for a real one. A dry run accepts every call. A
    recording keeps the calls that it accepted and can be told to refuse all
    calls or the logins of a user. A rehearsal is one of the two behind a list
    of names that are refused afterwards, and keeps a log of all calls. -/

namespace ChassisRegistry

/-- Accepts every call. -/
def dryRun : Provisioner Unit := fun _ s => (.ok (), s)

/-! ## Recordings -/

/-- A system that records the calls that it accepts. -/
structure Recording where
  calls         : List Call := []
  /-- The refusal of every call, if it is set. -/
  failure       : Option ProvisionerError := none
  /-- Users whose logins are refused. -/
  rejectedUsers : List String := []

namespace Recording

/-- The refusal of a call, if it is refused. The one of a user goes before the one of every call. -/
def refusal? (r : Recording) : Call → Option ProvisionerError
  | .login endpoint =>
      if r.rejectedUsers.contains endpoint.user then
        some (.loginRejected endpoint.user endpoint.address)
      else r.failure
  | _ => r.failure

/-- Answers a call. -/
def reply : Provisioner Recording := fun call r =>
  match r.refusal? call with
  | some e => (.error e, r)
  | none => (.ok (), { r with calls := r.calls ++ [call] })

end Recording

/-! ## Rehearsals -/

/-- The name by which a call is refused: of a login the user, of a card the host, of a terminal the
    subscriber. -/
def Call.key : Call → String
  | .login endpoint => endpoint.user
  | .addCard notice => notice.hostname
  | .activate notice | .deactivate notice => notice.subscriber

/-- A stand-in with a list of refused names and a log. -/
structure Rehearsal where
  /-- The recording behind it; without one every call is accepted. -/
  recording   : Option Recording
  refusedKeys : List String := []
  /-- Every call, and whether it was accepted. -/
  log         : List (Call × Bool) := []

namespace Rehearsal

/-- A rehearsal with a recording. -/
def recorded : Rehearsal := { recording := some {} }

/-- A rehearsal that is a dry run. -/
def dry : Rehearsal := { recording := none }

/-- Changes the recording, if there is one. -/
def modify (r : Rehearsal) (f : Recording → Recording) : Rehearsal :=
  { r with recording := r.recording.map f }

/-- The recorded calls. -/
def calls (r : Rehearsal) : List Call :=
  match r.recording with
  | some recording => recording.calls
  | none => []

/-- What is behind the list of names answers. -/
def inner (call : Call) : Option Recording → Except ProvisionerError Unit × Option Recording
  | none => (.ok (), none)
  | some recording =>
      let (answer, recording) := Recording.reply call recording
      (answer, some recording)

/-- Answers a call. A refused name is looked at when the call was accepted behind it. -/
def reply : Provisioner Rehearsal := fun call r =>
  let (answer, recording) := inner call r.recording
  let answer := match answer with
    | .error e => .error e
    | .ok () =>
        if r.refusedKeys.contains call.key then .error (.rejected ("refused " ++ call.key))
        else .ok ()
  (answer, { r with recording, log := r.log ++ [(call, answer.isOk)] })

end Rehearsal

end ChassisRegistry
