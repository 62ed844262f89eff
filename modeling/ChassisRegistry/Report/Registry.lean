import ChassisRegistry.Provisioner.Rehearsal
import ChassisRegistry.Registry.Flush
import ChassisRegistry.Registry.Overlap
import ChassisRegistry.Registry.Reflow
import ChassisRegistry.Report.Chassis
import ChassisRegistry.Report.Inventory
import ChassisRegistry.Report.Refusal

/-! # The registry's answers as JSON -/

namespace ChassisRegistry

open Json (Value natural)

/-! ## Answers -/

/-- An answer. -/
def Answer.toJson : Answer → Value
  | .site s => s.stored
  | .done => .text "ok"
  | .card number => natural number
  | .state s => .text s.name

/-- A finding; `summary` shows a snapshot. -/
def Finding.toJson (summary : String → Value) : Finding → Value
  | .state s => .text s.name
  | .card c => c.toJson
  | .inventory i => i.toJson
  | .snapshot text => summary text

/-- The result of an operation. -/
def Yield.toJson (summary : String → Value) : Yield → Value
  | .answer a => a.toJson
  | .finding f => f.toJson summary

/-! ## Reports -/

/-- A flush. -/
def FlushReport.toJson (r : FlushReport) : Value :=
  .object [("stored", natural r.stored), ("clean", natural r.clean), ("failed", natural r.failed)]

/-- A restoration. -/
def RestoreReport.toJson (r : RestoreReport) : Value :=
  .object [("restored", natural r.restored), ("skipped", natural r.skipped)]

/-- A reflow. -/
def ReflowReport.toJson (r : ReflowReport) : Value :=
  .object [("line_cards", natural r.cards), ("terminals", natural r.terminals),
    ("failures", natural r.failures)]

/-! ## Calls -/

/-- What is handed to the provisioning system. -/
def Call.data : Call → Value
  | .login endpoint => endpoint.stored
  | .addCard notice => notice.toJsonWithLogin
  | .activate notice | .deactivate notice => notice.toJsonWithLogin

/-- The name of the call in a log. -/
def Call.name : Call → String
  | .login _      => "validate_login"
  | .addCard _    => "add_line_card"
  | .activate _   => "activate_terminal"
  | .deactivate _ => "deactivate_terminal"

/-- A call in a log, with whether it was accepted. -/
def Call.logged (call : Call) (accepted : Bool) : Value :=
  .object [("call", .text call.name), ("data", call.data), ("ok", .boolean accepted)]

/-- A recorded call, in short. -/
def Call.brief (call : Call) : Value :=
  .sequence (.text call.operation :: match call with
    | .login endpoint => [.text endpoint.user]
    | .addCard notice => [notice.site.stored, natural notice.number]
    | .activate notice => [.text notice.subscriber, .text notice.serial]
    | .deactivate notice => [.text notice.subscriber])

end ChassisRegistry
