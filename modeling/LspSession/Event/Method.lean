/-!
# `LspSession.Event.Method`: the calls of the server that are understood

Four methods of the server are understood; any other is handed on as it came. Three of them show or
log a text of one of four severities, which the wire numbers from one.
-/

set_option autoImplicit false

namespace LspSession

/-- How serious a shown or logged text is, the kinds of text that the protocol has a number for. -/
inductive Severity where
  | error
  | warning
  | info
  | log
  deriving DecidableEq, Repr

namespace Severity

/-- Every severity, the most serious first, as their numbers go. -/
def all : List Severity := [.error, .warning, .info, .log]

/-- The number of a severity on the wire, in the member `type`, counted from one. -/
def code : Severity → Int64
  | .error => 1
  | .warning => 2
  | .info => 3
  | .log => 4

/-- The severity with a number. Other numbers are no severity, and `Event.readSeverity` refuses
them. -/
def ofCode? (code : Int64) : Option Severity := all.find? fun s => s.code == code

/-- The name of a severity, as it is shown in debug output. -/
def name : Severity → String
  | .error => "Error"
  | .warning => "Warning"
  | .info => "Info"
  | .log => "Log"

/-- A severity is found by its number, so `Severity.code` tells the four apart. -/
theorem ofCode?_code (s : Severity) : ofCode? s.code = some s := by
  cases s <;> decide

end Severity

/-- A method of the server that is understood. Calls of all other methods become
`Event.unsupported`. -/
inductive ServerMethod where
  | showMessage
  | showMessageRequest
  | logMessage
  | publishDiagnostics
  deriving DecidableEq, Repr

namespace ServerMethod

/-- Every method that is understood. `ServerMethod.ofName?` looks a name up in it. -/
def all : List ServerMethod := [.showMessage, .showMessageRequest, .logMessage, .publishDiagnostics]

/-- The name of a method on the wire, with the part of the protocol in front that it belongs to. -/
def name : ServerMethod → String
  | .showMessage => "window/showMessage"
  | .showMessageRequest => "window/showMessageRequest"
  | .logMessage => "window/logMessage"
  | .publishDiagnostics => "textDocument/publishDiagnostics"

/-- The method with a name, one that `ServerMethod.name` gives, which has to match exactly, case and
all. -/
def ofName? (name : String) : Option ServerMethod := all.find? fun m => m.name == name

/-- A method is found by its name, so `ServerMethod.name` tells the methods apart. -/
theorem ofName?_name (m : ServerMethod) : ofName? m.name = some m := by
  cases m <;> decide

end ServerMethod

end LspSession
