/-!
# `LspSession.Log.Record`: what is logged

A log record has a level, the part of the program that wrote it, a message, and for a timing also
the operation that was timed. Some records hold further fields, of which only the names are kept.
Parts are named by paths, and a filter picks records by the start of these names and by the names of
their fields.
-/

set_option autoImplicit false

namespace LspSession.Log

/-- How important a record is, from what is only of use in tracing a fault to what is one. -/
inductive Level where
  | trace
  | debug
  | info
  | warn
  | error
  deriving DecidableEq, Repr

namespace Level

/-- The level's place in the order of importance. A filter lets through the ranks from one on. -/
def rank : Level → Nat
  | .trace => 0
  | .debug => 1
  | .info => 2
  | .warn => 3
  | .error => 4

/-- The name under which a level is logged, in capitals. -/
def name : Level → String
  | .trace => "TRACE"
  | .debug => "DEBUG"
  | .info => "INFO"
  | .warn => "WARN"
  | .error => "ERROR"

end Level

/-- The part of the program that writes a record. Filters pick records by it. -/
inductive Source where
  /-- Reading and writing of frames. -/
  | framing
  /-- The session. -/
  | session
  /-- The server's own shown and logged texts. -/
  | server
  /-- The handshake program. -/
  | program
  /-- The program's exchange of bytes with the server. -/
  | pump
  /-- The program's handling of the server process. -/
  | process
  deriving DecidableEq, Repr

/-- The name of a part, which filters refer to. It is a path, so the start of it names several parts
together. -/
def Source.name : Source → String
  | .framing => "lsp_sansio_client::lsp::framing"
  | .session => "lsp_sansio_client::lsp::client"
  | .server => "lsp_server"
  | .program => "lsp_handshake"
  | .pump => "lsp_handshake::io::pump"
  | .process => "lsp_handshake::io::process"

/-- A log record. The `operation` is there for a timing only. -/
structure Record where
  level : Level
  source : Source
  message : String
  operation : Option String
  /-- The names of what is recorded besides the message. -/
  fields : List String
  deriving DecidableEq, Repr

namespace Record

/-- A record of a message alone, without an operation and further fields. -/
def plain (level : Level) (source : Source) (message : String) : Record :=
  ⟨level, source, message, none, []⟩

/-- A record of how long an operation took. The time itself is left out, as no two runs agree on it.
-/
def timing (source : Source) (operation : String) : Record :=
  ⟨.info, source, "Performance timing", some operation, ["operation", "duration_ms", "pid"]⟩

end Record

end LspSession.Log
