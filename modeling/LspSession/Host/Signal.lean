/-!
# `LspSession.Host.Signal`: signals

A signal is a number that reaches a process from outside. Unless the process has said what is to be
done about it, most signals end the process, a few suspend it, one lets it go on again, and some do
nothing.
-/

set_option autoImplicit false

namespace LspSession

namespace Signal

/-- The names of the signals with their numbers. -/
def table : List (Nat × String) :=
  [(1, "HUP"), (2, "INT"), (3, "QUIT"), (4, "ILL"), (5, "TRAP"), (6, "ABRT"), (7, "BUS"),
    (8, "FPE"), (9, "KILL"), (10, "USR1"), (11, "SEGV"), (12, "USR2"), (13, "PIPE"), (14, "ALRM"),
    (15, "TERM"), (16, "STKFLT"), (17, "CHLD"), (18, "CONT"), (19, "STOP"), (20, "TSTP"),
    (21, "TTIN"), (22, "TTOU"), (23, "URG"), (24, "XCPU"), (25, "XFSZ"), (26, "VTALRM"),
    (27, "PROF"), (28, "WINCH"), (29, "IO"), (30, "PWR"), (31, "SYS")]

/-- The signal of a name. -/
def ofName? (name : String) : Option Nat :=
  (table.find? fun (_, other) => other == name).map (·.1)

/-- The greatest number of a signal. -/
def greatest : Nat := 64

/-- The signal that ends a process whatever it does. -/
def kill : Nat := 9

/-- The signal for writing where nobody can read. -/
def pipe : Nat := 13

/-- The signal that asks a process to end. -/
def terminate : Nat := 15

/-- The signal that lets a process go on. -/
def continue_ : Nat := 18

/-- The signal that suspends a process whatever it does. -/
def stop : Nat := 19

/-- What a signal does. -/
inductive Effect where
  | ends
  | suspends
  | continues
  | nothing
  deriving DecidableEq, Repr

/-- What a signal does unless something else is said. -/
def effect (signal : Nat) : Effect :=
  if signal = continue_ then .continues
  else if [stop, 20, 21, 22].contains signal then .suspends
  else if [17, 23, 28].contains signal then .nothing
  else .ends

/-- Whether a process can say what is to be done about a signal. -/
def isCatchable (signal : Nat) : Bool := signal != kill && signal != stop

end Signal

end LspSession
