import Ledger.Text.Bytes
import Ledger.Files
/-!
# Runs of a command

A command runs in a host that gives it its environment variables, the files of its
working directory, the wall clock in milliseconds, fresh random bytes, and the paths of
the local sockets that accept connections. A run writes lines to standard output and
text to standard error, and then either exits with a status or keeps serving until it
is told to stop, when it writes its last lines and exits with status 0.
-/

namespace Ledger.Command

/-- What a command can see of the machine it runs on. -/
structure Host where
  env : List (String × String) := []
  files : List (String × Bytes) := []
  clockMillis : Int := 0
  random : Bytes := []
  sockets : List String := []
  deriving Repr, Inhabited

namespace Host

/-- The value of an environment variable, if it is set. -/
def lookup (h : Host) (name : String) : Option String := Environment.lookup h.env name

/-- The value of an environment variable, empty when it is not set. -/
def getenv (h : Host) (name : String) : String := (h.lookup name).getD ""

/-- Reads a file of the working directory by its path; a failure is given as its
message. -/
def readFile (h : Host) (path : String) : Except String Bytes := Files.read h.files path

end Host

/-- How a run ends. -/
inductive Ending where
  /-- The command exits by itself with a status. -/
  | exit (code : Nat)
  /-- The command serves until it is told to stop, then writes `farewell` and exits
  with status 0. -/
  | serving (farewell : List String)
  deriving Repr, Inhabited

/-- A run of a command. -/
structure Run where
  stdout : List String := []
  stderr : String := ""
  ending : Ending
  deriving Repr, Inhabited

/-- A run that writes `message` and a line end to standard error and exits with
status 1. -/
def Run.fail (message : String) : Run := { stderr := message ++ "\n", ending := .exit 1 }

end Ledger.Command
