/-!
What a build tells its user, line by line.
-/
namespace MustacheBuild

inductive Severity where
  | message
  | warning
  | error
  deriving DecidableEq, Repr

def Severity.name : Severity → String
  | message => "message"
  | warning => "warning"
  | error => "error"

structure LogEntry where
  severity : Severity
  text : String
  deriving DecidableEq, Repr

def LogEntry.display (e : LogEntry) : String := s!"{e.severity.name}: {e.text}"

end MustacheBuild
