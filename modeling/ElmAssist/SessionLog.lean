/-
  Session logs.

  Each session writes a log of its own into one directory.  When a session starts,
  logs that have not been written to for a week are removed; other files and
  directories are left alone.
-/
import ElmAssist.Text.Split

namespace ElmAssist.SessionLog

/-- How long logs are kept, in milliseconds. -/
def retention : Int := 7 * 24 * 60 * 60 * 1000

/-- A file or directory among the logs. -/
structure LogEntry where
  name : String
  isFile : Bool
  /-- The milliseconds since the last change; negative for a change that lies in
      the future. -/
  age : Int
  deriving DecidableEq, Repr

/-- Whether a name is that of a session log. -/
def isLogName (name : String) : Bool :=
  Text.begins name "session-" && ".log".toList.isSuffixOf name.toList

/-- Whether an entry is removed when a session starts. -/
def isExpired (e : LogEntry) : Bool :=
  e.isFile && isLogName e.name && retention < e.age

/-- The directory of the logs as a session finds it. -/
inductive LogDirectory where
  /-- A directory with its entries. -/
  | entries (entries : List LogEntry)
  /-- Something that is no directory stands in its place. -/
  | blocked
  deriving DecidableEq, Repr

/-- What starting the log of a session does: the entries that stay, and the number
    of logs that are made; `none` if the log cannot be started. -/
def start? (toFile : Bool) (dir : LogDirectory) : Option (List LogEntry × Nat) :=
  match toFile, dir with
  | false, .entries entries => some (entries, 0)
  | false, .blocked => some ([], 0)
  | true, .entries entries => some (entries.filter (!isExpired ·), 1)
  | true, .blocked => none

end ElmAssist.SessionLog
