/-
Log entries.

Work that can go on after a problem reports it in a log. A value with the entries that its making has
led to is a logged value, and steps in a row add up their entries.
-/
import DocSite.Text.Basic

namespace DocSite

/-- How much an entry matters. A notice is no entry of the log proper: it is printed beside the log whatever
level the log is shown from, and it is written in markup. -/
inductive LogLevel where
  | debug
  | info
  | warning
  | notice
  deriving DecidableEq, Repr

def LogLevel.rank : LogLevel → Nat
  | .debug => 0
  | .info => 1
  | .warning => 2
  | .notice => 3

def LogLevel.name : LogLevel → Text
  | .debug => "DEBUG".toList
  | .info => "INFO".toList
  | .warning => "WARNING".toList
  | .notice => "NOTICE".toList

structure LogEntry where
  level : LogLevel
  message : Text
  deriving DecidableEq, Repr

abbrev Log := List LogEntry

def LogEntry.reaches (threshold : LogLevel) (entry : LogEntry) : Bool :=
  threshold.rank ≤ entry.level.rank

def LogEntry.text (entry : LogEntry) : Text :=
  entry.level.name ++ ':' :: ' ' :: entry.message

structure Logged (α : Type) where
  value : α
  log : Log := []

namespace Logged

instance : Monad Logged where
  pure value := ⟨value, []⟩
  bind first next :=
    let second := next first.value
    ⟨second.value, first.log ++ second.log⟩

def note (level : LogLevel) (message : Text) : Logged Unit :=
  ⟨(), [⟨level, message⟩]⟩

def warn (message : Text) : Logged Unit := note .warning message

end Logged

end DocSite
