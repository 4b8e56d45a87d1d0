import Targeting.Keyed
import Targeting.Log.Line
import Targeting.Settings

/-!
# Log outlets

Where log lines go. Configuring installs a console handler, and a file handler
if the settings name a file, in place of those of the last configuration, which
are known by a mark; the handlers of the host application and the root logger
are left alone. A file that would grow too large is first moved out of the way.

Lines are kept without their time, which has the same width in every line.
-/
namespace Targeting.Log

/-- The width of the time in front of a line, with the bar after it. -/
def stampWidth : Nat := 22

/-- The name of the logger that all loggers of the library descend from. -/
def packageLogger : String := "entity_selector"

/-- A file that is moved away before it reaches `limit` bytes; `backups` old ones are kept. -/
structure LogFile where
  path : String
  limit : Int
  backups : Int
deriving DecidableEq, Repr

/-- Where a handler puts its lines. -/
inductive Sink where
  | console
  | file (file : LogFile)
  /-- Something else that the host writes to. -/
  | other (kind : String)
deriving DecidableEq, Repr

/-- Handlers with the same sink are told apart by their numbers. -/
structure Handler where
  number : Nat
  sink : Sink
  /-- Whether a configuration installed it, and gave its lines their form. -/
  marked : Bool := false
deriving DecidableEq, Repr

def Handler.mark (h : Handler) : Handler := { h with marked := true }

structure Logger where
  weight : Int
  handlers : List Handler := []
deriving DecidableEq, Repr

namespace Logger

/-- A handler is attached once. -/
def attach (l : Logger) (h : Handler) : Logger :=
  if h ∈ l.handlers then l else { l with handlers := l.handlers ++ [h] }

def detach (l : Logger) (h : Handler) : Logger := { l with handlers := l.handlers.erase h }

end Logger

abbrev Files := List (String × List String)

structure Outlets where
  root : Logger := { weight := 30 }
  package : Logger := { weight := 0 }
  /-- How many handlers were made by configurations. -/
  made : Nat := 0
  closed : List Handler := []
  console : List String := []
  files : Files := []
deriving DecidableEq, Repr

namespace LogFile

def backupPath (f : LogFile) (n : Nat) : String := f.path ++ "." ++ toString n

def storedSize (lines : List String) : Nat :=
  lines.foldr (fun line size => stampWidth + line.utf8ByteSize + 1 + size) 0

/-- Whether the file has to be moved away before the line is written. The line counts its
characters. -/
def isFull (f : LogFile) (files : Files) (line : String) : Bool :=
  let stored := storedSize ((Keyed.get? f.path files).getD [])
  0 < f.limit && f.limit ≤ stored + stampWidth + line.length + 1

/-- Moves a file, if it exists, over another. -/
def move (source target : String) (files : Files) : Files :=
  match Keyed.get? source files with
  | none => files
  | some lines => Keyed.put target lines (Keyed.remove source files)

/-- Moves the n-th old file and those before it one place up. -/
def shiftBackups (f : LogFile) : Nat → Files → Files
  | 0, files => files
  | n + 1, files =>
    f.shiftBackups n (move (f.backupPath (n + 1)) (f.backupPath (n + 2)) files)

/-- Starts a new file; without backups the old one goes on. -/
def roll (f : LogFile) (files : Files) : Files :=
  if 0 < f.backups then
    let shifted := f.shiftBackups (f.backups.toNat - 1) files
    -- The oldest file is written over, and the first place is freed for the current one.
    Keyed.put f.path [] (move f.path (f.backupPath 1) (Keyed.remove (f.backupPath 1) shifted))
  else files

def write (f : LogFile) (line : String) (files : Files) : Files :=
  let ready := if f.isFull files line then f.roll files else files
  Keyed.put f.path ((Keyed.get? f.path ready).getD [] ++ [line]) ready

/-- Opens the file, which keeps the lines that it has. -/
def create (f : LogFile) (files : Files) : Files :=
  Keyed.put f.path ((Keyed.get? f.path files).getD []) files

end LogFile

/-- Resolves the steps `.` and `..` of a relative path. -/
def plainPath (path : String) : String :=
  let step (kept : List String) (part : String) : List String :=
    if part = "" || part = "." then kept else if part = ".." then kept.dropLast else kept ++ [part]
  "/".intercalate ((path.splitOn "/").foldl step [])

namespace Outlets

/-- Handles a line. What the handlers of the host make of it is not kept. -/
def handle (line : String) (o : Outlets) (h : Handler) : Outlets :=
  match h.marked, h.sink with
  | true, .console => { o with console := o.console ++ [line] }
  | true, .file f => { o with files := f.write line o.files }
  | _, _ => o

/-- Hands a record to the package logger, whose handlers handle it if it weighs enough. -/
def emit (o : Outlets) (record : Record) : Outlets :=
  if record.weight < o.package.weight then o
  else o.package.handlers.foldl (handle record.body) o

/-- Whether a logger hands its records to the package logger. -/
def descends (logger : String) : Bool :=
  logger = packageLogger || (packageLogger ++ ".").toList.isPrefixOf logger.toList

def log (o : Outlets) (logger : String) (record : Record) : Outlets :=
  if descends logger then o.emit record else o

def sinksOf (settings : Settings) (limit backups : Int) : List Sink :=
  match settings.logFile with
  | none => [.console]
  | some path =>
    if path.isEmpty then [.console] else [.console, .file ⟨plainPath path, limit, backups⟩]

def openSink (files : Files) : Sink → Files
  | .file f => f.create files
  | _ => files

/-- Detaches a handler and closes it. -/
def discard (o : Outlets) (h : Handler) : Outlets :=
  { o with package := o.package.detach h, closed := o.closed ++ [h] }

/-- Discards what is marked of the handlers that are attached when it begins. -/
def clear (o : Outlets) : Outlets :=
  o.package.handlers.foldl (fun o h => if h.marked then o.discard h else o) o

/-- Makes a handler, marks it and attaches it. -/
def install (o : Outlets) (sink : Sink) : Outlets :=
  { o with
    package := o.package.attach (Handler.mark { number := o.made, sink })
    made := o.made + 1
    files := openSink o.files sink }

def defaultLimit : Int := 10485760

def defaultBackups : Int := 5

/-- Installs the handlers that settings ask for, in place of those installed before. -/
def configure (o : Outlets) (settings : Settings) (limit backups : Int) : Outlets :=
  let weighed := { o with package := { o.package with weight := settings.logLevel.weight } }
  ((sinksOf settings limit backups).foldl install weighed.clear).emit
    { weight := Level.debug.weight
      message := "Selector logging configured (level=" ++ settings.logLevel.name ++ ")" }

end Outlets

end Targeting.Log
