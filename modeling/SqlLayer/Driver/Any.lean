import SqlLayer.Driver.MySql
import SqlLayer.Driver.Recording
import SqlLayer.Driver.Sqlite

/-!
# Drivers of every kind

One type for the drivers that the library brings, with the operations of each.
-/

namespace SqlLayer

/-- A driver of one of the kinds that the library brings. -/
inductive AnyDriver where
  | mysql (d : MySqlDriver)
  | sqlite (d : SqliteDriver)
  | recording (d : Recorder)
  deriving DecidableEq

namespace AnyDriver

/-- The recording driver in it. -/
def recorder? : AnyDriver → Option Recorder
  | .recording r => some r
  | _ => none

/-- Changes the recording driver in it. -/
def mapRecorder (f : Recorder → Recorder) : AnyDriver → AnyDriver
  | .recording r => .recording (f r)
  | d => d

/-- Performs an operation that every kind has. -/
def perform {α : Type} (mysql : Op MySqlDriver α) (sqlite : Op SqliteDriver α)
    (recording : Op Recorder α) : Op AnyDriver α
  | .mysql d => mysql.onPart d .mysql
  | .sqlite d => sqlite.onPart d .sqlite
  | .recording d => recording.onPart d .recording

end AnyDriver

instance : Driver AnyDriver where
  name
    | .mysql d => Driver.name d
    | .sqlite d => Driver.name d
    | .recording d => Driver.name d
  isConnected
    | .mysql d => Driver.isConnected d
    | .sqlite d => Driver.isConnected d
    | .recording d => Driver.isConnected d
  escape
    | .mysql d => Driver.escape d
    | .sqlite d => Driver.escape d
    | .recording d => Driver.escape d
  connect s := AnyDriver.perform (Driver.connect s) (Driver.connect s) (Driver.connect s)
  disconnect := AnyDriver.perform Driver.disconnect Driver.disconnect Driver.disconnect
  execute s := AnyDriver.perform (Driver.execute s) (Driver.execute s) (Driver.execute s)
  transaction op s :=
    AnyDriver.perform (Driver.transaction op s) (Driver.transaction op s) (Driver.transaction op s)
  fetch h mode :=
    AnyDriver.perform (Driver.fetch h mode) (Driver.fetch h mode) (Driver.fetch h mode)
  rowCount
    | .mysql d => Driver.rowCount d
    | .sqlite d => Driver.rowCount d
    | .recording d => Driver.rowCount d
  changedRows
    | .mysql d => Driver.changedRows d
    | .sqlite d => Driver.changedRows d
    | .recording d => Driver.changedRows d
  generatedId
    | .mysql d => Driver.generatedId d
    | .sqlite d => Driver.generatedId d
    | .recording d => Driver.generatedId d
  free h := AnyDriver.perform (Driver.free h) (Driver.free h) (Driver.free h)
  seek h row := AnyDriver.perform (Driver.seek h row) (Driver.seek h row) (Driver.seek h row)

end SqlLayer
