import SqlLayer.Result.Store
import SqlLayer.Settings
import SqlLayer.Transaction

/-!
# Drivers

What a connection asks of an engine's driver. Every operation may fail, and the driver after a
failure is the one to go on with.
-/

namespace SqlLayer

/-- The operations of a driver. -/
class Driver (δ : Type) where
  /-- The name under which drivers of this kind are registered. -/
  name : δ → String
  isConnected : δ → Bool
  /-- A value as SQL, at the given moment. -/
  escape : δ → DateTime → Value → Option SqlKind → String
  connect : Parameters → Op δ Unit
  /-- Ends the connection; fails where there is none. -/
  disconnect : Op δ Unit
  /-- Runs a statement and keeps its rows. -/
  execute : String → Op δ Handle
  /-- An operation on a transaction or a savepoint. -/
  transaction : TransactionStep → Option String → Op δ Unit
  /-- The next row of a result; none at its end. -/
  fetch : Handle → Addressing → Op δ (Option Row)
  rowCount : δ → Handle → Except SqlError Nat
  changedRows : δ → Handle → Except SqlError Nat
  /-- The identifier that the last insertion generated, of a sequence where the engine has them. -/
  generatedId : δ → Option String → Except SqlError Nat
  /-- Gives a result up. -/
  free : Handle → Op δ Unit
  /-- Moves a result to a row; false where there is no such row. -/
  seek : Handle → Nat → Op δ Bool

/-- A driver in diagnostics. -/
def Driver.inspect {δ : Type} [Driver δ] (driver : δ) : String :=
  Diagnostic.record "Driver" [("name", Diagnostic.text (Driver.name driver)),
    ("connected", Diagnostic.flag (Driver.isConnected driver))]

end SqlLayer
