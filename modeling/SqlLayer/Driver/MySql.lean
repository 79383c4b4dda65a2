import SqlLayer.Dialect
import SqlLayer.Driver

/-!
# The MySQL driver

The driver up to the point where a server takes over: its way of escaping, its checks before it
connects, and its behaviour while it is not connected. No server is in reach, so it never is.
-/

namespace SqlLayer

/-- A MySQL driver. It holds no connection. -/
structure MySqlDriver where
  deriving DecidableEq, Inhabited

namespace MySqlDriver

/-- The character set of a connection that names none. -/
def usualCharset : String := "utf8mb4"

/-- Whether a character set has a name that may stand in a statement. -/
def isCharsetName (name : String) : Bool :=
  name ≠ "" && name.toList.all fun c => c.isAlphanum || c == '_'

/-- The character set that settings ask for. -/
def charset (s : Parameters) : String := (s.option? "charset").getD usualCharset

/-- The host that settings name. -/
def host (s : Parameters) : String := s.server.getD "localhost"

/-- Checks the character set and looks for the server. -/
def connect (s : Parameters) : Op MySqlDriver Unit :=
  if isCharsetName (charset s) then
    Op.fail (.connection ("Cannot reach MySQL server '" ++ host s ++ "'"))
  else Op.fail (.invalidCharset (charset s))

/-- An operation on a transaction: the savepoint name is checked first. -/
def transaction (op : TransactionStep) (savepoint : Option String) : Op MySqlDriver Unit :=
  match op.statement savepoint with
  | .error e => Op.fail e
  | .ok _ => Op.fail .noConnection

end MySqlDriver

instance : Driver MySqlDriver where
  name _ := "mysql"
  isConnected _ := false
  escape _ now v tag := Dialect.mysql.escape now v tag
  connect := MySqlDriver.connect
  disconnect := Op.fail .noConnection
  execute _ := Op.fail .noConnection
  transaction := MySqlDriver.transaction
  fetch h _ := Op.fail (.unknownHandle h)
  rowCount _ h := .error (.unknownHandle h)
  changedRows _ h := .error (.unknownHandle h)
  generatedId _ _ := .error .noConnection
  free h := Op.fail (.unknownHandle h)
  seek h _ := Op.fail (.unknownHandle h)

end SqlLayer
