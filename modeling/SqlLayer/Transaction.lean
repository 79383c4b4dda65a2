import SqlLayer.Error
import SqlLayer.Text.Search

/-!
# Transactions and savepoints

The statements that open, keep and undo a transaction, or a savepoint within one. Savepoint names
stand in a statement without quotes, so only ASCII letters, digits and underscores make a name,
and a digit does not start one.
-/

namespace SqlLayer

/-- What is done with a transaction. -/
inductive TransactionStep where
  | begin
  | commit
  | rollback
  deriving DecidableEq, Inhabited

/-- What a savepoint name is refused for. -/
inductive SavepointFault where
  | emptyName
  | invalidCharacter (name : String)
  | leadingDigit (name : String)
  deriving DecidableEq

/-- The wording of a refusal. -/
def SavepointFault.message : SavepointFault → String
  | .emptyName => "Savepoint name cannot be empty"
  | .invalidCharacter name =>
    "Savepoint name '" ++ name ++ "' contains invalid characters. " ++
      "Only alphanumeric characters and underscores are allowed"
  | .leadingDigit name => "Savepoint name '" ++ name ++ "' cannot start with a number"

/-- Whether a character may stand in a savepoint name. -/
def isSavepointChar (c : Char) : Bool := c.isAlphanum || c == '_'

/-- What a savepoint name is refused for, if anything. -/
def savepointFault? (name : String) : Option SavepointFault :=
  match name.toList with
  | [] => some .emptyName
  | first :: rest =>
    if !(first :: rest).all isSavepointChar then some (.invalidCharacter name)
    else if first.isDigit then some (.leadingDigit name)
    else none

/-- Refuses what is no savepoint name. -/
def checkSavepoint (name : String) : Except SqlError Unit :=
  match savepointFault? name with
  | none => .ok ()
  | some fault => .error (.usage fault.message)

namespace TransactionStep

/-- The words of an operation on a whole transaction. -/
def plainStatement : TransactionStep → String
  | .begin => "BEGIN"
  | .commit => "COMMIT"
  | .rollback => "ROLLBACK"

/-- The words of an operation in front of a savepoint name. -/
def savepointWords : TransactionStep → String
  | .begin => "SAVEPOINT "
  | .commit => "RELEASE SAVEPOINT "
  | .rollback => "ROLLBACK TO SAVEPOINT "

/-- The statement of an operation on a transaction or on a savepoint. -/
def statement (op : TransactionStep) : Option String → Except SqlError String
  | none => .ok op.plainStatement
  | some name => (checkSavepoint name).map fun _ => op.savepointWords ++ name

end TransactionStep

end SqlLayer
