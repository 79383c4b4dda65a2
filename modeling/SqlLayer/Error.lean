import SqlLayer.Diagnostic

/-!
# Errors

What can go wrong between an application and an engine. `SqlError.message` is the one place
for the wording; the causes that the library itself finds have names below the type.
-/

namespace SqlLayer

/-- Why a row does not fill a record. -/
inductive FillError where
  /-- A member has another type than the field. -/
  | invalidType (found expected : String)
  /-- A field has no member. -/
  | missingField (name : String)
  /-- Any other reason. -/
  | other (reason : String)
  deriving DecidableEq

namespace FillError

/-- The wording of a reason. -/
def message : FillError → String
  | .invalidType found expected => "invalid type: " ++ found ++ ", expected " ++ expected
  | .missingField name => "missing field `" ++ name ++ "`"
  | .other reason => reason

end FillError

/-- An error of a driver, a connection, a builder or a result. -/
inductive SqlError where
  /-- Connecting or disconnecting failed, or there was no live connection. -/
  | connection (text : String)
  /-- The engine rejected a statement. -/
  | query (code : Option String) (text statement : String)
  /-- A requested column is not in a row. -/
  | fieldNotFound (field : String)
  /-- A statement under construction contradicts itself. -/
  | consistency (text : String)
  /-- A call that can only be a mistake. -/
  | usage (text : String)
  /-- No driver has the requested name. -/
  | unknownDriver (name : String)
  /-- The driver cannot do what was asked. -/
  | notSupported (text : String)
  /-- A value has another kind than requested. -/
  | typeMismatch (text : String)
  /-- Settings cannot be read. -/
  | config (text : String)
  /-- A row does not fill a record. -/
  | hydration (reason : FillError)
  deriving DecidableEq

namespace SqlError

/-- The wording of an error. -/
def message : SqlError → String
  | .connection text => "Connection error: " ++ text
  | .query code text statement =>
    "Query error" ++ (match code with
      | none => ""
      | some c => " [" ++ c ++ "]") ++ ": " ++ text ++ " (query: " ++ statement ++ ")"
  | .fieldNotFound field => "Field \"" ++ field ++ "\" does not exist"
  | .consistency text => "Consistency error: " ++ text
  | .usage text => "Usage error: " ++ text
  | .unknownDriver name => "SQL driver '" ++ name ++ "' does not exist"
  | .notSupported text => "Not supported: " ++ text
  | .typeMismatch text => "Type mismatch: " ++ text
  | .config text => "Configuration error: " ++ text
  | .hydration reason => "Failed to hydrate row: " ++ reason.message

/-- An error as diagnostics show it. -/
def inspect : SqlError → String
  | .connection text => Diagnostic.wrapped "Connection" (Diagnostic.text text)
  | .query code text statement =>
    Diagnostic.record "Query" [("code", Diagnostic.optionalText code),
      ("message", Diagnostic.text text), ("query", Diagnostic.text statement)]
  | .fieldNotFound field => Diagnostic.wrapped "FieldNotFound" (Diagnostic.text field)
  | .consistency text => Diagnostic.wrapped "Consistency" (Diagnostic.text text)
  | .usage text => Diagnostic.wrapped "Usage" (Diagnostic.text text)
  | .unknownDriver name => Diagnostic.wrapped "UnknownDriver" (Diagnostic.text name)
  | .notSupported text => Diagnostic.wrapped "NotSupported" (Diagnostic.text text)
  | .typeMismatch text => Diagnostic.wrapped "TypeMismatch" (Diagnostic.text text)
  | .config text => Diagnostic.wrapped "Config" (Diagnostic.text text)
  | .hydration reason =>
    Diagnostic.wrapped "Hydration" (Diagnostic.wrapped "Error"
      (Diagnostic.text reason.message ++ ", line: 0, column: 0"))

/-- Whether the engine reported the error for a statement. -/
def isStatementError : SqlError → Bool
  | .query .. => true
  | _ => false

/-! ### Causes found by the library -/

/-- An operation needs a connected driver. -/
def noConnection : SqlError := .connection "Not connected to database"

/-- An operation starts while another one holds the driver. -/
def alreadyInUse : SqlError := .usage "Connection is already in use"

/-- One alias stands for two tables. -/
def aliasTaken (name : String) : SqlError :=
  .consistency ("Alias '" ++ name ++ "' already exists")

/-- Settings name no driver. -/
def missingDriver : SqlError := .config "Missing driver 'type'"

/-- A port is no number of sixteen bits. -/
def invalidPort (value : String) : SqlError := .config ("Invalid port '" ++ value ++ "'")

/-- A character set has no usable name. -/
def invalidCharset (name : String) : SqlError :=
  .config ("Invalid charset '" ++ name ++ "'")

end SqlError

end SqlLayer
