/-!
# Errors

Everything that a store can refuse, by its cause. Causes fall into five classes: the registry of
stores, the shape of a text, the execution of a statement, and features that a store lacks; each
has its wording here.
-/

namespace Polystore

/-- Errors of the registry of stores. -/
inductive RegistryError where
  /-- No store of this name is registered. -/
  | notRegistered (name : String)
  /-- The configuration is of another type than the store's. -/
  | configMismatch (name expected : String)
  /-- The configuration cannot be read. -/
  | invalidConfig (name : String)
deriving DecidableEq

/-- Errors in the shape of a text or of a condition. -/
inductive SyntaxError where
  | invalidStatement (statement text : String)
  | unsupportedStatement (text : String)
  | unterminatedString (input : String)
  | unbalancedParentheses (input : String)
  | unexpectedToken (token : String) (position : Nat)
  | unexpectedEnd (expected : String)
  | unknownOperator (operator : String)
  | malformedCondition (reason : String)
deriving DecidableEq

/-- Errors of the execution of a statement. -/
inductive ExecutionError where
  | tableNotFound (table : String)
  | tableExists (table : String)
  | columnNotFound (table column : String)
  | columnExists (table column : String)
  | indexNotFound (table index : String)
  | indexExists (table index : String)
  | collectionNotFound (collection : String)
  | bucketNotFound (bucket : String)
  | notAnArray (context : String)
  | typeMismatch (column expected value : String)
  | constraintViolation (table message : String)
  | multipleAutoIncrement (table : String)
  | columnCountMismatch (columns values : Nat)
  | missingParameter (index : Nat)
  | notConnected (store : String)
deriving DecidableEq

/-- An error of a store. -/
inductive Error where
  | registry (e : RegistryError)
  | shape (e : SyntaxError)
  | execution (e : ExecutionError)
  /-- The store has no such feature. -/
  | unsupported (feature : String)
deriving DecidableEq

instance : Coe RegistryError Error := ⟨.registry⟩
instance : Coe SyntaxError Error := ⟨.shape⟩
instance : Coe ExecutionError Error := ⟨.execution⟩

/-- The wording of an error of the registry. -/
def RegistryError.message : RegistryError → String
  | .notRegistered name => s!"dialect {name} not registered"
  | .configMismatch name expected => s!"dialect {name} expects a config of type {expected}"
  | .invalidConfig name => s!"invalid config for dialect {name}"

/-- The wording of an error in a shape. -/
def SyntaxError.message : SyntaxError → String
  | .invalidStatement statement text => s!"Invalid {statement} syntax: {text}"
  | .unsupportedStatement text => s!"Unsupported SQL: {text}"
  | .unterminatedString input => s!"Unterminated string literal in: {input}"
  | .unbalancedParentheses input => s!"Unbalanced parentheses in: {input}"
  | .unexpectedToken token position => s!"Unexpected token '{token}' at position {position}"
  | .unexpectedEnd expected => s!"Unexpected end of input, expected {expected}"
  | .unknownOperator operator => s!"Unknown condition operator: {operator}"
  | .malformedCondition reason => s!"Malformed condition: {reason}"

/-- The wording of an error of execution. -/
def ExecutionError.message : ExecutionError → String
  | .tableNotFound table => s!"Table {table} not found"
  | .tableExists table => s!"Table {table} already exists"
  | .columnNotFound table column => s!"Column {column} not found in table {table}"
  | .columnExists table column => s!"Column {column} already exists in table {table}"
  | .indexNotFound table index => s!"Index {index} not found on table {table}"
  | .indexExists table index => s!"Index {index} already exists on table {table}"
  | .collectionNotFound collection => s!"Collection {collection} not found"
  | .bucketNotFound bucket => s!"Bucket {bucket} not found"
  | .notAnArray context => s!"{context}: value is not an array"
  | .typeMismatch column expected value => s!"Column {column} expects {expected}, got {value}"
  | .constraintViolation table message =>
    s!"Constraint violation on table {table}: {message}"
  | .multipleAutoIncrement table => s!"Table {table} declares more than one auto-increment column"
  | .columnCountMismatch columns values =>
    s!"Statement names {columns} columns but supplies {values} values"
  | .missingParameter index => s!"Missing value for parameter #{index}"
  | .notConnected store => s!"Dialect {store} is not connected"

namespace Error

/-- The wording of an error. -/
def message : Error → String
  | .registry e => e.message
  | .shape e => e.message
  | .execution e => e.message
  | .unsupported feature => s!"Unsupported: {feature}"

/-- Whether the error reports that something named does not exist. -/
def isNotFound : Error → Bool
  | .execution (.tableNotFound _) => true
  | .execution (.columnNotFound _ _) => true
  | .execution (.indexNotFound _ _) => true
  | .execution (.collectionNotFound _) => true
  | .execution (.bucketNotFound _) => true
  | _ => false

end Error

/-- The outcome of something a store may refuse. -/
abbrev Outcome (α : Type) := Except Error α

end Polystore
