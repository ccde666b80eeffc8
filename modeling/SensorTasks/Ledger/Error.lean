/-! What can go wrong in the ledger. -/

namespace SensorTasks.Ledger

inductive Collection where
  | task
  | file
  | sensor
  | group
  deriving DecidableEq

def Collection.name : Collection → String
  | .task => "task"
  | .file => "file"
  | .sensor => "sensor"
  | .group => "group"

inductive LedgerError where
  | notFound (collection : Collection) (id : String)
  | duplicateKey (collection : Collection) (key : String)
  /-- The medium under the ledger failed. -/
  | medium (reason : String)
  deriving DecidableEq

def LedgerError.message : LedgerError → String
  | .notFound collection id => collection.name ++ " not found: " ++ id
  | .duplicateKey collection key => "duplicate key in " ++ collection.name ++ ": " ++ key
  | .medium reason => "I/O error: " ++ reason

end SensorTasks.Ledger
