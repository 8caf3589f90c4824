/-! Why something could not be stored or fetched, and attempts that may fail halfway. -/

namespace TableReaders.Storage

inductive StorageError where
  | notFound
  | notADirectory
  | isADirectory
  | nameTooLong
  | badName
  | full
  | notText
  deriving DecidableEq, Repr

def StorageError.message : StorageError → String
  | .notFound => "no such file or directory"
  | .notADirectory => "not a directory"
  | .isADirectory => "is a directory"
  | .nameTooLong => "file name too long"
  | .badName => "file name holds a zero character"
  | .full => "no room left"
  | .notText => "contents are not valid UTF-8"

/-- What an operation on a store leaves behind, and why it failed if it did. A failed attempt may
have changed the store. -/
structure Attempt (σ : Type) where
  store : σ
  failure : Option StorageError := none

end TableReaders.Storage
