import TableReaders.Schema.Error
import TableReaders.Schema.Target
import TableReaders.Storage.Error

/-!
What generating can fail with, and the log of what it did. A traced computation has a log whether it
succeeds or fails: on failure the log ends where the computation did.
-/

namespace TableReaders.Package

open Schema Storage

inductive GenerateError where
  | unreadable (error : ReadError)
  | schema (error : CheckError)
  | resolve (error : LookupError)
  | render
  | storage (error : StorageError)
  | noAccessor (table field token : String)
  deriving DecidableEq, Repr

def GenerateError.message : GenerateError → String
  | .unreadable error => "schema parse error: " ++ error.message
  | .schema error => "schema error: " ++ error.message
  | .resolve error => "resolution error: " ++ error.message
  | .render => "render error: an error occurred when formatting an argument"
  | .storage error => "IO error: " ++ error.message
  | .noAccessor table field token =>
      "unresolved type '" ++ token ++ "' in field '" ++ table ++ "." ++ field ++ "'"

inductive Level where
  | info
  | debug
  | error
  deriving DecidableEq, Repr

def Level.label : Level → String
  | .info => "INFO"
  | .debug => "DEBUG"
  | .error => "ERROR"

inductive Entry where
  | tableBegun (table application : String)
  | accessorWritten (field label : String)
  | fieldSkipped (field token : String)
  | tableDone (interface : String) (accessors : Nat)
  | tableFailed (interface : String) (error : GenerateError)
  | applicationDone (files : Nat) (application : String)
  | fileWritten (path : String)
  deriving DecidableEq, Repr

namespace Entry

def level : Entry → Level
  | .tableBegun .. | .tableDone .. | .applicationDone .. => .info
  | .accessorWritten .. | .fieldSkipped .. | .fileWritten _ => .debug
  | .tableFailed .. => .error

def span? : Entry → Option String
  | .tableBegun .. => some "reader_interface"
  | _ => none

def fields : Entry → List (String × String)
  | .tableBegun table application =>
      [("table", table), ("application", application), ("kind", "reader interface")]
  | .accessorWritten field label =>
      [("field", field), ("accessor", label), ("message", "accessor emitted")]
  | .fieldSkipped field token =>
      [("field", field), ("token", token), ("message", "unresolved field type skipped")]
  | .tableDone interface accessors =>
      [("message", "Interface for table " ++ interface ++ " created successfully (" ++
        toString accessors ++ " accessors)")]
  | .tableFailed interface error =>
      [("message", "Interface for table " ++ interface ++ " failed: " ++ error.message)]
  | .applicationDone files application =>
      [("message", "Generated " ++ toString files ++ " reader interfaces for application " ++
        application)]
  | .fileWritten path => [("path", path), ("message", "wrote reader interface")]

end Entry

structure Traced (α : Type) where
  log : List Entry
  result : Except GenerateError α

namespace Traced

variable {α β : Type}

/-- A failed computation is not continued, and its log stays. -/
def bind (first : Traced α) (next : α → Traced β) : Traced β :=
  match first.result with
  | .error error => ⟨first.log, .error error⟩
  | .ok value =>
      let rest := next value
      ⟨first.log ++ rest.log, rest.result⟩

instance : Monad Traced where
  pure value := ⟨[], .ok value⟩
  bind := bind

def silent (result : Except GenerateError α) : Traced α :=
  ⟨[], result⟩

def fail (error : GenerateError) : Traced α :=
  silent (.error error)

def tell (entry : Entry) : Traced Unit :=
  ⟨[entry], .ok ()⟩

@[ext] theorem ext {first second : Traced α} (log : first.log = second.log)
    (result : first.result = second.result) : first = second := by
  cases first
  cases second
  cases log
  cases result
  rfl

theorem pure_bind (value : α) (next : α → Traced β) : (pure value >>= next) = next value :=
  ext (List.nil_append _) rfl

theorem bind_pure (first : Traced α) : first >>= pure = first := by
  obtain ⟨log, result⟩ := first
  cases result with
  | error error => rfl
  | ok value => exact ext (List.append_nil log) rfl

theorem bind_assoc {γ : Type} (first : Traced α) (second : α → Traced β) (third : β → Traced γ) :
    first >>= second >>= third = first >>= fun value => second value >>= third := by
  obtain ⟨log, result⟩ := first
  cases result with
  | error error => rfl
  | ok value =>
      change bind (bind ⟨log, .ok value⟩ second) third = bind ⟨log, .ok value⟩ _
      simp only [bind]
      change _ =
        (⟨log ++ (bind (second value) third).log, (bind (second value) third).result⟩ : Traced γ)
      cases done : (second value).result with
      | error error => simp [bind, done]
      | ok next => simp [bind, done, List.append_assoc]

instance : LawfulMonad Traced :=
  LawfulMonad.mk' Traced bind_pure pure_bind bind_assoc

end Traced

end TableReaders.Package
