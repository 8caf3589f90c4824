import TableReaders.Package.File
import TableReaders.Storage.Disk
import TableReaders.Storage.Sink

/-!
From and to storage. Everything is generated before anything is written: a run that fails to
generate leaves storage as it was. Files are written in order, and the first that cannot be written
ends the run.
-/

namespace TableReaders.Package

open Schema Storage

variable (settings : Settings)

def generateStored (disk : Disk) (path : String) : Traced (List File) := do
  let text ← .silent ((disk.readText path).mapError .storage)
  generateDocument settings text

/-- Writes files into a directory, one after another, and gives their paths. The files before a
failure stay. -/
def putFiles {σ : Type} [Store σ] (directory : String) : σ → List File → Traced (List String) × σ
  | store, [] => (pure [], store)
  | store, file :: rest =>
      let path := joinPath directory file.name
      let attempt := Store.putFile store path file.contents
      match attempt.failure with
      | some error => (.fail (.storage error), attempt.store)
      | none =>
          let later := putFiles directory attempt.store rest
          (do
            .tell (.fileWritten path)
            let paths ← later.1
            return path :: paths,
          later.2)

def write {σ : Type} [Store σ] (application : Application) (directory : String) (store : σ) :
    Traced (List String) × σ :=
  let generated := generate settings application
  match generated.result with
  | .error error => (⟨generated.log, .error error⟩, store)
  | .ok files =>
      let made := Store.makeDirectory store directory
      match made.failure with
      | some error => (⟨generated.log, .error (.storage error)⟩, made.store)
      | none =>
          let put := putFiles directory made.store files
          (⟨generated.log ++ put.1.log, put.1.result⟩, put.2)

def Interface.writeTo {σ : Type} (take : σ → ByteArray → Attempt σ) (resolve : Resolver)
    (table : Table) (receiver : σ) : Traced Unit × σ :=
  let rendered := Interface.render settings resolve table
  match rendered.result with
  | .error error => (⟨rendered.log, .error error⟩, receiver)
  | .ok text =>
      let attempt := take receiver text.toUTF8
      match attempt.failure with
      | some error => (⟨rendered.log, .error (.storage error)⟩, attempt.store)
      | none => (⟨rendered.log, .ok ()⟩, attempt.store)

def Interface.write (resolve : Resolver) (table : Table) (sink : Sink) : Traced Unit × Sink :=
  Interface.writeTo settings Sink.write resolve table sink

end TableReaders.Package
