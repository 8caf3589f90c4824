import TableReaders.Package.Delivery
import TableReaders.Proofs.Package.Declarations
import TableReaders.Proofs.Storage.Disk

/-!
What is in storage after a package was written. Files go out one after another, so at a path stands
the last file that was written there. The name of a file is the snake case of its table's name,
which tables of different names may share: then the later file replaces the earlier one, and both
paths are reported.
-/

namespace TableReaders.Package

open Schema Storage

section Run

variable {σ : Type} [Store σ] {directory : String} {store : σ} {files : List File}
  {paths : List String}

def afterFile (directory : String) (store : σ) (file : File) : σ :=
  (Store.putFile store (joinPath directory file.name) file.contents).store

theorem putFiles_cons_eq_ok {file : File}
    (run : (putFiles directory store (file :: files)).1.result = .ok paths) :
    (Store.putFile store (joinPath directory file.name) file.contents).failure = none ∧
      (putFiles directory store (file :: files)).2 =
        (putFiles directory (afterFile directory store file) files).2 ∧
      ∃ later, (putFiles directory (afterFile directory store file) files).1.result = .ok later ∧
        paths = joinPath directory file.name :: later := by
  rw [putFiles] at run ⊢
  cases put : (Store.putFile store (joinPath directory file.name) file.contents).failure with
  | some error =>
      rw [put] at run
      cases run
  | none =>
      simp only [put, Traced.result_bind, Traced.result_tell, bind_eq_ok] at run
      obtain ⟨_, _, later, others, same⟩ := run
      exact ⟨rfl, rfl, later, others, (Except.ok.inj same).symm⟩

theorem putFiles_paths (run : (putFiles directory store files).1.result = .ok paths) :
    paths = files.map fun file => joinPath directory file.name := by
  induction files generalizing store paths with
  | nil =>
      cases run
      rfl
  | cons file rest ih =>
      obtain ⟨_, _, later, others, same⟩ := putFiles_cons_eq_ok run
      rw [same, ih others, List.map_cons]

def latest? (files : List File) (name : String) : Option File :=
  files.reverse.find? (·.name == name)

theorem latest?_cons (file : File) (rest : List File) (name : String) :
    latest? (file :: rest) name =
      (latest? rest name).or (if file.name = name then some file else none) := by
  rw [latest?, List.reverse_cons, List.find?_append]
  by_cases here : file.name = name <;> simp [latest?, here]

theorem latest?_of_mem {file : File} (member : file ∈ files) :
    ∃ last ∈ files, latest? files file.name = some last ∧ last.name = file.name := by
  have present : (latest? files file.name).isSome = true := by
    rw [latest?, List.find?_isSome]
    exact ⟨file, List.mem_reverse.mpr member, beq_self_eq_true _⟩
  obtain ⟨last, found⟩ := Option.isSome_iff_exists.mp present
  have named := List.find?_some found
  exact ⟨last, List.mem_reverse.mp (List.mem_of_find?_eq_some found), found, eq_of_beq named⟩

variable {text? : σ → String → Option String} {known : String → Prop}

theorem text?_putFiles (maps : Store.MapsOn text? known)
    (inside : ∀ file ∈ files, known (joinPath directory file.name))
    (run : (putFiles directory store files).1.result = .ok paths) {name : String}
    (asked : known (joinPath directory name)) :
    text? (putFiles directory store files).2 (joinPath directory name) =
      ((latest? files name).map File.contents).or (text? store (joinPath directory name)) := by
  -- Writing the first file is a step, and what it left stays unless a later file has its name.
  induction files generalizing store paths with
  | nil => rfl
  | cons file rest ih =>
      obtain ⟨put, after, later, others, _⟩ := putFiles_cons_eq_ok run
      have first := maps store _ file.contents _ (inside file List.mem_cons_self) asked put
      rw [after, ih (fun other member => inside other (List.mem_cons_of_mem file member)) others,
        latest?_cons, afterFile, first]
      -- A later file of that name wins. Without one it is this file, or what was there before.
      cases latest? rest name with
      | some last => rfl
      | none =>
          by_cases here : name = file.name
          · simp [here]
          · simp [joinPath_inj, here, Ne.symm here]

/-- All files can be read afterwards exactly if those that share a name do not differ. -/
theorem putFiles_kept_iff (maps : Store.MapsOn text? known)
    (inside : ∀ file ∈ files, known (joinPath directory file.name))
    (run : (putFiles directory store files).1.result = .ok paths) :
    List.Forall₂
      (fun path file => text? (putFiles directory store files).2 path = some file.contents)
        paths files ↔
      ∀ first ∈ files, ∀ second ∈ files, first.name = second.name →
        first.contents = second.contents := by
  rw [putFiles_paths run, List.forall₂_map_left_iff, List.forall₂_same]
  constructor
  · intro kept first one second other same
    -- What is read at the common path is the text of either file.
    have here := kept first one
    rw [same, kept second other] at here
    exact (Option.some.inj here).symm
  · intro agree file member
    obtain ⟨last, listed, found, same⟩ := latest?_of_mem member
    rw [text?_putFiles maps inside run (inside file member), found]
    exact congrArg some (agree last listed file member same)

end Run

section Written

variable {σ : Type} [Store σ] {settings : Settings} {application : Application} {directory : String}
  {store : σ} {files : List File} {paths : List String}

theorem write_eq_ok (written : (write settings application directory store).1.result = .ok paths) :
    ∃ files, (generate settings application).result = .ok files ∧
      (putFiles directory (Store.makeDirectory store directory).store files).1.result = .ok paths ∧
      (write settings application directory store).2 =
        (putFiles directory (Store.makeDirectory store directory).store files).2 := by
  unfold write at written ⊢
  cases generated : (generate settings application).result with
  | error error =>
      simp only [generated] at written
      cases written
  | ok files =>
      cases made : (Store.makeDirectory store directory).failure with
      | some error =>
          simp only [generated, made] at written
          cases written
      | none =>
          simp only [generated, made] at written ⊢
          exact ⟨files, rfl, written, rfl⟩

theorem File.named_of_ofTable {table : Table} {file : File}
    (made : (File.ofTable settings application table).result = .ok file) :
    file.table = table.name ∧ file.name = File.nameFor settings table := by
  obtain ⟨draft, _, same⟩ := File.ofTable_eq_ok.mp made
  subst same
  exact ⟨rfl, rfl⟩

theorem generated_tables (generated : (generate settings application).result = .ok files) :
    List.Forall₂ (fun table file => file.table = table.name ∧
      file.name = File.nameFor settings table)
      application.tables files := by
  obtain ⟨_, all⟩ := generate_eq_ok.mp generated
  apply all.imp
  intro table file made
  exact File.named_of_ofTable made

theorem nameFor_eq_iff {first second : Table} :
    File.nameFor settings first = File.nameFor settings second ↔
      Identifier.snakeCase first.name = Identifier.snakeCase second.name := by
  simp [File.nameFor, String.append_left_inj]

/-- Files are named like their tables, so what is asked of their names is asked of snake case. -/
theorem generated_name_eq_iff (generated : (generate settings application).result = .ok files)
    {first second : File} (one : first ∈ files) (other : second ∈ files) :
    first.name = second.name ↔
      Identifier.snakeCase first.table = Identifier.snakeCase second.table := by
  have paired := (generated_tables generated).flip
  obtain ⟨table, _, called, named⟩ := exists_of_forall₂ paired one
  obtain ⟨rival, _, calledToo, namedToo⟩ := exists_of_forall₂ paired other
  rw [named, namedToo, called, calledToo, nameFor_eq_iff]

theorem generated_names (generated : (generate settings application).result = .ok files) :
    files.map File.name = application.tables.map (File.nameFor settings) := by
  symm
  rw [← List.forall₂_eq_eq_eq, List.forall₂_map_left_iff, List.forall₂_map_right_iff]
  exact (generated_tables generated).imp fun _ _ both => both.2.symm

theorem generated_names_nodup_iff (generated : (generate settings application).result = .ok files) :
    (files.map File.name).Nodup ↔
      (application.tables.map fun table => Identifier.snakeCase table.name).Nodup := by
  rw [generated_names generated, List.nodup_iff_pairwise_ne, List.nodup_iff_pairwise_ne,
    List.pairwise_map, List.pairwise_map]
  simp only [ne_eq, nameFor_eq_iff]

/-- Where a store is a map from paths to texts, every file of a package that was written can be read
from its path exactly if no two different files belong to tables of one snake case. -/
theorem written_kept_iff {text? : σ → String → Option String}
    (maps : Store.MapsOn text? fun path =>
      ∃ table ∈ application.tables, path = joinPath directory (File.nameFor settings table))
    (written : (write settings application directory store).1.result = .ok paths) :
    ∃ files, (generate settings application).result = .ok files ∧
      paths = files.map (fun file => joinPath directory file.name) ∧
      (List.Forall₂ (fun path file =>
          text? (write settings application directory store).2 path = some file.contents)
            paths files ↔
        ∀ first ∈ files, ∀ second ∈ files,
          Identifier.snakeCase first.table = Identifier.snakeCase second.table →
            first.contents = second.contents) ∧
      ((files.map File.name).Nodup ↔
        (application.tables.map fun table => Identifier.snakeCase table.name).Nodup) := by
  obtain ⟨files, generated, run, after⟩ := write_eq_ok written
  have inside : ∀ file ∈ files, ∃ table ∈ application.tables,
      joinPath directory file.name = joinPath directory (File.nameFor settings table) := by
    intro file member
    obtain ⟨table, listed, _, named⟩ := exists_of_forall₂ (generated_tables generated).flip member
    exact ⟨table, listed, by rw [named]⟩
  refine ⟨files, generated, putFiles_paths run, ?_, generated_names_nodup_iff generated⟩
  rw [after, putFiles_kept_iff maps inside run]
  constructor
  · intro agree first one second other same
    exact agree first one second other ((generated_name_eq_iff generated one other).mpr same)
  · intro agree first one second other same
    exact agree first one second other ((generated_name_eq_iff generated one other).mp same)

/-- A file shows what its table exports, so tables that export different names have different
files. -/
theorem exported_of_contents {table rival : Table} {file other : File}
    (accepted : application.Accepted) (packaged : SingleLine settings.vectorPackage)
    (one : table ∈ application.tables) (another : rival ∈ application.tables)
    (made : (File.ofTable settings application table).result = .ok file)
    (madeToo : (File.ofTable settings application rival).result = .ok other)
    (same : file.contents = other.contents) :
    Identifier.exported table.name = Identifier.exported rival.name := by
  have declared : file.interfaces = other.interfaces := by
    rw [File.interfaces, same, File.interfaces]
  rw [interfaces_exact accepted packaged one made,
    interfaces_exact accepted packaged another madeToo]
    at declared
  exact Identifier.rowInterface_eq_iff.mp (List.cons_eq_cons.mp declared).1

def sharedFile : Application :=
  (Application.declareTable { name := "store" }
    { name := "ItemPatch", application := "store" }).declareTable
    { name := "Item_Patch", application := "store" }

/-- On a disk, writing succeeds and gives two paths, and what one of the two files held is gone. -/
theorem sharedFile_lost :
    ∃ paths files, (write {} sharedFile "out" ({} : Disk)).1.result = .ok paths ∧
      (generate {} sharedFile).result = .ok files ∧
      ¬List.Forall₂ (fun path file =>
        Disk.text? (write {} sharedFile "out" ({} : Disk)).2 path = some file.contents) paths
          files := by
  obtain ⟨paths, written⟩ := exists_of_isOk
    (by decide +kernel : (write {} sharedFile "out" ({} : Disk)).1.result.isOk = true)
  have plain : ∀ table ∈ sharedFile.tables, '/' ∉ (File.nameFor {} table).toList := by
    decide +kernel
  have maps : Store.MapsOn Disk.text? fun path =>
      ∃ table ∈ sharedFile.tables, path = joinPath "out" (File.nameFor {} table) :=
    (Disk.mapsOn_directory "out").mono fun path ⟨table, listed, same⟩ =>
      ⟨_, same, plain table listed⟩
  obtain ⟨files, generated, _, kept, _⟩ := written_kept_iff maps written
  refine ⟨paths, files, written, generated, ?_⟩
  rw [kept]
  intro agree
  obtain ⟨accepted, all⟩ := generate_eq_ok.mp generated
  have one : sharedFile.tables.head (by decide) ∈ sharedFile.tables := List.head_mem _
  have another : sharedFile.tables.getLast (by decide) ∈ sharedFile.tables := List.getLast_mem _
  obtain ⟨first, inFirst, madeFirst⟩ := exists_of_forall₂ all one
  obtain ⟨last, inLast, madeLast⟩ := exists_of_forall₂ all another
  have contents := agree first inFirst last inLast (by
    rw [(File.named_of_ofTable madeFirst).1, (File.named_of_ofTable madeLast).1]
    decide +kernel)
  have exported := exported_of_contents accepted (by decide) one another madeFirst madeLast contents
  exact absurd exported (by decide +kernel)

end Written

end TableReaders.Package
