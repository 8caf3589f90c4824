import TableReaders.Proofs.Package.Delivery
import TableReaders.Proofs.Package.Verdict
import TableReaders.Proofs.Storage.Places

/-!
What writing does to storage, whichever way it ends. Everything is generated first, so without a
package nothing is touched. Then the files go out one after another, and what a run leaves behind is
told by how far it came: the store with the directory, with every file before the first that could
not be put, and with whatever that last attempt did. A store may fail at any request; only what its
successful requests do is taken to be usual.
-/

namespace TableReaders.Package

open Schema Storage

section Run

variable {σ : Type} [Store σ] {directory : String} {store reached left : σ} {file : File}
  {files before : List File} {error : StorageError}

inductive Puts (directory : String) : σ → List File → σ → Prop where
  | nil (store : σ) : Puts directory store [] store
  | cons {store next reached : σ} {file : File} {rest : List File}
      (put : Store.putFile store (joinPath directory file.name) file.contents = ⟨next, none⟩)
      (later : Puts directory next rest reached) : Puts directory store (file :: rest) reached

theorem putFiles_stopped
    (failed : Store.putFile store (joinPath directory file.name) file.contents = ⟨left, some error⟩)
    (rest : List File) :
    (putFiles directory store (file :: rest)).1.result = .error (.storage error) ∧
      (putFiles directory store (file :: rest)).2 = left := by
  simp only [putFiles, failed]
  exact ⟨rfl, trivial⟩

theorem putFiles_step
    (put : Store.putFile store (joinPath directory file.name) file.contents = ⟨left, none⟩)
    (rest : List File) :
    (putFiles directory store (file :: rest)).1.result =
        (joinPath directory file.name :: ·) <$> (putFiles directory left rest).1.result ∧
      (putFiles directory store (file :: rest)).2 = (putFiles directory left rest).2 := by
  simp only [putFiles, put, Traced.result_bind, Traced.result_tell, Traced.result_pure]
  refine ⟨?_, trivial⟩
  cases (putFiles directory left rest).1.result <;> rfl

/-- A run goes on from where its first files led. -/
theorem putFiles_append (puts : Puts directory store before reached) (rest : List File) :
    (putFiles directory store (before ++ rest)).1.result =
        (before.map (fun file => joinPath directory file.name) ++ ·) <$>
          (putFiles directory reached rest).1.result ∧
      (putFiles directory store (before ++ rest)).2 = (putFiles directory reached rest).2 := by
  induction puts with
  | nil store =>
      refine ⟨?_, rfl⟩
      simp only [List.map_nil, List.nil_append]
      exact (id_map _).symm
  | @cons store next reached file before put later ih =>
      obtain ⟨result, kept⟩ := putFiles_step put (before ++ rest)
      constructor
      · rw [List.cons_append, result, ih.1, ← comp_map]
        rfl
      · rw [List.cons_append, kept, ih.2]

/-- All of the files can be put, or there is a first that cannot. -/
theorem puts_or_stopped (directory : String) (store : σ) (files : List File) :
    (∃ reached, Puts directory store files reached) ∨
      ∃ before file after reached left error, files = before ++ file :: after ∧
        Puts directory store before reached ∧
        Store.putFile reached (joinPath directory file.name) file.contents =
          ⟨left, some error⟩ := by
  induction files generalizing store with
  | nil => exact .inl ⟨store, .nil store⟩
  | cons file rest ih =>
      cases attempt : Store.putFile store (joinPath directory file.name) file.contents with
      | mk next failure =>
          cases failure with
          | some error => exact .inr ⟨[], file, rest, store, next, error, rfl, .nil store, attempt⟩
          | none =>
              rcases ih next with ⟨reached, later⟩ |
                ⟨before, broken, after, reached, left, error, rfl, later, failed⟩
              · exact .inl ⟨reached, .cons attempt later⟩
              · exact .inr ⟨file :: before, broken, after, reached, left, error, rfl,
                  .cons attempt later, failed⟩

variable {κ : Type} [DecidableEq κ] {node? : σ → κ → Option Node} {placeOf : String → κ}

def withFiles (placeOf : String → κ) (directory : String) (nodes : κ → Option Node)
    (files : List File) :
    κ → Option Node :=
  files.foldl (fun nodes file => Function.update nodes (placeOf (joinPath directory file.name))
    (some (.file file.contents.toUTF8))) nodes

theorem node?_puts (maps : Store.IsMap node? placeOf) (puts : Puts directory store files reached) :
    node? reached = withFiles placeOf directory (node? store) files := by
  induction puts with
  | nil store => rfl
  | @cons store next reached file rest put later ih =>
      have first := maps.putFile store (joinPath directory file.name) file.contents (by rw [put])
      rw [put] at first
      rw [ih, withFiles, withFiles, List.foldl_cons, first]

theorem withFiles_other {nodes : κ → Option Node} {place : κ}
    (other : ∀ file ∈ files, place ≠ placeOf (joinPath directory file.name)) :
    withFiles placeOf directory nodes files place = nodes place := by
  induction files generalizing nodes with
  | nil => rfl
  | cons file rest ih =>
      rw [List.forall_mem_cons] at other
      rw [withFiles, List.foldl_cons]
      exact (ih other.2).trans (Function.update_of_ne other.1 _ _)

end Run

section Ends

variable {σ : Type} [Store σ] {settings : Settings} {application : Application} {directory : String}
  {store made reached left : σ} {files : List File}

theorem write_not_generated {error : GenerateError}
    (failed : (generate settings application).result = .error error) :
    (write settings application directory store).1.result = .error error ∧
      (write settings application directory store).2 = store := by
  simp only [write, failed, and_self]

theorem write_no_directory {error : StorageError}
    (generated : (generate settings application).result = .ok files)
    (failed : Store.makeDirectory store directory = ⟨left, some error⟩) :
    (write settings application directory store).1.result = .error (.storage error) ∧
      (write settings application directory store).2 = left := by
  simp only [write, generated, failed, and_self]

theorem write_into (generated : (generate settings application).result = .ok files)
    (makes : Store.makeDirectory store directory = ⟨made, none⟩) :
    (write settings application directory store).1.result =
      (putFiles directory made files).1.result ∧
      (write settings application directory store).2 = (putFiles directory made files).2 := by
  simp only [write, generated, makes, and_self]

theorem write_stopped {before after : List File} {file : File} {error : StorageError}
    (generated : (generate settings application).result = .ok (before ++ file :: after))
    (makes : Store.makeDirectory store directory = ⟨made, none⟩)
    (puts : Puts directory made before reached)
    (failed : Store.putFile reached (joinPath directory file.name) file.contents =
      ⟨left, some error⟩) :
    (write settings application directory store).1.result = .error (.storage error) ∧
      (write settings application directory store).2 = left := by
  obtain ⟨result, kept⟩ := write_into generated makes
  obtain ⟨passed, passedKept⟩ := putFiles_append puts (file :: after)
  obtain ⟨stopped, stoppedKept⟩ := putFiles_stopped failed after
  constructor
  · rw [result, passed, stopped]
    rfl
  · rw [kept, passedKept, stoppedKept]

theorem generated_paths (generated : (generate settings application).result = .ok files) :
    files.map (fun file => joinPath directory file.name) =
      application.tables.map fun table => joinPath directory (File.nameFor settings table) := by
  obtain ⟨_, _, rfl⟩ := generate_eq_composed.mp generated
  rw [List.map_map]
  rfl

theorem write_complete (generated : (generate settings application).result = .ok files)
    (makes : Store.makeDirectory store directory = ⟨made, none⟩)
    (puts : Puts directory made files reached) :
    (write settings application directory store).1.result =
        .ok (application.tables.map fun table => joinPath directory (File.nameFor settings table)) ∧
      (write settings application directory store).2 = reached := by
  obtain ⟨result, kept⟩ := write_into generated makes
  obtain ⟨passed, passedKept⟩ := putFiles_append puts []
  rw [List.append_nil] at passed passedKept
  constructor
  · rw [result, passed, ← generated_paths generated]
    exact congrArg Except.ok (List.append_nil _)
  · exact kept.trans passedKept

variable {κ : Type} [DecidableEq κ]

/-- What writing an application into a directory does to a store that is a map, for each way to
end. -/
structure WriteEffects (settings : Settings) (application : Application) (directory : String)
    (store : σ) (node? : σ → κ → Option Node) (placeOf : String → κ) : Prop where
  /-- Without a package the error is that of generating, and the store is as it was. -/
  notGenerated : ∀ error, (generate settings application).result = .error error →
    (write settings application directory store).1.result = .error error ∧
      (write settings application directory store).2 = store
  /-- Without the directory no file is tried. -/
  noDirectory : ∀ files left error, (generate settings application).result = .ok files →
    Store.makeDirectory store directory = ⟨left, some error⟩ →
      (write settings application directory store).1.result = .error (.storage error) ∧
        (write settings application directory store).2 = left
  /-- The directory is there, and other directories that were missing may be. -/
  prepared : ∀ made, Store.makeDirectory store directory = ⟨made, none⟩ →
    node? made (placeOf directory) = some .directory ∧ Grown (node? store) (node? made)
  /-- With the directory, a run ends in one of the two ways below. -/
  stoppedOrComplete : ∀ (made : σ) files, (∃ reached, Puts directory made files reached) ∨
    ∃ before file after reached left error, files = before ++ file :: after ∧
      Puts directory made before reached ∧
      Store.putFile reached (joinPath directory file.name) file.contents = ⟨left, some error⟩
  /-- The first file that cannot be put ends the run, just after the files before it are in the
  store. -/
  stopped : ∀ made reached left before file after error,
    (generate settings application).result = .ok (before ++ file :: after) →
    Store.makeDirectory store directory = ⟨made, none⟩ →
    Puts directory made before reached →
    Store.putFile reached (joinPath directory file.name) file.contents = ⟨left, some error⟩ →
      (write settings application directory store).1.result = .error (.storage error) ∧
        node? reached = withFiles placeOf directory (node? made) before ∧
        (write settings application directory store).2 = left
  /-- If every file is put, their paths are given in the order of the tables. The files are in the
  store, and no other place has changed since the directory was made. -/
  complete : ∀ made reached files, (generate settings application).result = .ok files →
    Store.makeDirectory store directory = ⟨made, none⟩ →
    Puts directory made files reached →
      (write settings application directory store).1.result =
          .ok
            (application.tables.map fun table => joinPath directory (File.nameFor settings table)) ∧
        (write settings application directory store).2 = reached ∧
        node? reached = withFiles placeOf directory (node? made) files ∧
        ∀ place, (∀ table ∈ application.tables,
            place ≠ placeOf (joinPath directory (File.nameFor settings table))) →
          node? reached place = node? made place

variable {node? : σ → κ → Option Node} {placeOf : String → κ}

theorem writeEffects (maps : Store.IsMap node? placeOf) :
    WriteEffects settings application directory store node? placeOf := by
  constructor
  case notGenerated =>
    intro error failed
    exact write_not_generated failed
  case noDirectory =>
    intro files left error generated failed
    exact write_no_directory generated failed
  case prepared =>
    intro made makes
    have usual := maps.makeDirectory store directory (by rw [makes])
    rw [makes] at usual
    exact usual
  case stoppedOrComplete => exact puts_or_stopped directory
  case stopped =>
    intro made reached left before file after error generated makes puts failed
    obtain ⟨result, kept⟩ := write_stopped generated makes puts failed
    exact ⟨result, node?_puts maps puts, kept⟩
  case complete =>
    intro made reached files generated makes puts
    obtain ⟨result, kept⟩ := write_complete generated makes puts
    refine ⟨result, kept, node?_puts maps puts, fun place other => ?_⟩
    rw [node?_puts maps puts]
    apply withFiles_other
    intro file member
    have listed := List.mem_map_of_mem (f := fun file : File => joinPath directory file.name) member
    rw [generated_paths generated, List.mem_map] at listed
    obtain ⟨table, known, same⟩ := listed
    rw [← same]
    exact other table known

end Ends

section Receiver

variable {τ : Type} {settings : Settings} {take : τ → ByteArray → Attempt τ} {resolve : Resolver}
  {table : Table} {receiver left : τ}

/-- What a receiver of bytes gets of the interfaces of a table: all of their text at once, or not a
byte. -/
structure OfferEffects (settings : Settings) (take : τ → ByteArray → Attempt τ) (resolve : Resolver)
    (table : Table) (receiver : τ) : Prop where
  /-- Without a text the error is that of rendering, and the receiver is as it was. -/
  notRendered : ∀ error, (Interface.render settings resolve table).result = .error error →
    (Interface.writeTo settings take resolve table receiver).1.result = .error error ∧
      (Interface.writeTo settings take resolve table receiver).2 = receiver
  refused : ∀ text left error, (Interface.render settings resolve table).result = .ok text →
    take receiver text.toUTF8 = ⟨left, some error⟩ →
      (Interface.writeTo settings take resolve table receiver).1.result = .error (.storage error) ∧
        (Interface.writeTo settings take resolve table receiver).2 = left
  taken : ∀ text left, (Interface.render settings resolve table).result = .ok text →
    take receiver text.toUTF8 = ⟨left, none⟩ →
      (Interface.writeTo settings take resolve table receiver).1.result = .ok () ∧
        (Interface.writeTo settings take resolve table receiver).2 = left

theorem offerEffects : OfferEffects settings take resolve table receiver := by
  constructor
  case notRendered =>
    intro error failed
    simp only [Interface.writeTo, failed, and_self]
  case refused =>
    intro text left error rendered offered
    simp only [Interface.writeTo, rendered, offered, and_self]
  case taken =>
    intro text left rendered offered
    simp only [Interface.writeTo, rendered, offered, and_self]

end Receiver

/-- Failing to generate has no effect, and a run that breaks off has the effect of the files before
the break. -/
theorem delivery_effects {σ κ : Type} [Store σ] [DecidableEq κ] {node? : σ → κ → Option Node}
    {placeOf : String → κ} (maps : Store.IsMap node? placeOf) (settings : Settings) :
    (∀ application directory store,
      WriteEffects settings application directory store node? placeOf) ∧
      ∀ (τ : Type) (take : τ → ByteArray → Attempt τ) resolve table receiver,
        OfferEffects settings take resolve table receiver :=
  ⟨fun _ _ _ => writeEffects maps, fun _ _ _ _ _ => offerEffects⟩

def blocked : Disk where
  nodes := [(["out", "color_reader.go"], .directory), (["out"], .directory)]

/-- The first file is there when the second cannot be put. If generating fails the disk stays as it
was, and a sink with too little room holds the first bytes of what it was offered. -/
theorem blocked_stopped :
    (∃ item color, (generate {} graded).result = .ok [item, color] ∧
      (write {} graded "out" blocked).1.result = .error (.storage .isADirectory) ∧
      (write {} graded "out" blocked).2.node? ["out", "item_reader.go"] =
        some (.file item.contents.toUTF8)) ∧
    (∃ error, (write { unresolved := .refuse } graded "out" blocked).1.result = .error error ∧
      (write { unresolved := .refuse } graded "out" blocked).2 = blocked) ∧
    ∃ text, (Interface.render {} graded.resolve ⟨"Item", "store", none, []⟩).result = .ok text ∧
      (Interface.write {} graded.resolve ⟨"Item", "store", none, []⟩ ⟨4, .empty⟩).1.result =
        .error (.storage .full) ∧
      (Interface.write {} graded.resolve ⟨"Item", "store", none, []⟩ ⟨4, .empty⟩).2.held =
        .empty ++ text.toUTF8.extract 0 4 := by
  refine ⟨?_, ?_, ?_⟩
  · obtain ⟨files, generated⟩ := exists_of_isOk
      (by decide +kernel : (generate {} graded).result.isOk = true)
    obtain ⟨_, _, rfl⟩ := generate_eq_composed.mp generated
    obtain ⟨item, color, both, itemNamed, colorNamed⟩ : ∃ item color,
        graded.tables.map (File.composed {} graded) = [item, color] ∧
          item.name = "item_reader.go" ∧ color.name = "color_reader.go" :=
      ⟨_, _, rfl, by decide +kernel, by decide +kernel⟩
    rw [both] at generated
    obtain ⟨effects, _⟩ := delivery_effects Disk.isMap {}
    have puts : Puts "out" blocked [item]
        (blocked.put ["out", "item_reader.go"] (.file item.contents.toUTF8)) :=
      .cons (by rw [itemNamed]; rfl) (.nil _)
    obtain ⟨result, nodes, kept⟩ :=
      (effects graded "out" blocked).stopped blocked _ _ [item] color []
      .isADirectory generated rfl puts (by rw [colorNamed]; rfl)
    refine ⟨item, color, generated, result, ?_⟩
    have there : ["out", "item_reader.go"] = Disk.placeOf (joinPath "out" item.name) := by
      rw [itemNamed]
      decide +kernel
    rw [kept, nodes, there]
    exact Function.update_self _ _ _
  · have fails : (generate { unresolved := .refuse } graded).result.isOk = false := by
      decide +kernel
    obtain ⟨effects, _⟩ := delivery_effects Disk.isMap { unresolved := .refuse }
    cases generated : (generate { unresolved := .refuse } graded).result with
    | ok files =>
        rw [generated] at fails
        cases fails
    | error error => exact ⟨error, (effects graded "out" blocked).notGenerated error generated⟩
  · obtain ⟨_, offers⟩ := delivery_effects Disk.isMap {}
    obtain ⟨text, rendered⟩ := exists_of_isOk
      (by decide +kernel :
        (Interface.render {} graded.resolve ⟨"Item", "store", none, []⟩).result.isOk = true)
    have long : (Interface.render {} graded.resolve ⟨"Item", "store", none, []⟩).result.toOption.all
        (4 < ·.toUTF8.size) = true := by decide +kernel
    rw [rendered] at long
    have failed : (Sink.write ⟨4, .empty⟩ text.toUTF8).failure = some .full :=
      if_neg (Nat.not_le.mpr (of_decide_eq_true long))
    have effects := offers Sink Sink.write graded.resolve ⟨"Item", "store", none, []⟩ ⟨4, .empty⟩
    obtain ⟨result, kept⟩ := effects.refused text _ _ rendered (congrArg (Attempt.mk _) failed)
    refine ⟨text, rendered, ?_⟩
    rw [Interface.write, kept]
    exact ⟨result, rfl⟩

end TableReaders.Package
