import TableReaders.Proofs.Package.Evolution
import TableReaders.Proofs.Package.Legality

/-!
The names of the accessors of a table. The check compares fields by their exported names, and the
methods of the interface carry those names. So no two methods of an interface have one name,
whatever the case mapping makes of the first letters, and the fields that are left out leave the
others in their order. The text that a method is written as has the path of the package of vectors
in it. A path on one line keeps it to one method, and a line feed in the path can repeat another
method behind it.
-/

namespace TableReaders.Package

open Schema

section Fields

variable {resolve : Resolver} {table : Table} {field : Schema.Field} {asked : String}

def HoldsText (field : Schema.Field) : Prop :=
  field.type = textToken ∨ field.type = vectorToken ∧ field.items = some textToken

theorem ofField_holdsText (holds : HoldsText field) :
    ∃ accessor, Accessor.ofField asked field resolve = .ok (some accessor) := by
  rcases holds with text | ⟨vector, items⟩
  · exact ⟨.text, if_pos text⟩
  · refine ⟨.textVector, Accessor.ofField_eq_textVector.mpr ?_⟩
    simp [holdsTexts, vector, items]

theorem methods_fields (fields : List Schema.Field) :
    (Interface.methods resolve table fields).map (·.1) =
      fields.filter fun field => (Interface.accessor? resolve table field).isSome := by
  induction fields with
  | nil => rfl
  | cons field rest ih =>
      unfold Interface.methods at ih ⊢
      cases found : Interface.accessor? resolve table field <;> simp [found, ih]

end Fields

section Names

variable {resolve : Resolver} {table : Table}

def Interface.methodNames (resolve : Resolver) (table : Table) : List String :=
  (Interface.methods resolve table table.fields).map fun method => Identifier.exported method.1.name

/-- What is asked of the names of the methods of a table: they are exported names of its fields,
without those of some fields that hold no text, none twice and each with a capital in front. -/
structure Names (table : Table) (names : List String) : Prop where
  distinct : names.Nodup
  ordered : names.Sublist (table.fields.map fun field => Identifier.exported field.name)
  capital : ∀ name ∈ names, ∃ field ∈ table.fields, name = Identifier.exported field.name ∧
    ∃ first, name.toList.head? = some first ∧ Text.isUppercase first = true
  texts : ∀ field ∈ table.fields, HoldsText field → Identifier.exported field.name ∈ names

theorem methodNames_sublist :
    (Interface.methodNames resolve table).Sublist
      (table.fields.map fun field => Identifier.exported field.name) := by
  have kept : ((Interface.methods resolve table table.fields).map (·.1)).Sublist table.fields := by
    rw [methods_fields]
    exact List.filter_sublist
  have names := kept.map fun field => Identifier.exported field.name
  rw [List.map_map] at names
  exact names

theorem names_of_accepted (accepted : table.Accepted) :
    Names table (Interface.methodNames resolve table) where
  -- The check asked for distinct exported names, and the methods have a part of them.
  distinct := methodNames_sublist.nodup accepted.distinct
  ordered := methodNames_sublist
  capital := by
    intro name member
    obtain ⟨⟨field, accessor⟩, written, rfl⟩ := List.mem_map.mp member
    have listed := (Interface.mem_methods.mp written).1
    have proper := Identifier.exported_proper (accepted.fields field listed).identifier
    exact ⟨field, listed, rfl, proper.capital⟩
  texts := by
    intro field listed holds
    obtain ⟨accessor, found⟩ := ofField_holdsText holds
    exact List.mem_map.mpr ⟨(field, accessor), Interface.mem_methods.mpr ⟨listed, found⟩, rfl⟩

end Names

section Files

variable {settings : Settings} {application : Application} {table : Table}

/-- Where no vector of texts is read, nothing of a file comes from the package of these vectors. -/
theorem composed_contents_unpackaged (plain : table.fields.any holdsTexts = false) (path : String) :
    (File.composed { settings with vectorPackage := path } application table).contents =
      (File.composed settings application table).contents := by
  have texts :
      Interface.methodTexts { settings with vectorPackage := path } application.resolve table =
        Interface.methodTexts settings application.resolve table := by
    apply List.map_congr_left
    rintro ⟨field, accessor⟩ written
    have absent : ∀ method ∈ Interface.methods application.resolve table table.fields,
        ¬ (method.2 == .textVector) = true := by
      rw [← Interface.methods_any_textVector, List.any_eq_false] at plain
      exact plain
    have other := absent (field, accessor) written
    cases accessor with
    | textVector => exact absurd BEq.rfl other
    | _ => rfl
  rw [File.composed_contents, File.composed_contents, texts, File.opening, File.opening, plain]
  rfl

theorem methodsIn_file (accepted : application.Accepted) (member : table ∈ application.tables)
    (packaged : table.fields.any holdsTexts = true → SingleLine settings.vectorPackage) :
    methodsIn (Identifier.rowInterface table.name)
      (File.composed settings application table).contents.toList =
        Interface.methodNames application.resolve table := by
  cases texts : table.fields.any holdsTexts with
  | true => exact methodsIn_composed accepted (packaged texts) member
  | false =>
      have single : SingleLine "" := by decide
      rw [← composed_contents_unpackaged texts ""]
      exact methodsIn_composed accepted single member

/-- The file of a table is made of its methods, and their names are as they are asked to be. They
are also the names that are read off the file, unless a line feed in the path of the package adds
lines to it. -/
theorem methods_named (settings : Settings) (application : Application) (files : List File)
    (generated : (generate settings application).result = .ok files) :
    List.Forall₂ (fun table file =>
      file.contents =
        File.opening settings application.name table ++
          "\n".intercalate
            ((Interface.methods application.resolve table table.fields).map fun method =>
              method.2.render settings method.1) ++
          Interface.ending table.name ∧
      Names table (Interface.methodNames application.resolve table) ∧
      ((table.fields.any holdsTexts = true → SingleLine settings.vectorPackage) →
        methodsIn (Identifier.rowInterface table.name) file.contents.toList =
          Interface.methodNames application.resolve table)) application.tables files := by
  obtain ⟨accepted, _⟩ := generate_eq_ok.mp generated
  obtain ⟨_, _, rfl⟩ := generate_eq_composed.mp generated
  rw [List.forall₂_map_right_iff, List.forall₂_same]
  intro table member
  obtain ⟨_, sound⟩ := accepted.tables table member
  exact ⟨File.composed_contents settings application table, names_of_accepted sound,
    methodsIn_file accepted member⟩

def parcel : Table where
  name := "Parcel"
  application := "post"
  fields := [.text "ßize", { name := "route", type := "Route" }, .vector "tags" textToken]

def post : Application :=
  Application.declareTable { name := "post" } parcel

theorem parcel_named :
    ∃ file, (generate {} post).result = .ok [file] ∧
      methodsIn (Identifier.rowInterface "Parcel") file.contents.toList = ["SSize", "Tags"] ∧
      Names parcel ["SSize", "Tags"] := by
  obtain ⟨files, generated⟩ := exists_of_isOk
    (by decide +kernel : (generate {} post).result.isOk = true)
  have named := methods_named {} post files generated
  obtain ⟨_, _, rfl⟩ := generate_eq_composed.mp generated
  rw [List.forall₂_map_right_iff, List.forall₂_same] at named
  obtain ⟨_, names, read⟩ := named parcel List.mem_cons_self
  have listed : Interface.methodNames post.resolve parcel = ["SSize", "Tags"] := by decide +kernel
  rw [listed] at names read
  exact ⟨File.composed {} post parcel, generated, read fun _ => by decide, names⟩

-- A second field with the same capital form in front is refused.
example : (Table.check { parcel with fields := [.text "ßize", .text "sSize"] }).isOk = false := by
  decide +kernel

def splitPath : Settings where
  vectorPackage := "x\n\tSku() y"

def taggedItem : Table where
  name := "Item"
  application := "store"
  fields := [.text "Sku", .vector "Tags" textToken]

def taggedStore : Application :=
  Application.declareTable { name := "store" } taggedItem

theorem taggedItem_methods :
    Interface.methods taggedStore.resolve taggedItem taggedItem.fields =
      [(.text "Sku", .text), (.vector "Tags" textToken, .textVector)] := by
  decide +kernel

theorem taggedItem_lists :
    Lists ("\n".intercalate (Interface.methodTexts splitPath taggedStore.resolve taggedItem))
      ["Sku", "Tags", "Sku"] := by
  -- The text of the second method has two lines that declare one.
  have sku : Lists (Accessor.text.render splitPath (.text "Sku")) [Identifier.exported "Sku"] :=
    accessor_lists (by decide +kernel) (by decide)
  have tags : Lists ("\tTags() x" ++ "\n") ["Tags"] := lists_line (by decide) rfl (by decide)
  have again : Lists ("\tSku() y.VectorStringReader" ++ "\n") ["Sku"] :=
    lists_line (by decide) rfl (by decide)
  have written : Accessor.textVector.render splitPath (.vector "Tags" textToken) =
      docComment "Tags" none "\t" ++ ("\tTags() x" ++ "\n") ++
        ("\tSku() y.VectorStringReader" ++ "\n") := by
    decide +kernel
  have second := ((docComment_lists "Tags" none).append tags).append again
  have exported : Identifier.exported "Sku" = "Sku" := by decide +kernel
  rw [← written] at second
  rw [exported] at sku
  rw [Interface.methodTexts, taggedItem_methods]
  exact (sku.append blank_lists).append second

/-- A line feed in the path of the package repeats a method of the interface: the names read off the
file are not those of the fields. -/
theorem repeated_method :
    ∃ file, (generate splitPath taggedStore).result = .ok [file] ∧
      methodsIn (Identifier.rowInterface "Item") file.contents.toList = ["Sku", "Tags", "Sku"] ∧
      ¬ Names taggedItem ["Sku", "Tags", "Sku"] := by
  obtain ⟨files, generated⟩ := exists_of_isOk
    (by decide +kernel : (generate splitPath taggedStore).result.isOk = true)
  obtain ⟨_, _, rfl⟩ := generate_eq_composed.mp generated
  have silent : Declares (Interface.importFor splitPath true) [] :=
    declares_closed (by decide +kernel) (by decide +kernel)
  refine ⟨File.composed splitPath taggedStore taggedItem, generated, ?_, ?_⟩
  · have wanted : (Interface.methods taggedStore.resolve taggedItem taggedItem.fields).any
        (·.2 == .textVector) = true := by
      rw [taggedItem_methods]
      rfl
    rw [← wanted] at silent
    have proper : Identifier.valid taggedItem.name = true := by decide +kernel
    have read := methodsIn_lists proper silent taggedItem_lists
    exact read
  · intro names
    exact absurd names.distinct (by decide)

end Files

end TableReaders.Package
