import TableReaders.Proofs.Package.Interfaces
import TableReaders.Proofs.Package.Methods
import TableReaders.Proofs.Text.Category

/-!
Whether the names in a package are legal Go. The check asks for properties of characters, and Go
asks for categories. Both agree on letters, underscores and decimal digits. Beyond these the check
lets through marks, letter numbers, enclosed letters and other numbers, which Go has in no
identifier. So a declared name is legal exactly if no such character is in it.
-/

namespace TableReaders

namespace Identifier

open Text

/-- A character that Go has in identifiers: a letter, an underscore or a decimal digit. -/
def isLegal (c : Char) : Bool :=
  c == '_' || category? c == some .L || category? c == some .Nd

def legal (name : String) : Bool :=
  name.toList.head?.any isCapitalLetter && name.toList.all isLegal

/-- A character of a category that the check knows and Go has in no identifier. -/
def isStray (c : Char) : Bool :=
  [some Category.M, some .Nl, some .So, some .No].contains (category? c)

def clean (name : String) : Bool :=
  name.toList.all fun c => !isStray c

section Characters

variable {c : Char}

def Known (c : Char) : Prop :=
  c = '_' ∨ ∃ category, category? c = some category

theorem known_of_isTail (tail : isTail c = true) : Known c := by
  simp only [isTail, isAlphanumeric, Bool.or_eq_true, beq_iff_eq] at tail
  rcases tail with (letter | number) | underscore
  · obtain ⟨category, _, given⟩ := category?_of_alphabetic letter
    exact .inr ⟨category, given⟩
  · obtain ⟨category, _, given⟩ := category?_of_numeric number
    exact .inr ⟨category, given⟩
  · exact .inl underscore

theorem isLegal_eq (known : Known c) : isLegal c = !isStray c := by
  rcases known with rfl | ⟨category, given⟩
  · decide +kernel
  · have plain : c ≠ '_' := by
      rintro rfl
      have none : category? '_' = none := by decide +kernel
      rw [none] at given
      cases given
    cases category <;> simp [isLegal, isStray, given, plain]

theorem isStray_of_mem {among : List Category}
    (stray : ∀ category ∈ among, category ≠ .L ∧ category ≠ .Nd)
    (found : ∃ category ∈ among, category? c = some category) : isStray c = true := by
  obtain ⟨category, member, given⟩ := found
  have apart := stray category member
  cases category <;> simp_all [isStray]

theorem isStray_of_enclosed (enclosed : isEnclosed c.toNat = true) : isStray c = true :=
  isStray_of_mem (by decide) (category?_of_enclosed enclosed)

theorem isCapitalLetter_eq (capital : isUppercase c = true) : isCapitalLetter c = !isStray c := by
  rcases capital_cases capital with letter | enclosed
  · simp [letter, isStray, category?_of_capitalLetter letter]
  · have stray := isStray_of_enclosed enclosed
    rw [stray, Bool.not_true, Bool.eq_false_iff]
    intro letter
    simp [isStray, category?_of_capitalLetter letter] at stray

end Characters

section Capitals

variable {c shown : Char}

/-- The capitals that are no letters are only those of characters that are no letters. -/
theorem isStray_of_capital (member : shown ∈ toCapital c)
    (enclosed : isEnclosed shown.toNat = true) :
    isStray c = true := by
  have expanded : (capitalExpansions.all fun entry => entry.2.all fun code => !isEnclosed code) =
      true := by
    decide +kernel
  have moved : (capitalShifts.all fun shift =>
      (enclosedCapitals.all fun span =>
        Nat.blt (shift.image + (shift.run.last - shift.run.first)) span.first ||
          Nat.blt span.last shift.image) ||
        within [.Nl, .So] shift.run.first shift.run.last) = true := by
    decide +kernel
  rcases mapCase_cases capitalExpansions capitalShifts c with ⟨codes, known, form⟩ | form |
    ⟨shift, known, has, form⟩
  · rw [toCapital, form] at member
    obtain ⟨code, listed, rfl⟩ := List.mem_map.mp member
    rw [toNat_ofNat_valid
      (capital_forms.images code (mem_imageCodes_expansion known listed)).2] at enclosed
    have outside := List.all_eq_true.mp (List.all_eq_true.mp expanded _ known) code listed
    simp [enclosed] at outside
  · rw [toCapital, form, List.mem_singleton] at member
    rw [← member]
    exact isStray_of_enclosed enclosed
  · rw [toCapital, form, List.mem_singleton] at member
    rw [member,
      toNat_ofNat_valid (capital_forms.images _ (mem_imageCodes_shift known has)).2] at enclosed
    have bounds := Run.bounds has
    have either := List.all_eq_true.mp moved shift known
    rw [Bool.or_eq_true] at either
    rcases either with apart | covered
    · obtain ⟨span, listed, inside⟩ := List.any_eq_true.mp enclosed
      have side := List.all_eq_true.mp apart span listed
      simp only [Bool.or_eq_true, Nat.blt_eq] at side
      have := Span.has_iff.mp inside
      omega
    · exact isStray_of_mem (by decide) (category?_of_within covered bounds.1 bounds.2)

end Capitals

section Names

variable {name suffix : String}

structure Proper (name : String) : Prop where
  capital : ∃ first, name.toList.head? = some first ∧ isUppercase first = true
  known : ∀ c ∈ name.toList, Known c

theorem Proper.legal_eq (proper : Proper name) : legal name = clean name := by
  obtain ⟨first, front, capital⟩ := proper.capital
  have same : name.toList.all isLegal = clean name := by
    unfold clean
    rw [Bool.eq_iff_iff, List.all_eq_true, List.all_eq_true]
    exact forall₂_congr fun c member => by rw [isLegal_eq (proper.known c member)]
  have member : first ∈ name.toList := List.mem_of_head? front
  unfold legal
  rw [front, Option.any_some, isCapitalLetter_eq capital, same, Bool.and_eq_right_iff_imp]
  intro unstrayed
  exact List.all_eq_true.mp unstrayed first member

theorem Proper.append (proper : Proper name) (known : ∀ c ∈ suffix.toList, Known c) :
    Proper (name ++ suffix) := by
  obtain ⟨first, front, capital⟩ := proper.capital
  refine ⟨⟨first, ?_, capital⟩, ?_⟩
  · rw [String.toList_append, List.head?_append, front]
    rfl
  · intro c member
    rw [String.toList_append, List.mem_append] at member
    exact member.elim (proper.known c) (known c)

theorem exported_proper (accepted : valid name = true) : Proper (exported name) := by
  obtain ⟨again, capital⟩ := valid_exported accepted
  exact ⟨capital, fun c member => known_of_isTail (isTail_of_mem again member)⟩

theorem clean_exported (accepted : valid name = true) (plain : clean name = true) :
    clean (exported name) = true := by
  obtain ⟨first, rest, shape, _, capitals, _⟩ := valid_shape accepted
  rw [clean, List.all_eq_true, shape, List.forall_mem_cons] at plain
  rw [clean, List.all_eq_true, toList_exported shape]
  intro c member
  rcases List.mem_append.mp member with front | later
  · rw [← isCapitalLetter_eq (capitals c front)]
    refine (capital_cases (capitals c front)).resolve_right fun enclosed => ?_
    have stray := isStray_of_capital front enclosed
    simp [stray] at plain
  · exact plain.2 c later

theorem rowInterface_proper (accepted : valid name = true) : Proper (rowInterface name) :=
  (exported_proper accepted).append fun _ member =>
    known_of_isTail
      (List.all_eq_true.mp (by decide +kernel : "Reader".toList.all isTail = true) _ member)

theorem vectorInterface_proper (accepted : valid name = true) : Proper (vectorInterface name) := by
  have vector : "Vector".toList.all isTail = true := by decide +kernel
  have front : Proper "Vector" :=
    ⟨⟨'V', rfl, by decide +kernel⟩,
      fun c member => known_of_isTail (List.all_eq_true.mp vector c member)⟩
  have named := front.append (rowInterface_proper accepted).known
  rw [vectorInterface, String.append_assoc]
  exact named

end Names

end Identifier

namespace Package

open Schema

variable {settings : Settings} {application : Application} {table : Table} {name : String}

theorem tableInterfaces_legal (accepted : Identifier.valid table.name = true)
    (member : name ∈ tableInterfaces table) : Identifier.legal name = Identifier.clean name := by
  rw [tableInterfaces, List.mem_pair] at member
  rcases member with rfl | rfl
  · exact (Identifier.rowInterface_proper accepted).legal_eq
  · exact (Identifier.vectorInterface_proper accepted).legal_eq

/-- A name that the check accepts is legal in its exported form unless a stray character is left
there, and so is every interface and every method that the files of an application declare. -/
theorem declared_legal_eq (settings : Settings) (application : Application) :
    (∀ name, Identifier.valid name = true →
      Identifier.legal (Identifier.exported name) = Identifier.clean (Identifier.exported name) ∧
      (Identifier.clean name = true → Identifier.legal (Identifier.exported name) = true)) ∧
    ∀ files, (generate settings application).result = .ok files →
      SingleLine settings.vectorPackage →
      List.Forall₂ (fun table file =>
        file.interfaces = tableInterfaces table ∧
        methodsIn (Identifier.rowInterface table.name) file.contents.toList =
          (Interface.methods application.resolve table table.fields).map
            (fun method => Identifier.exported method.1.name) ∧
        ∀ name ∈ file.interfaces ++
            methodsIn (Identifier.rowInterface table.name) file.contents.toList,
          Identifier.legal name = Identifier.clean name) application.tables files := by
  constructor
  · intro name accepted
    have same := (Identifier.exported_proper accepted).legal_eq
    refine ⟨same, ?_⟩
    intro plain
    rw [same]
    exact Identifier.clean_exported accepted plain
  · intro files generated packaged
    obtain ⟨accepted, all⟩ := generate_eq_ok.mp generated
    obtain ⟨_, _, rfl⟩ := generate_eq_composed.mp generated
    rw [List.forall₂_map_right_iff, List.forall₂_same] at all ⊢
    intro table member
    obtain ⟨_, sound⟩ := accepted.tables table member
    have interfaces : (File.composed settings application table).interfaces =
        tableInterfaces table :=
      interfaces_exact accepted packaged member (all table member)
    have methods := methodsIn_composed accepted packaged member
    refine ⟨interfaces, methods, ?_⟩
    intro name declared
    rw [interfaces, methods, List.mem_append] at declared
    rcases declared with interface | method
    · exact tableInterfaces_legal sound.identifier interface
    · obtain ⟨⟨field, accessor⟩, written, rfl⟩ := List.mem_map.mp method
      have listed := (Interface.mem_methods.mp written).1
      exact (Identifier.exported_proper (sound.fields field listed).identifier).legal_eq

def plot : Table where
  name := "Plot"
  application := "land"
  fields := [.text "étiquette", .text "area²"]

def land : Application :=
  Application.declareTable { name := "land" } plot

/-- The check accepts both fields. The interfaces and the method of the first field are legal, and
the method of the second one is not. -/
theorem plot_illegal :
    Identifier.legal (Identifier.exported "étiquette") = true ∧ Identifier.valid "area²" = true ∧
    ∃ file, (generate {} land).result = .ok [file] ∧
      (∀ interface ∈ file.interfaces, Identifier.legal interface = true) ∧
      "Area²" ∈ methodsIn (Identifier.rowInterface "Plot") file.contents.toList ∧
      Identifier.legal "Area²" = false := by
  have first :=
    ((declared_legal_eq {} land).1 "étiquette" (by decide +kernel)).2 (by decide +kernel)
  obtain ⟨files, generated⟩ := exists_of_isOk
    (by decide +kernel : (generate {} land).result.isOk = true)
  have declared := (declared_legal_eq {} land).2 files generated (by decide)
  obtain ⟨_, _, rfl⟩ := generate_eq_composed.mp generated
  rw [List.forall₂_map_right_iff, List.forall₂_same] at declared
  obtain ⟨interfaces, methods, same⟩ := declared plot List.mem_cons_self
  have method : "Area²" ∈ methodsIn (Identifier.rowInterface plot.name)
      (File.composed {} land plot).contents.toList := by
    rw [methods]
    decide +kernel
  refine ⟨first, by decide +kernel, File.composed {} land plot, generated, ?_, method, ?_⟩
  · intro interface listed
    rw [same interface (List.mem_append_left _ listed)]
    rw [interfaces] at listed
    exact List.all_eq_true.mp
      (by decide +kernel : (tableInterfaces plot).all Identifier.clean = true) interface listed
  · exact (same "Area²" (List.mem_append_right _ method)).trans (by decide +kernel)

end Package

end TableReaders
