import TableReaders.Package.Settings
import TableReaders.Proofs.Identifier

/-!
The names of packages. A package is named after the last segment of its path or after the
application, character by character. The small form of an ASCII capital is a letter too, so a name
that comes out can be named after itself: its characters stay as they are, and the first one needs
no underscore before it.
-/

namespace TableReaders.Package

open Identifier Text

/-- A name that a package may have: letters, numbers and underscores, no number in front and no
ASCII capital. -/
structure PackageName (name : String) : Prop where
  front : ∃ first, name.toList.head? = some first ∧ (isAlphabetic first = true ∨ first = '_')
  characters : ∀ c ∈ name.toList, isAlphabetic c = true ∨ isNumeric c = true ∨ c = '_'
  small : ∀ c ∈ name.toList, c.isUpper = false

namespace Settings

def packageSource (settings : Settings) (application : String) : List Char :=
  match settings.package with
  | some path => (path.toList.splitOn '/').getLastD []
  | none => application.toList

def NeedsLead (source : List Char) : Prop :=
  source = [] ∨ ∃ first, source.head? = some first ∧ isNumeric first = true ∧
    isAlphabetic first = false

section Characters

variable {c : Char}

/-- ASCII capitals and their small forms are letters. -/
theorem toLower_cases (c : Char) :
    c.isUpper = false ∧ c.toLower = c ∨
      c.isUpper = true ∧ isAlphabetic c = true ∧ isAlphabetic c.toLower = true ∧
        c.toLower.isUpper = false := by
  cases capital : c.isUpper with
  | false =>
      have other : ¬ (c.val ≥ 'A'.val ∧ c.val ≤ 'Z'.val) := of_decide_eq_false capital
      exact .inl ⟨rfl, dif_neg other⟩
  | true =>
      have range : 0x41 ≤ c.toNat ∧ c.toNat ≤ 0x5a := of_decide_eq_true capital
      have letters : ((List.range 26).all fun index =>
          let letter := Char.ofNat (0x41 + index)
          isAlphabetic letter && isAlphabetic letter.toLower && !letter.toLower.isUpper) =
            true := by
        decide +kernel
      have letter := List.all_eq_true.mp letters (c.toNat - 0x41) (List.mem_range.mpr (by omega))
      have same : Char.ofNat (0x41 + (c.toNat - 0x41)) = c := by
        rw [Nat.add_sub_cancel' range.1, Char.ofNat_toNat]
      simp only [same, Bool.and_eq_true, Bool.not_eq_true'] at letter
      exact .inr ⟨rfl, letter.1.1, letter.1.2, letter.2⟩

theorem isTail_packageCharacter (c : Char) : isTail (packageCharacter c) = true := by
  unfold packageCharacter
  split
  next tail =>
    rcases toLower_cases c with ⟨_, same⟩ | ⟨_, _, letter, _⟩
    · rw [same, tail]
    · exact isTail_iff.mpr (.inl letter)
  next => exact isTail_iff.mpr (.inr (.inr rfl))

theorem packageCharacter_small (c : Char) : (packageCharacter c).isUpper = false := by
  unfold packageCharacter
  split
  next =>
    rcases toLower_cases c with ⟨small, same⟩ | ⟨_, _, _, small⟩
    · rw [same, small]
    · exact small
  next => decide

theorem packageCharacter_eq (tail : isTail c = true) (small : c.isUpper = false) :
    packageCharacter c = c := by
  rw [packageCharacter, if_pos tail]
  rcases toLower_cases c with ⟨_, same⟩ | ⟨capital, _⟩
  · exact same
  · rw [capital] at small
    cases small

theorem startsPackage_eq_false (c : Char) :
    startsPackage (packageCharacter c) = false ↔ isNumeric c = true ∧ isAlphabetic c = false := by
  -- What cannot stand in a name becomes an underscore, so only numbers are left that no name begins
  -- with.
  have underscore : isNumeric '_' = false := by decide +kernel
  unfold startsPackage packageCharacter
  cases tail : isTail c with
  | false =>
      have number : isNumeric c = false := by
        simp only [isTail, isAlphanumeric, Bool.or_eq_false_iff] at tail
        exact tail.1.2
      simp [number]
  | true =>
      rw [if_pos rfl]
      rcases toLower_cases c with ⟨_, same⟩ | ⟨_, letter, letterToo, _⟩
      · simp only [same, isTail, isAlphanumeric, Bool.or_eq_true, Bool.or_eq_false_iff, beq_iff_eq,
          beq_eq_false_iff_ne] at tail ⊢
        grind
      · simp [letter, letterToo]

end Characters

section Names

variable {name : String}

theorem needsLead_iff (source : List Char) :
    NeedsLead source ↔ (source.map packageCharacter).head?.any startsPackage = false := by
  cases source with
  | nil => simp [NeedsLead]
  | cons first rest =>
      rw [List.map_cons, List.head?_cons, Option.any_some, startsPackage_eq_false]
      simp [NeedsLead]

theorem packageIdentifier_cases (source : List Char) :
    NeedsLead source ∧
        (packageIdentifier (String.ofList source)).toList = '_' :: source.map packageCharacter ∨
      ¬ NeedsLead source ∧
        (packageIdentifier (String.ofList source)).toList = source.map packageCharacter := by
  rw [needsLead_iff, packageIdentifier, String.toList_ofList]
  cases (source.map packageCharacter).head?.any startsPackage with
  | false => exact .inl ⟨rfl, String.toList_ofList⟩
  | true => exact .inr ⟨by simp, String.toList_ofList⟩

theorem packageIdentifier_proper (source : List Char) :
    PackageName (packageIdentifier (String.ofList source)) := by
  have mapped : ∀ c ∈ source.map packageCharacter, isTail c = true ∧ c.isUpper = false := by
    intro c member
    obtain ⟨origin, _, rfl⟩ := List.mem_map.mp member
    exact ⟨isTail_packageCharacter origin, packageCharacter_small origin⟩
  rcases packageIdentifier_cases source with ⟨_, written⟩ | ⟨suited, written⟩
  · have each : ∀ c ∈ '_' :: source.map packageCharacter, isTail c = true ∧ c.isUpper = false :=
      List.forall_mem_cons.mpr ⟨⟨isTail_iff.mpr (.inr (.inr rfl)), by decide⟩, mapped⟩
    rw [← written] at each
    exact ⟨⟨'_', by rw [written]; rfl, .inr rfl⟩, fun c member => isTail_iff.mp (each c member).1,
      fun c member => (each c member).2⟩
  · rw [needsLead_iff, Bool.not_eq_false, Option.any_eq_true] at suited
    obtain ⟨first, head, starts⟩ := suited
    rw [← written] at mapped head
    exact ⟨⟨first, head, by simpa [startsPackage] using starts⟩,
      fun c member => isTail_iff.mp (mapped c member).1, fun c member => (mapped c member).2⟩

/-- A name is named after itself. -/
theorem packageIdentifier_name (proper : PackageName name) : packageIdentifier name = name := by
  have kept : name.toList.map packageCharacter = name.toList := by
    have each : ∀ c ∈ name.toList, packageCharacter c = id c := fun c member =>
      packageCharacter_eq (isTail_iff.mpr (proper.characters c member)) (proper.small c member)
    rw [List.map_congr_left each, List.map_id]
  obtain ⟨first, head, starts⟩ := proper.front
  have suited : name.toList.head?.any startsPackage = true := by
    rw [head, Option.any_some]
    simpa [startsPackage] using starts
  rw [packageIdentifier, kept, if_pos suited, String.ofList_toList]

theorem not_mem_packageName (proper : PackageName name) {c : Char} (outside : isTail c = false) :
    c ∉ name.toList := by
  intro member
  rw [isTail_iff.mpr (proper.characters c member)] at outside
  cases outside

theorem lastSegment_name (proper : PackageName name) : lastSegment name = name :=
  lastSegment_plain (not_mem_packageName proper isTail_marks.2)

theorem packageFor_eq (settings : Settings) (application : String) :
    settings.packageFor application =
      packageIdentifier (String.ofList (settings.packageSource application)) := by
  unfold packageFor packageSource
  cases settings.package with
  | none => simp only [String.ofList_toList]
  | some path => simp only [← toList_lastSegment, String.ofList_toList]

theorem packageFor_proper (settings : Settings) (application : String) :
    PackageName (settings.packageFor application) := by
  rw [packageFor_eq]
  exact packageIdentifier_proper _

end Names

/-- The name of a package is made from its source alone, character by character behind an underscore
that stands only where it is needed, and is named after itself. -/
theorem packageFor_normal (settings : Settings) (application : String) :
    PackageName (settings.packageFor application) ∧
    (∃ shown : List Char, shown.length = (settings.packageSource application).length ∧
      (NeedsLead (settings.packageSource application) ∧
          (settings.packageFor application).toList = '_' :: shown ∨
        ¬ NeedsLead (settings.packageSource application) ∧
          (settings.packageFor application).toList = shown)) ∧
    (∀ (other : Settings) (elsewhere : String),
      other.packageSource elsewhere = settings.packageSource application →
        other.packageFor elsewhere = settings.packageFor application) ∧
    (settings.package = none →
      settings.packageFor (settings.packageFor application) = settings.packageFor application) ∧
    ∀ elsewhere : String,
      packageFor { settings with package := some (settings.packageFor application) } elsewhere =
        settings.packageFor application := by
  have proper := packageFor_proper settings application
  refine ⟨proper,
    ⟨(settings.packageSource application).map packageCharacter, List.length_map _, ?_⟩, ?_, ?_, ?_⟩
  · rw [packageFor_eq]
    exact packageIdentifier_cases _
  · intro other elsewhere same
    rw [packageFor_eq, same, ← packageFor_eq]
  · intro unset
    have plain : ∀ text, settings.packageFor text = packageIdentifier text := by
      intro text
      rw [packageFor, unset]
    calc settings.packageFor (settings.packageFor application)
        = packageIdentifier (settings.packageFor application) := plain _
      _ = settings.packageFor application := packageIdentifier_name proper
  · intro elsewhere
    calc packageFor { settings with package := some (settings.packageFor application) } elsewhere
        = packageIdentifier (lastSegment (settings.packageFor application)) := rfl
      _ = packageIdentifier (settings.packageFor application) := by rw [lastSegment_name proper]
      _ = settings.packageFor application := packageIdentifier_name proper

/-- A path that ends in a number and one that ends in a slash. Neither is followed by the
application, and a name is kept whether it is given as an application or as a path. -/
theorem numbered_normal :
    (Settings.packageSource { package := some "example.org/Go/9Lives-Élan" } "shop" =
      "9Lives-Élan".toList ∧
      ∀ application : String,
        Settings.packageFor { package := some "example.org/Go/9Lives-Élan" } application =
          "_9lives_Élan" ∧
        Settings.packageFor { package := some "_9lives_Élan" } application = "_9lives_Élan") ∧
    (∀ application : String,
      Settings.packageFor { package := some "example.org/go/" } application = "_") ∧
    Settings.packageFor {} "Store Front" = "store_front" ∧
    Settings.packageFor {} "store_front" = "store_front" := by
  have number : Settings.packageFor { package := some "example.org/Go/9Lives-Élan" } "" =
      "_9lives_Élan" := by
    decide +kernel
  have nothing : Settings.packageFor { package := some "example.org/go/" } "" = "_" := by
    decide +kernel
  have named : Settings.packageFor {} "Store Front" = "store_front" := by decide +kernel
  obtain ⟨_, _, same, _, again⟩ :=
    packageFor_normal { package := some "example.org/Go/9Lives-Élan" } ""
  obtain ⟨_, _, sameToo, _, _⟩ := packageFor_normal { package := some "example.org/go/" } ""
  obtain ⟨_, _, _, kept, _⟩ := packageFor_normal {} "Store Front"
  rw [number] at same again
  rw [nothing] at sameToo
  refine ⟨⟨by decide +kernel, fun application => ⟨same _ application rfl, again application⟩⟩,
    fun application => sameToo _ application rfl, named, ?_⟩
  rw [← named]
  exact kept rfl

end Settings

end TableReaders.Package
