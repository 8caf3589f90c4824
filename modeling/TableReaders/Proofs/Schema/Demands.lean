import TableReaders.Proofs.Schema.Accepted

/-!
Which defect the check reports. Everything that it asks is put into one list, in the order in which
it asks: table by table, then the enumerations, then the groups. Whether a name is taken is said
there by the names that stand before it, without the set of seen names that the check carries along.
The check then is a search for the first demand that is not met, and what it accepts are the
applications that meet all of them.
-/

namespace TableReaders.Schema

structure Demand where
  met : Bool
  report : CheckError

def Demand.defect? (demand : Demand) : Option CheckError :=
  if demand.met then none else some demand.report

def firstDefect? (demands : List Demand) : Option CheckError :=
  demands.findSome? Demand.defect?

/-- What is asked of the entries of a list, one after another. An entry is asked with the names that
are taken when it is reached: those taken before the list and those of the entries before it. -/
def inTurn {α : Type} (key : α → String) (asked : List String → α → List Demand)
    (taken : List String) (entries : List α) : List Demand :=
  entries.zipIdx.flatMap fun (entry, place) => asked (taken ++ (entries.take place).map key) entry

def Field.demands (table : Table) (taken : List String) (field : Field) : List Demand := [
  ⟨Identifier.valid field.name, .notAnIdentifier .field field.name⟩,
  ⟨Identifier.exported field.name ∉ taken, .definedTwice .field (table.name ++ "." ++ field.name)⟩,
  ⟨field.type = vectorToken →
    ∃ token ∈ field.items, token ≠ "", .itemsMissing table.name field.name⟩]

def Table.ownDemands (table : Table) : List Demand :=
  ⟨Identifier.valid table.name, .notAnIdentifier .table table.name⟩ ::
    inTurn (fun field => Identifier.exported field.name) (Field.demands table) [] table.fields

def Table.demands (taken : List String) (table : Table) : List Demand :=
  ⟨!reserved table.name, .notAnIdentifier .table table.name⟩ ::
    ⟨table.name ∉ taken, .definedTwice .table table.name⟩ :: table.ownDemands

def Enumeration.demands (taken : List String) (enumeration : Enumeration) : List Demand := [
  ⟨Identifier.valid enumeration.name, .notAnIdentifier .enumeration enumeration.name⟩,
  ⟨enumeration.name ∉ taken, .definedTwice .enumeration enumeration.name⟩]

def Group.demands (taken : List String) (group : Group) : List Demand := [
  ⟨Identifier.valid group.name && !reserved group.name, .notAnIdentifier .group group.name⟩,
  ⟨group.name ∉ taken, .definedTwice .group group.name⟩]

def Application.demands (application : Application) : List Demand :=
  let tableNames := application.tables.map (·.name)
  let enumerationNames := application.enumerations.map (·.name)
  inTurn (·.name) Table.demands [] application.tables ++
    inTurn (·.name) Enumeration.demands tableNames application.enumerations ++
    inTurn (·.name) Group.demands (tableNames ++ enumerationNames)
      (application.enumerations.flatMap (·.groups))

section Lists

variable {α : Type} {key : α → String} {asked : List String → α → List Demand}

theorem firstDefect?_append (first second : List Demand) :
    firstDefect? (first ++ second) = (firstDefect? first).or (firstDefect? second) :=
  List.findSome?_append

theorem firstDefect?_cons (demand : Demand) (rest : List Demand) :
    firstDefect? (demand :: rest) = demand.defect?.or (firstDefect? rest) := by
  unfold firstDefect?
  rw [List.findSome?_cons]
  cases demand.defect? <;> rfl

@[simp] theorem firstDefect?_nil : firstDefect? [] = none := rfl

theorem firstDefect?_eq_some_iff {demands : List Demand} {error : CheckError} :
    firstDefect? demands = some error ↔
      ∃ before demand after, demands = before ++ demand :: after ∧
        (∀ earlier ∈ before, earlier.met = true) ∧ demand.met = false ∧ demand.report = error := by
  simp [firstDefect?, List.findSome?_eq_some_iff, Demand.defect?, and_assoc, and_comm,
    and_left_comm]

/-- The entries behind the first find its name among those taken. -/
theorem inTurn_cons (taken : List String) (entry : α) (rest : List α) :
    inTurn key asked taken (entry :: rest) =
      asked taken entry ++ inTurn key asked (taken ++ [key entry]) rest := by
  simp [inTurn, List.zipIdx_cons, List.zipIdx_succ, List.flatMap_map]

end Lists

namespace Check

variable {definition : Definition} {shown name : String} {seen taken : List String}

theorem identifier_demand :
    identifier definition name =
      unlessFault (Demand.defect? ⟨Identifier.valid name, .notAnIdentifier definition name⟩)
        () := by
  unfold identifier Demand.defect?
  cases Identifier.valid name <;> rfl

theorem unreserved_demand :
    unreserved definition name =
      unlessFault (Demand.defect? ⟨!reserved name, .notAnIdentifier definition name⟩) () := by
  unfold unreserved Demand.defect?
  cases reserved name <;> rfl

/-- The check may carry the taken names in any order. -/
theorem fresh_demand (same : ∀ name, name ∈ seen ↔ name ∈ taken) :
    fresh definition shown seen name =
      unlessFault (Demand.defect? ⟨name ∉ taken, .definedTwice definition shown⟩)
        (name :: seen) := by
  unfold fresh Demand.defect?
  by_cases member : name ∈ taken
  · simp [member, same, unlessFault]
  · simp [member, same, unlessFault]

/-- A walk that asks every entry with the names seen so far is a search through all that it asks. -/
theorem foldlM_demands {α : Type} {key : α → String} {asked : List String → α → List Demand}
    {step : List String → α → Checked (List String)}
    (each : ∀ seen taken entry, (∀ name, name ∈ seen ↔ name ∈ taken) →
      step seen entry = unlessFault (firstDefect? (asked taken entry)) (key entry :: seen))
    (entries : List α) {seen : List String} (taken : List String)
    (same : ∀ name, name ∈ seen ↔ name ∈ taken) :
    entries.foldlM step seen =
      unlessFault (firstDefect? (inTurn key asked taken entries))
        ((entries.map key).reverse ++ seen) := by
  induction entries generalizing seen taken with
  | nil => rfl
  | cons entry rest ih =>
      rw [List.foldlM_cons, each seen taken entry same, inTurn_cons, firstDefect?_append]
      apply unlessFault_bind
      have grown : ∀ name, name ∈ key entry :: seen ↔ name ∈ taken ++ [key entry] := by
        intro name
        simp [same, or_comm]
      rw [ih _ grown]
      simp

theorem field_demands (owner : Table) (seen taken : List String) (given : Field)
    (same : ∀ name, name ∈ seen ↔ name ∈ taken) :
    field owner seen given =
      unlessFault (firstDefect? (given.demands owner taken))
        (Identifier.exported given.name :: seen) := by
  unfold field Field.demands
  rw [identifier_demand, firstDefect?_cons]
  apply unlessFault_bind
  rw [fresh_demand same, firstDefect?_cons]
  apply unlessFault_bind
  rw [firstDefect?_cons, Demand.defect?]
  simp only [itemsMissing_iff, ite_not, decide_eq_true_eq]
  split <;> rfl

theorem discard_unlessFault {α : Type} {fault : Option CheckError} {value : α} :
    discard (unlessFault fault value) = unlessFault fault () := by
  cases fault <;> rfl

theorem table_demands (given : Table) :
    table given = unlessFault (firstDefect? given.ownDemands) () := by
  unfold table Table.ownDemands
  rw [identifier_demand, firstDefect?_cons]
  apply unlessFault_bind
  rw [foldlM_demands (field_demands given) given.fields [] fun _ => Iff.rfl, discard_unlessFault]

theorem nextTable_demands (seen taken : List String) (given : Table)
    (same : ∀ name, name ∈ seen ↔ name ∈ taken) :
    nextTable seen given =
      unlessFault (firstDefect? (given.demands taken)) (given.name :: seen) := by
  unfold nextTable Table.demands
  rw [unreserved_demand, firstDefect?_cons]
  apply unlessFault_bind
  rw [fresh_demand same, firstDefect?_cons]
  apply unlessFault_bind
  rw [table_demands]
  cases firstDefect? given.ownDemands <;> rfl

theorem nextEnumeration_demands (seen taken : List String) (given : Enumeration)
    (same : ∀ name, name ∈ seen ↔ name ∈ taken) :
    nextEnumeration seen given =
      unlessFault (firstDefect? (given.demands taken)) (given.name :: seen) := by
  unfold nextEnumeration Enumeration.demands
  rw [identifier_demand, firstDefect?_cons]
  apply unlessFault_bind
  rw [fresh_demand same, firstDefect?_cons, firstDefect?_nil, Option.or_none]

theorem nextGroup_demands (seen taken : List String) (given : Group)
    (same : ∀ name, name ∈ seen ↔ name ∈ taken) :
    nextGroup seen given =
      unlessFault (firstDefect? (given.demands taken)) (given.name :: seen) := by
  unfold nextGroup Group.demands
  rw [fresh_demand same, firstDefect?_cons, firstDefect?_cons, firstDefect?_nil, Option.or_none,
    identifier_demand, unreserved_demand]
  cases Identifier.valid given.name <;> cases reserved given.name <;> rfl

end Check

theorem Application.check_demands (application : Application) :
    application.check = unlessFault (firstDefect? application.demands) () := by
  -- The names seen when a list begins are those of the lists before it.
  unfold Application.check Application.demands
  rw [firstDefect?_append, firstDefect?_append, Option.or_assoc,
    Check.foldlM_demands Check.nextTable_demands application.tables [] fun _ => Iff.rfl]
  apply unlessFault_bind
  rw [Check.foldlM_demands Check.nextEnumeration_demands application.enumerations
    (application.tables.map (·.name)) (by simp)]
  apply unlessFault_bind
  rw [Check.foldlM_demands Check.nextGroup_demands (application.enumerations.flatMap (·.groups))
    (application.tables.map (·.name) ++ application.enumerations.map (·.name))
    (by simp [or_comm]), Check.discard_unlessFault]

/-- The check accepts the well-formed applications, and of any other it reports the first thing
asked that is not met. -/
theorem Application.check_reports_first (application : Application) :
    (application.check = .ok () ↔ application.Accepted) ∧
    ∀ error, application.check = .error error ↔
      ∃ before demand after, application.demands = before ++ demand :: after ∧
        (∀ earlier ∈ before, earlier.met = true) ∧ demand.met = false ∧ demand.report = error := by
  constructor
  · exact Application.check_eq_ok application
  · intro error
    rw [check_demands, unlessFault_eq_error, firstDefect?_eq_some_iff]

end TableReaders.Schema
