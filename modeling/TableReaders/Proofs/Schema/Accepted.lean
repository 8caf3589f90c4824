import Mathlib.Data.List.Nodup
import TableReaders.Proofs.Outcome
import TableReaders.Schema.Check

/-!
Which applications the check accepts, said without the order in which it looks at them. Every part
of the check is a walk over a list that asks something of each entry for itself and keeps the keys
it has seen. One lemma speaks of all such walks; tables, enumerations, groups and fields only differ
in what is asked and in what the key is.
-/

namespace TableReaders.Schema

section Walk

variable {α : Type}

/-- A walk over fresh keys succeeds exactly if every entry passes and no key comes twice or was seen
before. -/
theorem foldlM_fresh {step : List String → α → Checked (List String)} {passes : α → Prop}
    {key : α → String}
    (exact : ∀ seen entry next, step seen entry = .ok next ↔
      passes entry ∧ key entry ∉ seen ∧ next = key entry :: seen)
    (entries : List α) (seen last : List String) :
    entries.foldlM step seen = .ok last ↔
      (∀ entry ∈ entries, passes entry) ∧ (entries.map key).Nodup ∧
        (∀ entry ∈ entries, key entry ∉ seen) ∧ last = (entries.map key).reverse ++ seen := by
  induction entries generalizing seen with
  | nil => simp [pure, Except.pure, eq_comm]
  | cons entry rest ih =>
      simp only [List.foldlM_cons, bind_eq_ok, exact, ih, List.forall_mem_cons, List.map_cons,
        List.nodup_cons, List.reverse_cons, List.append_assoc, List.singleton_append]
      constructor
      · rintro ⟨next, ⟨passed, fresh, same⟩, later, distinct, unseen, ending⟩
        subst same
        have away : key entry ∉ rest.map key := by
          intro member
          obtain ⟨other, listed, agrees⟩ := List.mem_map.mp member
          exact unseen other listed (by rw [agrees]; exact List.mem_cons_self)
        refine ⟨⟨passed, later⟩, ⟨away, distinct⟩, ⟨fresh, ?_⟩, ending⟩
        intro other listed earlier
        exact unseen other listed (List.mem_cons_of_mem _ earlier)
      · rintro ⟨⟨passed, later⟩, ⟨away, distinct⟩, ⟨fresh, unseen⟩, ending⟩
        refine ⟨_, ⟨passed, fresh, rfl⟩, later, distinct, ?_, ending⟩
        intro other listed member
        rcases List.mem_cons.mp member with same | earlier
        · exact away (same ▸ List.mem_map_of_mem listed)
        · exact unseen other listed earlier

end Walk

namespace Check

variable {definition : Definition} {shown name : String} {seen next : List String}

theorem fresh_eq_ok :
    fresh definition shown seen name = .ok next ↔ name ∉ seen ∧ next = name :: seen := by
  unfold fresh
  by_cases member : name ∈ seen
  · simp [member]
  · simp [member, eq_comm]

theorem identifier_eq_ok {done : Unit} :
    identifier definition name = .ok done ↔ Identifier.valid name = true := by
  unfold identifier
  by_cases proper : Identifier.valid name = true <;> simp [proper]

theorem unreserved_eq_ok {done : Unit} :
    unreserved definition name = .ok done ↔ reserved name = false := by
  unfold unreserved
  by_cases taken : reserved name = true <;> simp [taken]

end Check

theorem Field.itemToken?_eq_some {field : Field} {token : String} :
    field.itemToken? = some token ↔ field.items = some token ∧ token ≠ "" := by
  simp [itemToken?, Option.filter_eq_some_iff]

theorem Field.itemToken?_eq_none {field : Field} :
    field.itemToken? = none ↔ ¬ ∃ token ∈ field.items, token ≠ "" := by
  simp only [Option.eq_none_iff_forall_ne_some, ne_eq, itemToken?_eq_some, not_exists,
    Option.mem_def]

structure Field.Accepted (field : Field) : Prop where
  identifier : Identifier.valid field.name = true
  items : field.type = vectorToken → ∃ token ∈ field.items, token ≠ ""

structure Table.Accepted (table : Table) : Prop where
  identifier : Identifier.valid table.name = true
  fields : ∀ field ∈ table.fields, field.Accepted
  distinct : (table.fields.map fun field => Identifier.exported field.name).Nodup

/-- What is asked of an application: tables, enumerations and groups share one name space. -/
structure Application.Accepted (application : Application) : Prop where
  tables : ∀ table ∈ application.tables, reserved table.name = false ∧ table.Accepted
  enumerations : ∀ enumeration ∈ application.enumerations, Identifier.valid enumeration.name = true
  groups : ∀ group ∈ application.enumerations.flatMap (·.groups),
    Identifier.valid group.name = true ∧ reserved group.name = false
  distinct : (application.tables.map (·.name) ++ application.enumerations.map (·.name) ++
    (application.enumerations.flatMap (·.groups)).map (·.name)).Nodup

namespace Check

theorem itemsMissing_iff (given : Field) :
    (given.holdsVector && given.itemToken?.isNone) = true ↔
      ¬ (given.type = vectorToken → ∃ token ∈ given.items, token ≠ "") := by
  rw [Bool.and_eq_true, Option.isNone_iff_eq_none, Field.itemToken?_eq_none, Field.holdsVector,
    beq_iff_eq, Classical.not_imp]

theorem field_eq_ok (owner : Table) (seen : List String) (given : Field) (next : List String) :
    field owner seen given = .ok next ↔
      given.Accepted ∧ Identifier.exported given.name ∉ seen ∧
        next = Identifier.exported given.name :: seen := by
  simp only [field, bind_eq_ok, identifier_eq_ok, fresh_eq_ok]
  constructor
  · rintro ⟨_, proper, known, ⟨fresh, same⟩, ending⟩
    split at ending
    next => cases ending
    next complete =>
      cases ending
      rw [itemsMissing_iff, not_not] at complete
      exact ⟨⟨proper, complete⟩, fresh, same⟩
  · rintro ⟨⟨proper, items⟩, fresh, same⟩
    refine ⟨(), proper, next, ⟨fresh, same⟩, ?_⟩
    rw [if_neg]
    · rfl
    · rw [itemsMissing_iff, not_not]
      exact items

theorem discard_eq_ok {α : Type} {run : Checked α} {done : Unit} :
    discard run = .ok done ↔ ∃ last, run = .ok last := by
  cases run <;> simp [discard, Functor.discard, Functor.mapConst, Except.map]

theorem table_eq_ok {given : Table} {done : Unit} : table given = .ok done ↔ given.Accepted := by
  simp only [table, bind_eq_ok, identifier_eq_ok, discard_eq_ok, foldlM_fresh (field_eq_ok given)]
  constructor
  · rintro ⟨_, proper, last, fields, distinct, _⟩
    exact ⟨proper, fields, distinct⟩
  · rintro ⟨proper, fields, distinct⟩
    exact ⟨(), proper, _, fields, distinct, by simp, rfl⟩

theorem nextTable_eq_ok (seen : List String) (given : Table) (next : List String) :
    nextTable seen given = .ok next ↔
      (reserved given.name = false ∧ given.Accepted) ∧ given.name ∉ seen ∧
        next = given.name :: seen := by
  simp only [nextTable, bind_eq_ok, unreserved_eq_ok, fresh_eq_ok, table_eq_ok]
  constructor
  · rintro ⟨_, free, known, ⟨fresh, same⟩, _, accepted, ending⟩
    cases ending
    exact ⟨⟨free, accepted⟩, fresh, same⟩
  · rintro ⟨⟨free, accepted⟩, fresh, same⟩
    exact ⟨(), free, next, ⟨fresh, same⟩, (), accepted, rfl⟩

theorem nextEnumeration_eq_ok (seen : List String) (given : Enumeration) (next : List String) :
    nextEnumeration seen given = .ok next ↔
      Identifier.valid given.name = true ∧ given.name ∉ seen ∧ next = given.name :: seen := by
  simp [nextEnumeration, bind_eq_ok, identifier_eq_ok, fresh_eq_ok]

theorem nextGroup_eq_ok (seen : List String) (given : Group) (next : List String) :
    nextGroup seen given = .ok next ↔
      (Identifier.valid given.name = true ∧ reserved given.name = false) ∧ given.name ∉ seen ∧
        next = given.name :: seen := by
  simp [nextGroup, bind_eq_ok, identifier_eq_ok, unreserved_eq_ok, fresh_eq_ok, and_assoc]

end Check

theorem Application.check_eq_ok (application : Application) :
    application.check = .ok () ↔ application.Accepted := by
  simp only [Application.check, bind_eq_ok, Check.discard_eq_ok, foldlM_fresh Check.nextTable_eq_ok,
    foldlM_fresh Check.nextEnumeration_eq_ok, foldlM_fresh Check.nextGroup_eq_ok]
  constructor
  · rintro
      ⟨first, ⟨tables, tableNames, _, rfl⟩, second, ⟨enumerations, enumerationNames, apart, rfl⟩,
      last, groups, groupNames, beyond, _⟩
    refine ⟨tables, enumerations, groups, ?_⟩
    -- Each list was checked against the names seen before it, which are those of the lists before
    -- it.
    rw [List.nodup_append', List.nodup_append']
    refine ⟨⟨tableNames, enumerationNames, ?_⟩, groupNames, ?_⟩
    · intro name inTables inEnumerations
      obtain ⟨enumeration, listed, rfl⟩ := List.mem_map.mp inEnumerations
      exact apart enumeration listed (by simpa using inTables)
    · intro name before inGroups
      obtain ⟨group, listed, rfl⟩ := List.mem_map.mp inGroups
      exact beyond group listed (by simpa [or_comm] using before)
  · rintro ⟨tables, enumerations, groups, distinct⟩
    rw [List.nodup_append', List.nodup_append'] at distinct
    obtain ⟨⟨tableNames, enumerationNames, apart⟩, groupNames, beyond⟩ := distinct
    refine ⟨_, ⟨tables, tableNames, by simp, rfl⟩, _, ⟨enumerations, enumerationNames, ?_, rfl⟩, _,
      groups, groupNames, ?_, rfl⟩
    · intro enumeration listed member
      exact apart (by simpa using member) (List.mem_map_of_mem listed)
    · intro group listed member
      exact beyond (by simpa [or_comm] using member) (List.mem_map_of_mem listed)

end TableReaders.Schema
