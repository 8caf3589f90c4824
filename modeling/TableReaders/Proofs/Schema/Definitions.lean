import Mathlib.Data.List.Nodup
import Mathlib.Data.List.Pairwise
import Mathlib.Data.List.Perm.Basic
import TableReaders.Proofs.Schema.Accepted
import TableReaders.Proofs.Schema.Registry

/-!
What tokens name in an accepted application. An index lets the latest entry of a name count, so in
general it matters when something was declared. In an accepted application every definition has a
name of its own, and then a token names the one definition that has its name, wherever that stands.
Two consequences follow: the order of the declarations does not matter, and a declaration that is
added later takes no token away from an earlier one.
-/

namespace TableReaders.Schema

namespace Application

/-- What a token names by the lists alone: a table of its name, or a group of its name with the
enumeration that owns the group. -/
inductive Defines (application : Application) (token : String) : Target → Prop where
  | table {table : Table} (member : table ∈ application.tables) (named : table.name = token) :
      Defines application token (.table (application.qualify token))
  | group {enumeration : Enumeration} {group : Group}
      (member : enumeration ∈ application.enumerations)
      (owned : group ∈ enumeration.groups) (named : group.name = token) :
      Defines application token
        (.group (application.qualify token) (application.qualify enumeration.name))

section Names

variable {application : Application}

theorem Accepted.table_ne_group (accepted : application.Accepted) {table : Table}
    {enumeration : Enumeration} {group : Group} (listed : table ∈ application.tables)
    (member : enumeration ∈ application.enumerations) (owned : group ∈ enumeration.groups) :
    table.name ≠ group.name := by
  intro same
  have apart := (List.nodup_append'.mp accepted.distinct).2.2
  have before : table.name ∈ application.tables.map (·.name) ++
      application.enumerations.map (·.name) :=
    List.mem_append_left _ (List.mem_map_of_mem listed)
  have among : group ∈ application.enumerations.flatMap (·.groups) :=
    List.mem_flatMap.mpr ⟨enumeration, member, owned⟩
  exact apart before (same ▸ List.mem_map_of_mem among)

/-- Groups of different enumerations have different names, so a name tells the owner. -/
theorem Accepted.owner_unique (accepted : application.Accepted) {first second : Enumeration}
    {group rival : Group} (one : first ∈ application.enumerations)
    (other : second ∈ application.enumerations) (owned : group ∈ first.groups)
    (ownedToo : rival ∈ second.groups) (same : group.name = rival.name) : first = second := by
  have distinct := (List.nodup_append'.mp accepted.distinct).2.1
  rw [List.map_flatMap, List.nodup_flatMap] at distinct
  have symmetric : Std.Symm (Function.onFun List.Disjoint fun enumeration : Enumeration =>
      enumeration.groups.map (·.name)) := ⟨fun _ _ apart _ here there => apart there here⟩
  by_contra differ
  have apart := distinct.2.forall one other differ
  exact apart (List.mem_map_of_mem owned) (same ▸ List.mem_map_of_mem ownedToo)

theorem Declared.defines_of_target (declared : application.Declared) {token : String}
    (known : application.target token ≠ .unknown) :
    application.Defines token (application.target token) := by
  rcases declared.target_cases token with ⟨⟨table, member, named⟩, target⟩ |
    ⟨_, _, parent, target⟩ | ⟨_, _, target⟩
  · rw [target]
    exact .table member named
  · obtain ⟨enumeration, member, owner, group, owned, named⟩ :=
      declared.indexed.enumeration_of_target target
    rw [target, owner]
    exact .group member owned named
  · exact absurd target known

theorem Declared.target_of_defines (declared : application.Declared)
    (accepted : application.Accepted)
    {token : String} {target : Target} (defines : application.Defines token target) :
    application.target token = target := by
  cases defines with
  | table member named =>
      rcases declared.target_cases token with ⟨_, found⟩ | ⟨unnamed, _⟩ | ⟨unnamed, _⟩
      · exact found
      · exact absurd ⟨_, member, named⟩ unnamed
      · exact absurd ⟨_, member, named⟩ unnamed
  | group member owned named =>
      rcases declared.target_cases token with ⟨⟨table, listed, called⟩, _⟩ | ⟨_, _, parent, found⟩ |
        ⟨_, unnamed, _⟩
      · exact absurd (called.trans named.symm) (accepted.table_ne_group listed member owned)
      · obtain ⟨owner, listed, same, rival, ownedToo, called⟩ :=
          declared.indexed.enumeration_of_target found
        rw [found, same,
          accepted.owner_unique listed member ownedToo owned (called.trans named.symm)]
      · exact absurd ⟨_, member, _, owned, named⟩ unnamed

/-- A definition goes on being one where there are at least as many tables, and enumerations with at
least as many groups. -/
theorem Defines.mono {second : Application} {token : String} {target : Target}
    (defines : application.Defines token target) (name : application.name = second.name)
    (tables : ∀ table ∈ application.tables, table ∈ second.tables)
    (enumerations : ∀ enumeration ∈ application.enumerations, ∃ other ∈ second.enumerations,
      enumeration.name = other.name ∧ ∀ group ∈ enumeration.groups, group ∈ other.groups) :
    second.Defines token target := by
  have qualified : application.qualify = second.qualify := by
    funext token
    rw [qualify, name, qualify]
  cases defines with
  | table member named =>
      rw [qualified]
      exact .table (tables _ member) named
  | group member owned named =>
      obtain ⟨other, listed, same, groups⟩ := enumerations _ member
      rw [qualified, same]
      exact .group listed (groups _ owned) named

end Names

section Order

structure Regrouped (first second : Enumeration) : Prop where
  name : first.name = second.name
  groups : first.groups.Perm second.groups

/-- The same definitions in another order: of the tables, of the enumerations, and of the groups in
each of them. How declarations of tables and of enumerations alternate does not show in the
lists. -/
structure Rearranged (first second : Application) : Prop where
  name : first.name = second.name
  tables : first.tables.Perm second.tables
  enumerations : ∃ between, first.enumerations.Perm between ∧
    List.Forall₂ Regrouped between second.enumerations

variable {first second : Application}

theorem Regrouped.symm {one other : Enumeration} (same : Regrouped one other) :
    Regrouped other one :=
  ⟨same.name.symm, same.groups.symm⟩

theorem Rearranged.symm (same : first.Rearranged second) : second.Rearranged first := by
  obtain ⟨between, moved, regrouped⟩ := same.enumerations
  -- To move entries and then to regroup each is to regroup each and then to move them.
  obtain ⟨middle, changed, back⟩ := List.perm_comp_forall₂ moved regrouped
  refine ⟨same.name.symm, same.tables.symm, middle, back.symm, ?_⟩
  exact changed.flip.imp fun _ _ => Regrouped.symm

theorem Rearranged.enumeration_kept (same : first.Rearranged second) {enumeration : Enumeration}
    (member : enumeration ∈ first.enumerations) :
    ∃ other ∈ second.enumerations, Regrouped enumeration other := by
  obtain ⟨between, moved, regrouped⟩ := same.enumerations
  exact exists_of_forall₂ regrouped (moved.mem_iff.mp member)

theorem Rearranged.enumerationNames (same : first.Rearranged second) :
    (first.enumerations.map (·.name)).Perm (second.enumerations.map (·.name)) := by
  obtain ⟨between, moved, regrouped⟩ := same.enumerations
  have names : between.map (·.name) = second.enumerations.map (·.name) := by
    rw [← List.forall₂_eq_eq_eq, List.forall₂_map_left_iff, List.forall₂_map_right_iff]
    exact regrouped.imp fun _ _ => Regrouped.name
  rw [← names]
  exact moved.map _

theorem groups_perm {enumerations others : List Enumeration}
    (regrouped : List.Forall₂ Regrouped enumerations others) :
    (enumerations.flatMap (·.groups)).Perm (others.flatMap (·.groups)) := by
  induction regrouped with
  | nil => exact .nil
  | cons same _ ih =>
      rw [List.flatMap_cons, List.flatMap_cons]
      exact same.groups.append ih

theorem Rearranged.groups (same : first.Rearranged second) :
    (first.enumerations.flatMap (·.groups)).Perm (second.enumerations.flatMap (·.groups)) := by
  obtain ⟨between, moved, regrouped⟩ := same.enumerations
  exact (moved.flatMap_right _).trans (groups_perm regrouped)

theorem Rearranged.accepted (same : first.Rearranged second) (accepted : first.Accepted) :
    second.Accepted := by
  refine ⟨?_, ?_, ?_, ?_⟩
  · intro table member
    exact accepted.tables table (same.tables.mem_iff.mpr member)
  · intro enumeration member
    obtain ⟨other, listed, regrouped⟩ := same.symm.enumeration_kept member
    rw [regrouped.name]
    exact accepted.enumerations other listed
  · intro group member
    exact accepted.groups group (same.groups.mem_iff.mpr member)
  · have names := ((same.tables.map (·.name)).append same.enumerationNames).append
      (same.groups.map (·.name))
    exact names.nodup_iff.mp accepted.distinct

theorem Rearranged.check_iff (same : first.Rearranged second) :
    first.check = .ok () ↔ second.check = .ok () := by
  rw [check_eq_ok, check_eq_ok]
  exact ⟨same.accepted, same.symm.accepted⟩

theorem Rearranged.defines (same : first.Rearranged second) {token : String} {target : Target}
    (defines : first.Defines token target) : second.Defines token target := by
  apply defines.mono same.name
  · intro table member
    exact same.tables.mem_iff.mp member
  · intro enumeration member
    obtain ⟨other, listed, regrouped⟩ := same.enumeration_kept member
    exact ⟨other, listed, regrouped.name, fun _ owned => regrouped.groups.mem_iff.mp owned⟩

theorem Rearranged.target_eq (same : first.Rearranged second) (one : first.Declared)
    (other : second.Declared) (accepted : first.Accepted) (token : String) :
    first.target token = second.target token := by
  by_cases known : first.target token = .unknown
  · -- What the second application knew, the first would know as well.
    by_contra differ
    rw [known] at differ
    have defines := same.symm.defines (other.defines_of_target (Ne.symm differ))
    exact differ (known.symm.trans (one.target_of_defines accepted defines))
  · have defines := same.defines (one.defines_of_target known)
    exact (other.target_of_defines (same.accepted accepted) defines).symm

/-- Where every definition has a name of its own, every token is answered the same in any order. -/
theorem Rearranged.resolve_eq (same : first.Rearranged second) (one : first.Declared)
    (other : second.Declared) (accepted : first.Accepted) : first.resolve = second.resolve := by
  funext asked token
  rw [resolve, resolve, same.name, same.target_eq one other accepted]

end Order

section Growth

inductive Extends (earlier : Application) : Application → Prop where
  | same : Extends earlier earlier
  | table {application : Application} (before : Extends earlier application) (table : Table) :
      Extends earlier (application.declareTable table)
  | enumeration {application : Application} (before : Extends earlier application)
      (enumeration : Enumeration) : Extends earlier (application.declareEnumeration enumeration)

variable {earlier later : Application}

theorem Extends.declared (grown : earlier.Extends later) (declared : earlier.Declared) :
    later.Declared := by
  induction grown with
  | same => exact declared
  | table before table ih => exact ih.table table
  | enumeration before enumeration ih => exact ih.enumeration enumeration

theorem Extends.name (grown : earlier.Extends later) : later.name = earlier.name := by
  induction grown with
  | same => rfl
  | table before table ih => exact ih
  | enumeration before enumeration ih => exact ih

theorem Extends.tables (grown : earlier.Extends later) : earlier.tables <+: later.tables := by
  induction grown with
  | same => exact List.prefix_rfl
  | table before table ih => exact ih.trans (List.prefix_append _ _)
  | enumeration before enumeration ih => exact ih

theorem Extends.enumerations (grown : earlier.Extends later) :
    earlier.enumerations <+: later.enumerations := by
  induction grown with
  | same => exact List.prefix_rfl
  | table before table ih => exact ih
  | enumeration before enumeration ih => exact ih.trans (List.prefix_append _ _)

theorem Extends.defines (grown : earlier.Extends later) {token : String} {target : Target}
    (defines : earlier.Defines token target) : later.Defines token target := by
  apply defines.mono grown.name.symm
  · intro table member
    exact grown.tables.subset member
  · intro enumeration member
    exact ⟨enumeration, grown.enumerations.subset member, rfl, fun _ owned => owned⟩

/-- A token that named something goes on naming it, as long as no name is taken twice in the end. -/
theorem Extends.resolve_kept (grown : earlier.Extends later) (declared : earlier.Declared)
    (accepted : later.Accepted) {asked token : String} {target : Target} (known : target ≠ .unknown)
    (answer : earlier.resolve asked token = .ok target) :
    later.resolve asked token = .ok target := by
  obtain ⟨own, proper, names⟩ := resolve_eq_ok.mp answer
  subst names
  have defines := grown.defines (declared.defines_of_target known)
  refine resolve_eq_ok.mpr ⟨?_, proper, ?_⟩
  · rw [own, grown.name]
  · exact (grown.declared declared).target_of_defines accepted defines

end Growth

end Application

end TableReaders.Schema
