import Mathlib.Data.List.Nodup
import TableReaders.Proofs.Outcome
import TableReaders.Schema.Document

/-!
Applications that came about by declaring. Every entry of an index of such an application points at
a definition of the entry's name: positions stay right because lists only grow at their end. Hence a
token that names a table names one of the tables, and a token that names a group names a group of
the enumeration it is said to belong to. The other way round every definition has an entry, so what
a token names can be read off the lists. Whatever a document describes came about by declaring.
-/

namespace TableReaders.Schema

namespace Application

/-- From a name on, tables and enumerations are declared one after another. Documentation may be put
in or taken out at any time. -/
inductive Declared : Application → Prop where
  | named (name : String) : Declared { name }
  | documented {application : Application} (before : Declared application)
      (documentation : Option Documentation) : Declared { application with documentation }
  | table {application : Application} (before : Declared application) (table : Table) :
      Declared (application.declareTable table)
  | enumeration {application : Application} (before : Declared application)
      (enumeration : Enumeration) : Declared (application.declareEnumeration enumeration)

/-- Every entry of an index points at a definition of its name. -/
structure Indexed (application : Application) : Prop where
  tables : ∀ entry ∈ application.tableIndex,
    ∃ table, application.tables[entry.2]? = some table ∧ table.name = entry.1
  groups : ∀ entry ∈ application.groupIndex,
    ∃ enumeration, application.enumerations[entry.2]? = some enumeration ∧
      ∃ group ∈ enumeration.groups, group.name = entry.1

/-- A list that grows at its end keeps what it has at every position. -/
theorem getElem?_grown {α : Type} {items : List α} {position : Nat} {item : α}
    (found : items[position]? = some item) (last : α) :
    (items ++ [last])[position]? = some item := by
  obtain ⟨inside, _⟩ := List.getElem?_eq_some_iff.mp found
  rw [List.getElem?_append_left inside]
  exact found

theorem indexed_declareTable {application : Application} (indexed : application.Indexed)
    (table : Table) : (application.declareTable table).Indexed := by
  constructor
  · intro entry member
    rcases List.mem_cons.mp member with same | earlier
    -- The new entry points behind the tables there were, where the new table stands now.
    · subst same
      exact ⟨_, List.getElem?_concat_length, rfl⟩
    · obtain ⟨found, placed, named⟩ := indexed.tables entry earlier
      exact ⟨found, getElem?_grown placed _, named⟩
  · exact indexed.groups

theorem indexed_declareEnumeration {application : Application} (indexed : application.Indexed)
    (enumeration : Enumeration) : (application.declareEnumeration enumeration).Indexed := by
  constructor
  · exact indexed.tables
  · intro entry member
    rcases List.mem_append.mp member with added | earlier
    · obtain ⟨group, owned, same⟩ := List.mem_map.mp (List.mem_reverse.mp added)
      subst same
      exact ⟨enumeration, List.getElem?_concat_length, group, owned, rfl⟩
    · obtain ⟨found, placed, owns⟩ := indexed.groups entry earlier
      exact ⟨found, getElem?_grown placed _, owns⟩

theorem indexed_named (name : String) : Indexed { name } := by
  constructor <;> (intro entry member; cases member)

theorem Declared.indexed {application : Application} (declared : application.Declared) :
    application.Indexed := by
  induction declared with
  | named name => exact indexed_named name
  | documented before documentation ih => exact ⟨ih.tables, ih.groups⟩
  | table before table ih => exact indexed_declareTable ih table
  | enumeration before enumeration ih => exact indexed_declareEnumeration ih enumeration

section Tokens

def IsName (token : String) : Prop :=
  token ≠ "" ∧ '/' ∉ token.toList ∧ token.toList.any Text.isBlank = false

instance (token : String) : Decidable (IsName token) :=
  inferInstanceAs (Decidable (_ ∧ _))

variable {application : Application} {asked token id parent : String}

theorem wellFormedToken_iff : wellFormedToken token = true ↔ IsName token := by
  simp [wellFormedToken, IsName, forall_and, List.forall_mem_ne']

theorem resolve_eq_ok {target : Target} :
    application.resolve asked token = .ok target ↔
      asked = application.name ∧ wellFormedToken token = true ∧
        application.target token = target := by
  unfold resolve
  by_cases own : asked = application.name
  · by_cases proper : wellFormedToken token = true <;> simp [own, proper]
  · simp [own]

theorem slash_not_mem_token (proper : wellFormedToken token = true) : '/' ∉ token.toList := by
  intro member
  simp only [wellFormedToken, Bool.and_eq_true, List.all_eq_true] at proper
  simpa using proper.2 '/' member

theorem feed_not_mem_token (proper : wellFormedToken token = true) : '\n' ∉ token.toList := by
  intro member
  simp only [wellFormedToken, Bool.and_eq_true, List.all_eq_true] at proper
  have blank : Text.isBlank '\n' = true := by decide
  simpa [blank] using proper.2 '\n' member

theorem mem_of_lookup {index : List (String × Nat)} {name : String} {position : Nat}
    (found : index.lookup name = some position) : (name, position) ∈ index := by
  obtain ⟨before, after, shape, _⟩ := List.lookup_eq_some_iff.mp found
  rw [shape]
  simp

theorem target_eq_table (names : application.target token = .table id) :
    id = application.qualify token ∧ (application.tableIndex.lookup token).isSome = true := by
  unfold target at names
  split at names
  next listed => exact ⟨(Target.table.inj names).symm, listed⟩
  next => split at names <;> cases names

theorem target_eq_group (names : application.target token = .group id parent) :
    ∃ position enumeration, application.groupIndex.lookup token = some position ∧
      application.enumerations[position]? = some enumeration ∧
      parent = application.qualify enumeration.name := by
  unfold target at names
  split at names
  next => cases names
  next =>
    split at names
    next enumeration found =>
      obtain ⟨position, listed, placed⟩ := Option.bind_eq_some_iff.mp found
      exact ⟨position, enumeration, listed, placed, (Target.group.inj names).2.symm⟩
    next => cases names

theorem Indexed.table_of_target (indexed : application.Indexed)
    (names : application.target token = .table id) :
    ∃ table ∈ application.tables, table.name = token := by
  obtain ⟨position, listed⟩ := Option.isSome_iff_exists.mp (target_eq_table names).2
  obtain ⟨table, placed, named⟩ := indexed.tables _ (mem_of_lookup listed)
  exact ⟨table, List.mem_of_getElem? placed, named⟩

theorem Indexed.enumeration_of_target (indexed : application.Indexed)
    (names : application.target token = .group id parent) :
    ∃ enumeration ∈ application.enumerations, parent = application.qualify enumeration.name ∧
      ∃ group ∈ enumeration.groups, group.name = token := by
  obtain ⟨position, enumeration, listed, placed, owner⟩ := target_eq_group names
  -- The position that the token led to is the one that the invariant speaks of.
  obtain ⟨found, again, owns⟩ := indexed.groups _ (mem_of_lookup listed)
  rw [placed] at again
  cases again
  exact ⟨enumeration, List.mem_of_getElem? placed, owner, owns⟩

end Tokens

section Lists

structure Complete (application : Application) : Prop where
  owned : ∀ table ∈ application.tables, table.application = application.name
  tables : ∀ table ∈ application.tables, ∃ entry ∈ application.tableIndex, entry.1 = table.name
  groups : ∀ enumeration ∈ application.enumerations, ∀ group ∈ enumeration.groups,
    ∃ entry ∈ application.groupIndex, entry.1 = group.name

theorem complete_declareTable {application : Application} (complete : application.Complete)
    (table : Table) : (application.declareTable table).Complete := by
  refine ⟨?_, ?_, complete.groups⟩
  · intro other member
    rcases List.mem_append.mp member with earlier | last
    · exact complete.owned other earlier
    · rw [List.mem_singleton.mp last]
      rfl
  · intro other member
    rcases List.mem_append.mp member with earlier | last
    · obtain ⟨entry, listed, named⟩ := complete.tables other earlier
      exact ⟨entry, List.mem_cons_of_mem _ listed, named⟩
    · rw [List.mem_singleton.mp last]
      exact ⟨_, List.mem_cons_self, rfl⟩

theorem complete_declareEnumeration {application : Application} (complete : application.Complete)
    (enumeration : Enumeration) : (application.declareEnumeration enumeration).Complete := by
  refine ⟨complete.owned, complete.tables, ?_⟩
  intro other member group within
  rcases List.mem_append.mp member with earlier | last
  · obtain ⟨entry, listed, named⟩ := complete.groups other earlier group within
    exact ⟨entry, List.mem_append_right _ listed, named⟩
  · rw [List.mem_singleton.mp last] at within
    refine ⟨_, List.mem_append_left _ (List.mem_reverse.mpr (List.mem_map_of_mem within)), rfl⟩

theorem Declared.complete {application : Application} (declared : application.Declared) :
    application.Complete := by
  induction declared with
  | named name => constructor <;> (intro entry member; cases member)
  | documented before documentation ih => exact ⟨ih.owned, ih.tables, ih.groups⟩
  | table before table ih => exact complete_declareTable ih table
  | enumeration before enumeration ih => exact complete_declareEnumeration ih enumeration

def NamesTable (application : Application) (token : String) : Prop :=
  ∃ table ∈ application.tables, table.name = token

def NamesGroup (application : Application) (token : String) : Prop :=
  ∃ enumeration ∈ application.enumerations, ∃ group ∈ enumeration.groups, group.name = token

instance (application : Application) (token : String) : Decidable (application.NamesTable token) :=
  inferInstanceAs (Decidable (∃ table ∈ application.tables, table.name = token))

instance (application : Application) (token : String) : Decidable (application.NamesGroup token) :=
  inferInstanceAs
    (Decidable (∃ enumeration ∈ application.enumerations, ∃ group ∈ enumeration.groups,
    group.name = token))

variable {application : Application}

theorem Declared.table_listed_iff (declared : application.Declared) (token : String) :
    (application.tableIndex.lookup token).isSome = true ↔ application.NamesTable token := by
  constructor
  · intro listed
    obtain ⟨position, found⟩ := Option.isSome_iff_exists.mp listed
    obtain ⟨table, placed, named⟩ := declared.indexed.tables _ (mem_of_lookup found)
    exact ⟨table, List.mem_of_getElem? placed, named⟩
  · rintro ⟨table, member, rfl⟩
    obtain ⟨entry, listed, named⟩ := declared.complete.tables table member
    exact List.lookup_isSome_iff.mpr ⟨entry, listed, beq_of_eq named.symm⟩

theorem Declared.group_listed_iff (declared : application.Declared) (token : String) :
    (application.groupIndex.lookup token).isSome = true ↔ application.NamesGroup token := by
  constructor
  · intro listed
    obtain ⟨position, found⟩ := Option.isSome_iff_exists.mp listed
    obtain ⟨enumeration, placed, owns⟩ := declared.indexed.groups _ (mem_of_lookup found)
    exact ⟨enumeration, List.mem_of_getElem? placed, owns⟩
  · rintro ⟨enumeration, member, group, within, rfl⟩
    obtain ⟨entry, listed, named⟩ := declared.complete.groups enumeration member group within
    exact List.lookup_isSome_iff.mpr ⟨entry, listed, beq_of_eq named.symm⟩

/-- What a token names, told by the lists alone. -/
theorem Declared.target_cases (declared : application.Declared) (token : String) :
    application.NamesTable token ∧ application.target token = .table (application.qualify token) ∨
    ¬application.NamesTable token ∧ application.NamesGroup token ∧
      (∃ parent, application.target token = .group (application.qualify token) parent) ∨
    ¬application.NamesTable token ∧ ¬application.NamesGroup token ∧
      application.target token = .unknown := by
  have listed := declared.table_listed_iff token
  have grouped := declared.group_listed_iff token
  unfold target
  by_cases table : application.NamesTable token
  · exact .inl ⟨table, if_pos (listed.mpr table)⟩
  · rw [if_neg (mt listed.mp table)]
    by_cases group : application.NamesGroup token
    · obtain ⟨position, found⟩ := Option.isSome_iff_exists.mp (grouped.mpr group)
      obtain ⟨enumeration, placed, _⟩ := declared.indexed.groups _ (mem_of_lookup found)
      refine .inr (.inl ⟨table, group, application.qualify enumeration.name, ?_⟩)
      rw [found, Option.bind_some, placed]
    · have missing : application.groupIndex.lookup token = none :=
        Option.not_isSome_iff_eq_none.mp (mt grouped.mp group)
      refine .inr (.inr ⟨table, group, ?_⟩)
      rw [missing, Option.bind_none]

theorem Declared.table?_eq_none (declared : application.Declared) {name : String}
    (missing : ¬application.NamesTable name) : application.table? name = none := by
  have unlisted : application.tableIndex.lookup name = none :=
    Option.not_isSome_iff_eq_none.mp (mt (declared.table_listed_iff name).mp missing)
  rw [table?, unlisted, Option.bind_none]

/-- Where names are distinct, the entry of a name points at the one table that has it. -/
theorem Declared.table?_of_mem (declared : application.Declared)
    (distinct : (application.tables.map (·.name)).Nodup) {table : Table}
    (member : table ∈ application.tables) : application.table? table.name = some table := by
  obtain ⟨position, found⟩ := Option.isSome_iff_exists.mp
    ((declared.table_listed_iff table.name).mpr ⟨table, member, rfl⟩)
  obtain ⟨other, placed, named⟩ := declared.indexed.tables _ (mem_of_lookup found)
  have same : other = table :=
    List.inj_on_of_nodup_map distinct (List.mem_of_getElem? placed) member named
  rw [table?, found, Option.bind_some, placed, same]

end Lists

end Application

namespace Read

/-- The step on an element is all that matters: an event by itself changes nothing that was read. -/
theorem children_keeps {σ : Type} {onElement : σ → Markup.Tag → Markup.Content → Read σ}
    {holds : σ → Prop} {start finish : σ} {events : List Markup.Event}
    (run : children onElement start events = .ok finish) (initially : holds start)
    (kept : ∀ state tag content next, onElement state tag content = .ok next → holds state →
      holds next) : holds finish := by
  apply foldlM_keeps run initially
  intro state item next _ stepped before
  cases item with
  | element tag content => exact kept state tag content next stepped before
  | mark event =>
      obtain ⟨_, _, same⟩ := bind_eq_ok.mp stepped
      cases same
      exact before

theorem applicationPart_declared {application next : Application} {tag : Markup.Tag}
    {content : Markup.Content} (stepped : applicationPart application tag content = .ok next)
    (declared : application.Declared) : next.Declared := by
  unfold applicationPart at stepped
  split at stepped
  next =>
    obtain ⟨documentation, _, same⟩ := bind_eq_ok.mp stepped
    cases same
    exact declared.documented (some documentation)
  next =>
    split at stepped
    next =>
      obtain ⟨table, _, same⟩ := bind_eq_ok.mp stepped
      cases same
      exact declared.table table
    next =>
      split at stepped
      next =>
        obtain ⟨enumeration, _, same⟩ := bind_eq_ok.mp stepped
        cases same
        exact declared.enumeration enumeration
      next =>
        split at stepped
        next => cases stepped
        next =>
          obtain ⟨_, _, same⟩ := bind_eq_ok.mp stepped
          cases same
          exact declared

end Read

theorem Application.ofDocument_declared {text : String} {application : Application}
    (read : Application.ofDocument text = .ok application) : application.Declared := by
  obtain ⟨⟨tag, rest⟩, _, run⟩ := bind_eq_ok.mp read
  obtain ⟨name, _, run⟩ := bind_eq_ok.mp run
  exact Read.children_keeps run (.named name) fun _ _ _ _ => Read.applicationPart_declared

end TableReaders.Schema
