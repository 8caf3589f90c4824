import Mathlib.Data.List.Dedup
import TableReaders.Package.ImportSet
import TableReaders.Proofs.Text.Bytes

/-!
Sets of imports, whatever the order of the additions. A set holds the paths that were added to it,
in increasing order. A path in its place keeps this so, and an increasing list has no other list
with the same members. Hence the block of imports is that of the paths alone.
-/

namespace TableReaders.Package.ImportSet

def addAll (imports : ImportSet) : List String → List Bool × ImportSet
  | [] => ([], imports)
  | path :: rest =>
      let (answer, grown) := imports.add path
      let (answers, last) := addAll grown rest
      (answer :: answers, last)

/-- The set has the paths that were added and no others, in increasing order. -/
structure Holds (imports : ImportSet) (added : List String) : Prop where
  members : ∀ path, path ∈ imports.paths ↔ path ∈ added
  increasing : imports.paths.Pairwise (· < ·)

section Step

variable {path other : String} {paths : List String}

theorem mem_insertInto : other ∈ insertInto path paths ↔ other = path ∨ other ∈ paths := by
  induction paths with
  | nil => exact List.mem_singleton.trans (by simp)
  | cons first rest ih =>
      unfold insertInto
      split
      next => exact List.mem_cons
      next =>
        split
        next same => simp [same]
        next =>
          rw [List.mem_cons, ih, List.mem_cons]
          exact or_left_comm

theorem increasing_insertInto (increasing : paths.Pairwise (· < ·)) :
    (insertInto path paths).Pairwise (· < ·) := by
  induction paths with
  | nil => exact List.pairwise_singleton _ path
  | cons first rest ih =>
      rw [List.pairwise_cons] at increasing
      unfold insertInto
      split
      next less =>
        refine List.pairwise_cons.mpr ⟨?_, List.pairwise_cons.mpr increasing⟩
        intro later member
        rcases List.mem_cons.mp member with same | behind
        · exact same ▸ less
        · exact String.lt_trans less (increasing.1 later behind)
      next reached =>
        split
        next => exact List.pairwise_cons.mpr increasing
        next different =>
          refine List.pairwise_cons.mpr ⟨?_, ih increasing.2⟩
          intro later member
          rcases mem_insertInto.mp member with same | behind
          · -- The path comes neither before the first one nor is it the same, so it comes behind.
            rw [same, ← String.not_le]
            exact fun before => different (String.le_antisymm before (String.not_lt.mp reached))
          · exact increasing.1 later behind

end Step

section Run

variable {imports others : ImportSet} {added more : List String}

theorem holds_empty : Holds {} [] :=
  ⟨fun _ => Iff.rfl, .nil⟩

theorem Holds.add (holds : Holds imports added) (path : String) :
    Holds (imports.add path).2 (added ++ [path]) where
  members other := by
    rw [List.mem_append, List.mem_singleton, ← holds.members, or_comm]
    exact mem_insertInto
  increasing := increasing_insertInto holds.increasing

theorem Holds.answer (holds : Holds imports added) (path : String) :
    (imports.add path).1 = decide (path ∉ added) := by
  have known : imports.contains path = decide (path ∈ added) := by
    rw [contains, ← decide_eq_decide.mpr (holds.members path)]
    exact List.contains_eq_mem path imports.paths
  rw [ImportSet.add, known, decide_not]

theorem Holds.addAll (holds : Holds imports added) (more : List String) :
    Holds (imports.addAll more).2 (added ++ more) := by
  induction more generalizing imports added with
  | nil =>
      rw [List.append_nil]
      exact holds
  | cons path rest ih =>
      have grown := ih (holds.add path)
      rw [List.append_assoc, List.singleton_append] at grown
      exact grown

/-- An addition is answered by what was added before it. -/
theorem Holds.answers (holds : Holds imports added) (before after : List String) (path : String) :
    (imports.addAll (before ++ path :: after)).1[before.length]? =
      some (decide (path ∉ added ++ before)) := by
  induction before generalizing imports added with
  | nil =>
      rw [List.append_nil, ← holds.answer path]
      rfl
  | cons earlier before ih =>
      have later := ih (holds.add earlier)
      rw [List.append_assoc, List.singleton_append] at later
      exact later

theorem Holds.nodup (holds : Holds imports added) : imports.paths.Nodup :=
  holds.increasing.imp String.ne_of_lt

theorem Holds.size_eq (holds : Holds imports added) : imports.size = added.dedup.length := by
  have same : imports.paths.Perm added.dedup := by
    refine (List.perm_ext_iff_of_nodup holds.nodup (List.nodup_dedup added)).mpr ?_
    intro path
    rw [holds.members, List.mem_dedup]
  exact same.length_eq

/-- There is one increasing list with the same members. -/
theorem Holds.unique (one : Holds imports added) (other : Holds others more)
    (same : ∀ path, path ∈ added ↔ path ∈ more) : imports = others := by
  have members : imports.paths.Perm others.paths := by
    refine (List.perm_ext_iff_of_nodup one.nodup other.nodup).mpr ?_
    intro path
    rw [one.members, other.members, same]
  have paths : imports.paths = others.paths := by
    refine members.eq_of_pairwise ?_ one.increasing other.increasing
    intro first second _ _ less greater
    exact absurd greater (String.lt_asymm less)
  exact congrArg ImportSet.mk paths

theorem Holds.isEmpty_iff (holds : Holds imports added) : imports.isEmpty = true ↔ added = [] := by
  rw [isEmpty, List.isEmpty_iff, List.eq_nil_iff_forall_not_mem, List.eq_nil_iff_forall_not_mem]
  exact forall_congr' fun path => not_congr (holds.members path)

end Run

/-- However paths are added, the set has them in the order of their bytes, each once, and every
addition tells whether its path is new. The block has a line for each path in that order. -/
theorem addAll_canonical (added : List String) :
    (∀ path, path ∈ (addAll {} added).2.paths ↔ path ∈ added) ∧
    ((addAll {} added).2.paths.Pairwise fun one other =>
      Text.BytesBefore (Text.bytes one) (Text.bytes other)) ∧
    (∀ before path after, added = before ++ path :: after →
      (addAll {} added).1[before.length]? = some (decide (path ∉ before))) ∧
    (addAll {} added).2.size = added.dedup.length ∧
    (∀ other, (∀ path, path ∈ other ↔ path ∈ added) →
      (addAll {} other).2.render = (addAll {} added).2.render) ∧
    (addAll {} added).2.render =
      if added = [] then ""
      else "import (\n" ++
        String.join ((addAll {} added).2.paths.map fun path => "\t\"" ++ path ++ "\"\n") ++
          ")\n\n" := by
  have holds := holds_empty.addAll added
  rw [List.nil_append] at holds
  refine ⟨holds.members, holds.increasing.imp Text.bytes_before, ?_, holds.size_eq, ?_, ?_⟩
  · rintro before path after rfl
    exact holds_empty.answers before after path
  · intro other same
    have held := holds_empty.addAll other
    rw [List.nil_append] at held
    rw [held.unique holds same]
  · rw [render]
    exact if_congr holds.isEmpty_iff rfl rfl

def scrambled : List String :=
  ["zeta", "📦", "alpha", "Ａ", "alpha"]

theorem scrambled_canonical :
    (addAll {} scrambled).2.paths = ["alpha", "zeta", "Ａ", "📦"] ∧
    ((addAll {} scrambled).2.paths.Pairwise fun one other =>
      Text.BytesBefore (Text.bytes one) (Text.bytes other)) ∧
    (addAll {} scrambled).1[2]? = some true ∧ (addAll {} scrambled).1[4]? = some false ∧
    (addAll {} scrambled).2.size = 4 ∧
    (addAll {} ["Ａ", "zeta", "alpha", "zeta", "📦"]).2.render =
      "import (\n\t\"alpha\"\n\t\"zeta\"\n\t\"Ａ\"\n\t\"📦\"\n)\n\n" := by
  obtain ⟨_, increasing, answers, size, unique, block⟩ := addAll_canonical scrambled
  have paths : (addAll {} scrambled).2.paths = ["alpha", "zeta", "Ａ", "📦"] := by decide +kernel
  have added : ∀ path, path ∈ ["Ａ", "zeta", "alpha", "zeta", "📦"] ↔ path ∈ scrambled := by
    intro path
    simp only [scrambled, List.mem_cons, List.not_mem_nil, or_false]
    grind
  refine ⟨paths, increasing, answers ["zeta", "📦"] "alpha" ["Ａ", "alpha"] rfl,
    answers ["zeta", "📦", "alpha", "Ａ"] "alpha" [] rfl, ?_, ?_⟩
  · rw [size]
    decide +kernel
  · rw [unique _ added, block, paths]
    decide +kernel

end TableReaders.Package.ImportSet
