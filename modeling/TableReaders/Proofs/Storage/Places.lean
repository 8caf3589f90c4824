import Mathlib.Logic.Function.Basic
import TableReaders.Proofs.Storage.Disk

/-!
Stores as maps from places to what is there. A path has one place, and a request that succeeds has
the usual effect there: a file that was put replaces what was at its place and changes nothing else,
and a directory that was made adds directories where nothing was. What a request does that fails is
left open. A disk is such a map: where a path leads can be told from its names alone, and the walk
along the path only decides whether one gets there.
-/

namespace TableReaders.Storage

/-- All that changes is that there are directories where nothing was. -/
def Grown {κ : Type} (before after : κ → Option Node) : Prop :=
  ∀ place, after place = before place ∨ before place = none ∧ after place = some .directory

theorem Grown.refl {κ : Type} (nodes : κ → Option Node) : Grown nodes nodes :=
  fun _ => .inl rfl

theorem Grown.trans {κ : Type} {first second third : κ → Option Node} (one : Grown first second)
    (other : Grown second third) : Grown first third := by
  intro place
  rcases other place with kept | ⟨nothing, added⟩
  · rw [kept]
    exact one place
  · rcases one place with kept | ⟨_, there⟩
    · exact .inr ⟨kept.symm.trans nothing, added⟩
    · rw [nothing] at there
      cases there

theorem Grown.directory {κ : Type} {before after : κ → Option Node} (grown : Grown before after)
    {place : κ} (there : before place = some .directory) : after place = some .directory := by
  rcases grown place with kept | ⟨nothing, _⟩
  · rw [kept, there]
  · rw [there] at nothing
    cases nothing

/-- A store is a map from places to nodes, in which requests that succeed have their usual
effect. -/
structure Store.IsMap {σ κ : Type} [Store σ] [DecidableEq κ] (node? : σ → κ → Option Node)
    (placeOf : String → κ) : Prop where
  /-- A file is what was put at its place, and all else stays. -/
  putFile : ∀ (store : σ) path contents, (Store.putFile store path contents).failure = none →
    node? (Store.putFile store path contents).store =
      Function.update (node? store) (placeOf path) (some (.file contents.toUTF8))
  /-- The directory is there, and directories are all that came with it. -/
  makeDirectory : ∀ (store : σ) path, (Store.makeDirectory store path).failure = none →
    node? (Store.makeDirectory store path).store (placeOf path) = some .directory ∧
      Grown (node? store) (node? (Store.makeDirectory store path).store)

namespace Disk

def follow (place : Place) (name : String) : Place :=
  if isDots name then followDots place name else place ++ [name]

def placeOf (path : String) : Place :=
  (pathNames path).foldl follow []

variable {disk : Disk} {place directory : Place} {names : List String}

theorem follow_dots {name : String} (dots : isDots name = true) :
    follow place name = followDots place name :=
  if_pos dots

theorem follow_plain {name : String} (plain : ¬isDots name = true) :
    follow place name = place ++ [name] :=
  if_neg plain

section Walks

theorem enter_follow (entered : disk.enter place names = .ok directory) :
    directory = names.foldl follow place := by
  induction names generalizing place with
  | nil => exact (Except.ok.inj entered).symm
  | cons name rest ih =>
      unfold enter at entered
      rw [List.foldl_cons]
      split at entered
      next dots =>
        rw [follow_dots dots]
        exact ih entered
      next plain =>
        rw [follow_plain plain]
        split at entered
        next => exact ih entered
        next => cases entered
        next => cases entered

def Reached (disk : Disk) (place : Place) : Prop :=
  ∀ front, front <+: place → disk.node? front = some .directory

theorem reached_root (disk : Disk) : disk.Reached [] := by
  intro front above
  rw [List.prefix_nil.mp above]
  rfl

theorem Reached.followDots (reached : disk.Reached place) (name : String) :
    disk.Reached (followDots place name) := by
  unfold Disk.followDots
  split
  · intro front above
    exact reached front (above.trans ( List.dropLast_prefix place))
  · exact reached

theorem Reached.child {name : String} (reached : disk.Reached place)
    (there : disk.node? (place ++ [name]) = some .directory) : disk.Reached (place ++ [name]) := by
  intro front above
  rcases List.prefix_concat_iff.mp above with whole | shorter
  · rw [whole]
    exact there
  · exact reached front shorter

theorem Reached.grown {later : Disk} (reached : disk.Reached place)
    (grown : Grown disk.node? later.node?) : later.Reached place :=
  fun front above => grown.directory (reached front above)

theorem enter_reached (reached : disk.Reached place)
    (entered : disk.enter place names = .ok directory) : disk.Reached directory := by
  induction names generalizing place with
  | nil =>
      cases entered
      exact reached
  | cons name rest ih =>
      unfold enter at entered
      split at entered
      next dots => exact ih (reached.followDots name) entered
      next plain =>
        split at entered
        next there => exact ih (reached.child there) entered
        next => cases entered
        next => cases entered

theorem node?_put (inside : place ≠ []) (node : Node) :
    (disk.put place node).node? = Function.update disk.node? place (some node) := by
  funext other
  by_cases here : other = place
  · rw [here, node?_put_self inside, Function.update_self]
  · rw [node?_put_other here, Function.update_of_ne here]

theorem grown_put (free : disk.node? place = none) :
    Grown disk.node? (disk.put place .directory).node? := by
  have inside : place ≠ [] := by
    rintro rfl
    cases free
  intro other
  by_cases here : other = place
  · rw [here, node?_put_self inside]
    exact .inr ⟨free, rfl⟩
  · exact .inl (node?_put_other here _)

end Walks

section Making

/-- A walk that makes what is missing only adds directories, whether or not it gets to its end. -/
theorem makeFrom_grown : Grown disk.node? (disk.makeFrom place names).store.node? := by
  induction names generalizing disk place with
  | nil => exact Grown.refl _
  | cons name rest ih =>
      unfold makeFrom
      split
      next => exact ih
      next =>
        split
        next => exact ih
        next => exact Grown.refl _
        next free =>
          split
          next => exact (grown_put free).trans ih
          next => exact Grown.refl _

theorem makeFrom_reached (reached : disk.Reached place)
    (made : (disk.makeFrom place names).failure = none) :
    (disk.makeFrom place names).store.Reached (names.foldl follow place) := by
  induction names generalizing disk place with
  | nil => exact reached
  | cons name rest ih =>
      unfold makeFrom at made ⊢
      rw [List.foldl_cons]
      split at made
      next dots =>
        rw [if_pos dots, follow_dots dots]
        exact ih (reached.followDots name) made
      next plain =>
        rw [if_neg plain, follow_plain plain]
        split at made
        next there => exact ih (reached.child there) made
        next => cases made
        next free =>
          split at made
          next short =>
            have there : (disk.put (place ++ [name]) .directory).node? (place ++ [name]) =
                some .directory := node?_put_self (List.concat_ne_nil _ _) _
            rw [if_pos short]
            exact ih ((reached.grown (grown_put free)).child there) made
          next => cases made

theorem makeAbove_reached (made : (disk.makeAbove names).failure = none) :
    (disk.makeAbove names).store.Reached (names.foldl follow []) := by
  unfold makeAbove at made ⊢
  cases above : (disk.makeFrom [] names.dropLast).failure with
  | some error =>
      simp only [above] at made
      cases made
  | none =>
      simp only [above] at made ⊢
      cases entered : (disk.makeFrom [] names.dropLast).store.enter [] names with
      | error error =>
          simp only [entered] at made
          cases made
      | ok reached =>
          rw [← enter_follow entered]
          exact enter_reached (reached_root _) entered

theorem makeAbove_grown : Grown disk.node? (disk.makeAbove names).store.node? := by
  simp only [makeAbove]
  split
  · exact makeFrom_grown
  · split
    · exact makeFrom_grown
    · exact makeFrom_grown

/-- Names that stay where they are can be left out. -/
theorem foldl_pathSteps (path : String) : (pathSteps path).foldl follow [] = placeOf path := by
  have still : (fun place name =>
      if (name != "" && name != ".") = true then follow place name else place) = follow := by
    funext place name
    split
    · rfl
    next omitted =>
      have stays : name = "" ∨ name = "." := by simpa [or_iff_not_imp_left] using omitted
      rcases stays with rfl | rfl <;> rfl
  rw [pathSteps, List.foldl_filter, still, placeOf]

theorem makeDirectory_usual {path : String} (made : (disk.makeDirectory path).failure = none) :
    (disk.makeDirectory path).store.node? (placeOf path) = some .directory ∧
      Grown disk.node? (disk.makeDirectory path).store.node? := by
  unfold makeDirectory at made ⊢
  cases refused : refusal? path with
  | some error =>
      simp only [refused] at made
      cases made
  | none =>
      simp only [refused] at made ⊢
      rw [← foldl_pathSteps]
      by_cases dot : endsInDot path = true
      · simp only [dot, if_true] at made ⊢
        exact ⟨makeAbove_reached made _ List.prefix_rfl, makeAbove_grown⟩
      · simp only [dot] at made ⊢
        exact ⟨makeFrom_reached (reached_root disk) made _ List.prefix_rfl, makeFrom_grown⟩

end Making

theorem pathNames_ne_nil (path : String) : pathNames path ≠ [] := by
  have some : ∀ (text held : List Char), namesFrom held text ≠ [] := by
    intro text
    induction text with
    | nil => exact fun held => List.cons_ne_nil _ _
    | cons c rest ih =>
        intro held
        unfold namesFrom
        split
        · exact List.cons_ne_nil _ _
        · exact ih (c :: held)
  exact some path.toList []

theorem filePlace_placeOf {path : String} (found : disk.filePlace path = .ok place) :
    place = placeOf path ∧ place ≠ [] := by
  have names := List.dropLast_concat_getLast (pathNames_ne_nil path)
  obtain ⟨⟨_, plain, _⟩, directory, entered, same, _⟩ := (filePlace_eq_ok names.symm).mp found
  refine ⟨?_, same ▸ List.concat_ne_nil _ _⟩
  rw [placeOf, ← names, List.foldl_append, ← enter_follow entered, List.foldl_cons, follow,
    plain, same]
  rfl

/-- On a disk every request that succeeds does what is usual. -/
theorem isMap : Store.IsMap Disk.node? placeOf := by
  constructor
  case putFile =>
    intro disk path contents put
    obtain ⟨place, found, after⟩ := putFile_eq_ok put
    obtain ⟨same, inside⟩ := filePlace_placeOf found
    change (disk.putFile path contents).store.node? = _
    rw [after, node?_put inside, same]
  case makeDirectory =>
    intro disk path made
    exact makeDirectory_usual made

end Disk

end TableReaders.Storage
