import TableReaders.Proofs.Outcome
import TableReaders.Storage.Disk

/-!
Stores as maps from paths to texts. What is put at a path replaces what can be read there and
changes nothing at any other path. On a disk two paths may lead to one place, so a disk is such a
map on the files of one directory only: there a name without a slash is the last step of the path,
and different names are different places.
-/

namespace TableReaders.Storage

/-- On certain paths a store is a map: a successful request to put a text at one of them replaces
what is read there, and what is read at the others stays. -/
def Store.MapsOn {σ : Type} [Store σ] (text? : σ → String → Option String) (paths : String → Prop) :
    Prop :=
  ∀ (store : σ) (path contents other : String), paths path → paths other →
    (Store.putFile store path contents).failure = none →
      text? (Store.putFile store path contents).store other =
        if other = path then some contents else text? store other

theorem Store.MapsOn.mono {σ : Type} [Store σ] {text? : σ → String → Option String}
    {paths fewer : String → Prop} (maps : MapsOn text? paths)
    (among : ∀ path, fewer path → paths path) :
    MapsOn text? fewer :=
  fun store path contents other one another put =>
    maps store path contents other (among path one) (among other another) put

section Paths

variable {directory first second : String}

def leading (directory : String) : String :=
  if directory = "" then ""
  else if directory.toList.getLast? = some '/' then directory
  else directory ++ "/"

theorem joinPath_eq (directory file : String) :
    joinPath directory file = leading directory ++ file := by
  unfold joinPath leading
  split
  · rw [String.empty_append]
  · split <;> rfl

theorem joinPath_inj : joinPath directory first = joinPath directory second ↔ first = second := by
  rw [joinPath_eq, joinPath_eq, String.append_right_inj]

theorem leading_shape (directory : String) :
    leading directory = "" ∨ ∃ above, (leading directory).toList = above ++ ['/'] := by
  unfold leading
  split
  next => exact Or.inl rfl
  next =>
    right
    split
    next ends =>
      obtain ⟨above, shape⟩ := List.getLast?_eq_some_iff.mp ends
      exact ⟨above, shape⟩
    next => exact ⟨directory.toList, String.toList_append⟩

theorem namesFrom_plain {plain : List Char} (none : '/' ∉ plain) (held : List Char) :
    namesFrom held plain = [String.ofList (held.reverse ++ plain)] := by
  induction plain generalizing held with
  | nil => simp [namesFrom]
  | cons c rest ih =>
      have other : c ≠ '/' := fun same => none (same ▸ List.mem_cons_self)
      rw [namesFrom, if_neg other, ih fun member => none (List.mem_cons_of_mem c member)]
      simp

theorem namesFrom_slash (held front rest : List Char) :
    namesFrom held (front ++ '/' :: rest) = namesFrom held front ++ namesFrom [] rest := by
  induction front generalizing held with
  | nil => simp [namesFrom]
  | cons c front ih =>
      by_cases slash : c = '/'
      · simp [namesFrom, slash, ih]
      · simp [namesFrom, slash, ih]

/-- The names above a file come from the directory alone. -/
theorem pathNames_joinPath (directory : String) :
    ∃ above, ∀ name : String, '/' ∉ name.toList →
      pathNames (joinPath directory name) = above ++ [name] := by
  rcases leading_shape directory with bare | ⟨above, shape⟩
  · refine ⟨[], fun name plain => ?_⟩
    rw [joinPath_eq, bare, String.empty_append, pathNames, namesFrom_plain plain]
    simp
  · refine ⟨namesFrom [] above, fun name plain => ?_⟩
    rw [joinPath_eq, pathNames, String.toList_append, shape, List.append_assoc,
      List.singleton_append, namesFrom_slash, namesFrom_plain plain]
    simp

end Paths

namespace Disk

variable {disk : Disk} {place other directory : Place}

theorem lookup_filter_ne (apart : other ≠ place) (nodes : List (Place × Node)) :
    (nodes.filter (·.1 != place)).lookup other = nodes.lookup other := by
  induction nodes with
  | nil => rfl
  | cons entry rest ih =>
      obtain ⟨key, node⟩ := entry
      by_cases here : key = place
      · subst here
        have unlike : (other == key) = false := beq_eq_false_iff_ne.mpr apart
        simp [List.lookup_cons, unlike, ih]
      · simp [here, List.lookup_cons, ih]

theorem node?_put_self (inside : place ≠ []) (node : Node) :
    (disk.put place node).node? place = some node := by
  cases place with
  | nil => exact absurd rfl inside
  | cons name names => simp [node?, put]

theorem node?_put_other (apart : other ≠ place) (node : Node) :
    (disk.put place node).node? other = disk.node? other := by
  unfold node?
  split
  · rfl
  · have unlike : (other == place) = false := beq_eq_false_iff_ne.mpr apart
    simp only [put, List.lookup_cons, unlike]
    exact lookup_filter_ne apart disk.nodes

theorem enter_put (free : disk.isDirectory place = false) (contents : ByteArray) {start : Place}
    {names : List String} (entered : disk.enter start names = .ok directory) :
    (disk.put place (.file contents)).enter start names = .ok directory := by
  -- On the way to a directory there are directories only, so a file put elsewhere is not met.
  induction names generalizing start with
  | nil => exact entered
  | cons name rest ih =>
      unfold enter at entered ⊢
      split at entered
      next dots =>
        rw [if_pos dots]
        exact ih entered
      next plain =>
        rw [if_neg plain]
        split at entered
        next found =>
          -- The name leads into a directory, and the file is put where there is none.
          have apart : start ++ [name] ≠ place := by
            intro same
            rw [same] at found
            rw [isDirectory, found] at free
            cases free
          rw [node?_put_other apart, found]
          exact ih entered
        next => cases entered
        next => cases entered

section Texts

variable {path name text : String} {above : List String}

/-- A path leads to a name in the directory that the names above it lead to. -/
theorem filePlace_eq_ok (names : pathNames path = above ++ [name]) :
    disk.filePlace path = .ok place ↔
      (refusal? path = none ∧ isDots name = false ∧ name.utf8ByteSize ≤ longestName) ∧
        ∃ directory, disk.enter [] above = .ok directory ∧ place = directory ++ [name] ∧
          disk.isDirectory place = false := by
  unfold filePlace
  cases refusal? path with
  | some error => simp [throw, throwThe, MonadExceptOf.throw, bind, Except.bind]
  | none =>
      simp only [names, List.dropLast_concat, List.getLastD_concat, bind_eq_ok, true_and]
      constructor
      · rintro ⟨directory, entered, chosen⟩
        -- Every refusal is a branch of its own, and the last branch is the place.
        split at chosen
        next => cases chosen
        next plain =>
          split at chosen
          next => cases chosen
          next short =>
            split at chosen
            next => cases chosen
            next free =>
              cases chosen
              exact ⟨⟨eq_false_of_ne_true plain, Nat.le_of_not_lt short⟩, directory, entered, rfl,
                eq_false_of_ne_true free⟩
      · rintro ⟨⟨plain, short⟩, directory, entered, same, free⟩
        subst same
        refine ⟨directory, entered, ?_⟩
        rw [if_neg (ne_true_of_eq_false plain), if_neg (Nat.not_lt_of_le short),
          if_neg (ne_true_of_eq_false free)]
        rfl

theorem putFile_eq_ok (put : (disk.putFile path text).failure = none) :
    ∃ place, disk.filePlace path = .ok place ∧
      (disk.putFile path text).store = disk.put place (.file text.toUTF8) := by
  unfold putFile at put ⊢
  split at put
  next place found => exact ⟨place, found, rfl⟩
  next => cases put

def text? (disk : Disk) (path : String) : Option String :=
  (disk.readText path).toOption

theorem text?_eq_some :
    disk.text? path = some text ↔
      ∃ place contents, disk.filePlace path = .ok place ∧ disk.node? place = some (.file contents) ∧
        String.fromUTF8? contents = some text := by
  unfold text? readText
  cases disk.filePlace path with
  | error error => simp [bind, Except.bind, Except.toOption]
  | ok place =>
      cases found : disk.node? place with
      | none => simp [found, bind, Except.bind, Except.toOption]
      | some node =>
          cases node with
          | directory => simp [found, bind, Except.bind, Except.toOption]
          | file contents =>
              cases read : String.fromUTF8? contents with
              | none => simp [found, read, bind, Except.bind, Except.toOption]
              | some given =>
                  simp [found, read, bind, Except.bind, pure, Except.pure, Except.toOption]

theorem fromUTF8?_toUTF8 (text : String) : String.fromUTF8? text.toUTF8 = some text :=
  dif_pos text.isValidUTF8

theorem text?_put_self (names : pathNames path = above ++ [name])
    (found : disk.filePlace path = .ok place) :
    (disk.put place (.file text.toUTF8)).text? path = some text := by
  obtain ⟨sound, directory, entered, same, free⟩ := (filePlace_eq_ok names).mp found
  have inside : place ≠ [] := by
    rw [same]
    exact List.concat_ne_nil _ _
  have filed : (disk.put place (.file text.toUTF8)).node? place = some (.file text.toUTF8) :=
    node?_put_self inside _
  rw [text?_eq_some]
  refine ⟨place, _, ?_, filed, fromUTF8?_toUTF8 text⟩
  rw [filePlace_eq_ok names]
  refine ⟨sound, directory, enter_put free _ entered, same, ?_⟩
  rw [isDirectory, filed]

/-- A file that is put at another place of a directory changes nothing about where a path leads. -/
theorem filePlace_put (names : pathNames path = above ++ [name])
    (entered : disk.enter [] above = .ok directory) (free : disk.isDirectory place = false)
    (apart : directory ++ [name] ≠ place) (contents : ByteArray) (target : Place) :
    (disk.put place (.file contents)).filePlace path = .ok target ↔
      disk.filePlace path = .ok target := by
  rw [filePlace_eq_ok names, filePlace_eq_ok names, entered, enter_put free contents entered]
  apply and_congr_right
  intro _
  constructor
  · rintro ⟨reached, same, rfl, known⟩
    cases same
    rw [isDirectory, node?_put_other apart] at known
    exact ⟨directory, rfl, rfl, known⟩
  · rintro ⟨reached, same, rfl, known⟩
    cases same
    refine ⟨directory, rfl, rfl, ?_⟩
    rw [isDirectory, node?_put_other apart]
    exact known

theorem text?_put_other (names : pathNames path = above ++ [name])
    (entered : disk.enter [] above = .ok directory) (free : disk.isDirectory place = false)
    (apart : directory ++ [name] ≠ place) (contents : ByteArray) :
    (disk.put place (.file contents)).text? path = disk.text? path := by
  ext text
  simp only [text?_eq_some, filePlace_put names entered free apart]
  apply exists_congr
  intro target
  apply exists_congr
  intro held
  apply and_congr_right
  intro found
  obtain ⟨_, reached, again, same, _⟩ := (filePlace_eq_ok names).mp found
  cases entered.symm.trans again
  rw [same, node?_put_other apart]

end Texts

theorem mapsOn_directory (directory : String) :
    Store.MapsOn text? fun path => ∃ name, path = joinPath directory name ∧ '/' ∉ name.toList := by
  -- Whatever is asked for, the directory is reached before and after, and the two names lead to two
  -- places in it unless they are one.
  rintro disk path contents other ⟨name, rfl, plain⟩ ⟨asked, rfl, proper⟩ put
  obtain ⟨above, names⟩ := pathNames_joinPath directory
  obtain ⟨place, found, after⟩ := putFile_eq_ok put
  change text? (disk.putFile _ _).store _ = _
  rw [after]
  by_cases here : asked = name
  · subst here
    rw [if_pos rfl]
    exact text?_put_self (names asked plain) found
  · obtain ⟨_, reached, entered, same, free⟩ := (filePlace_eq_ok (names name plain)).mp found
    -- Both places are in one directory, so they differ by the last name alone.
    have apart : reached ++ [asked] ≠ place := by
      rw [same]
      intro equal
      exact here (List.singleton_inj.mp (List.append_cancel_left equal))
    rw [if_neg (joinPath_inj.not.mpr here)]
    exact text?_put_other (names asked proper) entered free apart contents.toUTF8

end Disk

end TableReaders.Storage
