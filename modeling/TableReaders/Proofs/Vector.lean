import TableReaders.Proofs.Outcome
import TableReaders.Vector

/-!
Walks over vectors. After any number of calls a cursor stands at that number or at the declared
length, whichever is less: it never passes the end, so neither its next position nor the count of
what is left leaves the word. The answers of a walk are those at the positions below the declared
length, however the accesses behave. Over a list of slots a walk collects what is declared if there
are that many slots, and else fails at the first position behind them.
-/

namespace TableReaders.Vector

variable {α : Type}

section Steps

variable (reader : Reader α) {cursor : Cursor}

theorem next_before (before : cursor.position < cursor.stop) :
    reader.next cursor =
      (some (reader.get cursor.position.toInt64), ⟨cursor.position + 1, cursor.stop⟩) :=
  if_neg (UInt64.not_le.mpr before)

theorem next_ended (ended : cursor.stop ≤ cursor.position) : reader.next cursor = (none, cursor) :=
  if_pos ended

theorem toNat_advanced (before : cursor.position < cursor.stop) :
    (cursor.position + 1).toNat = cursor.position.toNat + 1 := by
  -- A position below another one is not the last word, so the one after it is its successor.
  have bound := cursor.stop.toNat_lt
  rw [UInt64.lt_iff_toNat_lt] at before
  rw [UInt64.toNat_add, UInt64.toNat_one]
  omega

def Reader.cursorAfter (reader : Reader α) : Nat → Cursor
  | 0 => reader.start
  | calls + 1 => (reader.next (reader.cursorAfter calls)).2

structure Reader.Reached (reader : Reader α) (calls : Nat) (cursor : Cursor) : Prop where
  stop : cursor.stop = reader.size
  position : cursor.position.toNat = min calls reader.size.toNat

variable {reader} {calls : Nat}

theorem reached_start (reader : Reader α) : reader.Reached 0 reader.start :=
  ⟨rfl, (Nat.zero_min _).symm⟩

theorem Reader.Reached.before_iff (reached : reader.Reached calls cursor) :
    cursor.position < cursor.stop ↔ calls < reader.size.toNat := by
  rw [UInt64.lt_iff_toNat_lt, reached.stop, reached.position]
  omega

theorem Reader.Reached.next (reached : reader.Reached calls cursor) :
    reader.Reached (calls + 1) (reader.next cursor).2 := by
  by_cases before : cursor.position < cursor.stop
  · have within := reached.before_iff.mp before
    rw [next_before reader before]
    refine ⟨reached.stop, ?_⟩
    rw [toNat_advanced before, reached.position]
    omega
  · have past : ¬ calls < reader.size.toNat := fun within => before (reached.before_iff.mpr within)
    rw [next_ended reader (UInt64.not_lt.mp before)]
    refine ⟨reached.stop, ?_⟩
    rw [reached.position]
    omega

theorem reached_cursorAfter (reader : Reader α) (calls : Nat) :
    reader.Reached calls (reader.cursorAfter calls) := by
  induction calls with
  | zero => exact reached_start reader
  | succ calls ih => exact ih.next

theorem Reader.Reached.answer (reached : reader.Reached calls cursor) :
    (reader.next cursor).1 =
      if calls < reader.size.toNat then some (reader.get calls.toUInt64.toInt64) else none := by
  by_cases before : cursor.position < cursor.stop
  · have within := reached.before_iff.mp before
    have position : cursor.position = calls.toUInt64 := by
      rw [← UInt64.toNat_inj, reached.position, Nat.toUInt64, UInt64.toNat_ofNat_of_lt']
      · omega
      · exact Nat.lt_trans within reader.size.toNat_lt
    rw [next_before reader before, if_pos within, position]
  · have past : ¬ calls < reader.size.toNat := fun within => before (reached.before_iff.mpr within)
    rw [next_ended reader (UInt64.not_lt.mp before), if_neg past]

theorem Reader.Reached.remaining (reached : reader.Reached calls cursor) :
    cursor.remaining.toNat = reader.size.toNat - min calls reader.size.toNat := by
  have inside : cursor.position ≤ cursor.stop := by
    rw [UInt64.le_iff_toNat_le, reached.stop, reached.position]
    exact Nat.min_le_right calls _
  rw [Cursor.remaining, UInt64.toNat_sub_of_le _ _ inside, reached.stop, reached.position]

end Steps

section Walks

variable {reader : Reader α} {cursor : Cursor} {calls : Nat}

/-- The walk answers at one position after another, until the steps or the positions are used up. -/
theorem walk_reached (reached : reader.Reached calls cursor) (steps : Nat) :
    reader.walk steps cursor =
      (List.range' calls (min steps (reader.size.toNat - calls))).map fun position =>
        reader.get position.toUInt64.toInt64 := by
  induction steps generalizing calls cursor with
  | zero => simp [Reader.walk]
  | succ steps ih =>
      have later := ih reached.next
      have answer := reached.answer
      rw [Reader.walk]
      generalize reader.next cursor = outcome at later answer
      obtain ⟨given, after⟩ := outcome
      by_cases within : calls < reader.size.toNat
      · rw [if_pos within] at answer
        cases answer
        have count : min (steps + 1) (reader.size.toNat - calls) =
            min steps (reader.size.toNat - (calls + 1)) + 1 := by omega
        rw [count, List.range'_succ, List.map_cons, ← later]
      · rw [if_neg within] at answer
        cases answer
        have nothing : min (steps + 1) (reader.size.toNat - calls) = 0 := by omega
        rw [nothing]
        rfl

theorem walk_start {steps : Nat} (enough : reader.size.toNat ≤ steps) :
    reader.walk steps reader.start =
      (List.range reader.size.toNat).map fun position => reader.get position.toUInt64.toInt64 := by
  rw [walk_reached (reached_start reader), Nat.sub_zero, Nat.min_eq_right enough,
    List.range_eq_range']

theorem answers_eq (reader : Reader α) :
    reader.answers =
      (List.range reader.size.toNat).map fun position => reader.get position.toUInt64.toInt64 :=
  walk_start (Nat.le_refl _)

/-- Collecting is walking, and putting the answers together up to the first error. -/
theorem gather_eq (steps : Nat) (cursor : Cursor) :
    reader.gather steps cursor = (reader.walk steps cursor).mapM id := by
  induction steps generalizing cursor with
  | zero => rfl
  | succ steps ih =>
      rw [Reader.gather, Reader.walk]
      generalize reader.next cursor = outcome
      obtain ⟨given, after⟩ := outcome
      cases given with
      | none => rfl
      | some answer =>
          cases answer with
          | error cause => rfl
          | ok item =>
              simp only [ih, List.mapM_cons, id]
              rfl

theorem items_eq (reader : Reader α) :
    reader.items =
      (List.range reader.size.toNat).mapM fun position => reader.get position.toUInt64.toInt64 := by
  rw [Reader.items, gather_eq, walk_start (Nat.le_refl _), List.mapM_map]
  rfl

end Walks

section Slots

variable [Inhabited α] {slots : List (Option α)} {index : Int64}

theorem inRange_iff {size : UInt64} :
    0 ≤ index ∧ index.toUInt64 < size ↔ 0 ≤ index.toInt ∧ index.toInt < size.toNat := by
  rw [Int64.le_iff_toInt_le, Int64.toInt_zero]
  refine and_congr_right fun positive => ?_
  have slot : index.toUInt64.toNat = index.toInt.toNat :=
    Int64.toNat_toUInt64_of_le (Int64.le_iff_toInt_le.mpr positive)
  rw [UInt64.lt_iff_toNat_lt, slot]
  omega

theorem get_slot (fits : slots.length < UInt64.size) (positive : 0 ≤ index.toInt) {slot : Option α}
    (found : slots[index.toInt.toNat]? = some slot) :
    (Reader.ofSlots slots).get index = .ok (slot.getD default) := by
  have size : slots.length.toUInt64.toNat = slots.length := UInt64.toNat_ofNat_of_lt' fits
  have position : index.toUInt64.toNat = index.toInt.toNat :=
    Int64.toNat_toUInt64_of_le (Int64.le_iff_toInt_le.mpr positive)
  obtain ⟨below, _⟩ := List.getElem?_eq_some_iff.mp found
  have inside := inRange_iff.mpr ⟨positive, show index.toInt < slots.length.toUInt64.toNat by omega⟩
  have checked : checkedSlot index slots.length.toUInt64 = .ok index.toUInt64 := if_pos inside
  simp only [Reader.ofSlots, checked]
  change Except.ok ((slots[index.toUInt64.toNat]?.join).getD default) = _
  rw [position, found]
  rfl

theorem get_outside (fits : slots.length < UInt64.size)
    (outside : ¬ (0 ≤ index.toInt ∧ index.toInt < slots.length)) :
    (Reader.ofSlots slots).get index = .error ⟨index, slots.length.toUInt64⟩ := by
  have size : slots.length.toUInt64.toNat = slots.length := UInt64.toNat_ofNat_of_lt' fits
  have refused : checkedSlot index slots.length.toUInt64 =
      .error ⟨index, slots.length.toUInt64⟩ := by
    refine if_neg fun inside => outside ?_
    rw [← size]
    exact inRange_iff.mp inside
  simp only [Reader.ofSlots, refused]
  rfl

theorem get_eq_ok (fits : slots.length < UInt64.size) (item : α) :
    (Reader.ofSlots slots).get index = .ok item ↔
      0 ≤ index.toInt ∧ ∃ slot, slots[index.toInt.toNat]? = some slot ∧
        slot.getD default = item := by
  constructor
  · intro given
    by_cases inside : 0 ≤ index.toInt ∧ index.toInt < slots.length
    · have found := List.getElem?_eq_getElem (show index.toInt.toNat < slots.length by omega)
      rw [get_slot fits inside.1 found] at given
      exact ⟨inside.1, _, found, Except.ok.inj given⟩
    · rw [get_outside fits inside] at given
      cases given
  · rintro ⟨positive, slot, found, rfl⟩
    exact get_slot fits positive found

theorem get_eq_error (fits : slots.length < UInt64.size) (error : IndexError) :
    (Reader.ofSlots slots).get index = .error error ↔
      ¬ (0 ≤ index.toInt ∧ index.toInt < slots.length) ∧
        error = ⟨index, slots.length.toUInt64⟩ := by
  by_cases inside : 0 ≤ index.toInt ∧ index.toInt < slots.length
  · have found := List.getElem?_eq_getElem (show index.toInt.toNat < slots.length by omega)
    simp [get_slot fits inside.1 found, inside]
  · rw [get_outside fits inside]
    exact ⟨fun given => ⟨inside, (Except.error.inj given).symm⟩, fun same => congrArg _ same.2.symm⟩

theorem toInt_position {position : Nat} (small : position ≤ Int64.maxValue.toInt) :
    position.toUInt64.toInt64.toInt = position := by
  rw [Int64.toInt_maxValue] at small
  exact Int64.toInt_ofNat_of_lt (by omega)

theorem fits_of_addressable {count : Nat} (addressable : count ≤ Int64.maxValue.toInt) :
    count < UInt64.size := by
  rw [Int64.toInt_maxValue] at addressable
  rw [UInt64.size]
  omega

theorem collected_front (addressable : slots.length ≤ Int64.maxValue.toInt) {count : Nat}
    (enough : count ≤ slots.length) :
    (List.range count).mapM (fun position => (Reader.ofSlots slots).get position.toUInt64.toInt64) =
      .ok ((slots.take count).map (·.getD default)) := by
  induction count with
  | zero => rfl
  | succ count ih =>
      have position := toInt_position (show count ≤ Int64.maxValue.toInt by omega)
      have found : slots[count.toUInt64.toInt64.toInt.toNat]? = some slots[count] := by
        rw [position, Int.toNat_natCast]
        exact List.getElem?_eq_getElem enough
      have last := get_slot (fits_of_addressable addressable)
        (show 0 ≤ count.toUInt64.toInt64.toInt by omega) found
      rw [List.range_succ, List.mapM_append, ih (by omega), List.mapM_cons, List.mapM_nil, last,
        List.take_succ_eq_append_getElem enough, List.map_append]
      rfl

theorem collected_past (addressable : slots.length ≤ Int64.maxValue.toInt) (further : Nat) :
    (List.range (slots.length + (further + 1))).mapM
      (fun position => (Reader.ofSlots slots).get position.toUInt64.toInt64) =
      .error ⟨slots.length.toUInt64.toInt64, slots.length.toUInt64⟩ := by
  have position := toInt_position addressable
  have behind := get_outside (fits_of_addressable addressable)
    (show ¬ (0 ≤ slots.length.toUInt64.toInt64.toInt ∧
      slots.length.toUInt64.toInt64.toInt < slots.length) by omega)
  rw [List.range_add, List.mapM_append, collected_front addressable (Nat.le_refl _),
    List.range_succ_eq_map, List.map_cons, List.mapM_cons, Nat.add_zero, behind]
  rfl

end Slots

section Contract

variable [Inhabited α]

/-- An access answers with the slot at its position or names the length. A walk answers at every
position below the length it was made with, knows at each of its steps how many are left, and stays
at its end. What it collects under a wrong length are the slots up to that length, or the first
position behind the slots. -/
theorem access_contract (slots : List (Option α)) (fits : slots.length < UInt64.size)
    (reader : Reader α) (declared : UInt64) :
    (∀ index : Int64,
      (∀ item, (Reader.ofSlots slots).get index = .ok item ↔
        0 ≤ index.toInt ∧ ∃ slot, slots[index.toInt.toNat]? = some slot ∧
          slot.getD default = item) ∧
      ∀ error, (Reader.ofSlots slots).get index = .error error ↔
        ¬ (0 ≤ index.toInt ∧ index.toInt < slots.length) ∧
          error = ⟨index, slots.length.toUInt64⟩) ∧
    (∀ calls,
      (reader.cursorAfter calls).position.toNat = min calls reader.size.toNat ∧
      (reader.next (reader.cursorAfter calls)).1 =
        (if calls < reader.size.toNat then some (reader.get calls.toUInt64.toInt64) else none) ∧
      (reader.cursorAfter calls).sizeHint.1.toNat =
        reader.size.toNat - min calls reader.size.toNat ∧
      (reader.cursorAfter calls).sizeHint.2.map UInt64.toNat =
        some (reader.size.toNat - min calls reader.size.toNat)) ∧
    (∀ steps, reader.size.toNat ≤ steps →
      reader.walk steps reader.start = reader.answers ∧
        reader.gather steps reader.start = reader.items) ∧
    (slots.length ≤ Int64.maxValue.toInt →
      (declared.toNat ≤ slots.length →
        ((Reader.ofSlots slots).declaring declared).items =
          .ok ((slots.take declared.toNat).map (·.getD default))) ∧
      (slots.length < declared.toNat → ∃ error,
        ((Reader.ofSlots slots).declaring declared).items = .error error ∧
          error.index.toInt = slots.length ∧ error.size.toNat = slots.length) ∧
      ((Reader.ofSlots slots).declaring declared).answers.length = declared.toNat) := by
  refine ⟨fun index => ⟨get_eq_ok fits, get_eq_error fits⟩, ?_, ?_, ?_⟩
  · intro calls
    have reached := reached_cursorAfter reader calls
    exact ⟨reached.position, reached.answer, reached.remaining, congrArg some reached.remaining⟩
  · intro steps enough
    rw [Reader.answers, Reader.items, gather_eq, gather_eq, walk_start enough,
      walk_start (Nat.le_refl _)]
    exact ⟨rfl, rfl⟩
  · intro addressable
    refine ⟨?_, ?_, ?_⟩
    · intro enough
      rw [items_eq]
      exact collected_front addressable enough
    · intro beyond
      obtain ⟨further, count⟩ := Nat.exists_eq_add_of_lt beyond
      refine ⟨⟨slots.length.toUInt64.toInt64, slots.length.toUInt64⟩, ?_, ?_, ?_⟩
      · have failed := collected_past addressable further
        rw [← Nat.add_assoc, ← count] at failed
        rw [items_eq]
        exact failed
      · exact toInt_position addressable
      · exact UInt64.toNat_ofNat_of_lt' fits
    · rw [answers_eq, List.length_map, List.length_range]
      rfl

def gappedSlots : List (Option Nat) :=
  [some 7, none, some 9]

/-- The unset slot answers with the default. Two declared items are collected, and of five the
fourth fails. -/
theorem gappedSlots_access :
    (Reader.ofSlots gappedSlots).get 1 = .ok 0 ∧
    (Reader.ofSlots gappedSlots).get (-1) = .error ⟨-1, 3⟩ ∧
    ((Reader.ofSlots gappedSlots).declaring 2).items = .ok [7, 0] ∧
    (∃ error, ((Reader.ofSlots gappedSlots).declaring 5).items = .error error ∧
      error.index.toInt = 3 ∧ error.size.toNat = 3) ∧
    ((Reader.ofSlots gappedSlots).declaring 5).answers.length = 5 ∧
    ((Reader.ofSlots gappedSlots).cursorAfter 4).position.toNat = 3 := by
  obtain ⟨access, walk, _, short⟩ :=
    access_contract gappedSlots (by decide) (Reader.ofSlots gappedSlots) 2
  obtain ⟨_, _, _, long⟩ := access_contract gappedSlots (by decide) (Reader.ofSlots gappedSlots) 5
  have unset : 0 ≤ (1 : Int64).toInt ∧ ∃ slot, gappedSlots[(1 : Int64).toInt.toNat]? = some slot ∧
      slot.getD default = 0 := ⟨by decide, none, by decide, rfl⟩
  exact ⟨((access 1).1 0).mpr unset, ((access (-1)).2 _).mpr ⟨by decide, rfl⟩,
    (short (by decide)).1 (by decide), (long (by decide)).2.1 (by decide), (long (by decide)).2.2,
    (walk 4).1⟩

end Contract

end TableReaders.Vector
