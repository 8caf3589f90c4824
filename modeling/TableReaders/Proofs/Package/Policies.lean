import TableReaders.Proofs.Package.Composition

/-!
What it means to leave fields out. A pass that leaves out the fields without an accessor and a pass
that refuses them only part at such a field. So the first writes what the second writes of the table
without these fields, and the second fails where the first does, unless a field that it refuses
comes before.
-/

namespace TableReaders.Package

open Schema

namespace Settings

def skipping (settings : Settings) : Settings :=
  { settings with unresolved := .skip }

def strict (settings : Settings) : Settings :=
  { settings with unresolved := .refuse }

end Settings

namespace Interface

variable (settings : Settings) (resolve : Resolver) (table : Table)

/-- The token of the field can be looked up, and the field has no accessor for what it names. -/
def lacksAccessor (field : Schema.Field) : Bool :=
  match Accessor.ofField table.application field resolve with
  | .ok none => true
  | .ok (some _) | .error _ => false

def trimmed : Table :=
  { table with fields := table.fields.filter fun field => !lacksAccessor resolve table field }

def unanswered? (field : Schema.Field) : Option GenerateError :=
  match Accessor.ofField table.application field resolve with
  | .ok _ => none
  | .error cause => some (.resolve cause)

def refusal (field : Schema.Field) : GenerateError :=
  .noAccessor table.name field.name field.token

section Faults

variable {resolve table}

theorem unanswered?_eq_some_iff {field : Schema.Field} {error : GenerateError} :
    unanswered? resolve table field = some error ↔
      ∃ cause, Accessor.ofField table.application field resolve = .error cause ∧
        error = .resolve cause := by
  unfold unanswered?
  cases Accessor.ofField table.application field resolve <;> simp [eq_comm]

theorem fault?_skipping (field : Schema.Field) :
    fault? settings.skipping resolve table field = unanswered? resolve table field := by
  unfold fault? unanswered? Settings.skipping
  rcases Accessor.ofField table.application field resolve with cause | (_ | accessor) <;> rfl

theorem fault?_strict (field : Schema.Field) :
    fault? settings.strict resolve table field =
      (unanswered? resolve table field).or
        (if lacksAccessor resolve table field then some (refusal table field) else none) := by
  -- A field cannot both fail to be looked up and lack an accessor.
  unfold fault? unanswered? lacksAccessor Settings.strict
  rcases Accessor.ofField table.application field resolve with cause | (_ | accessor) <;> rfl

/-- Where every token can be looked up, only a field without an accessor stops a strict pass. -/
theorem firstFault_answered {fields : List Schema.Field}
    (answered : ∀ field ∈ fields, unanswered? resolve table field = none) :
    fields.findSome? (fault? settings.strict resolve table) =
      (fields.find? (lacksAccessor resolve table)).map (refusal table) := by
  induction fields with
  | nil => rfl
  | cons field rest ih =>
      rw [List.forall_mem_cons] at answered
      rw [List.findSome?_cons, List.find?_cons, fault?_strict, answered.1, Option.none_or]
      cases lacksAccessor resolve table field with
      | true => rfl
      | false => exact ih answered.2

theorem answered_of_skipping
    (clear : table.fields.findSome? (fault? settings.skipping resolve table) = none) :
    ∀ field ∈ table.fields, unanswered? resolve table field = none := by
  intro field listed
  rw [← fault?_skipping settings]
  exact List.findSome?_eq_none_iff.mp clear field listed

theorem skipping_of_strict
    (clear : table.fields.findSome? (fault? settings.strict resolve table) = none) :
    table.fields.findSome? (fault? settings.skipping resolve table) = none := by
  rw [List.findSome?_eq_none_iff] at clear ⊢
  intro field listed
  have passed := clear field listed
  rw [fault?_strict, Option.or_eq_none_iff] at passed
  rw [fault?_skipping]
  exact passed.1

/-- The fields that are left in have an accessor, as far as they can be looked up. -/
theorem strict_trimmed
    (answered : ∀ field ∈ table.fields, unanswered? resolve table field = none) :
    (trimmed resolve table).fields.findSome?
      (fault? settings.strict resolve (trimmed resolve table)) = none := by
  have kept : ∀ field ∈ (trimmed resolve table).fields,
      field ∈ table.fields ∧ lacksAccessor resolve table field = false := by
    intro field listed
    simpa [trimmed] using listed
  -- The name of the table and that of its application are the same.
  change (trimmed resolve table).fields.findSome? (fault? settings.strict resolve table) = none
  rw [firstFault_answered settings fun field listed => answered field (kept field listed).1,
    Option.map_eq_none_iff, List.find?_eq_none]
  intro field listed
  rw [Bool.not_eq_true]
  exact (kept field listed).2

end Faults

section Texts

/-- A field without an accessor leaves nothing in the text: no method, no import, no separator. -/
theorem methods_trimmed :
    methods resolve (trimmed resolve table) (trimmed resolve table).fields =
      methods resolve table table.fields := by
  unfold methods trimmed
  rw [List.filterMap_filter]
  apply List.filterMap_congr
  intro field _
  unfold lacksAccessor accessor?
  rcases Accessor.ofField table.application field resolve with cause | (_ | accessor) <;> rfl

theorem text_trimmed :
    text settings.strict resolve (trimmed resolve table) =
      text settings.skipping resolve table := by
  unfold text methodTexts
  rw [methods_trimmed]
  rfl

theorem text_policy :
    text settings.strict resolve table = text settings.skipping resolve table := rfl

end Texts

section Runs

variable {settings resolve table} {out : String}

theorem skipping_of_render_strict
    (rendered : (render settings.strict resolve table).result = .ok out) :
    (render settings.skipping resolve table).result = .ok out := by
  rw [render_result, unlessFault_eq_ok] at rendered ⊢
  exact ⟨skipping_of_strict settings rendered.1, rendered.2⟩

theorem strict_of_render_skipping
    (rendered : (render settings.skipping resolve table).result = .ok out) :
    (render settings.strict resolve table).result =
      unlessFault ((table.fields.find? (lacksAccessor resolve table)).map (refusal table)) out := by
  rw [render_result, unlessFault_eq_ok] at rendered
  rw [render_result, firstFault_answered settings (answered_of_skipping settings rendered.1),
    text_policy, rendered.2]

theorem trimmed_of_render_skipping
    (rendered : (render settings.skipping resolve table).result = .ok out) :
    (render settings.strict resolve (trimmed resolve table)).result = .ok out := by
  rw [render_result, unlessFault_eq_ok] at rendered ⊢
  exact ⟨strict_trimmed settings (answered_of_skipping settings rendered.1),
    (text_trimmed settings resolve table).trans rendered.2⟩

theorem trimmed_eq_iff :
    (trimmed resolve table).fields = table.fields ↔
      table.fields.find? (lacksAccessor resolve table) = none := by
  unfold trimmed
  rw [List.filter_eq_self, List.find?_eq_none]
  simp

theorem strict_of_stopped {before after : List Schema.Field} {field : Schema.Field}
    {error : GenerateError} (fields : table.fields = before ++ field :: after)
    (answered : ∀ earlier ∈ before, unanswered? resolve table earlier = none)
    (failed : unanswered? resolve table field = some error) :
    (render settings.strict resolve table).result =
      .error (((before.find? (lacksAccessor resolve table)).map (refusal table)).getD error) := by
  -- A pass that leaves fields out stops at the first token that cannot be looked up. A strict pass
  -- gets that far unless it refuses a field before.
  rw [render_result, fields, List.findSome?_append, firstFault_answered settings answered,
    List.findSome?_cons, fault?_strict, failed]
  cases before.find? (lacksAccessor resolve table) <;> rfl

theorem answered_iff (field : Schema.Field) :
    unanswered? resolve table field = none ↔
      ∃ found, Accessor.ofField table.application field resolve = .ok found := by
  unfold unanswered?
  cases Accessor.ofField table.application field resolve <;> simp

end Runs

/-- Leaving out and refusing agree but for the fields without an accessor: these have no part in
what is written, and the first of them is reported if it comes before a look-up that fails. -/
theorem render_policies :
    (∀ out, (render settings.strict resolve table).result = .ok out →
      (render settings.skipping resolve table).result = .ok out) ∧
    (∀ out, (render settings.skipping resolve table).result = .ok out →
      (render settings.strict resolve (trimmed resolve table)).result = .ok out ∧
      ((∃ text, (render settings.strict resolve table).result = .ok text) ↔
        (trimmed resolve table).fields = table.fields) ∧
      ∀ first, table.fields.find? (lacksAccessor resolve table) = some first →
        (render settings.strict resolve table).result =
          .error (.noAccessor table.name first.name first.token)) ∧
    ∀ error, (render settings.skipping resolve table).result = .error error →
      ∃ before field after cause, table.fields = before ++ field :: after ∧
        (∀ earlier ∈ before, ∃ found,
          Accessor.ofField table.application earlier resolve = .ok found) ∧
        Accessor.ofField table.application field resolve = .error cause ∧ error = .resolve cause ∧
        ((∀ earlier ∈ before, lacksAccessor resolve table earlier = false) →
          (render settings.strict resolve table).result = .error error) ∧
        ∀ first, before.find? (lacksAccessor resolve table) = some first →
          (render settings.strict resolve table).result =
            .error (.noAccessor table.name first.name first.token) := by
  refine ⟨fun out => skipping_of_render_strict, ?_, ?_⟩
  · intro out rendered
    have strict := strict_of_render_skipping rendered
    refine ⟨trimmed_of_render_skipping rendered, ?_, ?_⟩
    · rw [trimmed_eq_iff, strict]
      simp [unlessFault_eq_ok]
    · intro first found
      rw [strict, found]
      rfl
  · intro error stopped
    rw [render_result, unlessFault_eq_error, List.findSome?_eq_some_iff] at stopped
    simp only [fault?_skipping] at stopped
    obtain ⟨before, field, after, fields, failed, answered⟩ := stopped
    obtain ⟨cause, answer, same⟩ := unanswered?_eq_some_iff.mp failed
    have strict : (render settings.strict resolve table).result = _ :=
      strict_of_stopped fields answered failed
    refine ⟨before, field, after, cause, fields, ?_, answer, same, ?_, ?_⟩
    · exact fun earlier listed => (answered_iff earlier).mp (answered earlier listed)
    · intro resolved
      have none : before.find? (lacksAccessor resolve table) = none := by
        rw [List.find?_eq_none]
        intro earlier listed
        rw [resolved earlier listed]
        decide
      rw [strict, none]
      rfl
    · intro first found
      rw [strict, found]
      rfl

def scattered : Resolver := fun _ token =>
  if token = "Far" then .error (.unreachable "away") else .ok .unknown

def adrift : Table where
  name := "Item"
  application := "store"
  fields := [.text "sku", { name := "lost", type := "Lost" }]

def cutOff : Table where
  name := "Item"
  application := "store"
  fields := [{ name := "lost", type := "Lost" }, { name := "far", type := "Far" }]

/-- The field that is left out is refused under the strict rule, also where a look-up fails behind
it. -/
theorem adrift_policies :
    (∃ out, (render (Settings.skipping {}) scattered adrift).result = .ok out ∧
      (render (Settings.strict {}) scattered { adrift with fields := [.text "sku"] }).result =
        .ok out) ∧
    (render (Settings.strict {}) scattered adrift).result =
      .error (.noAccessor "Item" "lost" "Lost") ∧
    (render (Settings.skipping {}) scattered cutOff).result =
      .error (.resolve (.unreachable "away")) ∧
    (render (Settings.strict {}) scattered cutOff).result =
      .error (.noAccessor "Item" "lost" "Lost") := by
  obtain ⟨out, rendered⟩ := exists_of_isOk
    (by decide +kernel : (render (Settings.skipping {}) scattered adrift).result.isOk = true)
  obtain ⟨trimmed, _, refused⟩ := (render_policies {} scattered adrift).2.1 out rendered
  have stopped : (render (Settings.skipping {}) scattered cutOff).result =
      .error (.resolve (.unreachable "away")) := rfl
  refine ⟨⟨out, rendered, trimmed⟩, refused _ rfl, stopped, ?_⟩
  obtain ⟨before, field, after, cause, fields, _, failed, _, _, first⟩ :=
    (render_policies {} scattered cutOff).2.2 _ stopped
  match before, fields with
  | [], fields =>
      cases fields
      cases failed
  | [_], fields =>
      cases fields
      exact first _ rfl
  | _ :: _ :: _, fields => simp [cutOff] at fields

end Interface

end TableReaders.Package
