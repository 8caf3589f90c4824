import Mathlib.Data.List.Forall2
import TableReaders.Package.Trace

/-!
Runs that came to their end. A chain of steps gives a value only if every step gave one, so a run
that succeeded can be taken apart into its steps. The result of a traced computation is the result
of the same steps without a log.
-/

namespace TableReaders

section Steps

variable {ε α β σ : Type}

theorem bind_eq_ok {first : Except ε α} {next : α → Except ε β} {value : β} :
    first >>= next = .ok value ↔ ∃ middle, first = .ok middle ∧ next middle = .ok value := by
  cases first with
  | error cause =>
      constructor
      · intro run
        cases run
      · rintro ⟨middle, given, _⟩
        cases given
  | ok middle =>
      constructor
      · intro run
        exact ⟨middle, rfl, run⟩
      · rintro ⟨other, given, run⟩
        cases given
        exact run

theorem map_eq_ok {change : α → β} {given : Except ε α} {value : β} :
    change <$> given = .ok value ↔ ∃ before, given = .ok before ∧ change before = value := by
  cases given with
  | error cause => simp [Functor.map, Except.map]
  | ok before => simp [Functor.map, Except.map]

theorem mapError_eq_ok {ε' : Type} {change : ε → ε'} {given : Except ε α} {value : α} :
    given.mapError change = .ok value ↔ given = .ok value := by
  cases given <;> simp [Except.mapError]

/-- What holds at the start and is kept by every step holds at the end of a run. -/
theorem foldlM_keeps {step : σ → α → Except ε σ} {holds : σ → Prop} {items : List α}
    {start finish : σ} (run : items.foldlM step start = .ok finish) (initially : holds start)
    (kept : ∀ state item next, item ∈ items → step state item = .ok next → holds state →
      holds next) :
    holds finish := by
  induction items generalizing start with
  | nil =>
      cases run
      exact initially
  | cons item rest ih =>
      rw [List.foldlM_cons] at run
      obtain ⟨middle, first, later⟩ := bind_eq_ok.mp run
      apply ih later (kept start item middle List.mem_cons_self first initially)
      intro state other next member
      exact kept state other next (List.mem_cons_of_mem item member)

theorem mapM_eq_ok {step : α → Except ε β} {items : List α} {results : List β} :
    items.mapM step = .ok results ↔
      List.Forall₂ (fun item result => step item = .ok result) items results := by
  induction items generalizing results with
  | nil =>
      rw [List.mapM_nil, List.forall₂_nil_left_iff]
      exact ⟨fun run => (Except.ok.inj run).symm, fun none => congrArg Except.ok none.symm⟩
  | cons item rest ih =>
      simp only [List.mapM_cons, bind_eq_ok, List.forall₂_cons_left_iff]
      constructor
      · rintro ⟨first, here, others, later, same⟩
        exact ⟨first, others, here, ih.mp later, (Except.ok.inj same).symm⟩
      · rintro ⟨first, others, here, later, same⟩
        exact ⟨first, here, others, ih.mpr later, congrArg Except.ok same.symm⟩

theorem exists_mapM_eq_ok {step : α → Except ε β} {items : List α} :
    (∃ results, items.mapM step = .ok results) ↔
      ∀ item ∈ items, ∃ result, step item = .ok result := by
  induction items with
  | nil => simp [pure, Except.pure]
  | cons item rest ih =>
      simp only [List.mapM_cons, bind_eq_ok, List.forall_mem_cons, ← ih]
      constructor
      · rintro ⟨_, first, here, others, later, _⟩
        exact ⟨⟨first, here⟩, others, later⟩
      · rintro ⟨⟨first, here⟩, others, later⟩
        exact ⟨first :: others, first, here, others, later, rfl⟩

theorem exists_of_isOk {given : Except ε α} (done : given.isOk = true) :
    ∃ value, given = .ok value := by
  cases given with
  | error cause => cases done
  | ok value => exact ⟨value, rfl⟩

/-- Optional values can be compared by evaluation, outcomes cannot. -/
theorem eq_ok_of_toOption {given : Except ε α} {value : α} (found : given.toOption = some value) :
    given = .ok value := by
  cases given with
  | error cause => cases found
  | ok other => exact congrArg Except.ok (Option.some.inj found)

end Steps

section Faults

variable {ε α β σ : Type}

def unlessFault (fault : Option ε) (value : α) : Except ε α :=
  match fault with
  | some cause => .error cause
  | none => .ok value

theorem unlessFault_eq_ok {fault : Option ε} {value result : α} :
    unlessFault fault value = .ok result ↔ fault = none ∧ value = result := by
  cases fault <;> simp [unlessFault]

theorem unlessFault_eq_error {fault : Option ε} {value : α} {cause : ε} :
    unlessFault fault value = .error cause ↔ fault = some cause := by
  cases fault <;> simp [unlessFault]

theorem unlessFault_bind {first second : Option ε} {value : α} {result : β} {next : α → Except ε β}
    (continued : next value = unlessFault second result) :
    unlessFault first value >>= next = unlessFault (first.or second) result := by
  cases first with
  | some cause => rfl
  | none => exact continued

/-- Where it is the item alone that decides whether a step fails, the first faulty item decides the
run. -/
theorem foldlM_unlessFault {step : σ → α → Except ε σ} {fault : α → Option ε} {change : σ → α → σ}
    (each : ∀ state item, step state item = unlessFault (fault item) (change state item))
    (items : List α) (start : σ) :
    items.foldlM step start = unlessFault (items.findSome? fault) (items.foldl change start) := by
  induction items generalizing start with
  | nil => rfl
  | cons item rest ih =>
      rw [List.foldlM_cons, each, List.findSome?_cons, List.foldl_cons]
      cases fault item with
      | some cause => rfl
      | none => exact ih (change start item)

theorem mapM_unlessFault {step : α → Except ε β} {fault : α → Option ε} {value : α → β}
    (each : ∀ item, step item = unlessFault (fault item) (value item)) (items : List α) :
    items.mapM step = unlessFault (items.findSome? fault) (items.map value) := by
  induction items with
  | nil => rfl
  | cons item rest ih =>
      rw [List.mapM_cons, each, ih, List.findSome?_cons, List.map_cons]
      cases fault item with
      | some cause => rfl
      | none => cases rest.findSome? fault <;> rfl

end Faults

section Pairs

variable {α β γ : Type} {related : α → β → Prop} {items : List α} {results : List β}

theorem exists_of_forall₂ (all : List.Forall₂ related items results) {item : α}
    (member : item ∈ items) : ∃ result ∈ results, related item result := by
  induction all with
  | nil => cases member
  | cons first _ ih =>
      rcases List.mem_cons.mp member with same | later
      · subst same
        exact ⟨_, List.mem_cons_self, first⟩
      · obtain ⟨result, listed, holds⟩ := ih later
        exact ⟨result, List.mem_cons_of_mem _ listed, holds⟩

theorem flatMap_sublist {wanted : α → List γ} {found : β → List γ}
    (all : List.Forall₂ (fun item result => (wanted item).Sublist (found result)) items results) :
    (items.flatMap wanted).Sublist (results.flatMap found) := by
  induction all with
  | nil => exact List.Sublist.slnil
  | cons first _ ih =>
      rw [List.flatMap_cons, List.flatMap_cons]
      exact first.append ih

theorem flatMap_eq {wanted : α → List γ} {found : β → List γ}
    (all : List.Forall₂ (fun item result => found result = wanted item) items results) :
    results.flatMap found = items.flatMap wanted := by
  induction all with
  | nil => rfl
  | cons first _ ih => rw [List.flatMap_cons, List.flatMap_cons, first, ih]

end Pairs

namespace Package.Traced

variable {α β σ : Type}

@[simp] theorem result_pure (value : α) : (pure value : Traced α).result = .ok value := rfl

@[simp] theorem result_silent (result : Except GenerateError α) :
    (silent result).result = result := rfl

@[simp] theorem result_fail (error : GenerateError) :
    (fail error : Traced α).result = .error error := rfl

@[simp] theorem result_tell (entry : Entry) : (tell entry).result = .ok () := rfl

@[simp] theorem result_bind (first : Traced α) (next : α → Traced β) :
    (first >>= next).result = first.result >>= fun value => (next value).result := by
  obtain ⟨log, result⟩ := first
  cases result <;> rfl

@[simp] theorem result_map (change : α → β) (first : Traced α) :
    (change <$> first).result = change <$> first.result := by
  rw [map_eq_pure_bind, map_eq_pure_bind, result_bind]
  rfl

theorem result_foldlM (step : σ → α → Traced σ) (start : σ) (items : List α) :
    (items.foldlM step start).result =
      items.foldlM (fun state item => (step state item).result) start := by
  induction items generalizing start with
  | nil => rfl
  | cons item rest ih =>
      simp only [List.foldlM_cons, result_bind]
      exact congrArg (_ >>= ·) (funext ih)

theorem result_mapM (step : α → Traced β) (items : List α) :
    (items.mapM step).result = items.mapM fun item => (step item).result := by
  induction items with
  | nil => rfl
  | cons item rest ih => simp [List.mapM_cons, ih]

end Package.Traced

end TableReaders
