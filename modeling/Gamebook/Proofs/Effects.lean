/-!
What actions on a state ensure: from every state with one property they end in a state with another,
which may depend on the result.
-/

namespace Gamebook

variable {σ α β δ ε ι : Type} {before : σ → Prop}

theorem bind_eq_ok {first : Except ε α} {next : α → Except ε β} {result : β} :
    (first >>= next) = .ok result ↔ ∃ value, first = .ok value ∧ next value = .ok result := by
  cases first <;> simp [bind, Except.bind]

theorem map_eq_ok {f : α → β} {result : Except ε α} {value : β} :
    result.map f = .ok value ↔ ∃ found, result = .ok found ∧ f found = value := by
  cases result <;> simp [Except.map]

theorem mapError_eq_ok {wrap : ε → δ} {result : Except ε α} {value : α} :
    result.mapError wrap = .ok value ↔ result = .ok value := by
  cases result with
  | error _ => exact ⟨nofun, nofun⟩
  | ok _ => constructor <;> rintro ⟨⟩ <;> rfl

def Ensures (before : σ → Prop) (action : StateM σ α) (after : α → σ → Prop) : Prop :=
  ∀ state, before state → after (action state).1 (action state).2

/-- One property if there is a result, and another if there is none. -/
def ifGiven (after : α → σ → Prop) (failed : σ → Prop) : Except ε α → σ → Prop
  | .ok result => after result
  | .error _ => failed

def Attempts (before : σ → Prop) (action : ExceptT ε (StateM σ) α) (after : α → σ → Prop)
    (failed : σ → Prop) : Prop :=
  Ensures before action.run (ifGiven after failed)

def Keeps (kept : σ → Prop) (action : StateM σ α) : Prop := Ensures kept action fun _ => kept

theorem Ensures.pure {result : α} {after : α → σ → Prop}
    (held : ∀ state, before state → after result state) :
    Ensures before (Pure.pure result : StateM σ α) after := held

theorem Ensures.bind {action : StateM σ α} {next : α → StateM σ β} {between : α → σ → Prop}
    {after : β → σ → Prop} (first : Ensures before action between)
    (rest : ∀ result, Ensures (between result) (next result) after) :
    Ensures before (action >>= next) after :=
  fun state held => rest _ _ (first state held)

theorem Ensures.weaken {action : StateM σ α} {after later : α → σ → Prop}
    (ensured : Ensures before action after)
    (implied : ∀ result state, after result state → later result state) :
    Ensures before action later :=
  fun state held => implied _ _ (ensured state held)

theorem run_bind {action : StateM σ α} {next : α → StateM σ β} {state between : σ} {value : α}
    (given : action state = (value, between)) : (action >>= next) state = next value between := by
  change next (action state).1 (action state).2 = _
  rw [given]

theorem run_andThen {action : ExceptT ε (StateM σ) α} {next : α → ExceptT ε (StateM σ) β}
    {state between : σ} {value : α} (given : action.run state = (.ok value, between)) :
    (action >>= next : ExceptT ε (StateM σ) β).run state = (next value).run between :=
  @run_bind _ _ _ action.run (ExceptT.bindCont next) _ _ _ given

theorem run_failing {action : ExceptT ε (StateM σ) α} {next : α → ExceptT ε (StateM σ) β}
    {state between : σ} {fault : ε} (failed : action.run state = (.error fault, between)) :
    (action >>= next : ExceptT ε (StateM σ) β).run state = (.error fault, between) :=
  @run_bind _ _ _ action.run (ExceptT.bindCont next) _ _ _ failed

theorem run_get {next : σ → ExceptT ε (StateM σ) β} {state : σ} :
    (get >>= next : ExceptT ε (StateM σ) β).run state = (next state).run state :=
  run_andThen rfl

/-- A row of actions fails in its first action or behind it. -/
theorem error_of_andThen {action : ExceptT ε (StateM σ) α} {next : α → ExceptT ε (StateM σ) β}
    {state final : σ} {fault : ε}
    (failed : (action >>= next : ExceptT ε (StateM σ) β).run state = (.error fault, final)) :
    action.run state = (.error fault, final) ∨ ∃ value between,
      action.run state = (.ok value, between) ∧ (next value).run between = (.error fault, final) := by
  cases first : action.run state with
  | mk result between =>
      cases result with
      | error cause =>
          rw [run_failing first] at failed
          cases failed
          exact .inl rfl
      | ok value =>
          rw [run_andThen first] at failed
          exact .inr ⟨value, between, rfl, failed⟩

/-- A row of actions that gives a result has given one in each action. -/
theorem ok_of_andThen {action : ExceptT ε (StateM σ) α} {next : α → ExceptT ε (StateM σ) β}
    {state final : σ} {result : β}
    (done : (action >>= next : ExceptT ε (StateM σ) β).run state = (.ok result, final)) :
    ∃ value between, action.run state = (.ok value, between) ∧
      (next value).run between = (.ok result, final) := by
  cases first : action.run state with
  | mk given between =>
      cases given with
      | error cause =>
          rw [run_failing first] at done
          cases done
      | ok value =>
          rw [run_andThen first] at done
          exact ⟨value, between, rfl, done⟩

theorem lift_eq_ok {action : StateM σ α} {value : α} {state final : σ} :
    (liftM action : ExceptT ε (StateM σ) α).run state = (.ok value, final) ↔
      action state = (value, final) := by
  change (Except.ok (action state).1, (action state).2) = _ ↔ _
  rw [Prod.ext_iff, Prod.ext_iff, Except.ok.injEq]

theorem ofExcept_eq_ok {result : Except ε α} {value : α} {state final : σ} :
    (ofExcept result : ExceptT ε (StateM σ) α).run state = (.ok value, final) ↔
      result = .ok value ∧ state = final := by
  cases result with
  | error fault => exact ⟨nofun, nofun⟩
  | ok given => exact ⟨fun done => by cases done; exact ⟨rfl, rfl⟩, fun ⟨same, still⟩ => by
      cases same
      cases still
      rfl⟩

namespace Attempts

variable {between after : α → σ → Prop} {failed : σ → Prop}

theorem andThen {after : β → σ → Prop} {action : ExceptT ε (StateM σ) α}
    {next : α → ExceptT ε (StateM σ) β} (first : Attempts before action between failed)
    (rest : ∀ result, Attempts (between result) (next result) after failed) :
    Attempts before (action >>= next) after failed := by
  change Ensures before (action.run >>= ExceptT.bindCont next) _
  refine Ensures.bind first fun result => ?_
  cases result with
  | error fault => exact fun _ held => held
  | ok value => exact rest value

theorem weaken {later : α → σ → Prop} {worse : σ → Prop} {action : ExceptT ε (StateM σ) α}
    (attempted : Attempts before action after failed)
    (implied : ∀ result state, after result state → later result state)
    (given : ∀ state, failed state → worse state) : Attempts before action later worse :=
  Ensures.weaken attempted fun result state held =>
    match result with
    | .ok value => implied value state held
    | .error _ => given state held

theorem keeps {kept : σ → Prop} {action : ExceptT ε (StateM σ) α}
    (attempted : Attempts kept action (fun _ => kept) kept) : Keeps kept action :=
  Ensures.weaken attempted fun result _ held =>
    match result with
    | .ok _ => held
    | .error _ => held

theorem pure {result : α} (held : ∀ state, before state → after result state) :
    Attempts before (Pure.pure result : ExceptT ε (StateM σ) α) after failed := held

theorem lift {action : StateM σ α} (ensured : Ensures before action after) :
    Attempts before (liftM action : ExceptT ε (StateM σ) α) after failed := ensured

theorem get {failed : σ → Prop} : Attempts before (MonadState.get : ExceptT ε (StateM σ) σ)
    (fun seen state => seen = state ∧ before state) failed :=
  fun _ held => ⟨rfl, held⟩

theorem ofExcept {result : Except ε α} (held : ∀ state, before state → failed state) :
    Attempts before (ofExcept result : ExceptT ε (StateM σ) α)
      (fun value state => result = .ok value ∧ before state) failed := by
  intro state start
  cases result with
  | error fault => exact held state start
  | ok value => exact ⟨rfl, start⟩

theorem adapt {fault : Type} {wrap : fault → ε} {action : ExceptT fault (StateM σ) α}
    (attempted : Attempts before action after failed) :
    Attempts before (action.adapt wrap) after failed := by
  intro state held
  have done : ifGiven after failed (action state).1 (action state).2 := attempted state held
  change ifGiven after failed ((action state).1.mapError wrap) (action state).2
  cases result : (action state).1 with
  | error reason =>
      rw [result] at done
      exact done
  | ok value =>
      rw [result] at done
      exact done

end Attempts

namespace Keeps

variable {kept failed : σ → Prop}

theorem attempts {action : ExceptT ε (StateM σ) α} (unchanged : Keeps kept action)
    (implied : ∀ state, kept state → failed state) :
    Attempts kept action (fun _ => kept) failed :=
  Ensures.weaken unchanged fun result state held =>
    match result with
    | .ok _ => held
    | .error _ => implied state held

theorem pure (result : α) : Keeps kept (Pure.pure result : StateM σ α) := fun _ held => held

theorem bind {action : StateM σ α} {next : α → StateM σ β} (first : Keeps kept action)
    (rest : ∀ result, Keeps kept (next result)) : Keeps kept (action >>= next) :=
  Ensures.bind first rest

theorem andThen {action : ExceptT ε (StateM σ) α} {next : α → ExceptT ε (StateM σ) β}
    (first : Keeps kept action) (rest : ∀ result, Keeps kept (next result)) :
    Keeps kept (action >>= next : ExceptT ε (StateM σ) β) := by
  change Ensures kept (action.run >>= ExceptT.bindCont next) _
  refine Ensures.bind first fun result => ?_
  cases result with
  | error fault => exact fun _ held => held
  | ok value => exact rest value

theorem lift {action : StateM σ α} (unchanged : Keeps kept action) :
    Keeps kept (liftM action : ExceptT ε (StateM σ) α) := unchanged

theorem get : Keeps kept (MonadState.get : ExceptT ε (StateM σ) σ) := fun _ held => held

theorem modify {step : σ → σ} (steps : ∀ state, kept state → kept (step state)) :
    Keeps kept (modify step : ExceptT ε (StateM σ) PUnit) := steps

theorem throw (fault : ε) :
    Keeps kept (MonadExcept.throw fault : ExceptT ε (StateM σ) α) := fun _ held => held

theorem ofExcept (result : Except ε α) :
    Keeps kept (ofExcept result : ExceptT ε (StateM σ) α) := by
  cases result with
  | error fault => exact throw fault
  | ok value => exact pure _

theorem foldlM {step : β → ι → ExceptT ε (StateM σ) β} {items : List ι}
    (each : ∀ result, ∀ item ∈ items, Keeps kept (step result item)) (result : β) :
    Keeps kept (items.foldlM step result : ExceptT ε (StateM σ) β) := by
  induction items generalizing result with
  | nil => exact pure _
  | cons item items ih =>
      rw [List.foldlM_cons]
      exact andThen (each result item List.mem_cons_self)
        fun next => ih (fun result other member => each result other (.tail _ member)) next

theorem forM {step : ι → StateM σ PUnit} (each : ∀ item, Keeps kept (step item))
    (items : List ι) : Keeps kept (items.forM step) := by
  induction items with
  | nil => exact pure _
  | cons item items ih => exact bind (each item) fun _ => ih

theorem tryForM {step : ι → ExceptT ε (StateM σ) PUnit} (each : ∀ item, Keeps kept (step item))
    (items : List ι) : Keeps kept (items.forM step : ExceptT ε (StateM σ) PUnit) := by
  induction items with
  | nil => exact pure _
  | cons item items ih => exact andThen (each item) fun _ => ih

end Keeps

end Gamebook
