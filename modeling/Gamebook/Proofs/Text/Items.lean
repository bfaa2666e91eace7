import Mathlib.Data.List.Forall2
import Gamebook.Proofs.Effects
import Gamebook.Text.Basic

/-!
Lists that are read or rendered item by item: what is known of one item is known of all.
-/

namespace Gamebook.Text

variable {α β ε : Type} {items : List α} {results : List β}

theorem filter_of_filterAuxM_ok {test : α → Except ε Bool} {passes : α → Bool}
    (answer : ∀ item value, test item = .ok value → passes item = value) {earlier found : List α}
    (done : List.filterAuxM test items earlier = .ok found) :
    (∀ item ∈ items, test item = .ok (passes item)) ∧
      found = (items.filter passes).reverse ++ earlier := by
  induction items generalizing earlier with
  | nil =>
      cases done
      exact ⟨nofun, rfl⟩
  | cons first items ih =>
      obtain ⟨value, passed, done⟩ := bind_eq_ok.mp done
      obtain ⟨others, rfl⟩ := ih done
      have own := answer first value passed
      refine ⟨List.forall_mem_cons.mpr ⟨own.symm ▸ passed, others⟩, ?_⟩
      cases value <;> simp [own]

/-- What a test leaves, if every test answers. -/
theorem exists_filter_of_filterM_ok {test : α → Except ε Bool} {left : List α}
    (filtered : items.filterM test = .ok left) :
    ∃ passes : α → Bool, (∀ item ∈ items, test item = .ok (passes item)) ∧ left = items.filter passes := by
  obtain ⟨passes, answer⟩ : ∃ passes : α → Bool, ∀ item value, test item = .ok value → passes item = value :=
    ⟨fun item => (test item).toOption.getD false, fun item value given => by simp [given, Except.toOption]⟩
  obtain ⟨found, done, same⟩ := bind_eq_ok.mp filtered
  obtain ⟨tests, rfl⟩ := filter_of_filterAuxM_ok answer done
  cases same
  exact ⟨passes, tests, by simp⟩

theorem mem_filterM_ok {test : α → Except ε Bool} {left : List α} (filtered : items.filterM test = .ok left)
    {item : α} : item ∈ left ↔ item ∈ items ∧ test item = .ok true := by
  obtain ⟨passes, tests, rfl⟩ := exists_filter_of_filterM_ok filtered
  rw [List.mem_filter]
  exact and_congr_right fun member => by rw [tests item member, Except.ok.injEq]

theorem mem_of_lookup {α β : Type} [BEq α] [LawfulBEq α] {key : α} {value : β}
    {table : List (α × β)} (found : table.lookup key = some value) : (key, value) ∈ table := by
  obtain ⟨before, after, rfl, _⟩ := List.lookup_eq_some_iff.mp found
  simp

theorem count_filter_eq {α : Type} [BEq α] [LawfulBEq α] (passes : α → Bool) (item : α) (items : List α) :
    (items.filter passes).count item = if passes item then items.count item else 0 := by
  by_cases passed : passes item = true
  · rw [if_pos passed, List.count_filter passed]
  · rw [if_neg passed, List.count_eq_zero]
    intro member
    exact passed (List.mem_filter.mp member).2

theorem lookup_cons_eq {α β : Type} [BEq α] [LawfulBEq α] [DecidableEq α] (asked key : α) (value : β)
    (table : List (α × β)) : ((key, value) :: table).lookup asked =
      if asked = key then some value else table.lookup asked := by
  rw [List.lookup_cons]
  by_cases same : asked = key
  · rw [if_pos same, beq_iff_eq.mpr same]
  · rw [if_neg same, beq_false_of_ne same]

theorem lookup_of_mem {α β : Type} [BEq α] [LawfulBEq α] {key : α} {value : β}
    {table : List (α × β)} (apart : (table.map Prod.fst).Nodup) (member : (key, value) ∈ table) :
    table.lookup key = some value := by
  obtain ⟨before, after, rfl⟩ := List.append_of_mem member
  refine List.lookup_eq_some_iff.mpr ⟨before, after, rfl, fun entry inside => ?_⟩
  rw [List.map_append, List.nodup_append] at apart
  have different := apart.2.2 entry.1 (List.mem_map_of_mem inside) key (by simp)
  simpa using different.symm

theorem forall₂_of_mapM_some {f : α → Option β} (all : items.mapM f = some results) :
    List.Forall₂ (fun item result => f item = some result) items results := by
  induction items generalizing results with
  | nil =>
      obtain rfl : results = [] := by simpa using all.symm
      exact .nil
  | cons item items ih =>
      simp only [List.mapM_cons, Option.bind_eq_bind, Option.bind_eq_some_iff, Option.pure_def,
        Option.some.injEq] at all
      obtain ⟨result, first, rest, others, rfl⟩ := all
      exact .cons first (ih others)

theorem map_eq_of_forall₂ {γ : Type} {holds : α → β → Prop} {f : α → γ} {g : β → γ}
    (paired : List.Forall₂ holds items results) (same : ∀ item result, holds item result → f item = g result) :
    items.map f = results.map g := by
  induction paired with
  | nil => rfl
  | cons first _ ih => rw [List.map_cons, List.map_cons, same _ _ first, ih]

theorem exists_mem_of_forall₂ {holds : α → β → Prop} (paired : List.Forall₂ holds items results)
    {result : β} (member : result ∈ results) : ∃ item ∈ items, holds item result := by
  induction paired with
  | nil => contradiction
  | cons first _ ih =>
      rcases List.mem_cons.mp member with rfl | member
      · exact ⟨_, by simp, first⟩
      · obtain ⟨item, inside, found⟩ := ih member
        exact ⟨item, by simp [inside], found⟩

theorem forall₂_trans {γ : Type} {first : α → β → Prop} {second : β → γ → Prop} {whole : α → γ → Prop}
    {last : List γ} (joined : ∀ a b c, first a b → second b c → whole a c)
    (left : List.Forall₂ first items results) (right : List.Forall₂ second results last) :
    List.Forall₂ whole items last := by
  induction left generalizing last with
  | nil =>
      cases right
      exact .nil
  | cons one _ ih =>
      cases right with
      | cons other others => exact .cons (joined _ _ _ one other) (ih others)

theorem mapM_map_some {γ : Type} {f : γ → α} {g : α → Option β} {result : γ → β} {sources : List γ}
    (each : ∀ source ∈ sources, g (f source) = some (result source)) :
    (sources.map f).mapM g = some (sources.map result) := by
  induction sources with
  | nil => rfl
  | cons source sources ih =>
      rw [List.map_cons, List.mapM_cons, each source List.mem_cons_self,
        ih fun other member => each other (.tail _ member)]
      rfl

theorem mapM_guard_eq_some {fits : α → Bool} {f : α → β} :
    (items.mapM fun item => if fits item then some (f item) else none) = some results ↔
      (∀ item ∈ items, fits item = true) ∧ results = items.map f := by
  induction items generalizing results with
  | nil =>
      constructor
      · intro all
        cases all
        exact ⟨nofun, rfl⟩
      · intro all
        rw [all.2]
        rfl
  | cons item items ih =>
      simp only [List.mapM_cons, Option.bind_eq_bind, Option.bind_eq_some_iff, ih, Option.pure_def,
        Option.some.injEq, Option.ite_none_right_eq_some, List.forall_mem_cons, List.map_cons]
      constructor
      · intro answers
        obtain ⟨_, ⟨first, rfl⟩, _, ⟨others, rfl⟩, rfl⟩ := answers
        exact ⟨⟨first, others⟩, rfl⟩
      · intro fitting
        obtain ⟨⟨first, others⟩, rfl⟩ := fitting
        exact ⟨_, ⟨first, rfl⟩, _, ⟨others, rfl⟩, rfl⟩

section Places

variable {γ : Type} [DecidableEq γ] {place : α → γ} {standsAt : β → γ} {results : α → List β}

theorem filter_place_eq {item : α} (apart : (items.map place).Nodup) (member : item ∈ items) :
    (items.filter fun other => place other = place item) = [item] := by
  induction items with
  | nil => contradiction
  | cons first items ih =>
      rw [List.map_cons, List.nodup_cons] at apart
      rcases List.mem_cons.mp member with rfl | later
      · have others : (items.filter fun other => place other = place item) = [] := by
          simp only [List.filter_eq_nil_iff, decide_eq_true_eq]
          intro other inside same
          exact apart.1 (same ▸ List.mem_map_of_mem inside)
        rw [List.filter_cons_of_pos (by simp), others]
      · have other : place first ≠ place item := fun same =>
          apart.1 (same ▸ List.mem_map_of_mem later)
        rw [List.filter_cons_of_neg (by simpa using other), ih apart.2 later]

theorem filter_place_eq_nil {spot : γ} (absent : spot ∉ items.map place) :
    (items.filter fun other => place other = spot) = [] := by
  simp only [List.filter_eq_nil_iff, decide_eq_true_eq]
  intro other inside same
  exact absent (same ▸ List.mem_map_of_mem inside)

/-- What stands at a place is the result of the items there, if every result stands where its item
does. -/
theorem filter_flatMap_place (stays : ∀ item ∈ items, ∀ result ∈ results item, standsAt result = place item)
    (spot : γ) :
    ((items.flatMap results).filter fun result => standsAt result = spot) =
      (items.filter fun item => place item = spot).flatMap results := by
  induction items with
  | nil => rfl
  | cons item items ih =>
      have others := ih fun other member => stays other (.tail _ member)
      have own := stays item List.mem_cons_self
      rw [List.flatMap_cons, List.filter_append, others]
      by_cases here : place item = spot
      · rw [List.filter_cons_of_pos (by simpa using here), List.flatMap_cons,
          List.filter_eq_self.mpr fun result given => by simp [own result given, here]]
      · rw [List.filter_cons_of_neg (by simpa using here),
          List.filter_eq_nil_iff.mpr fun result given => by simpa [own result given] using here]
        rfl

end Places

theorem exists_mem_of_mapM_some {f : α → Option β} (all : items.mapM f = some results)
    {result : β} (member : result ∈ results) : ∃ item ∈ items, f item = some result :=
  exists_mem_of_forall₂ (forall₂_of_mapM_some all) member

theorem forall₂_of_mapM_ok {f : α → Except ε β} (all : items.mapM f = .ok results) :
    List.Forall₂ (fun item result => f item = .ok result) items results := by
  induction items generalizing results with
  | nil =>
      cases all
      exact .nil
  | cons item items ih =>
      rw [List.mapM_cons] at all
      obtain ⟨result, first, all⟩ := bind_eq_ok.mp all
      obtain ⟨rest, others, all⟩ := bind_eq_ok.mp all
      cases all
      exact .cons first (ih others)

theorem map_mapM {γ : Type} (f : α → Except ε β) (g : β → γ) (items : List α) :
    (items.mapM f).map (List.map g) = items.mapM fun item => (f item).map g := by
  induction items with
  | nil => rfl
  | cons item items ih =>
      rw [List.mapM_cons, List.mapM_cons, ← ih]
      cases f item with
      | error fault => rfl
      | ok result => cases items.mapM f <;> rfl

theorem exists_filterM_ok {items : List α} {test : α → Except ε Bool}
    (all : ∀ item ∈ items, ∃ passes, test item = .ok passes) : ∃ left, items.filterM test = .ok left := by
  have collected : ∀ {items : List α} (earlier : List α),
      (∀ item ∈ items, ∃ passes, test item = .ok passes) →
        ∃ found, List.filterAuxM test items earlier = .ok found := by
    intro items
    induction items with
    | nil => exact fun earlier _ => ⟨earlier, rfl⟩
    | cons first items ih =>
        intro earlier all
        obtain ⟨passes, passed⟩ := all first List.mem_cons_self
        rw [List.filterAuxM, passed]
        exact ih _ fun other member => all other (.tail _ member)
  obtain ⟨found, done⟩ := collected [] all
  rw [List.filterM, done]
  exact ⟨_, rfl⟩

theorem exists_mapM_ok {f : α → Except ε β} {holds : α → β → Prop}
    (all : ∀ item ∈ items, ∃ result, f item = .ok result ∧ holds item result) :
    ∃ results, items.mapM f = .ok results ∧ List.Forall₂ holds items results := by
  induction items with
  | nil => exact ⟨[], rfl, .nil⟩
  | cons item items ih =>
      obtain ⟨result, first, held⟩ := all item List.mem_cons_self
      obtain ⟨results, others, paired⟩ := ih fun other member => all other (.tail _ member)
      exact ⟨result :: results, by rw [List.mapM_cons, first, others]; rfl, .cons held paired⟩

end Gamebook.Text
