import Mathlib.Data.List.Induction
import Mathlib.Data.List.Nodup
import Gamebook.Proofs.Text.Items
import Gamebook.Story.Conditions

/-!
Conditions put together from items, one after the other: every name is there once, in the order in
which the names first came, and the last item with a name says what is asked of it.
-/

namespace Gamebook.Story.Conditions

open Gamebook.Text

variable {conditions other : Conditions} {items entries : List (Text × Bool)} {name : Text}
  {wanted : Bool} {isSet : Text → Bool}

def ofItems (items : List (Text × Bool)) : Conditions :=
  items.foldl (fun conditions (name, wanted) => conditions.put name wanted) .empty

/-- What the last item with a name asks for. -/
def lastWanted (items : List (Text × Bool)) (name : Text) : Option Bool :=
  items.reverse.lookup name

theorem names_put : (conditions.put name wanted).names =
    if name ∈ conditions.names then conditions.names else conditions.names ++ [name] :=
  names_putEntry name wanted conditions.entries

theorem lookup_putEntry (asked : Text) : (putEntry name wanted entries).lookup asked =
    if asked = name then some wanted else entries.lookup asked := by
  induction entries with
  | nil => exact lookup_cons_eq asked name wanted []
  | cons entry entries ih =>
      obtain ⟨key, value⟩ := entry
      by_cases replaced : key = name
      · subst replaced
        rw [putEntry, if_pos rfl, lookup_cons_eq, lookup_cons_eq]
        split
        · rfl
        · rfl
      · rw [putEntry, if_neg replaced, lookup_cons_eq, lookup_cons_eq, ih]
        by_cases here : asked = key
        · rw [if_pos here, if_pos here, if_neg (here.trans_ne replaced)]
        · rw [if_neg here, if_neg here]

theorem ofItems_concat (items : List (Text × Bool)) (name : Text) (wanted : Bool) :
    ofItems (items ++ [(name, wanted)]) = (ofItems items).put name wanted :=
  List.foldl_append

theorem lastWanted_concat (items : List (Text × Bool)) (name asked : Text) (wanted : Bool) :
    lastWanted (items ++ [(name, wanted)]) asked =
      if asked = name then some wanted else lastWanted items asked := by
  rw [lastWanted, List.reverse_append, List.reverse_singleton, List.singleton_append,
    lookup_cons_eq, lastWanted]

theorem names_ofItems (items : List (Text × Bool)) :
    (ofItems items).names = (items.map Prod.fst).eraseDups := by
  induction items using List.reverseRec with
  | nil => rfl
  | append_singleton items item ih =>
      obtain ⟨name, wanted⟩ := item
      rw [ofItems_concat, names_put, ih, List.map_append, List.eraseDups_append]
      generalize items.map Prod.fst = names
      by_cases listed : name ∈ names
      · simp [List.removeAll, List.mem_eraseDups, listed]
      · simp [List.removeAll, List.mem_eraseDups, listed, List.eraseDups_cons]

theorem lookup_ofItems (items : List (Text × Bool)) (name : Text) :
    (ofItems items).entries.lookup name = lastWanted items name := by
  induction items using List.reverseRec with
  | nil => rfl
  | append_singleton items item ih =>
      obtain ⟨latest, wanted⟩ := item
      rw [ofItems_concat, lastWanted_concat, ← ih]
      exact lookup_putEntry name

theorem mem_entries_iff :
    (name, wanted) ∈ conditions.entries ↔ conditions.entries.lookup name = some wanted :=
  ⟨lookup_of_mem conditions.nodup, mem_of_lookup⟩

theorem mem_entries_ofItems :
    (name, wanted) ∈ (ofItems items).entries ↔ lastWanted items name = some wanted := by
  rw [mem_entries_iff, lookup_ofItems]

theorem entries_eq (conditions : Conditions) : conditions.entries =
    conditions.names.map fun name => (name, (conditions.entries.lookup name).getD false) := by
  refine (List.map_id conditions.entries).symm.trans ?_
  rw [names, List.map_map]
  refine List.map_congr_left fun entry member => ?_
  simp [mem_entries_iff.mp member]

/-- Conditions with the same names in one order that ask the same of each are the same. -/
theorem eq_of_lookup_eq (names : conditions.names = other.names)
    (lookups : ∀ name, conditions.entries.lookup name = other.entries.lookup name) :
    conditions = other := by
  have entries : conditions.entries = other.entries := by
    rw [entries_eq conditions, entries_eq other, names]
    exact List.map_congr_left fun name _ => by rw [lookups]
  obtain ⟨_, _⟩ := conditions
  obtain ⟨_, _⟩ := other
  subst entries
  rfl

theorem eraseDups_of_nodup {names : List Text} (nodup : names.Nodup) : names.eraseDups = names := by
  induction names with
  | nil => rfl
  | cons first others ih =>
      obtain ⟨fresh, apart⟩ := List.nodup_cons.mp nodup
      have kept : others.filter (fun other => !other == first) = others := by
        rw [List.filter_eq_self]
        intro other member
        simp [ne_of_mem_of_not_mem member fresh]
      rw [List.eraseDups_cons, kept, ih apart]

theorem ofItems_entries (conditions : Conditions) : ofItems conditions.entries = conditions := by
  apply eq_of_lookup_eq
  · rw [names_ofItems]
    exact eraseDups_of_nodup conditions.nodup
  · intro name
    have apart : (conditions.entries.reverse.map Prod.fst).Nodup := by
      rw [List.map_reverse]
      exact List.nodup_reverse.mpr conditions.nodup
    ext wanted
    rw [lookup_ofItems, ← mem_entries_iff]
    exact ⟨fun found => List.mem_reverse.mp (mem_of_lookup found),
      fun member => lookup_of_mem apart (List.mem_reverse.mpr member)⟩

theorem met_iff : conditions.met isSet = true ↔
    ∀ name wanted, (name, wanted) ∈ conditions.entries → isSet name = wanted := by
  simp [met]

theorem met_ofItems : (ofItems items).met isSet = true ↔
    ∀ name wanted, lastWanted items name = some wanted → isSet name = wanted := by
  simp only [met_iff, mem_entries_ofItems]

theorem mem_of_lastWanted (last : lastWanted items name = some wanted) : (name, wanted) ∈ items :=
  List.mem_reverse.mp (mem_of_lookup last)

theorem exists_lastWanted (member : (name, wanted) ∈ items) :
    ∃ last, lastWanted items name = some last := by
  induction items using List.reverseRec with
  | nil => contradiction
  | append_singleton items item ih =>
      obtain ⟨latest, asked⟩ := item
      rw [lastWanted_concat]
      by_cases same : name = latest
      · exact ⟨asked, if_pos same⟩
      · rw [if_neg same]
        have earlier : (name, wanted) ∈ items := by simpa [same] using member
        exact ih earlier

/-- Whoever agrees with all items meets the conditions that they give. -/
theorem met_ofItems_of_all (all : ∀ item ∈ items, isSet item.1 = item.2) :
    (ofItems items).met isSet = true := by
  rw [met_ofItems]
  exact fun name wanted last => all (name, wanted) (mem_of_lastWanted last)

/-- Where no name is asked for both ways, whoever meets the conditions agrees with all items. -/
theorem all_of_met_ofItems (apart : ∀ name, ¬((name, true) ∈ items ∧ (name, false) ∈ items))
    (met : (ofItems items).met isSet = true) : ∀ item ∈ items, isSet item.1 = item.2 := by
  intro item member
  obtain ⟨name, wanted⟩ := item
  obtain ⟨last, latest⟩ := exists_lastWanted member
  have holds := met_ofItems.mp met name last latest
  have written := mem_of_lastWanted latest
  by_cases same : last = wanted
  · rw [← same]
    exact holds
  · cases wanted with
    | true => exact absurd ⟨member, by simpa [same] using written⟩ (apart name)
    | false => exact absurd ⟨by simpa [same] using written, member⟩ (apart name)

end Gamebook.Story.Conditions
