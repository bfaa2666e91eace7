import Gamebook.Story.Orphans

/-!
The orphans of a story are the blocks that no path of links leads to.
-/

namespace Gamebook.Story

variable {stops : List Stop} {places rest : List Place} {place other : Place} {stop : Stop}
  {story : Story} {orphan : Orphan}

/-- A path of links leads from one of the first places, stop by stop, to this one. -/
inductive IsLed (stops : List Stop) (places : List Place) : Place → Prop
  | here {place : Place} (first : place ∈ places) : IsLed stops places place
  | behind {stop : Stop} {place : Place} (before : IsLed stops places stop.place)
      (known : stop ∈ stops) (leads : place ∈ stop.leadsTo) : IsLed stops places place

theorem mem_stopsAt : stop ∈ stopsAt place stops ↔ stop ∈ stops ∧ stop.place = place := by
  simp [stopsAt]

theorem mem_stopsElsewhere : stop ∈ stopsElsewhere place stops ↔ stop ∈ stops ∧ stop.place ≠ place := by
  simp [stopsElsewhere]

theorem stopsElsewhere_of_stopsAt_nil (absent : stopsAt place stops = []) :
    stopsElsewhere place stops = stops := by
  apply List.filter_eq_self.mpr
  intro other member
  have apart := List.filter_eq_nil_iff.mp absent other member
  simpa using apart

/-- Once a place is reached, its own stops are not needed any more: what they lead to counts as a
first place. -/
theorem isLed_cons : IsLed stops (place :: rest) other ↔ other = place ∨
    IsLed (stopsElsewhere place stops) (rest ++ (stopsAt place stops).flatMap Stop.leadsTo) other := by
  constructor
  · intro led
    induction led with
    | here first =>
        rcases List.mem_cons.mp first with same | later
        · exact .inl same
        · exact .inr (.here (List.mem_append_left _ later))
    | @behind stop next before known leads ih =>
        by_cases same : stop.place = place
        · have listed := List.mem_flatMap.mpr ⟨stop, mem_stopsAt.mpr ⟨known, same⟩, leads⟩
          exact .inr (.here (List.mem_append_right _ listed))
        · have led := ih.resolve_left same
          exact .inr (led.behind (mem_stopsElsewhere.mpr ⟨known, same⟩) leads)
  · rintro (rfl | led)
    · exact .here List.mem_cons_self
    · induction led with
      | here first =>
          rcases List.mem_append.mp first with later | listed
          · exact .here (.tail _ later)
          · obtain ⟨stop, found, leads⟩ := List.mem_flatMap.mp listed
            obtain ⟨known, same⟩ := mem_stopsAt.mp found
            exact .behind (same ▸ .here List.mem_cons_self) known leads
      | behind _ known leads ih => exact ih.behind (mem_stopsElsewhere.mp known).1 leads

theorem mem_unreachedFrom : stop ∈ unreachedFrom places stops ↔
    stop ∈ stops ∧ ¬IsLed stops places stop.place := by
  fun_induction unreachedFrom places stops with
  | case1 stops =>
      have none : ¬IsLed stops [] stop.place := by
        intro led
        generalize stop.place = place at led
        induction led with
        | here first => cases first
        | behind _ _ _ ih => exact ih
      exact ⟨fun member => ⟨member, none⟩, And.left⟩
  | case2 stops place rest absent ih =>
      have elsewhere := stopsElsewhere_of_stopsAt_nil absent
      rw [ih, isLed_cons, absent, elsewhere, List.flatMap_nil, List.append_nil, not_or]
      refine ⟨fun ⟨known, notLed⟩ => ⟨known, ?_, notLed⟩, fun ⟨known, _, notLed⟩ => ⟨known, notLed⟩⟩
      rw [← elsewhere] at known
      exact (mem_stopsElsewhere.mp known).2
  | case3 stops place rest found ih =>
      rw [ih, isLed_cons, mem_stopsElsewhere, not_or, and_assoc]

theorem unreachedFrom_sublist (places : List Place) (stops : List Stop) :
    (unreachedFrom places stops).Sublist stops := by
  fun_induction unreachedFrom places stops with
  | case1 stops => exact List.Sublist.refl stops
  | case2 stops place rest absent ih => exact ih
  | case3 stops place rest found ih => exact ih.trans List.filter_sublist

/-- Links lead from the first scene to this place, whatever their conditions. -/
def LeadsTo (story : Story) (place : Place) : Prop :=
  IsLed story.stops [.scene story.firstScene] place

theorem LeadsTo.behind (led : story.LeadsTo stop.place) (known : stop ∈ story.stops)
    (leads : place ∈ stop.leadsTo) : story.LeadsTo place :=
  IsLed.behind led known leads

theorem mem_leadsTo {link : Link} : place ∈ link.leadsTo ↔
    (∃ key, link.scene = some key ∧ place = .scene key) ∨
      ∃ toggle ∈ link.toggles, place = .action toggle := by
  simp [Link.leadsTo, eq_comm]

theorem mem_orphans : orphan ∈ story.orphans ↔
    ∃ stop ∈ story.stops, ¬story.LeadsTo stop.place ∧ stop.orphan = orphan := by
  rw [orphans, List.mem_mergeSort, List.mem_map]
  simp only [mem_unreachedFrom, LeadsTo, and_assoc]

def Scene.toStop (scene : Scene) : Stop :=
  ⟨.scene scene.key, scene.name, scene.line, scene.links.flatMap Link.leadsTo⟩

def Action.toStop (action : Action) : Stop :=
  ⟨.action action.key, action.name, action.line, action.links.flatMap Link.leadsTo⟩

theorem mem_stops : stop ∈ story.stops ↔
    (∃ scene ∈ story.allScenes, scene.toStop = stop) ∨
      ∃ action ∈ story.allActions, action.toStop = stop := by
  rw [stops, List.mem_append, List.mem_map, List.mem_map]
  rfl

end Gamebook.Story
