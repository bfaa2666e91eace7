import Gamebook.Proofs.Source.Grammar

/-!
Keys and the targets that name them. A name has a key if its lower case has a letter or a digit to keep,
a key is its own key, and the targets that lead to it, ask for it and set it say just that.
-/

namespace Gamebook.Source.Key

open Gamebook.Text Gamebook.Story

variable {name key text : Text} {gap : Bool} {c : Char}

theorem toNat_lt_of_isInKey (inKey : isInKey c = true) : c.toNat < 128 := by
  have bounds : 'z'.val.toNat = 122 ∧ '9'.val.toNat = 57 := ⟨rfl, rfl⟩
  change c.val.toNat < 128
  simp only [isInKey, isKept, Bool.or_eq_true, decide_eq_true_eq] at inKey
  rcases inKey with (lower | digit) | rfl
  · have below : c.val.toNat ≤ 'z'.val.toNat := of_decide_eq_true (Bool.and_eq_true_iff.mp lower).2
    omega
  · have below : c.val.toNat ≤ '9'.val.toNat := of_decide_eq_true (Bool.and_eq_true_iff.mp digit).2
    omega
  · decide

theorem lower_eq_self (inKey : ∀ c ∈ text, isInKey c = true) : lower text = text := by
  have single : ∀ c ∈ text, lowerChar c = [c] := by
    intro c member
    rw [lowerChar, if_pos (toNat_lt_of_isInKey (inKey c member)),
      (shape_of_isInKey (inKey c member)).2]
  rw [lower, List.flatMap_congr single, List.flatMap_singleton']

theorem mem_hyphenate_iff (kept : isKept c = true) : c ∈ hyphenate gap text ↔ c ∈ text := by
  induction text generalizing gap with
  | nil => cases gap <;> simp [hyphenate, ne_hyphen kept]
  | cons d text ih =>
      simp only [hyphenate]
      split
      · split <;> simp [ih, ne_hyphen kept]
      · rename_i dropped
        have other : c ≠ d := fun same => dropped (same ▸ kept)
        simp [ih, other]

/-- A name has no key if and only if its lower case has nothing to keep. -/
theorem ofName_eq_nil_iff : ofName name = [] ↔ ∀ c ∈ lower name, isKept c = false := by
  rw [ofName, trim_eq_nil_iff]
  constructor
  · intro hyphens c member
    by_contra kept
    have kept : isKept c = true := by simpa using kept
    exact ne_hyphen kept (of_decide_eq_true (hyphens c ((mem_hyphenate_iff kept).mpr member)))
  · intro dropped c member
    have inKey := isInKey_of_mem_hyphenate member
    cases kept : isKept c with
    | true => exact absurd kept (by simp [dropped c ((mem_hyphenate_iff kept).mp member)])
    | false => simpa [isInKey, kept] using inKey

/-- Where each hyphen stands alone between other characters there is nothing to rewrite. -/
theorem hyphenate_eq_self (inKey : ∀ c ∈ text, isInKey c = true)
    (single : text.IsChain AreNotHyphens) (ends : text.getLast? ≠ some '-') :
    hyphenate false text = text := by
  induction text with
  | nil => rfl
  | cons c text ih =>
      obtain ⟨leads, behind⟩ := List.isChain_cons.mp single
      obtain ⟨first, others⟩ := List.forall_mem_cons.mp inKey
      have endsBehind : text.getLast? ≠ some '-' := by
        intro last
        exact ends (by rw [List.getLast?_cons, last]; rfl)
      have same := ih others behind endsBehind
      by_cases kept : isKept c = true
      · rw [hyphenate, if_pos kept, if_neg Bool.false_ne_true, same]
      · -- a hyphen is written again with the character behind it, which is none
        obtain rfl : c = '-' := by simpa [isInKey, kept] using first
        cases text with
        | nil => exact absurd rfl ends
        | cons d rest =>
            have other : d ≠ '-' := by simpa [AreNotHyphens] using leads d rfl
            have keptNext : isKept d = true := by simpa [isInKey, other] using others d List.mem_cons_self
            rw [hyphenate, if_pos keptNext, if_neg Bool.false_ne_true] at same
            rw [hyphenate, if_neg kept, hyphenate, if_pos keptNext, if_pos rfl, same]

theorem IsHyphenated.ofName_eq (hyphenated : IsHyphenated text) : ofName text = text := by
  have apart : ∀ c, some c ≠ some '-' → decide (c = '-') = false := by
    intro c other
    simpa using other
  rw [ofName, lower_eq_self hyphenated.inKey,
    hyphenate_eq_self hyphenated.inKey hyphenated.single hyphenated.ends]
  exact trim_eq_self (fun c first => apart c (first ▸ hyphenated.starts))
    fun c last => apart c (last ▸ hyphenated.ends)

theorem ofName_ofName (name : Text) : ofName (ofName name) = ofName name :=
  (isHyphenated_ofName name).ofName_eq

/-- The targets that lead to a key, ask for it and set it say so and no more. -/
structure IsAddressed (key : Text) : Prop where
  linked : Destination.read? ('/' :: key) = some ⟨some key, .empty, []⟩
  tested : Destination.read? ('?' :: key) = some ⟨none, Conditions.empty.put key true, []⟩
  triggered : Destination.read? ('#' :: key) = some ⟨none, .empty, [key]⟩

theorem IsHyphenated.isLowName (hyphenated : IsHyphenated key) (usable : key ≠ []) :
    Destination.IsLowName key := by
  obtain ⟨first, rest, rfl⟩ := List.exists_cons_of_ne_nil usable
  obtain ⟨inKey, others⟩ := List.forall_mem_cons.mp hyphenated.inKey
  have other : first ≠ '-' := by simpa using hyphenated.starts
  exact ⟨first, rest, rfl, by simpa [isInKey, other] using inKey, others⟩

theorem IsHyphenated.isAddressed (hyphenated : IsHyphenated key) (usable : key ≠ []) :
    IsAddressed key := by
  have low := hyphenated.isLowName usable
  have scene : Destination.IsSpelt ⟨some key, .empty, []⟩ :=
    ⟨by rintro _ ⟨⟩; exact ⟨usable, hyphenated.inKey⟩, nofun, nofun⟩
  have conditions : Destination.IsSpelt ⟨none, Conditions.empty.put key true, []⟩ :=
    ⟨nofun, List.forall_mem_singleton.mpr low, nofun⟩
  have toggles : Destination.IsSpelt ⟨none, .empty, [key]⟩ :=
    ⟨nofun, nofun, List.forall_mem_singleton.mpr low⟩
  have leads : (⟨some key, .empty, []⟩ : Destination).written.write = '/' :: key :=
    List.append_nil _
  have asks : (⟨none, Conditions.empty.put key true, []⟩ : Destination).written.write = '?' :: key := by
    simp [Destination.written, Destination.Written.write, Destination.marked, Destination.joined,
      Conditions.put, Conditions.empty, Conditions.putEntry, Destination.writeItem, join]
  have sets : (⟨none, .empty, [key]⟩ : Destination).written.write = '#' :: key := by
    simp [Destination.written, Destination.Written.write, Destination.marked, Destination.joined,
      Conditions.empty, join]
  exact ⟨leads ▸ scene.read?_written, asks ▸ conditions.read?_written, sets ▸ toggles.read?_written⟩

end Gamebook.Source.Key
