import Gamebook.Proofs.Markup.Restoring

/-!
Fragments that are put aside, and texts with their placeholders. Restoring puts every fragment in its
place at once: whatever stands around a placeholder or in a fragment is taken as it is.
-/

namespace Gamebook.Markup

open Gamebook.Text Gamebook.Markup.Placeholder

namespace Stash

variable {stash : Stash} {fragments values rest texts : List Text} {number : Nat}

/-- Puts fragments aside one after the other. -/
def putAll (stash : Stash) : List Text → List Text × Stash
  | [] => ([], stash)
  | fragment :: fragments =>
    let (placeholder, next) := stash.put fragment
    let (placeholders, last) := next.putAll fragments
    (placeholder :: placeholders, last)

theorem putAll_eq (stash : Stash) (fragments : List Text) : stash.putAll fragments =
    ((List.range' stash.fragments.length fragments.length).map (ofNumber linkMark),
      ⟨stash.fragments ++ fragments⟩) := by
  induction fragments generalizing stash with
  | nil => simp [putAll]
  | cons fragment fragments ih => simp [putAll, put, ih, List.range'_succ]

/-- A piece of a text with gaps: a text, or the place of the fragment with a number. -/
inductive Slot where
  | plain (text : Text)
  | gap (number : Nat)

/-- A text without placeholders, or the place of one of so many fragments. -/
def Slot.Fits (count : Nat) : Slot → Prop
  | .plain text => linkMark ∉ text
  | .gap number => number < count

def Slot.fill (values : List Text) : Slot → Text
  | .plain text => text
  | .gap number => values[number]?.getD []

/-- The text with the values in its gaps. -/
def fill (values : List Text) (slots : List Slot) : Text := slots.flatMap (Slot.fill values)

/-- Texts with values between them, a text at both ends. -/
def interleave : List Text → List Text → Text
  | text :: texts, value :: values => text ++ (value ++ interleave texts values)
  | texts, _ => texts.flatten

/-- Texts with a gap between any two of them, the first for the fragment with the given number. -/
def alternate (number : Nat) : List Text → List Slot
  | [] => []
  | [text] => [.plain text]
  | text :: texts => .plain text :: .gap number :: alternate (number + 1) texts

theorem fill_cons (values : List Text) (slot : Slot) (slots : List Slot) :
    fill values (slot :: slots) = slot.fill values ++ fill values slots := rfl

theorem alternate_cons (number : Nat) (text : Text) (nonempty : texts ≠ []) :
    alternate number (text :: texts) = .plain text :: .gap number :: alternate (number + 1) texts := by
  obtain ⟨next, others, rfl⟩ := List.exists_cons_of_ne_nil nonempty
  rfl

theorem fill_alternate (behind : values.drop number = rest) (around : texts.length = rest.length + 1) :
    fill values (alternate number texts) = interleave texts rest := by
  induction rest generalizing number texts with
  | nil =>
      obtain ⟨text, rfl⟩ := List.length_eq_one_iff.mp around
      simp [alternate, fill, Slot.fill, interleave]
  | cons value rest ih =>
      obtain ⟨text, texts, rfl⟩ := List.exists_cons_of_length_eq_add_one around
      have more : texts.length = rest.length + 1 := by simpa using around
      have here : values[number]? = some value := by
        rw [← List.head?_drop, behind, List.head?_cons]
      have later : values.drop (number + 1) = rest := by
        rw [← List.drop_drop, behind, List.drop_one, List.tail_cons]
      rw [alternate_cons number text (List.ne_nil_of_length_eq_add_one more), fill_cons, fill_cons,
        ih later more, interleave]
      simp [Slot.fill, here]

theorem fits_alternate {count : Nat} (few : number + texts.length ≤ count + 1)
    (free : ∀ text ∈ texts, linkMark ∉ text) : ∀ slot ∈ alternate number texts, slot.Fits count := by
  fun_induction alternate number texts with
  | case1 => nofun
  | case2 number text => exact List.forall_mem_singleton.mpr (free text List.mem_cons_self)
  | case3 number text texts nonempty ih =>
      obtain ⟨here, others⟩ := List.forall_mem_cons.mp free
      have more : 0 < texts.length := List.length_pos_iff.mpr fun none => nonempty none
      rw [List.length_cons] at few
      have inside : number < count := by omega
      exact List.forall_mem_cons.mpr ⟨here, List.forall_mem_cons.mpr ⟨inside, ih (by omega) others⟩⟩

/-- Where placeholders stand in the gaps, restoring puts the fragments there. -/
theorem restored_fill {slots : List Slot} (fits : ∀ slot ∈ slots, slot.Fits fragments.length) :
    Restored linkMark fragments (fill (putAll {} fragments).1 slots) (fill fragments slots) := by
  induction slots with
  | nil => exact .nil
  | cons slot slots ih =>
      obtain ⟨first, others⟩ := List.forall_mem_cons.mp fits
      refine Restored.append ?_ (ih others)
      cases slot with
      | plain text => exact .same first
      | gap number =>
          have inside : number < fragments.length := first
          have placeholder : (putAll {} fragments).1[number]? = some (ofNumber linkMark number) := by
            simp [putAll_eq, inside]
          simp only [Slot.fill, placeholder, List.getElem?_eq_getElem inside, Option.getD_some]
          exact .single (List.getElem?_eq_getElem inside)

/-- A text with the placeholders of fragments in its gaps is restored to the text with the fragments
there, in whatever order and however often they stand, if no text around them holds the mark. No more
fragments are put aside than have numbers that can be read. -/
theorem restore_fills (few : fragments.length ≤ 10 ^ maxDigits) :
    (∀ texts : List Text, texts.length = fragments.length + 1 → (∀ text ∈ texts, linkMark ∉ text) →
      (putAll {} fragments).2.restore (interleave texts (putAll {} fragments).1) =
        .ok (interleave texts fragments)) ∧
      ∀ slots : List Slot, (∀ slot ∈ slots, slot.Fits fragments.length) →
        (putAll {} fragments).2.restore (fill (putAll {} fragments).1 slots) =
          .ok (fill fragments slots) := by
  have aside : (putAll {} fragments).2 = ⟨fragments⟩ := by rw [putAll_eq, List.nil_append]
  have filled : ∀ slots : List Slot, (∀ slot ∈ slots, slot.Fits fragments.length) →
      (putAll {} fragments).2.restore (fill (putAll {} fragments).1 slots) =
        .ok (fill fragments slots) := by
    intro slots fits
    rw [aside]
    exact (restored_fill fits).restore_of_le (.inr rfl) few
  refine ⟨fun texts around free => ?_, filled⟩
  have asMany : (putAll {} fragments).1.length = fragments.length := by simp [putAll_eq]
  have fits : ∀ slot ∈ alternate 0 texts, slot.Fits fragments.length :=
    fits_alternate (by omega) free
  rw [← fill_alternate List.drop_zero (asMany.symm ▸ around), ← fill_alternate List.drop_zero around]
  exact filled _ fits

/-- A tag, what looks like a placeholder, and nothing. -/
def oddFragments : List Text := ["<b>", "\x010\x01", ""]

theorem restore_fills_odd :
    oddFragments.length ≤ 10 ^ maxDigits ∧
      (putAll {} oddFragments).2.restore "1\x010\x01\x011\x0123\x012\x01\n".toList =
        .ok "1<b>\x010\x0123\n".toList ∧
      (putAll {} oddFragments).2.restore "\x012\x01\x011\x010\x011\x01\x010\x01".toList =
        .ok "\x010\x010\x010\x01<b>".toList := by
  have few : oddFragments.length ≤ 10 ^ maxDigits := Nat.le_trans (by decide) indexLimit_le
  have free : ∀ text ∈ (["1", "", "23", "\n"] : List Text), linkMark ∉ text := by decide
  have fits : ∀ slot ∈ [Slot.gap 2, .gap 1, .plain "0", .gap 1, .gap 0], slot.Fits oddFragments.length := by
    simp [Slot.Fits, oddFragments, linkMark]
  obtain ⟨inOrder, anyhow⟩ := restore_fills few
  exact ⟨few, inOrder ["1", "", "23", "\n"] rfl free, anyhow _ fits⟩

end Stash

end Gamebook.Markup
