import Gamebook.Markup.Blocks
import Gamebook.Proofs.Markup.Carrying

/-!
Addresses of texts that stand one behind the other: joined, laid out as rows, empty ones left out.
-/

namespace Gamebook.Markup

open Gamebook.Text

variable {β γ δ : Type}

/-- What is read of each item in turn. -/
inductive Listed (reads : β → List γ → Prop) : List β → List γ → Prop
  | nil : Listed reads [] []
  | cons {item : β} {items : List β} {first rest : List γ} (told : reads item first)
      (others : Listed reads items rest) : Listed reads (item :: items) (first ++ rest)

namespace Listed

variable {reads : β → List γ → Prop} {items left right : List β} {shown leftShown rightShown : List γ}

theorem single {item : β} (told : reads item shown) : Listed reads [item] shown := by
  simpa using Listed.cons told .nil

theorem append (first : Listed reads left leftShown) (second : Listed reads right rightShown) :
    Listed reads (left ++ right) (leftShown ++ rightShown) := by
  induction first with
  | nil => exact second
  | cons told _ ih =>
      rw [List.append_assoc]
      exact .cons told ih

theorem weaken {others : β → List γ → Prop}
    (implied : ∀ item shown, reads item shown → others item shown)
    (listed : Listed reads items shown) : Listed others items shown := by
  induction listed with
  | nil => exact .nil
  | cons told _ ih => exact .cons (implied _ _ told) ih

theorem flatten {lists : List (List β)} (listed : Listed (Listed reads) lists shown) :
    Listed reads lists.flatten shown := by
  induction listed with
  | nil => exact .nil
  | cons told _ ih => exact told.append ih

end Listed

namespace IsReading

variable {reads : Text → List Text → Prop} (reading : IsReading reads) {texts : List Text}
  {shown : List Text}

include reading

theorem between {opening html closing : Text} (opens : isTag opening = true)
    (closes : isTag closing = true) (told : reads html shown) :
    reads (opening ++ html ++ closing) shown := by
  have whole := reading.append (reading.append (reading.tag opens) told) (reading.tag closes)
  rwa [List.append_nil] at whole

theorem join (separator : Text) (quiet : ∀ c ∈ separator, IsPlain c)
    (listed : Listed reads texts shown) : reads (Text.join separator texts) shown := by
  induction listed with
  | nil => exact reading.nil
  | @cons item items first rest told others ih =>
      cases others with
      | nil => simpa [Text.join] using told
      | cons next more =>
          rw [Text.join, List.intercalate_cons_cons, List.append_assoc]
          have spaced := reading.append (reading.quiet quiet) ih
          exact reading.append told spaced

theorem filter (listed : Listed reads texts shown) :
    Listed reads (texts.filter (· ≠ [])) shown := by
  induction listed with
  | nil => exact .nil
  | @cons item items first rest told _ ih =>
      by_cases empty : item = []
      · subst empty
        rw [reading.eq_nil told]
        simpa using ih
      · rw [List.filter_cons_of_pos (by simpa using empty)]
        exact .cons told ih

theorem layOut {rows : List Row} (inList : Bool)
    (listed : Listed (fun row => reads row.html) rows shown) :
    Listed reads (Row.layOut inList rows) shown := by
  have opening : reads "<ul>".toList [] := reading.tag (by decide)
  have closing : reads "</ul>".toList [] := reading.tag (by decide)
  induction listed generalizing inList with
  | nil =>
      cases inList with
      | false => exact .nil
      | true => exact .single closing
  | @cons row rows first rest told _ ih =>
      cases row with
      | item html =>
          have others := Listed.cons told (ih true)
          cases inList with
          | false =>
              have opened := Listed.cons opening others
              exact opened
          | true => exact others
      | other html =>
          have others := Listed.cons told (ih false)
          cases inList with
          | false => exact others
          | true =>
              have closed := Listed.cons closing others
              exact closed

end IsReading

end Gamebook.Markup
