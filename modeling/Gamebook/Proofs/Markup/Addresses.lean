import Gamebook.Proofs.Text.Scanning
import Gamebook.Text.Escape

/-!
The addresses that a page leads to: the values of `href` of its anchors, from left to right.
-/

namespace Gamebook.Markup

open Gamebook.Text

/-- The address of the anchor whose opening tag starts the text. -/
def addressAt : Text → Option Text
  | '<' :: 'a' :: ' ' :: 'h' :: 'r' :: 'e' :: 'f' :: '=' :: '"' :: text =>
    match text.dropWhile (· ≠ '"') with
    | '"' :: '>' :: _ => some (text.takeWhile (· ≠ '"'))
    | _ => none
  | _ => none

def addresses : Text → List Text
  | [] => []
  | c :: text => (addressAt (c :: text)).toList ++ addresses text

/-- Wherever this markup stands, it shows these addresses and changes none behind it. -/
def Shows (html : Text) (shown : List Text) : Prop :=
  ∀ rest, addresses (html ++ rest) = shown ++ addresses rest

theorem addressAt_cons {c : Char} (opensNone : c ≠ '<') (text : Text) :
    addressAt (c :: text) = none := by
  unfold addressAt
  split
  · rename_i same
    exact absurd (List.cons.inj same).1 opensNone
  · rfl

namespace Shows

variable {left right html : Text} {leftShown rightShown shown : List Text} {c : Char}

theorem nil : Shows [] [] := fun _ => rfl

theorem append (first : Shows left leftShown) (second : Shows right rightShown) :
    Shows (left ++ right) (leftShown ++ rightShown) := by
  intro rest
  rw [List.append_assoc, first, second, List.append_assoc]

theorem addresses_eq (shows : Shows html shown) : addresses html = shown := by
  have alone := shows []
  simpa [addresses] using alone

theorem eq_nil (shows : Shows [] shown) : shown = [] := shows.addresses_eq.symm

theorem quiet (quiet : '<' ∉ html) : Shows html [] := by
  induction html with
  | nil => exact nil
  | cons c html ih =>
      intro rest
      have first : c ≠ '<' := fun same => quiet (by simp [same])
      have others := ih (fun member => quiet (.tail _ member)) rest
      rw [List.cons_append, addresses, addressAt_cons first, others]
      rfl

theorem opening {rest : Text} (other : c ≠ 'a') (opensNone : '<' ∉ c :: rest) :
    Shows ('<' :: c :: rest) [] := by
  have behind : Shows (c :: rest) [] := quiet opensNone
  intro text
  have noAnchor : addressAt ('<' :: c :: (rest ++ text)) = none := by
    unfold addressAt
    split
    · rename_i same
      simp only [List.cons.injEq, true_and] at same
      exact absurd same.1 other
    · rfl
  rw [List.cons_append, List.cons_append, addresses, noAnchor]
  exact behind text

theorem anchor {address : Text} (closed : '"' ∉ address) (quiet : '<' ∉ address) :
    Shows ("<a href=\"".toList ++ address ++ "\">".toList) [address] := by
  intro rest
  have opened : addressAt ("<a href=\"".toList ++ (address ++ '"' :: '>' :: rest)) =
      some address := by
    change (match (address ++ '"' :: '>' :: rest).dropWhile (· ≠ '"') with
      | '"' :: '>' :: _ => some ((address ++ '"' :: '>' :: rest).takeWhile (· ≠ '"'))
      | _ => none) = _
    rw [takeWhile_ne closed, dropWhile_ne closed]
    rfl
  have behind : Shows ("a href=\"".toList ++ address ++ "\">".toList) [] := by
    apply Shows.quiet
    intro member
    simp only [List.mem_append] at member
    rcases member with (member | member) | member
    · exact absurd member (by decide)
    · exact quiet member
    · exact absurd member (by decide)
  calc
    addresses ("<a href=\"".toList ++ address ++ "\">".toList ++ rest)
      = (addressAt ("<a href=\"".toList ++ (address ++ '"' :: '>' :: rest))).toList ++
          addresses ("a href=\"".toList ++ address ++ "\">".toList ++ rest) := by
        rw [List.append_assoc, List.append_assoc, List.append_assoc, List.append_assoc]
        rfl
    _ = [address] ++ addresses rest := by
        rw [opened, behind rest]
        rfl

end Shows

/-- The characters that escaping writes in the place of others. -/
def entityCharacters (style : EscapeStyle) : Text :=
  "&amp;".toList ++ "&lt;".toList ++ "&gt;".toList ++ style.quote ++ style.apostrophe

theorem char_cases (style : EscapeStyle) (c : Char) :
    style.char c = [c] ∧ c ∉ ['&', '<', '>', '"', '\''] ∨
      ∀ d ∈ style.char c, d ∈ entityCharacters style := by
  unfold EscapeStyle.char entityCharacters
  by_cases amp : c = '&'
  · right; simp +contextual [amp]
  by_cases lt : c = '<'
  · right; simp +contextual [lt]
  by_cases gt : c = '>'
  · right; simp +contextual [gt]
  by_cases quote : c = '"'
  · right; simp +contextual [quote]
  by_cases apostrophe : c = '\''
  · right; simp +contextual [apostrophe]
  left; simp [amp, lt, gt, quote, apostrophe]

theorem escape_of_plain {style : EscapeStyle} {text : Text}
    (plain : ∀ c ∈ text, c ∉ ['&', '<', '>', '"', '\'']) : escape style text = text := by
  induction text with
  | nil => rfl
  | cons c text ih =>
      have first := plain c List.mem_cons_self
      have same : style.char c = [c] := by simp_all [EscapeStyle.char]
      rw [escape_cons, same, ih fun d member => plain d (.tail _ member)]
      rfl

theorem not_mem_char (style : EscapeStyle) (d : Char) (special : d ∈ ['&', '<', '>', '"', '\''])
    (unwritten : d ∉ entityCharacters style) (c : Char) : d ∉ style.char c := by
  intro member
  rcases char_cases style c with ⟨same, plain⟩ | entity
  · rw [same, List.mem_singleton] at member
    exact plain (member ▸ special)
  · exact unwritten (entity d member)

theorem mem_of_mem_escape (style : EscapeStyle) {d : Char} {text : Text}
    (unwritten : d ∉ entityCharacters style) (member : d ∈ escape style text) : d ∈ text := by
  obtain ⟨c, inside, found⟩ := List.mem_flatMap.mp member
  rcases char_cases style c with ⟨same, _⟩ | entity
  · rw [same, List.mem_singleton] at found
    exact found ▸ inside
  · exact absurd (entity d found) unwritten

theorem not_mem_escape (style : EscapeStyle) (d : Char) (special : d ∈ ['&', '<', '>', '"', '\''])
    (unwritten : d ∉ entityCharacters style) (text : Text) : d ∉ escape style text := by
  intro member
  obtain ⟨c, _, written⟩ := List.mem_flatMap.mp member
  exact not_mem_char style d special unwritten c written

end Gamebook.Markup
