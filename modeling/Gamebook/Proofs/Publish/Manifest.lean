import Gamebook.Proofs.Markup.Elements
import Gamebook.Proofs.Text.Digits
import Gamebook.Proofs.Text.Items
import Gamebook.Proofs.Text.Joining
import Gamebook.Publish.Book

/-!
The package document of a book as a reader finds it: a table of what the manifest lists by its ids, and the
ids in reading order.
-/

namespace Gamebook.Text

theorem ofNat_injective : Function.Injective ofNat := fun left right same => by
  rw [← digitsValue_ofNat left, same, digitsValue_ofNat]

end Gamebook.Text

namespace Gamebook.Publish.MediaType

open Gamebook.Text Gamebook.Markup

theorem exists_mem_of_lookUp {table : List (String × String)} {ending type : Text}
    (found : lookUp table ending = some type) : ∃ entry ∈ table, entry.2.toList = type := by
  obtain ⟨value, listed, rfl⟩ := Option.map_eq_some_iff.mp found
  exact ⟨_, mem_of_lookup listed, rfl⟩

theorem isValue_known : ∀ entry ∈ known, Tag.IsValue entry.2.toList := by
  unfold known
  repeat' refine List.forall_mem_cons.mpr ⟨Tag.isValue_ofList (by decide), ?_⟩
  exact List.forall_mem_nil _

theorem isValue_ofEnding {name type : Text} (found : ofEnding name = some type) : Tag.IsValue type := by
  unfold ofEnding at found
  obtain ⟨entry, member, rfl⟩ := exists_mem_of_lookUp found
  exact isValue_known entry member

theorem isValue_ofName? {name type : Text} (found : ofName? name = some type) : Tag.IsValue type := by
  unfold ofName? at found
  split at found
  · exact isValue_ofEnding found
  · split at found
    · split at found
      · cases found
        decide
      · cases found
    · exact isValue_ofEnding found

theorem isValue_ofName (name : Text) : Tag.IsValue (ofName name) := by
  unfold ofName
  cases found : ofName? name with
  | none => decide
  | some type => exact isValue_ofName? found

end Gamebook.Publish.MediaType

namespace Gamebook.Publish.Book

open Gamebook.Text Gamebook.Files Gamebook.Markup

variable {text name modified : Text} {item : Item} {package : Package} {found : List (List (Text × Text))}

/-- What the manifest lists: ids, and the members that the addresses lead to. -/
def readManifest (text : Text) : Option (List (Text × Text)) :=
  (Element.withName "item" text).mapM fun attributes => do
    let id ← attributes.lookup "id".toList
    let href ← attributes.lookup "href".toList
    let place ← unescape href
    return (id, inContent place)

/-- The ids of the manifest in reading order. -/
def readSpine (text : Text) : Option (List Text) :=
  (Element.withName "itemref" text).mapM (·.lookup "idref".toList)

def Item.attributes (item : Item) : List (Text × Text) :=
  ("id".toList, item.id) :: ("href".toList, escaped item.href) :: ("media-type".toList, item.mediaType) ::
    if item.isNavigation then [("properties".toList, "nav".toList)] else []

theorem Item.print_eq (item : Item) :
    item.print = "    ".toList ++ Element.write "item" item.attributes := by
  unfold Item.print Item.attributes Element.write Element.writeAttribute
  cases item.isNavigation
  all_goals
    simp only [List.append_assoc, List.cons_append, List.flatMap_cons]
    rfl

theorem spinePrint_eq (id : Text) :
    spinePrint id = "    ".toList ++ Element.write "itemref" [("idref".toList, id)] := by
  unfold spinePrint Element.write Element.writeAttribute
  simp only [List.append_assoc, List.cons_append, List.flatMap_cons]
  rfl

/-- An id and a type can be values. -/
structure Item.IsFit (item : Item) : Prop where
  id : Tag.IsValue item.id
  mediaType : Tag.IsValue item.mediaType

theorem isValue_escaped (text : Text) : Tag.IsValue (escaped text) :=
  Tag.isValue_of_not_mem (not_mem_escape .inAttribute '<' (by decide) (by decide) text)
    (not_mem_escape .inAttribute '"' (by decide) (by decide) text)

theorem Item.IsFit.isAttribute (fit : item.IsFit) :
    ∀ pair ∈ item.attributes, Element.IsAttribute pair := by
  have common : ∀ pair ∈ [("id".toList, item.id), ("href".toList, escaped item.href),
      ("media-type".toList, item.mediaType), ("properties".toList, "nav".toList)],
      Element.IsAttribute pair := by
    simp only [List.forall_mem_cons, List.not_mem_nil, false_implies, implies_true, and_true]
    exact ⟨Element.isAttribute (by decide) fit.id, Element.isAttribute (by decide) (isValue_escaped _),
      Element.isAttribute (by decide) fit.mediaType, Element.isAttribute (by decide) (by decide)⟩
  unfold attributes
  cases item.isNavigation with
  | true => exact common
  | false => exact fun pair member => common pair (List.mem_append_left [("properties".toList, "nav".toList)] member)

theorem Item.IsFit.shows (fit : item.IsFit) :
    Element.Shows "item" item.print [item.attributes] ∧ Element.Shows "itemref" item.print [] := by
  have blank : ∀ name, Element.Shows name "    ".toList [] := fun name =>
    Element.shows_of_not_mem (by decide)
  rw [Item.print_eq]
  exact ⟨(blank _).append (Element.shows_write (by decide) (List.cons_ne_nil _ _) fit.isAttribute),
    (blank _).append (Element.shows_write_of_avoids (List.cons_ne_nil _ _) (by decide) fit.isAttribute)⟩

theorem shows_spinePrint {id : Text} (isValue : Tag.IsValue id) :
    Element.Shows "itemref" (spinePrint id) [[("idref".toList, id)]] ∧
      Element.Shows "item" (spinePrint id) [] := by
  have blank : ∀ name, Element.Shows name "    ".toList [] := fun name =>
    Element.shows_of_not_mem (by decide)
  have fit : ∀ pair ∈ [("idref".toList, id)], Element.IsAttribute pair := by
    simp only [List.mem_singleton, forall_eq]
    exact Element.isAttribute (by decide) isValue
  rw [spinePrint_eq]
  exact ⟨(blank _).append (Element.shows_write (by decide) (List.cons_ne_nil _ _) fit),
    (blank _).append (Element.shows_write_of_avoids (List.cons_ne_nil _ _) (by decide) fit)⟩

/-- What the lines show one behind the other. -/
theorem shows_ofLines {lines : List Text} {shown : List (List (List (Text × Text)))}
    (each : List.Forall₂ (Element.Shows name) lines shown) :
    Element.Shows name (ofLines lines) shown.flatten := by
  induction each with
  | nil => exact Element.shows_nil name
  | cons first _ ih =>
      have ended := first.append (@Element.shows_of_not_mem ['\n'] _ (by decide))
      rw [List.append_nil] at ended
      exact ended.append ih

/-- What the joined pieces show one behind the other. -/
theorem shows_join {α : Type} {items : List α} {print : α → Text}
    {shown : α → List (List (Text × Text))}
    (each : ∀ item ∈ items, Element.Shows name (print item) (shown item)) :
    Element.Shows name (join ['\n'] (items.map print)) (items.flatMap shown) := by
  induction items with
  | nil => exact Element.shows_nil name
  | cons first items ih =>
      have own := each first List.mem_cons_self
      have others := ih fun other member => each other (.tail _ member)
      cases items with
      | nil => simpa [join] using own
      | cons second items =>
          have separated := own.append ((@Element.shows_of_not_mem ['\n'] _ (by decide)).append others)
          simpa [join, List.intercalate_cons_cons] using separated

/-- A line that holds a text in which nothing is opened. -/
theorem shows_around {front middle back : Text} (opensNone : '<' ∉ middle)
    (before : Element.avoids ('<' :: name ++ [' ']) front = true)
    (behind : Element.avoids ('<' :: name ++ [' ']) back = true) :
    Element.Shows name (front ++ middle ++ back) [] :=
  ((Element.shows_of_avoids before).append (Element.shows_of_not_mem opensNone)).append
    (Element.shows_of_avoids behind)

/-- A package document shows what its manifest and its spine show. -/
theorem Package.shows {items references : List (List (Text × Text))}
    (known : name = "item".toList ∨ name = "itemref".toList) (plain : '<' ∉ package.edition.modified)
    (ofManifest : Element.Shows name (join ['\n'] (package.manifest.map Item.print)) items)
    (ofSpine : Element.Shows name (join ['\n'] (package.spine.map spinePrint)) references) :
    Element.Shows name package.print (items ++ references) := by
  have quiet : ∀ text, '<' ∉ escaped text := fun text => (isValue_escaped text).not_mem.1
  have lines : List.Forall₂ (Element.Shows name) package.lines
      [[], [], [], [], [], [], [], [], [], [], items, [], [], references, [], []] := by
    unfold Package.lines
    rcases known with rfl | rfl
    all_goals
      refine .cons (Element.shows_of_avoids (by decide)) (.cons (Element.shows_of_avoids (by decide))
        (.cons (Element.shows_of_avoids (by decide)) ?_))
      refine .cons (shows_around (quiet _) (by decide) (by decide)) (.cons (shows_around (quiet _)
        (by decide) (by decide)) (.cons (shows_around (quiet _) (by decide) (by decide))
        (.cons (shows_around (quiet _) (by decide) (by decide))
        (.cons (shows_around plain (by decide) (by decide)) ?_))))
      exact .cons (Element.shows_of_avoids (by decide)) (.cons (Element.shows_of_avoids (by decide))
        (.cons ofManifest (.cons (Element.shows_of_avoids (by decide))
        (.cons (Element.shows_of_avoids (by decide)) (.cons ofSpine
        (.cons (Element.shows_of_avoids (by decide)) (.cons (Element.shows_of_avoids (by decide)) .nil)))))))
  have whole := shows_ofLines lines
  unfold Package.print
  simpa using whole

/-- The manifest and the spine can be read, and nothing else in the document is taken for a part of them. -/
structure Package.IsFit (package : Package) : Prop where
  manifest : ∀ item ∈ package.manifest, item.IsFit
  spine : ∀ id ∈ package.spine, Tag.IsValue id
  modified : '<' ∉ package.edition.modified

theorem Package.IsFit.readManifest (fit : package.IsFit) :
    readManifest package.print =
      some (package.manifest.map fun item => (item.id, inContent item.href)) := by
  have items := shows_join fun item member => (fit.manifest item member).shows.1
  have others := shows_join fun id member => (shows_spinePrint (fit.spine id member)).2
  have read := (Package.shows (.inl rfl) fit.modified items others).eq
  have listed : Element.withName "item" package.print = package.manifest.map Item.attributes := by
    rw [List.map_eq_flatMap, read, List.append_right_eq_self, List.flatMap_eq_nil_iff]
    exact fun _ _ => rfl
  unfold Book.readManifest
  rw [listed]
  refine mapM_map_some fun item _ => ?_
  have ofId : item.attributes.lookup "id".toList = some item.id := rfl
  have ofHref : item.attributes.lookup "href".toList = some (escaped item.href) := rfl
  rw [ofId, ofHref]
  change (unescape (escape .inAttribute item.href)).bind _ = _
  rw [unescape_escape]
  rfl

theorem Package.IsFit.readSpine (fit : package.IsFit) :
    readSpine package.print = some package.spine := by
  have items := shows_join fun item member => (fit.manifest item member).shows.2
  have others := shows_join fun id member => (shows_spinePrint (fit.spine id member)).1
  have read := (Package.shows (.inr rfl) fit.modified items others).eq
  have listed : Element.withName "itemref" package.print =
      package.spine.map fun id => [("idref".toList, id)] := by
    rw [List.map_eq_flatMap, read, List.append_left_eq_self, List.flatMap_eq_nil_iff]
    exact fun _ _ => rfl
  unfold Book.readSpine
  rw [listed, mapM_map_some fun id _ => (rfl : [("idref".toList, id)].lookup "idref".toList = some id),
    List.map_id']

end Gamebook.Publish.Book
