import Gamebook.Proofs.Markup.Addresses
import Gamebook.Proofs.Markup.Images

/-!
The tags of a page. In markup every `<` opens one of them: a tag with nothing but a name, an anchor or an
image. A value of an attribute holds neither `<` nor a quote, so markup inside of a value is none.
-/

namespace Gamebook.Markup

open Gamebook.Text

inductive Tag where
  | bare (name : Text)
  | anchor (address : Text)
  | image (source alt : Text)
deriving DecidableEq, Repr

namespace Tag

def names : List Text :=
  ["p", "/p", "h4", "/h4", "hr /", "ul", "/ul", "li", "/li", "strong", "/strong", "em", "/em", "/a"]

def write : Tag → Text
  | .bare name => '<' :: name ++ ['>']
  | .anchor address => "<a href=\"" ++ address ++ "\">"
  | .image source alt => "<img src=\"" ++ source ++ "\" alt=\"" ++ alt ++ "\" />"

def inValue (c : Char) : Bool := c ≠ '<' && c ≠ '"'

/-- The value of an attribute, which `closing` ends, and what follows. -/
def readValue (closing text : Text) : Option (Text × Text) :=
  (behind some closing (text.dropWhile inValue)).map fun rest => (text.takeWhile inValue, rest)

def readBare (text : Text) : Option (Tag × Text) :=
  names.findSome? fun name =>
    (behind some (write (.bare name)) text).map fun rest => (.bare name, rest)

def readAnchor (text : Text) : Option (Tag × Text) :=
  (behind some "<a href=\"" text).bind fun opened =>
    (readValue "\">" opened).map fun found => (.anchor found.1, found.2)

def readImage (text : Text) : Option (Tag × Text) :=
  (behind some "<img src=\"" text).bind fun opened =>
    (readValue "\" alt=\"" opened).bind fun source =>
      (readValue "\" />" source.2).map fun alt => (.image source.1 alt.1, alt.2)

def read (text : Text) : Option (Tag × Text) :=
  (readBare text).or ((readAnchor text).or (readImage text))

variable {text rest value closing : Text} {tag : Tag}

/-- A text that can be the value of an attribute. -/
def IsValue (text : Text) : Prop := ∀ c ∈ text, inValue c = true

instance (text : Text) : Decidable (IsValue text) := decidable_of_iff (text.all inValue) List.all_eq_true

theorem readValue_eq_some {found : Text × Text} (taken : readValue closing text = some found) :
    text = found.1 ++ (closing ++ found.2) ∧ IsValue found.1 := by
  obtain ⟨tail, stopped, rfl⟩ := Option.map_eq_some_iff.mp taken
  have inside := List.all_eq_true.mp (@List.all_takeWhile _ inValue text)
  exact ⟨by rw [← behind_some stopped, List.takeWhile_append_dropWhile], inside⟩

theorem eq_write_of_readBare (taken : readBare text = some (tag, rest)) :
    text = tag.write ++ rest ∧ ∃ name ∈ names, tag = bare name := by
  obtain ⟨name, known, found⟩ := List.exists_of_findSome?_eq_some taken
  obtain ⟨tail, found, same⟩ := Option.map_eq_some_iff.mp found
  rw [Prod.mk.injEq] at same
  refine ⟨?_, name, known, same.1.symm⟩
  rw [← same.1, ← same.2]
  exact behind_some found

theorem write_anchor_append (address rest : Text) : (anchor address).write ++ rest =
    "<a href=\"".toList ++ (address ++ ("\">".toList ++ rest)) := by
  unfold write
  dsimp only
  rw [List.append_assoc, List.append_assoc]

theorem write_image_append (source alt rest : Text) : (image source alt).write ++ rest =
    "<img src=\"".toList ++ (source ++ ("\" alt=\"".toList ++ (alt ++ ("\" />".toList ++ rest)))) := by
  unfold write
  dsimp only
  rw [List.append_assoc, List.append_assoc, List.append_assoc, List.append_assoc]

theorem eq_write_of_readAnchor (taken : readAnchor text = some (tag, rest)) :
    text = tag.write ++ rest ∧ ∃ address, tag = anchor address ∧ IsValue address := by
  unfold readAnchor at taken
  obtain ⟨opened, start, found⟩ := Option.bind_eq_some_iff.mp taken
  obtain ⟨address, value, same⟩ := Option.map_eq_some_iff.mp found
  rw [Prod.mk.injEq] at same
  obtain ⟨behind, isValue⟩ := readValue_eq_some value
  refine ⟨?_, address.1, same.1.symm, isValue⟩
  rw [← same.1, ← same.2, behind_some start, behind, write_anchor_append]

theorem eq_write_of_readImage (taken : readImage text = some (tag, rest)) :
    text = tag.write ++ rest ∧
      ∃ source alt, tag = image source alt ∧ IsValue source ∧ IsValue alt := by
  unfold readImage at taken
  obtain ⟨opened, start, found⟩ := Option.bind_eq_some_iff.mp taken
  obtain ⟨source, first, found⟩ := Option.bind_eq_some_iff.mp found
  obtain ⟨alt, second, same⟩ := Option.map_eq_some_iff.mp found
  rw [Prod.mk.injEq] at same
  obtain ⟨between, isSource⟩ := readValue_eq_some first
  obtain ⟨behind, isAlt⟩ := readValue_eq_some second
  refine ⟨?_, source.1, alt.1, same.1.symm, isSource, isAlt⟩
  rw [← same.1, ← same.2, behind_some start, between, behind, write_image_append]

/-- The tag has a known name or else values for attributes. -/
def IsWellFormed : Tag → Prop
  | .bare name => name ∈ names
  | .anchor address => IsValue address
  | .image source alt => IsValue source ∧ IsValue alt

theorem eq_write_of_read (taken : read text = some (tag, rest)) :
    text = tag.write ++ rest ∧ tag.IsWellFormed := by
  rcases Option.or_eq_some_iff.mp taken with isBare | ⟨-, taken⟩
  · obtain ⟨whole, name, known, rfl⟩ := eq_write_of_readBare isBare
    exact ⟨whole, known⟩
  · rcases Option.or_eq_some_iff.mp taken with isAnchor | ⟨-, isImage⟩
    · obtain ⟨whole, address, rfl, isValue⟩ := eq_write_of_readAnchor isAnchor
      exact ⟨whole, isValue⟩
    · obtain ⟨whole, source, alt, rfl, inSource, inAlt⟩ := eq_write_of_readImage isImage
      exact ⟨whole, inSource, inAlt⟩

theorem behind_append (front rest : Text) : behind some front (front ++ rest) = some rest := by
  induction front with
  | nil => rfl
  | cons c front ih => rw [List.cons_append, behind, if_pos rfl, ih]

theorem readValue_append (isValue : IsValue value) (rest : Text) :
    readValue ('"' :: closing) (value ++ ('"' :: closing ++ rest)) = some (value, rest) := by
  have taken : (value ++ ('"' :: closing ++ rest)).takeWhile inValue = value := by
    rw [List.takeWhile_append_of_pos isValue]
    simp [inValue]
  have left : (value ++ ('"' :: closing ++ rest)).dropWhile inValue = '"' :: closing ++ rest := by
    rw [List.dropWhile_append_of_pos isValue]
    simp [inValue]
  rw [readValue, taken, left, behind_append]
  rfl

def pattern : Pattern Tag where
  read _ text := read text
  write := write
  write_ne_nil tag := by cases tag <;> exact List.cons_ne_nil _ _
  read_eq := fun taken => (eq_write_of_read taken).1

theorem isFree_pattern : pattern.IsFree := fun _ _ => rfl

theorem behind_cons {c d : Char} (other : d ≠ c) (front text : Text) :
    behind some (c :: front) (d :: text) = none := by
  rw [behind, if_neg (fun same => other (Option.some.inj same))]

theorem read_cons {c : Char} (other : c ≠ '<') (text : Text) : read (c :: text) = none := by
  have bare : readBare (c :: text) = none := by
    refine List.findSome?_eq_none_iff.mpr fun name _ => ?_
    rw [show (bare name).write = '<' :: (name ++ ['>']) from rfl, behind_cons other]
    rfl
  have anchor : readAnchor (c :: text) = none := by
    unfold readAnchor
    rw [show "<a href=\"".toList = '<' :: "a href=\"".toList from rfl, behind_cons other]
    rfl
  have image : readImage (c :: text) = none := by
    unfold readImage
    rw [show "<img src=\"".toList = '<' :: "img src=\"".toList from rfl, behind_cons other]
    rfl
  unfold read
  rw [bare, anchor, image]
  rfl

theorem read_bare {name : Text} (known : name ∈ names) (rest : Text) :
    read ((bare name).write ++ rest) = some (bare name, rest) := by
  have found : readBare ((bare name).write ++ rest) = some (bare name, rest) := by
    revert name
    simp only [names, List.forall_mem_cons, List.not_mem_nil, false_implies, implies_true, and_true]
    exact ⟨rfl, rfl, rfl, rfl, rfl, rfl, rfl, rfl, rfl, rfl, rfl, rfl, rfl, rfl⟩
  rw [read, found]
  rfl

theorem read_anchor {address : Text} (isValue : IsValue address) (rest : Text) :
    read ((anchor address).write ++ rest) = some (anchor address, rest) := by
  rw [write_anchor_append]
  have noBare : readBare ("<a href=\"".toList ++ (address ++ ("\">".toList ++ rest))) = none := rfl
  have found : readAnchor ("<a href=\"".toList ++ (address ++ ("\">".toList ++ rest))) =
      some (anchor address, rest) := by
    unfold readAnchor
    rw [behind_append, Option.bind_some, show "\">".toList = '"' :: ['>'] from rfl,
      readValue_append isValue]
    rfl
  rw [read, noBare, found]
  rfl

theorem read_image_eq (source alt rest : Text) :
    read ((image source alt).write ++ rest) = readImage ((image source alt).write ++ rest) := by
  rw [write_image_append]
  generalize source ++ ("\" alt=\"".toList ++ (alt ++ ("\" />".toList ++ rest))) = opened
  have noBare : readBare ("<img src=\"".toList ++ opened) = none := rfl
  have noAnchor : readAnchor ("<img src=\"".toList ++ opened) = none := rfl
  rw [read, noBare, noAnchor]
  rfl

theorem read_image {source alt : Text} (first : IsValue source) (second : IsValue alt) (rest : Text) :
    read ((image source alt).write ++ rest) = some (image source alt, rest) := by
  rw [read_image_eq, write_image_append]
  unfold readImage
  rw [behind_append, Option.bind_some, show "\" alt=\"".toList = '"' :: " alt=\"".toList from rfl,
    readValue_append first, Option.bind_some, show "\" />".toList = '"' :: " />".toList from rfl,
    readValue_append second]
  rfl

end Tag

/-- In such a text each `>` stands behind a `<`. -/
def Guarded (text : Text) : Prop := ∀ front rest, text = front ++ '>' :: rest → '<' ∈ front

namespace Guarded

variable {left right text : Text}

theorem of_free (free : '>' ∉ text) : Guarded text := by
  rintro front rest rfl
  exact absurd (List.mem_append_right front List.mem_cons_self) free

theorem of_opening (text : Text) : Guarded ('<' :: text) := by
  intro front rest whole
  cases front with
  | nil => exact absurd (List.cons.inj whole).1 (by decide)
  | cons c front => exact (List.cons.inj whole).1 ▸ List.mem_cons_self

theorem append (first : Guarded left) (second : Guarded right) : Guarded (left ++ right) := by
  intro front rest whole
  rcases List.append_eq_append_iff.mp whole with ⟨more, rfl, behind⟩ | ⟨more, rfl, behind⟩
  · exact List.mem_append_right _ (second more rest behind)
  · cases more with
    | nil => exact absurd (second [] rest behind.symm) List.not_mem_nil
    | cons c more =>
        obtain ⟨rfl, rfl⟩ := List.cons.inj behind
        exact first front more rfl

end Guarded

namespace Tag

/-- What stands between the start of an image and the `>` that ends it. -/
def attributes (source alt : Text) : Text := source ++ ("\" alt=\"".toList ++ (alt ++ "\" /".toList))

theorem write_image_attributes (source alt rest : Text) : (image source alt).write ++ rest =
    "<img src=\"".toList ++ (attributes source alt ++ '>' :: rest) := by
  rw [write_image_append, attributes, show "\" />".toList = "\" /".toList ++ ['>'] from rfl]
  simp only [List.append_assoc, List.singleton_append]

theorem count_quote_attributes (source alt : Text) :
    (attributes source alt).count '"' = source.count '"' + alt.count '"' + 3 := by
  rw [attributes, List.count_append, List.count_append, List.count_append,
    show "\" alt=\"".toList.count '"' = 2 from rfl, show "\" /".toList.count '"' = 1 from rfl]
  omega

theorem IsValue.not_mem (isValue : IsValue text) : '<' ∉ text ∧ '"' ∉ text :=
  ⟨fun member => absurd (isValue _ member) (by decide), fun member => absurd (isValue _ member) (by decide)⟩

theorem isValue_of_not_mem (opensNone : '<' ∉ text) (unquoted : '"' ∉ text) : IsValue text := by
  intro c member
  have first : c ≠ '<' := fun same => opensNone (same ▸ member)
  have second : c ≠ '"' := fun same => unquoted (same ▸ member)
  simp [inValue, first, second]

theorem isValue_append {left right : Text} :
    IsValue (left ++ right) ↔ IsValue left ∧ IsValue right := List.forall_mem_append

/-- A literal is taken apart into its characters, which is cheaper than reading it as a string. -/
theorem isValue_ofList {chars : List Char} (valid : IsValue chars) : IsValue (String.ofList chars).toList := by
  rwa [String.toList_ofList]

theorem lt_not_mem_attributes {source alt : Text} :
    '<' ∉ attributes source alt ↔ '<' ∉ source ∧ '<' ∉ alt := by
  have middle : '<' ∉ "\" alt=\"".toList := by decide
  have closing : '<' ∉ "\" /".toList := by decide
  simp only [attributes, List.mem_append, not_or, middle, closing, not_false_eq_true, true_and, and_true]

/-- An image is read as one only if its source and its alternate text can be values. -/
theorem isValue_of_read_image {source alt rest : Text} {found : Tag × Text}
    (inSource : Guarded source) (inAlt : Guarded alt)
    (taken : Tag.read ((Tag.image source alt).write ++ rest) = some found) :
    IsValue source ∧ IsValue alt := by
  rw [read_image_eq] at taken
  obtain ⟨whole, first, second, same, isFirst, isSecond⟩ := eq_write_of_readImage taken
  rw [same, write_image_attributes, write_image_attributes] at whole
  have whole := List.append_cancel_left whole
  have guarded : Guarded (attributes source alt) := by
    refine inSource.append (Guarded.append (.of_free (by decide)) (inAlt.append (.of_free (by decide))))
  have read : '<' ∉ attributes first second :=
    lt_not_mem_attributes.mpr ⟨isFirst.not_mem.1, isSecond.not_mem.1⟩
  -- The `>` of the image that is read cannot stand within the attributes, which are guarded.
  have longer : ∃ more, attributes first second = attributes source alt ++ more := by
    rcases List.append_eq_append_iff.mp whole with ⟨more, longer, _⟩ | ⟨more, shorter, behind⟩
    · exact ⟨more, longer⟩
    · cases more with
      | nil => exact ⟨[], by rw [List.append_nil] at shorter ⊢; exact shorter.symm⟩
      | cons c more =>
          obtain ⟨rfl, -⟩ := List.cons.inj behind
          exact absurd (guarded _ more shorter) read
  obtain ⟨more, longer⟩ := longer
  have opensNone : '<' ∉ source ∧ '<' ∉ alt := by
    refine lt_not_mem_attributes.mp fun member => read ?_
    rw [longer]
    exact List.mem_append_left _ member
  have counted := congrArg (List.count '"') longer
  rw [List.count_append, count_quote_attributes, count_quote_attributes,
    List.count_eq_zero.mpr isFirst.not_mem.2, List.count_eq_zero.mpr isSecond.not_mem.2] at counted
  have inSource : source.count '"' = 0 := by omega
  have inAlt : alt.count '"' = 0 := by omega
  exact ⟨isValue_of_not_mem opensNone.1 (List.count_eq_zero.mp inSource),
    isValue_of_not_mem opensNone.2 (List.count_eq_zero.mp inAlt)⟩

end Tag

/-- In markup each `<` opens one of the tags, whose values hold neither `<` nor a quote. -/
def IsMarkup (html : Text) : Prop := .plain '<' ∉ Tag.pattern.pieces html

instance (html : Text) : Decidable (IsMarkup html) := inferInstanceAs (Decidable (¬ _))

theorem isMarkup_nil : IsMarkup [] := by
  unfold IsMarkup Pattern.pieces
  rw [Pattern.split]
  exact List.not_mem_nil

theorem isMarkup_of_read {tag : Tag} {text rest : Text} (taken : Tag.read text = some (tag, rest)) :
    IsMarkup text ↔ IsMarkup rest := by
  have taken : Tag.pattern.read none text = some (tag, rest) := taken
  unfold IsMarkup
  rw [Tag.isFree_pattern.pieces_of_read taken, List.mem_cons]
  simp

theorem isMarkup_of_not_read {c : Char} {text : Text} (passed : Tag.read (c :: text) = none) :
    IsMarkup (c :: text) ↔ c ≠ '<' ∧ IsMarkup text := by
  have passed : Tag.pattern.read none (c :: text) = none := passed
  unfold IsMarkup
  rw [Tag.isFree_pattern.pieces_of_not_read passed, List.mem_cons, not_or]
  simp [eq_comm]

example : IsMarkup "<p>a > <a href=\"b\">c</a></p>".toList ∧
    ¬IsMarkup "<img src=\"<a href=\"b\">c</a>\" alt=\"\" />".toList := by
  with_unfolding_all decide

namespace Shows

theorem bare {name : Text} (known : name ∈ Tag.names) : Shows (Tag.bare name).write [] := by
  have names : ∀ name ∈ Tag.names, '<' ∉ name ++ ['>'] ∧ name ≠ [] ∧ name.head? ≠ some 'a' := by decide
  obtain ⟨opensNone, nonempty, other⟩ := names name known
  obtain ⟨c, more, rfl⟩ := List.exists_cons_of_ne_nil nonempty
  exact opening (fun same => other (congrArg some same)) opensNone

theorem image {source alt : Text} {inSource inAlt : List Text} (first : Shows source inSource)
    (second : Shows alt inAlt) : Shows (Tag.image source alt).write (inSource ++ inAlt) := by
  have start : Shows "<img src=\"" [] := opening (by decide) (by decide)
  have middle : Shows "\" alt=\"" [] := quiet (by decide)
  have closing : Shows "\" />" [] := quiet (by decide)
  have whole := (((start.append first).append middle).append second).append closing
  rwa [List.nil_append, List.append_nil, List.append_nil] at whole

end Shows

namespace Tag

/-- The address of an anchor. -/
def address? : Tag → Option Text
  | .anchor address => some address
  | _ => none

theorem IsWellFormed.shows {tag : Tag} (wellFormed : tag.IsWellFormed) :
    Shows tag.write tag.address?.toList := by
  cases tag with
  | bare name => exact .bare wellFormed
  | anchor address => exact .anchor wellFormed.not_mem.2 wellFormed.not_mem.1
  | image source alt => exact .image (.quiet wellFormed.1.not_mem.1) (.quiet wellFormed.2.not_mem.1)

end Tag

/-- The addresses of the anchors among the tags of a text. -/
def anchors (html : Text) : List Text := (Tag.pattern.tokens html).filterMap Tag.address?

/-- In markup every anchor is one of the tags. -/
theorem IsMarkup.anchors_eq {html : Text} (markup : IsMarkup html) : anchors html = addresses html := by
  unfold anchors Pattern.tokens Pattern.pieces
  unfold IsMarkup Pattern.pieces at markup
  generalize none = before at markup ⊢
  fun_induction Pattern.split Tag.pattern before html with
  | case1 => rfl
  | case2 before c text tag rest taken ih =>
      obtain ⟨whole, wellFormed⟩ := Tag.eq_write_of_read taken
      have others := ih fun member => markup (.tail _ member)
      rw [whole, wellFormed.shows, ← others]
      cases tag <;> rfl
  | case3 before c text passed ih =>
      have opensNone : c ≠ '<' := fun same => markup (same ▸ List.mem_cons_self)
      have others := ih fun member => markup (.tail _ member)
      rw [addresses, addressAt_cons opensNone, ← others]
      rfl

/-- Wherever this text stands, it is markup just if all these texts can be values of attributes. -/
structure HoldsValues (html : Text) (values : List Text) : Prop where
  guarded : Guarded html
  eq_nil : html = [] → values = []
  isMarkup : ∀ rest, IsMarkup (html ++ rest) ↔ (∀ value ∈ values, Tag.IsValue value) ∧ IsMarkup rest

namespace HoldsValues

variable {left right html : Text} {leftValues rightValues values : List Text} {c : Char}

theorem nil : HoldsValues [] [] where
  guarded := .of_free List.not_mem_nil
  eq_nil := fun _ => rfl
  isMarkup := by simp

theorem isMarkup_iff (holds : HoldsValues html values) :
    IsMarkup html ↔ ∀ value ∈ values, Tag.IsValue value := by
  have whole := holds.isMarkup []
  rwa [List.append_nil, and_iff_left isMarkup_nil] at whole

theorem append (first : HoldsValues left leftValues) (second : HoldsValues right rightValues) :
    HoldsValues (left ++ right) (leftValues ++ rightValues) where
  guarded := first.guarded.append second.guarded
  eq_nil := by
    intro empty
    rw [List.append_eq_nil_iff] at empty
    rw [first.eq_nil empty.1, second.eq_nil empty.2]
    rfl
  isMarkup := by
    intro rest
    rw [List.append_assoc, first.isMarkup, second.isMarkup, List.forall_mem_append, and_assoc]

theorem char (opensNone : c ≠ '<') (closesNone : c ≠ '>') : HoldsValues [c] [] where
  guarded := .of_free (by simpa using Ne.symm closesNone)
  eq_nil := nofun
  isMarkup := by
    intro rest
    rw [List.singleton_append, isMarkup_of_not_read (Tag.read_cons opensNone rest)]
    simp [opensNone]

theorem bare {name : Text} (known : name ∈ Tag.names) : HoldsValues (Tag.bare name).write [] where
  guarded := .of_opening _
  eq_nil := nofun
  isMarkup := by
    intro rest
    rw [isMarkup_of_read (Tag.read_bare known rest)]
    simp

theorem anchor {address : Text} (isValue : Tag.IsValue address) :
    HoldsValues (Tag.anchor address).write [] where
  guarded := .of_opening _
  eq_nil := nofun
  isMarkup := by
    intro rest
    rw [isMarkup_of_read (Tag.read_anchor isValue rest)]
    simp

theorem image {source alt : Text} (inSource : Guarded source) (inAlt : Guarded alt)
    (fits : (∀ value ∈ values, Tag.IsValue value) ↔ Tag.IsValue source ∧ Tag.IsValue alt) :
    HoldsValues (Tag.image source alt).write values where
  guarded := .of_opening _
  eq_nil := nofun
  isMarkup := by
    intro rest
    rw [fits]
    by_cases fit : Tag.IsValue source ∧ Tag.IsValue alt
    · rw [isMarkup_of_read (Tag.read_image fit.1 fit.2 rest)]
      simp [fit]
    · have passed : Tag.read ((Tag.image source alt).write ++ rest) = none := by
        refine Option.eq_none_iff_forall_ne_some.mpr fun found taken => fit ?_
        exact Tag.isValue_of_read_image inSource inAlt taken
      have refused : ¬IsMarkup ((Tag.image source alt).write ++ rest) := by
        rw [Tag.write_image_append] at passed ⊢
        exact fun markup => ((isMarkup_of_not_read passed).mp markup).1 rfl
      simp [refused, fit]

end HoldsValues

end Gamebook.Markup
