import Mathlib.Data.List.Chain
import Mathlib.Data.List.Induction
import Gamebook.Proofs.Source.Items
import Gamebook.Proofs.Text.Lines
import Gamebook.Source.Key

/-!
How keys and names are spelt. A key is a row of words with single hyphens between them; the names in
what a link's target says have the same characters, and start with none of the hyphens.
-/

namespace Gamebook.Source

open Gamebook.Text Gamebook.Story

namespace Key

variable {text name : Text} {gap : Bool}

/-- One or more words of small letters and digits with single hyphens between them. -/
def IsKey (text : Text) : Prop :=
  ∃ words : List Text, words ≠ [] ∧ (∀ word ∈ words, word ≠ [] ∧ ∀ c ∈ word, isKept c = true) ∧
    text = join ['-'] words

/-- A character of a key. -/
def isInKey (c : Char) : Bool := isKept c || c = '-'

def AreNotHyphens (left right : Char) : Prop := left ≠ '-' ∨ right ≠ '-'

theorem not_isKept_hyphen : isKept '-' = false := by decide

/-- Characters of keys are a key if no hyphen stands at the ends or beside another one. -/
theorem isKey_of_isChain (nonempty : text ≠ []) (inKey : ∀ c ∈ text, isInKey c = true)
    (single : text.IsChain AreNotHyphens) (starts : text.head? ≠ some '-')
    (ends : text.getLast? ≠ some '-') : IsKey text := by
  induction text using List.twoStepInduction with
  | nil => exact absurd rfl nonempty
  | singleton c =>
      have kept : isKept c = true := by simpa [isInKey, show c ≠ '-' by simpa using starts] using inKey
      exact ⟨[[c]], by simp, by simpa using kept, by simp [join]⟩
  | cons_cons c d rest ihRest ihBehind =>
      have other : c ≠ '-' := by simpa using starts
      have kept : isKept c = true := by simpa [isInKey, other] using inKey c (by simp)
      obtain ⟨_, behind⟩ := List.isChain_cons_cons.mp single
      have endsBehind : (d :: rest).getLast? ≠ some '-' := by simpa using ends
      by_cases hyphen : d = '-'
      · subst hyphen
        have more : rest ≠ [] := by
          rintro rfl
          simp at endsBehind
        obtain ⟨e, others, rfl⟩ := List.exists_cons_of_ne_nil more
        have startsNext : e ≠ '-' := by simpa [AreNotHyphens] using (List.isChain_cons_cons.mp behind).1
        obtain ⟨words, some, spelt, whole⟩ := ihRest (by simp)
          (fun x member => inKey x (by simp [member])) (List.isChain_cons_cons.mp behind).2
          (by simpa using startsNext) (by simpa using ends)
        obtain ⟨word, words, rfl⟩ := List.exists_cons_of_ne_nil some
        refine ⟨[c] :: word :: words, by simp, ?_, by simp [join, whole]⟩
        simpa [kept] using spelt
      · obtain ⟨words, some, spelt, whole⟩ := ihBehind d (by simp)
          (fun x member => inKey x (.tail _ member)) behind (by simpa using hyphen) endsBehind
        obtain ⟨word, words, rfl⟩ := List.exists_cons_of_ne_nil some
        refine ⟨(c :: word) :: words, by simp, ?_, ?_⟩
        · rw [List.forall_mem_cons] at spelt ⊢
          exact ⟨⟨by simp, by simpa [kept] using spelt.1.2⟩, spelt.2⟩
        · cases words <;> simp_all [join]

theorem isInKey_of_mem_hyphenate {c : Char} (member : c ∈ hyphenate gap text) :
    isInKey c = true := by
  induction text generalizing gap with
  | nil =>
      cases gap with
      | false => simp [hyphenate] at member
      | true => simp [show c = '-' by simpa [hyphenate] using member, isInKey]
  | cons d text ih =>
      simp only [hyphenate] at member
      split at member
      · rename_i kept
        split at member
        · rcases List.mem_cons.mp member with rfl | member
          · simp [isInKey]
          · rcases List.mem_cons.mp member with rfl | later
            · simp [isInKey, kept]
            · exact ih later
        · rcases List.mem_cons.mp member with rfl | later
          · simp [isInKey, kept]
          · exact ih later
      · exact ih member

theorem ne_hyphen {c : Char} (kept : isKept c = true) : c ≠ '-' := by
  rintro rfl
  simp [not_isKept_hyphen] at kept

theorem isChain_hyphenate (gap : Bool) (text : Text) :
    (hyphenate gap text).IsChain AreNotHyphens := by
  induction text generalizing gap with
  | nil => cases gap <;> simp [hyphenate]
  | cons c text ih =>
      simp only [hyphenate]
      split
      · rename_i kept
        have single : (c :: hyphenate false text).IsChain AreNotHyphens :=
          List.isChain_cons.mpr ⟨fun _ _ => .inl (ne_hyphen kept), ih false⟩
        split
        · exact List.isChain_cons_cons.mpr ⟨.inr (ne_hyphen kept), single⟩
        · exact single
      · exact ih true

/-- Characters of keys, with no hyphen at the ends or beside another one. -/
structure IsHyphenated (text : Text) : Prop where
  inKey : ∀ c ∈ text, isInKey c = true
  single : text.IsChain AreNotHyphens
  starts : text.head? ≠ some '-'
  ends : text.getLast? ≠ some '-'

theorem isHyphenated_ofName (name : Text) : IsHyphenated (ofName name) := by
  obtain ⟨left, right, whole, _, _⟩ := exists_trim (· = '-') (hyphenate false (lower name))
  have single : (left ++ (ofName name ++ right)).IsChain AreNotHyphens :=
    whole ▸ isChain_hyphenate false (lower name)
  have inside : ∀ c ∈ ofName name, c ∈ hyphenate false (lower name) := fun c member =>
    whole ▸ List.mem_append_right left (List.mem_append_left right member)
  refine ⟨fun c member => isInKey_of_mem_hyphenate (inside c member), ?_, ?_, ?_⟩
  · exact single.right_of_append.left_of_append
  · exact head?_trim_ne (by decide) _
  · exact getLast?_trim_ne (by decide) _

/-- The key of a name is a key, unless the name has no letter or digit to keep. -/
theorem isKey_ofName (usable : ofName name ≠ []) : IsKey (ofName name) := by
  obtain ⟨inKey, single, starts, ends⟩ := isHyphenated_ofName name
  exact isKey_of_isChain usable inKey single starts ends

theorem isKept_toLower {c : Char} (alphanum : c.isAlphanum = true) : isKept c.toLower = true := by
  cases upper : c.isUpper with
  | true => simp [isKept, Destination.isLower_toLower upper]
  | false =>
      rw [Destination.toLower_eq upper]
      have kinds : (c.isUpper || c.isLower || c.isDigit) = true := alphanum
      simpa [isKept, upper] using kinds

theorem isInKey_toLower {c : Char} (inside : Destination.isNameChar c = true) :
    isInKey c.toLower = true := by
  simp only [Destination.isNameChar, Bool.or_eq_true, decide_eq_true_eq] at inside
  rcases inside with alphanum | rfl
  · simp [isInKey, isKept_toLower alphanum]
  · decide

theorem isUpper_of_isKept {c : Char} (kept : isKept c = true) : c.isUpper = false := by
  have letters : 'A'.val.toNat = 65 ∧ 'Z'.val.toNat = 90 ∧ 'a'.val.toNat = 97 := ⟨rfl, rfl, rfl⟩
  have digits : '9'.val.toNat = 57 := rfl
  have outside : ¬('A'.val.toNat ≤ c.val.toNat ∧ c.val.toNat ≤ 'Z'.val.toNat) := by
    simp only [isKept, Bool.or_eq_true] at kept
    rcases kept with lower | digit
    · have above : 'a'.val.toNat ≤ c.val.toNat := of_decide_eq_true (Bool.and_eq_true_iff.mp lower).1
      omega
    · have below : c.val.toNat ≤ '9'.val.toNat := of_decide_eq_true (Bool.and_eq_true_iff.mp digit).2
      omega
  exact decide_eq_false outside

theorem isAlphanum_of_isKept {c : Char} (kept : isKept c = true) : c.isAlphanum = true := by
  have kinds : (c.isLower || c.isDigit) = true := kept
  have letters : c.isAlphanum = (c.isUpper || c.isLower || c.isDigit) := rfl
  rw [letters, Bool.or_assoc, kinds, Bool.or_true]

/-- A character of a key is a small one that names may hold. -/
theorem shape_of_isInKey {c : Char} (inside : isInKey c = true) :
    Destination.isNameChar c = true ∧ c.toLower = c := by
  simp only [isInKey, Bool.or_eq_true, decide_eq_true_eq] at inside
  rcases inside with kept | rfl
  · refine ⟨?_, Destination.toLower_eq (isUpper_of_isKept kept)⟩
    simp [Destination.isNameChar, isAlphanum_of_isKept kept]
  · decide

end Key

namespace Destination

variable {name target text taken rest item : Text} {conditions : Conditions}
  {destination : Destination}

/-- One or more characters of keys. -/
def IsTarget (text : Text) : Prop := text ≠ [] ∧ ∀ c ∈ text, Key.isInKey c = true

/-- A small letter or digit with characters of keys behind it. -/
def IsLowName (text : Text) : Prop :=
  ∃ first rest, text = first :: rest ∧ Key.isKept first = true ∧ ∀ c ∈ rest, Key.isInKey c = true

theorem isTarget_lowerName (nonempty : name ≠ []) (inside : ∀ c ∈ name, isNameChar c = true) :
    IsTarget (lowerName name) := by
  refine ⟨by simpa [lowerName] using nonempty, fun c member => ?_⟩
  obtain ⟨original, known, rfl⟩ := List.mem_map.mp member
  exact Key.isInKey_toLower (inside original known)

/-- Where no line feed is, a name has none at its end. -/
theorem isPlainName_of_isName (named : isName name = true) (unbroken : '\n' ∉ name) :
    isPlainName name = true := by
  simp only [isName, Bool.or_eq_true, Bool.and_eq_true, decide_eq_true_eq] at named
  exact named.resolve_right fun ending => unbroken (List.mem_of_getLast? ending.1)

theorem isLowName_lowerName (named : isName name = true) (unbroken : '\n' ∉ name) :
    IsLowName (lowerName name) := by
  have plain := isPlainName_of_isName named unbroken
  cases name with
  | nil => simp [isPlainName] at plain
  | cons first rest =>
      simp only [isPlainName, Bool.and_eq_true, List.all_eq_true] at plain
      refine ⟨first.toLower, lowerName rest, rfl, Key.isKept_toLower plain.1, fun c member => ?_⟩
      obtain ⟨original, known, rfl⟩ := List.mem_map.mp member
      exact Key.isInKey_toLower (plain.2 original known)

theorem isLowName_of_readToggles? {names : List Text} (read : readToggles? text = some names)
    (unbroken : '\n' ∉ text) : ∀ name ∈ names, IsLowName name := by
  obtain ⟨named, rfl⟩ := (readsItems_toggles.read text names).mp read
  intro name member
  obtain ⟨item, listed, rfl⟩ := List.mem_map.mp member
  apply isLowName_lowerName (named item listed)
  exact fun broken => unbroken ((sublist_of_mem_splitOn listed).subset broken)

theorem isLowName_of_readConditions? (read : readConditions? text = some conditions)
    (unbroken : '\n' ∉ text) : ∀ name ∈ conditions.names, IsLowName name := by
  obtain ⟨named, rfl⟩ := (readsItems_conditions.read text conditions).mp read
  intro name member
  rw [Conditions.names_ofItems, List.mem_eraseDups, List.map_map] at member
  obtain ⟨item, listed, rfl⟩ := List.mem_map.mp member
  apply isLowName_lowerName (named item listed)
  exact fun broken => unbroken
    ((sublist_of_mem_splitOn listed).subset ((askedBy_sublist item).subset broken))

structure IsSpelt (destination : Destination) : Prop where
  scene : ∀ key, destination.scene = some key → IsTarget key
  conditions : ∀ name ∈ destination.conditions.names, IsLowName name
  toggles : ∀ name ∈ destination.toggles, IsLowName name

/-- What a target without line feeds says is spelt with characters of keys. -/
theorem isSpelt_of_read? (read : read? target = some destination) (unbroken : '\n' ∉ target) :
    destination.IsSpelt := by
  obtain ⟨scene, conditions, toggles, ending, parts⟩ := exists_parts read
  rw [parts.whole] at unbroken
  refine ⟨fun key named => ?_, ?_, ?_⟩
  · rw [parts.scene] at named
    obtain ⟨written, taken, rfl⟩ := Option.map_eq_some_iff.mp named
    exact isTarget_lowerName (parts.sceneFits written taken).1 (parts.sceneFits written taken).2
  · have conditionsRead := parts.conditions
    cases conditions with
    | none =>
        rw [← Option.some.inj conditionsRead]
        exact List.forall_mem_nil _
    | some text =>
        apply isLowName_of_readConditions? conditionsRead
        exact fun inside => unbroken (by simp [marked, inside])
  · have togglesRead := parts.toggles
    cases toggles with
    | none =>
        rw [← Option.some.inj togglesRead]
        exact List.forall_mem_nil _
    | some text =>
        apply isLowName_of_readToggles? togglesRead
        exact fun inside => unbroken (by simp [marked, inside])

end Destination

end Gamebook.Source
