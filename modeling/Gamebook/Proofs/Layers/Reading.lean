import Gamebook.Layers.Import
import Gamebook.Proofs.Layers.Spelling
import Gamebook.Proofs.Text.Items

/-!
How import statements are read from a source. They are found among other lines, however deep they are nested,
and whatever blanks and remarks stand between their words.
-/

namespace Gamebook.Layers

open Gamebook.Text

variable {line ending text : Text} {tokens item listing : List Token} {items : List (List Token)}
  {statement : Import} {imports : List Import} {module : ModuleName} {parts names : List Text}

/-- The tokens of a name, its parts with dots between them. -/
def nameTokens (parts : List Text) : List Token := (parts.map Token.word).intersperse (.sign '.')

def IsPart (part : Text) : Prop := part ≠ "as".toList ∧ part ≠ "import".toList

/-- An item of an import names this, perhaps under another name, or everything. -/
inductive IsItem : List Token → ModuleName → Prop
  | plain {parts : List Text} (each : ∀ part ∈ parts, IsPart part) :
      IsItem (nameTokens parts) (parts.map plain)
  | renamed {parts : List Text} (each : ∀ part ∈ parts, IsPart part) (other : Text) :
      IsItem (nameTokens parts ++ [.word "as".toList, .word other]) (parts.map plain)
  | star : IsItem [.sign '*'] [['*']]

/-- The tokens list these items, perhaps in parentheses. -/
inductive AreListed (items : List (List Token)) : List Token → Prop
  | plain : AreListed items (List.intercalate [.sign ','] items)
  | enclosed {tokens : List Token} (listed : AreListed items tokens) :
      AreListed items (.sign '(' :: tokens ++ [.sign ')'])
  | trailing {tokens : List Token} (listed : AreListed items tokens) :
      AreListed items (.sign '(' :: tokens ++ [.sign ',', .sign ')'])

/-- The tokens are those of the statement. -/
inductive Import.IsSpelt : List Token → Import → Prop
  | modules {items : List (List Token)} {modules : List ModuleName} (some_item : items ≠ [])
      (each : List.Forall₂ IsItem items modules) :
      IsSpelt (.word "import".toList :: List.intercalate [.sign ','] items) (.modules modules)
  | members {dots : Nat} {parts : List Text} {items : List (List Token)} {names : List Text}
      {listing : List Token} (ofBase : ∀ part ∈ parts, IsPart part) (some_item : items ≠ [])
      (each : List.Forall₂ (fun item name => IsItem item [name]) items names)
      (listed : AreListed items listing) :
      IsSpelt (.word "from".toList :: List.replicate dots (.sign '.') ++ nameTokens parts ++
        .word "import".toList :: listing) (.members dots (parts.map plain) names)

/-- What a statement with these tokens imports, if it is an import at all. -/
inductive Gives : List Token → List Import → Prop
  | imports {tokens : List Token} {statement : Import} (spelt : Import.IsSpelt tokens statement) :
      Gives tokens [statement]
  | other {tokens : List Token}
      (begins : ∀ word ∈ ["import".toList, "from".toList], tokens.head? ≠ some (.word word)) :
      Gives tokens []

/-- The source is made of statements, of which these are its imports. -/
inductive IsWritten : Text → List Import → Prop
  | last {line : Text} {tokens : List Token} {imports : List Import} (spells : Spells 0 line tokens)
      (gives : Gives tokens imports) : IsWritten line imports
  | more {line ending rest : Text} {tokens : List Token} {imports later : List Import}
      (spells : Spells 0 line tokens) (gives : Gives tokens imports) (ends : IsEnding ending)
      (written : IsWritten rest later) : IsWritten (line ++ (ending ++ rest)) (imports ++ later)

/-- The statements of a source are read one by one. -/
theorem ofSource_append (spells : Spells 0 line tokens) (ends : IsEnding ending) (rest : Text) :
    Import.ofSource (line ++ (ending ++ rest)) =
      (Import.ofStatement? tokens).toList ++ Import.ofSource rest := by
  unfold Import.ofSource
  rw [spells.readTokens_append (stops_ending ends rest), readTokens_ending ends, splitOn_append_cons,
    splitOn_of_not_mem spells.ending_not_mem, List.filterMap_append]
  cases read : Import.ofStatement? tokens <;> simp [read]

theorem ofSource_last (spells : Spells 0 line tokens) :
    Import.ofSource line = (Import.ofStatement? tokens).toList := by
  have whole := @Spells.readTokens_append _ _ [] _ spells nofun
  rw [List.append_nil, show readTokens 0 [] = [] by rw [readTokens.eq_def], List.append_nil] at whole
  unfold Import.ofSource
  rw [whole, splitOn_of_not_mem spells.ending_not_mem]
  cases read : Import.ofStatement? tokens <;> simp [read]

theorem mem_nameTokens {token : Token} (member : token ∈ nameTokens parts) :
    token = .sign '.' ∨ ∃ part ∈ parts, token = .word part := by
  induction parts with
  | nil => cases member
  | cons part parts ih =>
      cases parts with
      | nil => exact .inr ⟨part, List.mem_cons_self, List.mem_singleton.mp member⟩
      | cons next parts =>
          rcases List.mem_cons.mp member with rfl | member
          · exact .inr ⟨part, List.mem_cons_self, rfl⟩
          · rcases List.mem_cons.mp member with rfl | member
            · exact .inl rfl
            · exact (ih member).imp_right fun ⟨other, inside, same⟩ => ⟨other, .tail _ inside, same⟩

theorem filterMap_nameTokens (parts : List Text) :
    (nameTokens parts).filterMap Token.part? = parts.map plain := by
  induction parts with
  | nil => rfl
  | cons part parts ih =>
      cases parts with
      | nil => rfl
      | cons next parts => exact congrArg _ ih

theorem nameOf_nameTokens (each : ∀ part ∈ parts, IsPart part) (more : List Token)
    (stops : ∀ token, more.head? = some token → token = .word "as".toList) :
    Import.nameOf (nameTokens parts ++ more) = parts.map plain := by
  have kept : ∀ token ∈ nameTokens parts, decide (token ≠ .word "as".toList) = true := by
    intro token member
    rcases mem_nameTokens member with rfl | ⟨part, inside, rfl⟩
    · decide
    · exact decide_eq_true fun same => (each part inside).1 (Token.word.inj same)
  unfold Import.nameOf
  rw [(takeWhile_append_of_head? kept fun token first => by simp [stops token first]).1,
    filterMap_nameTokens]

theorem IsItem.nameOf (names : IsItem item module) : Import.nameOf item = module := by
  cases names with
  | plain each =>
      have named := nameOf_nameTokens each [] nofun
      rwa [List.append_nil] at named
  | renamed each other => exact nameOf_nameTokens each _ fun token first => (Option.some.inj first).symm
  | star => rfl

theorem IsItem.comma_not_mem (names : IsItem item module) : .sign ',' ∉ item := by
  have apart {parts : List Text} : Token.sign ',' ∉ nameTokens parts := by
    intro member
    rcases mem_nameTokens member with same | ⟨part, _, same⟩
    · exact absurd (Token.sign.inj same) (by decide)
    · cases same
  cases names with
  | plain each => exact apart
  | renamed each other => simpa using apart
  | star => decide

theorem splitOn_items (some_item : items ≠ []) (each : ∀ item ∈ items, ∃ module, IsItem item module) :
    splitOn (.sign ',') (List.intercalate [.sign ','] items) = items := by
  refine splitOn_intercalate some_item fun item member => ?_
  obtain ⟨module, names⟩ := each item member
  exact names.comma_not_mem

theorem head?_nameTokens (more : List Token) {token : Token}
    (first : (nameTokens parts ++ .word "import".toList :: more).head? = some token) : token ≠ .sign '.' := by
  cases parts with
  | nil => exact Option.some.inj first ▸ nofun
  | cons part parts => cases parts <;> exact Option.some.inj first ▸ nofun

theorem cut_dots (dots : Nat) {more : List Token}
    (stops : ∀ token, more.head? = some token → token ≠ .sign '.') :
    (List.replicate dots (Token.sign '.') ++ more).takeWhile (· = .sign '.') = List.replicate dots (.sign '.') ∧
      (List.replicate dots (Token.sign '.') ++ more).dropWhile (· = .sign '.') = more :=
  takeWhile_append_of_head? (fun _ member => decide_eq_true (List.eq_of_mem_replicate member))
    fun token first => decide_eq_false (stops token first)

theorem cut_base (each : ∀ part ∈ parts, IsPart part) (more : List Token) :
    (nameTokens parts ++ .word "import".toList :: more).takeWhile (fun token =>
        !decide (token = .word "import".toList)) = nameTokens parts ∧
      (nameTokens parts ++ .word "import".toList :: more).dropWhile (fun token =>
        !decide (token = .word "import".toList)) = .word "import".toList :: more := by
  refine takeWhile_append_of_head? (fun token member => ?_) fun token first => ?_
  · rcases mem_nameTokens member with rfl | ⟨part, inside, rfl⟩
    · decide
    · simpa using (each part inside).2
  · simp [← Option.some.inj first]

theorem filterMap_items (each : List.Forall₂ (fun item name => IsItem item [name]) items names) :
    items.filterMap (fun item => (Import.nameOf item).head?) = names := by
  induction each with
  | nil => rfl
  | cons first _ ih =>
      rw [List.filterMap_cons, first.nameOf, ih]
      rfl

/-- The names that items stand for, without those that stand for none. -/
def namesIn (tokens : List Token) : List Text :=
  (splitOn (.sign ',') tokens).filterMap fun item => (Import.nameOf item).head?

def isOutside (token : Token) : Bool := token ≠ .sign '(' && token ≠ .sign ')'

theorem nameOf_cons {token : Token} (other : token ≠ .word "as".toList) (tokens : List Token) :
    Import.nameOf (token :: tokens) = (Token.part? token).toList ++ Import.nameOf tokens := by
  unfold Import.nameOf
  rw [List.takeWhile_cons, if_pos (decide_eq_true other), List.filterMap_cons]
  cases token.part? <;> rfl

theorem nameOf_filter (tokens : List Token) :
    Import.nameOf (tokens.filter isOutside) = Import.nameOf tokens := by
  induction tokens with
  | nil => rfl
  | cons token tokens ih =>
      by_cases other : token = .word "as".toList
      · subst other
        rfl
      · by_cases kept : isOutside token = true
        · rw [List.filter_cons_of_pos kept, nameOf_cons other, nameOf_cons other, ih]
        · have bracket : token = .sign '(' ∨ token = .sign ')' := by
            simpa [isOutside, or_iff_not_imp_left] using kept
          have nameless : token.part? = none := by rcases bracket with rfl | rfl <;> rfl
          rw [List.filter_cons_of_neg kept, nameOf_cons other, nameless, ih, Option.toList_none,
            List.nil_append]

/-- Parentheses do not matter to the names between them. -/
theorem namesIn_congr (same : tokens.filter isOutside = listing.filter isOutside) :
    namesIn tokens = namesIn listing := by
  have outside (tokens : List Token) : namesIn (tokens.filter isOutside) = namesIn tokens := by
    unfold namesIn
    rw [splitOn_filter (by decide), List.filterMap_map]
    exact List.filterMap_congr fun item _ => congrArg List.head? (nameOf_filter item)
  rw [← outside, same, outside]

theorem namesIn_append_comma (tokens : List Token) : namesIn (tokens ++ [.sign ',']) = namesIn tokens := by
  unfold namesIn
  rw [splitOn_append_cons, List.filterMap_append]
  exact List.append_nil _

theorem namesIn_listed (some_item : items ≠ [])
    (each : List.Forall₂ (fun item name => IsItem item [name]) items names)
    (listed : AreListed items listing) : namesIn listing = names := by
  induction listed with
  | plain =>
      unfold namesIn
      rw [splitOn_items some_item fun item member => ?_, filterMap_items each]
      have ⟨name, _, named⟩ := exists_mem_of_forall₂ each.flip member
      exact ⟨_, named⟩
  | enclosed _ ih => exact (namesIn_congr (by simp [isOutside])).trans ih
  | @trailing tokens _ ih =>
      have within : namesIn (.sign '(' :: tokens ++ [.sign ',', .sign ')']) =
          namesIn (tokens ++ [.sign ',']) := namesIn_congr (by simp [isOutside])
      rw [within, namesIn_append_comma, ih]

theorem readMembers?_eq {dots : Nat} (ofBase : ∀ part ∈ parts, IsPart part) (listing : List Token) :
    Import.readMembers? (List.replicate dots (.sign '.') ++ (nameTokens parts ++
      .word "import".toList :: listing)) =
        some (.members dots (parts.map plain) (namesIn listing)) := by
  obtain ⟨dotsTaken, dotsLeft⟩ := cut_dots dots fun token first => @head?_nameTokens parts listing token first
  obtain ⟨taken, left⟩ := cut_base ofBase listing
  have base := nameOf_nameTokens ofBase [] nofun
  rw [List.append_nil] at base
  unfold Import.readMembers?
  simp only [dotsTaken, dotsLeft, taken, left, base, List.length_replicate]
  rfl

theorem ofStatement?_import (tokens : List Token) : Import.ofStatement? (.word "import".toList :: tokens) =
    some (.modules ((splitOn (.sign ',') tokens).map Import.nameOf)) := by
  simp only [Import.ofStatement?, if_true]

theorem ofStatement?_from (tokens : List Token) :
    Import.ofStatement? (.word "from".toList :: tokens) = Import.readMembers? tokens := by
  simp only [Import.ofStatement?, if_true, if_neg (show "from".toList ≠ "import".toList by decide)]

theorem ofStatement?_of_isSpelt (spelt : Import.IsSpelt tokens statement) :
    Import.ofStatement? tokens = some statement := by
  cases spelt with
  | @modules items modules some_item each =>
      have cut := splitOn_items some_item fun item member =>
        have ⟨module, _, names⟩ := exists_mem_of_forall₂ each.flip member
        ⟨module, names⟩
      have named : items.map Import.nameOf = modules := by
        rw [map_eq_of_forall₂ each fun item module names => names.nameOf, List.map_id']
      rw [ofStatement?_import, cut, named]
  | @members dots parts items names listing ofBase some_item each listed =>
      rw [List.cons_append, List.cons_append, List.append_assoc, ofStatement?_from, readMembers?_eq ofBase,
        namesIn_listed some_item each listed]

theorem ofStatement?_of_other
    (begins : ∀ word ∈ ["import".toList, "from".toList], tokens.head? ≠ some (.word word)) :
    Import.ofStatement? tokens = none := by
  unfold Import.ofStatement?
  split
  · rename_i word rest
    have noImport : word ≠ "import".toList := fun same => begins _ List.mem_cons_self (same ▸ rfl)
    have noFrom : word ≠ "from".toList := fun same =>
      begins _ (.tail _ List.mem_cons_self) (same ▸ rfl)
    rw [if_neg noImport, if_neg noFrom]
  · rfl

theorem Gives.toList_ofStatement? (gives : Gives tokens imports) :
    (Import.ofStatement? tokens).toList = imports := by
  cases gives with
  | imports spelt => rw [ofStatement?_of_isSpelt spelt, Option.toList_some]
  | other begins => rw [ofStatement?_of_other begins, Option.toList_none]

/-- The import statements of a source are read, and no others. -/
theorem ofSource_of_isWritten (written : IsWritten text imports) : Import.ofSource text = imports := by
  induction written with
  | last spells gives => rw [ofSource_last spells, gives.toList_ofStatement?]
  | more spells gives ends _ ih => rw [ofSource_append spells ends, gives.toList_ofStatement?, ih]

end Gamebook.Layers
