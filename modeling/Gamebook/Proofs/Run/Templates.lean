import Gamebook.Proofs.Effects
import Gamebook.Proofs.Files.BookPlace
import Gamebook.Run.Build

/-!
The templates that a directory gives, and what is taken for those that it does not. What is read, what replaces
the packaged templates and what is remarked on as missing go by the same files, but for those that are empty.
-/

namespace Gamebook.Files

open Gamebook.Text

variable {entry other : Option Entry} {given : Option Text}

/-- What an entry has for a text: none if it is no file, and otherwise that of the file, each line ending in a
line feed. -/
inductive HoldsText (entry : Option Entry) : Option Text → Prop
  | missing (nothing : ∀ content, entry ≠ some (.file content)) : HoldsText entry none
  | file {content : Content} {whole : Text} (there : entry = some (.file content))
      (decoded : Utf8.decode content.toBytes = .ok whole) : HoldsText entry (some (unifyBreaks whole))

theorem HoldsText.congr (holds : HoldsText entry given)
    (same : ∀ content, entry = some (.file content) ↔ other = some (.file content)) :
    HoldsText other given := by
  cases holds with
  | missing nothing => exact .missing fun content there => nothing content ((same content).mpr there)
  | file there decoded => exact .file ((same _).mp there) decoded

theorem exists_holdsText
    (decodes : ∀ content, entry = some (.file content) → ∃ whole, Utf8.decode content.toBytes = .ok whole) :
    ∃ given, HoldsText entry given := by
  by_cases file : ∃ content, entry = some (.file content)
  · obtain ⟨content, there⟩ := file
    obtain ⟨whole, decoded⟩ := decodes content there
    exact ⟨_, .file there decoded⟩
  · exact ⟨none, .missing (not_exists.mp file)⟩

end Gamebook.Files

namespace Gamebook.Template

open Gamebook.Text

variable {α : Type} {compile : Text → Except Fault α} {packaged value : α} {given : Option Text}
  {overrides : Overrides} {templates : PageTemplates}

/-- A text that is given replaces what is packaged, unless it is empty. -/
inductive IsChosen (compile : Text → Except Fault α) (packaged : α) : Option Text → α → Prop
  | missing : IsChosen compile packaged none packaged
  | empty : IsChosen compile packaged (some []) packaged
  | given {text : Text} {value : α} (some_text : text ≠ []) (compiled : compile text = .ok value) :
      IsChosen compile packaged (some text) value

/-- A text that is given replaces what is packaged, whatever it is. -/
inductive IsGiven (compile : Text → Except Fault α) (packaged : α) : Option Text → α → Prop
  | missing : IsGiven compile packaged none packaged
  | given {text : Text} {value : α} (compiled : compile text = .ok value) :
      IsGiven compile packaged (some text) value

structure PageTemplates.AreChosen (overrides : Overrides) (templates : PageTemplates) : Prop where
  index : IsChosen ofText Packaged.index overrides.index templates.index
  scene : IsChosen ofText Packaged.scene overrides.scene templates.scene
  styles : IsChosen .ok Packaged.styles overrides.styles templates.styles

structure PageTemplates.AreGiven (overrides : Overrides) (templates : PageTemplates) : Prop where
  index : IsGiven ofText Packaged.index overrides.index templates.index
  scene : IsGiven ofText Packaged.scene overrides.scene templates.scene
  styles : IsGiven .ok Packaged.styles overrides.styles templates.styles

/-- No text that is given is empty. -/
def Overrides.IsFilled (overrides : Overrides) : Prop :=
  overrides.index ≠ some [] ∧ overrides.scene ≠ some [] ∧ overrides.styles ≠ some []

theorem isChosen_none : IsChosen compile packaged none value ↔ packaged = value :=
  ⟨fun | .missing => rfl, fun same => same ▸ .missing⟩

theorem isChosen_some {text : Text} : IsChosen compile packaged (some text) value ↔
    (if text = [] then .ok packaged else compile text) = .ok value := by
  split
  · rename_i nothing
    subst nothing
    exact ⟨fun | .empty => rfl | .given proper _ => absurd rfl proper, fun same => by cases same; exact .empty⟩
  · rename_i proper
    exact ⟨fun | .empty => absurd rfl proper | .given _ compiled => compiled, .given proper⟩

theorem nodesOr_eq_ok {packaged nodes : List Node} :
    PageTemplates.nodesOr packaged given = .ok nodes ↔ IsChosen ofText packaged given nodes := by
  cases given with
  | none => exact (Except.ok.injEq packaged nodes).to_iff.trans isChosen_none.symm
  | some text => exact isChosen_some.symm

theorem textOr_eq {packaged text : Text} :
    PageTemplates.textOr packaged given = text ↔ IsChosen .ok packaged given text := by
  cases given with
  | none => exact isChosen_none.symm
  | some own =>
      rw [isChosen_some, ← apply_ite Except.ok, Except.ok.injEq]
      rfl

theorem ofOverrides_eq_ok :
    PageTemplates.ofOverrides overrides = .ok templates ↔ PageTemplates.AreChosen overrides templates := by
  obtain ⟨index, scene, styles⟩ := templates
  unfold PageTemplates.ofOverrides
  constructor
  · intro made
    obtain ⟨_, ofIndex, made⟩ := bind_eq_ok.mp made
    obtain ⟨_, ofScene, made⟩ := bind_eq_ok.mp made
    cases made
    exact ⟨nodesOr_eq_ok.mp ofIndex, nodesOr_eq_ok.mp ofScene, textOr_eq.mp rfl⟩
  · rintro ⟨ofIndex, ofScene, ofStyles⟩
    rw [nodesOr_eq_ok.mpr ofIndex, nodesOr_eq_ok.mpr ofScene, textOr_eq.mpr ofStyles]
    rfl

theorem isChosen_iff_isGiven (filled : given ≠ some []) :
    IsChosen compile packaged given value ↔ IsGiven compile packaged given value := by
  constructor
  · intro chosen
    cases chosen with
    | missing => exact .missing
    | empty => exact absurd rfl filled
    | given _ compiled => exact .given compiled
  · intro isGiven
    cases isGiven with
    | missing => exact .missing
    | given compiled => exact .given (fun nothing => filled (congrArg some nothing)) compiled

/-- What is packaged is not what an empty text stands for. -/
theorem ne_empty_of_isGiven (differs : compile [] ≠ .ok packaged)
    (chosen : IsChosen compile packaged given value) (isGiven : IsGiven compile packaged given value) :
    given ≠ some [] := by
  rintro rfl
  cases chosen with
  | empty =>
      cases isGiven with
      | given compiled => exact differs compiled
  | given some_text _ => exact some_text rfl

theorem areChosen_iff_areGiven (filled : overrides.IsFilled) :
    PageTemplates.AreChosen overrides templates ↔ PageTemplates.AreGiven overrides templates := by
  obtain ⟨inIndex, inScene, inStyles⟩ := filled
  constructor
  · rintro ⟨index, scene, styles⟩
    exact ⟨(isChosen_iff_isGiven inIndex).mp index, (isChosen_iff_isGiven inScene).mp scene,
      (isChosen_iff_isGiven inStyles).mp styles⟩
  · rintro ⟨index, scene, styles⟩
    exact ⟨(isChosen_iff_isGiven inIndex).mpr index, (isChosen_iff_isGiven inScene).mpr scene,
      (isChosen_iff_isGiven inStyles).mpr styles⟩

theorem ofText_nil : ofText [] = .ok [] := by
  have parts : readParts [] (unifyBreaks []) = some [] := by
    rw [readParts.eq_def]
    rfl
  unfold ofText
  rw [parts]
  rfl

theorem isFilled_of_areGiven (chosen : PageTemplates.AreChosen overrides templates)
    (given : PageTemplates.AreGiven overrides templates) : overrides.IsFilled := by
  have page {packaged : List Node} (some_node : packaged ≠ []) : ofText [] ≠ .ok packaged := by
    rw [ofText_nil]
    exact fun same => some_node (Except.ok.inj same).symm
  have styled : Packaged.styles ≠ [] := by decide
  exact ⟨ne_empty_of_isGiven (page (by decide)) chosen.index given.index,
    ne_empty_of_isGiven (page (by decide)) chosen.scene given.scene,
    ne_empty_of_isGiven (fun same => styled (Except.ok.inj same).symm) chosen.styles given.styles⟩

end Gamebook.Template

namespace Gamebook.Run

open Gamebook.Text Gamebook.Files Gamebook.Template

variable {tree next : FileTree} {directory path : Path} {name : Text} {given : Option Text}
  {stored : Text → Option Entry} {overrides : Overrides}

/-- The texts of the templates are those that are stored under their names. -/
structure AreHeld (stored : Text → Option Entry) (overrides : Overrides) : Prop where
  index : HoldsText (stored "index.html") overrides.index
  scene : HoldsText (stored "scene.html") overrides.scene
  styles : HoldsText (stored "styles.css") overrides.styles

theorem isFile_eq_true : tree.isFile path = true ↔ ∃ content, tree.lookup? path = some (.file content) := by
  unfold FileTree.isFile
  split
  · rename_i content found
    exact ⟨fun _ => ⟨content, found⟩, fun _ => rfl⟩
  · rename_i other
    exact ⟨nofun, fun ⟨content, found⟩ => (other content found).elim⟩

theorem read_eq_ok {content : Content} :
    tree.read path = .ok content ↔ tree.lookup? path = some (.file content) := by
  unfold FileTree.read FileTree.lookup?
  cases tree.find path with
  | error fault => simp
  | ok spot =>
      cases spot with
      | free location => simp
      | taken location entry => cases entry <;> simp

theorem readText_eq_ok {text : Text} :
    tree.readText path = .ok text ↔ HoldsText (tree.lookup? path) (some text) := by
  unfold FileTree.readText
  constructor
  · intro read
    obtain ⟨content, found, read⟩ := bind_eq_ok.mp read
    obtain ⟨whole, decoded, read⟩ := bind_eq_ok.mp read
    cases read
    exact .file (read_eq_ok.mp found) (mapError_eq_ok.mp decoded)
  · rintro ⟨⟩
    rename_i content whole there decoded
    exact bind_eq_ok.mpr ⟨content, read_eq_ok.mpr there,
      bind_eq_ok.mpr ⟨whole, mapError_eq_ok.mpr decoded, rfl⟩⟩

theorem readTemplate_eq_ok : readTemplate directory name tree = (.ok given, next) ↔
    tree = next ∧ tree.testFault? (directory.child name) = none ∧
      HoldsText (tree.lookup? (directory.child name)) given := by
  unfold readTemplate
  rw [inspect_eq_ok, and_comm, bind_eq_ok]
  refine and_congr_right fun _ => ?_
  unfold FileTree.testFile FileTree.tested
  cases tree.testFault? (directory.child name) with
  | some fault => simp
  | none =>
      cases file : tree.isFile (directory.child name) with
      | true =>
          obtain ⟨content, found⟩ := isFile_eq_true.mp file
          simp only [Except.ok.injEq, exists_eq_left', if_true, bind_eq_ok, true_and]
          constructor
          · rintro ⟨text, read, ⟨⟩⟩
            exact readText_eq_ok.mp read
          · intro holds
            cases holds with
            | missing nothing => exact absurd found (nothing content)
            | file there decoded => exact ⟨_, readText_eq_ok.mpr (.file there decoded), rfl⟩
      | false =>
          have other : ∀ content, tree.lookup? (directory.child name) ≠ some (.file content) :=
            fun content found => Bool.false_ne_true (file ▸ isFile_eq_true.mpr ⟨content, found⟩)
          simp only [Except.ok.injEq, exists_eq_left', if_neg Bool.false_ne_true, true_and]
          constructor
          · rintro ⟨⟩
            exact .missing other
          · intro holds
            cases holds with
            | missing => rfl
            | file there _ => exact absurd there (other _)

theorem readTemplates_eq_ok : readTemplates directory tree = (.ok overrides, next) ↔
    tree = next ∧ (∀ name ∈ templateFiles, tree.testFault? (directory.child name) = none) ∧
      AreHeld (fun name => tree.lookup? (directory.child name)) overrides := by
  obtain ⟨index, scene, styles⟩ := overrides
  constructor
  · intro done
    obtain ⟨_, _, first, done⟩ := ok_of_andThen done
    obtain ⟨_, _, second, done⟩ := ok_of_andThen done
    obtain ⟨_, _, third, done⟩ := ok_of_andThen done
    cases done
    obtain ⟨rfl, answeredIndex, ofIndex⟩ := readTemplate_eq_ok.mp first
    obtain ⟨rfl, answeredScene, ofScene⟩ := readTemplate_eq_ok.mp second
    obtain ⟨rfl, answeredStyles, ofStyles⟩ := readTemplate_eq_ok.mp third
    refine ⟨rfl, ?_, ofIndex, ofScene, ofStyles⟩
    simp only [templateFiles, List.forall_mem_cons]
    exact ⟨answeredIndex, answeredScene, answeredStyles, List.forall_mem_nil _⟩
  · rintro ⟨rfl, answered, ofIndex, ofScene, ofStyles⟩
    have read : ∀ {name given}, name ∈ templateFiles →
        HoldsText (tree.lookup? (directory.child name)) given →
          (readTemplate directory name).run tree = (.ok given, tree) :=
      fun member holds => readTemplate_eq_ok.mpr ⟨rfl, answered _ member, holds⟩
    refine (run_andThen (read (by decide) ofIndex)).trans ?_
    refine (run_andThen (read (by decide) ofScene)).trans ?_
    exact run_andThen (read (by decide) ofStyles)

/-- Where the tests are answered and the files hold texts, the templates of a directory are read. -/
theorem exists_readTemplates
    (answered : ∀ name ∈ templateFiles, tree.testFault? (directory.child name) = none)
    (decodes : ∀ name ∈ templateFiles, ∀ content,
      tree.lookup? (directory.child name) = some (.file content) →
        ∃ whole, Utf8.decode content.toBytes = .ok whole) :
    ∃ overrides, readTemplates directory tree = (.ok overrides, tree) ∧
      AreHeld (fun name => tree.lookup? (directory.child name)) overrides := by
  obtain ⟨index, ofIndex⟩ := exists_holdsText (decodes "index.html".toList (by decide))
  obtain ⟨scene, ofScene⟩ := exists_holdsText (decodes "scene.html".toList (by decide))
  obtain ⟨styles, ofStyles⟩ := exists_holdsText (decodes "styles.css".toList (by decide))
  exact ⟨⟨index, scene, styles⟩, readTemplates_eq_ok.mpr ⟨rfl, answered, ofIndex, ofScene, ofStyles⟩,
    ofIndex, ofScene, ofStyles⟩

end Gamebook.Run
