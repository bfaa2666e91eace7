import Gamebook.Layers.Check
import Gamebook.Proofs.Layers.Naming
import Gamebook.Proofs.Layers.Reading

/-!
What the check of a file tells: each layer that the file must not import and that a statement of it leads to,
once and in the order of the names. How the statements are spelt, in which order they stand and how often does
not matter.
-/

namespace Gamebook.Files

/-- A path lies below a base by the names that lead from there to it. -/
theorem Path.relativeTo?_eq_some {path base : Path} {names : List Text} :
    path.relativeTo? base = some names ↔ path = base.below names := by
  obtain ⟨anchor, parts⟩ := path
  obtain ⟨baseAnchor, baseParts⟩ := base
  simp only [relativeTo?, below, Option.ite_none_right_eq_some, Bool.and_eq_true, decide_eq_true_eq,
    List.isPrefixOf_iff_prefix, Option.some.injEq, Path.mk.injEq, and_assoc]
  refine and_congr_right fun _ => ⟨?_, ?_⟩
  · rintro ⟨⟨rest, rfl⟩, rfl⟩
    rw [List.drop_left]
  · rintro rfl
    exact ⟨List.prefix_append _ _, List.drop_left⟩

end Gamebook.Files

namespace Gamebook.Layers

open Gamebook.Text Gamebook.Files

variable {tree : FileTree} {root file : Path} {own layer : Layer} {package : ModuleName}
  {imports left right : List Import} {directories names : List Text} {name front source : Text}
  {violation : Violation}

/-- The violations are those of a file with these statements. Each banned layer that a statement leads to has
one, and nothing else has any. -/
structure IsReport (file : Path) (own : Layer) (package : ModuleName) (imports : List Import)
    (found : List Violation) : Prop where
  told (violation : Violation) : violation ∈ found ↔ violation.file = file ∧ violation.layer = own ∧
    violation.imported ∈ own.banned ∧ ∃ statement ∈ imports, statement.LeadsTo package violation.imported
  sorted : found.Pairwise fun first second => first.imported.name < second.imported.name

/-- Both hold the same statements, each perhaps in another spelling, at another place or several times. -/
def AreRespelt (package : ModuleName) (left right : List Import) : Prop :=
  (∀ statement ∈ left, ∃ other ∈ right, statement.IsRespelt package other) ∧
    ∀ other ∈ right, ∃ statement ∈ left, statement.IsRespelt package other

theorem mem_importedLayers : layer ∈ importedLayers package imports ↔
    ∃ statement ∈ imports, statement.LeadsTo package layer := by
  simp only [importedLayers, List.mem_filterMap, List.mem_flatMap, layerOf?_eq_some, mem_named,
    Import.LeadsTo]
  exact ⟨fun ⟨module, ⟨statement, member, named⟩, inside⟩ => ⟨statement, member, module, named, inside⟩,
    fun ⟨statement, member, module, named, inside⟩ => ⟨module, ⟨statement, member, named⟩, inside⟩⟩

theorem Layer.mem_byName (layer : Layer) : layer ∈ byName := by cases layer <;> decide

theorem Layer.pairwise_byName : byName.Pairwise fun first second => first.name < second.name := by
  decide

theorem isReport_violations (file : Path) (own : Layer) (package : ModuleName) (imports : List Import) :
    IsReport file own package imports (violations file own package imports) where
  told violation := by
    obtain ⟨_, _, imported⟩ := violation
    simp only [violations, List.mem_map, List.mem_filter, Bool.and_eq_true, List.contains_iff_mem,
      mem_importedLayers, Violation.mk.injEq]
    constructor
    · rintro ⟨other, ⟨_, leads, banned⟩, rfl, rfl, rfl⟩
      exact ⟨rfl, rfl, banned, leads⟩
    · rintro ⟨rfl, rfl, banned, leads⟩
      exact ⟨imported, ⟨imported.mem_byName, leads, banned⟩, rfl, rfl, rfl⟩
  sorted := by
    unfold violations
    rw [List.pairwise_map]
    exact Layer.pairwise_byName.sublist List.filter_sublist

theorem leadsTo_of_areRespelt (respelt : AreRespelt package left right) :
    (∃ statement ∈ left, statement.LeadsTo package layer) ↔
      ∃ statement ∈ right, statement.LeadsTo package layer := by
  constructor
  · rintro ⟨statement, member, leads⟩
    obtain ⟨other, inside, same⟩ := respelt.1 statement member
    exact ⟨other, inside, (leadsTo_of_isRespelt same).mp leads⟩
  · rintro ⟨other, member, leads⟩
    obtain ⟨statement, inside, same⟩ := respelt.2 other member
    exact ⟨statement, inside, (leadsTo_of_isRespelt same).mpr leads⟩

theorem violations_of_areRespelt (respelt : AreRespelt package left right) :
    violations file own package left = violations file own package right := by
  unfold violations
  refine congrArg _ (List.filter_congr fun layer _ => ?_)
  rw [Bool.eq_iff_iff]
  simp only [Bool.and_eq_true, List.contains_iff_mem, mem_importedLayers, leadsTo_of_areRespelt respelt]

theorem stem_append (proper : front ≠ []) : stem (front ++ sourceEnding) = front := by
  have turned : (front ++ sourceEnding).reverse = 'y' :: 'p' :: '.' :: front.reverse := by
    simp [sourceEnding]
  have behind : ((front ++ sourceEnding).reverse.takeWhile (· ≠ '.')).length = 2 := by simp [turned]
  have before : ((front ++ sourceEnding).reverse.dropWhile (· ≠ '.')).length = front.length + 1 := by
    simp [turned]
  have some_front := List.length_pos_iff.mpr proper
  unfold stem
  rw [behind, before]
  dsimp only
  rw [if_neg (by simp; omega), Nat.add_sub_cancel, List.take_left]

/-- Only one name of a source has the stem that stands for its directory. -/
theorem eq_init_of_stem (python : sourceEnding <:+ name) (initial : stem name = initStem) :
    name = "__init__.py".toList := by
  obtain ⟨front, rfl⟩ := python
  by_cases proper : front = []
  · subst proper
    exact absurd initial (by decide)
  · rw [stem_append proper] at initial
    rw [initial]
    rfl

/-- The package of a source in these directories below the root: they themselves, and what the source has in its
own name in front of the last dot. -/
def packageIn (directories : List Text) (name : Text) : ModuleName :=
  packageName :: directories.flatMap (splitOn '.') ++ (splitOn '.' (stem name)).dropLast

theorem splitOn_packageName : splitOn '.' packageName = [packageName] := by decide

theorem packageOf_source (python : sourceEnding <:+ name) :
    packageOf (directories ++ [name]) = packageIn directories name := by
  unfold packageOf moduleName packageIn ModuleName.ofText
  simp only [List.getLast?_concat, List.dropLast_concat]
  by_cases initial : name = "__init__.py".toList
  · subst initial
    rw [if_pos rfl, show stem "__init__.py".toList = initStem by decide, if_pos rfl, List.append_nil,
      splitOn_join_flatMap (List.cons_ne_nil _ _), List.flatMap_cons, splitOn_packageName,
      show (splitOn '.' initStem).dropLast = [] by decide, List.append_nil]
    rfl
  · rw [if_neg (by simpa using initial), if_neg fun same => initial (eq_init_of_stem python same),
      splitOn_join_flatMap (by simp), List.flatMap_append, List.flatMap_cons, splitOn_packageName,
      List.flatMap_singleton, List.dropLast_append_of_ne_nil (splitOn_ne_nil _ _)]
    rfl

/-- Names without dots are the parts of the package themselves. -/
theorem packageIn_of_plain (plain : ∀ directory ∈ directories, '.' ∉ directory) (own : '.' ∉ stem name) :
    packageIn directories name = packageName :: directories := by
  have each : directories.flatMap (splitOn '.') = directories := by
    rw [List.flatMap_congr fun directory member => splitOn_of_not_mem (plain directory member)]
    exact List.flatMap_singleton' directories
  rw [packageIn, each, splitOn_of_not_mem own]
  simp

theorem Layer.name_plain (layer : Layer) : '.' ∉ layer.name := by cases layer <;> decide

theorem layerOfFile?_eq_some : layerOfFile? names = some own ↔
    ∃ rest, rest ≠ [] ∧ names = own.name :: rest := by
  match names with
  | [] => exact ⟨nofun, nofun⟩
  | [_] => simp [layerOfFile?]
  | directory :: next :: rest => simp [layerOfFile?, Layer.ofName?_eq_some]

theorem checkFile_of_outside
    (outside : ∀ own names, Layer.banned own ≠ [] → names ≠ [] → file ≠ root.below (own.name :: names)) :
    checkFile tree root file = .ok [] := by
  unfold checkFile
  split
  · rfl
  · rename_i below
    split
    · rfl
    · rename_i lies
      split
      · rfl
      · rename_i ruled
        obtain ⟨names, proper, rfl⟩ := layerOfFile?_eq_some.mp lies
        exact absurd (Path.relativeTo?_eq_some.mp below) (outside _ names ruled proper)

theorem checkFile_of_read (ruled : own.banned ≠ []) (proper : names ≠ [])
    (read : tree.readText (root.below (own.name :: names)) = .ok source) :
    checkFile tree root (root.below (own.name :: names)) =
      .ok (violations (root.below (own.name :: names)) own (packageOf (own.name :: names))
        (Import.ofSource source)) := by
  unfold checkFile
  rw [Path.relativeTo?_eq_some.mpr rfl]
  simp only [layerOfFile?_eq_some.mpr ⟨names, proper, rfl⟩, if_neg ruled, read]
  rfl

/-- A source below a root, in the directory of a layer that has rules. -/
structure RuledSource where
  layer : Layer
  directories : List Text
  name : Text
  ruled : layer.banned ≠ []
  python : sourceEnding <:+ name

namespace RuledSource

def path (root : Path) (source : RuledSource) : Path :=
  root.below (source.layer.name :: source.directories ++ [source.name])

/-- The package that dots in front of a base are counted from. -/
def home (source : RuledSource) : ModuleName :=
  packageIn (source.layer.name :: source.directories) source.name

theorem home_of_plain (source : RuledSource) (plain : ∀ directory ∈ source.directories, '.' ∉ directory)
    (own : '.' ∉ stem source.name) :
    source.home = packageName :: source.layer.name :: source.directories :=
  packageIn_of_plain (List.forall_mem_cons.mpr ⟨source.layer.name_plain, plain⟩) own

theorem checkFile_path {text : Text} (source : RuledSource)
    (read : tree.readText (source.path root) = .ok text) :
    checkFile tree root (source.path root) =
      .ok (violations (source.path root) source.layer source.home (Import.ofSource text)) := by
  have proper : source.directories ++ [source.name] ≠ [] := by simp
  have lies : packageOf (source.layer.name :: source.directories ++ [source.name]) = source.home :=
    packageOf_source source.python
  have checked := checkFile_of_read source.ruled proper read
  rw [List.cons_append] at lies
  rwa [lies] at checked

end RuledSource

/-- The check of a file tells of each layer that the file must not import, and that a statement of it leads to,
once and in the order of the names. The statements are those that are written in the file, and their dots count
from its directories. The check tells nothing of a file outside the root or of one in no layer with rules, and the
same of all files that say the same in other words. -/
theorem checkFile_reports (tree : FileTree) (root : Path) :
    (∀ text imports, IsWritten text imports → Import.ofSource text = imports) ∧
    (∀ file, (∀ own names, Layer.banned own ≠ [] → names ≠ [] → file ≠ root.below (own.name :: names)) →
      checkFile tree root file = .ok []) ∧
    ∀ source : RuledSource,
      ((∀ directory ∈ source.directories, '.' ∉ directory) → '.' ∉ stem source.name →
        source.home = packageName :: source.layer.name :: source.directories) ∧
      ∀ text, tree.readText (source.path root) = .ok text →
        ∃ found, checkFile tree root (source.path root) = .ok found ∧
          IsReport (source.path root) source.layer source.home (Import.ofSource text) found ∧
          ∀ (later : FileTree) (changed : Text), later.readText (source.path root) = .ok changed →
            AreRespelt source.home (Import.ofSource text) (Import.ofSource changed) →
              checkFile later root (source.path root) = .ok found := by
  refine ⟨fun _ _ => ofSource_of_isWritten, fun file => checkFile_of_outside,
    fun source => ⟨source.home_of_plain, fun text read => ?_⟩⟩
  refine ⟨_, source.checkFile_path read, isReport_violations _ _ _ _, fun later changed reread respelt => ?_⟩
  rw [source.checkFile_path reread, violations_of_areRespelt respelt]

def siblingsLine : Text := "from .. import (core, # not above\n  cli)"

theorem spells_siblingsLine : Spells 0 siblingsLine [.word "from".toList, .sign '.', .sign '.',
    .word "import".toList, .sign '(', .word "core".toList, .sign ',', .word "cli".toList, .sign ')'] := by
  refine @Spells.word_of_all 0 "from".toList " .. import (core, # not above\n  cli)".toList _ (by decide)
    (by decide +kernel) (by decide +kernel) (.blank (by decide) (fun _ => by decide) ?_)
  refine .sign (isSign_of_not (by decide +kernel)) (fun _ => by decide) ?_
  refine .sign (isSign_of_not (by decide +kernel)) (fun _ => by decide) ?_
  refine .blank (by decide) (fun _ => by decide) ?_
  refine @Spells.word_of_all 0 "import".toList " (core, # not above\n  cli)".toList _ (by decide)
    (by decide +kernel) (by decide +kernel) (.blank (by decide) (fun _ => by decide) ?_)
  refine .sign (isSign_of_not (by decide +kernel)) (fun _ => by decide) ?_
  refine @Spells.word_of_all 1 "core".toList ", # not above\n  cli)".toList _ (by decide)
    (by decide +kernel) (by decide +kernel) ?_
  refine .sign (isSign_of_not (by decide +kernel)) (fun _ => by decide) (.blank (by decide) nofun ?_)
  refine @Spells.remark 1 " not above".toList "  cli)".toList _ (by decide) ?_
  refine .blank (by decide) nofun (.blank (by decide) nofun (.blank (by decide) nofun ?_))
  refine @Spells.word_of_all 1 "cli".toList ")".toList _ (by decide) (by decide +kernel) (by decide +kernel) ?_
  exact .sign (isSign_of_not (by decide +kernel)) nofun .nil

def siblings : Import := .members 2 [] ["core".toList, "cli".toList]

/-- A source that imports its package's other layers, by a relative name and over two lines. -/
theorem isWritten_siblings : IsWritten (siblingsLine ++ ['\n']) [siblings] := by
  have names : List.Forall₂ (fun item name => IsItem item [name])
      [nameTokens ["core".toList], nameTokens ["cli".toList]] ["core".toList, "cli".toList] :=
    .cons (.plain (by simp [IsPart])) (.cons (.plain (by simp [IsPart])) .nil)
  have spelt := @Import.IsSpelt.members 2 [] _ _ _ nofun (List.cons_ne_nil _ _) names (.enclosed .plain)
  have rest := IsWritten.last .nil (.other nofun)
  exact .more spells_siblingsLine (.imports spelt) (.sign (by decide)) rest

def siblingsFiles : FileTree :=
  ((({} : FileTree).put ["src"] .directory).put ["src", "domain"] .directory).put
    ["src", "domain", "story.py"] (.file (.ofText (siblingsLine ++ ['\n'])))

def siblingsSource : RuledSource := ⟨.domain, [], "story.py", by decide, by decide⟩

theorem checkFile_reports_siblings :
    siblingsFiles.readText (siblingsSource.path "src") = .ok (siblingsLine ++ ['\n']) ∧
      ∃ found, checkFile siblingsFiles "src" (siblingsSource.path "src") = .ok found ∧
        IsReport (siblingsSource.path "src") .domain [packageName, "domain".toList] [siblings] found := by
  have read : siblingsFiles.readText (siblingsSource.path "src") = .ok (siblingsLine ++ ['\n']) := by
    decide +kernel
  obtain ⟨reads, -, reports⟩ := checkFile_reports siblingsFiles "src"
  obtain ⟨home, told⟩ := reports siblingsSource
  obtain ⟨found, checked, report, -⟩ := told _ read
  rw [home nofun (by decide), reads _ _ isWritten_siblings] at report
  exact ⟨read, found, checked, report⟩

end Gamebook.Layers
