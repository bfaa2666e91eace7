import Gamebook.Proofs.Run.Keeping
import Gamebook.Proofs.Run.Printing
import Gamebook.Proofs.Text.Encoding

/-!
Checking a text and rendering it find the same. A text to be checked comes as it stands, one to be
rendered from a file, where its lines may be broken in other ways and a mark may stand in front.
-/

namespace Gamebook.Story

open Gamebook.Text

theorem ofText_unmarked (text : Text) : ofText (Utf8.unmarked text) = ofText text := by
  cases text with
  | nil => rfl
  | cons c rest =>
      by_cases mark : c = Utf8.byteOrderMark
      · subst mark
        rfl
      · rw [Utf8.unmarked, if_neg mark]

theorem ofText_unifyBreaks (text : Text) : ofText (unifyBreaks text) = ofText text := by
  have kept : ∀ c, isBreak c = true → isByteOrderMark c = false := by
    intro c broken
    cases mark : isByteOrderMark c with
    | false => rfl
    | true =>
        rw [isByteOrderMark, decide_eq_true_eq] at mark
        subst mark
        cases broken
  have same (text : Text) : Source.Block.ofText (unifyBreaks text) = Source.Block.ofText text := by
    rw [Source.Block.ofText, lines_unifyBreaks, Source.Block.ofText]
  rw [ofText, dropWhile_unifyBreaks kept, same, ofText]

end Gamebook.Story

namespace Gamebook.Run

open Gamebook.Text Gamebook.Files

variable {surroundings other : Surroundings} {words otherWords : List Text} {config : Config}
  {world next otherWorld : World} {settings : Settings} {text : Text} {path : Path}
  {content : Content} {message : String}

theorem readMarkedText_of_encode {tree : FileTree} (there : tree.read path = .ok content)
    (written : content.toBytes = Utf8.encode text) :
    tree.readMarkedText path = .ok (unifyBreaks (Utf8.unmarked text)) := by
  have decoded : Utf8.decodeMarked content.toBytes = .ok (Utf8.unmarked text) := by
    rw [written, Utf8.decodeMarked_encode]
  exact bind_eq_ok.mpr ⟨content, there, bind_eq_ok.mpr ⟨_, mapError_eq_ok.mpr decoded, rfl⟩⟩

/-- The run checks this text, which stands on its standard input. -/
def LintsText (surroundings : Surroundings) (words : List Text) (world : World) (text : Text) : Prop :=
  ∃ config next, prepare surroundings words world = (.ok (.ready config), next) ∧
    config.format = Config.lintFormat ∧ surroundings.input = text

/-- The run gets as far as reading the story that it is to render as a site or a book, and then its
input file holds this text. -/
def RendersText (surroundings : Surroundings) (words : List Text) (world : World) (text : Text) :
    Prop :=
  ∃ config next path content, prepare surroundings words world = (.ok (.ready config), next) ∧
    (config.format = Config.htmlFormat ∨ config.format = Config.epubFormat) ∧
    config.inputPath = some path ∧ next.files.read path = .ok content ∧
    content.toBytes = Utf8.encode text

/-- The run ends because its story cannot be read. -/
def FailsToParse (ended : Except Escape Outcome × World) (message : String) : Prop :=
  ∃ outcome, ended.1 = .ok outcome ∧ FailsWhile "parsing story" message outcome ended.2

/-- A run that reads this text ends with the fault of the text, or with what the judgement of its story
comes to. -/
def JudgesAs (text : Text) (judged : Story.Checked → Outcome → World → Prop)
    (ended : Except Escape Outcome × World) : Prop :=
  (∃ fault outcome, Story.ofText text = .error fault ∧ ended.1 = .ok outcome ∧
      FailsWhile "parsing story" fault.message outcome ended.2) ∨
    ∃ checked outcome, Story.ofText text = .ok checked ∧ ended.1 = .ok outcome ∧
      judged checked outcome ended.2 ∧ ∀ message, ¬FailsWhile "parsing story" message outcome ended.2

theorem JudgesAs.failsToParse {judged : Story.Checked → Outcome → World → Prop}
    {ended : Except Escape Outcome × World} (judges : JudgesAs text judged ended) :
    FailsToParse ended message ↔ ∃ fault, Story.ofText text = .error fault ∧ fault.message = message := by
  rcases judges with ⟨fault, outcome, parsed, given, failed⟩ | ⟨checked, outcome, parsed, given, _, passed⟩
  · constructor
    · rintro ⟨other, alsoGiven, alsoFailed⟩
      rw [given] at alsoGiven
      cases alsoGiven
      have same := failed.1.symm.trans alsoFailed.1
      simp only [Outcome.mk.injEq, true_and, and_true] at same
      exact ⟨fault, parsed, same⟩
    · rintro ⟨other, alsoParsed, rfl⟩
      rw [parsed] at alsoParsed
      cases alsoParsed
      exact ⟨outcome, given, failed⟩
  · constructor
    · rintro ⟨other, alsoGiven, failed⟩
      rw [given] at alsoGiven
      cases alsoGiven
      exact absurd failed (passed message)
    · rintro ⟨fault, alsoParsed, _⟩
      rw [parsed] at alsoParsed
      cases alsoParsed

theorem judgesAs_of_readStory {ready : World} {lines : List String}
    {judged : Story.Checked → Outcome → World → Prop}
    (prepared : prepare surroundings words world = (.ok (.ready config), next))
    (read : readStory surroundings config next = ((Story.ofText text).mapError .story, ready))
    (printed : HasPrinted lines ready)
    (ensured : ∀ checked, Ensures (HasPrinted lines) (judge surroundings config checked)
      fun outcome world => judged checked outcome world ∧
        ∀ message, ¬FailsWhile "parsing story" message outcome world) :
    JudgesAs text judged (run surroundings words world) := by
  rw [run_of_ready prepared]
  cases parsed : Story.ofText text with
  | error fault =>
      rw [parsed] at read
      have ended : readAndJudge surroundings config next = fatal "parsing story" fault.message ready :=
        run_bind read
      rw [ended]
      exact .inl ⟨fault, _, parsed, rfl, (fatal_tells _ _ ready printed).2⟩
  | ok checked =>
      rw [parsed] at read
      have ended : readAndJudge surroundings config next = judge surroundings config checked ready :=
        run_bind read
      rw [ended]
      exact .inr ⟨checked, _, parsed, rfl, ensured checked ready printed⟩

theorem LintsText.judgesAs (lints : LintsText surroundings words world text) :
    JudgesAs text (fun checked outcome final => outcome = ⟨.linted, "", false⟩ ∧
      HasPrinted (world.output ++ (warningLines checked ++ orphanLines checked)) final)
      (run surroundings words world) := by
  obtain ⟨config, next, prepared, format, rfl⟩ := lints
  obtain ⟨asked, printed⟩ := (isHeldByLogging_hasPrinted world.output).ready rfl prepared
  have lint := isLint_of_resolve asked format
  have notRendering : config.mode ≠ .render := by
    intro rendering
    simp [Config.isLint, rendering] at lint
  have read : readStory surroundings config next =
      ((Story.ofText surroundings.input).mapError .story, next) := by
    have source : (readSource surroundings config).run next = (.ok surroundings.input, next) := by
      unfold readSource
      split
      · contradiction
      · rfl
    exact run_bind source
  refine judgesAs_of_readStory prepared read printed fun checked => ?_
  refine (judge_lint lint).weaken fun outcome final told => ⟨told, ?_⟩
  intro message failed
  rw [told.1] at failed
  cases failed.1

theorem RendersText.judgesAs (renders : RendersText surroundings words world text) :
    JudgesAs text (fun checked outcome final =>
      HasPrinted (world.output ++ (warningLines checked ++ orphanLines checked)) final ∧
        (outcome.ending = .blocked ↔ warningLines checked ≠ []))
      (run surroundings words world) := by
  obtain ⟨config, next, path, content, prepared, format, source, there, written⟩ := renders
  obtain ⟨asked, printed⟩ := (isHeldByLogging_hasPrinted world.output).ready rfl prepared
  obtain ⟨rendering, output⟩ := renders_of_resolve asked format
  have read : readStory surroundings config next =
      ((Story.ofText text).mapError .story, next.report .log "Parsing story...") := by
    rw [readStory_eq rendering source (readMarkedText_of_encode there written),
      Story.ofText_unifyBreaks, Story.ofText_unmarked]
  have still : HasPrinted world.output (next.report .log "Parsing story...") :=
    keepsPrinted_report (by decide) _ next printed
  refine judgesAs_of_readStory prepared read still fun checked => ?_
  refine (judge_render rendering ⟨output, format⟩).weaken ?_
  exact fun outcome final ⟨found, blocked, passed⟩ => ⟨⟨found, blocked⟩, passed⟩

/-- A text is found as faulty, and its story is found to have the same findings, whether it is checked
or read from a file to be rendered. Warnings alone stand in the way of rendering. -/
theorem lint_agrees_with_render (lints : LintsText surroundings words world text)
    (renders : RendersText other otherWords otherWorld text) :
    (∀ message, FailsToParse (run surroundings words world) message ↔
      FailsToParse (run other otherWords otherWorld) message) ∧
    ((∃ message, FailsToParse (run surroundings words world) message) ∨
      ∃ checked outcome, Story.ofText text = .ok checked ∧
        (run surroundings words world).1 = .ok ⟨.linted, "", false⟩ ∧
        (run surroundings words world).2.output =
          world.output ++ (warningLines checked ++ orphanLines checked) ∧
        (run other otherWords otherWorld).1 = .ok outcome ∧
        (run other otherWords otherWorld).2.output =
          otherWorld.output ++ (warningLines checked ++ orphanLines checked) ∧
        (outcome.ending = .blocked ↔ warningLines checked ≠ [])) := by
  have linted := lints.judgesAs
  have rendered := renders.judgesAs
  refine ⟨fun message => linted.failsToParse.trans rendered.failsToParse.symm, ?_⟩
  rcases linted with ⟨fault, outcome, _, given, failed⟩ | ⟨checked, outcome, parsed, given, ⟨rfl, found⟩, _⟩
  · exact .inl ⟨fault.message, outcome, given, failed⟩
  · rcases rendered with ⟨fault, _, refused, _⟩ | ⟨same, ended, alsoParsed, alsoGiven, ⟨printed, blocked⟩, _⟩
    · rw [parsed] at refused
      cases refused
    · rw [parsed] at alsoParsed
      cases alsoParsed
      exact .inr ⟨checked, ended, parsed, given, found, alsoGiven, printed, blocked⟩

/-- A text as it may stand in a file: with a mark in front, and two characters at the end of each line. A
link leads nowhere, and nothing leads to the second scene. -/
def markedSource : Text := "\ufeff# [A](/a)\r\n## A\r\n[Out](/b)\r\n## C\r\n".toList

def markedFiles : FileTree := ({} : FileTree).put [storyName] (.file (.ofText markedSource))

def markedSurroundings : Surroundings := { usualSurroundings with input := markedSource }

def checkingWords : List Text := ["--format", "lint"]

def checkingConfig : Config where
  mode := .lint
  format := Config.lintFormat

def siteConfig : Config where
  mode := .render
  format := Config.htmlFormat
  inputPath := some "story.md"
  output := some "site"

theorem lintsText_marked : LintsText markedSurroundings checkingWords { files := {} } markedSource :=
  ⟨checkingConfig, _, prepare_eq_ready rfl rfl (.inl rfl), rfl, rfl⟩

theorem rendersText_marked :
    RendersText usualSurroundings siteWords { files := markedFiles } markedSource :=
  ⟨siteConfig, _, "story.md", .ofText markedSource,
    prepare_eq_ready rfl rfl (.inr (by decide +kernel)), .inl rfl, rfl, by decide +kernel, rfl⟩

theorem lint_agrees_with_render_marked :
    LintsText markedSurroundings checkingWords { files := {} } markedSource ∧
      RendersText usualSurroundings siteWords { files := markedFiles } markedSource ∧
      (∀ message, FailsToParse (run markedSurroundings checkingWords { files := {} }) message ↔
        FailsToParse (run usualSurroundings siteWords { files := markedFiles }) message) ∧
      ((∃ message, FailsToParse (run markedSurroundings checkingWords { files := {} }) message) ∨
        ∃ checked outcome, Story.ofText markedSource = .ok checked ∧
          (run markedSurroundings checkingWords { files := {} }).1 = .ok ⟨.linted, "", false⟩ ∧
          (run markedSurroundings checkingWords { files := {} }).2.output =
            World.output { files := {} } ++ (warningLines checked ++ orphanLines checked) ∧
          (run usualSurroundings siteWords { files := markedFiles }).1 = .ok outcome ∧
          (run usualSurroundings siteWords { files := markedFiles }).2.output =
            World.output { files := markedFiles } ++ (warningLines checked ++ orphanLines checked) ∧
          (outcome.ending = .blocked ↔ warningLines checked ≠ [])) :=
  ⟨lintsText_marked, rendersText_marked, lint_agrees_with_render lintsText_marked rendersText_marked⟩

end Gamebook.Run
