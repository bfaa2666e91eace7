import Gamebook.Proofs.Run.CommandLine
import Gamebook.Proofs.Run.Escaping

/-!
What a command line is resolved to: help, a usage error, or a configuration, of which it is known from the
groups on the line what it asks for. Every configuration that comes about passes its own check.
-/

namespace Gamebook.Run

open Gamebook.Text Gamebook.Files

variable {settings : Settings} {words : List Text} {groups : List Group} {config : Config}
  {options : Options}

/-- The last value that groups give an option, unless it is blank. -/
def lastValue? (groups : List Group) (option : ValueOption) : Option Text :=
  Config.present (valuesOf groups option).getLast?

/-- There is nothing on the command line but, perhaps, one word that asks for help. -/
def AsksForHelp (words : List Text) : Prop := words = [] ∨ ∃ flag ∈ Config.helpFlags, words = [flag]

/-- Groups ask for a story to be checked, or for one that they name to be rendered. -/
def IsRequest (groups : List Group) : Prop :=
  ∃ format, lastValue? groups .format = some format ∧
    (format = Config.lintFormat ∨ lastValue? groups .input ≠ none)

/-- What a configuration is that groups ask for. -/
structure Config.IsAskedBy (settings : Settings) (groups : List Group) (config : Config) : Prop where
  format : lastValue? groups .format = some config.format
  mode : config.mode = .lint ↔ config.format = lintFormat
  input : config.mode = .render →
    ∃ input, lastValue? groups .input = some input ∧ config.inputPath = some (Path.ofText input)
  site : config.format = htmlFormat →
    config.output = some (((lastValue? groups .output).map Path.ofText).getD settings.htmlOutput)
  book : config.format = epubFormat →
    config.output = some (((lastValue? groups .output).map Path.ofText).getD epubOutput)
  other : config.format ≠ htmlFormat → config.format ≠ epubFormat → lastValue? groups .output = none →
    config.output = none
  templates : config.templateDirectory = (lastValue? groups .template).map Path.ofText
  images : config.imageDirectory = (lastValue? groups .images).map Path.ofText
  author : config.author = lastValue? groups .author
  bookId : config.bookId = lastValue? groups .bookId
  language : config.language = (lastValue? groups .language).getD usualLanguage
  speaks : strip config.language ≠ []
  debug : config.debug = true ↔ .flag ∈ groups
  accepted : config.checked = .ok config

/-- What a command line is answered with. -/
inductive IsAnswer (settings : Settings) (words : List Text) :
    Except Config.ResolveFault Config.Request → Prop
  | help (help : AsksForHelp words) : IsAnswer settings words (.ok .help)
  | refused {fault : UsageFault} (noHelp : ¬AsksForHelp words)
      (unclear : ∀ groups, words = Group.writeAll groups → ¬IsRequest groups) :
      IsAnswer settings words (.error (.usage fault))
  | config {groups : List Group} {config : Config} (noHelp : ¬AsksForHelp words)
      (whole : words = Group.writeAll groups) (request : IsRequest groups)
      (asked : config.IsAskedBy settings groups) : IsAnswer settings words (.ok (.run config))

theorem strip_of_present {value : Option Text} {text : Text} (given : Config.present value = some text) :
    strip text ≠ [] := by
  have kept := (Option.filter_eq_some_iff.mp given).2
  simpa using kept

theorem strip_language (groups : List Group) :
    strip ((lastValue? groups .language).getD Config.usualLanguage) ≠ [] := by
  cases given : lastValue? groups .language with
  | none => decide
  | some language => exact strip_of_present given

/-- Whoever asks for something has at least two words to say. -/
theorem IsRequest.length_writeAll (request : IsRequest groups) : 2 ≤ (Group.writeAll groups).length := by
  obtain ⟨format, given, -⟩ := request
  have named : valuesOf groups .format ≠ [] := by
    intro none
    rw [lastValue?, none] at given
    cases given
  obtain ⟨value, member⟩ := List.exists_mem_of_ne_nil _ named
  obtain ⟨group, inside, gives⟩ := List.mem_filterMap.mp member
  cases group with
  | flag => cases gives
  | pair option value =>
      have within : (Group.pair option value).write.Sublist (Group.writeAll groups) := by
        rw [Group.writeAll, List.flatMap_def]
        exact List.sublist_flatten_of_mem (List.mem_map_of_mem inside)
      exact within.length_le

theorem present_ofGroups (groups : List Group) (option : ValueOption) :
    Config.present ((Options.ofGroups groups).value? option) = lastValue? groups option := by
  rw [Options.value?_ofGroups, lastValue?]

/-- Groups that ask for something are resolved to what they ask for. -/
theorem exists_config_of_isRequest (settings : Settings) (request : IsRequest groups) :
    ∃ config, Config.ofOptions settings (Options.ofGroups groups) = .ok config ∧
      config.IsAskedBy settings groups := by
  obtain ⟨format, given, possible⟩ := request
  have modes : Mode.lint ≠ Mode.render := by decide
  unfold Config.ofOptions
  simp only [present_ofGroups, given]
  by_cases lint : format = Config.lintFormat
  · subst lint
    rw [if_pos rfl, checked_of_lint rfl rfl]
    have noPlace : Config.lintFormat ≠ Config.htmlFormat ∧ Config.lintFormat ≠ Config.epubFormat := by decide
    exact ⟨_, rfl, given, iff_of_true rfl rfl, fun same => absurd same modes,
      fun same => absurd same noPlace.1, fun same => absurd same noPlace.2, fun _ _ _ => rfl, rfl, rfl, rfl,
      rfl, rfl, strip_language groups, Options.debug_ofGroups groups, checked_of_lint rfl rfl⟩
  · obtain ⟨input, named⟩ := Option.ne_none_iff_exists'.mp (possible.resolve_left lint)
    simp only [Option.some.injEq, if_neg lint, named]
    cases placed : lastValue? groups .output with
    | none =>
        rw [checked_of_render rfl lint (Option.some_ne_none _) usualOutput_ne_none]
        refine ⟨_, rfl, given, iff_of_false modes.symm lint, fun _ => ⟨input, named, rfl⟩, ?_, ?_, ?_, rfl,
          rfl, rfl, rfl, rfl, strip_language groups, Options.debug_ofGroups groups,
          checked_of_render rfl lint (Option.some_ne_none _) usualOutput_ne_none⟩
        · rintro rfl
          rw [placed]
          rfl
        · rintro rfl
          rw [placed]
          rfl
        · intro noSite noBook _
          simp only [Config.usualOutput, if_neg noSite, if_neg noBook]
    | some output =>
        have there (_ : format = Config.htmlFormat ∨ format = Config.epubFormat) :
            some (Path.ofText output) ≠ none := Option.some_ne_none _
        rw [checked_of_render rfl lint (Option.some_ne_none _) there]
        refine ⟨_, rfl, given, iff_of_false modes.symm lint, fun _ => ⟨input, named, rfl⟩, ?_, ?_, ?_, rfl,
          rfl, rfl, rfl, rfl, strip_language groups, Options.debug_ofGroups groups,
          checked_of_render rfl lint (Option.some_ne_none _) there⟩
        · intro _
          rw [placed]
          rfl
        · intro _
          rw [placed]
          rfl
        · intro _ _ unplaced
          rw [unplaced] at placed
          cases placed

theorem ofOptions_of_not_isRequest (settings : Settings) (none : ¬ IsRequest groups) :
    Config.ofOptions settings (Options.ofGroups groups) = .error (.usage .unclear) := by
  unfold Config.ofOptions
  simp only [present_ofGroups]
  cases given : lastValue? groups .format with
  | none => rfl
  | some format =>
      have notLint : format ≠ Config.lintFormat := fun lint => none ⟨format, given, .inl lint⟩
      have unnamed : lastValue? groups .input = .none := by
        by_contra named
        exact none ⟨format, given, .inr named⟩
      simp only [Option.some.injEq, if_neg notLint, unnamed]

theorem asksForHelp_iff : AsksForHelp words ↔
    words = [] ∨ (words.length = 1 && words.all Config.helpFlags.contains) = true := by
  refine or_congr_right ⟨?_, fun alone => ?_⟩
  · rintro ⟨flag, listed, rfl⟩
    simpa using listed
  · obtain ⟨single, listed⟩ := Bool.and_eq_true_iff.mp alone
    obtain ⟨flag, rfl⟩ := List.length_eq_one_iff.mp (of_decide_eq_true single)
    exact ⟨flag, by simpa using listed, rfl⟩

theorem options_of_long (long : 2 ≤ words.length) : Config.options words = Options.scan words := by
  match words, long with
  | _ :: _ :: _, _ => rfl

theorem resolve_of_help (help : AsksForHelp words) : Config.resolve settings words = .ok .help := by
  rcases asksForHelp_iff.mp help with rfl | alone
  · rfl
  · unfold Config.resolve
    split
    · rfl
    · rw [if_pos alone]

theorem resolve_of_not_help (noHelp : ¬AsksForHelp words) : Config.resolve settings words =
    match Config.options words with
    | .error fault => .error (.usage fault)
    | .ok options => (Config.ofOptions settings options).map .run := by
  obtain ⟨some_word, notAlone⟩ := not_or.mp (asksForHelp_iff.not.mp noHelp)
  unfold Config.resolve
  split
  · contradiction
  · refine (if_neg notAlone).trans ?_
    cases Config.options words <;> rfl

/-- A single word that does not ask for help asks for nothing. -/
theorem resolve_of_short (noHelp : ¬AsksForHelp words) (short : words.length < 2) :
    Config.resolve settings words = .error (.usage .unclear) := by
  rw [resolve_of_not_help noHelp]
  match words, short with
  | [], _ => exact absurd (.inl rfl) noHelp
  | [word], _ => rfl

theorem not_isRequest_of_help (help : AsksForHelp words) (whole : words = Group.writeAll groups) :
    ¬IsRequest groups := by
  intro request
  have long := request.length_writeAll
  rw [← whole] at long
  rcases help with rfl | ⟨flag, _, rfl⟩ <;> simp at long

theorem resolve_isAnswer (settings : Settings) (words : List Text) :
    IsAnswer settings words (Config.resolve settings words) := by
  by_cases help : AsksForHelp words
  · rw [resolve_of_help help]
    exact .help help
  by_cases short : words.length < 2
  · rw [resolve_of_short help short]
    refine .refused help fun groups whole request => ?_
    have long := request.length_writeAll
    rw [← whole] at long
    omega
  rw [resolve_of_not_help help, options_of_long (by omega)]
  obtain ⟨groups, rest, rfl, rfl | ⟨fault, offence⟩⟩ := Options.exists_groups words
  · rw [List.append_nil] at help ⊢
    rw [Options.scan_writeAll]
    by_cases request : IsRequest groups
    · obtain ⟨config, resolved, asked⟩ := exists_config_of_isRequest settings request
      simp only [resolved]
      exact .config help rfl request asked
    · simp only [ofOptions_of_not_isRequest settings request]
      exact .refused help fun others same => Group.writeAll_injective same ▸ request
  · rw [Options.scan_error_of_isOffence groups offence]
    refine .refused help fun others same => ?_
    have taken := Options.scan_writeAll others
    rw [← same, Options.scan_error_of_isOffence groups offence] at taken
    cases taken

/-- A command line is answered with help exactly if it is empty or a single word that asks for it, with a
configuration exactly if it consists of groups that ask for something, and otherwise with a usage error. The
configuration is the one that is asked for, and no answer tells that it would not pass its check. -/
theorem resolve_answers (settings : Settings) (words : List Text) :
    IsAnswer settings words (Config.resolve settings words) ∧
      (Config.resolve settings words = .ok .help ↔ AsksForHelp words) ∧
      ((∃ config, Config.resolve settings words = .ok (.run config)) ↔
        ∃ groups, words = Group.writeAll groups ∧ IsRequest groups) ∧
      ∀ reason, Config.resolve settings words ≠ .error (.inconsistent reason) := by
  have answer := resolve_isAnswer settings words
  refine ⟨answer, ?_⟩
  generalize Config.resolve settings words = result at answer
  cases answer with
  | help help =>
      refine ⟨iff_of_true rfl help, iff_of_false ?_ ?_, nofun⟩
      · rintro ⟨config, same⟩
        cases same
      · rintro ⟨groups, whole, request⟩
        exact not_isRequest_of_help help whole request
  | refused noHelp unclear =>
      refine ⟨iff_of_false nofun noHelp, iff_of_false ?_ ?_, nofun⟩
      · rintro ⟨config, same⟩
        cases same
      · rintro ⟨groups, whole, request⟩
        exact unclear groups whole request
  | config noHelp whole request asked =>
      exact ⟨iff_of_false nofun noHelp, iff_of_true ⟨_, rfl⟩ ⟨_, whole, request⟩, nofun⟩

end Gamebook.Run
