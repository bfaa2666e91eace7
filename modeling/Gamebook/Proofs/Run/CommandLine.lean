import Gamebook.Run.Options

/-!
What a command line says. It is read from left to right in groups, the flag alone and every option with
the word behind it, so a line is refused where the first group would begin that is none.
-/

namespace Gamebook.Run

open Gamebook.Text

/-- What stands together on a command line. -/
inductive Group where
  | flag
  | pair (option : ValueOption) (value : Text)
deriving DecidableEq

namespace Group

def write : Group → List Text
  | .flag => [Options.debugKey]
  | .pair option value => [option.key, value]

def writeAll (groups : List Group) : List Text := groups.flatMap write

def value? (option : ValueOption) : Group → Option Text
  | .flag => none
  | .pair other value => if other = option then some value else none

def addTo (group : Group) (options : Options) : Options :=
  match group with
  | .flag => { options with debug := true }
  | .pair option value => { options with values := (option, value) :: options.values }

end Group

/-- The values that groups give an option, one behind the other. -/
def valuesOf (groups : List Group) (option : ValueOption) : List Text :=
  groups.filterMap (Group.value? option)

/-- A group should begin here, but none does, for this fault. -/
inductive IsOffence : List Text → UsageFault → Prop
  | unknown {key : Text} {words : List Text} (noFlag : key ≠ Options.debugKey)
      (noOption : ∀ option : ValueOption, key ≠ option.key.toList) :
      IsOffence (key :: words) (.unknownOption key)
  | missing (option : ValueOption) : IsOffence [option.key] (.missingValue option.key)

variable {words rest : List Text} {fault : UsageFault} {group : Group} {groups others : List Group}
  {options : Options} {option : ValueOption} {key : Text}

namespace ValueOption

theorem key_ne_debugKey (option : ValueOption) : option.key.toList ≠ Options.debugKey := by
  cases option <;> decide

theorem key_injective {other : ValueOption} (same : option.key.toList = other.key.toList) :
    option = other := by
  revert same
  cases option <;> cases other <;> decide

theorem ofKey?_key (option : ValueOption) : ofKey? option.key = some option := by
  cases option <;> decide

theorem eq_key_of_ofKey? (found : ofKey? key = some option) : key = option.key.toList := by
  have same : option.key.toList = key := by simpa using List.find?_some found
  exact same.symm

end ValueOption

namespace Options

theorem scan_write_append (group : Group) (words : List Text) :
    scan (group.write ++ words) = (scan words).map group.addTo := by
  cases group with
  | flag =>
      rw [Group.write, List.singleton_append, scan.eq_def]
      simp only [↓reduceIte]
      cases scan words <;> rfl
  | pair option value =>
      rw [Group.write, List.cons_append, List.singleton_append, scan.eq_def]
      simp only [if_neg option.key_ne_debugKey, ValueOption.ofKey?_key]
      cases scan words <;> rfl

/-- The options that groups give. -/
def ofGroups (groups : List Group) : Options := groups.foldr Group.addTo {}

theorem scan_writeAll_append (groups : List Group) (rest : List Text) :
    scan (Group.writeAll groups ++ rest) = (scan rest).map fun options => groups.foldr Group.addTo options := by
  induction groups with
  | nil =>
      rw [Group.writeAll, List.flatMap_nil, List.nil_append]
      cases scan rest <;> rfl
  | cons group groups ih =>
      rw [Group.writeAll, List.flatMap_cons, List.append_assoc, scan_write_append, ← Group.writeAll, ih]
      cases scan rest <;> rfl

theorem scan_writeAll (groups : List Group) : scan (Group.writeAll groups) = .ok (ofGroups groups) := by
  have whole := scan_writeAll_append groups []
  rwa [List.append_nil] at whole

theorem scan_of_isOffence (offence : IsOffence rest fault) : scan rest = .error fault := by
  cases offence with
  | @unknown key words noFlag noOption =>
      have unread : ValueOption.ofKey? key = none := Option.eq_none_iff_forall_ne_some.mpr
        fun option found => noOption option (ValueOption.eq_key_of_ofKey? found)
      rw [scan.eq_def]
      simp only [if_neg noFlag, unread]
  | missing option =>
      rw [scan.eq_def]
      simp only [if_neg option.key_ne_debugKey, ValueOption.ofKey?_key]

theorem scan_error_of_isOffence (groups : List Group) (offence : IsOffence rest fault) :
    scan (Group.writeAll groups ++ rest) = .error fault := by
  rw [scan_writeAll_append, scan_of_isOffence offence]
  rfl

/-- Every command line is made of groups, as far as it is not refused. -/
theorem exists_groups (words : List Text) : ∃ groups rest, words = Group.writeAll groups ++ rest ∧
    (rest = [] ∨ ∃ fault, IsOffence rest fault) := by
  -- follows `scan`, which takes one word or two at a time
  fun_induction scan words with
  | case1 => exact ⟨[], [], rfl, .inl rfl⟩
  | case2 words ih =>
      obtain ⟨groups, rest, rfl, stopped⟩ := ih
      exact ⟨.flag :: groups, rest, rfl, stopped⟩
  | case3 key words noFlag unread =>
      refine ⟨[], key :: words, rfl, .inr ⟨_, .unknown noFlag fun option same => ?_⟩⟩
      rw [same, option.ofKey?_key] at unread
      cases unread
  | case4 key noFlag option read =>
      obtain rfl := ValueOption.eq_key_of_ofKey? read
      exact ⟨[], _, rfl, .inr ⟨_, .missing option⟩⟩
  | case5 key noFlag option value words read ih =>
      obtain rfl := ValueOption.eq_key_of_ofKey? read
      obtain ⟨groups, rest, rfl, stopped⟩ := ih
      exact ⟨.pair option value :: groups, rest, rfl, stopped⟩

theorem debug_ofGroups (groups : List Group) : (ofGroups groups).debug = true ↔ .flag ∈ groups := by
  induction groups with
  | nil => simp [ofGroups]
  | cons group groups ih => cases group <;> simp [ofGroups, Group.addTo, ← ih]

theorem value?_addTo (group : Group) (options : Options) :
    (group.addTo options).value? option = (options.value? option).or (group.value? option) := by
  cases group with
  | flag => simp [Group.addTo, Group.value?, value?]
  | pair other value =>
      unfold value? Group.addTo Group.value?
      rw [List.reverse_cons, List.find?_append]
      by_cases same : other = option
      · cases options.values.reverse.find? fun given => given.1 = option <;> simp [same]
      · cases options.values.reverse.find? fun given => given.1 = option <;> simp [same]

theorem value?_ofGroups (groups : List Group) (option : ValueOption) :
    (ofGroups groups).value? option = (valuesOf groups option).getLast? := by
  induction groups with
  | nil => rfl
  | cons group groups ih =>
      change (group.addTo (ofGroups groups)).value? option = _
      have values : valuesOf (group :: groups) option =
          (group.value? option).toList ++ valuesOf groups option := by
        cases given : group.value? option <;> simp [valuesOf, given]
      rw [value?_addTo, ih, values, List.getLast?_append]
      cases group.value? option <;> rfl

/-- Both say the same of every option, and of the flag. -/
def Agrees (left right : Options) : Prop :=
  left.debug = right.debug ∧ ∀ option, left.value? option = right.value? option

theorem agrees_of_perm (moved : groups.Perm others)
    (kept : ∀ option, valuesOf groups option = valuesOf others option) :
    (ofGroups groups).Agrees (ofGroups others) := by
  refine ⟨?_, fun option => ?_⟩
  · rw [Bool.eq_iff_iff, debug_ofGroups, debug_ofGroups, moved.mem_iff]
  · rw [value?_ofGroups, value?_ofGroups, kept option]

end Options

/-- A command line is made of one row of groups only. -/
theorem Group.writeAll_injective (same : writeAll groups = writeAll others) : groups = others := by
  induction groups generalizing others with
  | nil =>
      cases others with
      | nil => rfl
      | cons other others => cases other <;> cases same
  | cons group groups ih =>
      cases others with
      | nil => cases group <;> cases same
      | cons other others =>
          replace same : group.write ++ writeAll groups = other.write ++ writeAll others := same
          cases group with
          | flag =>
              cases other with
              | flag => rw [ih (List.append_cancel_left same)]
              | pair option value => exact absurd (List.cons.inj same).1.symm option.key_ne_debugKey
          | pair option value =>
              cases other with
              | flag => exact absurd (List.cons.inj same).1 option.key_ne_debugKey
              | pair next given =>
                  obtain ⟨firsts, behind⟩ := List.append_inj same rfl
                  obtain ⟨keys, values⟩ := List.cons.inj firsts
                  cases values
                  rw [ValueOption.key_injective keys, ih behind]

/-- A command line is refused where the first group would begin that is none, and is taken if it consists of
groups. It then has the flag if that is one of the groups, and every option has the value of its last pair, so
that the order of the groups matters only among the values of one option. -/
theorem scan_reads_groups (words : List Text) :
    (∀ options, Options.scan words = .ok options ↔
      ∃ groups, words = Group.writeAll groups ∧ options = Options.ofGroups groups) ∧
    (∀ fault, Options.scan words = .error fault ↔
      ∃ groups rest, words = Group.writeAll groups ++ rest ∧ IsOffence rest fault) ∧
    ∀ groups, words = Group.writeAll groups →
      (∀ others, words = Group.writeAll others → others = groups) ∧
      ((Options.ofGroups groups).debug = true ↔ .flag ∈ groups) ∧
      (∀ option, (Options.ofGroups groups).value? option = (valuesOf groups option).getLast?) ∧
      ∀ others, others.Perm groups → (∀ option, valuesOf others option = valuesOf groups option) →
        ∃ options, Options.scan (Group.writeAll others) = .ok options ∧
          options.Agrees (Options.ofGroups groups) := by
  refine ⟨fun options => ⟨fun taken => ?_, ?_⟩, fun fault => ⟨fun refused => ?_, ?_⟩, ?_⟩
  · obtain ⟨groups, rest, rfl, rfl | ⟨fault, offence⟩⟩ := Options.exists_groups words
    · rw [List.append_nil] at taken ⊢
      rw [Options.scan_writeAll, Except.ok.injEq] at taken
      exact ⟨groups, rfl, taken.symm⟩
    · rw [Options.scan_error_of_isOffence groups offence] at taken
      cases taken
  · rintro ⟨groups, rfl, rfl⟩
    exact Options.scan_writeAll groups
  · obtain ⟨groups, rest, rfl, rfl | ⟨other, offence⟩⟩ := Options.exists_groups words
    · rw [List.append_nil, Options.scan_writeAll] at refused
      cases refused
    · rw [Options.scan_error_of_isOffence groups offence] at refused
      cases refused
      exact ⟨groups, rest, rfl, offence⟩
  · rintro ⟨groups, rest, rfl, offence⟩
    exact Options.scan_error_of_isOffence groups offence
  · rintro groups rfl
    refine ⟨fun others same => (Group.writeAll_injective same).symm, Options.debug_ofGroups groups,
      Options.value?_ofGroups groups, fun others moved kept => ?_⟩
    exact ⟨_, Options.scan_writeAll others, Options.agrees_of_perm moved kept⟩

/-- What stands behind an option is its value, even if it looks like the flag. -/
example : Options.scan ["--debug", "--in", "--debug"] = .ok ⟨[(.input, "--debug")], true⟩ := rfl

end Gamebook.Run
