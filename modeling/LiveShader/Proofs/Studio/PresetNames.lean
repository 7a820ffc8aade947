import Mathlib.Data.String.Basic
import LiveShader.Proofs.Data.Lookup
import LiveShader.Proofs.Text.Trimming
import LiveShader.Settings.Reader
import LiveShader.Studio.Console

/-! # Presets and the names they are asked for by

Settings keep each name once and none of them blank, so that a preset is found by its
name. The console trims the name it is given, and asks for what is left. -/

namespace LiveShader

open Text

/-! ## A table in ascending order -/

namespace Presets

variable {presets more : Presets} {name prompt : String}

def IsAscending (presets : Presets) : Prop :=
  presets.Pairwise fun first second => first.1 < second.1

theorem mem_insert {entry : String × String} (member : entry ∈ presets.insert name prompt) :
    entry = (name, prompt) ∨ entry ∈ presets := by
  induction presets with
  | nil => exact .inl (List.mem_singleton.mp member)
  | cons present rest induction =>
      rw [insert] at member
      split at member
      case isTrue =>
        exact (List.mem_cons.mp member).imp_right (List.mem_cons_of_mem present)
      case isFalse =>
        split at member
        case isTrue => exact List.mem_cons.mp member
        case isFalse =>
          rcases List.mem_cons.mp member with here | later
          · exact .inr (here ▸ List.mem_cons_self)
          · exact (induction later).imp_right (List.mem_cons_of_mem present)

theorem IsAscending.insert (ascending : presets.IsAscending) (name prompt : String) :
    (presets.insert name prompt).IsAscending := by
  induction presets with
  | nil => exact List.pairwise_singleton _ _
  | cons present rest induction =>
      rcases List.pairwise_cons.mp ascending with ⟨least, later⟩
      rw [Presets.insert]
      split
      case isTrue same =>
        refine List.pairwise_cons.mpr ⟨fun entry member => ?_, later⟩
        rw [same]
        exact least entry member
      case isFalse different =>
        split
        case isTrue smaller =>
          refine List.pairwise_cons.mpr ⟨fun entry member => ?_, ascending⟩
          rcases List.mem_cons.mp member with rfl | among
          · exact smaller
          · exact smaller.trans (least entry among)
        case isFalse larger =>
          refine List.pairwise_cons.mpr ⟨fun entry member => ?_, induction later⟩
          rcases mem_insert member with rfl | among
          · exact lt_of_le_of_ne (not_lt.mp larger) fun same => different same.symm
          · exact least entry among

theorem IsAscending.extend (ascending : presets.IsAscending) (more : Presets) :
    (presets.extend more).IsAscending :=
  List.foldlRecOn more _ ascending fun _ sorted entry _ => sorted.insert entry.1 entry.2

theorem mem_extend {entry : String × String} (member : entry ∈ presets.extend more) :
    entry ∈ presets ∨ entry ∈ more := by
  refine List.foldlRecOn
    (motive := fun table => entry ∈ table → entry ∈ presets ∨ entry ∈ more)
    more _ .inl (fun table known added among inside => ?_) member
  rcases mem_insert inside with rfl | before
  · exact .inr among
  · exact known before

/-- In ascending order each name stands once. -/
theorem IsAscending.find?_iff_mem (ascending : presets.IsAscending) :
    presets.find? name = some prompt ↔ (name, prompt) ∈ presets := by
  have map : Table.IsMap presets := List.pairwise_map.mpr (ascending.imp ne_of_lt)
  exact map.find?_iff_mem

theorem isAscending_builtin : builtin.IsAscending :=
  IsAscending.extend List.Pairwise.nil _

end Presets

/-! ## The presets of settings -/

namespace Settings

variable {settings : Settings}

theorem fault?_of_ofText {text : String} (accepted : ofText text = .ok settings) :
    settings.fault? = none := by
  unfold ofText at accepted
  split at accepted
  case h_1 => cases accepted
  case h_2 entries _ =>
    rcases read : entries.foldlM setField standard with failure | found
    · rw [read] at accepted
      cases accepted
    · rw [read] at accepted
      simp only [bind, Except.bind] at accepted
      split at accepted
      case h_1 => cases accepted
      case h_2 sound =>
        cases accepted
        exact sound

theorem ofText_of_toOption {text : String} (read : (ofText text).toOption = some settings) :
    ofText text = .ok settings := by
  cases result : ofText text with
  | error failure =>
      rw [result] at read
      cases read
  | ok found =>
      rw [result] at read
      exact congrArg Except.ok (Option.some.inj read)

theorem not_isBlankPreset_iff {preset : String × String} :
    ¬isBlankPreset preset ↔ ¬isBlankString preset.1 ∧ ¬isBlankString preset.2 := by
  rw [isBlankPreset, Bool.or_eq_true, not_or]

theorem not_isBlankPreset (sound : settings.fault? = none) {preset : String × String}
    (member : preset ∈ settings.presets) : ¬isBlankPreset preset := by
  unfold fault? at sound
  split at sound
  case isTrue => cases sound
  case isFalse =>
    split at sound
    case h_1 => cases sound
    case h_2 =>
      have none_blank := List.find?_eq_none.mp (Option.map_eq_none_iff.mp sound)
      exact none_blank preset member

theorem isAscending_allPresets (settings : Settings) : settings.allPresets.IsAscending :=
  Presets.isAscending_builtin.extend _

/-- No preset of settings that were accepted is blank, nor is one of every user's presets. -/
theorem not_isBlankPreset_of_mem {text : String} (accepted : ofText text = .ok settings)
    {preset : String × String} (member : preset ∈ settings.allPresets) :
    ¬isBlankPreset preset := by
  have builtin : ∀ preset ∈ Presets.builtin, ¬isBlankPreset preset := by decide +kernel
  rcases Presets.mem_extend member with own | given
  · exact builtin preset own
  · exact not_isBlankPreset (fault?_of_ofText accepted) given

end Settings

/-! ## Asking by name -/

namespace ConsoleCommand

/-- What a user types to ask for a preset. -/
def presetLine (name : String) : String :=
  ":preset " ++ name

theorem lineFeed_not_mem_presetLine {name : String} (unbroken : '\n' ∉ name.toList) :
    '\n' ∉ (presetLine name).toList := by
  rw [presetLine, String.toList_append, List.mem_append]
  rintro (opening | inside)
  · revert opening
    decide
  · exact unbroken inside

theorem splitName_preset (argument : List Char) :
    splitName ("preset ".toList ++ argument) = ("preset".toList, trim argument) := rfl

theorem trim_ne_nil_of_not_isBlankString {text : String} (worded : ¬isBlankString text) :
    trim text.toList ≠ [] := by
  rw [isBlankString, ← isEmpty_trim, List.isEmpty_iff] at worded
  exact worded

/-- The blanks in front of a name stay within the line, and those behind it go. -/
theorem exists_trim_presetLine {name : String} (named : ¬isBlankString name) :
    ∃ front, (∀ character ∈ front, isBlank character) ∧
      trim (presetLine name).toList = ":preset ".toList ++ (front ++ trim name.toList) := by
  have something := trim_ne_nil_of_not_isBlankString named
  rcases exists_trim name.toList with ⟨front, back, whole, before, behind⟩
  refine ⟨front, before, ?_⟩
  have trimmed : IsTrimmed (":preset ".toList ++ (front ++ trim name.toList)) := by
    constructor
    · intro character first
      cases first
      decide
    · intro character last
      rw [← List.append_assoc, List.getLast?_append_of_ne_nil _ something] at last
      exact (isTrimmed_trim name.toList).last character last
  have split : (presetLine name).toList =
      ":preset ".toList ++ (front ++ trim name.toList) ++ back := by
    rw [presetLine, String.toList_append]
    refine (congrArg (":preset ".toList ++ ·) whole).trans ?_
    simp only [List.append_assoc]
  rw [split, trim_append_blanks behind, trimmed.trim_eq]

/-- A name that is not blank is asked for without the blanks around it. -/
theorem parse_presetLine {name : String} (named : ¬isBlankString name) :
    parse (presetLine name) = .ok (some (.preset (trimString name))) := by
  rcases exists_trim_presetLine named with ⟨front, before, trimmed⟩
  have split : trim (presetLine name).toList =
      ':' :: ("preset ".toList ++ (front ++ trim name.toList)) := trimmed
  have argument : trim (front ++ trim name.toList) = trim name.toList := by
    rw [trim_blanks_append before, (isTrimmed_trim _).trim_eq]
  have something : (trimString name).isEmpty = false := by
    simpa [trimString, String.isEmpty_iff] using trim_ne_nil_of_not_isBlankString named
  have lower : String.ofList ("preset".toList.map Char.toLower) = "preset" := by decide
  have command : ofName "preset" (trimString name) = .ok (.preset (trimString name)) := by
    simp [ofName, something]
  rw [trimString] at command ⊢
  rw [parse, split]
  simp only [splitName_preset, argument, lower, command]
  rfl

end ConsoleCommand

end LiveShader
