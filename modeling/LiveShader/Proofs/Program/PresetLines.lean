import LiveShader.Proofs.Program.Steps
import LiveShader.Proofs.Studio.PresetNames
import LiveShader.Proofs.Text.ByteOrder

/-! # Asking for a preset at the console

The bytes of a line are read back as the line, and its command joins the queue. The studio
has the presets of the settings throughout a session, so that it finds the one that a command
names and asks the service for its prompt. -/

namespace LiveShader

/-! ## Bytes of a line -/

namespace Text

theorem fromUTF8?_utf8 (text : List Char) :
    String.fromUTF8? (.mk (utf8 text).toArray) = some (.ofList text) := by
  have encoded : ByteArray.mk (utf8 text).toArray = (String.ofList text).toByteArray := by
    apply ByteArray.ext
    rw [String.toByteArray_ofList, List.utf8Encode, List.data_toByteArray]
    rfl
  rw [encoded, String.fromUTF8?, dif_pos (String.ofList text).isValidUTF8]
  rfl

/-- Only a line feed is written with the byte of one. -/
theorem lineFeed_not_mem_utf8EncodeChar {character : Char} (other : character ≠ '\n') :
    10 ∉ String.utf8EncodeChar character := by
  have different : character.val.toNat ≠ 10 := fun same =>
    other (Char.ext (UInt32.toNat_inj.mp same))
  unfold String.utf8EncodeChar
  generalize character.val.toNat = value at different
  simp only
  split_ifs <;> simp [← UInt8.toNat_inj] <;> omega

theorem lineFeed_not_mem_utf8 {text : List Char} (unbroken : '\n' ∉ text) : 10 ∉ utf8 text := by
  intro member
  rcases List.mem_flatMap.mp member with ⟨character, inside, among⟩
  refine lineFeed_not_mem_utf8EncodeChar ?_ among
  rintro rfl
  exact unbroken inside

end Text

open Text

/-! ## Typing a line -/

namespace Session

/-- What is typed for a line. -/
def typedLine (line : String) : List UInt8 :=
  utf8 line.toList ++ [10]

/-- Whether a session takes the next line that is typed from its start. -/
structure Listens (session : Session) : Prop where
  listening : session.isListening
  ending : session.ending = none
  unfinished : session.unfinished = []

theorem readBytes_of_unbroken (session : Session) {bytes : List UInt8} (unbroken : 10 ∉ bytes)
    (rest : List UInt8) :
    session.readBytes (bytes ++ rest) =
      { session with unfinished := session.unfinished ++ bytes }.readBytes rest := by
  induction bytes generalizing session with
  | nil => rw [List.append_nil]; rfl
  | cons byte bytes induction =>
      have other : byte ≠ 10 := fun same => unbroken (same ▸ List.mem_cons_self)
      have later := fun member => unbroken (List.mem_cons_of_mem byte member)
      rw [List.cons_append, readBytes, if_neg other, induction _ later]
      simp only [List.append_assoc, List.singleton_append]

/-- The command of a line that is typed joins the queue. -/
theorem readBytes_typedLine {session : Session} (listens : session.Listens) {line : String}
    (unbroken : '\n' ∉ line.toList) {command : ConsoleCommand}
    (parsed : ConsoleCommand.parse line = .ok (some command)) :
    session.readBytes (typedLine line) =
      { session with queue := session.queue ++ [.command command] } := by
  have decoded : String.fromUTF8? (.mk (utf8 line.toList).toArray) = some line := by
    rw [fromUTF8?_utf8, String.ofList_toList]
  rw [typedLine, session.readBytes_of_unbroken (lineFeed_not_mem_utf8 unbroken)]
  simp only [readBytes, if_true, listens.unfinished, List.nil_append, readLine, listens.listening,
    Bool.not_true, Bool.false_eq_true, if_false, decoded, parsed, enqueue, listens.ending,
    Option.isSome_none]

end Session

/-! ## The presets of a session -/

theorem Studio.presets_respond {View : Type} [Preview View] (studio : Studio View)
    (input : StudioInput View) : (studio.respond input).studio.presets = studio.presets := by
  rw [(studio.respond_comesTo input).studio, act_presets, informed_presets]

namespace Session

theorem presets_react (session : Session) (reaction : Reaction PreviewWindow) :
    (session.react reaction).studio.presets = reaction.studio.presets := by
  rcases request_eq { session with
    studio := reaction.studio
    printed := session.printed ++ reaction.printed } reaction.requests with ⟨host, queue, same⟩
  unfold react
  simp only [same]
  split <;> rfl

theorem presets_begin (session : Session) (source prompt : Option String) :
    (session.begin source prompt).studio.presets = session.studio.presets := by
  unfold begin
  split
  case h_1 => exact session.presets_react _
  case h_2 => exact (session.presets_react _).trans (session.studio.presets_respond (.event _))
  case h_3 => rfl

/-- No step changes the presets. -/
theorem presets_perform (session : Session) (step : SessionStep) :
    (session.perform step).studio.presets = session.studio.presets := by
  cases step with
  | begun source prompt =>
      rw [perform]
      split
      case isTrue => rfl
      case isFalse => exact session.presets_begin source prompt
  | reported =>
      rw [perform]
      split
      case isTrue => rfl
      case isFalse =>
        split
        case h_1 => rfl
        case h_2 report events _ =>
          exact (presets_react _ _).trans (Studio.presets_respond _ (.report report))
  | handled index =>
      rw [perform]
      split
      case isTrue => rfl
      case isFalse =>
        split
        case h_1 => rfl
        case h_2 event _ =>
          exact (presets_react _ _).trans (Studio.presets_respond _ (.event event))
  | typed bytes =>
      rcases session.readBytes_eq bytes with ⟨_, _, _, _, same⟩
      rw [perform, same]
  | inputEnded =>
      rcases session.readEnd_eq with ⟨_, _, _, same⟩
      rw [perform, same]
  | window | world => rfl

theorem presets_after (session : Session) (steps : List SessionStep) :
    (session.after steps).studio.presets = session.studio.presets := by
  induction steps generalizing session with
  | nil => rfl
  | cons step rest induction => exact (induction _).trans (session.presets_perform step)

end Session

/-! ## What a user gets -/

/-- Whether a user who types the name of a preset gets it, at any time of a session with these
settings. -/
structure Settings.ReachesPreset (settings : Settings) (name prompt : String) : Prop where
  parsed : ConsoleCommand.parse (ConsoleCommand.presetLine name) = .ok (some (.preset name))
  found : ∀ preview client arguments steps,
    let session := (Session.opened preview client arguments settings).after steps
    session.studio.presets.find? name = some prompt
  /-- The command joins the queue. -/
  typed : ∀ session : Session, session.Listens →
    session.readBytes (Session.typedLine (ConsoleCommand.presetLine name)) =
      { session with queue := session.queue ++ [.command (.preset name)] }
  /-- The studio that comes to the command asks for the prompt. -/
  handled : ∀ preview client arguments steps,
    let session := (Session.opened preview client arguments settings).after steps
    let reaction := session.studio.handle (.command (.preset name))
    reaction.printed = [{ channel := .out, text := "Preset " ++ name ++ ": " ++ prompt },
        { channel := .out, text := "Generating shader..." }] ∧
      reaction.requests = [.generate
        { ticket := { generation := session.studio.cycle.generation + 1 },
          description := prompt }] ∧
      reaction.result = .ok .proceed

section

variable {settings : Settings} {name prompt : String}

theorem find?_of_mem_allPresets (listed : (name, prompt) ∈ settings.allPresets)
    (preview : PreviewWindow) (client : GenerationClient) (arguments : Arguments)
    (steps : List SessionStep) :
    ((Session.opened preview client arguments settings).after steps).studio.presets.find? name =
      some prompt := by
  rw [Session.presets_after]
  exact settings.isAscending_allPresets.find?_iff_mem.mpr listed

theorem Studio.onCommand_preset {View : Type} [Preview View] {studio : Studio View}
    (found : studio.presets.find? name = some prompt) (worded : ¬isBlankString prompt) :
    studio.onCommand (.preset name) =
      { studio := { studio with
          cycle := (studio.cycle.beginGenerate prompt).2
          lastFailure := none }
        printed := [{ channel := .out, text := "Preset " ++ name ++ ": " ++ prompt },
          { channel := .out, text := "Generating shader..." }]
        requests := [.generate
          { ticket := { generation := studio.cycle.generation + 1 }, description := prompt }]
        result := .ok .proceed } := by
  simp only [onCommand, found, generate, FixCycle.beginGenerate, worded]
  rfl

theorem reachesPreset_of_trimmed (trimmed : trimString name = name)
    (unbroken : '\n' ∉ name.toList) (named : ¬isBlankString name)
    (worded : ¬isBlankString prompt) (listed : (name, prompt) ∈ settings.allPresets) :
    settings.ReachesPreset name prompt := by
  have parsed := ConsoleCommand.parse_presetLine named
  rw [trimmed] at parsed
  exact
    { parsed
      found := find?_of_mem_allPresets listed
      typed := fun session listens =>
        Session.readBytes_typedLine listens (ConsoleCommand.lineFeed_not_mem_presetLine unbroken)
          parsed
      handled := fun preview client arguments steps => by
        have found := find?_of_mem_allPresets listed preview client arguments steps
        simp only [Studio.handle, Studio.onCommand_preset found worded, and_self] }

/-- Each preset of accepted settings is found by its name, and its prompt is accepted. What is
typed for it asks for the name without the blanks around it, so that the preset is reached
exactly if its name has none. -/
theorem reachesPreset_iff {text : String} (accepted : Settings.ofText text = .ok settings)
    (listed : (name, prompt) ∈ settings.allPresets) (unbroken : '\n' ∉ name.toList) :
    settings.allPresets.find? name = some prompt ∧
    (∀ cycle : FixCycle, ∃ request, (cycle.beginGenerate prompt).1 = .ok request ∧
      request.description = prompt) ∧
    (∀ session : Session, session.Listens →
      session.readBytes (Session.typedLine (ConsoleCommand.presetLine name)) =
        { session with queue := session.queue ++ [.command (.preset (trimString name))] }) ∧
    (settings.ReachesPreset name prompt ↔ trimString name = name) := by
  rcases Settings.not_isBlankPreset_iff.mp (Settings.not_isBlankPreset_of_mem accepted listed)
    with ⟨named, worded⟩
  have parsed := ConsoleCommand.parse_presetLine named
  refine ⟨settings.isAscending_allPresets.find?_iff_mem.mpr listed, fun cycle => ?_,
    fun session listens => ?_, fun reached => ?_, fun trimmed => ?_⟩
  · refine ⟨_, congrArg Prod.fst (if_neg worded), rfl⟩
  · exact Session.readBytes_typedLine listens
      (ConsoleCommand.lineFeed_not_mem_presetLine unbroken) parsed
  · have same := parsed.symm.trans reached.parsed
    simpa using same
  · exact reachesPreset_of_trimmed trimmed unbroken named worded listed

/-- A name with a blank inside is reached. -/
theorem reachesPreset_lava_lamp :
    let settings : Settings :=
      { Settings.standard with presets := [("lava lamp", "molten rock")] }
    Settings.ofText "[presets]\n\"lava lamp\" = \"molten rock\"" = .ok settings ∧
      settings.ReachesPreset "lava lamp" "molten rock" ∧ settings.ReachesPreset "ocean"
        "Rolling ocean waves seen from above with foam highlights and a deep blue palette" := by
  intro settings
  have accepted : Settings.ofText "[presets]\n\"lava lamp\" = \"molten rock\"" = .ok settings :=
    Settings.ofText_of_toOption (by decide +kernel)
  refine ⟨accepted, ?_, ?_⟩
  · exact (reachesPreset_iff accepted (by decide +kernel) (by decide)).2.2.2.mpr (by decide +kernel)
  · exact (reachesPreset_iff accepted (by decide +kernel) (by decide)).2.2.2.mpr (by decide +kernel)

/-- A name that begins with a blank is accepted and listed, and what is typed for it asks for
another name, which no preset has. -/
theorem preset_named_with_blank :
    let settings : Settings :=
      { Settings.standard with presets := [(" lava", "molten rock")] }
    Settings.ofText "[presets]\n\" lava\" = \"molten rock\"" = .ok settings ∧
      (" lava", "molten rock") ∈ settings.allPresets ∧
      ConsoleCommand.parse (ConsoleCommand.presetLine " lava") = .ok (some (.preset "lava")) ∧
      settings.allPresets.find? "lava" = none ∧ ¬settings.ReachesPreset " lava" "molten rock" := by
  intro settings
  have parsed : ConsoleCommand.parse (ConsoleCommand.presetLine " lava") =
      .ok (some (.preset "lava")) := ConsoleCommand.parse_presetLine (by decide)
  refine ⟨Settings.ofText_of_toOption (by decide +kernel), by decide +kernel, parsed,
    by decide +kernel, fun reached => ?_⟩
  have same := parsed.symm.trans reached.parsed
  simp at same

end

end LiveShader
