import Targeting.Proofs.JsonGrammar
import Targeting.Settings.File

/-!
# Loading settings

What stands at a path either gives settings or is refused with a message. Both are said by what
the bytes of a file spell, without a word about faults and who catches them.

## Main result

`loading_ends_as_foreseen`: validation raises nothing, loading raises nothing but its report, and
settings are given by json objects in UTF-8 whose members are accepted, and by nothing else.

## Proof strategy

What gives settings has a verdict, and so has what is refused, by the stage at which its fault is
raised. Every file is of one of both kinds, so a verdict tells which.
-/
namespace Targeting

/-- Decoding takes the encoding of a text, and nothing else. -/
theorem fromUTF8?_eq_some_iff (bytes : ByteArray) (text : String) :
    String.fromUTF8? bytes = some text ↔ bytes = text.toUTF8 := by
  constructor
  · intro decoded
    unfold String.fromUTF8? at decoded
    split at decoded
    next => exact congrArg String.toUTF8 (Option.some.inj decoded)
    next => cases decoded
  · rintro rfl
    exact dif_pos text.isValidUTF8

/-- A text is malformed if it spells nothing and comes to no number that has too many digits. -/
theorem Json.parse_eq_malformed_iff {text : String} :
    Json.parse text = .error .malformed ↔ (∀ value, ¬Json.Spells text.toList value) ∧
      ∀ digits, ¬Json.ReachesLong digits text.toList := by
  simp only [← Json.parse_eq_ok_iff, ← Json.parse_eq_error_iff]
  rcases Json.parse text with (_ | _) | _ <;> simp

namespace SettingsFile

/-- The file is the text of a json object in UTF-8, whose members are accepted as the settings. -/
def Gives (file : SettingsFile) (settings : Settings) : Prop :=
  ∃ (text : String) (fields : List (String × Json)), file = .content text.toUTF8 ∧
    Json.Spells text.toList (.object fields) ∧ Settings.read fields = .ok settings

section

variable (words : LoadFault → String) (path : String)

/-- Why a file is refused, and with which message. -/
inductive Refused : SettingsFile → String → Prop where
  | missing : Refused .missing ("Configuration file not found: " ++ path)
  | closed {file : SettingsFile} (kind : file = .hidden ∨ file = .directory ∨ file = .locked) :
      Refused file ("Unreadable configuration: " ++ words .inaccessible)
  | notUnicode {bytes : ByteArray} (foreign : ∀ text : String, bytes ≠ text.toUTF8) :
      Refused (.content bytes) ("Validation error: " ++ words .notUnicode)
  | malformed {text : String} (unspelled : ∀ value, ¬Json.Spells text.toList value)
      (short : ∀ digits, ¬Json.ReachesLong digits text.toList) :
      Refused (.content text.toUTF8) ("Invalid JSON: " ++ words .malformed)
  | oversizedNumber {text : String} {digits : Nat} (long : Json.ReachesLong digits text.toList) :
      Refused (.content text.toUTF8) ("Validation error: " ++ words (.oversizedNumber digits))
  | notAnObject {text : String} {value : Json} (spelled : Json.Spells text.toList value)
      (other : ∀ fields, value ≠ .object fields) :
      Refused (.content text.toUTF8) "Configuration root must be a JSON object"
  | invalid {text : String} {fields : List (String × Json)} {errors : List FieldError}
      (spelled : Json.Spells text.toList (.object fields))
      (rejected : Settings.read fields = .error errors) :
      Refused (.content text.toUTF8) ("Validation error: " ++ words (.invalid errors))

variable {words path} {file : SettingsFile} {settings : Settings} {message : String}

/-! ### Faults -/

theorem validate_of_verdict {verdict : Verdict} (examined : file.examine path = .ok verdict) :
    file.validate words path = .ok verdict := by
  rw [validate, examined]
  rfl

theorem validate_of_fault {fault : LoadFault} (examined : file.examine path = .error fault) :
    file.validate words path = handle words fault := by
  rw [validate, examined]
  rfl

/-- A fault of a value and of nothing else passes the first handler and is caught by the second. -/
theorem handle_of_value {fault : LoadFault} (kind : fault.classes = [.value]) :
    handle words fault = .ok (.refused ("Validation error: " ++ words fault)) := by
  simp only [handle, kind]
  rfl

/-! ### Content -/

theorem examine_text (text : String) :
    examine path (.content text.toUTF8) = ((Json.parse text).mapError .ofJson).bind judge := by
  have decoded : decode text.toUTF8 = .ok text := by
    rw [decode, (fromUTF8?_eq_some_iff _ _).mpr rfl]
  change (decode text.toUTF8).bind (fun text => ((Json.parse text).mapError .ofJson).bind judge) = _
  rw [decoded]
  rfl

theorem examine_of_parse_error {text : String} {fault : Json.ReadFault}
    (parsed : Json.parse text = .error fault) :
    examine path (.content text.toUTF8) = .error (.ofJson fault) := by
  rw [examine_text, parsed]
  rfl

theorem examine_of_spells {text : String} {value : Json} (spelled : Json.Spells text.toList value) :
    examine path (.content text.toUTF8) = judge value := by
  rw [examine_text, Json.parse_eq_ok_iff.mpr spelled]
  rfl

theorem examine_of_foreign {bytes : ByteArray} (foreign : ∀ text : String, bytes ≠ text.toUTF8) :
    examine path (.content bytes) = .error .notUnicode := by
  have undecoded : String.fromUTF8? bytes = none :=
    Option.eq_none_iff_forall_ne_some.mpr fun text decoded =>
      foreign text ((fromUTF8?_eq_some_iff bytes text).mp decoded)
  change (decode bytes).bind _ = _
  rw [decode, undecoded]
  rfl

theorem judge_of_other {value : Json} (other : ∀ fields, value ≠ .object fields) :
    judge value = .ok (.refused "Configuration root must be a JSON object") := by
  cases value with
  | object fields => exact absurd rfl (other fields)
  | _ => rfl

/-! ### Verdicts -/

theorem Gives.validate (given : file.Gives settings) :
    file.validate words path = .ok (.accepted settings) := by
  obtain ⟨text, fields, rfl, spelled, accepted⟩ := given
  apply validate_of_verdict
  rw [examine_of_spells spelled, judge, accepted]
  rfl

theorem Refused.validate (refused : Refused words path file message) :
    file.validate words path = .ok (.refused message) := by
  cases refused with
  | missing => rfl
  | closed kind => rcases kind with rfl | rfl | rfl <;> rfl
  | notUnicode foreign =>
    rw [validate_of_fault (examine_of_foreign foreign), handle_of_value rfl]
  | malformed unspelled short =>
    -- Malformed json is a fault of a value too, but the handler of json comes first.
    have parsed := Json.parse_eq_malformed_iff.mpr ⟨unspelled, short⟩
    rw [validate_of_fault (examine_of_parse_error parsed)]
    rfl
  | oversizedNumber long =>
    have parsed := Json.parse_eq_error_iff.mpr long
    rw [validate_of_fault (examine_of_parse_error parsed), LoadFault.ofJson, handle_of_value rfl]
  | notAnObject spelled other =>
    apply validate_of_verdict
    rw [examine_of_spells spelled, judge_of_other other]
  | @invalid text _ errors spelled rejected =>
    have examined : examine path (.content text.toUTF8) = .error (.invalid errors) := by
      rw [examine_of_spells spelled, judge, rejected]
      rfl
    rw [validate_of_fault examined, handle_of_value rfl]

/-- Content gives settings or is refused, at the first stage that fails. -/
theorem gives_or_refused_of_content (bytes : ByteArray) :
    (∃ settings, Gives (.content bytes) settings) ∨
      ∃ message, Refused words path (.content bytes) message := by
  -- One case for each stage: decoding, reading json, its root, and its members.
  by_cases encoded : ∃ text : String, bytes = text.toUTF8
  · obtain ⟨text, rfl⟩ := encoded
    rcases parsed : Json.parse text with (_ | digits) | value
    · obtain ⟨unspelled, short⟩ := Json.parse_eq_malformed_iff.mp parsed
      exact .inr ⟨_, .malformed unspelled short⟩
    · exact .inr ⟨_, .oversizedNumber (Json.parse_eq_error_iff.mp parsed)⟩
    · have spelled := Json.parse_eq_ok_iff.mp parsed
      by_cases object : ∃ fields, value = .object fields
      · obtain ⟨fields, rfl⟩ := object
        rcases read : Settings.read fields with errors | settings
        · exact .inr ⟨_, .invalid spelled read⟩
        · exact .inl ⟨settings, text, fields, rfl, spelled, read⟩
      · exact .inr ⟨_, .notAnObject spelled (not_exists.mp object)⟩
  · exact .inr ⟨_, .notUnicode (not_exists.mp encoded)⟩

theorem gives_or_refused (words : LoadFault → String) (path : String) (file : SettingsFile) :
    (∃ settings, file.Gives settings) ∨ ∃ message, Refused words path file message := by
  cases file with
  | missing => exact .inr ⟨_, .missing⟩
  | hidden => exact .inr ⟨_, .closed (.inl rfl)⟩
  | directory => exact .inr ⟨_, .closed (.inr (.inl rfl))⟩
  | locked => exact .inr ⟨_, .closed (.inr (.inr rfl))⟩
  | content bytes => exact gives_or_refused_of_content bytes

theorem validate_eq_accepted_iff :
    file.validate words path = .ok (.accepted settings) ↔ file.Gives settings := by
  refine ⟨fun validated => ?_, Gives.validate⟩
  rcases gives_or_refused words path file with ⟨found, given⟩ | ⟨message, refused⟩
  · rw [given.validate] at validated
    cases validated
    exact given
  · rw [refused.validate] at validated
    cases validated

theorem validate_eq_refused_iff :
    file.validate words path = .ok (.refused message) ↔ Refused words path file message := by
  refine ⟨fun validated => ?_, Refused.validate⟩
  rcases gives_or_refused words path file with ⟨found, given⟩ | ⟨message, refused⟩
  · rw [given.validate] at validated
    cases validated
  · rw [refused.validate] at validated
    cases validated
    exact refused

/-! ### Loading -/

/-- Every message has a text, so none is replaced by the general one. -/
theorem Refused.reason (refused : Refused words path file message) :
    (Verdict.refused message).reason = message := by
  have filled : message.isEmpty = false := by cases refused <;> simp
  simp [Verdict.reason, Verdict.refused, filled]

theorem load_of_accepted (validated : file.validate words path = .ok (.accepted settings)) :
    Settings.load words (some (path, file)) = .ok settings := by
  rw [Settings.load, validated]
  rfl

theorem load_of_refused (refused : Refused words path file message) :
    Settings.load words (some (path, file)) = .error (.reported (.ofLoading message path)) := by
  rw [Settings.load, refused.validate]
  change Except.error (LoadError.reported (.ofLoading (Verdict.refused message).reason path)) = _
  rw [refused.reason]

end

/-- Validation raises nothing: its verdict is valid, and then it has settings and no message, or it
is not, and then it has a message and no settings. Loading answers these settings, or it raises a
report with that message and nothing else. The verdict is valid if the content of the file is
the text of a json object in UTF-8 whose members are accepted, and not otherwise. -/
theorem loading_ends_as_foreseen (words : LoadFault → String) (path : String)
    (file : SettingsFile) :
    let validated := file.validate words path
    let loaded := Settings.load words (some (path, file))
    ((∃ settings, validated = .ok ⟨true, none, some settings⟩ ∧ loaded = .ok settings) ∨
      ∃ message, validated = .ok ⟨false, some message, none⟩ ∧
        loaded = .error (.reported
          { kind := .configuration, message, details := [("path", .text path)] })) ∧
    (∀ settings, validated = .ok ⟨true, none, some settings⟩ ↔ file.Gives settings) ∧
    ∀ message, validated = .ok ⟨false, some message, none⟩ ↔ file.Refused words path message := by
  refine ⟨?_, fun settings => validate_eq_accepted_iff, fun message => validate_eq_refused_iff⟩
  rcases gives_or_refused words path file with ⟨settings, given⟩ | ⟨message, refused⟩
  · exact .inl ⟨settings, given.validate, load_of_accepted given.validate⟩
  · exact .inr ⟨message, refused.validate, load_of_refused refused⟩

end SettingsFile

end Targeting
