import Targeting.Filter.Entity
import Targeting.Proofs.Outcome
import Targeting.Proofs.Trimming
import Targeting.Settings.Reading

/-!
# Normal settings

Reading trims, changes letter case and converts, and then it checks. Nothing of that is
left to do for settings that were read.

## Main results

* `Settings.isNormal_iff_read_fields`: normal settings are the ones read from their own fields.
* `Settings.accepted_settings_are_fixed`: settings that were read are read from their own
  fields once more, and their namespace completes a type id once and for all.

## Proof strategy

Every field has a reader, and an equivalence says what it accepts (`readNamespace_eq_ok_iff`
and its siblings). From left to right it makes a field normal, whatever it was read from, and
from right to left it accepts a normal one again.
-/
namespace Targeting

/-! ### Readers -/

namespace Settings

theorem readText_eq_ok_iff (value : Json) (result : String) :
    readText value = .ok result ↔ value = .text result := by
  cases value <;> simp [readText]

theorem readPlayerTypeId_eq_ok_iff (value : Json) (result : String) :
    readPlayerTypeId value = .ok result ↔ value = .text result ∧ ':' ∈ result.toList := by
  have step : readPlayerTypeId value = (readText value).bind fun typeId =>
      if typeId.toList.contains ':' then .ok typeId else .error (.bareTypeId typeId) := rfl
  rw [step, bind_eq_ok_iff]
  simp only [readText_eq_ok_iff]
  constructor
  · rintro ⟨typeId, rfl, checked⟩
    split at checked
    next namespaced =>
      cases checked
      exact ⟨rfl, List.contains_iff_mem.mp namespaced⟩
    · cases checked
  · rintro ⟨rfl, namespaced⟩
    exact ⟨result, rfl, if_pos (List.contains_iff_mem.mpr namespaced)⟩

theorem readNamespace_eq_ok_iff (value : Json) (result : String) :
    readNamespace value = .ok result ↔ ∃ written, value = .text written ∧
      result.toList = Text.trim written.toList ∧ result ≠ "" ∧ ':' ∉ result.toList := by
  have step : readNamespace value = (readText value).bind fun written =>
      let plain := Text.trim written.toList
      if plain.isEmpty || plain.contains ':' then .error (.badNamespace (String.ofList plain))
      else .ok (String.ofList plain) := rfl
  rw [step, bind_eq_ok_iff]
  simp only [readText_eq_ok_iff]
  refine exists_congr fun written => and_congr_right fun _ => ?_
  constructor
  · intro checked
    split at checked
    · cases checked
    next sound =>
      cases checked
      simpa using sound
  · rintro ⟨trimmed, filled, plain⟩
    have whole : String.ofList (Text.trim written.toList) = result := by
      rw [← trimmed, String.ofList_toList]
    rw [if_neg (by simpa [← trimmed] using And.intro filled plain), whole]

theorem readPositive_eq_ok_iff (value : Json) (result : Nat) :
    readPositive value = .ok result ↔ readInteger value = .ok (result : Int) ∧ 0 < result := by
  have step : readPositive value = (readInteger value).bind fun n =>
      if 0 < n then .ok n.toNat else .error .notPositive := rfl
  rw [step, bind_eq_ok_iff]
  constructor
  · rintro ⟨n, spelled, checked⟩
    split at checked
    next positive =>
      cases checked
      rw [Int.toNat_of_nonneg (Int.le_of_lt positive)]
      exact ⟨spelled, by omega⟩
    · cases checked
  · rintro ⟨spelled, positive⟩
    exact ⟨result, spelled, if_pos (by omega)⟩

theorem readLevel_eq_ok_iff (value : Json) (level : Log.Level) :
    readLevel value = .ok level ↔
      ∃ name, value = .text name ∧ Log.Level.ofName? name = some level := by
  constructor
  · intro accepted
    obtain ⟨name, written, accepted⟩ := (bind_eq_ok_iff _ _ _).mp accepted
    split at accepted
    next named =>
      cases accepted
      exact ⟨name, (readText_eq_ok_iff value name).mp written, named⟩
    · cases accepted
  · rintro ⟨name, rfl, named⟩
    simp only [readLevel, readText, bind, Except.bind, named]
    rfl

end Settings

theorem Log.Level.ofName?_name (level : Level) : ofName? level.name = some level := by
  cases level <;> decide +kernel

namespace Settings

/-! ### Fields -/

/-- A field holds its default or what its reader accepts. -/
theorem of_readField {α : Type} {P : α → Prop} {fields : List (String × Json)} {name : String}
    {default result : α} {reader : Json → Except FieldProblem α}
    (accepted : readField fields name default reader = .ok result) (byDefault : P default)
    (ofReader : ∀ value, reader value = .ok result → P result) : P result := by
  unfold readField at accepted
  split at accepted
  · cases accepted
    exact byDefault
  next value _ => exact ofReader value ((mapError_eq_ok_iff _ _ _).mp accepted)

theorem readField_of_get {α : Type} {fields : List (String × Json)} {name : String} {value : Json}
    {result : α} {reader : Json → Except FieldProblem α}
    (found : Keyed.get? name fields = some value) (spelled : reader value = .ok result)
    (default : α) : readField fields name default reader = .ok result := by
  simp only [readField, found, mapError_eq_ok_iff, spelled]

/-- Every field is read, and none is unknown. -/
theorem read_eq_ok_iff (fields : List (String × Json)) (settings : Settings) :
    Settings.read fields = .ok settings ↔
      readField fields "player_type_id" "minecraft:player" readPlayerTypeId =
        .ok settings.playerTypeId ∧
      readField fields "default_namespace" "minecraft" readNamespace =
        .ok settings.defaultNamespace ∧
      readField fields "hotbar_size" 9 readPositive = .ok settings.hotbarSize ∧
      readField fields "default_random_count" 1 readPositive = .ok settings.defaultRandomCount ∧
      readField fields "strip_formatting" true readFlag = .ok settings.stripFormatting ∧
      readField fields "log_level" .info readLevel = .ok settings.logLevel ∧
      readField fields "log_file" none readOptionalText = .ok settings.logFile ∧
      unknownFields fields = [] := by
  unfold Settings.read
  simp only
  constructor
  · intro accepted
    split at accepted
    next typeId space hotbar random strip level file unknown =>
      cases accepted
      exact ⟨typeId, space, hotbar, random, strip, level, file, unknown⟩
    · cases accepted
  · rintro ⟨typeId, space, hotbar, random, strip, level, file, unknown⟩
    rw [typeId, space, hotbar, random, strip, level, file, unknown]

/-- The fields that settings have. -/
def fields (settings : Settings) : List (String × Json) :=
  [("player_type_id", .text settings.playerTypeId),
   ("default_namespace", .text settings.defaultNamespace),
   ("hotbar_size", .whole settings.hotbarSize),
   ("default_random_count", .whole settings.defaultRandomCount),
   ("strip_formatting", .flag settings.stripFormatting),
   ("log_level", .text settings.logLevel.name),
   ("log_file", settings.logFile.elim .null .text)]

/-! ### Valid settings -/

/-- The settings are what some fields are read as. -/
def IsValid (settings : Settings) : Prop := ∃ fields, Settings.read fields = .ok settings

/-- Nothing is to be trimmed from the namespace, and every check is met. -/
structure IsNormal (settings : Settings) : Prop where
  playerTypeId : ':' ∈ settings.playerTypeId.toList
  namespace_ne : settings.defaultNamespace ≠ ""
  namespace_plain : ':' ∉ settings.defaultNamespace.toList
  namespace_trimmed :
    Text.trim settings.defaultNamespace.toList = settings.defaultNamespace.toList
  hotbarSize : 0 < settings.hotbarSize
  defaultRandomCount : 0 < settings.defaultRandomCount

theorem IsValid.isNormal {settings : Settings} (valid : settings.IsValid) : settings.IsNormal := by
  obtain ⟨fields, accepted⟩ := valid
  obtain ⟨typeId, space, hotbar, random, -⟩ := (read_eq_ok_iff fields settings).mp accepted
  -- Defaults are not read, so they have to be normal on their own account.
  have positive {name : String} {default result : Nat} (byDefault : 0 < default)
      (counted : readField fields name default readPositive = .ok result) : 0 < result :=
    of_readField counted byDefault fun value spelled =>
      ((readPositive_eq_ok_iff value result).mp spelled).2
  obtain ⟨filled, plain, trimmed⟩ : settings.defaultNamespace ≠ "" ∧
      ':' ∉ settings.defaultNamespace.toList ∧
      Text.trim settings.defaultNamespace.toList = settings.defaultNamespace.toList := by
    refine of_readField (P := fun space => space ≠ "" ∧ ':' ∉ space.toList ∧
      Text.trim space.toList = space.toList) space (by decide) ?_
    intro value spelled
    obtain ⟨written, -, trimmed, filled, plain⟩ := (readNamespace_eq_ok_iff value _).mp spelled
    exact ⟨filled, plain, by rw [trimmed, Text.trim_trim]⟩
  exact {
    playerTypeId := of_readField (P := fun typeId => ':' ∈ typeId.toList) typeId (by decide)
      fun value spelled => ((readPlayerTypeId_eq_ok_iff value _).mp spelled).2
    namespace_ne := filled
    namespace_plain := plain
    namespace_trimmed := trimmed
    hotbarSize := positive (by decide) hotbar
    defaultRandomCount := positive (by decide) random }

/-- By default somebody is drawn: the field is checked, and so is its default. -/
theorem IsValid.defaultRandomCount_pos {settings : Settings} (valid : settings.IsValid) :
    0 < settings.defaultRandomCount :=
  valid.isNormal.defaultRandomCount

/-- Normal settings are read from their own fields. -/
theorem IsNormal.read_fields {settings : Settings} (normal : settings.IsNormal) :
    Settings.read settings.fields = .ok settings := by
  rw [read_eq_ok_iff]
  refine ⟨readField_of_get rfl ?_ _, readField_of_get rfl ?_ _, readField_of_get rfl ?_ _,
    readField_of_get rfl ?_ _, readField_of_get rfl ?_ _, readField_of_get rfl ?_ _,
    readField_of_get rfl ?_ _, rfl⟩
  · exact (readPlayerTypeId_eq_ok_iff _ _).mpr ⟨rfl, normal.playerTypeId⟩
  · exact (readNamespace_eq_ok_iff _ _).mpr
      ⟨_, rfl, normal.namespace_trimmed.symm, normal.namespace_ne, normal.namespace_plain⟩
  · exact (readPositive_eq_ok_iff _ _).mpr ⟨rfl, normal.hotbarSize⟩
  · exact (readPositive_eq_ok_iff _ _).mpr ⟨rfl, normal.defaultRandomCount⟩
  · rfl
  · exact (readLevel_eq_ok_iff _ _).mpr ⟨_, rfl, settings.logLevel.ofName?_name⟩
  · cases settings.logFile <;> rfl

theorem isNormal_iff_read_fields (settings : Settings) :
    settings.IsNormal ↔ Settings.read settings.fields = .ok settings :=
  ⟨IsNormal.read_fields, fun again => IsValid.isNormal ⟨settings.fields, again⟩⟩

end Settings

/-! ### Type ids -/

theorem mem_completeTypeId (space typeId : String) :
    ':' ∈ (completeTypeId space typeId).toList := by
  unfold completeTypeId
  simp only
  split
  next namespaced => simpa using namespaced
  · simp

/-- A type id that is trimmed and has a namespace is complete. -/
theorem completeTypeId_eq_self {space typeId : String} (namespaced : ':' ∈ typeId.toList)
    (trimmed : Text.trim typeId.toList = typeId.toList) : completeTypeId space typeId = typeId := by
  simp [completeTypeId, trimmed, namespaced]

/-- A namespace without blanks around it leaves nothing to complete. -/
theorem completeTypeId_completeTypeId {space : String}
    (trimmed : Text.trim space.toList = space.toList) (typeId : String) :
    completeTypeId space (completeTypeId space typeId) = completeTypeId space typeId := by
  apply completeTypeId_eq_self (mem_completeTypeId space typeId)
  unfold completeTypeId
  simp only
  split
  · simp
  · -- The blanks around the type id are gone, and the colon keeps those of neither side.
    have colon : Text.isBlank ':' = false := by decide
    simpa using Text.trim_append_cons_of_trimmed colon trimmed (Text.trim_trim typeId.toList)

namespace Settings

/-- The settings that fields are read as are normal: the player type has a namespace, the default
namespace is a trimmed word without a colon, sizes are positive and the level has one of five
names. Their own fields are read as the same settings, which is so for normal settings and no
others, and a type id completed with their namespace has a colon and stays as it is if completed
again. -/
theorem accepted_settings_are_fixed (fields : List (String × Json)) (settings : Settings)
    (accepted : Settings.read fields = .ok settings) :
    settings.IsNormal ∧
      settings.logLevel.name ∈ ["DEBUG", "INFO", "WARNING", "ERROR", "CRITICAL"] ∧
      Settings.read settings.fields = .ok settings ∧
      (∀ other : Settings, other.IsNormal ↔ Settings.read other.fields = .ok other) ∧
      ∀ typeId,
        let complete := completeTypeId settings.defaultNamespace typeId
        ':' ∈ complete.toList ∧ completeTypeId settings.defaultNamespace complete = complete := by
  have normal : settings.IsNormal := IsValid.isNormal ⟨fields, accepted⟩
  refine ⟨normal, ?_, normal.read_fields, isNormal_iff_read_fields, ?_⟩
  · cases settings.logLevel <;> decide
  · intro typeId complete
    exact ⟨mem_completeTypeId _ typeId,
      completeTypeId_completeTypeId normal.namespace_trimmed typeId⟩

/-- A namespace between blanks, a size spelled as text and a level in small letters are read as
settings whose fields are written otherwise. -/
theorem accepted_settings_are_fixed_of_spelled :
    let spelled : List (String × Json) :=
      [("default_namespace", .text " \tgame\n"), ("hotbar_size", .text " +0_12.0"),
       ("strip_formatting", .text "OFF"), ("log_level", .text " error ")]
    let settings : Settings :=
      { defaultNamespace := "game", hotbarSize := 12, stripFormatting := false, logLevel := .error }
    Settings.read spelled = .ok settings ∧ Settings.read settings.fields = .ok settings ∧
      completeTypeId settings.defaultNamespace " pig " = "game:pig" ∧
      completeTypeId settings.defaultNamespace "game:pig" = "game:pig" := by
  intro spelled settings
  have accepted : Settings.read spelled = .ok settings := by decide +kernel
  obtain ⟨-, -, again, -, completes⟩ := accepted_settings_are_fixed spelled settings accepted
  have complete : completeTypeId settings.defaultNamespace " pig " = "game:pig" := by
    decide +kernel
  have fixed := (completes " pig ").2
  rw [complete] at fixed
  exact ⟨accepted, again, complete, fixed⟩

end Settings

end Targeting
