/-
**Which source a setting comes from.**

* `ComesFrom`: a value is that of the first of some sources that is not silent about its path;
* `mergedLeafwise`: when fields are merged the one side overrides the other value by value;
* `namesDiffer_environmentFields`: the environment gives no setting twice;
* `Manager.load_precedence`: the settings that are checked come from the overrides, the environment
  and the file, in this order.
-/

import DocQuery.Proofs.Config.Manager
import DocQuery.Proofs.Config.Merge

namespace DocQuery

/-! ### Sources in their order -/

/-- A value at a path is that of the first of some sources that is not silent about it. -/
def ComesFrom : List Fields → List String → Json → Prop
  | [], _, _ => False
  | source :: lower, path, value => exactly? (.object source) path = some value ∨
    Silent (.object source) path ∧ ComesFrom lower path value

theorem comesFrom_pair {base above : Fields} {path : List String} {value : Json} :
    ComesFrom [above, base] path value ↔ exactly? (.object above) path = some value ∨
      exactly? (.object base) path = some value ∧ Silent (.object above) path := by
  simp [ComesFrom, and_comm]

/-- Fields in which others override the ones of a base, value by value. -/
structure MergedLeafwise (base above merged : Fields) : Prop where
  /-- A value that is no object comes from the others or, if they are silent about it, from the
  base. -/
  leaf : ∀ path value, value.IsLeaf → (exactly? (.object merged) path = some value ↔
    exactly? (.object above) path = some value ∨
      exactly? (.object base) path = some value ∧ Silent (.object above) path)
  /-- What the others are silent about stays as it is, objects included. -/
  kept : ∀ path, Silent (.object above) path →
    exactly? (.object merged) path = exactly? (.object base) path
  /-- Where both have an object, the new names of the others stand behind those of the base. -/
  order : ∀ path fields others, exactly? (.object base) path = some (.object fields) →
    exactly? (.object above) path = some (.object others) →
    ∃ names : Fields, exactly? (.object merged) path = some (.object names) ∧
      names.keys = Table.keys fields ++ (Table.keys others).filter (· ∉ Table.keys fields)

/-- **Merged fields override the base value by value.** -/
theorem mergedLeafwise {above : Fields} (differ : (Json.object above).NamesDiffer) (base : Fields) :
    MergedLeafwise base above (mergeFields base above) where
  leaf _ _ leaf := exactly?_mergeFields_iff differ leaf
  kept path silent := by
    rw [← mergeValue_objects]
    exact exactly?_mergeValue_of_silent differ silent _
  order _ _ _ isBase isOver := exactly?_mergeFields_objects differ isBase isOver

/-! ### The environment -/

/-- Some fields have names from a list, one at most of each, and no name twice inside of them. -/
structure Within (names : List String) (fields : Fields) : Prop where
  keys : fields.keys.Sublist names
  differ : ∀ entry ∈ fields, entry.2.NamesDiffer

namespace Within

variable {names more : List String} {fields others : Fields}

theorem append (within : Within names fields) (behind : Within more others) :
    Within (names ++ more) (fields ++ others) where
  keys := by
    rw [Table.keys, List.map_append]
    exact within.keys.append behind.keys
  differ := List.forall_mem_append.mpr ⟨within.differ, behind.differ⟩

theorem single {name : String} {value : Json} (differ : value.NamesDiffer) :
    Within [name] [(name, value)] :=
  ⟨.refl _, List.forall_mem_singleton.mpr differ⟩

theorem empty (names : List String) : Within names [] :=
  ⟨List.nil_sublist _, fun _ member => absurd member List.not_mem_nil⟩

/-- If the names are different the fields form an object without repeated names. -/
theorem namesDiffer (within : Within names fields) (distinct : names.Nodup) :
    (Json.object fields).NamesDiffer :=
  .object (distinct.sublist within.keys)
    fun name value found => within.differ (name, value) (Table.mem_of_get? found)

theorem namedObject {name : String} (differ : (Json.object fields).NamesDiffer) :
    Within [name] (namedObject name fields) := by
  rw [DocQuery.namedObject]
  split
  · exact .empty _
  · exact .single differ

theorem variableField {surroundings : Surroundings} {variableName setting : String}
    {read : String → Option Json} (leaf : ∀ text value, read text = some value → value.IsLeaf)
    (found : variableField surroundings variableName setting read = .ok fields) :
    Within [setting] fields := by
  rw [DocQuery.variableField] at found
  split at found
  · cases found
    exact .empty _
  · next text _ =>
    split at found
    · next value isRead =>
      cases found
      exact .single (.leaf (leaf text value isRead))
    · cases found

end Within

theorem isLeaf_string (text : String) : (Json.string text).IsLeaf := nofun

theorem isLeaf_int (number : Int) : (Json.int number).IsLeaf := nofun

theorem isLeaf_float (number : Binary64) : (Json.float number).IsLeaf := nofun

theorem isLeaf_array (items : List Json) : (Json.array items).IsLeaf := nofun

theorem isLeaf_of_some {make : String → Json} (each : ∀ text, (make text).IsLeaf) :
    ∀ text value, some (make text) = some value → value.IsLeaf := by
  rintro text _ ⟨⟩
  exact each text

theorem isLeaf_of_map {α : Type} {find? : String → Option α} {make : α → Json}
    (each : ∀ found, (make found).IsLeaf) :
    ∀ text value, (find? text).map make = some value → value.IsLeaf := by
  intro text value made
  obtain ⟨found, -, rfl⟩ := Option.map_eq_some_iff.mp made
  exact each found

/-- The environment gives no setting twice. -/
theorem namesDiffer_environmentFields {surroundings : Surroundings} {fields : Fields}
    (found : environmentFields surroundings = .ok fields) : (Json.object fields).NamesDiffer := by
  unfold environmentFields at found
  obtain ⟨level, isLevel, found⟩ := bind_eq_ok.mp found
  obtain ⟨format, isFormat, found⟩ := bind_eq_ok.mp found
  obtain ⟨file, isFile, found⟩ := bind_eq_ok.mp found
  obtain ⟨aliases, isAliases, found⟩ := bind_eq_ok.mp found
  obtain ⟨tolerance, isTolerance, found⟩ := bind_eq_ok.mp found
  obtain ⟨pageSize, isPageSize, ⟨⟩⟩ := bind_eq_ok.mp found
  have level := Within.variableField (isLeaf_of_some fun _ => isLeaf_string _) isLevel
  have format := Within.variableField (isLeaf_of_some fun _ => isLeaf_string _) isFormat
  have file := Within.variableField (isLeaf_of_some fun _ => isLeaf_string _) isFile
  have aliases := Within.variableField (isLeaf_of_some fun _ => isLeaf_array _) isAliases
  have tolerance := Within.variableField (isLeaf_of_map isLeaf_float) isTolerance
  have pageSize := Within.variableField (isLeaf_of_map isLeaf_int) isPageSize
  have logging := ((level.append format).append file).namesDiffer (by decide)
  have query := ((aliases.append tolerance).append pageSize).namesDiffer (by decide)
  exact ((Within.namedObject logging).append (.namedObject query)).namesDiffer (by decide)

/-! ### Loading -/

/-- What is gathered is merged from the file, the environment and the overrides. -/
theorem gatherSettings_eq {surroundings : Surroundings} {held environment given : Fields}
    {overrides : Json} (isEnvironment : environmentFields surroundings = .ok environment)
    (isGiven : overrides = .object given ∨ overrides = .null ∧ given = []) :
    gatherSettings surroundings (.object held) overrides =
      .ok (mergeFields (mergeFields held environment) given) := by
  rw [gatherSettings, isEnvironment, ok_bind, settingsFields, ok_bind]
  rcases isGiven with rfl | ⟨rfl, rfl⟩
  · rw [overrideFields]
    split
    · next empty =>
      rw [List.isEmpty_iff.mp empty, mergeFields]
    · rfl
  · rw [mergeFields]
    rfl

namespace Manager

/-- **Each setting comes from the highest source that defines it.** Of two objects, of which the
second has no repeated names, the second overrides the first value by value. So when settings are
loaded, with any reader of YAML, those that are checked are those of the overrides, then of the
environment and then of the file, and what a higher source is silent about stays as it is in the
lower ones. -/
theorem load_precedence :
    (∀ base above : Fields, (Json.object above).NamesDiffer →
      MergedLeafwise base above (mergeFields base above)) ∧
    ∀ (readYaml : YamlReader) (manager : Manager) (surroundings : Surroundings)
      (file : Option String) (overrides : Json) (held environment given : Fields),
      baseOf readYaml surroundings file = .ok (.object held) →
      environmentFields surroundings = .ok environment →
      (overrides = .object given ∨ overrides = .null ∧ given = []) →
      (Json.object given).NamesDiffer →
      ∃ merged : Fields,
        (manager.run (loadUsing readYaml surroundings file overrides)).1 =
          (Settings.ofFields merged).toExcept.mapError .invalid ∧
        (∀ path value, value.IsLeaf → (exactly? (.object merged) path = some value ↔
          ComesFrom [given, environment, held] path value)) ∧
        ∀ path, Silent (.object given) path → Silent (.object environment) path →
          exactly? (.object merged) path = exactly? (.object held) path := by
  refine ⟨fun base above differ => mergedLeafwise differ base, ?_⟩
  intro readYaml manager surroundings file overrides held environment given isHeld isEnvironment
    isGiven differ
  have first := mergedLeafwise (namesDiffer_environmentFields isEnvironment) held
  have second := mergedLeafwise differ (mergeFields held environment)
  refine ⟨mergeFields (mergeFields held environment) given, ?_, fun path value leaf => ?_,
    fun path silent silent' => ?_⟩
  · rw [run_loadUsing, isHeld]
    dsimp only
    rw [checkedSettings, gatherSettings_eq isEnvironment isGiven, ok_bind]
    cases (Settings.ofFields _).toExcept.mapError ConfigError.invalid <;> rfl
  · rw [second.leaf path value leaf, first.leaf path value leaf, ComesFrom, comesFrom_pair]
    exact or_congr_right and_comm
  · rw [second.kept path silent, first.kept path silent']

/-- A file and a variable that give the same setting, and the file another one. -/
def levelTwice : Surroundings where
  files := [("a.json", "\x7b\"logging\":\x7b\"level\":\"DEBUG\",\"file\":\"x\"\x7d\x7d")]
  environment := [("LOCALCOSMOS_LOG_LEVEL", "warning")]

/-- Whether a value is a given text. -/
def isText (text : String) : Json → Bool
  | .string found => found == text
  | _ => false

theorem eq_of_isText {text : String} {value : Json} (holds : isText text value = true) :
    value = .string text := by
  cases value with
  | string found => exact congrArg Json.string (eq_of_beq holds)
  | _ => cases holds

/-- Settings of all three sources in one object. -/
theorem load_precedence_levelTwice : ∃ merged : Fields,
    (({} : Manager).run (loadUsing withoutYaml levelTwice (some "a.json")
      (.object [("logging", .object [("format", .string "json")])]))).1 =
        (Settings.ofFields merged).toExcept.mapError .invalid ∧
      exactly? (.object merged) ["logging", "format"] = some (.string "json") ∧
      exactly? (.object merged) ["logging", "level"] = some (.string "WARNING") ∧
      exactly? (.object merged) ["logging", "file"] = some (.string "x") := by
  obtain ⟨base, isBase, holds⟩ := exists_of_any
    (show (baseOf withoutYaml levelTwice (some "a.json")).toOption.any (fun base =>
        (exactly? base ["logging", "file"]).any (isText "x")) by
      decide +kernel)
  obtain ⟨value, isFile, isX⟩ := (Option.any_eq_true _ _).mp holds
  obtain rfl := eq_of_isText isX
  obtain leaf | ⟨held, rfl⟩ := base.isLeaf_or_object
  · rw [leaf.exactly?_cons] at isFile
    cases isFile
  have nested : (Json.object [("format", .string "json")]).NamesDiffer :=
    (Within.single (.leaf (isLeaf_string _))).namesDiffer (show ["format"].Nodup by decide)
  have given := (Within.single nested).namesDiffer (show ["logging"].Nodup by decide)
  obtain ⟨merged, isLoaded, comes, -⟩ := load_precedence.2 withoutYaml {} levelTwice
    (some "a.json") (.object [("logging", .object [("format", .string "json")])]) held
    [("logging", .object [("level", .string "WARNING")])]
    [("logging", .object [("format", .string "json")])] isBase rfl (.inl rfl)
    given
  have silent (value : Json) (name setting : String) (other : name ≠ setting) :
      Silent (.object [("logging", .object [(name, value)])]) ["logging", setting] := by
    refine silent_cons.mpr ?_
    rintro _ ⟨⟩
    refine silent_cons.mpr fun child found => ?_
    rw [Table.get?, if_neg other] at found
    cases found
  refine ⟨merged, isLoaded, ?_, ?_, ?_⟩
  · exact (comes _ _ (isLeaf_string _)).mpr (.inl rfl)
  · exact (comes _ _ (isLeaf_string _)).mpr (.inr ⟨silent _ _ _ (by decide), .inl rfl⟩)
  · exact (comes _ _ (isLeaf_string _)).mpr (.inr ⟨silent _ _ _ (by decide),
      .inr ⟨silent _ _ _ (by decide), .inl isFile⟩⟩)

end Manager

end DocQuery
