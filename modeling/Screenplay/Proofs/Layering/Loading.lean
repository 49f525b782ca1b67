import Screenplay.Config.Layers
import Screenplay.Proofs.Layering.Definitions

/-!
# Loading layers

What loading a configuration comes to, told by what the three files hold.  Without a base
there is nothing, whatever else there is.  Otherwise the first file that cannot be used
decides, in the order of the layers.  If all of them can be used, the last layer must not
define a name that is new, and each name has its value from the last layer that gives it
one.
-/

namespace Screenplay

/-! ## Files -/

namespace FileState

theorem fromUTF8?_eq_some_iff {bytes : ByteArray} {content : String} :
    String.fromUTF8? bytes = some content ↔ content.toUTF8 = bytes := by
  rw [String.fromUTF8?]
  constructor
  · intro decoded
    split at decoded
    next valid =>
      cases decoded
      rfl
    next => cases decoded
  · rintro rfl
    rw [dif_pos (show content.toUTF8.IsValidUTF8 from content.isValidUTF8)]
    rfl

/-- A file holds a text if its bytes are those of the text in UTF-8. -/
theorem ofBytes_eq_text_iff {bytes : ByteArray} {content : String} :
    ofBytes bytes = .text content ↔ content.toUTF8 = bytes := by
  rw [← fromUTF8?_eq_some_iff, ofBytes]
  cases String.fromUTF8? bytes <;> simp

/-- A file whose bytes are not UTF-8 is as good as one that cannot be opened. -/
theorem ofBytes_eq_unreadable_iff {bytes : ByteArray} :
    ofBytes bytes = .unreadable ↔ ∀ content : String, content.toUTF8 ≠ bytes := by
  simp only [ne_eq, ← fromUTF8?_eq_some_iff, ofBytes]
  cases String.fromUTF8? bytes <;> simp

end FileState

namespace LayerFile

/-- What a file gives as a layer that may be blank, or as one that may not. -/
inductive Gives (file : LayerFile) (mayBeBlank : Bool) :
    Except ConfigError (Option Config) → Prop where
  | absent (state : file.state = .absent) : Gives file mayBeBlank (.ok none)
  | unreadable (state : file.state = .unreadable) :
      Gives file mayBeBlank (.error (.unreadable file.path))
  | blank {content : String} (state : file.state = .text content)
      (blank : ∀ character ∈ content.toList, Text.isBlank character = true)
      (allowed : mayBeBlank = true) : Gives file mayBeBlank (.ok none)
  | empty {content : String} (state : file.state = .text content)
      (blank : ∀ character ∈ content.toList, Text.isBlank character = true)
      (allowed : mayBeBlank = false) : Gives file mayBeBlank (.error (.emptyFile file.path))
  | refused {content : String} {error : ConfigError} (state : file.state = .text content)
      (visible : ∃ character ∈ content.toList, Text.isBlank character = false)
      (read : Config.ofText content = .error error) : Gives file mayBeBlank (.error error)
  | layer {content : String} {config : Config} (state : file.state = .text content)
      (visible : ∃ character ∈ content.toList, Text.isBlank character = false)
      (read : Config.ofText content = .ok config) : Gives file mayBeBlank (.ok (some config))

end LayerFile

namespace Layers

/-- What a file gives that is configured or not. -/
inductive Gives (mayBeBlank : Bool) :
    Option LayerFile → Except ConfigError (Option Config) → Prop where
  | nothing : Gives mayBeBlank none (.ok none)
  | file {file : LayerFile} {given : Except ConfigError (Option Config)}
      (gives : file.Gives mayBeBlank given) : Gives mayBeBlank (some file) given

/-- What a layer defines, if there is one. -/
def defined : Option Config → Definitions
  | none => fun _ => ∅
  | some layer => layer.definitions

/-- What loading comes to. -/
inductive Loads (layers : Layers) : Except ConfigError (Option Config) → Prop where
  /-- Without a base nothing else matters. -/
  | nothing (base : layers.base.Gives true (.ok none)) : Loads layers (.ok none)
  | baseFails {error : ConfigError} (base : layers.base.Gives true (.error error)) :
      Loads layers (.error error)
  | gasFails {base : Config} {error : ConfigError}
      (hasBase : layers.base.Gives true (.ok (some base)))
      (gas : Gives true layers.gas (.error error)) : Loads layers (.error error)
  | runtimeFails {base : Config} {gas : Option Config} {error : ConfigError}
      (hasBase : layers.base.Gives true (.ok (some base)))
      (hasGas : Gives true layers.gas (.ok gas))
      (runtime : Gives false layers.runtime (.error error)) : Loads layers (.error error)
  /-- The last layer defines names that neither of the others defines. -/
  | unknown {base : Config} {gas runtime : Option Config} {part : Section}
      {names : List String}
      (hasBase : layers.base.Gives true (.ok (some base)))
      (hasGas : Gives true layers.gas (.ok gas))
      (hasRuntime : Gives false layers.runtime (.ok runtime))
      (unknown : FirstUnknown Section.all
        (fun part name => Defines base.definitions part name ∨ Defines (defined gas) part name)
        (defined runtime) part names) :
      Loads layers (.error (.unknownKeys part names))
  /-- The names are those of the first two layers, and the last value wins. -/
  | loaded {base config : Config} {gas runtime : Option Config}
      (hasBase : layers.base.Gives true (.ok (some base)))
      (hasGas : Gives true layers.gas (.ok gas))
      (hasRuntime : Gives false layers.runtime (.ok runtime))
      (known : ∀ part name, Defines (defined runtime) part name →
        Defines base.definitions part name ∨ Defines (defined gas) part name)
      (names : ∀ part name, Defines config.definitions part name ↔
        Defines base.definitions part name ∨ Defines (defined gas) part name)
      (values : ∀ part name, (config.definitions part).get? name =
        ((defined runtime part).get? name <|> (defined gas part).get? name <|>
          (base.definitions part).get? name)) :
      Loads layers (.ok (some config))

/-! ## Reading one layer -/

theorem isBlankText_eq_true_iff {content : String} :
    Text.isBlankText content = true ↔
      ∀ character ∈ content.toList, Text.isBlank character = true := by
  rw [Text.isBlankText, List.all_eq_true]

theorem isBlankText_eq_false_iff {content : String} :
    Text.isBlankText content = false ↔
      ∃ character ∈ content.toList, Text.isBlank character = false := by
  simp [Text.isBlankText]

/-- Read a file that may be blank, or one that may not. -/
def readFile (mayBeBlank : Bool) : LayerFile → Except ConfigError (Option Config) :=
  if mayBeBlank then readOptional else readRuntime

theorem gives_readFile (mayBeBlank : Bool) (file : LayerFile) :
    file.Gives mayBeBlank (readFile mayBeBlank file) := by
  rcases file with ⟨path, absent | unreadable | content⟩
  case absent => cases mayBeBlank <;> exact .absent rfl
  case unreadable => cases mayBeBlank <;> exact .unreadable rfl
  case text =>
    cases blank : Text.isBlankText content with
    | true =>
        have allBlank := isBlankText_eq_true_iff.1 blank
        cases mayBeBlank with
        | true => simpa [readFile, readOptional, blank] using .blank rfl allBlank rfl
        | false => simpa [readFile, readRuntime, blank] using .empty rfl allBlank rfl
    | false =>
        have visible := isBlankText_eq_false_iff.1 blank
        have same : readFile mayBeBlank ⟨path, .text content⟩ = some <$> Config.ofText content := by
          cases mayBeBlank <;> simp [readFile, readOptional, readRuntime, blank]
        rw [same]
        cases read : Config.ofText content with
        | error => exact .refused rfl visible read
        | ok => exact .layer rfl visible read

theorem gives_iff {mayBeBlank : Bool} {file : LayerFile}
    {given : Except ConfigError (Option Config)} :
    file.Gives mayBeBlank given ↔ readFile mayBeBlank file = given := by
  constructor
  · intro gives
    cases gives with
    | absent state => cases mayBeBlank <;> simp [readFile, readOptional, readRuntime, state]
    | unreadable state => cases mayBeBlank <;> simp [readFile, readOptional, readRuntime, state]
    | blank state blank allowed =>
        simp [readFile, readOptional, state, isBlankText_eq_true_iff.2 blank, allowed]
    | empty state blank allowed =>
        simp [readFile, readRuntime, state, isBlankText_eq_true_iff.2 blank, allowed]
    | refused state visible read | layer state visible read =>
        cases mayBeBlank <;> simp [readFile, readOptional, readRuntime, state,
          isBlankText_eq_false_iff.2 visible, read]
  · rintro rfl
    exact gives_readFile mayBeBlank file

/-- Read a file that is configured or not. -/
def readGiven (mayBeBlank : Bool) : Option LayerFile → Except ConfigError (Option Config)
  | none => .ok none
  | some file => readFile mayBeBlank file

theorem gives_iff_readGiven {mayBeBlank : Bool} {file : Option LayerFile}
    {given : Except ConfigError (Option Config)} :
    Gives mayBeBlank file given ↔ readGiven mayBeBlank file = given := by
  constructor
  · intro gives
    cases gives with
    | nothing => rfl
    | file gives => exact gives_iff.1 gives
  · rintro rfl
    cases file with
    | none => exact .nothing
    | some file => exact .file (gives_readFile mayBeBlank file)

/-! ## Putting layers together -/

/-- A configuration with a lenient layer, if there is one. -/
def mergeGiven (config : Config) : Option Config → Config
  | none => config
  | some layer => config.merge layer

/-- A configuration with a strict layer, if there is one. -/
def overrideGiven (config : Config) : Option Config → Except ConfigError Config
  | none => .ok config
  | some layer => config.override layer

theorem definitions_mergeGiven (config : Config) (layer : Option Config) (part : Section) :
    (mergeGiven config layer).definitions part =
      (config.definitions part).merge (defined layer part) := by
  cases layer with
  | none => rfl
  | some layer => exact config.definitions_merge layer part

theorem applyGas_eq (config : Config) (file : Option LayerFile) :
    applyGas config file = mergeGiven config <$> readGiven true file := by
  cases file with
  | none => rfl
  | some file =>
      change (readOptional file >>= _) = mergeGiven config <$> readOptional file
      rcases readOptional file with error | none | layer <;> rfl

theorem applyRuntime_eq (config : Config) (file : Option LayerFile) :
    applyRuntime config file = readGiven false file >>= overrideGiven config := by
  cases file with
  | none => rfl
  | some file =>
      change (readRuntime file >>= _) = readRuntime file >>= overrideGiven config
      rcases readRuntime file with error | none | layer <;> rfl

/-- What is left to do with a base, if there is one: the other files are read in order,
and the layers are put together once all are read. -/
def withBase (layers : Layers) : Option Config → Except ConfigError (Option Config)
  | none => .ok none
  | some base => do
      let gas ← readGiven true layers.gas
      let runtime ← readGiven false layers.runtime
      some <$> overrideGiven (mergeGiven base gas) runtime

theorem load_eq (layers : Layers) :
    layers.load = readFile true layers.base >>= layers.withBase := by
  rw [load]
  change (readFile true layers.base >>= _) = _
  rcases readFile true layers.base with error | none | base
  · rfl
  · rfl
  · change (applyGas base layers.gas >>= fun config => some <$> applyRuntime config layers.runtime)
      = layers.withBase (some base)
    rw [applyGas_eq, withBase]
    rcases readGiven true layers.gas with error | gas
    · rfl
    · change some <$> applyRuntime (mergeGiven base gas) layers.runtime = _
      rw [applyRuntime_eq]
      rcases readGiven false layers.runtime with error | runtime <;> rfl

theorem load_of_base {layers : Layers} {base : Option Config}
    (gives : layers.base.Gives true (.ok base)) : layers.load = layers.withBase base := by
  rw [load_eq, gives_iff.1 gives]
  rfl

theorem load_of_given {layers : Layers} {base : Config} {gas runtime : Option Config}
    (hasBase : layers.base.Gives true (.ok (some base))) (hasGas : Gives true layers.gas (.ok gas))
    (hasRuntime : Gives false layers.runtime (.ok runtime)) :
    layers.load = some <$> overrideGiven (mergeGiven base gas) runtime := by
  rw [load_of_base hasBase, withBase, gives_iff_readGiven.1 hasGas,
    gives_iff_readGiven.1 hasRuntime]
  rfl

/-- A strict layer, if there is one, is merged if it only defines known names, and else
refused. -/
theorem overrideGiven_cases (config : Config) (layer : Option Config) :
    (overrideGiven config layer = .ok (mergeGiven config layer) ∧
        ∀ part name, Defines (defined layer) part name → Defines config.definitions part name) ∨
      ∃ part names, overrideGiven config layer = .error (.unknownKeys part names) ∧
        FirstUnknown Section.all (Defines config.definitions) (defined layer) part names := by
  cases layer with
  | none => exact .inl ⟨rfl, fun part name defines => by cases defines⟩
  | some layer => exact config.override_cases layer

theorem defines_mergeGiven_iff {config : Config} {layer : Option Config} {part : Section}
    {name : String} :
    Defines (mergeGiven config layer).definitions part name ↔
      Defines config.definitions part name ∨ Defines (defined layer) part name := by
  rw [Defines, definitions_mergeGiven, NameMap.mem_names_merge]
  rfl

/-- What loading comes to when all files can be used. -/
theorem loads_overrideGiven {layers : Layers} {base : Config} {gas runtime : Option Config}
    (hasBase : layers.base.Gives true (.ok (some base))) (hasGas : Gives true layers.gas (.ok gas))
    (hasRuntime : Gives false layers.runtime (.ok runtime)) :
    Loads layers (some <$> overrideGiven (mergeGiven base gas) runtime) := by
  rcases overrideGiven_cases (mergeGiven base gas) runtime with
    ⟨accepted, known⟩ | ⟨part, names, refused, unknown⟩
  · rw [accepted]
    refine .loaded hasBase hasGas hasRuntime ?_ ?_ ?_
    · exact fun part name defines => defines_mergeGiven_iff.1 (known part name defines)
    · intro part name
      rw [defines_mergeGiven_iff, or_iff_left_of_imp (known part name), defines_mergeGiven_iff]
    · intro part name
      rw [definitions_mergeGiven, definitions_mergeGiven, NameMap.get?_merge, NameMap.get?_merge]
  · rw [refused]
    exact .unknown hasBase hasGas hasRuntime (unknown.congr fun _ _ => defines_mergeGiven_iff)

theorem loads_load (layers : Layers) : Loads layers layers.load := by
  rw [load_eq]
  rcases read : readFile true layers.base with error | none | base
  · exact .baseFails (gives_iff.2 read)
  · exact .nothing (gives_iff.2 read)
  · have hasBase := gives_iff.2 read
    change Loads layers (layers.withBase (some base))
    rw [withBase]
    rcases gas : readGiven true layers.gas with error | gas
    · exact .gasFails hasBase (gives_iff_readGiven.2 gas)
    · have hasGas := gives_iff_readGiven.2 gas
      rcases runtime : readGiven false layers.runtime with error | runtime
      · exact .runtimeFails hasBase hasGas (gives_iff_readGiven.2 runtime)
      · exact loads_overrideGiven hasBase hasGas (gives_iff_readGiven.2 runtime)

/-- The files alone say what loading comes to. -/
theorem Loads.load_eq {layers : Layers} {result : Except ConfigError (Option Config)}
    (loads : Loads layers result) : layers.load = result := by
  cases loads with
  | nothing base => exact load_of_base base
  | baseFails base =>
      rw [Layers.load_eq, gives_iff.1 base]
      rfl
  | gasFails hasBase gas =>
      rw [load_of_base hasBase, withBase, gives_iff_readGiven.1 gas]
      rfl
  | runtimeFails hasBase hasGas runtime =>
      rw [load_of_base hasBase, withBase, gives_iff_readGiven.1 hasGas,
        gives_iff_readGiven.1 runtime]
      rfl
  | @unknown base gas runtime part names hasBase hasGas hasRuntime unknown =>
      rw [load_of_given hasBase hasGas hasRuntime]
      rcases overrideGiven_cases (mergeGiven base gas) runtime with
        ⟨-, known⟩ | ⟨other, others, refused, alsoUnknown⟩
      · obtain ⟨name, defined, notKnown⟩ := unknown.exists_unknown
        exact (notKnown (defines_mergeGiven_iff.1 (known part name defined))).elim
      · obtain ⟨rfl, rfl⟩ := unknown.unique (alsoUnknown.congr fun _ _ => defines_mergeGiven_iff)
        rw [refused]
        rfl
  | @loaded base config gas runtime hasBase hasGas hasRuntime known names values =>
      rw [load_of_given hasBase hasGas hasRuntime]
      rcases overrideGiven_cases (mergeGiven base gas) runtime with
        ⟨accepted, -⟩ | ⟨part, others, -, unknown⟩
      · have same : config = mergeGiven (mergeGiven base gas) runtime := by
          refine Config.ext_definitions fun part => NameMap.ext_get? fun name => ?_
          rw [values, definitions_mergeGiven, definitions_mergeGiven, NameMap.get?_merge,
            NameMap.get?_merge]
        rw [accepted, same]
        rfl
      · obtain ⟨name, defined, notKnown⟩ := unknown.exists_unknown
        exact (notKnown (defines_mergeGiven_iff.2 (known part name defined))).elim

/-- Loading comes to what the files say, where a file whose bytes are not UTF-8 is one
that cannot be read. -/
theorem load_eq_iff_loads :
    (∀ bytes content, FileState.ofBytes bytes = .text content ↔ content.toUTF8 = bytes) ∧
    (∀ bytes, FileState.ofBytes bytes = .unreadable ↔
      ∀ content : String, content.toUTF8 ≠ bytes) ∧
    ∀ (layers : Layers) (result : Except ConfigError (Option Config)),
      layers.load = result ↔ Loads layers result := by
  refine ⟨fun _ _ => FileState.ofBytes_eq_text_iff, fun _ => FileState.ofBytes_eq_unreadable_iff,
    fun layers result => ⟨?_, Loads.load_eq⟩⟩
  rintro rfl
  exact loads_load layers

end Layers

end Screenplay
