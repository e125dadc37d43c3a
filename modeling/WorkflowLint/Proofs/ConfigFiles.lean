import WorkflowLint.Cli.Run
import WorkflowLint.Proofs.DecodingFaults
import WorkflowLint.Proofs.Utf8Texts

/-!
Contract: how reading a configuration file ends.

A file gives a configuration, or it is refused with a message, which ends a check with exit code 2.
Two kinds of content end the reading in another way, and then a check has no exit code: bytes that are no
text, and a YAML text with an obstacle.  Some texts are declined.  Main statement:
`file_configures_refuses_or_breaks`.
-/

set_option autoImplicit false

namespace WorkflowLint

namespace Config

/-! ## What a file says -/

/-- The bytes are those of a text, in which every end of line counts as a line feed. -/
def HoldsText (bytes : List UInt8) (text : List Char) : Prop :=
  ∃ written : List Char, bytes = written.flatMap String.utf8EncodeChar ∧ text = joinLineEnds written

/-- The entries that a text lays over the usual configuration. -/
inductive Lays (text : List Char) : List (Value × Value) → Prop where
  | nothing (empty : text = []) : Lays text []
  | null (isNull : Yaml.HasValue .configuration text .null) : Lays text []
  | mapping {entries : List (Value × Value)}
      (isMapping : Yaml.HasValue .configuration text (.map entries)) : Lays text entries

/-- The bytes say a configuration. -/
def Configures (bytes : List UInt8) (config : Config) : Prop :=
  ∃ text entries, HoldsText bytes text ∧ Lays text entries ∧
    ofEntries (Value.merge usualDocument entries) = .fits config

/-- What stands at a path is refused as a configuration. -/
inductive Refused (path : FilePath) : FileTree → FileFault → Prop where
  | folder {entries : List (String × FileTree)} : Refused path (.folder entries) (.folder path)
  | notYaml {bytes : List UInt8} {text : List Char} {wording : String}
      (holds : HoldsText bytes text)
      (unreadable : Yaml.HasFault .configuration text .unreadable) :
      Refused path (.file bytes) (.content (.notYaml wording))
  | rootKind {bytes : List UInt8} {text : List Char} {value : Value} (holds : HoldsText bytes text)
      (isValue : Yaml.HasValue .configuration text value) (notNull : value ≠ .null)
      (noMapping : ∀ entries, value ≠ .map entries) :
      Refused path (.file bytes) (.content (.rootKind (kindWord value)))
  | mismatched {bytes : List UInt8} {text : List Char} {entries : List (Value × Value)}
      {details : List Detail} (holds : HoldsText bytes text) (lays : Lays text entries)
      (fails : ofEntries (Value.merge usualDocument entries) = .fails details) :
      Refused path (.file bytes) (.content (.mismatched details))

/-- The bytes break the reading off: they are no text, or the text has an obstacle. -/
inductive Breaks (bytes : List UInt8) : FileFault → Prop where
  | undecodable {fault : Text.Utf8.Fault} (noText : ∀ text, ¬ HoldsText bytes text) :
      Breaks bytes (.undecodable fault)
  | badScalar {text : List Char} {fault : Yaml.Fault} (holds : HoldsText bytes text)
      (hasFault : Yaml.HasFault .configuration text fault)
      (obstacle : Yaml.Obstacle .configuration text fault) :
      Breaks bytes (.content (.badScalar fault))

/-- The bytes are those of a text with content that is declined. -/
inductive Declines (bytes : List UInt8) (content : Declined) : Prop where
  | text {text : List Char} (holds : HoldsText bytes text)
      (hasFault : Yaml.HasFault .configuration text (.declined content))
      (declines : Yaml.Declines .configuration text content)

/-! ## Reading -/

theorem fileText_cases (bytes : List UInt8) :
    (∃ text, fileText bytes = .ok text ∧ HoldsText bytes text.toList) ∨
      ∃ fault, fileText bytes = .error fault ∧ ∀ text, ¬ HoldsText bytes text := by
  unfold fileText
  cases decoded : Text.Utf8.decode bytes with
  | ok written =>
      refine .inl ⟨_, rfl, written, (Text.Utf8.decode_eq_ok_iff _ _).mp decoded, ?_⟩
      rw [String.toList_ofList]
  | error fault =>
      refine .inr ⟨fault, rfl, ?_⟩
      rintro text ⟨written, isWritten, -⟩
      rw [(Text.Utf8.decode_eq_ok_iff _ _).mpr isWritten] at decoded
      cases decoded

section

variable {text : List Char} (filled : text ≠ [])

include filled

private theorem textValue_of_decode {value : Value}
    (decoded : Yaml.decode .configuration text = .ok value) :
    textValue text = .ok value := by
  rw [textValue, if_neg (by simpa using filled)]
  simp only [decoded]

theorem textValue_of_unreadable (fails : Yaml.decode .configuration text = .error .unreadable) :
    ∃ wording, textValue text = .error (.notYaml wording) := by
  refine ⟨Yaml.Fault.unreadable.message, ?_⟩
  rw [textValue, if_neg (by simpa using filled)]
  simp only [fails]

private theorem textValue_of_declined {content : Declined}
    (fails : Yaml.decode .configuration text = .error (.declined content)) :
    textValue text = .error (.declined content) := by
  rw [textValue, if_neg (by simpa using filled)]
  simp only [fails]

theorem textValue_of_badScalar {fault : Yaml.Fault}
    (fails : Yaml.decode .configuration text = .error fault)
    (isOwn : fault ≠ .unreadable ∧ ∀ content, fault ≠ .declined content) :
    textValue text = .error (.badScalar fault) := by
  rw [textValue, if_neg (by simpa using filled)]
  simp only [fails]
  cases fault with
  | unreadable => exact absurd rfl isOwn.1
  | declined content => exact absurd rfl (isOwn.2 content)
  | _ => rfl

end

theorem ofText_of_fault {text : List Char} {fault : Fault} (fails : textValue text = .error fault) :
    ofText text = .error fault := by
  rw [ofText, fails]
  rfl

private theorem ofText_of_value {text : List Char} {value : Value}
    (isValue : textValue text = .ok value) :
    (value = .null ∧ ofText text = ofChecked (ofEntries usualDocument)) ∨
    (∃ entries, value = .map entries ∧
      ofText text = ofChecked (ofEntries (Value.merge usualDocument entries))) ∨
    (value ≠ .null ∧ (∀ entries, value ≠ .map entries) ∧
      ofText text = .error (.rootKind (kindWord value))) := by
  rw [ofText, isValue]
  cases value with
  | null => exact .inl ⟨rfl, rfl⟩
  | map entries => exact .inr (.inl ⟨entries, rfl, rfl⟩)
  | _ => exact .inr (.inr ⟨by simp, by simp, rfl⟩)

/-- How the text of a file ends the reading. -/
theorem ofText_cases (text : List Char) :
    (∃ entries, Lays text entries ∧
      ofText text = ofChecked (ofEntries (Value.merge usualDocument entries))) ∨
    (∃ value, Yaml.HasValue .configuration text value ∧ value ≠ .null ∧
      (∀ entries, value ≠ .map entries) ∧ ofText text = .error (.rootKind (kindWord value))) ∨
    (∃ wording, Yaml.HasFault .configuration text .unreadable ∧
      ofText text = .error (.notYaml wording)) ∨
    (∃ fault, Yaml.HasFault .configuration text fault ∧ Yaml.Obstacle .configuration text fault ∧
      ofText text = .error (.badScalar fault)) ∨
    ∃ content, Yaml.HasFault .configuration text (.declined content) ∧
      Yaml.Declines .configuration text content ∧ ofText text = .error (.declined content) := by
  by_cases empty : text = []
  · subst empty
    exact .inl ⟨[], .nothing rfl, rfl⟩
  rcases Yaml.decode_cases .configuration text with
    ⟨value, decoded, hasValue⟩ | ⟨fault, fails, hasFault⟩
  · rcases ofText_of_value (textValue_of_decode empty decoded) with
      ⟨rfl, isText⟩ | ⟨entries, rfl, isText⟩ | ⟨notNull, noMapping, isText⟩
    · exact .inl ⟨[], .null hasValue, isText⟩
    · exact .inl ⟨entries, .mapping hasValue, isText⟩
    · exact .inr (.inl ⟨value, hasValue, notNull, noMapping, isText⟩)
  · rcases hasFault.cause with rfl | obstacle | ⟨content, rfl, declines⟩
    · obtain ⟨wording, isText⟩ := textValue_of_unreadable empty fails
      exact .inr (.inr (.inl ⟨wording, hasFault, ofText_of_fault isText⟩))
    · exact .inr (.inr (.inr (.inl ⟨fault, hasFault, obstacle,
        ofText_of_fault (textValue_of_badScalar empty fails obstacle.isOwn)⟩)))
    · exact .inr (.inr (.inr (.inr ⟨content, hasFault, declines,
        ofText_of_fault (textValue_of_declined empty fails)⟩)))

theorem ofSource_of_text {workspace : Workspace} {path : FilePath} {bytes : List UInt8}
    {text : String} (found : workspace.find? path = some (.file bytes))
    (isText : fileText bytes = .ok text) :
    ofSource workspace (.file path) = (ofText text.toList).mapError .content := by
  have content : fileContent workspace path = .ok text := by
    rw [fileContent, found]
    simp only [isText]
  rw [ofSource, content]
  change ofFileText text = _
  unfold ofFileText
  cases ofText text.toList with
  | ok config => rfl
  | error fault => rfl

theorem ofSource_of_noText {workspace : Workspace} {path : FilePath} {bytes : List UInt8}
    {fault : Text.Utf8.Fault} (found : workspace.find? path = some (.file bytes))
    (fails : fileText bytes = .error fault) :
    ofSource workspace (.file path) = .error (.undecodable fault) := by
  have content : fileContent workspace path = .error (.undecodable fault) := by
    rw [fileContent, found]
    simp only [fails]
  rw [ofSource, content]
  rfl

/-- How reading what stands at a path ends. -/
theorem ofSource_cases {workspace : Workspace} {path : FilePath} {tree : FileTree}
    (found : workspace.find? path = some tree) :
    (∃ bytes config, tree = .file bytes ∧ Configures bytes config ∧
      ofSource workspace (.file path) = .ok config) ∨
    (∃ fault, Refused path tree fault ∧ ofSource workspace (.file path) = .error fault) ∨
    (∃ bytes fault, tree = .file bytes ∧ Breaks bytes fault ∧
      ofSource workspace (.file path) = .error fault) ∨
    ∃ bytes content, tree = .file bytes ∧ Declines bytes content ∧
      ofSource workspace (.file path) = .error (.content (.declined content)) := by
  cases tree with
  | folder entries =>
      refine .inr (.inl ⟨.folder path, .folder, ?_⟩)
      rw [ofSource, fileContent, found]
      rfl
  | file bytes =>
      rcases fileText_cases bytes with ⟨text, isText, holds⟩ | ⟨fault, fails, noText⟩
      · have reads := ofSource_of_text found isText
        rcases ofText_cases text.toList with ⟨entries, lays, isText⟩ |
          ⟨value, hasValue, notNull, noMapping, isText⟩ | ⟨wording, hasFault, isText⟩ |
          ⟨fault, hasFault, obstacle, isText⟩ | ⟨content, hasFault, declines, isText⟩
        · rw [isText] at reads
          cases checked : ofEntries (Value.merge usualDocument entries) with
          | fits config =>
              rw [checked] at reads
              exact .inl ⟨bytes, config, rfl, ⟨text.toList, entries, holds, lays, checked⟩, reads⟩
          | fails details =>
              rw [checked] at reads
              exact .inr (.inl ⟨_, .mismatched holds lays checked, reads⟩)
        · rw [isText] at reads
          exact .inr (.inl ⟨_, .rootKind holds hasValue notNull noMapping, reads⟩)
        · rw [isText] at reads
          exact .inr (.inl ⟨_, .notYaml holds hasFault, reads⟩)
        · rw [isText] at reads
          exact .inr (.inr (.inl ⟨bytes, _, rfl, .badScalar holds hasFault obstacle, reads⟩))
        · rw [isText] at reads
          exact .inr (.inr (.inr ⟨bytes, content, rfl, .text holds hasFault declines, reads⟩))
      · exact .inr (.inr (.inl
          ⟨bytes, _, rfl, .undecodable noText, ofSource_of_noText found fails⟩))

end Config

/-! ## Checks -/

namespace Cli

open Config (Breaks Configures Declines Refused ofSource source)

section

variable {workspace : Workspace} {path : FilePath}

theorem loadConfig_of_file {given : Option String} (isFile : source workspace given = .file path) :
    (loadConfig workspace given).2 = (ofSource workspace (.file path)).mapError configHalt := by
  unfold loadConfig
  rw [isFile, ofSource]
  dsimp only
  cases Config.fileContent workspace path with
  | ok text => rfl
  | error fault => rfl

section

variable {settings : Settings} {options : CheckOptions} {fault : Config.FileFault}
  (isFile : source workspace options.config = .file path)
  (reads : ofSource workspace (.file path) = .error fault)

include isFile reads

private theorem check_of_message {text : String} (halts : configHalt fault = .message text) :
    ∃ events : List Log.Event, check settings workspace options =
      .ok { exitCode := 2, notes := events.map .event ++ [.line text] } := by
  refine ⟨(loadConfig workspace options.config).1, ?_⟩
  unfold check
  dsimp only
  rw [loadConfig_of_file isFile, reads, Except.mapError, halts]
  rfl

theorem check_of_fault {cause : Fault} (halts : configHalt fault = .fault cause) :
    check settings workspace options = .error cause := by
  unfold check
  dsimp only
  rw [loadConfig_of_file isFile, reads, Except.mapError, halts]
  rfl

end

private theorem configHalt_of_refused {tree : FileTree} {fault : Config.FileFault}
    (refused : Refused path tree fault) : configHalt fault = .message ("Error: " ++ fault.message) := by
  cases refused with
  | folder => rfl
  | notYaml => rfl
  | rootKind => rfl
  | mismatched => rfl

private theorem configHalt_of_breaks {bytes : List UInt8} {fault : Config.FileFault}
    (breaks : Breaks bytes fault) : configHalt fault = .fault (.config fault) := by
  cases breaks with
  | undecodable => rfl
  | badScalar => rfl

/-- What stands at a path as a configuration file ends its reading in one of three ways, and a check
that takes its configuration from there accordingly: it gives a configuration, under which the check goes
on; it is refused, and the check ends with the message of the refusal and exit code 2; or it breaks the
reading off, and the check has no exit code.  Otherwise it holds content that is declined. -/
theorem file_configures_refuses_or_breaks {tree : FileTree}
    (found : workspace.find? path = some tree) :
    (∃ bytes config, tree = .file bytes ∧ Configures bytes config ∧
      ofSource workspace (.file path) = .ok config ∧
      ∀ given, source workspace given = .file path → (loadConfig workspace given).2 = .ok config) ∨
    (∃ fault, Refused path tree fault ∧ ofSource workspace (.file path) = .error fault ∧
      ∀ settings options, source workspace options.config = .file path →
        ∃ events : List Log.Event, check settings workspace options = .ok
          { exitCode := 2, notes := events.map .event ++ [.line ("Error: " ++ fault.message)] }) ∨
    (∃ bytes fault, tree = .file bytes ∧ Breaks bytes fault ∧
      ofSource workspace (.file path) = .error fault ∧
      ∀ settings options, source workspace options.config = .file path →
        check settings workspace options = .error (.config fault)) ∨
    (∃ bytes content, tree = .file bytes ∧ Declines bytes content ∧
      ofSource workspace (.file path) = .error (.content (.declined content))) := by
  rcases Config.ofSource_cases found with ⟨bytes, config, isBytes, configures, reads⟩ |
    ⟨fault, refused, reads⟩ | ⟨bytes, fault, isBytes, breaks, reads⟩ | declined
  · refine .inl ⟨bytes, config, isBytes, configures, reads, fun given isFile => ?_⟩
    rw [loadConfig_of_file isFile, reads]
    rfl
  · refine .inr (.inl ⟨fault, refused, reads, fun settings options isFile => ?_⟩)
    exact check_of_message isFile reads (configHalt_of_refused refused)
  · refine .inr (.inr (.inl
      ⟨bytes, fault, isBytes, breaks, reads, fun settings options isFile => ?_⟩))
    exact check_of_fault isFile reads (configHalt_of_breaks breaks)
  · exact .inr (.inr (.inr declined))

end

/-! ## Files of one text -/

/-- A folder in which a configuration file with these bytes is found. -/
def folderOf (bytes : List UInt8) : Workspace :=
  ⟨"/work", .folder [(".flowlint.yml", .file bytes)]⟩

def foundPath : FilePath := ⟨"/work", [".flowlint.yml"]⟩

theorem find?_folderOf (bytes : List UInt8) :
    (folderOf bytes).find? foundPath = some (.file bytes) := rfl

theorem source_folderOf (bytes : List UInt8) : source (folderOf bytes) none = .file foundPath := rfl

/-- The bytes of a text. -/
def bytesOf (text : String) : List UInt8 := text.toList.flatMap String.utf8EncodeChar

theorem ofSource_bytesOf (text : String) (isJoined : joinLineEnds text.toList = text.toList) :
    ofSource (folderOf (bytesOf text)) (.file foundPath) =
      (Config.ofText text.toList).mapError .content := by
  refine Config.ofSource_of_text (find?_folderOf _) ?_
  have decoded : Text.Utf8.decode (bytesOf text) = .ok text.toList :=
    (Text.Utf8.decode_eq_ok_iff _ _).mpr rfl
  rw [fileText, decoded, Except.map, isJoined, String.ofList_toList]

/-- A bracket that is never closed is refused. -/
theorem file_configures_refuses_or_breaks_open :
    (folderOf (bytesOf "[")).find? foundPath = some (.file (bytesOf "[")) ∧
    ∃ wording, Refused foundPath (.file (bytesOf "[")) (.content (.notYaml wording)) ∧
      ∀ settings : Settings, ∃ events : List Log.Event,
        check settings (folderOf (bytesOf "[")) {} = .ok
          { exitCode := 2
            notes := events.map .event ++
              [.line ("Error: " ++ ("Config is not valid YAML: " ++ wording))] } := by
  have found := find?_folderOf (bytesOf "[")
  obtain ⟨wording, unreadable⟩ := @Config.textValue_of_unreadable "[".toList (by decide)
    (Sequence.fault?_eq_some_iff.mp (by decide +kernel))
  have reads := ofSource_bytesOf "[" (by decide)
  rw [Config.ofText_of_fault unreadable] at reads
  generalize bytesOf "[" = bytes at found reads ⊢
  refine ⟨found, wording, ?_⟩
  rcases file_configures_refuses_or_breaks found with ⟨_, _, _, _, isOk, _⟩ |
    ⟨fault, refused, isError, ends⟩ | ⟨_, fault, _, breaks, isError, _⟩ | ⟨_, _, _, _, isError⟩
  · rw [isOk] at reads
    cases reads
  · rw [isError] at reads
    cases reads
    exact ⟨refused, fun settings => ends settings {} (source_folderOf bytes)⟩
  · rw [isError] at reads
    cases reads
    cases breaks
  · rw [isError] at reads
    cases reads

/-- A byte that starts no character, and a scalar that is tagged as an integer and is none: neither
gives a configuration or is refused, and the check has no exit code. -/
theorem broken_files_unrefused :
    (ofSource (folderOf [0xFF]) (.file foundPath) =
        .error (.undecodable ⟨0xFF, 0, 1, .invalidStart⟩) ∧
      ∀ settings output, check settings (folderOf [0xFF]) {} ≠ .ok output) ∧
    ofSource (folderOf (bytesOf "!!int abc")) (.file foundPath) =
        .error (.content (.badScalar (.notInteger 10 "abc"))) ∧
      ∀ settings output, check settings (folderOf (bytesOf "!!int abc")) {} ≠ .ok output := by
  have undecodable : fileText [0xFF] = .error ⟨0xFF, 0, 1, .invalidStart⟩ := by
    rw [fileText, Text.Utf8.decode, Text.Utf8.decodeFrom]
    rfl
  have noText := Config.ofSource_of_noText (find?_folderOf _) undecodable
  have contradicts : Config.ofText "!!int abc".toList = .error (.badScalar (.notInteger 10 "abc")) :=
    Config.ofText_of_fault (Config.textValue_of_badScalar (by decide)
      (Sequence.fault?_eq_some_iff.mp (by decide +kernel)) (by simp))
  have tagged := ofSource_bytesOf "!!int abc" (by decide)
  rw [contradicts] at tagged
  refine ⟨⟨noText, fun settings output => ?_⟩, tagged, fun settings output => ?_⟩
  · rw [check_of_fault (source_folderOf _) noText rfl]
    simp
  · rw [check_of_fault (source_folderOf _) tagged rfl]
    simp

end Cli

end WorkflowLint
