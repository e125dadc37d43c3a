import WorkflowLint.Proofs.JsonFaults
import WorkflowLint.Proofs.RunVerdict
import WorkflowLint.Proofs.YamlComposition
import WorkflowLint.Proofs.YamlConstruction

/-!
Contract: how decoding a document ends.

A text is decoded as JSON or else as YAML, and it is refused when it is neither.  Some content ends decoding
in another way: a JSON integer of too many digits, a YAML code escape past the last code point, a YAML
version of too many digits, and a YAML scalar that contradicts its tag.  Half a pair, an alias inside its own
node and deep nesting are declined.  Main statement: `decoding_refuses_or_meets_obstacle`.
-/

set_option autoImplicit false

namespace WorkflowLint

/-! ## YAML texts -/

namespace Yaml

/-- A YAML text has a value: null without a document, else that of a node without faults. -/
inductive HasValue (dialect : Dialect) (text : List Char) : Value → Prop where
  | absent (noDocument : Node.ofText dialect text = .ok none) : HasValue dialect text .null
  | made {root : Node} {value : Value} (isRoot : Node.ofText dialect text = .ok (some root))
      (faultless : ∀ level fault, ¬ root.Raises level fault)
      (isValue : valueOf root.height root = .ok value) : HasValue dialect text value

/-- A YAML text has a fault: it gives no node, or its node has the fault and none nearer to the root. -/
inductive HasFault (dialect : Dialect) (text : List Char) (fault : Fault) : Prop where
  | unread (stops : Node.ofText dialect text = .error fault)
  | unmade {root : Node} {level : Nat} (isRoot : Node.ofText dialect text = .ok (some root))
      (raises : root.Raises level fault)
      (nearest : ∀ nearer other, root.Raises nearer other → level ≤ nearer)

theorem decode_cases (dialect : Dialect) (text : List Char) :
    (∃ value, decode dialect text = .ok value ∧ HasValue dialect text value) ∨
      ∃ fault, decode dialect text = .error fault ∧ HasFault dialect text fault := by
  unfold decode
  cases isNode : Node.ofText dialect text with
  | error fault => exact .inr ⟨fault, rfl, .unread isNode⟩
  | ok found =>
      cases found with
      | none => exact .inl ⟨.null, rfl, .absent isNode⟩
      | some root =>
          have reflects := valueOf_reflects root.height root (Nat.le_refl _)
          cases isValue : valueOf root.height root with
          | ok value =>
              rw [isValue] at reflects
              refine .inl ⟨value, ?_, .made isNode reflects isValue⟩
              simp only [Sequence.ok_bind, isValue]
              rfl
          | error deep =>
              rw [isValue] at reflects
              refine .inr ⟨deep.fault, ?_, .unmade isNode reflects.1 reflects.2⟩
              simp only [Sequence.ok_bind, isValue]
              rfl

/-- What gives a text a fault that is neither one of form nor declined: an obstacle for the scanner, or
a scalar that contradicts its tag. -/
inductive Obstacle (dialect : Dialect) (text : List Char) (fault : Fault) : Prop where
  | scanned (met : ScanObstacle text fault)
  | contradiction {root part : Node} (isRoot : Node.ofText dialect text = .ok (some root))
      (within : part.Within root) (fails : scalarValue part.tag part = .error fault)
      (contradicts : Contradiction part.tag fault)

/-- Every fault of a text has its cause in the text. -/
theorem HasFault.cause {dialect : Dialect} {text : List Char} {fault : Fault}
    (hasFault : HasFault dialect text fault) :
    fault = .unreadable ∨ Obstacle dialect text fault ∨
      ∃ content, fault = .declined content ∧ Declines dialect text content := by
  cases hasFault with
  | unread stops =>
      have ends := ofText_ends dialect text
      rw [stops] at ends
      cases ends with
      | form => exact .inl rfl
      | obstacle met => exact .inr (.inl (.scanned met))
      | declined declines => exact .inr (.inr ⟨_, rfl, declines⟩)
  | unmade isRoot raises nearest =>
      by_cases isForm : fault = .unreadable
      · exact .inl isForm
      · obtain ⟨part, within, fails, contradicts⟩ := raises.exists_contradiction isForm
        exact .inr (.inl (.contradiction isRoot within fails contradicts))

/-- An obstacle is neither of form nor declined. -/
theorem Obstacle.isOwn {dialect : Dialect} {text : List Char} {fault : Fault}
    (obstacle : Obstacle dialect text fault) :
    fault ≠ .unreadable ∧ ∀ content, fault ≠ .declined content := by
  cases obstacle with
  | scanned met => cases met <;> simp
  | @contradiction _ part _ _ _ contradicts =>
      generalize part.tag = tag at contradicts
      cases contradicts <;> simp

end Yaml

/-! ## Documents -/

namespace Document

/-- Content on which decoding ends with a fault of its own instead of a refusal. -/
inductive Obstacle (text : List Char) : Fault → Prop where
  | longInteger {count : Nat} (stops : Json.decode text = .error (.tooManyDigits count))
      (long : Json.LongInteger text count) : Obstacle text (.tooManyDigits count)
  | scanned {cause : Json.Cause} {fault : Yaml.Fault}
      (notJson : Json.decode text = .error (.malformed cause))
      (hasFault : Yaml.HasFault .document text fault) (met : Yaml.ScanObstacle text fault) :
      Obstacle text (.badScalar fault)
  | contradiction {cause : Json.Cause} {fault : Yaml.Fault} {root part : Yaml.Node}
      (notJson : Json.decode text = .error (.malformed cause))
      (hasFault : Yaml.HasFault .document text fault)
      (isRoot : Yaml.Node.ofText .document text = .ok (some root)) (within : part.Within root)
      (fails : Yaml.scalarValue part.tag part = .error fault)
      (contradicts : Yaml.Contradiction part.tag fault) : Obstacle text (.badScalar fault)

/-- Content that decoding declines. -/
inductive Declines (text : List Char) : Declined → Prop where
  | json {content : Declined} (stops : Json.decode text = .error (.declined content))
      (declines : Json.Declines text content) : Declines text content
  | yaml {cause : Json.Cause} {content : Declined}
      (notJson : Json.decode text = .error (.malformed cause))
      (hasFault : Yaml.HasFault .document text (.declined content))
      (declines : Yaml.Declines .document text content) : Declines text content

theorem Obstacle.noRefusal {text : List Char} {fault : Fault} (obstacle : Obstacle text fault) :
    (Failure.undecoded fault).refusal? = none := by
  cases obstacle with
  | longInteger => rfl
  | scanned => rfl
  | contradiction => rfl

private theorem decode_of_longInteger {text : List Char} {count : Nat}
    (long : Json.decode text = .error (.tooManyDigits count)) :
    decode text = .error (.tooManyDigits count) := by
  rw [decode, long]

private theorem decode_of_declinedJson {text : List Char} {content : Declined}
    (declined : Json.decode text = .error (.declined content)) :
    decode text = .error (.declined content) := by
  rw [decode, declined]

section

variable {text : List Char} {cause : Json.Cause}
  (notJson : Json.decode text = .error (.malformed cause))

include notJson

private theorem decode_of_yaml {value : Value} (isValue : Yaml.decode .document text = .ok value) :
    decode text = .ok value := by
  rw [decode, notJson]
  simp only [isValue]

private theorem decode_of_unreadable (unreadable : Yaml.decode .document text = .error .unreadable) :
    ∃ wording, decode text = .error (.refused (.undecodable (cause.message ++ "; " ++ wording))) := by
  refine ⟨Yaml.Fault.unreadable.message, ?_⟩
  rw [decode, notJson]
  simp only [unreadable]

private theorem decode_of_declinedYaml {content : Declined}
    (fails : Yaml.decode .document text = .error (.declined content)) :
    decode text = .error (.declined content) := by
  rw [decode, notJson]
  simp only [fails]

theorem decode_of_badScalar {fault : Yaml.Fault} (fails : Yaml.decode .document text = .error fault)
    (isOwn : fault ≠ .unreadable ∧ ∀ content, fault ≠ .declined content) :
    decode text = .error (.badScalar fault) := by
  rw [decode, notJson]
  simp only [fails]
  cases fault with
  | unreadable => exact absurd rfl isOwn.1
  | declined content => exact absurd rfl (isOwn.2 content)
  | _ => rfl

/-- An obstacle of a YAML text is one of decoding. -/
theorem obstacle_of_yaml {fault : Yaml.Fault} (hasFault : Yaml.HasFault .document text fault) :
    Yaml.Obstacle .document text fault → Obstacle text (.badScalar fault)
  | .scanned met => .scanned notJson hasFault met
  | .contradiction isRoot within fails contradicts =>
      .contradiction notJson hasFault isRoot within fails contradicts

end

theorem graph_of_undecoded {text : String} {fault : Fault}
    (undecoded : decode text.toList = .error fault) :
    graph text = .error (.undecoded fault) := by
  have unread : read Schema.workflow text = .error (.undecoded fault) := by
    rw [read, undecoded]
  rw [graph, unread]

theorem lint_of_fault {text : String} {fault : Fault}
    (undecoded : decode text.toList = .error fault)
    (noRefusal : (Failure.undecoded fault).refusal? = none) (setup : Lint.Setup) (path : String) :
    Lint.document setup path text = .error (.document (.undecoded fault)) := by
  have failed := graph_of_undecoded undecoded
  unfold Lint.document
  rw [failed]
  simp only [noRefusal]

/-- Decoding a text gives its value as JSON or else as YAML.  It refuses a text that is neither, with
the wording of the one and of the other, and the check then has a result with that one issue.
Otherwise decoding ends at an obstacle in the text, and the check has no result; or the text holds
content that is declined. -/
theorem decoding_refuses_or_meets_obstacle (text : String) :
    (∃ value, decode text.toList = .ok value ∧
      (Json.decode text.toList = .ok value ∨
        (∃ cause, Json.decode text.toList = .error (.malformed cause)) ∧
          Yaml.HasValue .document text.toList value)) ∨
    (∃ cause wording, Json.decode text.toList = .error (.malformed cause) ∧
      Yaml.HasFault .document text.toList .unreadable ∧
      decode text.toList = .error (.refused (.undecodable (cause.message ++ "; " ++ wording))) ∧
      ∀ setup path, Lint.document setup path text = .ok
        { path := path
          issues := [{
            path := "$"
            message := "Document is neither valid JSON nor valid YAML: " ++
              (cause.message ++ "; " ++ wording)
            suggestion :=
              "Export the workflow again or fix the syntax error reported above." }] }) ∨
    (∃ fault, decode text.toList = .error fault ∧ Obstacle text.toList fault ∧
      ∀ setup path, Lint.document setup path text = .error (.document (.undecoded fault))) ∨
    (∃ content, decode text.toList = .error (.declined content) ∧
      Declines text.toList content) := by
  have ends := Json.decode_ends text.toList
  cases isJson : Json.decode text.toList with
  | ok value => exact .inl ⟨value, decode_of_json isJson, .inl rfl⟩
  | error fault =>
      rw [isJson] at ends
      cases ends with
      | tooManyDigits long =>
          have undecoded := decode_of_longInteger isJson
          exact .inr (.inr (.inl
            ⟨_, undecoded, .longInteger isJson long, lint_of_fault undecoded rfl⟩))
      | declined declines =>
          exact .inr (.inr (.inr ⟨_, decode_of_declinedJson isJson, .json isJson declines⟩))
      | malformed cause =>
          rcases Yaml.decode_cases .document text.toList with
            ⟨value, isValue, hasValue⟩ | ⟨fault, fails, hasFault⟩
          · exact .inl ⟨value, decode_of_yaml isJson isValue, .inr ⟨⟨cause, rfl⟩, hasValue⟩⟩
          · rcases hasFault.cause with rfl | obstacle | ⟨content, rfl, declines⟩
            · obtain ⟨wording, refused⟩ := decode_of_unreadable isJson fails
              exact .inr (.inl ⟨cause, wording, rfl, hasFault, refused,
                Lint.document_of_refusal (graph_of_undecoded refused) rfl⟩)
            · have undecoded := decode_of_badScalar isJson fails obstacle.isOwn
              have met := obstacle_of_yaml isJson hasFault obstacle
              exact .inr (.inr (.inl ⟨_, undecoded, met, lint_of_fault undecoded met.noRefusal⟩))
            · exact .inr (.inr (.inr ⟨content, decode_of_declinedYaml isJson fails,
                .yaml isJson hasFault declines⟩))

/-- A scalar that is tagged as an integer and is none: decoding neither gives a value nor refuses the
text, and the check has no result. -/
theorem contradictory_integer_unrefused :
    decode "!!int abc".toList = .error (.badScalar (.notInteger 10 "abc")) ∧
    (¬ ∃ value, decode "!!int abc".toList = .ok value) ∧
    (¬ ∃ refusal, decode "!!int abc".toList = .error (.refused refusal)) ∧
    ∀ setup path result, Lint.document setup path "!!int abc" ≠ .ok result := by
  have notJson : Json.decode "!!int abc".toList = .error (.malformed .expectingValue) :=
    Sequence.fault?_eq_some_iff.mp (by decide +kernel)
  have fails : Yaml.decode .document "!!int abc".toList = .error (.notInteger 10 "abc") :=
    Sequence.fault?_eq_some_iff.mp (by decide +kernel)
  have undecoded := decode_of_badScalar notJson fails (by simp)
  generalize "!!int abc" = text at undecoded ⊢
  refine ⟨undecoded, ?_, ?_, ?_⟩
  · rintro ⟨value, isValue⟩
    rw [undecoded] at isValue
    cases isValue
  · rintro ⟨refusal, isRefusal⟩
    rw [undecoded] at isRefusal
    cases isRefusal
  · intro setup path result returned
    rw [lint_of_fault undecoded rfl] at returned
    cases returned

end Document

end WorkflowLint
