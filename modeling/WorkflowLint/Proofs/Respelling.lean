import WorkflowLint.Classification
import Mathlib.Data.List.Infix

/-!
Contract: which questions about the type and the name of a node ignore case.

Two texts are spellings of one text when their ASCII letters are the same up to case, that is, when they
have one lower case form.  A search for keywords gives a text and its lower case form the same answer, so
a question that is put together from such searches gives one answer to all spellings.

The webhook trigger is compared letter by letter.  Its answer depends on the spelling of every type that
names a webhook: in lower case the type is a trigger, in upper case it is none.
-/

set_option autoImplicit false

namespace WorkflowLint

namespace Text

/-! ## ASCII letters -/

theorem toNat_toLower (c : Char) :
    c.toLower.toNat = if 65 ≤ c.toNat ∧ c.toNat ≤ 90 then c.toNat + 32 else c.toNat := by
  unfold Char.toLower
  split
  next isCapital =>
    have notBefore : 65 ≤ c.toNat := isCapital.1
    have notAfter : c.toNat ≤ 90 := isCapital.2
    have distance : ('a'.val - 'A'.val).toNat = 32 := by decide
    rw [if_pos ⟨notBefore, notAfter⟩]
    show (c.val + ('a'.val - 'A'.val)).toNat = c.toNat + 32
    rw [UInt32.toNat_add, distance, Char.toNat_val]
    omega
  next notCapital => exact (if_neg notCapital).symm

theorem toNat_toUpper (c : Char) :
    c.toUpper.toNat = if 97 ≤ c.toNat ∧ c.toNat ≤ 122 then c.toNat - 32 else c.toNat := by
  unfold Char.toUpper
  split
  next isSmall =>
    have notBefore : 97 ≤ c.toNat := isSmall.1
    have notAfter : c.toNat ≤ 122 := isSmall.2
    -- The distance is negative, so the sum wraps around.
    have distance : ('A'.val - 'a'.val).toNat = 4294967264 := by decide
    rw [if_pos ⟨notBefore, notAfter⟩]
    show (c.val + ('A'.val - 'a'.val)).toNat = c.toNat - 32
    rw [UInt32.toNat_add, distance, Char.toNat_val]
    omega
  next notSmall => exact (if_neg notSmall).symm

private theorem toLower_toUpper (c : Char) : c.toUpper.toLower = c.toLower := by
  apply Char.toNat_inj.mp
  rw [toNat_toLower, toNat_toUpper, toNat_toLower]
  split_ifs <;> omega

private theorem toLower_toLower (c : Char) : c.toLower.toLower = c.toLower := by
  apply Char.toNat_inj.mp
  rw [toNat_toLower, toNat_toLower]
  split_ifs <;> omega

theorem toList_toLower (text : String) : text.toLower.toList = text.toList.map Char.toLower :=
  String.toList_map

theorem toList_toUpper (text : String) : text.toUpper.toList = text.toList.map Char.toUpper :=
  String.toList_map

/-- Two texts have one lower case form when their letters have, one by one. -/
theorem toLower_eq_iff {left right : String} :
    left.toLower = right.toLower ↔
      left.toList.map Char.toLower = right.toList.map Char.toLower := by
  rw [← String.toList_inj, toList_toLower, toList_toLower]

private theorem toLower_toUpper_text (text : String) : text.toUpper.toLower = text.toLower := by
  rw [toLower_eq_iff, toList_toUpper, List.map_map]
  exact List.map_congr_left fun c _ => toLower_toUpper c

private theorem toLower_toLower_text (text : String) : text.toLower.toLower = text.toLower := by
  rw [toLower_eq_iff, toList_toLower, List.map_map]
  exact List.map_congr_left fun c _ => toLower_toLower c

private theorem toUpper_ne_of_isLower {small : Char} (isLower : 97 ≤ small.toNat ∧ small.toNat ≤ 122)
    (c : Char) : c.toUpper ≠ small := by
  intro same
  have sameCode := congrArg Char.toNat same
  rw [toNat_toUpper] at sameCode
  split at sameCode <;> omega

private theorem toLower_ne_of_isUpper {capital : Char}
    (isUpper : 65 ≤ capital.toNat ∧ capital.toNat ≤ 90)
    (c : Char) : c.toLower ≠ capital := by
  intro same
  have sameCode := congrArg Char.toNat same
  rw [toNat_toLower] at sameCode
  split at sameCode <;> omega

private theorem foldCode_toLower (c : Char) : foldCode c.toLower.toNat = foldCode c.toNat := by
  rw [toNat_toLower]
  split
  next isCapital =>
    have first : foldCode (c.toNat + 32) = c.toNat + 32 := by
      rw [foldCode, if_pos (by omega), if_neg (by simp; omega)]
    have second : foldCode c.toNat = c.toNat + 32 := by
      rw [foldCode, if_pos (by omega), if_pos (by simp; omega)]
    rw [first, second]
  next => rfl

private theorem sameIgnoringCase_toLower (letter c : Char) :
    sameIgnoringCase letter c.toLower = sameIgnoringCase letter c := by
  rw [sameIgnoringCase, sameIgnoringCase, foldCode_toLower]

private theorem toLower_eq_lineFeed_iff (c : Char) : c.toLower = '\n' ↔ c = '\n' := by
  rw [← Char.toNat_inj, ← Char.toNat_inj, toNat_toLower]
  have code : '\n'.toNat = 10 := rfl
  split <;> omega

/-! ## Keywords -/

theorem startsWith_toLower (keyword text : List Char) :
    startsWith keyword (text.map Char.toLower) = startsWith keyword text := by
  induction keyword generalizing text with
  | nil => simp only [startsWith]
  | cons letter keyword inductionHypothesis =>
      cases text with
      | nil => rfl
      | cons c text =>
          simp only [List.map_cons, startsWith, sameIgnoringCase_toLower, inductionHypothesis]

theorem occursIn_toLower (keyword text : List Char) :
    occursIn keyword (text.map Char.toLower) = occursIn keyword text := by
  induction text with
  | nil => rfl
  | cons c text inductionHypothesis =>
      have here := startsWith_toLower keyword (c :: text)
      rw [List.map_cons] at here ⊢
      rw [occursIn, occursIn, here, inductionHypothesis]

private theorem KeywordTable.holds_toLower (table : KeywordTable) (text : List Char) :
    table.holds (text.map Char.toLower) = table.holds text := by
  simp only [holds, anyOccursIn, occursIn_toLower, List.isEmpty_map]

theorem KeywordTable.matchesText_toLower (table : KeywordTable) (text : Option String) :
    table.matchesText (text.map String.toLower) = table.matchesText text := by
  cases text with
  | none => rfl
  | some text =>
      rw [Option.map_some, matchesText, matchesText, toList_toLower, holds_toLower]

/-- The rest of a line is the same stretch in both spellings, since a line feed is no letter. -/
theorem takeWhile_toLower (text : List Char) :
    (text.map Char.toLower).takeWhile (· != '\n') =
      (text.takeWhile (· != '\n')).map Char.toLower := by
  rw [List.takeWhile_map]
  congr 2
  funext c
  rw [Function.comp_apply, Bool.eq_iff_iff, bne_iff_ne, bne_iff_ne, Ne, toLower_eq_lineFeed_iff]

private theorem occurInLine_toLower (first second text : List Char) :
    occurInLine first second (text.map Char.toLower) = occurInLine first second text := by
  induction text with
  | nil => rfl
  | cons c text inductionHypothesis =>
      have here := startsWith_toLower first (c :: text)
      have later := occursIn_toLower second
        (((c :: text).drop first.length).takeWhile (· != '\n'))
      rw [← takeWhile_toLower, List.map_drop] at later
      rw [List.map_cons] at here later ⊢
      rw [occurInLine, occurInLine, here, later, inductionHypothesis]

theorem standsIn_iff {part text : List Char} : standsIn part text = true ↔ part <:+: text := by
  induction text with
  | nil => rw [standsIn, List.isEmpty_iff, List.infix_nil]
  | cons c text inductionHypothesis =>
      rw [standsIn, Bool.or_eq_true, List.isPrefixOf_iff_prefix, inductionHypothesis,
        List.infix_cons_iff]

end Text

/-! ## Questions about a node -/

open Text (KeywordTable)

/-- The type of an answer names both words itself, so the comparison with it adds nothing. -/
theorem isRespond_eq (type : String) (name : Option String) :
    isRespond type name = (mentionsRespond type || mentionsRespond (name.getD "")) := by
  by_cases same : type = respondType
  · have named : mentionsRespond respondType = true := by decide +kernel
    rw [isRespond, same, named, beq_self_eq_true, Bool.true_or, Bool.true_or]
  · rw [isRespond, beq_false_of_ne same, Bool.false_or]

theorem mentionsRespond_toLower (text : String) :
    mentionsRespond text.toLower = mentionsRespond text := by
  rw [mentionsRespond, mentionsRespond, Text.toList_toLower, Text.occurInLine_toLower]

/-- A question about a type and a name has one answer for all spellings of the two. -/
def IgnoresCase (question : String → Option String → Bool) : Prop :=
  ∀ (type other : String) (name otherName : Option String), type.toLower = other.toLower →
    name.map String.toLower = otherName.map String.toLower →
      question type name = question other otherName

namespace IgnoresCase

/-- It is enough that the lower case forms have the answer. -/
theorem of_toLower {question : String → Option String → Bool}
    (lowered : ∀ type name,
      question type.toLower (name.map String.toLower) = question type name) :
    IgnoresCase question := by
  intro type other name otherName sameType sameName
  calc question type name
      = question type.toLower (name.map String.toLower) := (lowered type name).symm
    _ = question other.toLower (otherName.map String.toLower) := by rw [sameType, sameName]
    _ = question other otherName := lowered other otherName

theorem or {left right : String → Option String → Bool} (leftIgnores : IgnoresCase left)
    (rightIgnores : IgnoresCase right) :
    IgnoresCase fun type name => left type name || right type name := by
  intro type other name otherName sameType sameName
  dsimp only
  rw [leftIgnores type other name otherName sameType sameName,
    rightIgnores type other name otherName sameType sameName]

theorem wordsInType (table : KeywordTable) :
    IgnoresCase fun type _ => table.matchesText (some type) :=
  of_toLower fun type _ => table.matchesText_toLower (some type)

private theorem wordsInName (table : KeywordTable) :
    IgnoresCase fun _ name => table.matchesText name :=
  of_toLower fun _ name => table.matchesText_toLower name

private theorem terminal : IgnoresCase isTerminal := by
  apply of_toLower
  intro type name
  have lowered : type.toLower ++ " " ++ (name.map String.toLower).getD "" =
      (type ++ " " ++ name.getD "").toLower := by
    apply String.toList_inj.mp
    cases name <;> simp [Text.toList_toLower]
  rw [isTerminal, isTerminal, lowered]
  exact terminalWords.matchesText_toLower (some (type ++ " " ++ name.getD ""))

theorem respond : IgnoresCase isRespond := by
  apply of_toLower
  intro type name
  have namePart : mentionsRespond ((name.map String.toLower).getD "") =
      mentionsRespond (name.getD "") := by
    cases name with
    | none => rfl
    | some name => exact mentionsRespond_toLower name
  rw [isRespond_eq, isRespond_eq, mentionsRespond_toLower, namePart]

end IgnoresCase

/-! ## The webhook trigger -/

/-- A type names a webhook and no answer to one, in these very letters. -/
def NamesTrigger (type : String) : Prop :=
  "webhook".toList <:+: type.toList ∧ ¬ "respondToWebhook".toList <:+: type.toList

/-- The type of the trigger names a webhook itself, so the comparison with it adds nothing. -/
theorem isWebhookTrigger_iff {type : String} : isWebhookTrigger type = true ↔ NamesTrigger type := by
  have trigger : NamesTrigger webhookTriggerType := by
    simp only [NamesTrigger, ← Text.standsIn_iff]
    decide +kernel
  rw [isWebhookTrigger, Bool.or_eq_true, Bool.and_eq_true, Bool.not_eq_true', ← Bool.not_eq_true,
    Text.standsIn_iff, Text.standsIn_iff, beq_iff_eq]
  constructor
  · rintro (rfl | named)
    · exact trigger
    · exact named
  · intro named
    exact .inr named

/-- In upper case no type is a trigger. -/
theorem isWebhookTrigger_toUpper (type : String) : isWebhookTrigger type.toUpper = false := by
  rw [Bool.eq_false_iff]
  intro isTrigger
  have named := (isWebhookTrigger_iff.mp isTrigger).1
  have small : 'w' ∈ type.toUpper.toList := named.subset (by decide)
  rw [Text.toList_toUpper, List.mem_map] at small
  obtain ⟨c, _, isSmall⟩ := small
  exact Text.toUpper_ne_of_isLower (by decide) c isSmall

/-- In lower case every type that names a webhook is a trigger, also that of an answer. -/
theorem isWebhookTrigger_toLower {type : String}
    (named : "webhook".toList <:+: type.toLower.toList) : isWebhookTrigger type.toLower = true := by
  refine isWebhookTrigger_iff.mpr ⟨named, ?_⟩
  intro answers
  have capital : 'T' ∈ type.toLower.toList := answers.subset (by decide)
  rw [Text.toList_toLower, List.mem_map] at capital
  obtain ⟨c, _, isCapital⟩ := capital
  exact Text.toLower_ne_of_isUpper (by decide) c isCapital

/-- All spellings of a type have one answer exactly when the type names no webhook in any spelling. -/
theorem isWebhookTrigger_ignores_iff {type : String} :
    (∀ other : String, other.toLower = type.toLower →
      isWebhookTrigger other = isWebhookTrigger type) ↔
      ¬ "webhook".toList <:+: type.toLower.toList := by
  constructor
  · intro oneAnswer named
    have inUpper := oneAnswer type.toUpper (Text.toLower_toUpper_text type)
    have inLower := oneAnswer type.toLower (Text.toLower_toLower_text type)
    rw [isWebhookTrigger_toUpper] at inUpper
    rw [isWebhookTrigger_toLower named, ← inUpper] at inLower
    exact Bool.noConfusion inLower
  · intro unnamed
    have noTrigger (other : String) (isSpelling : other.toLower = type.toLower) :
        isWebhookTrigger other = false := by
      rw [Bool.eq_false_iff]
      intro isTrigger
      have named := (isWebhookTrigger_iff.mp isTrigger).1
      apply unnamed
      rw [← isSpelling, Text.toList_toLower]
      exact named.map Char.toLower
    intro other isSpelling
    rw [noTrigger other isSpelling, noTrigger type rfl]

/-- Two spellings of a type and a name have the same answers to all questions but one.  They agree on
being a trigger when both name one in the very letters or neither does, and all spellings of a type agree
exactly when none of them names a webhook. -/
theorem case_matters_to_triggers_only {type other : String} {name otherName : Option String}
    (sameType : type.toLower = other.toLower)
    (sameName : name.map String.toLower = otherName.map String.toLower) :
    isApi type = isApi other ∧
      isMutation type = isMutation other ∧
      isErrorProne type = isErrorProne other ∧
      isNotification type = isNotification other ∧
      isErrorHandler type name = isErrorHandler other otherName ∧
      isTerminal type name = isTerminal other otherName ∧
      isConsumer type = isConsumer other ∧
      isIngress type = isIngress other ∧
      isLoop type = isLoop other ∧
      isRespond type name = isRespond other otherName ∧
      isHeavy type [] = isHeavy other [] ∧
      (isWebhookTrigger type = isWebhookTrigger other ↔ (NamesTrigger type ↔ NamesTrigger other)) ∧
      ((∀ spelling : String, spelling.toLower = type.toLower →
        isWebhookTrigger spelling = isWebhookTrigger type) ↔
          ¬ "webhook".toList <:+: type.toLower.toList) := by
  have agree {question : String → Option String → Bool} (ignores : IgnoresCase question) :
      question type name = question other otherName :=
    ignores type other name otherName sameType sameName
  have api := IgnoresCase.wordsInType apiWords
  have mutation := IgnoresCase.wordsInType mutationWords
  have notification := IgnoresCase.wordsInType notificationWords
  have errorProne := (api.or mutation).or (.wordsInType executionWords)
  have errorHandler := (IgnoresCase.wordsInType handlerTypeWords).or (.wordsInName handlerNameWords)
  have consumer := ((mutation.or notification).or api).or (.wordsInType respondWords)
  have trigger : isWebhookTrigger type = isWebhookTrigger other ↔
      (NamesTrigger type ↔ NamesTrigger other) := by
    rw [Bool.eq_iff_iff, isWebhookTrigger_iff, isWebhookTrigger_iff]
  exact ⟨agree api, agree mutation, agree errorProne, agree notification, agree errorHandler,
    agree .terminal, agree consumer, agree (.wordsInType ingressWords), agree (.wordsInType loopWords),
    agree .respond, agree (.wordsInType heavyLoopWords), trigger, isWebhookTrigger_ignores_iff⟩

theorem case_matters_to_triggers_only_shouted :
    "N8N-NODES-BASE.SET".toLower = "n8n-nodes-base.set".toLower ∧
      (some "RESPOND to WebHook").map String.toLower =
        (some "Respond To Webhook").map String.toLower ∧
      isRespond "N8N-NODES-BASE.SET" (some "RESPOND to WebHook") =
        isRespond "n8n-nodes-base.set" (some "Respond To Webhook") := by
  have sameType : "N8N-NODES-BASE.SET".toLower = "n8n-nodes-base.set".toLower :=
    Text.toLower_eq_iff.mpr (by decide)
  have sameName : (some "RESPOND to WebHook").map String.toLower =
      (some "Respond To Webhook").map String.toLower :=
    congrArg some (Text.toLower_eq_iff.mpr (by decide))
  obtain ⟨_, _, _, _, _, _, _, _, _, respond, _⟩ := case_matters_to_triggers_only sameType sameName
  exact ⟨sameType, sameName, respond⟩

/-- The trigger itself is none once its name has capitals. -/
theorem capitalized_trigger_missed :
    "N8N-Nodes-Base.Webhook".toLower = "n8n-nodes-base.webhook".toLower ∧
      isWebhookTrigger "n8n-nodes-base.webhook" = true ∧
      isWebhookTrigger "N8N-Nodes-Base.Webhook" = false :=
  ⟨Text.toLower_eq_iff.mpr (by decide), by decide +kernel, by decide +kernel⟩

end WorkflowLint
