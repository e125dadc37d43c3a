import WorkflowLint.Graph.Basic
import WorkflowLint.Text.Keyword

/-!
Contract: what a node does, by the look of its type and name.

Owns: the keyword tables and the predicates over them.  Keywords are found anywhere in the type,
without regard to case; only the webhook trigger compares case.  The tables prefer to take too many
nodes for risky.
-/

set_option autoImplicit false

namespace WorkflowLint

open Text (KeywordTable)

/-! ## Keyword tables -/

def apiWords : KeywordTable := ⟨["http", "request", "google", "facebook", "ads"]⟩

def mutationWords : KeywordTable :=
  ⟨["write", "insert", "update", "delete", "post", "put", "patch", "database", "mongo", "supabase",
    "sheet"]⟩

def executionWords : KeywordTable := ⟨["execute", "workflow", "function"]⟩

def notificationWords : KeywordTable :=
  ⟨["slack", "discord", "email", "gotify", "mattermost", "microsoftTeams", "pushbullet", "pushover",
    "rocketchat", "zulip", "telegram"]⟩

def handlerTypeWords : KeywordTable := ⟨["stopanderror", "errorhandler", "raiseerror"]⟩

def handlerNameWords : KeywordTable := ⟨["stop and error", "error handler"]⟩

def terminalWords : KeywordTable :=
  ⟨["respond", "reply", "end", "stop", "terminate", "return", "sticky", "note", "noop",
    "no operation", "slack", "email", "discord", "teams", "webhook", "telegram", "pushbullet",
    "mattermost", "notifier", "notification", "alert", "sms", "call"]⟩

def respondWords : KeywordTable := ⟨["respondToWebhook"]⟩

def ingressWords : KeywordTable := ⟨["webhook", "trigger", "start"]⟩

def loopWords : KeywordTable := ⟨["loop", "batch", "while", "repeat"]⟩

def heavyLoopWords : KeywordTable := ⟨["loop", "batch"]⟩

def webhookTriggerType : String := "n8n-nodes-base.webhook"

def respondType : String := "n8n-nodes-base.respondToWebhook"

/-! ## Predicates -/

def isApi (type : String) : Bool := apiWords.matchesText (some type)

def isMutation (type : String) : Bool := mutationWords.matchesText (some type)

/-- Can fail in a way that needs an error path. -/
def isErrorProne (type : String) : Bool :=
  isApi type || isMutation type || executionWords.matchesText (some type)

def isNotification (type : String) : Bool := notificationWords.matchesText (some type)

def isErrorHandler (type : String) (name : Option String) : Bool :=
  handlerTypeWords.matchesText (some type) || handlerNameWords.matchesText name

def isTerminal (type : String) (name : Option String) : Bool :=
  terminalWords.matchesText (some (type ++ " " ++ name.getD ""))

/-- Has an effect outside the workflow. -/
def isConsumer (type : String) : Bool :=
  isMutation type || isNotification type || isApi type || respondWords.matchesText (some type)

def isIngress (type : String) : Bool := ingressWords.matchesText (some type)

def isLoop (type : String) : Bool := loopWords.matchesText (some type)

/-- Is started by a call from outside, and is no answer to one. -/
def isWebhookTrigger (type : String) : Bool :=
  type == webhookTriggerType ||
    (Text.standsIn "webhook".toList type.toList &&
      !Text.standsIn "respondToWebhook".toList type.toList)

/-- The words for an answer to a webhook stand in one line. -/
def mentionsRespond (text : String) : Bool :=
  Text.occurInLine "respond".toList "webhook".toList text.toList

def isRespond (type : String) (name : Option String) : Bool :=
  type == respondType || mentionsRespond type || mentionsRespond (name.getD "")

/-- Does heavy work: of a listed type, or a loop. -/
def isHeavy (type : String) (listed : List String) : Bool :=
  listed.contains type || heavyLoopWords.matchesText (some type)

/-! ## Outcomes of connections -/

/-- The outcome of a connection by its channel, its output slot and the type of its source.  Further
outputs of the main channel are error outputs when the source can fail. -/
def Outcome.ofSlot (channel : String) (slot : Option Int) (sourceType : Option String) : Outcome :=
  if channel == "error" then .error
  else if channel == "timeout" then .timeout
  else
    match slot, sourceType with
    | some index, some type =>
        if channel == "main" && 0 < index && isErrorProne type then .error else .success
    | _, _ => .success

end WorkflowLint
