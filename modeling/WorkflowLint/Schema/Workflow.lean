import WorkflowLint.Schema.Basic

/-!
Contract: the schema of workflow documents.

Owns: the schema as demands, and the document that publishes it.
-/

set_option autoImplicit false

namespace WorkflowLint.Schema

def one (name : TypeName) : Schema := .types [name] false

def anyOf (names : List TypeName) : Schema := .types names true

def filledText : Schema := .every [one .string, .minLength 1]

def nodeFields : List (String × Schema) :=
  [("id", filledText), ("name", filledText), ("type", filledText),
    ("typeVersion", anyOf [.number, .string]), ("position", one .array),
    ("parameters", anyOf [.object, .null]), ("credentials", anyOf [.object, .null]),
    ("settings", anyOf [.object, .null]), ("disabled", one .boolean), ("notes", one .string),
    ("continueOnFail", one .boolean), ("retryOnFail", anyOf [.boolean, .string]),
    ("waitBetweenTries", anyOf [.number, .string]), ("maxTries", anyOf [.number, .string]),
    ("alwaysOutputData", one .boolean), ("executeOnce", one .boolean), ("onError", one .string)]

def node : Schema :=
  .every [one .object, .required ["type", "name"], .properties nodeFields]

/-- The channels of a node: lists, mappings or nothing. -/
def channels : Schema :=
  .every [anyOf [.object, .null], .additional [] (anyOf [.array, .object, .null])]

/-- A tag: a text, or a mapping whose id and name are texts. -/
def tag : Schema :=
  .oneOf [one .string,
    .every [one .object, .properties [("id", one .string), ("name", one .string)]]]

def workflowFields : List (String × Schema) :=
  [("id", anyOf [.string, .number]), ("name", one .string), ("active", one .boolean),
    ("nodes", .every [one .array, .items node]),
    ("connections", .every [one .object, .additional [] channels]),
    ("settings", anyOf [.object, .null]), ("versionId", anyOf [.string, .null]),
    ("tags", .every [one .array, .items tag])]

def workflow : Schema :=
  .every [one .object, .required ["nodes", "connections"], .properties workflowFields]

/-! ## The published document -/

def typeDocument (name : String) : Value := .record [("type", .str name)]

def typesDocument (names : List String) : Value := .record [("type", .texts names)]

def filledTextDocument : Value := .record [("type", .str "string"), ("minLength", .int 1)]

def nodeDocument : Value :=
  .record
    [("type", .str "object"), ("required", .texts ["type", "name"]),
      ("properties", .record
        [("id", filledTextDocument), ("name", filledTextDocument), ("type", filledTextDocument),
          ("typeVersion", typesDocument ["number", "string"]), ("position", typeDocument "array"),
          ("parameters", typesDocument ["object", "null"]),
          ("credentials", typesDocument ["object", "null"]),
          ("settings", typesDocument ["object", "null"]), ("disabled", typeDocument "boolean"),
          ("notes", typeDocument "string"), ("continueOnFail", typeDocument "boolean"),
          ("retryOnFail", typesDocument ["boolean", "string"]),
          ("waitBetweenTries", typesDocument ["number", "string"]),
          ("maxTries", typesDocument ["number", "string"]),
          ("alwaysOutputData", typeDocument "boolean"), ("executeOnce", typeDocument "boolean"),
          ("onError", typeDocument "string")])]

def connectionsDocument : Value :=
  .record
    [("type", .str "object"),
      ("additionalProperties", .record
        [("type", .texts ["object", "null"]),
          ("additionalProperties", typesDocument ["array", "object", "null"])])]

def tagsDocument : Value :=
  .record
    [("type", .str "array"),
      ("items", .record
        [("oneOf", .list
          [typeDocument "string",
            .record
              [("type", .str "object"),
                ("properties", .record
                  [("id", typeDocument "string"), ("name", typeDocument "string")])]])])]

def workflowDocument : Value :=
  .record
    [("$schema", .str "http://json-schema.org/draft-07/schema#"),
      ("$id", .str "https://flowlint.dev/schemas/n8n-workflow.schema.json"),
      ("title", .str "n8n workflow"), ("type", .str "object"),
      ("required", .texts ["nodes", "connections"]),
      ("properties", .record
        [("id", typesDocument ["string", "number"]), ("name", typeDocument "string"),
          ("active", typeDocument "boolean"),
          ("nodes", .record
            [("type", .str "array"), ("items", .record [("$ref", .str "#/definitions/node")])]),
          ("connections", connectionsDocument), ("settings", typesDocument ["object", "null"]),
          ("staticData", .map []), ("pinData", .map []), ("meta", .map []),
          ("versionId", typesDocument ["string", "null"]), ("credentials", .map []),
          ("tags", tagsDocument)]),
      ("definitions", .record [("node", nodeDocument)])]

def document? (name : String) : Option Value :=
  if name == "n8n-workflow" then some workflowDocument else none

end WorkflowLint.Schema
