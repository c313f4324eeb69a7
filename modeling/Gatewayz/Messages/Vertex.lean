import Gatewayz.Messages.Translate

/-!
# `Messages.Vertex` — from OpenAI messages to the contents of Vertex

`services/providers/google_vertex_transforms.py`: the messages of the system become the system instruction, and each other message becomes
one content, with a role and parts (`prepareVertexContents`).

A key that is missing is its default, the empty text; `none` is a content that is null.
-/

namespace Gatewayz.Vertex

/-! ## What the API takes -/

inductive VertexRole where
  | user
  | model
  deriving DecidableEq

inductive VertexPart where
  | text (text : String)
  | inlineData (mimeType data : String)
  | fileData (mimeType fileUri : String)
  /-- A call of a tool, which the translation never makes. -/
  | functionCall (name args : String)
  /-- The result of a call, which it never makes either. -/
  | functionResponse (name response : String)

structure VertexContent where
  role : VertexRole
  parts : List VertexPart

/-! ## The translation -/

/-- `separator.join(texts)` -/
def joinTexts (separator : String) (texts : List String) : String := concat (texts.intersperse separator)

/-- The texts of the parts of a content. -/
def partTexts (parts : List OpenAiPart) : List String :=
  parts.filterMap fun
    | .text s _ => some s
    | .imageUrl _ => none

def sanitizeSystemContent : OpenAiContent → String
  | .text s => s
  | .parts parts => joinTexts "\n" ((partTexts parts).filter (· ≠ ""))
  | .none => "None"

/-- The media type of a data URL, by what stands before its comma: up to a semicolon, if there is one. -/
def mimeTypeOf (header : List Char) : String :=
  match splitOnce ';' (header.drop 5) with
  | (mimePart, some _) => if mimePart = [] then "image/jpeg" else String.ofList mimePart
  | (_, none) => "image/jpeg"

/-- The part of an image. A data URL without a comma is skipped. -/
def imagePart (url : String) : Option VertexPart :=
  if "data:".toList.isPrefixOf url.toList then
    match splitOnce ',' url.toList with
    | (header, some data) => some (.inlineData (mimeTypeOf header) (String.ofList data))
    | (_, none) => none
  else some (.fileData "image/jpeg" url)

def partOf : OpenAiPart → Option VertexPart
  | .text s _ => some (.text s)
  | .imageUrl url => imagePart url

/-- The parts of a content; what is null is made a text. -/
def partsOf : OpenAiContent → List VertexPart
  | .text s => [.text s]
  | .parts parts => parts.filterMap partOf
  | .none => [.text "None"]

/-- `vertex_role`: all but the user are the model. -/
def vertexRole : ChatRole → VertexRole
  | .user => .user
  | _ => .model

def buildVertexContent (messages : List OpenAiMessage) : List VertexContent :=
  messages.map fun message => ⟨vertexRole message.role, partsOf message.content⟩

def prepareVertexContents (messages : List OpenAiMessage) : List VertexContent × Option String :=
  let systemMessages := (messages.filter fun message => message.role = .system).map fun message => sanitizeSystemContent message.content
  let conversationalMessages := messages.filter fun message => message.role ≠ .system
  (buildVertexContent conversationalMessages,
    if systemMessages = [] then none else some (joinTexts "\n\n" (systemMessages.filter (· ≠ ""))))

end Gatewayz.Vertex
