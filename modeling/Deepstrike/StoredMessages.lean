import Deepstrike.Driver
import Deepstrike.Excerpting
import Deepstrike.Renderer

/-!
The messages of a checkpoint: what a message of the context is stored as, which depends on its parts and on where
its body lives, and the message a restore makes of what was stored.
-/
namespace Deepstrike.StoredMessages
open Wire Excerpting
open Context (Handle HandleTable Residency collapse_preview)

/-- Where the bytes of a medium are. -/
inductive DurableSource where
  | Url (url : String)
  | Base64 (data : String)
  | FileId (id provider_id endpoint_id : String)
  | Object (handle owner payload_ref : String)

inductive DurableContentBlock where
  | Text (text : String)
  | Image (source : DurableSource) (media_type : Option String) (provider_options : Option JsonValue)
  | Audio (source : DurableSource) (media_type : Option String) (provider_options : Option JsonValue)
  | Video (source : DurableSource) (media_type : Option String) (provider_options : Option JsonValue)
  | File (source : DurableSource) (media_type : Option String) (provider_options : Option JsonValue)

structure DurableContent where
  blocks : List DurableContentBlock

structure DurableToolResult where
  call_id : String
  is_error : Bool
  blocks : List DurableContentBlock

def DurableToolResult.text (call_id output : String) (is_error : Bool) : DurableToolResult := ⟨call_id,is_error,[.Text output]⟩

inductive ContentPart where
  | Text (text : String)
  | Image (source : DurableSource) (media_type : Option String) (detail : Option String)
  | Audio (source : DurableSource) (media_type : String)
  | ToolResult (call_id output : String) (is_error : Bool) (durable_content : Option DurableContent)

inductive Content where
  | Text (text : String)
  | Parts (parts : List ContentPart)

structure ToolCall where
  id : String
  name : String
  arguments : JsonValue

structure CoreMessage where
  role : Role
  content : Content
  tool_calls : List ToolCall

section Validate

def require_non_empty (value label : String) : Except String Unit :=
  if value.isEmpty then .error (label ++ " must be a non-empty string") else .ok ()

/-- Whole groups of four of the alphabet, with at most two marks of padding at the end. -/
def valid_standard_base64 (data : String) : Bool :=
  let bytes := data.toUTF8.toList
  let padding := (bytes.reverse.takeWhile (· = 61)).length
  let body := bytes.take (bytes.length-padding)
  bytes.length%4 = 0 && padding ≤ 2 &&
    body.all (fun byte => (65 ≤ byte && byte ≤ 90) || (97 ≤ byte && byte ≤ 122) || (48 ≤ byte && byte ≤ 57) || byte = 43 || byte = 47)

def validate_source : DurableSource → Except String Unit
  | .Url url => require_non_empty url "content URL"
  | .Base64 data => do
    require_non_empty data "content base64 data"
    if valid_standard_base64 data then pure () else .error "content base64 data is not valid base64"
  | .FileId id provider_id endpoint_id => do
    require_non_empty id "content file id"
    require_non_empty provider_id "content file affinity provider_id"
    require_non_empty endpoint_id "content file affinity endpoint_id"
  | .Object handle owner payload_ref => do
    require_non_empty handle "content object handle"
    require_non_empty owner "content object owner"
    require_non_empty payload_ref "content object payload_ref"

def validate_media (source : DurableSource) (media_type : Option String) : Except String Unit := do
  validate_source source
  match media_type with
  | some media_type => require_non_empty media_type "content media_type"
  | none => pure ()

def validate_block : DurableContentBlock → Except String Unit
  | .Text _ => pure ()
  | .Image source media_type _ | .Audio source media_type _ | .Video source media_type _ | .File source media_type
    _ => validate_media source media_type

def validate_blocks : List DurableContentBlock → Except String Unit
  | [] => pure ()
  | block :: rest => do
    validate_block block
    validate_blocks rest

def DurableContent.validate (content : DurableContent) : Except String Unit := validate_blocks content.blocks

def DurableToolResult.validate (result : DurableToolResult) : Except String Unit := do
  require_non_empty result.call_id "tool result call_id"
  validate_blocks result.blocks

end Validate

section Durable

def durable_tool_result_from_part (call_id output : String) (is_error : Bool) : Option DurableContent → DurableToolResult
  | some content => ⟨call_id,is_error,content.blocks⟩
  | none => .text call_id output is_error

/-- The one result a message is. -/
def durable_tool_result_from_content : Content → Option DurableToolResult
  | .Parts [.ToolResult call_id output is_error durable_content] =>
    some (durable_tool_result_from_part call_id output is_error durable_content)
  | _ => none

def durable_result : ContentPart → Option DurableToolResult
  | .ToolResult call_id output is_error durable_content => some (durable_tool_result_from_part call_id output is_error durable_content)
  | _ => none

/-- The results of a message that holds several and nothing else. -/
def durable_tool_results_from_content : Content → Option (List DurableToolResult)
  | .Text _ => none
  | .Parts parts => if parts.length < 2 then none else parts.mapM durable_result

/-- The field of an object. -/
def JsonValue.get (value : JsonValue) (key : String) : Option JsonValue :=
  match value with
  | .Object fields => (fields.find? fun field => field.1 = key).map Prod.snd
  | _ => none

def JsonValue.as_str : JsonValue → Option String
  | .Text text => some text
  | _ => none

def content_part_to_durable : ContentPart → Except String DurableContentBlock
  | .Text text => .ok (.Text text)
  | .ToolResult .. => .error "a structured message cannot embed a tool result; durable tool results use their separate envelope"
  | .Image source media_type detail => .ok (.Image source media_type (detail.map fun detail => .Object [("detail",.Text detail)]))
  | .Audio source media_type => .ok (.Audio source (some media_type) none)

def content_to_durable (content : Content) : Except String DurableContent := do
  let blocks ← match content with
    | .Text text => pure [DurableContentBlock.Text text]
    | .Parts parts => parts.mapM content_part_to_durable
  DurableContent.validate ⟨blocks⟩
  pure ⟨blocks⟩

/-- The texts of some blocks, one after the other. -/
def block_texts : List DurableContentBlock → String
  | [] => ""
  | .Text text :: rest => text ++ block_texts rest
  | _ :: rest => block_texts rest

def content_from_durable_tool_result (result : DurableToolResult) : Except String ContentPart := do
  result.validate
  pure (.ToolResult result.call_id (block_texts result.blocks) result.is_error (some ⟨result.blocks⟩))

def content_from_durable_tool_results (results : List DurableToolResult) : Except String Content := do
  let parts ← results.mapM content_from_durable_tool_result
  pure (.Parts parts)

def detail_of (provider_options : Option JsonValue) : Option String :=
  (provider_options.bind fun value => JsonValue.get value "detail").bind JsonValue.as_str

def durable_block_to_content_part : DurableContentBlock → Except String ContentPart
  | .Text text => .ok (.Text text)
  | .Image (.Url url) media_type provider_options => .ok (.Image (.Url url) media_type (detail_of provider_options))
  | .Image (.Base64 data) media_type provider_options => .ok (.Image (.Base64 data) media_type (detail_of provider_options))
  | .Image .. => .error "this kernel only restores image url/base64 sources"
  | .Audio (.Base64 data) (some media_type) _ => .ok (.Audio (.Base64 data) media_type)
  | .Audio (.Base64 _) none _ => .error "audio durable block requires media_type"
  | .Audio .. | .File .. | .Video .. => .error "this kernel content vocabulary cannot restore the durable media source"

def content_from_durable (content : DurableContent) : Except String Content := do
  let parts ← content.blocks.mapM durable_block_to_content_part
  match parts with
  | [.Text text] => pure (.Text text)
  | _ => pure (.Parts parts)

end Durable

/-- A body of a stored message: text within it, a reference to one that lives with the host, or durable content whole. -/
inductive StoredMessageBody where
  | Inline (text : String) (tool_call_id : Option String) (is_error : Bool)
  | Reference (handle_id : Nat) (digest preview : String) (tool_call_id : Option String) (is_error : Bool)
  | Structured (durable_content : Option DurableContent) (durable_tool_results : List DurableToolResult)

structure LogicalToolCall where
  call_id : String
  name : String
  arguments : String

inductive MessagePartition where
  | System | History

structure StoredMessageState where
  partition : MessagePartition
  role : String
  body : StoredMessageBody
  tool_calls : List LogicalToolCall
  tokens : Nat

/-- The printer of a JSON value, and the parser. -/
structure JsonText where
  to_string : JsonValue → String
  from_str : String → Except String JsonValue

def role_label : Role → String
  | .System => "system"
  | .User => "user"
  | .Assistant => "assistant"
  | .Tool => "tool"

def role_from_label (label : String) : Option Role :=
  if label = "system" then some .System
  else if label = "user" then some .User
  else if label = "assistant" then some .Assistant
  else if label = "tool" then some .Tool
  else none

/-- Parts that reduce to one text, with the result among them that has no envelope of its own. -/
def reduce_parts : List ContentPart → String → Option String → Bool → Option (String × Option String × Bool)
  | [],text,tool_call_id,is_error => some (text,tool_call_id,is_error)
  | .Text chunk :: rest,text,tool_call_id,is_error => reduce_parts rest (text ++ chunk) tool_call_id is_error
  | .ToolResult call_id output failed durable_content :: rest,text,tool_call_id,_ =>
    if tool_call_id.isSome || durable_content.isSome then none else reduce_parts rest (text ++ output) (some call_id) failed
  | .Image .. :: _,_,_,_ => none
  | .Audio .. :: _,_,_,_ => none

def message_body_parts (message : CoreMessage) : Option (String × Option String × Bool) :=
  match message.content with
  | .Text text => some (text,none,false)
  | .Parts parts => reduce_parts parts "" none false

def message_content (text : String) (tool_call_id : Option String) (is_error : Bool) : Content :=
  match tool_call_id with
  | some call_id => .Parts [.ToolResult call_id text is_error none]
  | none => .Text text

/-- The driver as far as a projection reads it: the handles of its context, and the bytes of a preview. -/
structure Projector where
  handles : HandleTable
  preview_bytes : Nat

namespace Projector
variable (projector : Projector)

/-- The first handle of a call. -/
def handle_of (call_id : String) : Option Handle := projector.handles.find? fun handle => handle.source = some call_id

/-- The handle of a call whose body the host holds, and its digest. -/
def referenced (call_id : String) : Option (Handle × String) := do
  let handle ← projector.handle_of call_id
  let digest ← handle.residency.digest
  pure (handle,digest)

def single_tool_result_is_external (content : Content) : Bool :=
  match content with
  | .Parts [.ToolResult call_id _ _ _] => (projector.handle_of call_id).any fun handle => handle.residency.digest.isSome
  | _ => false

/-- What stays of a text whose body the host holds. -/
def preview (handle : Handle) (text call_id : String) : String :=
  match handle.residency with
  | .PagedOut .. => collapse_preview text call_id
  | _ => Driver.truncate_on_char_boundary text projector.preview_bytes

/-- The body behind the durable envelopes; an error is an assertion of the source. -/
def project_reduced (message : CoreMessage) : Except String StoredMessageBody :=
  match message_body_parts message with
  | none =>
    match content_to_durable message.content with
    | .error _ => .error "every non-tool message uses the canonical durable content model"
    | .ok durable_content => .ok (.Structured (some durable_content) [])
  | some (text,none,is_error) => .ok (.Inline text none is_error)
  | some (text,some call_id,is_error) =>
    match projector.referenced call_id with
    | some (handle,digest) => .ok (.Reference handle.id digest (projector.preview handle text call_id) (some call_id) is_error)
    | none => .ok (.Inline text (some call_id) is_error)

def project_body (message : CoreMessage) : Except String StoredMessageBody :=
  if projector.single_tool_result_is_external message.content then projector.project_reduced message
  else
    match durable_tool_results_from_content message.content with
    | some results => .ok (.Structured none results)
    | none =>
      match durable_tool_result_from_content message.content with
      | some result => .ok (.Structured none [result])
      | none => projector.project_reduced message

def project_message (json : JsonText) (partition : MessagePartition) (message : CoreMessage)
    (tokens : Nat) : Except String StoredMessageState := do
  let body ← projector.project_body message
  pure ⟨partition,role_label message.role,body,message.tool_calls.map fun call => ⟨call.id,call.name,json.to_string call.arguments⟩,tokens⟩

end Projector

def incompatible {α : Type} (message : String) : Except KernelFault α := .error ⟨.CheckpointIncompatible,message⟩

/-- A conversion that fails is a checkpoint this kernel cannot read. -/
def or_incompatible {α : Type} (before : String) : Except String α → Except KernelFault α
  | .ok value => .ok value
  | .error error => incompatible (before ++ error)

def restore_body : StoredMessageBody → Except KernelFault Content
  | .Inline text tool_call_id is_error => .ok (message_content text tool_call_id is_error)
  | .Reference _ _ preview tool_call_id is_error => .ok (message_content preview tool_call_id is_error)
  | .Structured durable_content (result :: rest) =>
    if durable_content.isSome then incompatible "the checkpoint durable tool results must not carry another body form"
    else or_incompatible "the checkpoint carries durable tool results this runtime cannot restore: "
      (content_from_durable_tool_results (result :: rest))
  | .Structured (some content) [] => do
    or_incompatible "the checkpoint carries invalid durable content: " content.validate
    or_incompatible "the checkpoint carries durable content this runtime cannot restore: " (content_from_durable content)
  | .Structured none [] => incompatible "the checkpoint structured message body has no content"

def restore_tool_call (json : JsonText) (call : LogicalToolCall) : Except KernelFault ToolCall :=
  match json.from_str call.arguments with
  | .ok arguments => .ok ⟨call.call_id,call.name,arguments⟩
  | .error error => incompatible ("tool call " ++ call.call_id ++ " carries arguments that do not decode: " ++ error)

def restore_message (json : JsonText) (role : String) (body : StoredMessageBody)
    (tool_calls : List LogicalToolCall) : Except KernelFault CoreMessage := do
  let role ← match role_from_label role with
    | some role => pure role
    | none => incompatible ("the checkpoint carries message role " ++ role.quote)
  let content ← restore_body body
  let tool_calls ← tool_calls.mapM (restore_tool_call json)
  pure ⟨role,content,tool_calls⟩

end Deepstrike.StoredMessages
