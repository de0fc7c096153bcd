import Deepstrike.StoredMessages

/-!
A message that is stored and restored, and stored again. Which messages come back as they were, and are stored the
second time as they were the first, is said by their parts and by where their bodies live.
-/
namespace Deepstrike.StoredMessages
open Wire List Driver Projector
open Context (Handle Residency collapse_preview)

section
variable {ε α β : Type}

variable {items : List α}

theorem mapM_ok_iff {forth : α → Except ε β} {results : List β} :
    items.mapM forth = .ok results ↔ List.Forall₂ (fun item result => forth item = .ok result) items results := by
  induction items generalizing results with
  | nil =>
    rw [mapM_nil,forall₂_nil_left_iff]
    constructor
    · intro same
      cases same
      rfl
    · intro same
      rw [same]
      rfl
  | cons item rest ih =>
  rw [mapM_cons,forall₂_cons_left_iff]
  constructor
  · intro same
    cases first : forth item with
    | error error =>
      rw [first] at same
      cases same
    | ok result =>
    rw [first] at same
    cases later : rest.mapM forth with
    | error error =>
      rw [later] at same
      cases same
    | ok results_ =>
    rw [later] at same
    cases same
    exact ⟨result,results_,rfl,ih.mp later,rfl⟩
  · rintro ⟨result,results_,first,later,rfl⟩
    rw [first,ih.mpr later]
    rfl

private theorem mapM_map_ok_iff {form : α → β} {back : β → Except ε α} :
    (items.map form).mapM back = .ok items ↔ ∀ item ∈ items, back (form item) = .ok item := by
  rw [mapM_ok_iff,forall₂_map_left_iff,forall₂_same]

end

/-- The parts of a content: a text is one part. -/
def parts : Content → List ContentPart
  | .Text text => [.Text text]
  | .Parts parts => parts

/-- How two parts are compared: as they are, or with the text of a result that has no envelope taken for its envelope. -/
def read (strict : Bool) : ContentPart → ContentPart
  | .ToolResult call_id output is_error none => .ToolResult call_id output is_error (if strict then none else some ⟨[.Text output]⟩)
  | part => part

/-- What a restored content keeps of the one that was stored: every part, or of a single result with the host its preview. -/
def KeepsContent (projector : Projector) (strict : Bool) (content restored : Content) : Prop :=
  (parts restored).map (read strict) = (parts content).map (read strict) ∨
  ∃ call_id output is_error durable_content handle digest, content = .Parts [.ToolResult call_id output is_error durable_content] ∧
    projector.referenced call_id = some (handle,digest) ∧
    restored = .Parts [.ToolResult call_id (projector.preview handle output call_id) is_error durable_content]

/-- A message is stored, restored as it was, and stored again as it was stored. -/
def Returns (projector : Projector) (json : JsonText) (strict : Bool) (partition : MessagePartition) (tokens : Nat)
    (message : CoreMessage) : Prop :=
  ∃ stored restored, projector.project_message json partition message tokens = .ok stored ∧
    restore_message json stored.role stored.body stored.tool_calls = .ok restored ∧
    restored.role = message.role ∧ restored.tool_calls = message.tool_calls ∧
    KeepsContent projector strict message.content restored.content ∧
    projector.project_message json partition restored tokens = .ok stored

/-- A result that is its own envelope: its call has a name, its blocks are valid, and its text is theirs. -/
def Faithful (strict : Bool) : ContentPart → Prop
  | .ToolResult call_id _ _ none => call_id ≠ "" ∧ strict = false
  | .ToolResult call_id output _ (some content) => call_id ≠ "" ∧ validate_blocks content.blocks = .ok () ∧
    block_texts content.blocks = output
  | .Text _ | .Image .. | .Audio .. => False

/-- A part that a durable content holds, of a source the kernel restores. -/
def Restorable : ContentPart → Prop
  | .Text _ => True
  | .Image (.Url url) media_type _ => validate_media (.Url url) media_type = .ok ()
  | .Image (.Base64 data) media_type _ => validate_media (.Base64 data) media_type = .ok ()
  | .Audio (.Base64 data) media_type => validate_media (.Base64 data) (some media_type) = .ok ()
  | .Image .. | .Audio .. | .ToolResult .. => False

def Medium : ContentPart → Prop
  | .Image .. | .Audio .. => True
  | .Text _ | .ToolResult .. => False

/-- Contents that come back: texts; a single result with the host, whose preview is the preview of itself; results
    that are their own envelopes; one text as a part; media with texts between them, all of them restorable. -/
def Sound (projector : Projector) (strict : Bool) : Content → Prop
  | .Text _ => True
  | .Parts parts =>
    (∃ call_id output is_error handle digest, parts = [.ToolResult call_id output is_error none] ∧
    projector.referenced call_id = some (handle,digest) ∧
      ∀ payload_ref digest, handle.residency = .PagedOut payload_ref digest →
        collapse_preview (collapse_preview output call_id) call_id = collapse_preview output call_id) ∨
    (projector.single_tool_result_is_external (.Parts parts) = false ∧ parts ≠ [] ∧ ∀ part ∈ parts, Faithful strict part) ∨
    (∃ text, parts = [.Text text]) ∨
    ((∃ part ∈ parts, Medium part) ∧ ∀ part ∈ parts, Restorable part)

section Reduce
variable {parts : List ContentPart} {text : String} {is_error : Bool}

private theorem reduce_medium {part : ContentPart} (member : part ∈ parts) (medium : Medium part) (tool_call_id : Option String) :
    reduce_parts parts text tool_call_id is_error = none := by
  induction parts generalizing text tool_call_id is_error with
  | nil => cases member
  | cons first rest ih =>
  rcases mem_cons.mp member with rfl | later
  · cases part with
    | Text text => cases medium
    | ToolResult call_id output is_error durable_content => cases medium
    | Image source media_type detail => rfl
    | Audio source media_type => rfl
  cases first with
  | Text chunk => exact ih later _
  | Image source media_type detail => rfl
  | Audio source media_type => rfl
  | ToolResult call_id output failed durable_content =>
  simp only [reduce_parts]
  split
  · rfl
  · exact ih later _

private theorem reduce_none {tool_call_id : Option String} (reduced : reduce_parts parts text tool_call_id is_error = none) :
    ∃ part ∈ parts, (∃ result, durable_result part = some result) ∨ Medium part := by
  induction parts generalizing text tool_call_id is_error with
  | nil => cases reduced
  | cons first rest ih =>
  cases first with
  | Text chunk =>
    obtain ⟨part,member,found⟩ := ih reduced
    exact ⟨part,mem_cons_of_mem _ member,found⟩
  | Image source media_type detail => exact ⟨_,mem_cons_self,.inr trivial⟩
  | Audio source media_type => exact ⟨_,mem_cons_self,.inr trivial⟩
  | ToolResult other output other_failed durable_content => exact ⟨_,mem_cons_self,.inl ⟨_,rfl⟩⟩

end Reduce

section Results
variable {strict : Bool}

variable {part : ContentPart} {results : List DurableToolResult} {result : DurableToolResult}

theorem mapM_durable_cons {rest : List ContentPart}
    (enveloped : (part :: rest).mapM durable_result = some results) :
    ∃ result results_, durable_result part = some result ∧ rest.mapM durable_result = some results_ ∧
    results = result :: results_ := by
  rw [mapM_cons] at enveloped
  cases first : durable_result part with
  | none =>
    rw [first] at enveloped
    cases enveloped
  | some result =>
  cases later : rest.mapM durable_result with
  | none =>
    rw [first,later] at enveloped
    cases enveloped
  | some results_ =>
  rw [first,later] at enveloped
  cases enveloped
  exact ⟨result,results_,rfl,rfl,rfl⟩

theorem content_from_durable_tool_result_ok {restored : ContentPart} :
    content_from_durable_tool_result result = .ok restored ↔ result.call_id ≠ "" ∧
    validate_blocks result.blocks = .ok () ∧
      restored = .ToolResult result.call_id (block_texts result.blocks) result.is_error (some ⟨result.blocks⟩) := by
  unfold content_from_durable_tool_result DurableToolResult.validate require_non_empty
  by_cases unnamed : result.call_id = ""
  · have empty : result.call_id.isEmpty = true := by
      rw [unnamed]
      rfl
    simp only [empty,if_true]
    constructor
    · intro returned
      cases returned
    · intro all
      exact absurd unnamed all.1
  have named : result.call_id.isEmpty = false := by simpa using unnamed
  simp only [named,Bool.false_eq_true,if_false]
  cases valid : validate_blocks result.blocks with
  | error error =>
    constructor
    · intro returned
      cases returned
    · intro all
      cases all.2.1
  | ok none_ =>
  constructor
  · intro returned
    cases returned
    exact ⟨unnamed,rfl,rfl⟩
  · rintro ⟨-,-,rfl⟩
    rfl

/-- A result through its envelope comes back as it was exactly when it is its own envelope. -/
theorem result_returns (enveloped : durable_result part = some result) :
    (∃ restored, content_from_durable_tool_result result = .ok restored ∧ read strict restored = read strict part) ↔
    Faithful strict part := by
  cases part with
  | Text text => cases enveloped
  | Image source media_type detail => cases enveloped
  | Audio source media_type => cases enveloped
  | ToolResult call_id output is_error durable_content =>
  cases enveloped
  cases durable_content with
  | none =>
    have whole : block_texts [.Text output] = output := by simp [block_texts]
    constructor
    · rintro ⟨restored,returned,same⟩
      obtain ⟨named,-,rfl⟩ := content_from_durable_tool_result_ok.mp returned
      cases strict with
      | true => simp [read] at same
      | false => exact ⟨named,rfl⟩
    · rintro ⟨named,rfl⟩
      refine ⟨_,content_from_durable_tool_result_ok.mpr ⟨named,rfl,rfl⟩,?_⟩
      simp [read,durable_tool_result_from_part,DurableToolResult.text,whole]
  | some content =>
  constructor
  · rintro ⟨restored,returned,same⟩
    obtain ⟨named,valid,rfl⟩ := content_from_durable_tool_result_ok.mp returned
    have texts : block_texts content.blocks = output := by simpa [read,durable_tool_result_from_part] using same
    exact ⟨named,valid,texts⟩
  · rintro ⟨named,valid,texts⟩
    refine ⟨_,content_from_durable_tool_result_ok.mpr ⟨named,valid,rfl⟩,?_⟩
    simp [read,durable_tool_result_from_part,texts]

private theorem results_return {parts : List ContentPart} (enveloped : parts.mapM durable_result = some results) :
    (∃ restored, results.mapM content_from_durable_tool_result = .ok restored ∧ restored.map (read strict) = parts.map (read strict)) ↔
      ∀ part ∈ parts, Faithful strict part := by
  induction parts generalizing results with
  | nil =>
    cases enveloped
    constructor
    · intro returned part member
      cases member
    · intro faithful
      exact ⟨[],rfl,rfl⟩
  | cons part rest ih =>
  obtain ⟨result,results_,first,later,rfl⟩ := mapM_durable_cons enveloped
  rw [forall_mem_cons,← result_returns first,← ih later]
  constructor
  · rintro ⟨restored,returned,same⟩
    obtain ⟨head,tail,returned_head,returned_tail,rfl⟩ := forall₂_cons_left_iff.mp (mapM_ok_iff.mp returned)
    rw [map_cons,map_cons,cons.injEq] at same
    exact ⟨⟨head,returned_head,same.1⟩,⟨tail,mapM_ok_iff.mpr returned_tail,same.2⟩⟩
  · rintro ⟨⟨head,returned_head,same_head⟩,⟨tail,returned_tail,same_tail⟩⟩
    refine ⟨head :: tail,mapM_ok_iff.mpr (.cons returned_head (mapM_ok_iff.mp returned_tail)),?_⟩
    rw [map_cons,map_cons,same_head,same_tail]

private theorem restored_enveloped {parts : List ContentPart} (returned : results.mapM content_from_durable_tool_result = .ok parts) :
    parts.mapM durable_result = some results := by
  induction results generalizing parts with
  | nil =>
    cases returned
    rfl
  | cons result rest ih =>
  obtain ⟨head,tail,returned_head,returned_tail,rfl⟩ := forall₂_cons_left_iff.mp (mapM_ok_iff.mp returned)
  obtain ⟨-,-,rfl⟩ := content_from_durable_tool_result_ok.mp returned_head
  rw [mapM_cons,ih (mapM_ok_iff.mpr returned_tail)]
  rfl

end Results

section Media

/-- A part through its block comes back exactly when it is restorable, and then as it was. -/
theorem part_returns {part restored : ContentPart} :
    (∃ block, content_part_to_durable part = .ok block ∧ validate_block block = .ok () ∧
    durable_block_to_content_part block = .ok restored) ↔
      Restorable part ∧ restored = part := by
  cases part with
  | Text text =>
    constructor
    · rintro ⟨block,forth,-,back⟩
      cases forth
      cases back
      exact ⟨trivial,rfl⟩
    · rintro ⟨-,rfl⟩
      exact ⟨_,rfl,rfl,rfl⟩
  | ToolResult call_id output is_error durable_content =>
    constructor
    · rintro ⟨block,forth,-,-⟩
      cases forth
    · rintro ⟨none_,-⟩
      cases none_
  | Image source media_type detail =>
    have shown : detail_of (detail.map fun detail => .Object [("detail",.Text detail)]) = detail := by
      cases detail <;> rfl
    constructor
    · rintro ⟨block,forth,valid,back⟩
      cases forth
      cases source with
      | Url url =>
        cases back
        exact ⟨valid,by rw [shown]⟩
      | Base64 data =>
        cases back
        exact ⟨valid,by rw [shown]⟩
      | FileId id provider_id endpoint_id => cases back
      | Object handle owner payload_ref => cases back
    rintro ⟨restorable,rfl⟩
    refine ⟨_,rfl,?_,?_⟩
    · cases source with
      | Url url => exact restorable
      | Base64 data => exact restorable
      | FileId id provider_id endpoint_id => cases restorable
      | Object handle owner payload_ref => cases restorable
    cases source with
    | Url url => simp only [durable_block_to_content_part,shown]
    | Base64 data => simp only [durable_block_to_content_part,shown]
    | FileId id provider_id endpoint_id => cases restorable
    | Object handle owner payload_ref => cases restorable
  | Audio source media_type =>
  constructor
  · rintro ⟨block,forth,valid,back⟩
    cases forth
    cases source with
    | Base64 data =>
      cases back
      exact ⟨valid,rfl⟩
    | Url url => cases back
    | FileId id provider_id endpoint_id => cases back
    | Object handle owner payload_ref => cases back
  rintro ⟨restorable,rfl⟩
  cases source with
  | Base64 data => exact ⟨_,rfl,restorable,rfl⟩
  | Url url => cases restorable
  | FileId id provider_id endpoint_id => cases restorable
  | Object handle owner payload_ref => cases restorable

private theorem validate_blocks_ok {blocks : List DurableContentBlock} :
    validate_blocks blocks = .ok () ↔ ∀ block ∈ blocks, validate_block block = .ok () := by
  induction blocks with
  | nil =>
    constructor
    · intro valid block member
      cases member
    · intro each
      rfl
  | cons block rest ih =>
  have both : validate_blocks (block :: rest) = (do validate_block block; validate_blocks rest) := rfl
  rw [both,forall_mem_cons,← ih]
  cases first : validate_block block with
  | error error =>
    constructor
    · intro valid
      cases valid
    · intro both
      cases both.1
  | ok none_ =>
  constructor
  · intro valid
    exact ⟨rfl,valid⟩
  · intro both
    exact both.2

/-- Parts through their blocks come back exactly when each is restorable, and then as they were. -/
theorem parts_return {parts restored : List ContentPart} :
    (∃ blocks, parts.mapM content_part_to_durable = .ok blocks ∧ validate_blocks blocks = .ok () ∧
        blocks.mapM durable_block_to_content_part = .ok restored) ↔
      (∀ part ∈ parts, Restorable part) ∧ restored = parts := by
  simp only [mapM_ok_iff,validate_blocks_ok]
  induction parts generalizing restored with
  | nil =>
    constructor
    · rintro ⟨blocks,forth,-,back⟩
      cases forth
      cases back
      exact ⟨nofun,rfl⟩
    · rintro ⟨-,rfl⟩
      exact ⟨[],.nil,nofun,.nil⟩
  | cons part rest ih =>
  rw [forall_mem_cons]
  constructor
  · rintro ⟨blocks,forth,valid,back⟩
    obtain ⟨block,blocks_,forth_head,forth_tail,rfl⟩ := forall₂_cons_left_iff.mp forth
    obtain ⟨head,tail,back_head,back_tail,rfl⟩ := forall₂_cons_left_iff.mp back
    rw [forall_mem_cons] at valid
    obtain ⟨restorable,rfl⟩ := part_returns.mp ⟨block,forth_head,valid.1,back_head⟩
    obtain ⟨others,rfl⟩ := ih.mp ⟨blocks_,forth_tail,valid.2,back_tail⟩
    exact ⟨⟨restorable,others⟩,rfl⟩
  · rintro ⟨⟨restorable,others⟩,rfl⟩
    obtain ⟨block,forth_head,valid_head,back_head⟩ := part_returns.mpr ⟨restorable,rfl⟩
    obtain ⟨blocks,forth_tail,valid_tail,back_tail⟩ := ih.mpr ⟨others,rfl⟩
    exact ⟨block :: blocks,.cons forth_head forth_tail,forall_mem_cons.mpr ⟨valid_head,valid_tail⟩,.cons back_head back_tail⟩

end Media

private theorem mapM_durable_none {parts : List ContentPart} : parts.mapM durable_result = none ↔ ∃ part ∈ parts, durable_result part = none := by
  induction parts with
  | nil => simp
  | cons part rest ih =>
  rw [mapM_cons]
  cases first : durable_result part with
  | none => exact iff_of_true rfl ⟨part,mem_cons_self,first⟩
  | some result =>
  cases later : rest.mapM durable_result with
  | none =>
    obtain ⟨other,member,found⟩ := ih.mp later
    exact iff_of_true rfl ⟨other,mem_cons_of_mem _ member,found⟩
  | some results =>
  refine iff_of_false nofun ?_
  rintro ⟨other,member,found⟩
  rcases mem_cons.mp member with rfl | there
  · rw [first] at found
    cases found
  · rw [ih.mpr ⟨other,there,found⟩] at later
    cases later

namespace Projector
variable {projector : Projector} {json : JsonText} {strict : Bool}

private theorem project_body_congr {first second : CoreMessage} (same : first.content = second.content) :
    projector.project_body first = projector.project_body second := by
  unfold project_body project_reduced message_body_parts
  rw [same]

variable {parts : List ContentPart}

theorem external_iff : projector.single_tool_result_is_external (.Parts parts) = true ↔
    ∃ call_id output is_error durable_content handle digest,
    parts = [.ToolResult call_id output is_error durable_content] ∧
      projector.referenced call_id = some (handle,digest) := by
  constructor
  · intro external
    unfold single_tool_result_is_external at external
    split at external
    next call_id output is_error durable_content alone =>
      cases alone
      obtain ⟨handle,found,held⟩ := Option.any_eq_true .. |>.mp external
      obtain ⟨digest,digested⟩ := Option.isSome_iff_exists.mp held
      refine ⟨call_id,output,is_error,durable_content,handle,digest,rfl,?_⟩
      simp [referenced,found,digested]
    next => cases external
  rintro ⟨call_id,output,is_error,durable_content,handle,digest,rfl,found⟩
  unfold referenced at found
  cases held : projector.handle_of call_id with
  | none =>
    rw [held] at found
    cases found
  | some first =>
  cases digested : first.residency.digest with
  | none => simp [held,digested] at found
  | some digest_ => simp [single_tool_result_is_external,held,digested]

variable {role : Role} {tool_calls : List ToolCall} {results : List DurableToolResult} {durable_content : Option DurableContent} {handle : Handle}
variable {digest : String} {restored : Content} {part : ContentPart} {content : DurableContent} {body : StoredMessageBody}

private theorem project_results
    (resident : projector.single_tool_result_is_external (.Parts parts) = false) (some_ : parts ≠ [])
    (enveloped : parts.mapM durable_result = some results) :
    projector.project_body ⟨role,.Parts parts,tool_calls⟩ = .ok (.Structured none results) := by
  unfold project_body
  rw [if_neg (by simp [resident])]
  rcases parts with _ | ⟨part,_ | ⟨second,rest⟩⟩
  · exact absurd rfl some_
  · cases part with
    | ToolResult call_id output is_error durable_content =>
      cases enveloped
      rfl
    | Text text => cases enveloped
    | Image source media_type detail => cases enveloped
    | Audio source media_type => cases enveloped
  have several : durable_tool_results_from_content (.Parts (part :: second :: rest)) = some results := by
    unfold durable_tool_results_from_content
    dsimp only
    rw [if_neg (by simp),enveloped]
  rw [several]

private theorem project_mixed
    (resident : projector.single_tool_result_is_external (.Parts parts) = false) (mixed : parts = [] ∨ parts.mapM durable_result = none) :
    projector.project_body ⟨role,.Parts parts,tool_calls⟩ = projector.project_reduced ⟨role,.Parts parts,tool_calls⟩ := by
  unfold project_body
  rw [if_neg (by simp [resident])]
  rcases parts with _ | ⟨part,_ | ⟨second,rest⟩⟩
  · rfl
  · cases part with
    | ToolResult call_id output is_error durable_content => rcases mixed with nothing | nothing <;> cases nothing
    | Text text => rfl
    | Image source media_type detail => rfl
    | Audio source media_type => rfl
  have several : durable_tool_results_from_content (.Parts (part :: second :: rest)) = none := by
    unfold durable_tool_results_from_content
    dsimp only
    rw [if_neg (by simp)]
    rcases mixed with nothing | nothing
    · cases nothing
    · exact nothing
  have alone : durable_tool_result_from_content (.Parts (part :: second :: rest)) = none := by
    cases part <;> rfl
  rw [several,alone]

variable {call_id output text : String} {is_error : Bool}

private theorem project_external (found : projector.referenced call_id = some (handle,digest)) :
    projector.project_body ⟨role,.Parts [.ToolResult call_id output is_error durable_content],tool_calls⟩ =
      if durable_content.isSome then .error "every non-tool message uses the canonical durable content model"
      else .ok (.Reference handle.id digest (projector.preview handle output call_id) (some call_id) is_error) := by
  have external : projector.single_tool_result_is_external (.Parts [.ToolResult call_id output is_error durable_content]) = true :=
    external_iff.mpr ⟨_,_,_,_,_,_,rfl,found⟩
  unfold project_body
  rw [if_pos external]
  cases durable_content with
  | some content => rfl
  | none => simp [project_reduced,message_body_parts,reduce_parts,found]

private theorem fit_fit (room : Nat) (chars : List Char) : truncate_on_char_boundary.fit room (truncate_on_char_boundary.fit room chars) =
    truncate_on_char_boundary.fit room chars := by
  induction chars generalizing room with
  | nil => rfl
  | cons char rest ih =>
  by_cases fits : char.utf8Size ≤ room
  · simp only [truncate_on_char_boundary.fit,if_pos fits,ih]
  · simp only [truncate_on_char_boundary.fit,if_neg fits]

private theorem preview_stable {handle : Handle} :
    projector.preview handle (projector.preview handle text call_id) call_id = projector.preview handle text call_id ↔
      ∀ payload_ref digest, handle.residency = .PagedOut payload_ref digest →
      collapse_preview (collapse_preview text call_id) call_id = collapse_preview text call_id := by
  have cut : ∀ text bytes, truncate_on_char_boundary (truncate_on_char_boundary text bytes) bytes = truncate_on_char_boundary text bytes := by
    intro text bytes
    simp only [truncate_on_char_boundary,String.toList_ofList,fit_fit]
  cases residency : handle.residency with
  | PagedOut payload_ref digest =>
    simp only [preview,residency]
    constructor
    · intro stable _ _ _
      exact stable
    · intro stable
      exact stable _ _ rfl
  | Resident => simp [preview,residency,cut]
  | External payload_ref digest original_size => simp [preview,residency,cut]
  | Collapsed => simp [preview,residency,cut]

/-- A content is stored, restored as it was, and stored again as it was stored. -/
def ContentReturns (projector : Projector) (strict : Bool) (content : Content) : Prop :=
  ∃ body restored, projector.project_body ⟨.User,content,[]⟩ = .ok body ∧ restore_body body = .ok restored ∧
  KeepsContent projector strict content restored ∧
    projector.project_body ⟨.User,restored,[]⟩ = .ok body

/-- A result whose body the host holds comes back exactly when it has no envelope and its preview is stable. -/
theorem external_returns
    (found : projector.referenced call_id = some (handle,digest)) :
    ContentReturns projector strict (.Parts [.ToolResult call_id output is_error durable_content]) ↔
    durable_content = none ∧
      ∀ payload_ref digest, handle.residency = .PagedOut payload_ref digest →
      collapse_preview (collapse_preview output call_id) call_id = collapse_preview output call_id := by
  rw [← @preview_stable projector]
  unfold ContentReturns
  rw [project_external found]
  cases durable_content with
  | some content =>
    constructor
    · rintro ⟨body,restored,projected,-⟩
      cases projected
    · rintro ⟨none_,-⟩
      cases none_
  | none =>
  constructor
  · rintro ⟨body,restored,projected,back,-,again⟩
    cases projected
    cases back
    rw [message_content,project_external found] at again
    simpa using again
  · rintro ⟨-,stable⟩
    refine ⟨_,_,rfl,rfl,.inr ⟨_,_,_,_,_,_,rfl,found,rfl⟩,?_⟩
    rw [message_content,project_external found,stable]
    rfl

/-- The call of a single result. -/
def one_call : List DurableToolResult → Option String
  | [result] => some result.call_id
  | _ => none

private theorem external_of_results {results : List DurableToolResult} (enveloped : parts.mapM durable_result = some results) :
    projector.single_tool_result_is_external (.Parts parts) =
      (one_call results).any fun call_id => (projector.handle_of call_id).any fun handle => handle.residency.digest.isSome := by
  rcases parts with _ | ⟨part,_ | ⟨second,rest⟩⟩
  · cases enveloped
    rfl
  · cases part with
    | ToolResult call_id output is_error durable_content =>
      cases enveloped
      cases durable_content <;> rfl
    | Text text => cases enveloped
    | Image source media_type detail => cases enveloped
    | Audio source media_type => cases enveloped
  · obtain ⟨first,results_,-,later,rfl⟩ := mapM_durable_cons enveloped
    obtain ⟨next,more,-,-,rfl⟩ := mapM_durable_cons later
    cases part <;> rfl

private theorem restore_results (some_ : results ≠ []) :
    restore_body (.Structured none results) = .ok restored ↔
    ∃ parts, results.mapM content_from_durable_tool_result = .ok parts ∧ restored = .Parts parts := by
  cases results with
  | nil => exact absurd rfl some_
  | cons result rest =>
  simp only [restore_body,Option.isSome_none,Bool.false_eq_true,if_false,content_from_durable_tool_results]
  cases back : (result :: rest).mapM content_from_durable_tool_result with
  | error error =>
    constructor
    · intro returned
      cases returned
    · rintro ⟨parts,returned,-⟩
      cases returned
  | ok parts =>
  constructor
  · intro returned
    cases returned
    exact ⟨parts,rfl,rfl⟩
  · rintro ⟨others,same,rfl⟩
    cases same
    rfl

/-- Results that are with the kernel come back exactly when each is its own envelope. -/
theorem resident_returns (resident : projector.single_tool_result_is_external (.Parts parts) = false)
    (some_ : parts ≠ []) (enveloped : parts.mapM durable_result = some results) :
    ContentReturns projector strict (.Parts parts) ↔ ∀ part ∈ parts, Faithful strict part := by
  have results_some : results ≠ [] := by
    rintro rfl
    cases parts with
    | nil => exact some_ rfl
    | cons part rest =>
    obtain ⟨result,results_,-,-,impossible⟩ := mapM_durable_cons enveloped
    cases impossible
  have called := @external_of_results projector _ _ enveloped
  rw [resident] at called
  rw [← results_return enveloped]
  unfold ContentReturns
  rw [project_results resident some_ enveloped]
  constructor
  · rintro ⟨body,restored,projected,back,kept,-⟩
    cases projected
    obtain ⟨restored_parts,returned,rfl⟩ := (restore_results results_some).mp back
    rcases kept with same | ⟨call_id,output,is_error,durable_content,handle,digest,alone,found,-⟩
    · exact ⟨restored_parts,returned,same⟩
    · cases alone
      rw [external_iff.mpr ⟨_,_,_,_,_,_,rfl,found⟩] at resident
      cases resident
  rintro ⟨restored,returned,same⟩
  have again := restored_enveloped returned
  have restored_some : restored ≠ [] := by
    rintro rfl
    cases again
    exact results_some rfl
  have restored_resident : projector.single_tool_result_is_external (.Parts restored) = false := (external_of_results again).trans called.symm
  exact ⟨_,_,rfl,(restore_results results_some).mpr ⟨restored,returned,rfl⟩,.inl same,project_results restored_resident restored_some again⟩

private theorem read_text (same : read strict part = .Text text) : part = .Text text := by
  cases part with
  | Text chunk => exact same
  | Image source media_type detail => cases same
  | Audio source media_type => cases same
  | ToolResult call_id output is_error durable_content => cases durable_content <;> cases same

private theorem read_result
    (same : read strict part = .ToolResult call_id output is_error durable_content) :
    ∃ durable_content, part = .ToolResult call_id output is_error durable_content := by
  cases part with
  | Text chunk => cases same
  | Image source media_type detail => cases same
  | Audio source media_type => cases same
  | ToolResult other_id other other_error other_content =>
  cases other_content with
  | none =>
    cases same
    exact ⟨_,rfl⟩
  | some content =>
  cases same
  exact ⟨_,rfl⟩

/-- A durable content and the parts it was made of. -/
theorem content_to_durable_parts :
    content_to_durable (.Parts parts) = .ok content ↔ parts.mapM content_part_to_durable = .ok content.blocks ∧
    validate_blocks content.blocks = .ok () := by
  have both : content_to_durable (.Parts parts) =
      (do let blocks ← parts.mapM content_part_to_durable; validate_blocks blocks; pure ⟨blocks⟩) := rfl
  rw [both]
  cases forth : parts.mapM content_part_to_durable with
  | error error =>
    constructor
    · intro stored
      cases stored
    · rintro ⟨stored,-⟩
      cases stored
  | ok blocks =>
  constructor
  · intro stored
    cases valid : validate_blocks blocks with
    | error error => simp [bind,Except.bind,valid] at stored
    | ok none_ =>
    simp only [bind,Except.bind,valid,pure,Except.pure,Except.ok.injEq] at stored
    rw [← stored]
    exact ⟨rfl,valid⟩
  · rintro ⟨stored,valid⟩
    cases stored
    simp only [bind,Except.bind,valid]
    rfl

private theorem content_from_durable_parts (returned : content_from_durable content = .ok restored) :
    content.blocks.mapM durable_block_to_content_part = .ok (StoredMessages.parts restored) := by
  unfold content_from_durable at returned
  cases back : content.blocks.mapM durable_block_to_content_part with
  | error error =>
    rw [back] at returned
    cases returned
  | ok parts =>
  rw [back] at returned
  simp only [bind,Except.bind] at returned
  split at returned
  next text =>
    cases returned
    rfl
  next =>
  cases returned
  rfl

private theorem content_from_durable_medium (medium : ∃ part ∈ parts, Medium part)
    (returned : content.blocks.mapM durable_block_to_content_part = .ok parts) : content_from_durable content = .ok (.Parts parts) := by
  unfold content_from_durable
  rw [returned]
  simp only [bind,Except.bind]
  split
  next text =>
    obtain ⟨part,member,shown⟩ := medium
    rw [mem_singleton.mp member] at shown
    cases shown
  next => rfl

private theorem project_whole
    (whole : reduce_parts parts "" none false = none) :
    projector.project_reduced ⟨role,.Parts parts,tool_calls⟩ = .ok body ↔
      ∃ content, content_to_durable (.Parts parts) = .ok content ∧ body = .Structured (some content) [] := by
  unfold project_reduced message_body_parts
  simp only [whole]
  cases made : content_to_durable (.Parts parts) with
  | error error =>
    constructor
    · intro projected
      cases projected
    · rintro ⟨content,made,-⟩
      cases made
  | ok content =>
  constructor
  · intro projected
    cases projected
    exact ⟨content,rfl,rfl⟩
  · rintro ⟨other,same,rfl⟩
    cases same
    rfl

private theorem restored_reduced {tool_call_id : Option String}
    (reduced : reduce_parts parts "" none false = some (text,tool_call_id,is_error))
    (projected : projector.project_reduced ⟨role,.Parts parts,tool_calls⟩ = .ok body) (back : restore_body body = .ok restored) :
    ∃ kept, restored = message_content kept tool_call_id is_error := by
  unfold project_reduced message_body_parts at projected
  simp only [reduced] at projected
  cases tool_call_id with
  | none =>
    cases projected
    cases back
    exact ⟨_,rfl⟩
  | some call_id =>
  dsimp only at projected
  split at projected
  next handle digest found =>
    cases projected
    cases back
    exact ⟨_,rfl⟩
  next =>
  cases projected
  cases back
  exact ⟨_,rfl⟩

/-- Parts that are not all results come back exactly when they are one text, or restorable with a medium among them. -/
theorem mixed_returns (resident : projector.single_tool_result_is_external (.Parts parts) = false)
    (mixed : parts = [] ∨ parts.mapM durable_result = none) :
    ContentReturns projector strict (.Parts parts) ↔
      (∃ text, parts = [.Text text]) ∨ ((∃ part ∈ parts, Medium part) ∧ ∀ part ∈ parts, Restorable part) := by
  have stored : ∀ role tool_calls, projector.project_body ⟨role,.Parts parts,tool_calls⟩ = projector.project_reduced ⟨role,.Parts parts,tool_calls⟩ :=
    fun role tool_calls => project_mixed resident mixed
  have not_alone : ∀ call_id output is_error durable_content, parts ≠ [.ToolResult call_id output is_error durable_content] := by
    rintro call_id output is_error durable_content rfl
    rcases mixed with nothing | nothing <;> cases nothing
  have kept_parts : ∀ {restored}, KeepsContent projector strict (.Parts parts) restored →
      (StoredMessages.parts restored).map (read strict) = parts.map (read strict) := by
    rintro restored (same | ⟨call_id,output,is_error,durable_content,handle,digest,alone,-⟩)
    · exact same
    · cases alone
      exact absurd rfl (not_alone _ _ _ _)
  unfold ContentReturns
  constructor
  · rintro ⟨body,restored,projected,back,kept,-⟩
    have same := kept_parts kept
    rw [stored] at projected
    cases reduced : reduce_parts parts "" none false with
    | none =>
      obtain ⟨content,made,rfl⟩ := (project_whole reduced).mp projected
      obtain ⟨forth,valid⟩ := content_to_durable_parts.mp made
      have returned : content_from_durable content = .ok restored := by
        simp only [restore_body,DurableContent.validate,valid,or_incompatible] at back
        cases returned : content_from_durable content with
        | error error => simp [bind,Except.bind,returned,incompatible] at back
        | ok other => simpa [bind,Except.bind,returned] using back
      obtain ⟨restorable,-⟩ := parts_return.mp ⟨content.blocks,forth,valid,content_from_durable_parts returned⟩
      obtain ⟨part,member,⟨result,enveloped⟩ | medium⟩ := reduce_none reduced
      · -- a result among the parts is not restorable
        have fine := restorable part member
        cases part with
        | ToolResult call_id output is_error durable_content => cases fine
        | Text text => cases enveloped
        | Image source media_type detail => cases enveloped
        | Audio source media_type => cases enveloped
      · exact .inr ⟨⟨part,member,medium⟩,restorable⟩
    | some found =>
    obtain ⟨text,tool_call_id,is_error⟩ := found
    obtain ⟨kept_text,rfl⟩ := restored_reduced reduced projected back
    cases tool_call_id with
    | none =>
      obtain ⟨part,rfl⟩ : ∃ part, parts = [part] :=
        length_eq_one_iff.mp (by simpa [message_content,StoredMessages.parts] using (congrArg length same).symm)
      have shown : read strict part = .Text kept_text := by simpa [message_content,StoredMessages.parts,read] using same.symm
      exact .inl ⟨kept_text,by rw [read_text shown]⟩
    | some call_id =>
    obtain ⟨part,rfl⟩ : ∃ part, parts = [part] :=
      length_eq_one_iff.mp (by simpa [message_content,StoredMessages.parts] using (congrArg length same).symm)
    have shown : read strict part = .ToolResult call_id kept_text is_error (if strict then none else some ⟨[.Text kept_text]⟩) := by
      simpa [message_content,StoredMessages.parts,read] using same.symm
    obtain ⟨durable_content,rfl⟩ := read_result shown
    exact absurd rfl (not_alone _ _ _ _)
  rintro (⟨text,rfl⟩ | ⟨⟨part,member,medium⟩,restorable⟩)
  · rw [stored]
    refine ⟨_,_,rfl,rfl,.inl ?_,rfl⟩
    simp [message_content,StoredMessages.parts]
  obtain ⟨blocks,forth,valid,back⟩ := parts_return.mpr ⟨restorable,rfl⟩
  have made : content_to_durable (.Parts parts) = .ok ⟨blocks⟩ := content_to_durable_parts.mpr ⟨forth,valid⟩
  have projected : projector.project_body ⟨.User,.Parts parts,[]⟩ = .ok (.Structured (some ⟨blocks⟩) []) := by
    rw [stored]
    exact (project_whole (reduce_medium member medium none)).mpr ⟨_,made,rfl⟩
  have returned : restore_body (.Structured (some ⟨blocks⟩) []) = .ok (.Parts parts) := by
    simp only [restore_body,DurableContent.validate,valid,or_incompatible,content_from_durable_medium ⟨part,member,medium⟩ back]
    rfl
  exact ⟨_,_,projected,returned,.inl rfl,projected⟩

private theorem faithful_enveloped (faithful : Faithful strict part) : durable_result part ≠ none := by
  cases part with
  | ToolResult call_id output is_error durable_content =>
    intro nothing
    cases nothing
  | Text text => cases faithful
  | Image source media_type detail => cases faithful
  | Audio source media_type => cases faithful

private theorem medium_bare (medium : Medium part) : durable_result part = none := by
  cases part with
  | ToolResult call_id output is_error durable_content => cases medium
  | Text text => cases medium
  | Image source media_type detail => rfl
  | Audio source media_type => rfl

/-- The contents that come back are the sound ones. -/
theorem content_returns_iff {content : Content} :
    ContentReturns projector strict content ↔ Sound projector strict content := by
  cases content with
  | Text text => exact iff_of_true ⟨_,_,rfl,rfl,.inl rfl,rfl⟩ trivial
  | Parts parts =>
  cases external : projector.single_tool_result_is_external (.Parts parts) with
  | true =>
    obtain ⟨call_id,output,is_error,durable_content,handle,digest,rfl,found⟩ := external_iff.mp external
    rw [external_returns found]
    constructor
    · rintro ⟨rfl,stable⟩
      exact .inl ⟨_,_,_,_,_,rfl,found,stable⟩
    rintro (⟨call_id_,output_,is_error_,handle_,digest_,alone,held,stable⟩ | ⟨resident,-⟩ | ⟨text,alone⟩ | ⟨-,restorable⟩)
    · cases alone
      rw [found] at held
      cases held
      exact ⟨rfl,stable⟩
    · rw [external] at resident
      cases resident
    · cases alone
    · cases restorable _ mem_cons_self
  | false =>
  have hosted : ∀ call_id output is_error durable_content found, parts = [.ToolResult call_id output is_error durable_content] →
      projector.referenced call_id ≠ some found := by
    rintro call_id output is_error durable_content ⟨handle,digest⟩ rfl found
    rw [external_iff.mpr ⟨_,_,_,_,_,_,rfl,found⟩] at external
    cases external
  by_cases mixed : parts = [] ∨ parts.mapM durable_result = none
  · rw [mixed_returns external mixed]
    constructor
    · rintro (one | media)
      · exact .inr (.inr (.inl one))
      · exact .inr (.inr (.inr media))
    rintro (⟨call_id,output,is_error,handle,digest,alone,found,-⟩ | ⟨-,some_,faithful⟩ | one | media)
    · exact absurd found (hosted _ _ _ _ _ alone)
    · rcases mixed with rfl | bare
      · exact absurd rfl some_
      · obtain ⟨part,member,nothing⟩ := mapM_durable_none.mp bare
        exact absurd nothing (faithful_enveloped (faithful part member))
    · exact .inl one
    · exact .inr media
  rw [not_or] at mixed
  obtain ⟨some_,enveloped⟩ := mixed
  obtain ⟨results,enveloped⟩ := Option.ne_none_iff_exists'.mp enveloped
  rw [resident_returns external some_ enveloped]
  constructor
  · intro faithful
    exact .inr (.inl ⟨external,some_,faithful⟩)
  rintro (⟨call_id,output,is_error,handle,digest,alone,found,-⟩ | ⟨-,-,faithful⟩ | ⟨text,rfl⟩ | ⟨⟨part,member,medium⟩,-⟩)
  · exact absurd found (hosted _ _ _ _ _ alone)
  · exact faithful
  · cases enveloped
  · rw [mapM_durable_none.mpr ⟨part,member,medium_bare medium⟩] at enveloped
    cases enveloped

end Projector

section Message
variable {projector : Projector} {json : JsonText} {strict : Bool}

private theorem role_returns (role : Role) : role_from_label (role_label role) = some role := by
  cases role <;> rfl

variable {partition : MessagePartition} {message : CoreMessage} {tokens : Nat}

theorem project_message_ok {stored : StoredMessageState} :
    projector.project_message json partition message tokens = .ok stored ↔
    ∃ body, projector.project_body message = .ok body ∧
      stored = ⟨partition,role_label message.role,body,message.tool_calls.map fun call =>
      ⟨call.id,call.name,json.to_string call.arguments⟩,tokens⟩ := by
  unfold project_message
  cases projected : projector.project_body message with
  | error error =>
    constructor
    · intro stored
      cases stored
    · rintro ⟨body,impossible,-⟩
      cases impossible
  | ok body =>
  constructor
  · intro stored
    cases stored
    exact ⟨body,rfl,rfl⟩
  · rintro ⟨other,same,rfl⟩
    cases same
    rfl

/-- A message is restored when its role, its content and its calls are. -/
theorem restore_message_ok {label : String} {body : StoredMessageBody} {calls : List LogicalToolCall}
    {restored : CoreMessage} :
    restore_message json label body calls = .ok restored ↔ role_from_label label = some restored.role ∧
    restore_body body = .ok restored.content ∧
      calls.mapM (restore_tool_call json) = .ok restored.tool_calls := by
  obtain ⟨role,content,tool_calls⟩ := restored
  unfold restore_message
  cases role_from_label label with
  | none =>
    constructor
    · intro returned
      cases returned
    · rintro ⟨impossible,-⟩
      cases impossible
  | some found =>
  cases restore_body body with
  | error fault =>
    constructor
    · intro returned
      cases returned
    · rintro ⟨-,impossible,-⟩
      cases impossible
  | ok found_content =>
  cases back : calls.mapM (restore_tool_call json) with
  | error fault =>
    simp only [pure,Except.pure,bind,Except.bind]
    constructor
    · intro returned
      cases returned
    · rintro ⟨-,-,impossible⟩
      cases impossible
  | ok found_calls =>
  simp only [pure,Except.pure,bind,Except.bind]
  constructor
  · intro returned
    cases returned
    exact ⟨rfl,rfl,rfl⟩
  rintro ⟨role_same,content_same,calls_same⟩
  cases role_same
  cases content_same
  cases calls_same
  rfl

private theorem calls_return {calls : List ToolCall} :
    (calls.map fun call => (⟨call.id,call.name,json.to_string call.arguments⟩ : LogicalToolCall)).mapM (restore_tool_call json) = .ok calls ↔
      ∀ call ∈ calls, json.from_str (json.to_string call.arguments) = .ok call.arguments := by
  rw [mapM_map_ok_iff]
  have one : ∀ call : ToolCall, restore_tool_call json ⟨call.id,call.name,json.to_string call.arguments⟩ = .ok call ↔
      json.from_str (json.to_string call.arguments) = .ok call.arguments := by
    intro call
    unfold restore_tool_call
    cases json.from_str (json.to_string call.arguments) with
    | error error =>
      constructor
      · intro impossible
        cases impossible
      · intro impossible
        cases impossible
    | ok arguments =>
    obtain ⟨id,name,printed⟩ := call
    simp
  simp only [one]

private theorem returns_parts :
    Returns projector json strict partition tokens message ↔
      (message.tool_calls.map fun call => (⟨call.id,call.name,json.to_string call.arguments⟩ : LogicalToolCall)).mapM (restore_tool_call json) =
        .ok message.tool_calls ∧ projector.ContentReturns strict message.content := by
  have body_same : ∀ other : CoreMessage, projector.project_body other = projector.project_body ⟨.User,other.content,[]⟩ :=
    fun other => project_body_congr rfl
  unfold Returns Projector.ContentReturns
  constructor
  · rintro ⟨stored,restored,first,back,-,calls_same,kept,again⟩
    obtain ⟨body,projected,rfl⟩ := project_message_ok.mp first
    obtain ⟨-,content_back,calls_back⟩ := restore_message_ok.mp back
    obtain ⟨body_,projected_again,same⟩ := project_message_ok.mp again
    obtain rfl : body = body_ := congrArg StoredMessageState.body same
    rw [body_same] at projected projected_again
    rw [calls_same] at calls_back
    exact ⟨calls_back,_,_,projected,content_back,kept,projected_again⟩
  · rintro ⟨calls_back,body,content,projected,content_back,kept,projected_again⟩
    exact ⟨_,⟨message.role,content,message.tool_calls⟩,project_message_ok.mpr ⟨body,(body_same _).trans projected,rfl⟩,
      restore_message_ok.mpr ⟨role_returns _,content_back,calls_back⟩,rfl,rfl,kept,
      project_message_ok.mpr ⟨body,(body_same _).trans projected_again,rfl⟩⟩

/-- A message is stored, restored and stored again as it was exactly when the arguments of its calls are read as
    they were printed, and its content is sound. -/
theorem returns_iff (projector : Projector) (json : JsonText) (strict : Bool) (partition : MessagePartition)
    (tokens : Nat) (message : CoreMessage) :
    Returns projector json strict partition tokens message ↔
      (∀ call ∈ message.tool_calls, json.from_str (json.to_string call.arguments) = .ok call.arguments) ∧
      Sound projector strict message.content := by
  rw [returns_parts,content_returns_iff,calls_return]

/-- A result whose text is not that of its blocks comes back with the text of its blocks. -/
theorem text_lost :
    ¬ Returns ⟨[],512⟩ ⟨fun _ => "{}",fun _ => .ok (.Object [])⟩ true .History 1
      ⟨.Tool,.Parts [.ToolResult "c1" "done" false (some ⟨[.Text "finished"]⟩)],[]⟩ ∧
    ¬ Returns ⟨[],512⟩ ⟨fun _ => "{}",fun _ => .ok (.Object [])⟩ false .History 1
      ⟨.Tool,.Parts [.ToolResult "c1" "done" false (some ⟨[.Text "finished"]⟩)],[]⟩ := by
  have lost : ∀ strict, ¬ Sound ⟨[],512⟩ strict (.Parts [.ToolResult "c1" "done" false (some ⟨[.Text "finished"]⟩)]) := by
    rintro strict (⟨_,_,_,_,_,alone,-⟩ | ⟨-,-,faithful⟩ | ⟨text,alone⟩ | ⟨-,restorable⟩)
    · cases alone
    · have texts : block_texts [.Text "finished"] = "done" := (faithful _ mem_cons_self).2.2
      exact absurd texts (by decide)
    · cases alone
    · cases restorable _ mem_cons_self
  constructor
  · intro returns
    exact lost true (content_returns_iff.mp (returns_parts.mp returns).2)
  · intro returns
    exact lost false (content_returns_iff.mp (returns_parts.mp returns).2)

end Message

end Deepstrike.StoredMessages
