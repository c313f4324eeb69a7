import Gatewayz.Messages.Vertex

/-!
# `Correctness.VertexContents` — what of a conversation reaches Vertex

A conversation is a list of items: texts, images, calls of tools and their results, each under a role. The translation keeps the items of a
message in their order, but it has no part for calls and results, makes a text of what is null, and takes every linked image for a JPEG. So
nothing is lost exactly where none of this occurs (`kept_iff`).
-/

namespace Gatewayz.Vertex

/-! ## The claim -/

inductive Item where
  | text (text : String)
  | image (mediaType data : String)
  | link (mediaType uri : String)
  | call (name args : String)
  /-- The result of a call of the tool with this name, if there was one. -/
  | result (name : Option String) (content : String)
  deriving DecidableEq

def textItems (s : String) : List Item := if s = "" then [] else [.text s]

/-- The media type that a data URL names: up to a semicolon or to the comma. Where it names none, a JPEG will do. -/
def namedMediaType (header : List Char) : String :=
  if (splitOnce ';' (header.drop 5)).1 = [] then "image/jpeg" else String.ofList (splitOnce ';' (header.drop 5)).1

def imageItems (served : String → String) (url : String) : List Item :=
  if "data:".toList.isPrefixOf url.toList then
    match splitOnce ',' url.toList with
    | (header, some data) => [.image (namedMediaType header) (String.ofList data)]
    | (_, none) => []
  else [.link (served url) url]

def openAiPartItems (served : String → String) : OpenAiPart → List Item
  | .text s _ => textItems s
  | .imageUrl url => imageItems served url

def contentItems (served : String → String) : OpenAiContent → List Item
  | .text s => textItems s
  | .parts parts => parts.flatMap (openAiPartItems served)
  | .none => []

def resultText : OpenAiContent → String
  | .text s => s
  | .parts parts => concat (partTexts parts)
  | .none => ""

/-- The items of a conversation, behind some calls: each result belongs to the call with its id. -/
def conversationItems (served : String → String) : List ToolCall → List OpenAiMessage → List (VertexRole × Item)
  | _, [] => []
  | calls, message :: rest =>
    match message.role with
    | .system => conversationItems served calls rest
    | .user => (contentItems served message.content).map (.user, ·) ++ conversationItems served calls rest
    | .assistant =>
      (contentItems served message.content).map (.model, ·) ++
        (message.toolCalls.map fun call => (.model, .call call.name call.arguments)) ++
        conversationItems served (calls ++ message.toolCalls) rest
    | .tool toolCallId =>
      (.user, .result ((calls.find? fun call => call.id = toolCallId).map ToolCall.name) (resultText message.content)) ::
        conversationItems served calls rest

def systemText : OpenAiContent → String
  | .none => ""
  | content => sanitizeSystemContent content

def systemInstruction (messages : List OpenAiMessage) : Option String :=
  let texts := (messages.filter fun message => message.role = .system).map fun message => systemText message.content
  if texts = [] then none else some (joinTexts "\n\n" (texts.filter (· ≠ "")))

def VertexPart.items : VertexPart → List Item
  | .text s => textItems s
  | .inlineData mimeType data => [.image mimeType data]
  | .fileData mimeType fileUri => [.link mimeType fileUri]
  | .functionCall name args => [.call name args]
  | .functionResponse name response => [.result (some name) response]

def VertexContent.items (content : VertexContent) : List (VertexRole × Item) := (content.parts.flatMap VertexPart.items).map (content.role, ·)

/-- Nothing of a conversation is lost, and nothing is added. -/
structure Kept (served : String → String) (messages : List OpenAiMessage) : Prop where
  contents : (prepareVertexContents messages).1.flatMap VertexContent.items = conversationItems served [] messages
  system : (prepareVertexContents messages).2 = systemInstruction messages

/-! ## The condition -/

/-- The media type of an image is the one that it is sent with: a data URL that names another type than JPEG has a semicolon, and a link
serves a JPEG. -/
def MediaTypeSent (served : String → String) (url : String) : Prop :=
  if "data:".toList.isPrefixOf url.toList then
    (splitOnce ',' url.toList).2 = none ∨ (splitOnce ';' ((splitOnce ',' url.toList).1.drop 5)).2 ≠ none ∨
      namedMediaType (splitOnce ',' url.toList).1 = "image/jpeg"
  else served url = "image/jpeg"

def imageUrls : OpenAiContent → List String
  | .parts parts =>
    parts.filterMap fun
      | .text _ _ => none
      | .imageUrl url => some url
  | _ => []

/-- When nothing is lost. -/
structure Plain (served : String → String) (message : OpenAiMessage) : Prop where
  notNull : message.content ≠ .none
  noResult : ∀ toolCallId, message.role ≠ .tool toolCallId
  noCalls : message.role = .assistant → message.toolCalls = []
  images : message.role ≠ .system → ∀ url ∈ imageUrls message.content, MediaTypeSent served url

/-! ## One content -/

variable (content : OpenAiContent)

section Content

variable {served : String → String}

def sentItems (part : OpenAiPart) : List Item := ((partOf part).map VertexPart.items).getD []

theorem items_partsOf (parts : List OpenAiPart) : (partsOf (.parts parts)).flatMap VertexPart.items = parts.flatMap sentItems := by
  change (parts.filterMap partOf).flatMap VertexPart.items = _
  induction parts with
  | nil => rfl
  | cons part parts ih =>
    rw [List.filterMap_cons, List.flatMap_cons, ← ih]
    unfold sentItems
    cases partOf part with
    | none => rfl
    | some sent => rfl

theorem mimeTypeOf_eq_iff (header : List Char) :
    mimeTypeOf header = namedMediaType header ↔ (splitOnce ';' (header.drop 5)).2 ≠ none ∨ namedMediaType header = "image/jpeg" := by
  unfold mimeTypeOf namedMediaType
  obtain ⟨mimePart, rest⟩ := splitOnce ';' (header.drop 5)
  cases rest with
  | none => exact ⟨fun h => .inr h.symm, fun h => (h.resolve_left fun h => h rfl).symm⟩
  | some rest => exact iff_of_true rfl (.inl nofun)

/-- An image keeps its media type exactly under the condition. -/
theorem sentItems_image_iff (url : String) : imageItems served url = sentItems (.imageUrl url) ↔ MediaTypeSent served url := by
  change _ = ((imagePart url).map VertexPart.items).getD [] ↔ _
  unfold imagePart imageItems MediaTypeSent
  by_cases hdata : "data:".toList.isPrefixOf url.toList = true
  · rw [if_pos hdata, if_pos hdata, if_pos hdata]
    obtain ⟨header, rest⟩ := splitOnce ',' url.toList
    cases rest with
    | none => exact iff_of_true rfl (.inl rfl)
    | some data =>
      have hsent := mimeTypeOf_eq_iff header
      constructor
      · intro h
        have heq : namedMediaType header = mimeTypeOf header := (Item.image.inj (List.cons.inj h).1).1
        exact .inr (hsent.mp heq.symm)
      · intro h
        have heq : mimeTypeOf header = namedMediaType header := hsent.mpr (h.resolve_left nofun)
        change [Item.image (namedMediaType header) (String.ofList data)] = [Item.image (mimeTypeOf header) (String.ofList data)]
        rw [heq]
  · rw [if_neg hdata, if_neg hdata, if_neg hdata]
    constructor
    · intro h
      exact (Item.link.inj (List.cons.inj h).1).1
    · intro h
      rw [h]
      rfl

theorem length_sentItems (part : OpenAiPart) : (openAiPartItems served part).length = (sentItems part).length := by
  cases part with
  | text s cacheControl => rfl
  | imageUrl url =>
    change (imageItems served url).length = (((imagePart url).map VertexPart.items).getD []).length
    unfold imagePart imageItems
    split
    · cases splitOnce ',' url.toList with
      | mk header rest =>
        cases rest with
        | none => rfl
        | some data => rfl
    · rfl

theorem length_contentItems_le :
    (contentItems served content).length ≤ ((partsOf content).flatMap VertexPart.items).length := by
  cases content with
  | none => exact Nat.zero_le _
  | text s =>
    unfold partsOf
    rw [List.flatMap_singleton]
    exact le_rfl
  | parts parts =>
    rw [items_partsOf]
    unfold contentItems
    rw [List.length_flatMap, List.length_flatMap]
    simp only [length_sentItems]
    exact le_rfl

/-- A content is kept exactly if it is not null and its images keep their media types. -/
theorem contentItems_eq_iff : contentItems served content = (partsOf content).flatMap VertexPart.items ↔
    content ≠ .none ∧ ∀ url ∈ imageUrls content, MediaTypeSent served url := by
  cases content with
  | none => exact iff_of_false nofun fun h => h.1 rfl
  | text s =>
    unfold partsOf
    rw [List.flatMap_singleton]
    exact iff_of_true rfl ⟨nofun, fun url hurl => absurd hurl List.not_mem_nil⟩
  | parts parts =>
    rw [items_partsOf]
    unfold contentItems
    rw [Exec.flatMap_eq_iff fun part _ => (length_sentItems part).le]
    constructor
    · intro h
      refine ⟨nofun, fun url hurl => ?_⟩
      obtain ⟨part, hpart, hpart'⟩ := List.mem_filterMap.mp hurl
      cases part with
      | text s cacheControl => exact absurd hpart' nofun
      | imageUrl url' =>
        cases hpart'
        exact (sentItems_image_iff url).mp (h _ hpart)
    · rintro ⟨-, h⟩ part hpart
      cases part with
      | text s cacheControl => rfl
      | imageUrl url => exact (sentItems_image_iff url).mpr (h url (List.mem_filterMap.mpr ⟨_, hpart, rfl⟩))

end Content

/-! ## A conversation -/

section Conversation

variable {served : String → String} {messages : List OpenAiMessage} {message : OpenAiMessage}

def Item.isTool : Item → Bool
  | .call _ _ => true
  | .result _ _ => true
  | _ => false

theorem isTool_textItems {s : String} {item : Item} (h : item ∈ textItems s) : item.isTool = false := by
  unfold textItems at h
  split at h
  · exact absurd h List.not_mem_nil
  · rw [List.mem_singleton.mp h]
    rfl

theorem isTool_of_mem_partsOf {content : OpenAiContent} {item : Item} (h : item ∈ (partsOf content).flatMap VertexPart.items) :
    item.isTool = false := by
  obtain ⟨part, hpart, hitem⟩ := List.mem_flatMap.mp h
  have hkind : (∃ s, part = .text s) ∨ (∃ mimeType data, part = .inlineData mimeType data) ∨ ∃ mimeType uri, part = .fileData mimeType uri := by
    cases content with
    | none => exact .inl ⟨_, List.mem_singleton.mp hpart⟩
    | text s => exact .inl ⟨_, List.mem_singleton.mp hpart⟩
    | parts parts =>
      obtain ⟨source, -, hsource⟩ := List.mem_filterMap.mp hpart
      cases source with
      | text s cacheControl => exact .inl ⟨s, (Option.some.inj hsource).symm⟩
      | imageUrl url =>
        change imagePart url = some part at hsource
        unfold imagePart at hsource
        split at hsource
        · split at hsource
          · exact .inr (.inl ⟨_, _, (Option.some.inj hsource).symm⟩)
          · exact absurd hsource nofun
        · exact .inr (.inr ⟨_, _, (Option.some.inj hsource).symm⟩)
  rcases hkind with ⟨s, rfl⟩ | ⟨mimeType, data, rfl⟩ | ⟨mimeType, uri, rfl⟩
  · exact isTool_textItems hitem
  · rw [List.mem_singleton.mp hitem]
    rfl
  · rw [List.mem_singleton.mp hitem]
    rfl

def ToolFree (message : OpenAiMessage) : Prop :=
  (∀ toolCallId, message.role ≠ .tool toolCallId) ∧ (message.role = .assistant → message.toolCalls = [])

theorem exists_tool_of_not_toolFree (served : String → String) (hmessage : message ∈ messages) (htool : ¬ToolFree message) (calls : List ToolCall) :
    ∃ item ∈ conversationItems served calls messages, item.2.isTool = true := by
  induction messages generalizing calls with
  | nil => exact absurd hmessage List.not_mem_nil
  | cons first rest ih =>
    rw [conversationItems]
    rcases List.mem_cons.mp hmessage with rfl | hrest
    · cases hrole : message.role with
      | system => exact absurd ⟨fun id h => (nomatch hrole.symm.trans h), fun h => (nomatch hrole.symm.trans h)⟩ htool
      | user => exact absurd ⟨fun id h => (nomatch hrole.symm.trans h), fun h => (nomatch hrole.symm.trans h)⟩ htool
      | tool toolCallId => exact ⟨_, List.mem_cons_self, rfl⟩
      | assistant =>
        have hcalls : message.toolCalls ≠ [] := fun hnil => htool ⟨fun id h => (nomatch hrole.symm.trans h), fun _ => hnil⟩
        obtain ⟨call, hcall⟩ := List.exists_mem_of_ne_nil _ hcalls
        refine ⟨(.model, .call call.name call.arguments), ?_, rfl⟩
        exact List.mem_append_left _ (List.mem_append_right _ (List.mem_map.mpr ⟨call, hcall, rfl⟩))
    · cases hrole : first.role with
      | system => exact ih hrest calls
      | user =>
        obtain ⟨item, hitem, h⟩ := ih hrest calls
        exact ⟨item, List.mem_append_right _ hitem, h⟩
      | tool toolCallId =>
        obtain ⟨item, hitem, h⟩ := ih hrest calls
        exact ⟨item, List.mem_cons_of_mem _ hitem, h⟩
      | assistant =>
        obtain ⟨item, hitem, h⟩ := ih hrest (calls ++ first.toolCalls)
        exact ⟨item, List.mem_append_right _ hitem, h⟩

theorem conversationItems_of_toolFree (h : ∀ message ∈ messages, ToolFree message) (calls : List ToolCall) :
    conversationItems served calls messages =
      (messages.filter fun message => message.role ≠ .system).flatMap fun message =>
        (contentItems served message.content).map (vertexRole message.role, ·) := by
  induction messages generalizing calls with
  | nil => rfl
  | cons first rest ih =>
    obtain ⟨hresult, hcalls⟩ := h first List.mem_cons_self
    have hrest := ih fun message hmessage => h message (List.mem_cons_of_mem first hmessage)
    rw [conversationItems]
    cases hrole : first.role with
    | system => rw [List.filter_cons, if_neg (by simp [hrole]), ← hrest]
    | user =>
      rw [List.filter_cons, if_pos (by simp [hrole]), List.flatMap_cons, ← hrest calls, hrole]
      rfl
    | tool toolCallId => exact absurd hrole (hresult toolCallId)
    | assistant =>
      dsimp only
      rw [List.filter_cons, if_pos (by simp [hrole]), List.flatMap_cons, hcalls hrole, List.append_nil, ← hrest calls, List.map_nil,
        List.append_nil, hrole]
      rfl

theorem items_prepareVertexContents (messages : List OpenAiMessage) :
    (prepareVertexContents messages).1.flatMap VertexContent.items =
      (messages.filter fun message => message.role ≠ .system).flatMap fun message =>
        ((partsOf message.content).flatMap VertexPart.items).map (vertexRole message.role, ·) := by
  unfold prepareVertexContents buildVertexContent
  rw [List.flatMap_map]
  rfl

/-- The contents are kept exactly if there are no tools, and each content is. -/
theorem contents_kept_iff : (prepareVertexContents messages).1.flatMap VertexContent.items = conversationItems served [] messages ↔
    ∀ message ∈ messages, ToolFree message ∧ (message.role ≠ .system →
      message.content ≠ .none ∧ ∀ url ∈ imageUrls message.content, MediaTypeSent served url) := by
  have hpieces : ((messages.filter fun message => message.role ≠ .system).flatMap fun message =>
        (contentItems served message.content).map (vertexRole message.role, ·)) =
      ((messages.filter fun message => message.role ≠ .system).flatMap fun message =>
        ((partsOf message.content).flatMap VertexPart.items).map (vertexRole message.role, ·)) ↔
      ∀ message ∈ messages, message.role ≠ .system →
        message.content ≠ .none ∧ ∀ url ∈ imageUrls message.content, MediaTypeSent served url := by
    rw [Exec.flatMap_eq_iff fun message _ => by rw [List.length_map, List.length_map]; exact length_contentItems_le _]
    simp only [List.mem_filter, decide_eq_true_eq, and_imp]
    refine forall₂_congr fun message _ => forall_congr' fun _ => ?_
    rw [← contentItems_eq_iff]
    exact (List.map_injective_iff.mpr (Prod.mk_right_injective _)).eq_iff
  rw [items_prepareVertexContents]
  constructor
  · intro h
    have hfree : ∀ message ∈ messages, ToolFree message := by
      intro message hmessage
      by_contra htool
      obtain ⟨item, hitem, hkind⟩ := exists_tool_of_not_toolFree served hmessage htool []
      rw [← h] at hitem
      obtain ⟨other, -, hother⟩ := List.mem_flatMap.mp hitem
      obtain ⟨sent, hsent, rfl⟩ := List.mem_map.mp hother
      exact absurd (isTool_of_mem_partsOf hsent) (by rw [hkind]; exact nofun)
    rw [conversationItems_of_toolFree hfree] at h
    have hkept := hpieces.mp h.symm
    exact fun message hmessage => ⟨hfree message hmessage, hkept message hmessage⟩
  · intro h
    rw [conversationItems_of_toolFree fun message hmessage => (h message hmessage).1]
    exact (hpieces.mpr fun message hmessage => (h message hmessage).2).symm

end Conversation

/-! ## The system instruction -/

section System

variable {messages : List OpenAiMessage}

def joinedWeight (s : String) : Nat := if s = "" then 0 else s.length + 2

theorem length_joinTexts (texts : List String) : (joinTexts "\n\n" (texts.filter (· ≠ ""))).length = (texts.map joinedWeight).sum - 2 := by
  have hsum : (texts.map joinedWeight).sum = ((texts.filter (· ≠ "")).map fun s => s.length + 2).sum := by
    induction texts with
    | nil => rfl
    | cons s texts ih =>
      rw [List.map_cons, List.sum_cons, ih, joinedWeight, List.filter_cons]
      by_cases hs : s = ""
      · rw [if_pos hs, if_neg (by simp [hs]), Nat.zero_add]
      · rw [if_neg hs, if_pos (by simp [hs]), List.map_cons, List.sum_cons]
  have hjoin : ∀ (s : String) (l : List String), (joinTexts "\n\n" (s :: l)).length + 2 = ((s :: l).map fun s => s.length + 2).sum := by
    intro s l
    induction l generalizing s with
    | nil =>
      unfold joinTexts concat
      rw [List.intersperse_singleton, List.foldr_cons, List.foldr_nil, String.append_empty, List.map_singleton, List.sum_singleton]
    | cons s' l ih =>
      have hcons : joinTexts "\n\n" (s :: s' :: l) = s ++ ("\n\n" ++ joinTexts "\n\n" (s' :: l)) := rfl
      rw [hcons, String.length_append, String.length_append, List.map_cons, List.sum_cons, ← ih s']
      have hseparator : "\n\n".length = 2 := rfl
      omega
  rw [hsum]
  cases texts.filter (· ≠ "") with
  | nil => rfl
  | cons s l =>
    rw [← hjoin]
    rfl

theorem joinedWeight_systemText_le :
    joinedWeight (systemText content) ≤ joinedWeight (sanitizeSystemContent content) := by
  cases content with
  | none => exact Nat.zero_le _
  | text s => exact le_rfl
  | parts parts => exact le_rfl

/-- The system instruction is kept exactly if no system message is null. -/
theorem system_kept_iff : (prepareVertexContents messages).2 = systemInstruction messages ↔
    ∀ message ∈ messages, message.role = .system → message.content ≠ .none := by
  have hmem : ∀ message, message ∈ messages.filter (fun message => message.role = .system) ↔
      message ∈ messages ∧ message.role = .system := fun message => by rw [List.mem_filter, decide_eq_true_eq]
  unfold prepareVertexContents systemInstruction
  dsimp only
  generalize messages.filter (fun message => message.role = .system) = systemMessages at hmem ⊢
  constructor
  · intro h message hmessage hrole hnull
    have hin := (hmem message).mpr ⟨hmessage, hrole⟩
    have hne : ∀ f : OpenAiMessage → String, systemMessages.map f ≠ [] := fun f => List.map_eq_nil_iff.not.mpr (List.ne_nil_of_mem hin)
    rw [if_neg (hne _), if_neg (hne _)] at h
    have hlength := congrArg String.length (Option.some.inj h)
    rw [length_joinTexts, length_joinTexts, List.map_map, List.map_map] at hlength
    -- The message that is null adds its text and a separator.
    have hmore : ∀ l : List OpenAiMessage, (l.map (joinedWeight ∘ fun m => systemText m.content)).sum +
        (if message ∈ l then 6 else 0) ≤ (l.map (joinedWeight ∘ fun m => sanitizeSystemContent m.content)).sum := by
      intro l
      induction l with
      | nil => exact le_rfl
      | cons m l ih =>
        rw [List.map_cons, List.map_cons, List.sum_cons, List.sum_cons, Function.comp_apply, Function.comp_apply]
        have hle := joinedWeight_systemText_le m.content
        by_cases hm : message = m
        · rw [if_pos (hm ▸ List.mem_cons_self), ← hm, hnull]
          have hnone : joinedWeight (systemText .none) = 0 := rfl
          have htext : joinedWeight (sanitizeSystemContent .none) = 6 := by decide +kernel
          split at ih
          · omega
          · omega
        · have hiff : message ∈ m :: l ↔ message ∈ l := by rw [List.mem_cons, or_iff_right hm]
          rw [if_congr hiff rfl rfl]
          omega
    have hall := hmore systemMessages
    rw [if_pos hin] at hall
    omega
  · intro h
    have htexts : (systemMessages.map fun message => sanitizeSystemContent message.content) =
        systemMessages.map fun message => systemText message.content := by
      refine List.map_congr_left fun message hin => ?_
      obtain ⟨hmessage, hrole⟩ := (hmem message).mp hin
      cases hcontent : message.content with
      | none => exact absurd hcontent (h message hmessage hrole)
      | text s => rfl
      | parts parts => rfl
    rw [htexts]

end System

/-! ## The whole claim -/

/-- **Nothing of a conversation is lost** exactly if nothing is null, nothing calls a tool or answers a call, and each image has the media type
that it is sent with. -/
theorem kept_iff (served : String → String) (messages : List OpenAiMessage) :
    Kept served messages ↔ ∀ message ∈ messages, Plain served message := by
  constructor
  · intro h message hmessage
    obtain ⟨⟨hresult, hcalls⟩, hcontent⟩ := contents_kept_iff.mp h.contents message hmessage
    refine ⟨?_, hresult, hcalls, fun hrole => (hcontent hrole).2⟩
    by_cases hrole : message.role = .system
    · exact system_kept_iff.mp h.system message hmessage hrole
    · exact (hcontent hrole).1
  · intro h
    refine ⟨contents_kept_iff.mpr fun message hmessage => ?_, system_kept_iff.mpr fun message hmessage _ => (h message hmessage).notNull⟩
    have hplain := h message hmessage
    exact ⟨⟨hplain.noResult, hplain.noCalls⟩, fun hrole => ⟨hplain.notNull, hplain.images hrole⟩⟩

def weatherMessages : List OpenAiMessage :=
  [⟨.user, .text "Is it raining?", []⟩, ⟨.assistant, .none, [⟨"call_1", "get_weather", "\x7b\x7d"⟩]⟩, ⟨.tool "call_1", .text "yes", []⟩]

/-- **A call of a tool is lost**, and its result becomes a text of the model. -/
theorem weather_lost : ¬∀ served messages, Kept served messages := by
  intro h
  have hcontents := (h (fun _ => "image/png") weatherMessages).contents
  exact absurd hcontents (by decide +kernel)

end Gatewayz.Vertex
