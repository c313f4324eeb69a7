import Gatewayz.Messages.Translate
import Mathlib.Algebra.Order.BigOperators.Group.List

/-!
# `Correctness.DoubleTranslation` — a request survives being translated twice

A request to `/v1/messages` that Anthropic serves is translated into the OpenAI shape and back.

Much is lost on the way. Tool results become texts, tool uses come after everything else, breakpoints are dropped on images,
tool uses, tools, and on a block that is alone in its turn; `top_k` is ignored. `Survives` lists what a request must be for
none of this to matter, and that is exact.

Some of it is meant: the gateway speaks OpenAI inside, where a tool result of a user is described in words, and there is no
`top_k`. `inWords` is a request as the gateway means to pass it on, and that is the payload wherever no breakpoint and no
empty value is dropped.
-/

namespace Gatewayz

/-! ## Lists -/

theorem filterMap_eq_self_iff {α : Type} {f : α → Option α} (l : List α) : l.filterMap f = l ↔ ∀ a ∈ l, f a = some a := by
  simpa using List.filterMap_eq_map_iff_forall_eq_some (f := f) (g := id) (l := l)

theorem getD_noneIfEmpty {α : Type} (xs : List α) : ((if xs.isEmpty then none else some xs : Option (List α))).getD [] = xs := by
  cases xs <;> rfl

theorem isSome_noneIfEmpty {α : Type} (xs : List α) :
    (if xs.isEmpty then none else some xs : Option (List α)).isSome ↔ xs ≠ [] := by
  cases xs <;> simp

/-! ## Images -/

section SplitOnce

variable {sep : Char}

theorem splitOnce_append {xs : List Char} (h : sep ∉ xs) (ys : List Char) : splitOnce sep (xs ++ sep :: ys) = (xs, some ys) := by
  induction xs with
  | nil => simp [splitOnce]
  | cons x xs ih =>
    have hx : ¬ x = sep := fun hxs => h (by simp [hxs])
    have hxs : sep ∉ xs := fun hs => h (by simp [hs])
    simp [splitOnce, hx, ih hxs]

theorem not_mem_splitOnce (s : List Char) : sep ∉ (splitOnce sep s).1 := by
  induction s with
  | nil => simp [splitOnce]
  | cons c cs ih =>
    unfold splitOnce
    split
    · simp
    next hc => simpa [ih] using fun h => hc h.symm

theorem mem_of_mem_splitOnce {s : List Char} {c : Char} (h : c ∈ (splitOnce sep s).1) : c ∈ s := by
  induction s with
  | nil => simp [splitOnce] at h
  | cons d ds ih =>
    unfold splitOnce at h
    split at h
    · simp at h
    · rcases List.mem_cons.mp h with rfl | h
      · simp
      · simp [ih h]

theorem mem_of_mem_rest {s t : List Char} {c : Char} (ht : (splitOnce sep s).2 = some t) (h : c ∈ t) : c ∈ s := by
  induction s with
  | nil => simp [splitOnce] at ht
  | cons d ds ih =>
    unfold splitOnce at ht
    split at ht
    · injection ht with ht
      simp [ht, h]
    · simp [ih ht]

end SplitOnce

/-- Images whose source survives: a media type without comma and semicolon, or a URL that is not a data URL. -/
def ImageSource.Survives : ImageSource → Prop
  | .base64 mediaType _ => ',' ∉ mediaType.toList ∧ ';' ∉ mediaType.toList
  | .url address => "data:".toList.isPrefixOf address.toList = false

theorem sourceOfUrl_data {url mediaType data : String} (h : sourceOfUrl url = some (.base64 mediaType data)) :
    ',' ∉ mediaType.toList ∧ ';' ∉ mediaType.toList := by
  unfold sourceOfUrl at h
  split at h
  · split at h
    next header data' hsplit =>
      injection h with h
      injection h with hmedia hdata
      rw [← hmedia, String.toList_ofList]
      refine ⟨fun hcomma => ?_, not_mem_splitOnce _⟩
      have hrest : ',' ∈ ((splitOnce ':' header).2).getD [] := mem_of_mem_splitOnce hcomma
      have hheader : header = (splitOnce ',' url.toList).1 := by rw [hsplit]
      cases hscheme : (splitOnce ':' header).2 with
      | none => simp [hscheme] at hrest
      | some rest =>
        rw [hscheme, Option.getD_some] at hrest
        have hin := mem_of_mem_rest hscheme hrest
        rw [hheader] at hin
        exact not_mem_splitOnce _ hin
    · cases h
  · injection h with h
    cases h

theorem sourceOfUrl_imageUrlOf (source : ImageSource) : sourceOfUrl (imageUrlOf source) = some source ↔ source.Survives := by
  cases source with
  | base64 mediaType data =>
    refine ⟨fun h => sourceOfUrl_data h, fun ⟨hcomma, hsemi⟩ => ?_⟩
    have hurl : (imageUrlOf (.base64 mediaType data)).toList =
        ("data:".toList ++ mediaType.toList ++ ";base64".toList) ++ ',' :: data.toList := by
      simp [imageUrlOf, String.toList_append]
    have hdata : "data:".toList.isPrefixOf (imageUrlOf (.base64 mediaType data)).toList = true := by
      rw [hurl, List.isPrefixOf_iff_prefix, List.append_assoc, List.append_assoc]
      exact List.prefix_append _ _
    have hheader : ',' ∉ "data:".toList ++ mediaType.toList ++ ";base64".toList := by simp [hcomma]
    have hscheme : "data:".toList ++ mediaType.toList ++ ";base64".toList =
        "data".toList ++ ':' :: (mediaType.toList ++ ';' :: "base64".toList) := by simp
    unfold sourceOfUrl
    rw [if_pos hdata, hurl, splitOnce_append hheader]
    simp only
    rw [hscheme, splitOnce_append (by decide), Option.getD_some, splitOnce_append hsemi, String.ofList_toList,
      String.ofList_toList]
  | url url =>
    cases hdata : "data:".toList.isPrefixOf url.toList with
    | true =>
      simp only [ImageSource.Survives, hdata, Bool.true_eq_false, iff_false]
      intro h
      unfold sourceOfUrl at h
      rw [show imageUrlOf (.url url) = url from rfl, if_pos hdata] at h
      split at h
      · injection h with h
        cases h
      · cases h
    | false =>
      refine iff_of_true ?_ hdata
      unfold sourceOfUrl
      rw [show imageUrlOf (.url url) = url from rfl, if_neg (by rw [hdata]; exact Bool.false_ne_true)]

/-! ## What is promised -/

section Promise

variable {J : Type}

def Turn.inputBlocks (t : Turn J) : List (InputBlock J) :=
  match t.content with
  | .text s => if s = "" then [] else [⟨.text s, none⟩]
  | .blocks bs => bs

/-- A conversation block by block, each with its role: what is left of it when adjacent turns of one role are merged. -/
def conversation (turns : List (Role × List (InputBlock J))) : List (Role × InputBlock J) :=
  turns.flatMap fun t => t.2.map fun b => (t.1, b)

def InputBlock.text? (b : InputBlock J) : Option String :=
  match b.kind with
  | .text s => some s
  | _ => none

def systemTextOf (bs : List (InputBlock J)) : String := "\n".intercalate (bs.filterMap InputBlock.text?)

def systemMarks : Option SystemPrompt → List (InputBlock J)
  | some (.blocks bs) => (bs.map fun b => ⟨.text b.text, b.cacheControl⟩).filter fun b => b.cacheControl.isSome
  | _ => []

/-- The payload is the request. -/
structure SamePayload (req : MessagesRequest J) (p : Payload J) : Prop where
  model : p.model = req.model
  systemText : systemTextOf p.system = (extractSystemText req.system).getD ""
  systemMarks : p.system.filter (fun b => b.cacheControl.isSome) = systemMarks req.system
  conversation : conversation p.messages = conversation (req.messages.map fun t => (t.role, t.inputBlocks))
  tools : p.tools.getD [] = req.tools.getD []
  toolChoice : p.toolChoice = req.toolChoice
  maxTokens : p.maxTokens = req.maxTokens
  temperature : p.temperature = req.temperature
  topP : p.topP = req.topP
  topK : p.topK = req.topK
  stopSequences : p.stopSequences.getD [] = req.stopSequences.getD []

/-! ## What survives -/

def InputBlock.Survives (b : InputBlock J) : Prop :=
  match b.kind with
  | .text _ => True
  | .image source => b.cacheControl = none ∧ source.Survives
  | _ => False

def InputBlock.PlainUse (b : InputBlock J) : Prop :=
  b.cacheControl = none ∧ ∃ id name input, b.kind = .toolUse id name input

def AloneOk (contents : List (InputBlock J)) : Prop :=
  ∀ b s, contents = [b] → b.kind = .text s → s ≠ "" ∧ b.cacheControl = none

/-- Turns that survive: texts and images, and then, in a turn of the assistant, tool uses. -/
def Turn.Survives (t : Turn J) : Prop :=
  match t.content with
  | .text _ => True
  | .blocks bs =>
    ∃ contents uses, bs = contents ++ uses ∧ (∀ b ∈ contents, b.Survives) ∧ AloneOk contents ∧
      (∀ b ∈ uses, t.role = .assistant ∧ b.PlainUse)

def Tool.Survives (json : JsonText J) (t : Tool J) : Prop :=
  t.name ≠ "" ∧ t.description ≠ some "" ∧ json.truthy t.inputSchema = true ∧ t.cacheControl = none

def ToolChoice.Survives : ToolChoice → Prop
  | .auto disableParallel => disableParallel = false
  | .any disableParallel => disableParallel = false
  | .none => True
  | .tool name disableParallel => name ≠ "" ∧ disableParallel = false

/-- Requests that survive. -/
structure MessagesRequest.Survives (json : JsonText J) (req : MessagesRequest J) : Prop where
  turns : ∀ t ∈ req.messages, t.Survives
  tools : ∀ t ∈ req.tools.getD [], t.Survives json
  toolChoice : ∀ c, req.toolChoice = some c → req.tools.getD [] ≠ [] ∧ c.Survives
  topK : req.topK = none

end Promise

/-! ## Turns -/

section Turns

variable {J : Type} (json : JsonText J)

def blocksOfMessage (m : OpenAiMessage) : List (InputBlock J) :=
  contentToAnthropicBlocks m.content ++ m.toolCalls.map (toolCallToBlock json)

def translatedTurn (t : Turn J) : List (InputBlock J) := blocksOfMessage json (transformTurn json t)

theorem partToBlock_transform (b : InputBlock J) : partToBlock (transformContentBlock json b) = some b ↔ b.Survives := by
  obtain ⟨kind, cacheControl⟩ := b
  cases kind with
  | text s => simp [transformContentBlock, partToBlock, InputBlock.Survives]
  | image source =>
    simp only [transformContentBlock, partToBlock, InputBlock.Survives, ← sourceOfUrl_imageUrlOf]
    cases sourceOfUrl (imageUrlOf source) with
    | none => simp
    | some source' =>
      simp only [Option.map_some, Option.some.injEq, InputBlock.mk.injEq, InputKind.image.injEq]
      exact ⟨fun h => ⟨h.2.symm, h.1⟩, fun h => ⟨h.2, h.1.symm⟩⟩
  | toolUse id name input => simp [transformContentBlock, partToBlock, InputBlock.Survives]
  | toolResult id content isError => simp [transformContentBlock, partToBlock, InputBlock.Survives]

theorem toolCallToBlock_of {role : Role} {b : InputBlock J} {call : ToolCall} (h : toolCallOf json role b = some call) :
    role = .assistant ∧ toolCallToBlock json call = { b with cacheControl := none } := by
  obtain ⟨kind, cacheControl⟩ := b
  cases kind with
  | toolUse id name input =>
    simp only [toolCallOf] at h
    split at h
    next hrole =>
      injection h with h
      subst h
      refine ⟨hrole, ?_⟩
      simp only [toolCallToBlock, if_neg (json.dumps_ne_empty input), json.loads_dumps, Option.getD_some]
    next => cases h
  | text s => cases h
  | image source => cases h
  | toolResult id content isError => cases h

theorem toolCallOf_content {role : Role} {content : OpenAiContent} {b : InputBlock J}
    (h : b ∈ contentToAnthropicBlocks content) : toolCallOf json role b = none := by
  cases content with
  | none => simp [contentToAnthropicBlocks] at h
  | text s =>
    simp only [contentToAnthropicBlocks] at h
    split at h
    · simp at h
    · rw [List.mem_singleton.mp h]
      rfl
  | parts ps =>
    obtain ⟨part, -, hpart⟩ := List.mem_filterMap.mp h
    cases part with
    | text s cacheControl =>
      injection hpart with hpart
      subst hpart
      rfl
    | imageUrl url =>
      obtain ⟨source, -, rfl⟩ := Option.map_eq_some_iff.mp hpart
      rfl

/-- Contents come back as they were exactly if each survives, also if it is alone. -/
theorem collapse_eq_iff (contents : List (InputBlock J)) (calls : List ToolCall) :
    contentToAnthropicBlocks (collapse (contents.map (transformContentBlock json)) calls) = contents ↔
      (∀ b ∈ contents, b.Survives) ∧ AloneOk contents := by
  have hparts : ∀ bs : List (InputBlock J),
      (bs.map (transformContentBlock json)).filterMap partToBlock = bs ↔ ∀ b ∈ bs, b.Survives := by
    intro bs
    rw [List.filterMap_map, filterMap_eq_self_iff]
    exact forall_congr' fun b => forall_congr' fun _ => partToBlock_transform json b
  cases contents with
  | nil =>
    have halone : AloneOk (J := J) [] := fun b s h => by cases h
    simp only [List.map_nil, collapse, List.not_mem_nil, false_implies, implies_true, halone, and_self, iff_true]
    split <;> simp [contentToAnthropicBlocks]
  | cons b rest =>
    cases rest with
    | cons c rest =>
      have halone : AloneOk (b :: c :: rest) := fun b' s h => by simp at h
      have hcollapse : collapse ((b :: c :: rest).map (transformContentBlock json)) calls =
          .parts ((b :: c :: rest).map (transformContentBlock json)) := by
        simp only [List.map_cons]
        unfold collapse
        split
        next h => cases h
        next h => simp at h
        next => rfl
      rw [hcollapse]
      exact (hparts _).trans ⟨fun h => ⟨h, halone⟩, fun h => h.1⟩
    | nil =>
      obtain ⟨kind, cacheControl⟩ := b
      cases kind with
      | text s =>
        have hcollapse : collapse ([⟨.text s, cacheControl⟩].map (transformContentBlock json)) calls = .text s := rfl
        rw [hcollapse]
        by_cases hs : s = ""
        · subst hs
          simp [contentToAnthropicBlocks, InputBlock.Survives, AloneOk]
        · simp only [contentToAnthropicBlocks, hs, if_false, InputBlock.Survives, AloneOk, List.cons.injEq, and_true,
            List.mem_singleton, forall_eq, InputBlock.mk.injEq, true_and]
          constructor
          · rintro rfl b' s' rfl hs'
            injection hs' with hs'
            exact ⟨hs' ▸ hs, rfl⟩
          · intro h
            exact (h _ s rfl rfl).2.symm
      | image source =>
        have halone : AloneOk (J := J) [⟨.image source, cacheControl⟩] := fun b s hb hk => by
          injection hb with hb
          subst hb
          cases hk
        exact (hparts [⟨.image source, cacheControl⟩]).trans ⟨fun h => ⟨h, halone⟩, fun h => h.1⟩
      | toolUse id name input =>
        have hcollapse : collapse ([⟨.toolUse id name input, cacheControl⟩].map (transformContentBlock json)) calls =
          .text ("[Tool Call: " ++ name ++ "] (id: " ++ id ++ ") Input: " ++ json.dumps input) := rfl
        rw [hcollapse]
        simp only [contentToAnthropicBlocks]
        split <;> simp [InputBlock.Survives]
      | toolResult id content isError =>
        have hcollapse : collapse ([⟨.toolResult id content isError, cacheControl⟩].map (transformContentBlock json)) calls =
          .text ((if isError then "[Tool Error]" else "[Tool Result]") ++ " (" ++ id ++ "): " ++ resultText content) := rfl
        rw [hcollapse]
        simp only [contentToAnthropicBlocks]
        split <;> simp [InputBlock.Survives]

theorem length_collapse (parts : List OpenAiPart) (calls : List ToolCall) :
    (contentToAnthropicBlocks (J := J) (collapse parts calls)).length ≤ parts.length := by
  unfold collapse
  split
  · split <;> simp [contentToAnthropicBlocks]
  · simp only [contentToAnthropicBlocks]
    split <;> simp
  · exact List.length_filterMap_le _ _

theorem length_translatedTurn (t : Turn J) : (translatedTurn json t).length ≤ t.inputBlocks.length := by
  obtain ⟨role, content⟩ := t
  cases content with
  | text s => simp [translatedTurn, transformTurn, blocksOfMessage, contentToAnthropicBlocks, Turn.inputBlocks]
  | blocks bs =>
    have hsplit : ∀ bs : List (InputBlock J),
        (bs.filter fun b => (toolCallOf json role b).isNone).length + (bs.filterMap (toolCallOf json role)).length =
          bs.length := by
      intro bs
      induction bs with
      | nil => rfl
      | cons b bs ih =>
        cases hb : toolCallOf json role b with
        | none =>
          rw [List.filter_cons_of_pos (by simp [hb]), List.filterMap_cons_none hb, List.length_cons, List.length_cons]
          omega
        | some call =>
          rw [List.filter_cons_of_neg (by simp [hb]), List.filterMap_cons_some hb, List.length_cons, List.length_cons]
          omega
    have hcontents := length_collapse (J := J)
      ((bs.filter fun b => (toolCallOf json role b).isNone).map (transformContentBlock json)) (bs.filterMap (toolCallOf json role))
    have hbs := hsplit bs
    show (contentToAnthropicBlocks (collapse ((bs.filter fun b => (toolCallOf json role b).isNone).map
        (transformContentBlock json)) (bs.filterMap (toolCallOf json role))) ++
        (bs.filterMap (toolCallOf json role)).map (toolCallToBlock json)).length ≤ bs.length
    rw [List.length_map] at hcontents
    rw [List.length_append, List.length_map]
    omega

theorem toolCallOf_survives {b : InputBlock J} (h : b.Survives) (role : Role) : toolCallOf json role b = none := by
  obtain ⟨kind, cacheControl⟩ := b
  cases kind with
  | text s => rfl
  | image source => rfl
  | toolUse id name input => exact h.elim
  | toolResult id content isError => rfl

theorem toolCallOf_plainUse {b : InputBlock J} (h : b.PlainUse) :
    ∃ call, toolCallOf json .assistant b = some call ∧ toolCallToBlock json call = b := by
  obtain ⟨hcache, id, name, input, hkind⟩ := h
  have hcall : toolCallOf json .assistant b = some ⟨id, name, json.dumps input⟩ := by simp [toolCallOf, hkind]
  obtain ⟨-, hblock⟩ := toolCallToBlock_of json hcall
  refine ⟨_, hcall, hblock.trans ?_⟩
  obtain ⟨kind, cacheControl⟩ := b
  subst hcache
  rfl

theorem use_of_mem {role : Role} {bs : List (InputBlock J)} {u : InputBlock J}
    (h : u ∈ (bs.filterMap (toolCallOf json role)).map (toolCallToBlock json)) :
    role = .assistant ∧ u.PlainUse ∧ (toolCallOf json role u).isSome := by
  obtain ⟨call, hcall, rfl⟩ := List.mem_map.mp h
  obtain ⟨b, -, hb⟩ := List.mem_filterMap.mp hcall
  obtain ⟨rfl, hblock⟩ := toolCallToBlock_of json hb
  rw [hblock]
  obtain ⟨kind, cacheControl⟩ := b
  cases kind with
  | toolUse id name input => exact ⟨rfl, ⟨rfl, id, name, input, rfl⟩, rfl⟩
  | text s => cases hb
  | image source => cases hb
  | toolResult id content isError => cases hb

/-- A turn comes back as it was exactly if it survives. -/
theorem translated_eq_iff (t : Turn J) : translatedTurn json t = t.inputBlocks ↔ t.Survives := by
  obtain ⟨role, content⟩ := t
  cases content with
  | text s => simp [translatedTurn, transformTurn, blocksOfMessage, contentToAnthropicBlocks, Turn.inputBlocks, Turn.Survives]
  | blocks bs =>
    show contentToAnthropicBlocks (collapse ((bs.filter fun b => (toolCallOf json role b).isNone).map
        (transformContentBlock json)) (bs.filterMap (toolCallOf json role))) ++
        (bs.filterMap (toolCallOf json role)).map (toolCallToBlock json) = bs ↔ _
    constructor
    · intro h
      generalize hC : contentToAnthropicBlocks (collapse ((bs.filter fun b => (toolCallOf json role b).isNone).map
        (transformContentBlock json)) (bs.filterMap (toolCallOf json role))) = C at h
      have hnone : ∀ b ∈ C, toolCallOf json role b = none := fun b hb => toolCallOf_content json (hC ▸ hb)
      -- the contents of the turn are what its content came back as
      have hfilter : (bs.filter fun b => (toolCallOf json role b).isNone) = C := by
        have hsplit := congrArg (List.filter fun b => (toolCallOf json role b).isNone) h
        rw [List.filter_append] at hsplit
        have hleft : (C.filter fun b => (toolCallOf json role b).isNone) = C :=
          List.filter_eq_self.mpr fun b hb => by simp [hnone b hb]
        have hright : ((bs.filterMap (toolCallOf json role)).map (toolCallToBlock json)).filter
            (fun b => (toolCallOf json role b).isNone) = [] :=
          List.filter_eq_nil_iff.mpr fun b hb => by
            obtain ⟨-, -, hsome⟩ := use_of_mem json hb
            obtain ⟨call, hcall⟩ := Option.isSome_iff_exists.mp hsome
            simp [hcall]
        rw [hleft, hright, List.append_nil] at hsplit
        exact hsplit.symm
      rw [hfilter] at hC
      obtain ⟨hsurvive, halone⟩ := (collapse_eq_iff json C _).mp hC
      refine ⟨C, _, h.symm, hsurvive, halone, fun b hb => ?_⟩
      obtain ⟨hrole, huse, -⟩ := use_of_mem json hb
      exact ⟨hrole, huse⟩
    · rintro ⟨contents, uses, rfl, hsurvive, halone, huses⟩
      have hcontents : ((contents ++ uses).filter fun b => (toolCallOf json role b).isNone) = contents := by
        have hleft : (contents.filter fun b => (toolCallOf json role b).isNone) = contents :=
          List.filter_eq_self.mpr fun b hb => by simp [toolCallOf_survives json (hsurvive b hb)]
        have hright : (uses.filter fun b => (toolCallOf json role b).isNone) = [] :=
          List.filter_eq_nil_iff.mpr fun b hb => by
            obtain ⟨hrole, huse⟩ := huses b hb
            obtain ⟨call, hcall, -⟩ := toolCallOf_plainUse json huse
            have hrole : role = .assistant := hrole
            rw [hrole, hcall]
            simp
        rw [List.filter_append, hleft, hright, List.append_nil]
      have hcalls : ((contents ++ uses).filterMap (toolCallOf json role)).map (toolCallToBlock json) = uses := by
        have hleft : contents.filterMap (toolCallOf json role) = [] :=
          List.filterMap_eq_nil_iff.mpr fun b hb => toolCallOf_survives json (hsurvive b hb) role
        rw [List.filterMap_append, hleft, List.nil_append, List.map_filterMap, filterMap_eq_self_iff]
        intro b hb
        obtain ⟨hrole, huse⟩ := huses b hb
        obtain ⟨call, hcall, hback⟩ := toolCallOf_plainUse json huse
        have hrole : role = .assistant := hrole
        rw [hrole, hcall, Option.map_some, hback]
      rw [hcontents, hcalls, (collapse_eq_iff json contents _).mpr ⟨hsurvive, halone⟩]

/-! ## The conversation -/

theorem addTurn_conversation (p : PayloadParts J) (role : Role) (blocks : List (InputBlock J)) :
    conversation (p.addTurn role blocks).turns = conversation p.turns ++ blocks.map (fun b => (role, b)) ∧
      (p.addTurn role blocks).system = p.system := by
  unfold PayloadParts.addTurn
  split
  next h =>
    rw [List.isEmpty_iff] at h
    simp [h]
  next => simp [conversation]

theorem addMessage_turn (p : PayloadParts J) (t : Turn J) :
    conversation (addMessage json p (transformTurn json t)).turns =
        conversation p.turns ++ (translatedTurn json t).map (fun b => (t.role, b)) ∧
      (addMessage json p (transformTurn json t)).system = p.system := by
  have hrole : (transformTurn json t).role = t.role.toChat := by
    unfold transformTurn
    split <;> rfl
  have huser : t.role = .user → (transformTurn json t).toolCalls = [] := by
    intro hu
    unfold transformTurn
    split
    · rfl
    next bs _ =>
      refine List.filterMap_eq_nil_iff.mpr fun b _ => ?_
      unfold toolCallOf
      rw [hu]
      split <;> rfl
  unfold addMessage
  rw [hrole]
  cases h : t.role with
  | user =>
    have hblocks : translatedTurn json t = contentToAnthropicBlocks (transformTurn json t).content := by
      simp [translatedTurn, blocksOfMessage, huser h]
    rw [hblocks]
    exact addTurn_conversation p .user _
  | assistant => exact addTurn_conversation p .assistant _

theorem addMessages_turns (turns : List (Turn J)) (p : PayloadParts J) :
    conversation ((turns.map (transformTurn json)).foldl (addMessage json) p).turns =
        conversation p.turns ++ turns.flatMap (fun t => (translatedTurn json t).map fun b => (t.role, b)) ∧
      ((turns.map (transformTurn json)).foldl (addMessage json) p).system = p.system := by
  induction turns generalizing p with
  | nil => simp
  | cons t turns ih =>
    obtain ⟨hturn, hsystem⟩ := addMessage_turn json p t
    rw [List.map_cons, List.foldl_cons, (ih _).1, (ih _).2, hturn, hsystem, List.flatMap_cons, List.append_assoc]
    exact ⟨rfl, rfl⟩

theorem addMessages_system (system : Option SystemPrompt) : (systemMessages system).foldl (addMessage json) {} =
      { system := (systemMessages system).flatMap fun m => contentToAnthropicBlocks m.content } := by
  have hone : ∀ content, [OpenAiMessage.mk .system content []].foldl (addMessage json) {} =
      { system := [OpenAiMessage.mk .system content []].flatMap fun m => contentToAnthropicBlocks m.content } := by
    intro content
    simp [addMessage]
  unfold systemMessages
  split
  · split
    · exact hone _
    · split
      · rfl
      · exact hone _
  · split
    · rfl
    · exact hone _

/-- The conversation comes back exactly if every turn does. -/
theorem conversation_eq_iff (req : MessagesRequest J) (p : PayloadParts J) (hp : p.turns = []) :
    conversation ((req.messages.map (transformTurn json)).foldl (addMessage json) p).turns =
        conversation (req.messages.map fun t => (t.role, t.inputBlocks)) ↔
      ∀ t ∈ req.messages, t.Survives := by
  have hreq : conversation (req.messages.map fun t => (t.role, t.inputBlocks)) =
      req.messages.flatMap fun t => t.inputBlocks.map fun b => (t.role, b) := by
    rw [conversation, List.flatMap_map]
  have hnil : conversation (J := J) [] = [] := rfl
  rw [(addMessages_turns json req.messages p).1, hp, hnil, List.nil_append, hreq]
  have hinj : ∀ t : Turn J, (translatedTurn json t).map (fun b => (t.role, b)) = t.inputBlocks.map (fun b => (t.role, b)) ↔
      t.Survives := by
    intro t
    have hpair : Function.Injective fun b : InputBlock J => (t.role, b) := fun a b h => (Prod.mk.inj h).2
    rw [(List.map_injective_iff.mpr hpair).eq_iff, translated_eq_iff]
  constructor
  · intro h t ht
    refine (hinj t).mp ((Exec.flatMap_eq_iff fun u _ => ?_).mp h t ht)
    rw [List.length_map, List.length_map]
    exact length_translatedTurn json u
  · intro h
    exact List.flatMap_congr fun t ht => (hinj t).mpr (h t ht)

end Turns

/-! ## System, tools, parameters -/

section Rest

variable {J : Type} (json : JsonText J)

/-- The system prompt survives, text and breakpoints. -/
theorem system_kept (system : Option SystemPrompt) :
    systemTextOf (J := J) ((systemMessages system).flatMap fun m => contentToAnthropicBlocks m.content) =
        (extractSystemText system).getD "" ∧
      ((systemMessages system).flatMap fun m => contentToAnthropicBlocks (J := J) m.content).filter
        (fun b => b.cacheControl.isSome) = systemMarks system := by
  have hplain : ∀ text : String,
      systemTextOf (J := J) ((if text = "" then [] else [OpenAiMessage.mk .system (.text text) []]).flatMap
        fun m => contentToAnthropicBlocks m.content) = text ∧
      ((if text = "" then [] else [OpenAiMessage.mk .system (.text text) []]).flatMap
        fun m => contentToAnthropicBlocks (J := J) m.content).filter (fun b => b.cacheControl.isSome) = [] := by
    intro text
    by_cases htext : text = ""
    · subst htext
      exact ⟨rfl, rfl⟩
    · simp [htext, contentToAnthropicBlocks, systemTextOf, InputBlock.text?]
  cases system with
  | none => exact hplain ""
  | some system =>
    cases system with
    | text s => exact hplain s
    | blocks bs =>
      cases hmarks : systemHasCacheControl (some (.blocks bs)) with
      | true =>
        have hblocks : (systemMessages (some (.blocks bs))).flatMap
            (fun m => contentToAnthropicBlocks (J := J) m.content) = bs.map fun b => ⟨.text b.text, b.cacheControl⟩ := by
          simp only [systemMessages, hmarks, if_true, List.flatMap_singleton, contentToAnthropicBlocks,
            systemBlocksPreservingCache, List.filterMap_map]
          exact congrFun List.filterMap_eq_map bs
        have hne : bs ≠ [] := by
          rintro rfl
          cases hmarks
        rw [hblocks]
        refine ⟨?_, rfl⟩
        have htexts : (bs.map fun b => (⟨.text b.text, b.cacheControl⟩ : InputBlock J)).filterMap InputBlock.text? =
            bs.map SystemBlock.text := by
          rw [List.filterMap_map]
          exact congrFun List.filterMap_eq_map bs
        simp [systemTextOf, htexts, extractSystemText, hne]
      | false =>
        have hnone : systemMarks (J := J) (some (.blocks bs)) = [] := by
          have hall : ∀ b ∈ bs, b.cacheControl = none := by simpa [systemHasCacheControl] using hmarks
          refine List.filter_eq_nil_iff.mpr fun b hb => ?_
          obtain ⟨c, hc, rfl⟩ := List.mem_map.mp hb
          simp [hall c hc]
        rw [hnone]
        simp only [systemMessages, hmarks, Bool.false_eq_true, if_false]
        exact hplain _

def translatedTool (t : Tool J) : Option (Tool J) :=
  toolToAnthropic json ⟨t.name, t.inputSchema, t.description.filter (· ≠ "")⟩

theorem translatedTool_eq_iff (t : Tool J) : translatedTool json t = some t ↔ t.Survives json := by
  have hfilter : ∀ d : Option String, (d.filter (· ≠ "")).filter (· ≠ "") = d ↔ d ≠ some "" := by
    intro d
    cases d with
    | none => simp
    | some d => by_cases hd : d = "" <;> simp [Option.filter_some, hd]
  obtain ⟨name, description, schema, cacheControl⟩ := t
  unfold translatedTool toolToAnthropic Tool.Survives
  by_cases hname : name = ""
  · simp [hname]
  · simp only [hname, if_false, Option.some.injEq, Tool.mk.injEq, hfilter, ne_eq, not_false_eq_true, true_and]
    refine and_congr_right fun _ => and_congr ?_ eq_comm
    by_cases hschema : json.truthy schema = true
    · simp [hschema]
    · simp only [hschema, Bool.false_eq_true, if_false, iff_false]
      rintro rfl
      exact hschema json.truthy_objectSchema

theorem tools_eq (tools : Option (List (Tool J))) :
    (openaiToolsToAnthropic json (transformTools tools)).getD [] = (tools.getD []).filterMap (translatedTool json) := by
  unfold openaiToolsToAnthropic
  simp only [getD_noneIfEmpty]
  cases tools with
  | none => rfl
  | some ts =>
    cases ts with
    | nil => rfl
    | cons t ts =>
      rw [transformTools, if_neg (by simp), Option.getD_some, List.filterMap_map]
      rfl

theorem toolChoice_eq_iff (c : ToolChoice) : openaiToolChoiceToAnthropic (transformToolChoice c) = some c ↔ c.Survives := by
  cases c with
  | auto d => simp [transformToolChoice, openaiToolChoiceToAnthropic, ToolChoice.Survives, eq_comm]
  | any d => simp [transformToolChoice, openaiToolChoiceToAnthropic, ToolChoice.Survives, eq_comm]
  | none => simp [transformToolChoice, openaiToolChoiceToAnthropic, ToolChoice.Survives]
  | tool name d =>
    by_cases hname : name = "" <;>
      simp [transformToolChoice, openaiToolChoiceToAnthropic, ToolChoice.Survives, hname, eq_comm]

end Rest

/-! ## The law -/

section Law

variable {J : Type} (json : JsonText J)

def translatedTwice (req : MessagesRequest J) : Payload J :=
  buildAnthropicPayload json (transformAnthropicToOpenai json req).1 req.model (transformAnthropicToOpenai json req).2

theorem parts_eq (req : MessagesRequest J) :
    (translatedTwice json req).system = (systemMessages req.system).flatMap (fun m => contentToAnthropicBlocks m.content) ∧
      (conversation (translatedTwice json req).messages = conversation (req.messages.map fun t => (t.role, t.inputBlocks)) ↔
        ∀ t ∈ req.messages, t.Survives) := by
  have hparts : (transformAnthropicToOpenai json req).1.foldl (addMessage json) {} =
      (req.messages.map (transformTurn json)).foldl (addMessage json)
        { system := (systemMessages req.system).flatMap fun m => contentToAnthropicBlocks m.content } := by
    rw [transformAnthropicToOpenai, List.foldl_append, addMessages_system]
  have hsystem : (translatedTwice json req).system =
      ((transformAnthropicToOpenai json req).1.foldl (addMessage json) {}).system := rfl
  have hmessages : (translatedTwice json req).messages =
      ((transformAnthropicToOpenai json req).1.foldl (addMessage json) {}).turns := rfl
  rw [hsystem, hmessages, hparts]
  exact ⟨(addMessages_turns json req.messages _).2, conversation_eq_iff json req _ rfl⟩

theorem tools_eq_iff (req : MessagesRequest J) :
    (translatedTwice json req).tools.getD [] = req.tools.getD [] ↔ ∀ t ∈ req.tools.getD [], t.Survives json := by
  have htools : (translatedTwice json req).tools = openaiToolsToAnthropic json (transformTools req.tools) := rfl
  rw [htools, tools_eq, filterMap_eq_self_iff]
  exact forall_congr' fun t => forall_congr' fun _ => translatedTool_eq_iff json t

theorem toolChoice_eq (req : MessagesRequest J) (htools : (translatedTwice json req).tools.getD [] = req.tools.getD []) :
    (translatedTwice json req).toolChoice = req.toolChoice ↔
      ∀ c, req.toolChoice = some c → req.tools.getD [] ≠ [] ∧ c.Survives := by
  have hchoice : (translatedTwice json req).toolChoice =
      if (translatedTwice json req).tools.isSome then
        (req.toolChoice.map transformToolChoice).bind openaiToolChoiceToAnthropic else none := rfl
  have hsome : (translatedTwice json req).tools.isSome ↔ req.tools.getD [] ≠ [] := by
    have hdef : (translatedTwice json req).tools = openaiToolsToAnthropic json (transformTools req.tools) := rfl
    rw [← htools, hdef]
    unfold openaiToolsToAnthropic
    simp only [getD_noneIfEmpty]
    exact isSome_noneIfEmpty _
  rw [hchoice]
  cases hc : req.toolChoice with
  | none => simp
  | some c =>
    simp only [Option.map_some, Option.bind_some, Option.some.injEq, forall_eq', ← hsome, ← toolChoice_eq_iff]
    split
    next h => simp [h]
    next h => simp [h]

/-- A request survives being translated twice exactly if its turns, tools and tool choice do, and it has no `top_k`. -/
theorem double_translation_iff (req : MessagesRequest J) : SamePayload req (translatedTwice json req) ↔ req.Survives json := by
  obtain ⟨hsystem, hconversation⟩ := parts_eq json req
  have hkept := system_kept (J := J) req.system
  constructor
  · intro h
    exact
      { turns := hconversation.mp h.conversation
        tools := (tools_eq_iff json req).mp h.tools
        toolChoice := (toolChoice_eq json req h.tools).mp h.toolChoice
        topK := h.topK.symm }
  · intro h
    have htools := (tools_eq_iff json req).mpr h.tools
    have hmax : (translatedTwice json req).maxTokens = req.maxTokens := if_neg (Nat.ne_of_gt req.maxTokens_pos)
    have hstop : (translatedTwice json req).stopSequences.getD [] = req.stopSequences.getD [] := by
      have hdef : (translatedTwice json req).stopSequences =
          if ((if (req.stopSequences.getD []).isEmpty then none else req.stopSequences).getD []).isEmpty then none
          else if (req.stopSequences.getD []).isEmpty then none else req.stopSequences := rfl
      rw [hdef]
      cases hs : req.stopSequences with
      | none => rfl
      | some stops => cases stops <;> rfl
    exact
      { model := rfl
        systemText := by rw [hsystem]; exact hkept.1
        systemMarks := by rw [hsystem]; exact hkept.2
        conversation := hconversation.mpr h.turns
        tools := htools
        toolChoice := (toolChoice_eq json req htools).mpr h.toolChoice
        maxTokens := hmax
        temperature := rfl
        topP := rfl
        topK := h.topK.symm
        stopSequences := hstop }

/-! ## Tool results in words -/

/-- A block in words: what was called, and what came of it. -/
def InputBlock.inWords (b : InputBlock J) : InputBlock J :=
  match b.kind with
  | .toolUse id name input =>
    ⟨.text ("[Tool Call: " ++ name ++ "] (id: " ++ id ++ ") Input: " ++ json.dumps input), b.cacheControl⟩
  | .toolResult toolUseId content isError =>
    ⟨.text ((if isError then "[Tool Error]" else "[Tool Result]") ++ " (" ++ toolUseId ++ "): " ++ resultText content),
      b.cacheControl⟩
  | _ => b

def InputBlock.isUseOf (role : Role) (b : InputBlock J) : Bool :=
  match b.kind with
  | .toolUse _ _ _ => decide (role = .assistant)
  | _ => false

def Turn.inWords (t : Turn J) : Turn J :=
  match t.content with
  | .text _ => t
  | .blocks bs =>
    { t with content := .blocks ((bs.filter fun b => !(b.isUseOf t.role)).map (InputBlock.inWords json) ++
        bs.filter fun b => b.isUseOf t.role) }

/-- The request as the gateway means to pass it on. -/
def MessagesRequest.inWords (req : MessagesRequest J) : MessagesRequest J :=
  { req with messages := req.messages.map (Turn.inWords json), topK := none }

def InputBlock.Kept (b : InputBlock J) : Prop :=
  match b.kind with
  | .text _ => True
  | .image source => b.cacheControl = none ∧ source.Survives
  | _ => b.cacheControl = none

def Turn.Kept (t : Turn J) : Prop :=
  match t.content with
  | .text _ => True
  | .blocks bs => (∀ b ∈ bs, b.Kept) ∧ AloneOk (bs.filter fun b => !(b.isUseOf t.role))

/-- Requests of which nothing is dropped. -/
structure MessagesRequest.Kept (req : MessagesRequest J) : Prop where
  turns : ∀ t ∈ req.messages, t.Kept
  tools : ∀ t ∈ req.tools.getD [], t.Survives json
  toolChoice : ∀ c, req.toolChoice = some c → req.tools.getD [] ≠ [] ∧ c.Survives

theorem isUseOf_eq (role : Role) (b : InputBlock J) : b.isUseOf role = (toolCallOf json role b).isSome := by
  obtain ⟨kind, cacheControl⟩ := b
  cases kind with
  | toolUse id name input => cases role <;> rfl
  | text s => rfl
  | image source => rfl
  | toolResult id content isError => rfl

theorem toolCallOf_inWords (role : Role) (b : InputBlock J) : toolCallOf json role (b.inWords json) = none := by
  obtain ⟨kind, cacheControl⟩ := b
  cases kind <;> rfl

theorem transformContentBlock_inWords {b : InputBlock J} (h : b.Kept) :
    transformContentBlock json (b.inWords json) = transformContentBlock json b := by
  obtain ⟨kind, cacheControl⟩ := b
  cases kind with
  | text s => rfl
  | image source => rfl
  | toolUse id name input =>
    have hcache : cacheControl = none := h
    subst hcache
    rfl
  | toolResult id content isError =>
    have hcache : cacheControl = none := h
    subst hcache
    rfl

theorem transformTurn_inWords {t : Turn J} (h : t.Kept) : transformTurn json (t.inWords json) = transformTurn json t := by
  obtain ⟨role, content⟩ := t
  cases content with
  | text s => rfl
  | blocks bs =>
    obtain ⟨hblocks, -⟩ := h
    have hother : ∀ b : InputBlock J, (!(b.isUseOf role)) = (toolCallOf json role b).isNone := by
      intro b
      rw [isUseOf_eq json role b]
      cases toolCallOf json role b <;> rfl
    have hcontents : (((bs.filter fun b => !(b.isUseOf role)).map (InputBlock.inWords json) ++
          bs.filter fun b => b.isUseOf role).filter fun b => (toolCallOf json role b).isNone) =
        (bs.filter fun b => (toolCallOf json role b).isNone).map (InputBlock.inWords json) := by
      rw [List.filter_append]
      have hwords : ((bs.filter fun b => !(b.isUseOf role)).map (InputBlock.inWords json)).filter
          (fun b => (toolCallOf json role b).isNone) = (bs.filter fun b => !(b.isUseOf role)).map (InputBlock.inWords json) := by
        refine List.filter_eq_self.mpr fun b hb => ?_
        obtain ⟨c, -, rfl⟩ := List.mem_map.mp hb
        rw [toolCallOf_inWords]
        rfl
      have huses : (bs.filter fun b => b.isUseOf role).filter (fun b => (toolCallOf json role b).isNone) = [] := by
        refine List.filter_eq_nil_iff.mpr fun b hb => ?_
        have huse := (List.mem_filter.mp hb).2
        rw [← hother b, huse]
        decide
      rw [hwords, huses, List.append_nil]
      exact congrArg _ (List.filter_congr fun b _ => hother b)
    have hcalls : ((bs.filter fun b => !(b.isUseOf role)).map (InputBlock.inWords json) ++
          bs.filter fun b => b.isUseOf role).filterMap (toolCallOf json role) = bs.filterMap (toolCallOf json role) := by
      rw [List.filterMap_append]
      have hwords : ((bs.filter fun b => !(b.isUseOf role)).map (InputBlock.inWords json)).filterMap (toolCallOf json role) =
          [] := by
        refine List.filterMap_eq_nil_iff.mpr fun b hb => ?_
        obtain ⟨c, -, rfl⟩ := List.mem_map.mp hb
        exact toolCallOf_inWords json role c
      rw [hwords, List.nil_append, List.filterMap_filter]
      refine List.filterMap_congr fun b _ => ?_
      rw [isUseOf_eq json role b]
      cases toolCallOf json role b <;> rfl
    have hparts : ((bs.filter fun b => (toolCallOf json role b).isNone).map (InputBlock.inWords json)).map
          (transformContentBlock json) =
        (bs.filter fun b => (toolCallOf json role b).isNone).map (transformContentBlock json) := by
      rw [List.map_map]
      refine List.map_congr_left fun b hb => ?_
      exact transformContentBlock_inWords json (hblocks b (List.mem_filter.mp hb).1)
    have hturn : ∀ cs : List (InputBlock J), transformTurn json ⟨role, .blocks cs⟩ =
        ⟨role.toChat, collapse ((cs.filter fun b => (toolCallOf json role b).isNone).map (transformContentBlock json))
          (cs.filterMap (toolCallOf json role)), cs.filterMap (toolCallOf json role)⟩ := fun cs => rfl
    have hwords : Turn.inWords json ⟨role, .blocks bs⟩ = ⟨role, .blocks ((bs.filter fun b => !(b.isUseOf role)).map
        (InputBlock.inWords json) ++ bs.filter fun b => b.isUseOf role)⟩ := rfl
    rw [hwords, hturn, hturn, hcontents, hcalls, hparts]

theorem survives_inWords {role : Role} {b : InputBlock J} (h : b.Kept) (hother : b.isUseOf role = false) :
    (b.inWords json).Survives := by
  obtain ⟨kind, cacheControl⟩ := b
  cases kind with
  | text s => exact trivial
  | image source => exact h
  | toolUse id name input => exact trivial
  | toolResult id content isError => exact trivial

theorem turn_survives_inWords {t : Turn J} (h : t.Kept) : (t.inWords json).Survives := by
  obtain ⟨role, content⟩ := t
  cases content with
  | text s => exact trivial
  | blocks bs =>
    obtain ⟨hblocks, halone⟩ := h
    refine ⟨_, _, rfl, ?_, ?_, ?_⟩
    · intro b hb
      obtain ⟨c, hc, rfl⟩ := List.mem_map.mp hb
      obtain ⟨hmem, hother⟩ := List.mem_filter.mp hc
      exact survives_inWords json (hblocks c hmem) (by simpa using hother)
    · intro b s hb hs
      obtain ⟨c, hc, rfl⟩ := List.map_eq_singleton_iff.mp hb
      have hmem : c ∈ bs := (List.mem_filter.mp (hc ▸ List.mem_singleton_self c)).1
      have hkept := hblocks c hmem
      obtain ⟨kind, cacheControl⟩ := c
      cases kind with
      | text s' => exact halone _ s hc hs
      | image source => cases hs
      | toolUse id name input =>
        injection hs with hs
        refine ⟨?_, hkept⟩
        rintro rfl
        simp at hs
      | toolResult id content isError =>
        injection hs with hs
        refine ⟨?_, hkept⟩
        rintro rfl
        cases isError <;> simp at hs
    · intro b hb
      obtain ⟨hmem, huse⟩ := List.mem_filter.mp hb
      have hkept := hblocks b hmem
      obtain ⟨kind, cacheControl⟩ := b
      cases kind with
      | toolUse id name input => exact ⟨of_decide_eq_true huse, hkept, id, name, input, rfl⟩
      | text s => cases huse
      | image source => cases huse
      | toolResult id content isError => cases huse

/-- **The payload is the request in words**, wherever nothing of the request is dropped. -/
theorem payload_inWords (req : MessagesRequest J) (h : req.Kept json) :
    SamePayload (req.inWords json) (translatedTwice json req) := by
  have hturns : (req.inWords json).messages.map (transformTurn json) = req.messages.map (transformTurn json) := by
    show (req.messages.map (Turn.inWords json)).map (transformTurn json) = _
    rw [List.map_map]
    exact List.map_congr_left fun t ht => transformTurn_inWords json (h.turns t ht)
  have htwice : translatedTwice json (req.inWords json) = translatedTwice json req := by
    have hopenai : transformAnthropicToOpenai json (req.inWords json) = transformAnthropicToOpenai json req := by
      unfold transformAnthropicToOpenai
      rw [hturns]
      rfl
    unfold translatedTwice
    rw [hopenai]
    rfl
  rw [← htwice]
  refine (double_translation_iff json (req.inWords json)).mpr ?_
  refine { turns := ?_, tools := h.tools, toolChoice := h.toolChoice, topK := rfl }
  intro t ht
  obtain ⟨u, hu, rfl⟩ := List.mem_map.mp ht
  exact turn_survives_inWords json (h.turns u hu)

end Law

/-! ## A tool result -/

/-- Two JSON values: the empty object, and the schema of any object. -/
inductive ObjectJson where
  | empty
  | anyObject
  deriving DecidableEq

def ObjectJson.dumps : ObjectJson → String
  | .empty => "\x7b\x7d"
  | .anyObject => "\x7b\"type\": \"object\"\x7d"

def ObjectJson.loads (s : String) : Option ObjectJson :=
  if s = ObjectJson.dumps .empty then some .empty else if s = ObjectJson.dumps .anyObject then some .anyObject else none

theorem ObjectJson.loads_dumps (j : ObjectJson) : ObjectJson.loads j.dumps = some j := by
  cases j <;> decide

theorem ObjectJson.dumps_ne_empty (j : ObjectJson) : j.dumps ≠ "" := by
  cases j <;> decide

def objectJson : JsonText ObjectJson where
  dumps := ObjectJson.dumps
  loads := ObjectJson.loads
  emptyObject := .empty
  objectSchema := .anyObject
  truthy j := j = .anyObject
  loads_dumps := ObjectJson.loads_dumps
  dumps_ne_empty := ObjectJson.dumps_ne_empty
  truthy_objectSchema := rfl

theorem hundred_pos : 0 < 100 := Nat.succ_pos 99

/-- The second round of a conversation with a tool. -/
def afterToolUse : MessagesRequest ObjectJson where
  model := "claude"
  messages :=
    [⟨.user, .text "What time is it?"⟩,
      ⟨.assistant, .blocks [⟨.toolUse "toolu_1" "clock" .empty, none⟩]⟩,
      ⟨.user, .blocks [⟨.toolResult "toolu_1" (.text "noon") false, none⟩]⟩]
  maxTokens := 100
  maxTokens_pos := hundred_pos
  tools := some [{ name := "clock", inputSchema := .anyObject }]

/-- Its tool result becomes the text `[Tool Result] (toolu_1): noon`. -/
theorem tool_result_lost : ¬ SamePayload afterToolUse (translatedTwice objectJson afterToolUse) := by
  intro h
  exact absurd h.conversation (by decide)

/-- It is what is meant. -/
theorem payload_inWords_afterToolUse :
    afterToolUse.Kept objectJson ∧ SamePayload (afterToolUse.inWords objectJson) (translatedTwice objectJson afterToolUse) := by
  have hkept : afterToolUse.Kept objectJson :=
    { turns := by
        intro t ht
        simp only [afterToolUse, List.mem_cons, List.not_mem_nil, or_false] at ht
        rcases ht with rfl | rfl | rfl
        · trivial
        · exact ⟨by simp [InputBlock.Kept], by simp [AloneOk, InputBlock.isUseOf]⟩
        · refine ⟨by simp [InputBlock.Kept], fun b s hb hs => ?_⟩
          injection hb with hb
          subst hb
          cases hs
      tools := by
        intro t ht
        simp only [afterToolUse, Option.getD_some, List.mem_singleton] at ht
        subst ht
        exact ⟨by decide, by decide, rfl, rfl⟩
      toolChoice := fun c hc => by cases hc }
  exact ⟨hkept, payload_inWords objectJson afterToolUse hkept⟩

end Gatewayz
