import Gatewayz.Chat.AutoRouting
import Gatewayz.Correctness.StickySelection

/-!
# `Correctness.AutoRoutingSafe` — auto-routing picks a fitting candidate, or refuses

Every lookup falls back, whatever it raises, and so does the call of the classifier. Its reply is read outside of that handler, which is
where something can still be raised: by a reply nested too deeply, a task type that cannot be hashed, or a confidence too large for a
`float` (`Readable`).
-/

namespace Gatewayz.AutoRouting

open AgentLoop (Exn typeError)
open ModelSelector (Candidate displayModelId)
open StoredPrices (Json)

/-! ## The claim -/

def Resolved (l : Lookups) (req req' : AutoRequest) : Prop :=
  ∃ names candidates model modelId, l.fetch names = .ok candidates ∧ model ∈ candidates ∧
    displayModelId model = some modelId ∧ req' = { req with model := modelId } ∧
    (req.tools ≠ [] → "tools" ∈ names) ∧ ((∃ m ∈ req.messages, m.hasImage = true) → "vision" ∈ names)

def FailsSafe (l : Lookups) (caller : Caller) (req : AutoRequest) : Prop :=
  match resolveAutoRoutedModel l caller req with
  | .ok req' => narrowed l caller req = true ∧ req' = req ∨ Resolved l req req'
  | .error failure => ∃ detail, failure = .http 400 detail

def Classifies (l : Lookups) (req : AutoRequest) : Prop :=
  ∃ c, classifyTask l req.messages req.tools = .ok c ∧ c.taskType ∈ taskTypes ∧ 0 ≤ c.confidence ∧ c.confidence ≤ 1

def TooLarge (v : Json) : Prop := ∃ n : Int, v = .scalar (.int n) ∧ floatLimit ≤ |(n : ℚ)|

/-- A reply that is not nested too deeply; and if it is a dictionary, its task type is neither a list nor a dictionary, and its
confidence no integer too large for a `float`. -/
def Readable : Loaded → Prop
  | .tooDeep => False
  | .dict fields =>
    (∀ v, fields.lookup "task_type" = some (.json v) → ∃ x, v = .scalar x) ∧
      ∀ v, fields.lookup "confidence" = some (.json v) → ¬ TooLarge v
  | _ => True

/-! ## Reading a reply -/

section Reading

variable {fields : List (String × Value)}

theorem memberOr_isOk_iff (known : List String) (default : String) (v : Json) :
    (∃ s, memberOr known default v = .ok s) ↔ ∃ x, v = .scalar x := by
  cases v with
  | scalar x => cases x <;> exact ⟨fun _ => ⟨_, rfl⟩, fun _ => ⟨_, rfl⟩⟩
  | list items => exact ⟨nofun, nofun⟩
  | dict fields => exact ⟨nofun, nofun⟩

theorem mem_of_memberOr {known : List String} {default s : String} {v : Json} (hdefault : default ∈ known)
    (h : memberOr known default v = .ok s) : s ∈ known := by
  unfold memberOr at h
  split at h
  · cases h
    split
    · next hmem => exact hmem
    · exact hdefault
  · cases h
    exact hdefault
  · cases h

/-- `float` raises nothing but what is caught, unless the value is too large. -/
theorem toFloat_error_iff (v : Json) :
    (∃ e, AgentLoop.toFloat v = .error e ∧ e.family ≠ .typeOrValueError) ↔ TooLarge v := by
  cases v with
  | list items => exact ⟨fun ⟨_, h, hfamily⟩ => by cases h; exact absurd rfl hfamily, nofun⟩
  | dict fields => exact ⟨fun ⟨_, h, hfamily⟩ => by cases h; exact absurd rfl hfamily, nofun⟩
  | scalar x =>
    cases x with
    | none => exact ⟨fun ⟨_, h, hfamily⟩ => by cases h; exact absurd rfl hfamily, nofun⟩
    | bool b => exact ⟨nofun, nofun⟩
    | float q => exact ⟨nofun, nofun⟩
    | int n =>
      simp only [AgentLoop.toFloat, StoredPrices.toFloat]
      split
      · next hlarge => exact iff_of_true ⟨_, rfl, nofun⟩ ⟨n, rfl, hlarge⟩
      · next hsmall => exact iff_of_false nofun fun ⟨m, heq, hlarge⟩ => by cases heq; exact hsmall hlarge
    | str s =>
      simp only [AgentLoop.toFloat, StoredPrices.toFloat]
      split
      · exact ⟨nofun, nofun⟩
      · exact ⟨fun ⟨_, h, hfamily⟩ => by cases h; exact absurd rfl hfamily, nofun⟩

theorem clamp_mem (x : PyFloat) : 0 ≤ clamp x ∧ clamp x ≤ 1 := by
  cases x with
  | finite q =>
    simp only [clamp]
    split_ifs with hone hzero
    · exact ⟨hzero.le, hone.le⟩
    · exact ⟨le_rfl, zero_le_one⟩
    · exact ⟨zero_le_one, le_rfl⟩
  | infinite negative => cases negative <;> exact ⟨by decide, by decide⟩
  | nan => exact ⟨zero_le_one, le_rfl⟩

theorem taskTypeOf_isOk_iff :
    (∃ s, taskTypeOf fields = .ok s) ↔ ∀ v, fields.lookup "task_type" = some (.json v) → ∃ x, v = .scalar x := by
  unfold taskTypeOf
  cases hfield : fields.lookup "task_type" with
  | none => exact iff_of_true ⟨_, rfl⟩ nofun
  | some value =>
    cases value with
    | json v =>
      refine (memberOr_isOk_iff taskTypes "unknown" v).trans ⟨fun h w hw => ?_, fun h => h v rfl⟩
      cases hw
      exact h
    | float x => exact iff_of_true ⟨_, rfl⟩ nofun

theorem confidenceOf_isOk_iff :
    (∃ q, confidenceOf fields = .ok q) ↔ ∀ v, fields.lookup "confidence" = some (.json v) → ¬ TooLarge v := by
  unfold confidenceOf
  cases hfield : fields.lookup "confidence" with
  | none => exact iff_of_true ⟨_, rfl⟩ nofun
  | some value =>
    cases value with
    | float x => exact iff_of_true ⟨_, rfl⟩ nofun
    | json v =>
      have hlarge := toFloat_error_iff v
      dsimp only [Option.getD_some]
      cases hfloat : AgentLoop.toFloat v with
      | ok x =>
        refine iff_of_true ⟨_, rfl⟩ fun w hw htoo => ?_
        cases hw
        obtain ⟨e, he, -⟩ := hlarge.mpr htoo
        rw [hfloat] at he
        cases he
      | error e =>
        by_cases hfamily : e.family = .typeOrValueError
        · refine iff_of_true ⟨0, if_pos hfamily⟩ fun w hw htoo => ?_
          cases hw
          obtain ⟨e', he', hnot⟩ := hlarge.mpr htoo
          rw [hfloat] at he'
          cases he'
          exact hnot hfamily
        · refine iff_of_false ?_ fun h => h v rfl (hlarge.mp ⟨e, hfloat, hfamily⟩)
          rintro ⟨q, hq⟩
          dsimp only at hq
          rw [if_neg hfamily] at hq
          cases hq

theorem taskTypeOf_mem {s : String} (h : taskTypeOf fields = .ok s) : s ∈ taskTypes := by
  unfold taskTypeOf at h
  split at h
  · exact mem_of_memberOr (by decide) h
  · cases h
    decide

theorem confidenceOf_mem {q : ℚ} (h : confidenceOf fields = .ok q) : 0 ≤ q ∧ q ≤ 1 := by
  unfold confidenceOf at h
  split at h
  · cases h
    exact clamp_mem _
  · split at h
    · cases h
      exact clamp_mem _
    · split at h
      · cases h
        exact ⟨le_rfl, zero_le_one⟩
      · cases h

theorem parseClassification_isOk_iff (loaded : Loaded) : (∃ r, parseClassification loaded = .ok r) ↔ Readable loaded := by
  cases loaded with
  | tooDeep => exact iff_of_false nofun id
  | notDict => exact iff_of_true ⟨_, rfl⟩ trivial
  | invalid => exact iff_of_true ⟨_, rfl⟩ trivial
  | dict fields =>
    refine Iff.trans ?_ (and_congr taskTypeOf_isOk_iff confidenceOf_isOk_iff)
    constructor
    · rintro ⟨r, hr⟩
      obtain ⟨taskType, htask, hrest⟩ := bind_eq_ok.mp hr
      obtain ⟨confidence, hconfidence, -⟩ := bind_eq_ok.mp hrest
      exact ⟨⟨taskType, htask⟩, confidence, hconfidence⟩
    · rintro ⟨⟨taskType, htask⟩, confidence, hconfidence⟩
      exact ⟨_, bind_eq_ok.mpr ⟨taskType, htask, bind_eq_ok.mpr ⟨confidence, hconfidence, rfl⟩⟩⟩

theorem parseClassification_mem {loaded : Loaded} {r : String × Bool × ℚ} (h : parseClassification loaded = .ok r) :
    r.1 ∈ taskTypes ∧ 0 ≤ r.2.2 ∧ r.2.2 ≤ 1 := by
  cases loaded with
  | tooDeep => cases h
  | dict fields =>
    obtain ⟨taskType, htask, hrest⟩ := bind_eq_ok.mp h
    obtain ⟨confidence, hconfidence, hr⟩ := bind_eq_ok.mp hrest
    cases hr
    exact ⟨taskTypeOf_mem htask, confidenceOf_mem hconfidence⟩
  | notDict =>
    cases h
    exact ⟨by decide, le_rfl, zero_le_one⟩
  | invalid =>
    cases h
    exact ⟨by decide, le_rfl, zero_le_one⟩

end Reading

/-! ## The classifier -/

section Classifying

variable {l : Lookups} {messages : List Message} {tools : List Json} {c : TaskClassification}

theorem classifyTask_isOk_iff : (∃ c, classifyTask l messages tools = .ok c) ↔
    (lastUserText messages = "" ∨ ∀ raw, l.reply = .content raw → Readable (l.loads (raw.getD ""))) := by
  unfold classifyTask
  by_cases htext : lastUserText messages = ""
  · exact iff_of_true ⟨_, if_pos htext⟩ (.inl htext)
  · rw [if_neg htext, or_iff_right htext]
    cases hreply : l.reply with
    | timeout => exact iff_of_true ⟨_, rfl⟩ nofun
    | failed text => exact iff_of_true ⟨_, rfl⟩ nofun
    | content raw =>
      have hparse := parseClassification_isOk_iff (l.loads (raw.getD ""))
      constructor
      · rintro ⟨c, hc⟩ raw' heq
        cases heq
        obtain ⟨r, hr, -⟩ := bind_eq_ok.mp hc
        exact hparse.mp ⟨r, hr⟩
      · intro h
        obtain ⟨r, hr⟩ := hparse.mpr (h raw rfl)
        exact ⟨_, bind_eq_ok.mpr ⟨r, hr, rfl⟩⟩

theorem classifyTask_ok (h : classifyTask l messages tools = .ok c) :
    (c.taskType ∈ taskTypes ∧ 0 ≤ c.confidence ∧ c.confidence ≤ 1) ∧ extractRequiredCapabilities messages tools ⊆ c.capabilityNames := by
  have hfallback : "unknown" ∈ taskTypes ∧ (0 : ℚ) ≤ 0 ∧ (0 : ℚ) ≤ 1 := ⟨by decide, le_rfl, zero_le_one⟩
  unfold classifyTask at h
  split at h
  · cases h
    exact ⟨hfallback, List.Subset.refl _⟩
  · split at h
    · cases h
      exact ⟨hfallback, List.Subset.refl _⟩
    · cases h
      exact ⟨hfallback, List.Subset.refl _⟩
    · obtain ⟨r, hr, hc⟩ := bind_eq_ok.mp h
      cases hc
      refine ⟨parseClassification_mem hr, ?_⟩
      dsimp only
      split
      · exact List.subset_append_left _ _
      · exact List.Subset.refl _

theorem tools_mem (h : tools ≠ []) : "tools" ∈ extractRequiredCapabilities messages tools := by
  rw [extractRequiredCapabilities, if_neg (by rwa [List.isEmpty_iff])]
  exact List.mem_cons_self

theorem vision_mem (h : ∃ m ∈ messages, m.hasImage = true) : "vision" ∈ extractRequiredCapabilities messages tools := by
  rw [extractRequiredCapabilities, if_pos (List.any_eq_true.mpr h)]
  exact List.mem_append_right _ List.mem_cons_self

end Classifying

/-! ## The whole claim -/

theorem selectModel_mem {hash : String → String → Nat} {signals : ModelSelector.Signals} {request : ModelSelector.SelectionRequest}
    {candidates : List Candidate} {modelId : String}
    (h : (ModelSelector.selectModel hash signals request candidates).modelId = some modelId) :
    ∃ model ∈ candidates, displayModelId model = some modelId := by
  rcases ModelSelector.select_cases hash (List.Perm.refl (ModelSelector.SelectionCall.candidates ⟨signals, request, candidates⟩)) with
    ⟨-, hnone, -⟩ | ⟨model, hcontends, -, hid, -⟩
  · exact absurd (hnone.symm.trans h) nofun
  · exact ⟨model, List.mem_of_mem_filter hcontends.1, hid.symm.trans h⟩

theorem failsSafe_of_classified {l : Lookups} {caller : Caller} {req : AutoRequest} {c : TaskClassification}
    (h : classifyTask l req.messages req.tools = .ok c) : FailsSafe l caller req := by
  unfold FailsSafe resolveAutoRoutedModel
  by_cases hnarrowed : narrowed l caller req = true
  · rw [if_pos hnarrowed]
    exact .inl ⟨hnarrowed, rfl⟩
  · rw [if_neg hnarrowed, h]
    dsimp only
    by_cases herror : c.error.isSome = true
    · rw [if_pos herror]
      exact ⟨_, rfl⟩
    · rw [if_neg herror]
      split
      · next req' heq =>
        split at heq
        · cases heq
        · next modelId hid =>
          cases heq
          obtain ⟨model, hmem, hdisplay⟩ := selectModel_mem (Option.filter_eq_some_iff.mp hid).1
          have hnames := (classifyTask_ok h).2
          unfold getCandidateModels at hmem
          split at hmem
          · next candidates hfetch =>
            exact .inr ⟨_, candidates, model, modelId, hfetch, hmem, hdisplay, rfl, fun htools => hnames (tools_mem htools),
              fun himage => hnames (vision_mem himage)⟩
          · exact absurd hmem List.not_mem_nil
      · next failure heq =>
        split at heq
        · cases heq
          exact ⟨_, rfl⟩
        · cases heq

/-- **Auto-routing fails safe**, and the classifier never raises, if the classifier's reply can be read or is not come by; and only then. -/
theorem fails_safe_iff (l : Lookups) (caller : Caller) (req : AutoRequest) :
    FailsSafe l caller req ∧ Classifies l req ↔
      lastUserText req.messages = "" ∨ ∀ raw, l.reply = .content raw → Readable (l.loads (raw.getD "")) := by
  rw [← @classifyTask_isOk_iff l req.messages req.tools]
  constructor
  · rintro ⟨-, c, hc, -⟩
    exact ⟨c, hc⟩
  · rintro ⟨c, hc⟩
    exact ⟨failsSafe_of_classified hc, c, hc, (classifyTask_ok hc).1⟩

/-! ## One request -/

/-- A classifier whose task type is a list. -/
def listedType : Lookups where
  autoRoutingEnabled := true
  policy := .ok none
  settings := .ok none
  reply := .content (some "\x7b\"task_type\": [\"simple_qa\"]\x7d")
  loads := fun _ => .dict [("task_type", .json (.list [.text "simple_qa"]))]
  fetch := fun _ => .ok []
  signals := {}
  hash := fun _ _ => 0

theorem listed_type_raised :
    ¬ ∀ l caller req, caller.isAnonymous = false → isRouterModel req.model = true → FailsSafe l caller req ∧ Classifies l req := by
  intro h
  have hsafe := (h listedType {} ⟨"router", [⟨"user", .text "Hi"⟩], [], none⟩ rfl (by decide)).1
  exact absurd hsafe (by rintro ⟨detail, hdetail⟩; cases hdetail)

end Gatewayz.AutoRouting
