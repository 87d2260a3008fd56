/-
The hook as it is applied and the hook as it is written. Hooks that are
applied one after the other leave the last policy that one of them had, and
touch nothing else; a hook that could not be made changes nothing. The
policy that a configuration's hook leaves is the one that both scripts set
in their hook and that the option bag tells, and it is read back from its
name in any letter case (`hooks_agree`).
-/
import DocPortal.Json.Reader
import DocPortal.Proofs.Text.LetterCase
import DocPortal.Proofs.Viewer.Options
import DocPortal.Proofs.Viewer.ScriptField
import DocPortal.Proofs.Viewer.ScriptLiterals

namespace DocPortal.Viewer

open Log (Report)

/-! ## Where hooks come from -/

/-- A policy is read from its name in any letter case, with blanks around it or without. -/
theorem CredentialPolicy.parse_of_isPadded {policy : CredentialPolicy} {cased text : String}
    (hcased : cased.toLower = policy.wireName) (hpadded : Text.IsPadded cased text) :
    parse text = .ok policy := by
  have htrimmed : Text.IsTrimmed policy.wireName := by cases policy <;> decide
  rw [parse_eq_ok_iff, ← Text.writesWord_iff]
  exact ⟨htrimmed, cased, Text.isLowered_iff.2 hcased, hpadded⟩

/-- What a hook is made from: a policy's text, or a configuration that is built. -/
inductive HookOrigin where
  | policy (text : String)
  | config (built : Report ConfigError Config)

namespace HookOrigin

/-- The hook, or why there is none. -/
def hook : HookOrigin → Except ConfigError FetchHook
  | policy text => (CredentialPolicy.parse text).map FetchHook.mk
  | config built => built.result.map Config.fetchHook

/-- What a hook is made from names a policy. -/
inductive Names : HookOrigin → CredentialPolicy → Prop
  /-- A text is the policy's name in some letter case, with blanks around it or without. -/
  | policy {cased text : String} {policy : CredentialPolicy} :
    cased.toLower = policy.wireName → Text.IsPadded cased text → Names (.policy text) policy
  /-- A configuration comes about, and has the policy. -/
  | config {built : Report ConfigError Config} {made : Config} {policy : CredentialPolicy} :
    built.result = .ok made → made.credentials = policy → Names (.config built) policy

/-- A hook comes about exactly from what names its policy. -/
theorem hook_eq_ok_iff {origin : HookOrigin} {policy : CredentialPolicy} :
    origin.hook = .ok ⟨policy⟩ ↔ origin.Names policy := by
  cases origin with
  | policy text =>
    rw [hook, Log.map_ok_iff]
    constructor
    · rintro ⟨parsed, hparsed, ⟨⟩⟩
      exact .policy (CredentialPolicy.parse_eq_ok_iff.1 hparsed) (Text.isPadded_trim text)
    · intro h
      cases h with
      | policy hcased hpadded =>
        exact ⟨policy, CredentialPolicy.parse_of_isPadded hcased hpadded, rfl⟩
  | config built =>
    rw [hook, Log.map_ok_iff]
    constructor
    · rintro ⟨made, hmade, hpolicy⟩
      exact .config hmade (FetchHook.mk.inj hpolicy)
    · intro h
      cases h with
      | config hmade hpolicy => exact ⟨_, hmade, congrArg FetchHook.mk hpolicy⟩

/-- Nothing comes of what names no policy. -/
def IsRefused (origin : HookOrigin) : Prop :=
  ∀ policy, ¬ origin.Names policy

theorem isRefused_iff {origin : HookOrigin} :
    origin.IsRefused ↔ ∃ cause, origin.hook = .error cause := by
  constructor
  · intro h
    cases hhook : origin.hook with
    | error cause => exact ⟨cause, rfl⟩
    | ok made => exact absurd (hook_eq_ok_iff.1 hhook) (h made.policy)
  · rintro ⟨cause, hcause⟩ policy hnames
    rw [hook_eq_ok_iff.2 hnames] at hcause
    cases hcause

end HookOrigin

/-! ## Hooks in turn -/

namespace FetchHook

variable {ε : Type}

theorem interceptAll_append (request : FetchRequest) (before after : List (Except ε FetchHook)) :
    interceptAll request (before ++ after) = interceptAll (interceptAll request before) after :=
  List.foldl_append

/-- Hooks that could not be made change nothing. -/
theorem interceptAll_of_error {hooks : List (Except ε FetchHook)}
    (h : ∀ hook ∈ hooks, ∃ cause, hook = .error cause) (request : FetchRequest) :
    interceptAll request hooks = request := by
  induction hooks with
  | nil => rfl
  | cons hook hooks ih =>
    obtain ⟨⟨cause, rfl⟩, hrest⟩ := List.forall_mem_cons.1 h
    exact ih hrest

/-- Hooks set credentials and nothing else. -/
theorem exists_interceptAll_eq (request : FetchRequest) (hooks : List (Except ε FetchHook)) :
    ∃ credentials, interceptAll request hooks = { request with credentials } := by
  induction hooks generalizing request with
  | nil => exact ⟨request.credentials, rfl⟩
  | cons hook hooks ih =>
    cases hook with
    | error cause => exact ih request
    | ok hook =>
      obtain ⟨credentials, hrest⟩ := ih (hook.intercept request)
      exact ⟨credentials, hrest⟩

/-- The last hook that could be made has the last word. -/
theorem interceptAll_eq_of_last {before after : List (Except ε FetchHook)} {hook : FetchHook}
    (hafter : ∀ other ∈ after, ∃ cause, other = .error cause) (request : FetchRequest) :
    interceptAll request (before ++ .ok hook :: after) =
      { request with credentials := some hook.policy } := by
  obtain ⟨credentials, hbefore⟩ := exists_interceptAll_eq request before
  have hlast : interceptAll request (before ++ .ok hook :: after) =
      interceptAll (hook.intercept (interceptAll request before)) after :=
    interceptAll_append request before (.ok hook :: after)
  rw [hlast, interceptAll_of_error hafter, hbefore]
  rfl

end FetchHook

namespace HookOrigin

/-- Hooks from several origins in turn. -/
def interceptAll (request : FetchRequest) (origins : List HookOrigin) : FetchRequest :=
  FetchHook.interceptAll request (origins.map hook)

theorem interceptAll_of_isRefused {origins : List HookOrigin}
    (h : ∀ origin ∈ origins, origin.IsRefused) (request : FetchRequest) :
    interceptAll request origins = request := by
  refine FetchHook.interceptAll_of_error (fun made hmade => ?_) request
  obtain ⟨origin, horigin, rfl⟩ := List.mem_map.1 hmade
  exact isRefused_iff.1 (h origin horigin)

theorem interceptAll_eq_of_last {before after : List HookOrigin} {origin : HookOrigin}
    {policy : CredentialPolicy} (horigin : origin.Names policy)
    (hafter : ∀ other ∈ after, other.IsRefused) (request : FetchRequest) :
    interceptAll request (before ++ origin :: after) =
      { request with credentials := some policy } := by
  have herrors : ∀ made ∈ after.map hook, ∃ cause, made = .error cause := by
    intro made hmade
    obtain ⟨other, hother, rfl⟩ := List.mem_map.1 hmade
    exact isRefused_iff.1 (hafter other hother)
  rw [interceptAll, List.map_append, List.map_cons, hook_eq_ok_iff.2 horigin,
    FetchHook.interceptAll_eq_of_last herrors]

theorem interceptAll_singleton {origin : HookOrigin} {policy : CredentialPolicy}
    (horigin : origin.Names policy) (request : FetchRequest) :
    interceptAll request [origin] = { request with credentials := some policy } := by
  rw [← List.nil_append [origin], interceptAll_eq_of_last horigin (List.forall_mem_nil _)]

end HookOrigin

/-! ## The hook in a script -/

namespace Script

open ScriptText

/-- How a script opens its hook, up to the value of the credentials. -/
def hookOpening (variant : ScriptVariant) : String :=
  indent ++ "requestInterceptor: " ++ variant.hookHead ++ " \x7b\n" ++
    itemIndent ++ "req.credentials = "

/-- How it closes it. -/
def hookClosing : String :=
  ";" ++ "\n" ++ itemIndent ++ "return req;\n" ++ indent ++ "\x7d,\n"

theorem isCode_hookOpening (variant : ScriptVariant) : isCode (hookOpening variant) = true := by
  cases variant <;> decide +kernel

theorem suffix_hookOpening (variant : ScriptVariant) :
    "req.credentials = ".toList <:+ (hookOpening variant).toList := by
  rw [hookOpening, String.toList_append]
  exact List.suffix_append _ _

theorem isCode_hookClosing : isCode hookClosing = true := by decide +kernel

/-- The hook with the code on both sides of the value in one segment each. -/
def openedHook (variant : ScriptVariant) (config : Config) : List Segment :=
  [.code (hookOpening variant) (isCode_hookOpening variant),
    .literal config.credentials.wireName, .code hookClosing isCode_hookClosing]

theorem written_openedHook (variant : ScriptVariant) (config : Config) :
    written (openedHook variant config) = written (hookSegments variant config) := by
  have hopening : (hookOpening variant).toList =
      indent.toList ++ ("requestInterceptor: ".toList ++ (variant.hookHead.toList ++
        (" \x7b\n".toList ++ (itemIndent.toList ++ "req.credentials = ".toList)))) := by
    unfold hookOpening
    simp only [String.toList_append]
    simp only [List.append_assoc]
  have hclosing : hookClosing.toList =
      ";".toList ++ ("\n".toList ++ (itemIndent.toList ++ ("return req;\n".toList ++
        (indent.toList ++ "\x7d,\n".toList)))) := by
    unfold hookClosing
    simp only [String.toList_append]
    simp only [List.append_assoc]
  simp only [openedHook, hookSegments, written_cons, written_nil, Segment.chars, hopening,
    hclosing, List.append_assoc]

section Opening

variable {label : List Char} {variant : ScriptVariant}
  (hfield : "req.credentials = ".toList <:+ label) (hlabel : label <:+ (hookOpening variant).toList)
include hfield hlabel

/-- A label of the hook's value is told apart from code that has no part in the opening. -/
theorem labels_other {front : String} {hfront : isCode front = true} {segments : List Segment}
    {found : List String} (text : String) (hother : ¬ "req.credentials = ".toList <:+ front.toList)
    (hpart : ¬ front.toList <:+ (hookOpening variant).toList) (h : Labels label segments found) :
    Labels label (.code front hfront :: .literal text :: segments) found :=
  .other text (fun hend => hother (hfield.trans hend)) (fun hend => hpart (hend.trans hlabel)) h

theorem labels_openedHook (config : Config) :
    Labels label (segmentsWith variant config (openedHook variant config))
      [config.credentials.wireName] := by
  have hmount : Labels label (mountPointSegments config) [] := by
    refine .code rfl (labels_other hfield hlabel _ (by decide) ?_ (.code rfl .nil))
    cases variant <;> decide
  have hsource (source : Source) : Labels label (sourceSegments variant source) [] := by
    cases variant with
    | initializer | config =>
      refine labels_other hfield hlabel _ (by decide) (by decide) ?_
      exact labels_other hfield hlabel _ (by decide) (by decide) (.code rfl .nil)
  have hhook : Labels label (openedHook variant config) [config.credentials.wireName] :=
    .labelled _ hlabel (.code rfl .nil)
  have hlayout : Labels label (layoutSegments config) [] := by
    refine .code rfl (labels_other hfield hlabel _ (by decide) ?_ (.code rfl .nil))
    cases variant <;> decide
  exact labels_segmentsWith hmount hsource hhook hlayout

end Opening

/-- In a script one literal is set as the credentials, and in the hook. -/
theorem literalsBehind_credentials {variant : ScriptVariant} {label : String}
    (hfield : "req.credentials = ".toList <:+ label.toList)
    (hlabel : label.toList <:+ (hookOpening variant).toList) (config : Config) :
    literalsBehind label (render variant config) = [literalBody config.credentials.wireName] := by
  have hwritten : (render variant config).toList =
      written (segmentsWith variant config (openedHook variant config)) := by
    rw [toList_render, segments_eq, segmentsWith, segmentsWith]
    simp only [written_cons, written_append, written_openedHook]
  have hfound := (labels_openedHook hfield hlabel config).behind_written []
  rw [modifyHead_nil_append] at hfound
  rw [literalsBehind, hwritten, hfound]
  rfl

/-- It is read back as the policy's name, whether one looks for the field or for the whole opening. -/
theorem mapM_readContents_credentials {variant : ScriptVariant} {label : String}
    (hlabel : label ∈ ["req.credentials = ", hookOpening variant]) (config : Config) :
    (literalsBehind label (render variant config)).mapM readContents =
      some [config.credentials.wireName] := by
  have hends : "req.credentials = ".toList <:+ label.toList ∧
      label.toList <:+ (hookOpening variant).toList := by
    rw [List.mem_pair] at hlabel
    rcases hlabel with rfl | rfl
    · exact ⟨List.suffix_refl _, suffix_hookOpening variant⟩
    · exact ⟨suffix_hookOpening variant, List.suffix_refl _⟩
  rw [literalsBehind_credentials hends.1 hends.2]
  exact mapM_readContents [config.credentials.wireName]

end Script

/-! ## One policy -/

/-- **All hooks set the same credentials and touch nothing else.** Of hooks applied in turn, after
any number of them, the request is the first one but for its credentials, which are the policy of the
last hook that came about, so that this one once more changes nothing. What a configuration's hook
leaves is set by both scripts, in their hook and nowhere else, and told by the option bag, under a
name that is read back as the configuration's policy. -/
theorem hooks_agree :
    (∀ (request : FetchRequest) (origins : List HookOrigin) (count : Nat),
      let sent := HookOrigin.interceptAll request (origins.take count)
      (sent.url = request.url ∧ sent.method = request.method ∧ sent.headers = request.headers) ∧
      ((∀ origin ∈ origins.take count, origin.IsRefused) →
        sent.credentials = request.credentials) ∧
      ∀ before origin policy after, origins.take count = before ++ origin :: after →
        origin.Names policy → (∀ other ∈ after, other.IsRefused) →
        sent.credentials = some policy ∧ HookOrigin.interceptAll sent [origin] = sent) ∧
    ∀ (config : Config) (request : FetchRequest), ∃ name,
      (config.fetchHook.intercept request).credentials.map CredentialPolicy.wireName = some name ∧
      (∀ variant, ∀ label ∈ ["req.credentials = ", Script.hookOpening variant],
        (ScriptText.literalsBehind label (Script.render variant config)).mapM
          ScriptText.readContents = some [name]) ∧
      (∃ members, Json.read config.optionBag.compact = some (.obj members) ∧
        members.filter (·.1 = "requestCredentials") = [("requestCredentials", .str name)]) ∧
      ∀ cased text, cased.toLower = name → Text.IsPadded cased text →
        CredentialPolicy.parse text = .ok config.credentials := by
  constructor
  · intro request origins count sent
    refine ⟨?_, fun hrefused => ?_, fun before origin policy after htake horigin hafter => ?_⟩
    · obtain ⟨credentials, hsent⟩ :=
        FetchHook.exists_interceptAll_eq request ((origins.take count).map HookOrigin.hook)
      have hfields : sent = { request with credentials } := hsent
      rw [hfields]
      exact ⟨rfl, rfl, rfl⟩
    · have hsent : sent = request := HookOrigin.interceptAll_of_isRefused hrefused request
      rw [hsent]
    · have hsent : sent = { request with credentials := some policy } := by
        show HookOrigin.interceptAll request (origins.take count) = _
        rw [htake, HookOrigin.interceptAll_eq_of_last horigin hafter]
      rw [hsent, HookOrigin.interceptAll_singleton horigin]
      exact ⟨rfl, rfl⟩
  · intro config request
    refine ⟨config.credentials.wireName, rfl, fun variant label hlabel => ?_, ?_, ?_⟩
    · exact Script.mapM_readContents_credentials hlabel config
    · exact ⟨_, Json.read_compact config.optionBag, rfl⟩
    · exact fun cased text hcased hpadded => CredentialPolicy.parse_of_isPadded hcased hpadded

/-- A configuration among what hooks are made from, between texts that are names and texts that are
none. -/
def builtOrigin : HookOrigin :=
  .config (Draft.buildSteps [.source "A" "/a", .credentials "Same-Origin"])

def earlierOrigins : List HookOrigin :=
  [.policy " OMIT\t", .config (Draft.buildSteps [])]

def mixedOrigins : List HookOrigin :=
  earlierOrigins ++ builtOrigin :: [.policy "always"]

def postRequest : FetchRequest where
  url := "/a"
  method := ⟨"post"⟩
  headers := [(.origin, .ofVisible "null" (by decide))]
  credentials := some .always

theorem hooks_agree_mixedOrigins :
    (builtOrigin.Names .sameOrigin ∧ (HookOrigin.policy "always").IsRefused) ∧
    (HookOrigin.interceptAll postRequest (mixedOrigins.take 4)).url = "/a" ∧
    (HookOrigin.interceptAll postRequest (mixedOrigins.take 4)).credentials = some .sameOrigin ∧
    (HookOrigin.interceptAll postRequest (mixedOrigins.take 0)).credentials = some .always ∧
    ("InCLUDE".toLower = "include" ∧ Text.IsPadded "InCLUDE" " InCLUDE\n") ∧
    CredentialPolicy.parse " InCLUDE\n" = .ok .always := by
  obtain ⟨hturns, hconfigs⟩ := hooks_agree
  have hnames : builtOrigin.Names .sameOrigin := HookOrigin.hook_eq_ok_iff.1 (by decide +kernel)
  have hrefused : (HookOrigin.policy "always").IsRefused :=
    HookOrigin.isRefused_iff.2 ⟨.unknownCredentialPolicy "always", by decide +kernel⟩
  have hafter : ∀ other ∈ [HookOrigin.policy "always"], other.IsRefused := by simpa using hrefused
  obtain ⟨⟨hurl, -, -⟩, -, hlast⟩ := hturns postRequest mixedOrigins 4
  obtain ⟨hcredentials, -⟩ := hlast earlierOrigins _ _ _ rfl hnames hafter
  obtain ⟨-, hnone, -⟩ := hturns postRequest mixedOrigins 0
  obtain ⟨name, hname, -, -, hread⟩ := hconfigs .stock postRequest
  obtain rfl : "include" = name := Option.some.inj hname
  have hcased : "InCLUDE".toLower = "include" := by decide +kernel
  have hpadded : Text.IsPadded "InCLUDE" " InCLUDE\n" := ⟨" ", "\n", by decide, by decide, rfl⟩
  exact ⟨⟨hnames, hrefused⟩, hurl, hcredentials, hnone (by simp), ⟨hcased, hpadded⟩,
    hread _ _ hcased hpadded⟩

end DocPortal.Viewer
