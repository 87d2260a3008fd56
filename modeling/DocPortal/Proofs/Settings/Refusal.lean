/-
What settings are refused for. Variables are read in a fixed order, and the
settings are refused for the first one whose text is outside its grammar;
otherwise each of the settings is what its own variable writes, or its
default if the variable says nothing (`read_answers`). So nothing malformed
is replaced by a default, and no variable reaches the setting of another.
-/
import Mathlib.Tactic.MkIffOfInductiveProp
import DocPortal.Proofs.Settings.Grammar

namespace DocPortal.Settings

open Text Viewer

/-! ## Grammars -/

/-- What is outside the grammar of a variable, and the cause that it is refused for. -/
structure Grammar where
  variableName : String
  Refuses : String → ConfigError → Prop

namespace Grammar

/-- A number that is at most 65535. -/
def port : Grammar where
  variableName := portVariable
  Refuses text cause := (¬ ∃ n ≤ 65535, WritesPort text n) ∧
    cause = .invalidValue portVariable text

/-- Entries with `=`. -/
def sources : Grammar where
  variableName := sourcesVariable
  Refuses text cause :=
    ∃ entry, (entries text).find? (fun entry => '=' ∉ entry.toList) = some entry ∧
      cause = .malformedSourceEntry entry

/-- The name of a policy, in any letter case. -/
def credentials : Grammar where
  variableName := credentialsVariable
  Refuses text cause := (trim text).toLower ∉ ["omit", "same-origin", "include"] ∧
    cause = .unknownCredentialPolicy (trim text).toLower

/-- Entries that are names of presets, in any letter case. -/
def presets : Grammar where
  variableName := presetsVariable
  Refuses text cause :=
    ∃ entry, (entries text).find? (fun entry => entry.toLower ∉ ["apis", "standalone"]) =
      some entry ∧ cause = .unknownPreset entry.toLower

/-- The name of a layout. -/
def layout : Grammar where
  variableName := layoutVariable
  Refuses text cause := trim text ∉ ["StandaloneLayout", "BaseLayout"] ∧
    cause = .unknownLayout (trim text)

/-- A word for one of the two positions, in any letter case. -/
def deepLinking : Grammar where
  variableName := deepLinkingVariable
  Refuses text cause :=
    (trim text).toLower ∉ ["1", "true", "yes", "on", "0", "false", "no", "off"] ∧
      cause = .invalidValue deepLinkingVariable text

/-- The grammars, in the order the variables are read. -/
def all : List Grammar := [port, sources, credentials, presets, layout, deepLinking]

end Grammar

/-- A variable says nothing: it is unset, or its text is blank. -/
def IsSilent (env : Lookup) (variableName : String) : Prop :=
  ∀ text, env variableName = some text → isBlank text = true

/-- A variable that is not silent has a text outside its grammar. -/
def Refused (env : Lookup) (grammar : Grammar) (cause : ConfigError) : Prop :=
  ∃ text, env grammar.variableName = some text ∧ isBlank text = false ∧ grammar.Refuses text cause

/-- The cause of the first refusal, where none of the variables before is refused. -/
def FirstRefusal (env : Lookup) (grammars : List Grammar) (cause : ConfigError) : Prop :=
  ∃ before grammar after, grammars = before ++ grammar :: after ∧ Refused env grammar cause ∧
    ∀ earlier ∈ before, ∀ other, ¬ Refused env earlier other

/-- The setting of a variable: what its text writes, or the default if it is silent. -/
def Gives {α : Type} (env : Lookup) (variableName : String) (Writes : String → α → Prop)
    (default a : α) : Prop :=
  (∃ text, env variableName = some text ∧ isBlank text = false ∧ Writes text a) ∨
    IsSilent env variableName ∧ a = default

/-- A text writes a place: its characters up to the slashes at the end. -/
def WritesPlace (text place : String) : Prop :=
  (∃ slashes, text = place ++ slashes ∧ ∀ c ∈ slashes.toList, c = '/') ∧
    ¬ ['/'] <:+ place.toList

/-- Every setting is given by its own variable. -/
structure GivenBy (env : Lookup) (settings : Settings) : Prop where
  port : Gives env portVariable (fun text port => WritesPort text port.toNat) 8080 settings.port
  sources : Gives env sourcesVariable
    (fun text sources => (∀ source ∈ sources, IsListed source) ∧ WritesList text sources)
    [⟨"Auth Service", "/v3/api-docs/auth"⟩, ⟨"User Service", "/v3/api-docs/user"⟩] settings.sources
  credentials : Gives env credentialsVariable
    (fun text policy => WritesWord text policy.wireName) .always settings.credentials
  presets : Gives env presetsVariable (WritesEntries WritesPreset) [.apis, .standalone]
    settings.presets
  layout : Gives env layoutVariable (fun text layout => IsPadded layout.wireName text)
    .standalone settings.layout
  deepLinking : Gives env deepLinkingVariable WritesSwitch false settings.deepLinking
  mountPoint : Gives env mountPointVariable (fun text selector => text = selector)
    "#swagger-ui" settings.mountPoint
  assetBase : Gives env assetBaseVariable WritesPlace "https://unpkg.com/swagger-ui-dist@5"
    settings.assetBase
  allowedOrigins : Gives env originsVariable (WritesEntries WritesEntry) []
    settings.allowedOrigins
  requestIdHeader : Gives env requestIdHeaderVariable WritesWord "x-request-id"
    settings.requestIdHeader

/-! ## Single variables -/

theorem isSilent_iff {env : Lookup} {variableName : String} :
    IsSilent env variableName ↔ given env variableName = none := by
  rw [Option.eq_none_iff_forall_ne_some, IsSilent]
  simp only [Ne, given_eq_some_iff, not_and, Bool.not_eq_false]

theorem value_eq_ok_iff {α : Type} {env : Lookup} {variableName : String} {default a : α}
    {read : String → Except ConfigError α} {Writes : String → α → Prop}
    (hread : ∀ text a, read text = .ok a ↔ Writes text a) :
    value env variableName default read = .ok a ↔ Gives env variableName Writes default a := by
  simp only [Gives, ← hread, isSilent_iff, ← and_assoc, ← given_eq_some_iff]
  rw [value]
  cases given env variableName with
  | none => simp [eq_comm]
  | some text => simp

theorem getD_given_iff {α : Type} {env : Lookup} {variableName : String} {default a : α}
    {f : String → α} {Writes : String → α → Prop} (hf : ∀ text a, f text = a ↔ Writes text a) :
    a = ((given env variableName).map f).getD default ↔
      Gives env variableName Writes default a := by
  simp only [Gives, ← hf, isSilent_iff, ← and_assoc, ← given_eq_some_iff]
  cases given env variableName with
  | none => simp
  | some text => simp [eq_comm]

theorem value_eq_error_iff {α : Type} {env : Lookup} {grammar : Grammar} {default : α}
    {read : String → Except ConfigError α} {cause : ConfigError}
    (hread : ∀ text cause, read text = .error cause ↔ grammar.Refuses text cause) :
    value env grammar.variableName default read = .error cause ↔ Refused env grammar cause := by
  simp only [Refused, ← hread, ← and_assoc, ← given_eq_some_iff]
  rw [value]
  cases given env grammar.variableName with
  | none => simp
  | some text => simp

/-! ## First refusals -/

section FirstRefusal

variable {env : Lookup} {grammar : Grammar} {grammars : List Grammar} {cause : ConfigError}

theorem not_firstRefusal_nil : ¬ FirstRefusal env [] cause := by
  rintro ⟨before, grammar, after, heq, -, -⟩
  exact List.append_ne_nil_of_right_ne_nil before (List.cons_ne_nil grammar after) heq.symm

/-- The first refusal is that of the first variable, or behind it if that one is not refused. -/
theorem firstRefusal_cons_iff :
    FirstRefusal env (grammar :: grammars) cause ↔
      Refused env grammar cause ∨
        (∀ other, ¬ Refused env grammar other) ∧ FirstRefusal env grammars cause := by
  constructor
  · rintro ⟨before, refused, after, heq, hrefused, hbefore⟩
    cases before with
    | nil =>
      obtain ⟨rfl, rfl⟩ := List.cons.inj heq
      exact .inl hrefused
    | cons first before =>
      obtain ⟨rfl, rfl⟩ := List.cons.inj heq
      exact .inr ⟨hbefore grammar List.mem_cons_self, before, refused, after, rfl, hrefused,
        fun earlier hearlier => hbefore earlier (List.mem_cons_of_mem grammar hearlier)⟩
  · rintro (hrefused | ⟨hfirst, before, refused, after, rfl, hrefused, hbefore⟩)
    · exact ⟨[], grammar, grammars, rfl, hrefused, nofun⟩
    · refine ⟨grammar :: before, refused, after, rfl, hrefused, ?_⟩
      intro earlier hearlier
      rcases List.mem_cons.1 hearlier with rfl | hearlier
      · exact hfirst
      · exact hbefore earlier hearlier

/-- There is a first refusal where there is any. -/
theorem exists_firstRefusal_iff :
    (∃ cause, FirstRefusal env grammars cause) ↔
      ∃ grammar ∈ grammars, ∃ cause, Refused env grammar cause := by
  induction grammars with
  | nil => simp [not_firstRefusal_nil]
  | cons grammar grammars ih =>
    rw [List.exists_mem_cons_iff, ← ih]
    simp only [firstRefusal_cons_iff]
    by_cases hrefused : ∃ cause, Refused env grammar cause
    · obtain ⟨cause, hcause⟩ := hrefused
      exact iff_of_true ⟨cause, .inl hcause⟩ (.inl ⟨cause, hcause⟩)
    · have hnone : ∀ other, ¬ Refused env grammar other := not_exists.1 hrefused
      simp [hnone]

/-- Reading is refused at a variable, or behind it if it is not. -/
theorem bind_value_eq_error_iff {α β : Type} (grammar : Grammar) {default : α}
    {read : String → Except ConfigError α} {next : α → Except ConfigError β}
    (hread : ∀ text cause, read text = .error cause ↔ grammar.Refuses text cause)
    (hnext : ∀ a, next a = .error cause ↔ FirstRefusal env grammars cause) :
    (value env grammar.variableName default read >>= next) = .error cause ↔
      FirstRefusal env (grammar :: grammars) cause := by
  have hvalue (cause : ConfigError) :
      value env grammar.variableName default read = .error cause ↔ Refused env grammar cause :=
    value_eq_error_iff hread
  simp only [firstRefusal_cons_iff, ← hvalue]
  cases value env grammar.variableName default read with
  | error first => simp [bind, Except.bind]
  | ok a => simp [bind, Except.bind, hnext]

end FirstRefusal

/-! ## All of the settings -/

attribute [mk_iff] SaidBy GivenBy

theorem read_eq_error_iff {env : Lookup} {cause : ConfigError} :
    read env = .error cause ↔ FirstRefusal env Grammar.all cause := by
  have hport (text : String) (cause : ConfigError) :
      valid portVariable readPort text = .error cause ↔ Grammar.port.Refuses text cause := by
    rw [valid_eq_error_iff, readPort_eq_none_iff, Grammar.port]
  have hswitch (text : String) (cause : ConfigError) :
      valid deepLinkingVariable readSwitch text = .error cause ↔
        Grammar.deepLinking.Refuses text cause := by
    rw [valid_eq_error_iff, readSwitch_eq_none_iff, Grammar.deepLinking]
  refine bind_value_eq_error_iff .port hport fun port => ?_
  refine bind_value_eq_error_iff .sources (fun _ _ => parseList_eq_error_iff) fun sources => ?_
  refine bind_value_eq_error_iff .credentials (fun _ _ => CredentialPolicy.parse_eq_error_iff)
    fun credentials => ?_
  refine bind_value_eq_error_iff .presets (fun _ _ => readPresets_eq_error_iff) fun presets => ?_
  refine bind_value_eq_error_iff .layout (fun _ _ => Layout.parse_eq_error_iff) fun layout => ?_
  refine bind_value_eq_error_iff .deepLinking hswitch fun deepLinking => ?_
  exact iff_of_false nofun not_firstRefusal_nil

theorem saidBy_iff_givenBy {env : Lookup} {settings : Settings} :
    SaidBy env settings ↔ GivenBy env settings := by
  have hport (text : String) (port : UInt16) :
      valid portVariable readPort text = .ok port ↔ WritesPort text port.toNat := by
    rw [valid_eq_ok_iff, readPort_eq_some_iff]
  have hcredentials (text : String) (policy : CredentialPolicy) :
      CredentialPolicy.parse text = .ok policy ↔ WritesWord text policy.wireName := by
    rw [CredentialPolicy.parse_eq_ok_iff, writesWord_iff]
  have hswitch (text : String) (on : Bool) :
      valid deepLinkingVariable readSwitch text = .ok on ↔ WritesSwitch text on := by
    rw [valid_eq_ok_iff, readSwitch_eq_some_iff]
  have hmount :
      settings.mountPoint = (given env mountPointVariable).getD Draft.fresh.mountPoint ↔
        Gives env mountPointVariable (fun text selector => text = selector)
          Draft.fresh.mountPoint settings.mountPoint := by
    rw [← getD_given_iff fun _ _ => Iff.rfl, Option.map_id']
  rw [saidBy_iff, givenBy_iff, value_eq_ok_iff hport,
    value_eq_ok_iff fun _ _ => parseList_eq_ok_iff, value_eq_ok_iff hcredentials,
    value_eq_ok_iff fun _ _ => readPresets_eq_ok_iff,
    value_eq_ok_iff fun _ _ => parse_layout_eq_ok_iff, value_eq_ok_iff hswitch, hmount,
    getD_given_iff fun _ _ => trimEndOf_eq_iff,
    getD_given_iff fun _ _ => writesEntries_entry_iff.symm,
    getD_given_iff fun _ _ => writesWord_iff.symm]
  rfl

/-- **Settings are refused for the first variable that is outside its grammar, and are otherwise
what their own variables write.** They are refused exactly if some variable is; the cause is that
of the first one; and settings are read exactly if each of them is what its variable writes, or
its default where the variable is unset or blank. -/
theorem read_answers (env : Lookup) :
    ((∃ cause, read env = .error cause) ↔
      ∃ grammar ∈ Grammar.all, ∃ cause, Refused env grammar cause) ∧
    (∀ cause, read env = .error cause ↔ FirstRefusal env Grammar.all cause) ∧
    ∀ settings, read env = .ok settings ↔ GivenBy env settings := by
  refine ⟨?_, fun cause => read_eq_error_iff, fun settings => ?_⟩
  · simp only [read_eq_error_iff, exists_firstRefusal_iff]
  · rw [read_eq_ok_iff, saidBy_iff_givenBy]

example : read (fun name => [(layoutVariable, "baselayout"), (portVariable, " +0080"),
    (presetsVariable, "apis, ,Base,x")].lookup name) = .error (.unknownPreset "base") := by
  decide +kernel

end DocPortal.Settings
