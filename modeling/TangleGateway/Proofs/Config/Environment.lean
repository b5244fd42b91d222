import TangleGateway.Config.Environment
import TangleGateway.Proofs.Config.PortNumeral
import TangleGateway.Proofs.Value.Entries

/-! # What the environment makes

The environment makes a configuration unless the variable of the port is set to no numeral. The
overrides win over it, but are merged after it was read in full: a port given by name does not make
up for a variable that is malformed.
-/

namespace TangleGateway

/-- A configuration with other values for some of its fields. -/
def Config.override (c : Config) (overrides : Entries Value) : Config where
  protocol := (overrides.get? "protocol").getD c.protocol
  host := (overrides.get? "host").getD c.host
  port := (overrides.get? "port").getD c.port
  connectTimeout := (overrides.get? "connect_timeout").getD c.connectTimeout
  readTimeout := (overrides.get? "read_timeout").getD c.readTimeout
  apiVersion := (overrides.get? "api_version").getD c.apiVersion

namespace Environment

/-- The port the environment asks for. -/
def HasPort (env : Environment) (n : Int) : Prop :=
  match env.get? portName with
  | none => n = 14265
  | some t => PortNumeral.Numeral t n

/-- The variable of the port is set, and to no numeral. -/
def Malformed (env : Environment) (t : Text) : Prop :=
  env.get? portName = some t ∧ ∀ n, ¬ PortNumeral.Numeral t n

def config (env : Environment) (port : Int) : Config where
  protocol := .text ((env.get? protocolName).getD "http")
  host := .text ((env.get? hostName).getD "localhost")
  port := .int port

def fields (env : Environment) (port : Int) : Entries Value :=
  [("protocol", (env.config port).protocol), ("host", (env.config port).host),
    ("port", (env.config port).port)]

def url (env : Environment) (port : Int) : Text :=
  (env.get? protocolName).getD "http" ++ ("://" : Text) ++
    (env.get? hostName).getD "localhost" ++ (":" : Text) ++ Integer.text port

/-- A warning for each variable that is not set, in the order they are read in. -/
def warnings (env : Environment) : List LogEvent :=
  [(portName, ("14265" : Text)), (protocolName, "http"), (hostName, "localhost")].filterMap
    fun v => if (env.get? v.1).isNone then some (.variableUnset v.1 v.2) else none

variable {env : Environment} {n : Int} {t : Text}

theorem read_eq (name default : Text) : env.read name default =
    ((env.get? name).getD default,
      if (env.get? name).isNone then [.variableUnset name default] else []) := by
  rw [read]
  cases env.get? name <;> rfl

theorem hasPort_or_malformed (env : Environment) :
    (∃ n, env.HasPort n) ∨ ∃ t, env.Malformed t := by
  cases h : env.get? portName with
  | none => exact .inl ⟨14265, by rw [HasPort, h]⟩
  | some t =>
    by_cases hn : ∃ n, PortNumeral.Numeral t n
    · obtain ⟨n, hn⟩ := hn
      exact .inl ⟨n, by rwa [HasPort, h]⟩
    · exact .inr ⟨t, h, not_exists.mp hn⟩

theorem HasPort.writable (h : env.HasPort n) : Integer.Writable n := by
  unfold HasPort at h
  split at h
  · subst h
    decide
  · exact h.writable

theorem hasPort_put : HasPort (env.put portName t) n ↔ PortNumeral.Numeral t n := by
  rw [HasPort, Entries.get?_put, if_pos rfl]

theorem config_put : config (env.put portName t) n = env.config n := by
  have hprotocol : protocolName ≠ portName := by decide
  have hhost : hostName ≠ portName := by decide
  simp only [config, Entries.get?_put, if_neg hprotocol, if_neg hhost]

theorem baseUrl_config (env : Environment) (h : Integer.Writable n) :
    (env.config n).baseUrl = .ok (env.url n) := by
  have hport : (Value.int n).text? = some (Integer.text n) := Integer.text?_of_writable h
  simp only [Config.baseUrl, config, hport]
  rfl

theorem settings_of_hasPort (h : env.HasPort n) :
    env.settings = (.ok (env.fields n), env.warnings) := by
  have hread : PortNumeral.read? ((env.get? portName).getD "14265") = some n := by
    unfold HasPort at h
    cases hport : env.get? portName with
    | none =>
      rw [hport] at h
      rw [h]
      rfl
    | some t =>
      rw [hport] at h
      exact PortNumeral.read?_eq_some_iff.mpr h
  simp only [settings, read_eq, hread]
  cases hport : env.get? portName <;> cases hprotocol : env.get? protocolName <;>
    cases hhost : env.get? hostName <;> simp [fields, config, warnings, hport, hprotocol, hhost]

theorem settings_of_malformed (h : env.Malformed t) :
    env.settings = (.error (.config (.malformedPort t)), []) := by
  have hread : PortNumeral.read? t = none := by
    cases hread : PortNumeral.read? t with
    | none => rfl
    | some n => exact absurd (PortNumeral.read?_eq_some_iff.mp hread) (h.2 n)
  simp only [settings, read_eq, h.1, Option.getD_some, hread]
  rfl

end Environment

section Configurations

variable {env : Environment} {n : Int} {t : Text} {overrides : Entries Value}

/-! ## Overrides -/

namespace Config

theorem ofFields_eq (h : ∀ name ∈ overrides.names, name ∈ names) :
    ofFields overrides = .ok (({} : Config).override overrides) := by
  have known : overrides.find? (fun e => e.1 ∉ names) = none := by
    rw [List.find?_eq_none]
    intro e he
    simpa using h e.1 (List.mem_map_of_mem he)
  rw [ofFields, known]
  rfl

theorem override_putAll (c : Config) {given : Entries Value} (h : overrides.names.Nodup) :
    c.override (given.putAll overrides) = (c.override given).override overrides := by
  simp only [override, Entries.get?_putAll h, Option.getD_or]

theorem ofEnvironment_of_hasPort (h : env.HasPort n) (hdistinct : overrides.names.Nodup)
    (hnames : ∀ name ∈ overrides.names, name ∈ names) :
    ofEnvironment env overrides = (.ok ((env.config n).override overrides), env.warnings) := by
  have known : ∀ name ∈ Entries.names ((env.fields n).putAll overrides), name ∈ names := by
    intro name hname
    rcases Entries.mem_names_putAll.mp hname with hname | hname
    · have own : ∀ name ∈ ["protocol", "host", "port"], Text.ofString name ∈ names := by decide
      exact List.forall_mem_map.mpr own name hname
    · exact hnames name hname
  simp only [ofEnvironment, Environment.settings_of_hasPort h]
  rw [ofFields_eq known, override_putAll _ hdistinct]
  rfl

theorem ofEnvironment_nil_of_hasPort (h : env.HasPort n) :
    ofEnvironment env [] = (.ok (env.config n), env.warnings) :=
  ofEnvironment_of_hasPort h .nil nofun

theorem ofEnvironment_of_malformed (h : env.Malformed t) (overrides : Entries Value) :
    ofEnvironment env overrides = (.error (.config (.malformedPort t)), []) := by
  rw [ofEnvironment, Environment.settings_of_malformed h]

/-- Overrides win over the environment, unless its port is malformed: then there is no
configuration, whatever the overrides are. -/
theorem override_wins_unless_malformed (env : Environment) (hdistinct : overrides.names.Nodup)
    (hnames : ∀ name ∈ overrides.names, name ∈ names) :
    (∀ n, env.HasPort n →
      (ofEnvironment env overrides).1 = .ok ((env.config n).override overrides)) ∧
    (∀ t, env.Malformed t →
      (ofEnvironment env overrides).1 = .error (.config (.malformedPort t)) ∧
      (Fault.config (.malformedPort t)).cls = .standard .value) ∧
    ((∃ f, (ofEnvironment env overrides).1 = .error f) ↔ ∃ t, env.Malformed t) := by
  have merged (n : Int) (h : env.HasPort n) :
      (ofEnvironment env overrides).1 = .ok ((env.config n).override overrides) := by
    rw [ofEnvironment_of_hasPort h hdistinct hnames]
  have failed (t : Text) (h : env.Malformed t) :
      (ofEnvironment env overrides).1 = .error (.config (.malformedPort t)) := by
    rw [ofEnvironment_of_malformed h]
  refine ⟨merged, fun t h => ⟨failed t h, rfl⟩, ?_⟩
  constructor
  · rintro ⟨f, hf⟩
    rcases env.hasPort_or_malformed with ⟨n, hn⟩ | h
    · rw [merged n hn] at hf
      cases hf
    · exact h
  · rintro ⟨t, ht⟩
    exact ⟨_, failed t ht⟩

theorem override_wins_over_host :
    (ofEnvironment [("CVT_API_HOST", "node.example.com"), ("CVT_API_PORT", "443")]
      [("host", .text "other"), ("api_version", .text "2")]).1 =
        .ok { host := .text "other", port := .int 443, apiVersion := .text "2" } :=
  (override_wins_unless_malformed _ (by decide) (by decide)).1 443
    (PortNumeral.read?_eq_some_iff.mp rfl)

/-- A port is given by name, and still the malformed one of the environment is refused. -/
theorem malformed_port_not_overridden :
    let env : Environment := [("CVT_API_PORT", "abc")]
    let overrides : Entries Value := [("port", .int 9)]
    overrides.names.Nodup ∧ (∀ name ∈ overrides.names, name ∈ names) ∧
      overrides.get? "port" = some (.int 9) ∧
      (ofEnvironment env overrides).1 = .error (.config (.malformedPort "abc")) ∧
      (Fault.config (.malformedPort "abc")).cls = .standard .value :=
  ⟨by decide, by decide, rfl, rfl, rfl⟩

end Config

end Configurations

end TangleGateway
