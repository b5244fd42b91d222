import TangleGateway.Proofs.Config.Environment
import TangleGateway.Proofs.Gateway.Reachable
import TangleGateway.Proofs.Http.Client

/-! # Gateways for an environment

A gateway is made for an environment exactly if its port is a numeral or not set. What was not set
is logged first, then the URL of the node.
-/

namespace TangleGateway.Gateway

/-- The two ways a gateway is made of a configuration. -/
inductive Makes (http : HttpLibrary) : (Config → Logged (Gateway http)) → Prop
  | supplied (transport : Transport http) (holdsLocalPow : Bool) :
    Makes http fun c => withTransport c transport holdsLocalPow
  | own (network : Network) (holdsLocalPow : Bool) :
    Makes http fun c => owning c network holdsLocalPow

variable {http : HttpLibrary} {env : Environment} {n : Int}

theorem Makes.eq_ok {make : Config → Logged (Gateway http)} (hd : http.Documented)
    (hm : Makes http make) (h : env.HasPort n) :
    ∃ g, g.config = env.config n ∧ make (env.config n) = ⟨.ok g, [.nodeUrl (env.url n)]⟩ := by
  have hurl := Environment.baseUrl_config env h.writable
  cases hm with
  | supplied transport holdsLocalPow =>
    exact ⟨⟨env.config n, transport, false, holdsLocalPow⟩, rfl, announce_eq hurl⟩
  | own network holdsLocalPow =>
    obtain ⟨client, hclient⟩ :
        ∃ c, http.make (env.config n).connectTimeout (env.config n).readTimeout = .ok c :=
      (hd.make_times (.float _) (.float _)).imp fun _ h => h.1
    refine ⟨⟨env.config n, .poster ⟨client, network⟩, true, holdsLocalPow⟩, rfl, ?_⟩
    simp only [owning, hclient]
    exact announce_eq hurl

/-- The environment makes a configuration and a gateway if the variable of the port is not set or
set to a numeral, which alone matters of it, and neither otherwise. The variables that are not set
are logged in order, and none of them after a malformed port. -/
theorem fromEnvironment_port_numeral (hd : http.Documented) (env : Environment) :
    (∀ n, env.HasPort n →
      Config.ofEnvironment env [] = (.ok (env.config n), env.warnings) ∧
      (env.config n).baseUrl = .ok (env.url n) ∧
      ∀ make, Makes http make → ∃ g, g.config = env.config n ∧
        fromEnvironment env make = ⟨.ok g, env.warnings ++ [.nodeUrl (env.url n)]⟩) ∧
    (∀ t, env.Malformed t →
      (Fault.config (.malformedPort t)).cls = .standard .value ∧
      (Fault.config (.malformedPort t)).text? =
        some (("CVT_API_PORT must be an integer, got " : Text) ++ t.quoted) ∧
      Config.ofEnvironment env [] = (.error (.config (.malformedPort t)), []) ∧
      ∀ make : Config → Logged (Gateway http),
        fromEnvironment env make = ⟨.error (.config (.malformedPort t)), []⟩) ∧
    ((∃ n, env.HasPort n) ∨ ∃ t, env.Malformed t) ∧
    (∀ t t' n, PortNumeral.Numeral t n → PortNumeral.Numeral t' n →
      (Config.ofEnvironment (env.put Environment.portName t) []).1 =
        (Config.ofEnvironment (env.put Environment.portName t') []).1) ∧
    ∀ n : Int, n.natAbs < 10 ^ Integer.maxDigits →
      (Config.ofEnvironment (env.put Environment.portName (Integer.text n)) []).1 =
        .ok (env.config n) := by
  have set (t : Text) (n : Int) (h : PortNumeral.Numeral t n) :
      (Config.ofEnvironment (env.put Environment.portName t) []).1 = .ok (env.config n) := by
    rw [Config.ofEnvironment_nil_of_hasPort (Environment.hasPort_put.mpr h), Environment.config_put]
  refine ⟨fun n h => ?_, fun t h => ?_, env.hasPort_or_malformed, fun t t' n h h' => ?_,
    fun n h => ?_⟩
  · have hconfig := Config.ofEnvironment_nil_of_hasPort h
    refine ⟨hconfig, Environment.baseUrl_config env h.writable, fun make hm => ?_⟩
    obtain ⟨g, hg, hmake⟩ := hm.eq_ok hd h
    refine ⟨g, hg, ?_⟩
    simp only [fromEnvironment, hconfig, hmake]
  · have hconfig := Config.ofEnvironment_of_malformed h []
    refine ⟨rfl, rfl, hconfig, fun make => ?_⟩
    simp only [fromEnvironment, hconfig]
  · rw [set t n h, set t' n h']
  · exact set _ n (PortNumeral.numeral_text (Integer.writable_iff.mpr h))

theorem fromEnvironment_arabic_port :
    let env : Environment := [("CVT_API_PORT", "\u3000+\u0664_2\n"), ("CVT_API_HOST", "node")]
    let make (c : Config) : Logged (Gateway HttpClient.library) := owning c [] false
    ∃ g, g.config = { host := .text "node", port := .int 42 } ∧
      fromEnvironment env make =
        ⟨.ok g, [.variableUnset "CVT_API_PROTOCOL" "http", .nodeUrl "http://node:42"]⟩ := by
  intro env make
  have h : env.HasPort 42 := PortNumeral.read?_eq_some_iff.mp rfl
  exact ((fromEnvironment_port_numeral HttpClient.documented_library env).1 42 h).2.2 _
    (.own [] false)

end TangleGateway.Gateway
