import TangleGateway.Proofs.Fault.Message
import TangleGateway.Proofs.Gateway.Dispatch

/-! # Reachable gateways

A gateway is built for a configuration and then only takes steps. No step changes the
configuration, so the URL of the node that could be written at the start can be written ever
after.
-/

namespace TangleGateway

theorem Config.baseUrl_eq_ok_iff {config : Config} {url : Text} :
    config.baseUrl = .ok url ↔ ∃ protocol host port : Text,
      config.protocol.text? = some protocol ∧ config.host.text? = some host ∧
      config.port.text? = some port ∧
      url = protocol ++ ("://" : Text) ++ host ++ (":" : Text) ++ port := by
  simp only [baseUrl, Except.bind_eq_ok_iff, Fault.orTooLong_eq_ok_iff]
  constructor
  · rintro ⟨protocol, hp, host, hh, port, hn, h⟩
    cases h
    exact ⟨protocol, host, port, hp, hh, hn, rfl⟩
  · rintro ⟨protocol, host, port, hp, hh, hn, rfl⟩
    exact ⟨protocol, hp, host, hh, port, hn, rfl⟩

namespace Gateway

variable {http : HttpLibrary} {g g' : Gateway http}

theorem announce_eq {url : Text} (h : g.config.baseUrl = .ok url) :
    announce g = ⟨.ok g, [.nodeUrl url]⟩ := by
  simp only [announce, h]

theorem announce_result (h : g.announce.result = .ok g') :
    g' = g ∧ ∃ url, g.config.baseUrl = .ok url := by
  unfold announce at h
  cases hu : g.config.baseUrl with
  | error f => simp [hu] at h
  | ok url =>
    simp only [hu] at h
    cases h
    exact ⟨rfl, url, rfl⟩

/-- The gateways that building one and taking steps with it lead to. -/
inductive Reachable : Gateway http → Prop where
  | withTransport {config : Config} {transport : Transport http} {holdsLocalPow : Bool}
      {g : Gateway http} :
      (Gateway.withTransport config transport holdsLocalPow).result = .ok g → Reachable g
  | owning {config : Config} {network : Network} {holdsLocalPow : Bool} {g : Gateway http} :
      (Gateway.owning config network holdsLocalPow).result = .ok g → Reachable g
  | step {g : Gateway http} (s : Step) : Reachable g → Reachable (g.step s).gateway

theorem close_config (g : Gateway http) : g.close.config = g.config := by
  unfold close
  split <;> rfl

theorem execute_config (g : Gateway http) (c : ValueCommand) :
    (g.execute c).gateway.config = g.config := by
  unfold execute
  split
  · rfl
  · rw [dispatch_eq]

theorem step_config (g : Gateway http) (s : Step) : (g.step s).gateway.config = g.config := by
  cases hc : s.command? with
  | none =>
    cases s with
    | exit | close => exact g.close_config
    | perform | call | execute => cases hc
    | _ => rfl
  | some built =>
    cases built with
    | error f => rw [step_command_error g hc]; rfl
    | ok c => rw [(step_command_ok g hc).2, execute_config]

theorem Reachable.baseUrl (h : Reachable g) : ∃ url, g.config.baseUrl = .ok url := by
  induction h with
  | withTransport h =>
    obtain ⟨rfl, hu⟩ := announce_result h
    exact hu
  | owning h =>
    unfold Gateway.owning at h
    split at h
    · cases h
    · obtain ⟨rfl, hu⟩ := announce_result h
      exact hu
  | step s _ ih => rwa [step_config]

end Gateway

end TangleGateway
