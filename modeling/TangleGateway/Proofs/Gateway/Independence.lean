import TangleGateway.Proofs.Gateway.Requests

/-! # Calls do not depend on each other

Over a recorder, what a step that sends a command shows is settled by the step, the configuration
and the reply it takes. The steps before it count only in so far as they take replies.
-/

namespace TangleGateway

variable {http : HttpLibrary}

/-- What a trace shows to a caller: all but the gateway it leaves. -/
def Trace.seen {α : Type} (t : Trace http α) : Except Fault α × List SentRequest × List LogEvent :=
  (t.result, t.requests, t.logs)

namespace Trace

variable {α β : Type} {t t' : Trace http α}

theorem seen_andThen (h : t.seen = t'.seen) (f : α → Logged β) :
    (t.andThen f).seen = (t'.andThen f).seen := by
  simp only [seen, Prod.mk.injEq] at h
  obtain ⟨hresult, hrequests, hlogs⟩ := h
  simp only [seen, andThen_result, andThen_requests, andThen_logs, hresult, hrequests, hlogs]

theorem seen_map (h : t.seen = t'.seen) (f : α → β) : (t.map f).seen = (t'.map f).seen := by
  simp only [seen, Prod.mk.injEq] at h
  obtain ⟨hresult, hrequests, hlogs⟩ := h
  simp only [seen, map_result, map_requests, map_logs, hresult, hrequests, hlogs]

end Trace

def Step.dispatches (s : Step) : Bool :=
  s.sends?.isSome

/-- How many of the steps send a command. -/
def Step.dispatched (steps : List Step) : Nat :=
  (steps.filterMap Step.sends?).length

namespace Gateway

variable {config : Config} {url : Text} {r r' : Recorder} {pow pow' : Bool} {g g' : Gateway http}
  {s : Step} {c : ValueCommand}

/-! ## One step -/

theorem seen_step (hc : s.command? = some (.ok c))
    (h : (g.execute c).seen = (g'.execute c).seen) : (g.step s).seen = (g'.step s).seen := by
  cases s with
  | perform nesting op =>
    have hop : op.command = .ok c := Option.some.inj hc
    simp only [step, perform, hop]
    exact Trace.seen_map (Trace.seen_andThen (Trace.seen_andThen h _) _) _
  | call nesting d parse =>
    obtain rfl : d = .ok c := Option.some.inj hc
    exact Trace.seen_map (Trace.seen_andThen h _) _
  | execute d =>
    obtain rfl : d = .ok c := Option.some.inj hc
    exact Trace.seen_map h _
  | _ => cases hc

theorem seen_step_recording (hu : config.baseUrl = .ok url) (hs : s.dispatches)
    (hr : r.reply = r'.reply) :
    ((recording http config r pow).step s).seen =
      ((recording http config r' pow').step s).seen := by
  obtain ⟨c, hs⟩ := Option.isSome_iff_exists.mp hs
  refine seen_step (Step.sends?_eq_some_iff.mp hs) ?_
  rw [execute_recording http r pow hu, execute_recording http r' pow' hu]
  simp only [Trace.seen, hr]

/-! ## Runs -/

/-- The step of an index shows what it does over the one reply that is left to it. -/
theorem seen_run_recording (http : HttpLibrary) (hu : config.baseUrl = .ok url) (r : Recorder)
    (pow pow' : Bool) {steps : List Step} {i : Nat} (hi : steps[i]? = some s) (hs : s.dispatches) :
    ((recording http config r pow).run steps)[i]?.map Trace.seen =
      some ((recording http config
        ⟨r.replies[Step.dispatched (steps.take i)]?.toList, false⟩ pow').step s).seen := by
  obtain ⟨-, closed, hafter⟩ := run_recording http hu r pow (steps.take i)
  rw [run_getElem?, hi, Option.map_some, Option.map_some, hafter]
  refine congrArg some (seen_step_recording hu hs ?_)
  simp only [Recorder.reply, List.head?_drop, Step.dispatched]
  cases r.replies[(List.filterMap Step.sends? (steps.take i)).length]? <;> rfl

/-- What the steps of a run that send a command show, in order. -/
def dispatchingSeen (g : Gateway http) (steps : List Step) :
    List (Except Fault StepValue × List SentRequest × List LogEvent) :=
  ((steps.zip (g.run steps)).filter fun p => p.1.dispatches).map fun p => p.2.seen

theorem dispatchingSeen_cons (g : Gateway http) (s : Step) (steps : List Step) :
    dispatchingSeen g (s :: steps) =
      (if s.dispatches then [(g.step s).seen] else []) ++
        dispatchingSeen (g.step s).gateway steps := by
  by_cases hs : s.dispatches <;> simp [dispatchingSeen, run, hs]

theorem dispatchingSeen_of_forall {steps : List Step} (h : ∀ s ∈ steps, s.dispatches)
    (g : Gateway http) : dispatchingSeen g steps = (g.run steps).map Trace.seen := by
  induction steps generalizing g with
  | nil => rfl
  | cons s steps ih =>
    rw [dispatchingSeen_cons, if_pos (h s List.mem_cons_self),
      ih fun t ht => h t (List.mem_cons_of_mem _ ht)]
    rfl

theorem dispatchingSeen_recording (hu : config.baseUrl = .ok url) (r : Recorder) (pow : Bool)
    (steps : List Step) :
    dispatchingSeen (recording http config r pow) steps =
      (steps.filter Step.dispatches).mapIdx fun j s =>
        ((recording http config ⟨r.replies[j]?.toList, false⟩ pow).step s).seen := by
  induction steps generalizing r with
  | nil => rfl
  | cons s steps ih =>
    obtain ⟨-, closed, hgateway⟩ := step_recording http hu r pow s
    rw [dispatchingSeen_cons, hgateway, ih]
    cases hs : s.sends? with
    | some c =>
      have hdispatches : s.dispatches = true := Option.isSome_iff_exists.mpr ⟨c, hs⟩
      have hfirst : ((recording http config r pow).step s).seen =
          ((recording http config ⟨r.replies[0]?.toList, false⟩ pow).step s).seen := by
        refine seen_step_recording hu hdispatches ?_
        cases hr : r.replies <;> simp [Recorder.reply, hr]
      -- the steps after it get the replies from the second on
      rw [if_pos hdispatches, hfirst, List.filter_cons_of_pos hdispatches, List.mapIdx_cons]
      simp only [Option.toList_some, List.length_singleton, List.getElem?_drop, Nat.add_comm 1]
      rfl
    | none =>
      have hdispatches : s.dispatches = false := congrArg Option.isSome hs
      rw [hdispatches, List.filter_cons_of_neg (by simp [hdispatches])]
      rfl

/--
Calls do not depend on each other: a step that sends a command shows what it shows alone, over the
reply whose turn it is. The steps that send nothing can be left out, and whatever came before,
failures among it, may as well have been something else.
-/
theorem calls_independent (hg : (withTransport config (.recorder r) pow).result = .ok g)
    (steps : List Step) :
    (∀ nesting op, (Step.perform nesting op).dispatches ↔ ∃ c, op.command = .ok c) ∧
    (∀ (i : Nat) (s : Step) (t : Trace http StepValue), steps[i]? = some s →
      (g.run steps)[i]? = some t → (s.dispatches ↔ t.requests ≠ [])) ∧
    (∀ (i : Nat) (s : Step), steps[i]? = some s → s.dispatches → ∃ alone : Gateway http,
      (withTransport config
        (.recorder ⟨r.replies[Step.dispatched (steps.take i)]?.toList, false⟩) pow).result =
          .ok alone ∧
      (g.run steps)[i]?.map Trace.seen = some (alone.step s).seen) ∧
    dispatchingSeen g steps = (g.run (steps.filter Step.dispatches)).map Trace.seen ∧
    ∀ r' pow' (g' : Gateway http) steps',
      (withTransport config (.recorder r') pow').result = .ok g' →
      ∀ (i i' : Nat) (s : Step), steps[i]? = some s → steps'[i']? = some s → s.dispatches →
        r.replies[Step.dispatched (steps.take i)]? =
          r'.replies[Step.dispatched (steps'.take i')]? →
        (g.run steps)[i]?.map Trace.seen = (g'.run steps')[i']?.map Trace.seen := by
  obtain ⟨rfl, url, hu⟩ := announce_result hg
  have hu : config.baseUrl = .ok url := hu
  have fresh (r : Recorder) : (withTransport config (.recorder r) pow).result =
      .ok (recording http config r pow) := by
    simp only [withTransport, announce, hu]
    rfl
  refine ⟨fun nesting op => ?_, fun i s t hi ht => ?_, fun i s hi hs => ?_, ?_, ?_⟩
  · rw [Step.dispatches, Option.isSome_iff_exists]
    constructor
    · rintro ⟨c, hc⟩
      exact ⟨c, Option.some.inj (Step.sends?_eq_some_iff.mp hc)⟩
    · rintro ⟨c, hc⟩
      exact ⟨c, Step.sends?_eq_some_iff.mpr (congrArg some hc)⟩
  · obtain ⟨-, closed, hafter⟩ := run_recording http hu r pow (steps.take i)
    change ((recording http config r pow).run steps)[i]? = some t at ht
    rw [run_getElem?, hi, Option.map_some, hafter, Option.some.injEq] at ht
    rw [← ht, (step_recording http hu _ pow s).1, Step.dispatches]
    cases s.sends? <;> simp
  · exact ⟨_, fresh _, seen_run_recording http hu r pow pow hi hs⟩
  · have hfilter : ∀ s ∈ steps.filter Step.dispatches, s.dispatches :=
      fun s hs => (List.mem_filter.mp hs).2
    -- both runs come to the same steps over the same replies
    rw [← dispatchingSeen_of_forall hfilter]
    change dispatchingSeen (recording http config r pow) _ =
      dispatchingSeen (recording http config r pow) _
    rw [dispatchingSeen_recording hu, dispatchingSeen_recording hu, List.filter_filter]
    simp only [Bool.and_self]
  · intro r' pow' g' steps' hg' i i' s hi hi' hs hr
    obtain ⟨rfl, -⟩ := announce_result hg'
    have h := seen_run_recording http hu r pow false hi hs
    have h' := seen_run_recording http hu r' pow' false hi' hs
    rw [← hr] at h'
    exact h.trans h'.symm

/-- A fault that escapes, a refused hash and a closed gateway do not change the call after them. -/
theorem calls_independent_after_escape :
    let config : Config := { host := .text "node", port := .int 9 }
    let recorder : Recorder :=
      ⟨[.error (.raised (.standard .runtime) []), .ok ⟨.int 200, .text "[", none⟩,
        .ok ⟨.int 500, .text "down", none⟩], false⟩
    let steps : List Step := [.perform 90 .getTips, .close, .perform 90 (.getTrytes [.null]),
      .perform 90 .getNeighbors, .exit, .perform 90 .getNodeInfo, .perform 90 .getTips]
    let alone (replies : List (Except Fault Answer)) :=
      recording HttpClient.library config ⟨replies, false⟩ false
    ∃ g : Gateway HttpClient.library, (withTransport config (.recorder recorder) false).result =
        .ok g ∧
      (g.run steps)[5]?.map Trace.seen =
        some ((alone [.ok ⟨.int 500, .text "down", none⟩]).step (.perform 90 .getNodeInfo)).seen ∧
      (g.run steps)[6]?.map Trace.seen = some ((alone []).step (.perform 90 .getTips)).seen := by
  intro config recorder steps alone
  have hg : (withTransport config (.recorder recorder) false).result =
      .ok (recording HttpClient.library config recorder false) := rfl
  obtain ⟨-, -, alone, -⟩ := calls_independent hg steps
  obtain ⟨g₅, hg₅, h₅⟩ := alone 5 _ rfl rfl
  obtain ⟨g₆, hg₆, h₆⟩ := alone 6 _ rfl rfl
  cases hg₅
  cases hg₆
  exact ⟨_, hg, h₅, h₆⟩

end Gateway

end TangleGateway
