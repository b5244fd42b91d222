import TangleGateway.Proofs.Gateway.Escape
import TangleGateway.Proofs.Gateway.Independence

/-! # What a session logs

A gateway logs the URL of its node when it is built. Over a recorder, a step that sends a command
logs the command first. Then comes at most one record more: that sending failed on the way to the
node, or that the answer was classified and has a status outside the contract. Other steps log
nothing, so the records of a run count its requests, failures and odd statuses.
-/

namespace TangleGateway

open Answer

/-- A record of the log: its level and its message. -/
def LogEvent.record (e : LogEvent) : LogLevel × Option Text :=
  (e.level, e.message)

def Step.classifies : Step → Bool
  | .perform .. | .call .. => true
  | _ => false

def contractStatuses : List Int :=
  [200, 400, 401, 500]

/-- A fault that kept the node from being reached. -/
def failsOnTheWay : Except Fault Answer → Bool
  | .error f => f.Folds
  | .ok _ => false

/-- An answer of the node with a status outside the contract. -/
def outsideContract : Except Fault Answer → Bool
  | .ok ⟨.int n, _, none⟩ => n ∉ contractStatuses
  | _ => false

/-- What is logged after a reply was taken. -/
inductive Noted (classifies : Bool) :
    Except Fault Answer → List (LogLevel × Option Text) → Prop where
  | unreachable {f : Fault} {reason : Text} : f.Folds → f.text? = some reason →
      Noted classifies (.error f) [(.error, some
        (("Execution of the API call raised exception. Node not reachable? (" : Text) ++ reason ++
          (")" : Text)))]
  | escaped {f : Fault} : ¬ f.Folds → Noted classifies (.error f) []
  | unexpected {n : Int} (body : Text) : classifies = true → n ∉ contractStatuses →
      Noted classifies (.ok (plain (some n) body none)) [(.warning, some
        (("Unexpected status " : Text) ++ Integer.text n ++ (" from node: " : Text) ++
          body.take 200))]
  | quiet {status : Option Int} {fault : Option Fault} (body : Text) :
      (classifies = true → fault = none → ∀ n, status = some n → n ∈ contractStatuses) →
      Noted classifies (.ok (plain status body fault)) []

/-- Which replies to which steps have a record of a level. -/
def LogLevel.isNoted (level : LogLevel) (s : Step) (reply : Except Fault Answer) : Bool :=
  match level with
  | .debug => true
  | .info => false
  | .warning => s.classifies && outsideContract reply
  | .error => failsOnTheWay reply

theorem outsideContract_plain {status : Option Int} {body : Text} {fault : Option Fault} :
    outsideContract (.ok (plain status body fault)) = true ↔
      fault = none ∧ ∃ n, status = some n ∧ n ∉ contractStatuses := by
  cases status <;> cases fault <;> simp [outsideContract, plain]

theorem plain_injective {status status' : Option Int} {body body' : Text}
    {fault fault' : Option Fault} (h : plain status body fault = plain status' body' fault') :
    status = status' ∧ body = body' ∧ fault = fault' := by
  cases status <;> cases status' <;> simp_all [plain]

theorem Noted.unique {classifies : Bool} {reply : Except Fault Answer}
    {notes notes' : List (LogLevel × Option Text)} (h : Noted classifies reply notes)
    (h' : Noted classifies reply notes') : notes = notes' := by
  generalize hreply : reply = reply' at h'
  cases h with
  | unreachable hf hr =>
    cases h' with
    | unreachable hf' hr' =>
      obtain rfl := Except.error.inj hreply
      rw [hr, Option.some.injEq] at hr'
      rw [hr']
    | escaped hf' =>
      obtain rfl := Except.error.inj hreply
      exact absurd hf hf'
    | _ => cases hreply
  | escaped hf =>
    cases h' with
    | unreachable hf' =>
      obtain rfl := Except.error.inj hreply
      exact absurd hf' hf
    | escaped => rfl
    | _ => cases hreply
  | unexpected body hc hn =>
    cases h' with
    | unexpected body' =>
      obtain ⟨hstatus, rfl, -⟩ := plain_injective (Except.ok.inj hreply)
      obtain rfl := Option.some.inj hstatus
      rfl
    | quiet body' hq =>
      obtain ⟨rfl, -, rfl⟩ := plain_injective (Except.ok.inj hreply)
      exact absurd (hq hc rfl _ rfl) hn
    | _ => cases hreply
  | quiet body hq =>
    cases h' with
    | unexpected body' hc hn =>
      obtain ⟨rfl, -, rfl⟩ := plain_injective (Except.ok.inj hreply)
      exact absurd (hq hc rfl _ rfl) hn
    | quiet => rfl
    | _ => cases hreply

theorem Noted.count {s : Step} {reply : Except Fault Answer} {notes : List (LogLevel × Option Text)}
    (h : Noted s.classifies reply notes) (m : Option Text) (level : LogLevel) :
    (((.debug, m) :: notes).map Prod.fst).count level = (level.isNoted s reply).toNat := by
  cases h with
  | @unreachable f reason hf =>
    cases level <;> simp [LogLevel.isNoted, outsideContract, failsOnTheWay, hf]
  | escaped hf => cases level <;> simp [LogLevel.isNoted, outsideContract, failsOnTheWay, hf]
  | @unexpected n body hc hn =>
    have ho : outsideContract (.ok (plain (some n) body none)) = true :=
      outsideContract_plain.mpr ⟨rfl, n, rfl, hn⟩
    cases level <;> simp [LogLevel.isNoted, failsOnTheWay, hc, ho]
  | @quiet status fault body hq =>
    have ho : (s.classifies && outsideContract (.ok (plain status body fault))) = false := by
      rw [Bool.eq_false_iff, ne_eq, Bool.and_eq_true, outsideContract_plain]
      rintro ⟨hc, hfault, n, hn, hout⟩
      exact hout (hq hc hfault n hn)
    cases level <;> simp [LogLevel.isNoted, failsOnTheWay, ho]

namespace Gateway

variable {http : HttpLibrary} {α : Type} {config : Config} {url : Text} {g : Gateway http}
  {s : Step} {c : ValueCommand} {reply : Except Fault Answer}

/-! ## One reply -/

theorem settle_noted (h : PlainReply reply) :
    Noted false reply ((settle reply).logs.map LogEvent.record) := by
  cases h with
  | answered body => exact .quiet body nofun
  | @raised f hf =>
    by_cases hfolds : f.Folds
    · obtain ⟨reason, hr⟩ := hf.text?
      rw [settle_of_folds hfolds, hr]
      exact .unreachable hfolds hr
    · rw [settle_of_not_folds hfolds]
      exact .escaped hfolds

theorem classify_noted {status : Option Int} {fault : Option Fault} (body : Text)
    (hs : ∀ n, status = some n → Integer.Writable n)
    (hf : ∀ f, fault = some f → f.CarriesPlain) (nesting : Nat)
    (parse : Value → Except Fault α) : Noted true (.ok (plain status body fault))
      (((plain status body fault).classify nesting parse).logs.map LogEvent.record) := by
  by_cases hreached : (plain status body fault).reachedNode = false
  · obtain ⟨reason, hr⟩ := exists_reason hf
    rw [classify_unreached hreached hr]
    apply Noted.quiet
    rintro - rfl n rfl
    cases hreached
  · obtain ⟨hstatus, hfault⟩ := not_or.mp (mt reachedNode_plain_eq_false_iff.mpr hreached)
    obtain ⟨n, rfl⟩ := Option.ne_none_iff_exists'.mp hstatus
    obtain rfl := Classical.not_not.mp hfault
    by_cases hn : n ∈ contractStatuses
    · have hlogs : ((plain (some n) body none).classify nesting parse).logs = [] := by
        simp only [contractStatuses, List.mem_cons, List.not_mem_nil, or_false] at hn
        rcases hn with rfl | rfl | rfl | rfl <;> rw [classify_answered] <;> rfl
      rw [hlogs]
      apply Noted.quiet
      rintro - - m hm
      cases hm
      exact hn
    · have hout : n ≠ 200 ∧ n ≠ 400 ∧ n ≠ 401 ∧ n ≠ 500 := by simpa [contractStatuses] using hn
      rw [classify_unexpected (hs n rfl) hout]
      exact .unexpected body rfl hn

theorem settle_classify_noted (h : PlainReply reply) (nesting : Nat)
    (parse : Value → Except Fault α) :
    Noted true reply (((settle reply).logs ++ (settle reply).result.toOption.elim [] fun a =>
      (a.classify nesting parse).logs).map LogEvent.record) := by
  cases h with
  | answered body hs hf => exact classify_noted body hs hf nesting parse
  | @raised f hf =>
    by_cases hfolds : f.Folds
    · obtain ⟨reason, hr⟩ := hf.text?
      have hlogs : ((Answer.ofFault f).classify nesting parse).logs = [] :=
        congrArg Logged.logs (classify_unreached (a := .ofFault f) rfl hr nesting parse)
      simp only [settle_of_folds hfolds, hr, Except.toOption, Option.elim, hlogs]
      exact .unreachable hfolds hr
    · rw [settle_of_not_folds hfolds]
      exact .escaped hfolds

/-! ## Steps -/

theorem call_logs (g : Gateway http) (nesting : Nat) (c : ValueCommand)
    (parse : Value → Except Fault α) :
    (g.call nesting c parse).logs = (g.execute c).logs ++
      (g.execute c).result.toOption.elim [] fun a => (a.classify nesting parse).logs :=
  Trace.andThen_logs ..

theorem perform_logs (g : Gateway http) (nesting : Nat) {op : Operation} (h : op.command = .ok c) :
    (g.perform nesting op).logs = (g.call nesting c (replyParser op.replyKind)).logs := by
  simp only [perform, h, Trace.andThen_logs]
  cases (g.call nesting c (replyParser op.replyKind)).result <;> exact List.append_nil _

variable {r : Recorder} (pow : Bool)

def dispatchRecord (url : Text) (c : ValueCommand) : LogLevel × Option Text :=
  (.debug, (c.label? id).map fun word =>
    ("Dispatching " : Text) ++ word ++ (" to " : Text) ++ url)

theorem record_dispatching (url : Text) (c : ValueCommand) :
    (LogEvent.dispatching (c.label? id) url).record = dispatchRecord url c := by
  unfold LogEvent.record LogEvent.message dispatchRecord
  cases c.label? id <;> rfl

/-- A step that sends a command logs it, and then what is noted of the reply. -/
theorem step_logs (http : HttpLibrary) (hu : config.baseUrl = .ok url) (hr : PlainReply r.reply)
    (hs : s.sends? = some c) :
    ∃ notes, ((recording http config r pow).step s).logs.map LogEvent.record =
        dispatchRecord url c :: notes ∧ Noted s.classifies r.reply notes := by
  have hc := Step.sends?_eq_some_iff.mp hs
  have hexecute := execute_recording (c := c) http r pow hu
  cases s with
  | perform nesting op =>
    have hop : op.command = .ok c := Option.some.inj hc
    refine ⟨_, ?_, settle_classify_noted hr nesting (replyParser op.replyKind)⟩
    rw [step, Trace.map_logs, perform_logs _ _ hop, call_logs, hexecute, ← record_dispatching]
    rfl
  | call nesting d parse =>
    obtain rfl : d = .ok c := Option.some.inj hc
    refine ⟨_, ?_, settle_classify_noted hr nesting parse⟩
    rw [step, Trace.map_logs, call_logs, hexecute, ← record_dispatching]
    rfl
  | execute d =>
    obtain rfl : d = .ok c := Option.some.inj hc
    refine ⟨_, ?_, settle_noted hr⟩
    rw [step, Trace.map_logs, hexecute, ← record_dispatching]
    rfl
  | _ => cases hc

theorem step_logs_none (g : Gateway http) (hs : s.sends? = none) : (g.step s).logs = [] := by
  cases hc : s.command? with
  | none =>
    cases s with
    | perform | call | execute => cases hc
    | _ => rfl
  | some built =>
    cases built with
    | error f =>
      rw [step_command_error g hc]
      rfl
    | ok c =>
      rw [Step.sends?_eq_some_iff.mpr hc] at hs
      cases hs

/-! ## Runs -/

/-- The steps that send a command, each with the reply whose turn it is. -/
def sendings (replies : List (Except Fault Answer)) (steps : List Step) :
    List (Step × Except Fault Answer) :=
  (steps.filter Step.dispatches).mapIdx fun j s => (s, replies[j]?.getD (.ok .empty))

theorem sendings_cons_none (replies : List (Except Fault Answer)) (steps : List Step)
    (hs : s.sends? = none) : sendings replies (s :: steps) = sendings replies steps := by
  have hdispatches : s.dispatches = false := congrArg Option.isSome hs
  simp [sendings, hdispatches]

theorem sendings_cons (r : Recorder) (steps : List Step) (hs : s.sends? = some c) :
    sendings r.replies (s :: steps) = (s, r.reply) :: sendings (r.replies.drop 1) steps := by
  have hdispatches : s.dispatches = true := congrArg Option.isSome hs
  rw [sendings, List.filter_cons_of_pos hdispatches, List.mapIdx_cons]
  simp [sendings, Recorder.reply, List.head?_eq_getElem?]

theorem plainReply_reply (hr : ∀ reply ∈ r.replies, PlainReply reply) : PlainReply r.reply := by
  unfold Recorder.reply
  cases h : r.replies with
  | nil =>
    have writable : ∀ n, some 200 = some n → Integer.Writable n := by
      rintro n ⟨⟩
      decide
    exact @PlainReply.answered (some 200) none _ writable nofun
  | cons reply replies => exact hr reply (h ▸ List.mem_cons_self)

/-- The records of a level are as many as the steps whose replies have one. -/
theorem count_run_logs (http : HttpLibrary) (hu : config.baseUrl = .ok url) (level : LogLevel)
    (hr : ∀ reply ∈ r.replies, PlainReply reply) (steps : List Step) :
    ((((recording http config r pow).run steps).flatMap (·.logs)).map LogEvent.level).count level =
      (sendings r.replies steps).countP fun p => level.isNoted p.1 p.2 := by
  induction steps generalizing r with
  | nil => rfl
  | cons s steps ih =>
    obtain ⟨-, closed, hgateway⟩ := step_recording http hu r pow s
    simp only [run, List.flatMap_cons, List.map_append, List.count_append, hgateway]
    rw [ih fun reply hreply => hr reply (List.mem_of_mem_drop hreply)]
    cases hs : s.sends? with
    | none => simp [step_logs_none _ hs, sendings_cons_none _ _ hs]
    | some c =>
      obtain ⟨notes, hlogs, hnoted⟩ := step_logs pow http hu (plainReply_reply hr) hs
      have hlevels : ((recording http config r pow).step s).logs.map LogEvent.level =
          (((recording http config r pow).step s).logs.map LogEvent.record).map Prod.fst := by
        simp [LogEvent.record, Function.comp_def]
      rw [hlevels, hlogs, dispatchRecord, hnoted.count, sendings_cons r steps hs, List.countP_cons]
      cases level.isNoted s r.reply <;> simp [Nat.add_comm]

/--
The log of a session: the URL of the node once, and then for each step that sends a command the
command and the node, followed by a record that sending failed on the way, or that the status of
the answer is outside the contract, or by none. Other steps log nothing.
-/
theorem session_logs {protocol host port : Text} {replies : List (Except Fault Answer)}
    (closed : Bool) (hp : config.protocol.text? = some protocol)
    (hh : config.host.text? = some host) (hn : config.port.text? = some port)
    (hr : ∀ reply ∈ replies, PlainReply reply) (steps : List Step) :
    let url := protocol ++ ("://" : Text) ++ host ++ (":" : Text) ++ port
    ∃ g : Gateway http,
      withTransport config (.recorder ⟨replies, closed⟩) pow = ⟨.ok g, [.nodeUrl url]⟩ ∧
      (LogEvent.nodeUrl url).record = (.info, some (("Node URL: " : Text) ++ url)) ∧
      (∀ nesting op c, (Step.perform nesting op).sends? = some c ↔ op.command = .ok c) ∧
      (∀ (s : Step) c, s.sends? = some c ↔ s.command? = some (.ok c)) ∧
      (∀ (op : Operation) c, op.command = .ok c → ∃ word, c.label? id = some word) ∧
      (∀ (c : ValueCommand) word, c.command = .word word ∨ c.command = .held (.text word) →
        c.label? id = some word) ∧
      (∀ (i : Nat) (s : Step) (t : Trace http StepValue), steps[i]? = some s →
        (g.run steps)[i]? = some t →
        (s.sends? = none → t.logs = []) ∧
        ∀ c, s.sends? = some c → ∃ notes,
          t.logs.map LogEvent.record = (.debug, (c.label? id).map fun word =>
            ("Dispatching " : Text) ++ word ++ (" to " : Text) ++ url) :: notes ∧
          Noted s.classifies
            (replies[Step.dispatched (steps.take i)]?.getD (.ok .empty)) notes) ∧
      let levels := ((g.run steps).flatMap (·.logs)).map LogEvent.level
      let sent := sendings replies steps
      levels.count .info = 0 ∧ levels.count .debug = sent.length ∧
        levels.count .error = sent.countP (fun p => failsOnTheWay p.2) ∧
        levels.count .warning = sent.countP fun p => p.1.classifies && outsideContract p.2 := by
  intro url
  have hu : config.baseUrl = .ok url :=
    Config.baseUrl_eq_ok_iff.mpr ⟨protocol, host, port, hp, hh, hn, rfl⟩
  have count (level : LogLevel) :=
    count_run_logs pow (r := ⟨replies, closed⟩) http hu level hr steps
  refine ⟨recording http config ⟨replies, closed⟩ pow, announce_eq hu, rfl,
    fun nesting op c => ?_, fun s c => Step.sends?_eq_some_iff,
    fun op c => Operation.label_of_command, fun c word hw => ?_,
    fun i s t hi ht => ?_, ?_, ?_, count .error, count .warning⟩
  · rw [Step.sends?_eq_some_iff]
    exact Option.some_inj
  · rcases hw with hw | hw
    · simp only [Command.label?, hw]
    · simp only [Command.label?, hw]
      rfl
  · obtain ⟨-, closed', hafter⟩ := run_recording http hu ⟨replies, closed⟩ pow (steps.take i)
    rw [run_getElem?, hi, Option.map_some, hafter, Option.some.injEq] at ht
    subst ht
    refine ⟨step_logs_none _, fun c hs => ?_⟩
    have hplain : PlainReply (Recorder.reply
        ⟨replies.drop (Step.dispatched (steps.take i)), closed'⟩) :=
      plainReply_reply fun reply h => hr reply (List.mem_of_mem_drop h)
    obtain ⟨notes, hlogs, hnoted⟩ := step_logs pow http hu hplain hs
    rw [Recorder.reply, List.head?_drop] at hnoted
    exact ⟨notes, hlogs, hnoted⟩
  · exact (count .info).trans (List.countP_eq_zero.mpr fun _ _ => Bool.false_ne_true)
  · exact (count .debug).trans (List.countP_eq_length.mpr fun _ _ => rfl)

/-- A reset is one error, and a status of the node's own one warning with a part of its body. -/
theorem session_logs_reset_and_gone :
    let config : Config := { host := .text "node", port := .int 9 }
    let body : Text := List.replicate 300 (.scalar 'x')
    let replies : List (Except Fault Answer) :=
      [.error (.raised (.standard .connectionReset) [.text "reset"]),
        .ok (plain (some 410) body none)]
    let steps : List Step := [.perform 90 .getTips, .perform 90 (.getTrytes [.null]), .close,
      .perform 90 .getNodeInfo, .execute (.ok (.plain (.word "getTips")))]
    ∃ g : Gateway HttpClient.library,
      withTransport config (.recorder ⟨replies, false⟩) false =
        ⟨.ok g, [.nodeUrl "http://node:9"]⟩ ∧
      (∃ t, (g.run steps)[3]? = some t ∧ t.logs.map LogEvent.record =
        ([(.debug, some "Dispatching getNodeInfo to http://node:9"), (.warning, some
          (("Unexpected status 410 from node: " : Text) ++ List.replicate 200 (.scalar 'x')))] :
          List (LogLevel × Option Text))) ∧
      let levels := ((g.run steps).flatMap (·.logs)).map LogEvent.level
      levels.count .debug = 3 ∧ levels.count .error = 1 ∧ levels.count .warning = 1 := by
  intro config body replies steps
  have hr : ∀ reply ∈ replies, PlainReply reply := by
    refine List.forall_mem_cons.mpr ⟨.raised ?_, List.forall_mem_singleton.mpr ?_⟩
    · exact List.forall_mem_singleton.mpr (.text _)
    · refine .answered body ?_ nofun
      rintro n ⟨⟩
      decide
  obtain ⟨g, hg, -, -, -, -, -, hstep, -, hdebug, herror, hwarning⟩ :=
    @session_logs HttpClient.library config false _ _ _ replies false rfl rfl rfl hr steps
  cases hg
  refine ⟨_, rfl, ⟨_, rfl, ?_⟩, hdebug, herror, hwarning⟩
  obtain ⟨-, hsends⟩ := hstep 3 _ _ rfl rfl
  obtain ⟨notes, hlogs, hnoted⟩ := hsends _ rfl
  rw [hlogs, hnoted.unique (.unexpected body rfl (by decide))]
  rfl

end Gateway

end TangleGateway
