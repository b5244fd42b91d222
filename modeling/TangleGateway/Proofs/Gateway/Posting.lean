import TangleGateway.Proofs.Command.Query
import TangleGateway.Proofs.Gateway.Escape
import TangleGateway.Proofs.Http.Client

/-! # Posting a query

Over an open client of a documented library a query is posted once, unless a text in it has no
bytes. The content of the post is read back to the object of the query, so two posts have the same
content only if they are for the same query.
-/

namespace TangleGateway

/-- The URL of the node is plain, and the version is an ASCII text. -/
structure Config.PostsTo (config : Config) (url : Text) : Prop where
  baseUrl : config.baseUrl = .ok url
  plain : IsPlainUrl url
  version : ∃ version : Text, config.apiVersion = .text version ∧ version.IsAscii

theorem Config.PostsTo.plain_call {config : Config} {url : Text} (h : config.PostsTo url)
    (c : ValueCommand) : (Poster.callOf (config.requestOf url c)).Plain := by
  obtain ⟨version, hv, ha⟩ := h.version
  have hheaders : (Poster.callOf (config.requestOf url c)).headers =
      Poster.baseHeaders ++ [(("X-CVT-API-Version" : Text), Value.text version)] := by
    have hnames : Entries.names
        (Poster.baseHeaders ++ [(("X-CVT-API-Version" : Text), Value.text version)]) =
          ["Content-Type", "Accept", "X-CVT-API-Version"] := rfl
    simp only [Poster.callOf, Config.requestOf, hv]
    exact Entries.putAll_of_nodup (hnames ▸ by decide)
  constructor
  case url => exact h.plain
  all_goals
    rw [hheaders]
    simp only [Poster.baseHeaders, List.cons_append, List.nil_append, List.forall_mem_cons]
  case names => exact ⟨by decide, by decide, by decide, nofun⟩
  case values => exact ⟨⟨_, rfl, by decide⟩, ⟨_, rfl, by decide⟩, ⟨_, rfl, ha⟩, nofun⟩

variable {http : HttpLibrary}

/-! ## Sending over a client -/

namespace Poster

variable {p : Poster http} {r : NodeRequest} {content : List UInt8} {f : Fault}

theorem send_unencodable (hd : http.Documented) (hr : (callOf r).Plain)
    (he : http.encode r.payload = .error f) :
    ∃ c, http.Alike p.client c ∧ p.send r = ⟨.error f, [], .poster ⟨c, p.network⟩⟩ := by
  obtain ⟨c, hc, hpost⟩ := hd.post_unencodable p.client p.network hr he
  refine ⟨c, hc, ?_⟩
  simp only [send, hpost]
  rfl

theorem send_closed (hd : http.Documented) (hr : (callOf r).Plain)
    (he : http.encode r.payload = .ok content) (hc : http.isClosed p.client = true) :
    ∃ c, http.Alike p.client c ∧
      p.send r = ⟨.error .clientClosed, [], .poster ⟨c, p.network⟩⟩ := by
  obtain ⟨c, hc, hpost⟩ := hd.post_closed p.network hr he hc
  refine ⟨c, hc, ?_⟩
  simp only [send, hpost]
  rfl

theorem send_open (hd : http.Documented) (hr : (callOf r).Plain)
    (he : http.encode r.payload = .ok content) (hc : http.isClosed p.client = false) :
    ∃ post c, http.Alike p.client c ∧ post.content = content ∧
      post.timeouts = http.timeouts p.client ∧
      p.send r = ⟨p.network.next.map http.respond >>= answerOf, [.posted post],
        .poster ⟨c, p.network.tail⟩⟩ := by
  obtain ⟨post, c, hc, hcontent, htimeouts, hpost⟩ := hd.post_open p.network hr he hc
  refine ⟨post, c, hc, hcontent, htimeouts, ?_⟩
  simp only [send, hpost]
  rfl

end Poster

namespace Gateway

variable {g : Gateway http} {p : Poster http} {c : ValueCommand} {url : Text}
  {content : List UInt8} {f : Fault}

theorem execute_poster (ht : g.transport = .poster p) (hu : g.config.baseUrl = .ok url)
    {sending : Sending http} (hsend : p.send (g.config.requestOf url c) = sending) :
    (g.execute c).result = (settle sending.answer).result ∧
      (g.execute c).requests = sending.sent ∧
      (g.execute c).gateway = { g with transport := sending.transport } := by
  rw [execute_eq_dispatch hu, dispatch_eq, ht, Transport.send, hsend]
  exact ⟨rfl, rfl, rfl⟩

/-- A payload that is not encoded is not posted, whether the client is closed or open. -/
theorem execute_unencodable (hd : http.Documented) (ht : g.transport = .poster p)
    (hu : g.config.PostsTo url) (he : http.encode (.dict (c.payload id)) = .error f) :
    (g.execute c).result = (settle (.error f)).result ∧ (g.execute c).requests = [] := by
  obtain ⟨c', -, hsend⟩ := Poster.send_unencodable (p := p) hd (hu.plain_call c) he
  obtain ⟨hresult, hrequests, -⟩ := execute_poster ht hu.baseUrl hsend
  exact ⟨hresult, hrequests⟩

theorem execute_closed (hd : http.Documented) (ht : g.transport = .poster p)
    (hu : g.config.PostsTo url) (he : http.encode (.dict (c.payload id)) = .ok content)
    (hc : http.isClosed p.client = true) :
    (g.execute c).result = .error .clientClosed ∧ (g.execute c).requests = [] := by
  obtain ⟨c', -, hsend⟩ := Poster.send_closed hd (hu.plain_call c) he hc
  obtain ⟨hresult, hrequests, -⟩ := execute_poster ht hu.baseUrl hsend
  refine ⟨hresult.trans ?_, hrequests⟩
  rw [settle_of_not_folds (by decide)]

/-- Over an open client an encoded payload is posted, and the network's reply is settled. -/
theorem execute_open (hd : http.Documented) (ht : g.transport = .poster p)
    (hu : g.config.PostsTo url) (he : http.encode (.dict (c.payload id)) = .ok content)
    (hc : http.isClosed p.client = false) :
    (g.execute c).result =
        (settle (p.network.next.map http.respond >>= Poster.answerOf)).result ∧
      ∃ post, (g.execute c).requests = [.posted post] ∧ post.content = content ∧
        post.timeouts = http.timeouts p.client := by
  obtain ⟨post, c', -, hcontent, htimeouts, hsend⟩ :=
    Poster.send_open hd (hu.plain_call c) he hc
  obtain ⟨hresult, hrequests, -⟩ := execute_poster ht hu.baseUrl hsend
  exact ⟨hresult, post, hrequests, hcontent, htimeouts⟩

/-- The gateway posts to its node over a client that is open. -/
structure Posts (g : Gateway http) : Prop where
  client : ∃ p, g.transport = .poster p ∧ http.isClosed p.client = false
  url : ∃ url, g.config.PostsTo url

theorem Posts.requests (hd : http.Documented) (hg : g.Posts)
    (he : http.encode (.dict (c.payload id)) = .ok content) :
    ∃ post, (g.execute c).requests = [.posted post] ∧ post.content = content := by
  obtain ⟨p, ht, hc⟩ := hg.client
  obtain ⟨url, hu⟩ := hg.url
  obtain ⟨-, post, hrequests, hcontent, -⟩ := execute_open hd ht hu he hc
  exact ⟨post, hrequests, hcontent⟩

theorem Posts.unencodable (hd : http.Documented) (hg : g.Posts)
    (he : http.encode (.dict (c.payload id)) = .error f) :
    (g.execute c).result = (settle (.error f)).result ∧ (g.execute c).requests = [] := by
  obtain ⟨p, ht, -⟩ := hg.client
  obtain ⟨url, hu⟩ := hg.url
  exact execute_unencodable hd ht hu he

theorem settle_unencodable (hf : f.cls = .standard .unencodable) :
    settle (.error f) = ⟨.error f, []⟩ := by
  refine settle_of_not_folds ?_
  rw [Fault.Folds, hf]
  decide

theorem Posts.posted_or_refused (hd : http.Documented) (hg : g.Posts)
    (hs : Json.Shallow 3 (.dict (c.payload id))) {t : Text}
    (hw : Json.write (.dict (c.payload id)) = .ok t) :
    (Json.Encodable (.dict (c.payload id)) ∧ ∃ post, (g.execute c).requests = [.posted post]) ∨
      (¬ Json.Encodable (.dict (c.payload id)) ∧ (g.execute c).requests = [] ∧
        ∃ f, (g.execute c).result = .error f ∧ f.cls = .standard .unencodable) := by
  rcases hd.encode_cases hs hw with ⟨h, content, he⟩ | ⟨h, f, hf, hcls⟩
  · obtain ⟨post, hpost, -⟩ := hg.requests hd he
    exact .inl ⟨h, post, hpost⟩
  · obtain ⟨hresult, hrequests⟩ := hg.unencodable hd hf
    rw [settle_unencodable hcls] at hresult
    exact .inr ⟨h, hrequests, f, hresult, hcls⟩

/-! ## Queries -/

variable {q : Query}

theorem Posts.query_content (hd : http.Documented) (hg : g.Posts) (hp : c.payload id = q.object)
    {post : HttpPost} (hpost : .posted post ∈ (g.execute c).requests) :
    (g.execute c).requests = [.posted post] ∧
      ∃ t, Json.write (.dict q.object) = .ok t ∧ Utf8.encode? t = some post.content := by
  cases he : http.encode (.dict (c.payload id)) with
  | error f =>
    rw [(hg.unencodable hd he).2] at hpost
    cases hpost
  | ok content =>
    obtain ⟨post', hrequests, hcontent⟩ := hg.requests hd he
    rw [hrequests] at hpost ⊢
    obtain rfl : post = post' := by simpa using hpost
    rw [hcontent, ← hp]
    exact ⟨rfl, hd.encode_compact he⟩

theorem decodeBody_query (hq : q.Writable) {t : Text} (hw : Json.write (.dict q.object) = .ok t)
    {content : List UInt8} (hc : Utf8.encode? t = some content) {nesting : Nat}
    (hn : 2 ≤ nesting) :
    Json.read nesting t = .ok (.dict q.object) ∧
      Answer.decodeBody nesting (.bytes content) = .ok (.dict q.object) := by
  have hportable := (Query.portable_object hq).mono hn
  obtain ⟨t', hw', -, hread⟩ := Json.read_write hportable
  obtain rfl := Except.ok.inj (hw.symm.trans hw')
  exact ⟨hread, Json.decodeBody_object hportable hw hc⟩

/--
A query is posted at most once, and not at all only if a text in it has no bytes. What is posted is
JSON in UTF-8 that is read back to its object: the word of the command, and each field that is
given. Whatever gateway posts the same content posts the same query.
-/
theorem posted_query_round_trip (hd : http.Documented) (hg : g.Posts) (hq : q.Writable) :
    ∃ c, q.recipe.ofValues = .ok c ∧
      (∀ s : Step, s.command? = some (.ok c) → (g.step s).requests = (g.execute c).requests) ∧
      ((∃ post, (g.execute c).requests = [.posted post]) ↔ ∀ t ∈ q.texts, t.IsScalar) ∧
      (¬ (∀ t ∈ q.texts, t.IsScalar) → (g.execute c).requests = [] ∧
        ∃ f, (g.execute c).result = .error f ∧ f.cls = .standard .unencodable) ∧
      (∀ post, .posted post ∈ (g.execute c).requests →
        (g.execute c).requests = [.posted post] ∧
        ∃ t, Json.write (.dict q.object) = .ok t ∧ Utf8.encode? t = some post.content ∧
          ∀ nesting, 2 ≤ nesting → Json.read nesting t = .ok (.dict q.object) ∧
            Answer.decodeBody nesting (.bytes post.content) = .ok (.dict q.object)) ∧
      q.object = (("command" : Text), .text q.kind.word) :: Entries.present q.fields ∧
      q.fields.names = q.kind.fieldNames.map Text.ofString ∧
      (∀ f ∈ q.fields, q.object.get? f.1 = f.2) ∧
      ∀ post, .posted post ∈ (g.execute c).requests →
        ∀ {g' : Gateway http} {q' : Query} c' post', g'.Posts → q'.Writable →
          q'.recipe.ofValues = .ok c' → .posted post' ∈ (g'.execute c').requests →
          post'.content = post.content → q' = q := by
  obtain ⟨c, hc, -, hp⟩ := q.ofValues_recipe
  have hportable := (Query.portable_object hq).mono (Nat.le_succ 2)
  obtain ⟨t, hw, -⟩ := Json.read_write hportable
  have posted_or_refused := hg.posted_or_refused hd (hp ▸ hportable.shallow) (hp ▸ hw)
  rw [hp, Query.encodable_object_iff] at posted_or_refused
  refine ⟨c, hc, fun s hs => (step_command_ok g hs).1, ?_, fun h => ?_, fun post hpost => ?_, rfl,
    ?_, ?_, ?_⟩
  · rcases posted_or_refused with ⟨h, hposted⟩ | ⟨h, hnone, -⟩
    · exact iff_of_true hposted h
    · rw [hnone]
      exact iff_of_false nofun h
  · exact (posted_or_refused.resolve_left fun posted => h posted.1).2
  · obtain ⟨hone, t, hw, hcontent⟩ := hg.query_content hd hp hpost
    exact ⟨hone, t, hw, hcontent, fun nesting hn => decodeBody_query hq hw hcontent hn⟩
  · exact (List.cons.inj q.names_entries).2
  · exact fun f hf => q.get?_object (List.mem_cons_of_mem _ hf)
  · -- the other post is read back as well, to the object of its own query
    intro post hpost g' q' c' post' hg' hq' hc' hpost' hcontent
    obtain ⟨d, hd', -, hp'⟩ := q'.ofValues_recipe
    obtain rfl := Except.ok.inj (hc'.symm.trans hd')
    obtain ⟨-, t, hw, ht⟩ := hg.query_content hd hp hpost
    obtain ⟨-, t', hw', ht'⟩ := hg'.query_content hd hp' hpost'
    have hread := (decodeBody_query hq hw ht (Nat.le_refl 2)).2
    have hread' := (decodeBody_query hq' hw' ht' (Nat.le_refl 2)).2
    rw [hcontent, hread] at hread'
    exact (Query.object_injective (Value.dict.inj (Except.ok.inj hread'))).symm

/-- A gateway with a client of its own that is open. -/
def fresh (network : Network) : Gateway HttpClient.library :=
  ⟨{}, .poster ⟨⟨⟨.null, .null, .null, .null⟩, false⟩, network⟩, true, false⟩

theorem isPlainUrl_localhost : IsPlainUrl "http://localhost:14265" :=
  ⟨"localhost", 14265, .name (by decide) (by decide), by decide⟩

theorem posts_fresh (network : Network) : (fresh network).Posts where
  client := ⟨_, rfl, rfl⟩
  url := ⟨_, rfl, isPlainUrl_localhost, "1", rfl, by decide⟩

/--
A filter that is empty is posted and one that is not given is not, so the contents differ. A hash
with half of a surrogate pair is not posted.
-/
theorem posted_query_empty_filter :
    let g := fresh []
    let approvees : List Text := ["", "\"\\\n\x7f\u2028😀"]
    let q : Query := .findTransactions ⟨none, some [], some approvees, none⟩
    let q' : Query := .findTransactions ⟨none, none, some approvees, none⟩
    (∃ c post, q.recipe.ofValues = .ok c ∧ (g.execute c).requests = [.posted post] ∧
      Answer.decodeBody 2 (.bytes post.content) = .ok (.dict [("command", .text "findTransactions"),
        ("tags", .list []), ("approvees", .list (approvees.map .text))]) ∧
      ∀ c' post', q'.recipe.ofValues = .ok c' → (g.execute c').requests = [.posted post'] →
        post'.content ≠ post.content) ∧
    ∃ c, (Query.getTrytes [[.surrogate 0]]).recipe.ofValues = .ok c ∧
      (g.execute c).requests = [] := by
  intro g approvees q q'
  have hd := HttpClient.documented_library
  have hg : g.Posts := posts_fresh []
  have hq : q.Writable := trivial
  have hq' : q'.Writable := trivial
  constructor
  · obtain ⟨c, hc, -, hposted, -, hcontent, -, -, -, other⟩ := posted_query_round_trip hd hg hq
    have hscalar : ∀ t ∈ q.texts, t.IsScalar := by
      change ∀ t ∈ approvees, t.IsScalar
      simp only [approvees, List.forall_mem_cons]
      exact ⟨⟨_, rfl⟩, ⟨_, rfl⟩, nofun⟩
    obtain ⟨post, hpost⟩ := hposted.mpr hscalar
    have hmem : .posted post ∈ (g.execute c).requests := hpost ▸ List.mem_singleton_self _
    obtain ⟨-, t, -, -, hread⟩ := hcontent post hmem
    refine ⟨c, post, hc, hpost, (hread 2 (Nat.le_refl 2)).2, fun c' post' hc' hpost' hsame => ?_⟩
    have hmem' : .posted post' ∈ (g.execute c').requests := hpost' ▸ List.mem_singleton_self _
    have hsame := Query.findTransactions.inj (other post hmem c' post' hg hq' hc' hmem' hsame)
    obtain ⟨-, htags, -⟩ := Filters.mk.inj hsame
    cases htags
  · obtain ⟨c, hc, -, -, hrefused, -⟩ :=
      posted_query_round_trip (q := .getTrytes [[.surrogate 0]]) hd hg trivial
    refine ⟨c, hc, (hrefused fun h => ?_).1⟩
    obtain ⟨cs, hcs⟩ := h _ (List.mem_singleton_self _)
    cases cs <;> cases hcs

end Gateway

end TangleGateway
