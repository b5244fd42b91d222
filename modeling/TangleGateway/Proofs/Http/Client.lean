import TangleGateway.Http.Client
import TangleGateway.Proofs.Http.Documented
import TangleGateway.Proofs.Text.ContentType

/-! # The client keeps the laws

A call with plain headers fails for its content alone, and a body without a charset is read as one
in UTF-8.
-/

namespace TangleGateway.HttpClient

/-! ## Contents -/

theorem encode_eq_ok_iff {v : Value} {content : List UInt8} :
    encode v = .ok content ↔ ∃ t, Json.write v = .ok t ∧ Utf8.encode? t = some content := by
  simp only [encode, Except.bind_eq_ok_iff, Except.mapError_eq_ok_iff]
  refine exists_congr fun t => and_congr_right fun _ => ?_
  cases Utf8.encode? t with
  | none => exact iff_of_false nofun nofun
  | some bytes => exact ⟨fun h => congrArg some (Except.ok.inj h), fun h => h ▸ rfl⟩

theorem encode_half {v : Value} {t : Text} (hw : Json.write v = .ok t)
    (hc : Utf8.encode? t = none) :
    ∃ f, encode v = .error f ∧ f.cls = .standard .unencodable := by
  refine ⟨.unencodableIn "utf-8" "surrogates not allowed" isSurrogate t, ?_, rfl⟩
  simp only [encode, hw, Except.mapError_ok, Except.ok_bind_eq, hc]
  rfl

/-! ## Bodies -/

theorem asciiText_of_isAscii {t : Text} (h : t.IsAscii) : asciiText t = .ok t :=
  if_pos (List.all_eq_true.mpr fun c hc => decide_eq_true (h c hc))

theorem charsetOf_utf8 : ContentType.charsetOf (some "utf-8") = .ok .utf8 := by
  have hname : Charset.ofName? "utf-8" = some .utf8 := by decide +kernel
  rw [ContentType.charsetOf, hname]
  rfl

theorem readBody_eq {r : HttpReply} {name : Option Text} (h : charset r.contentType = .ok name)
    (hn : ContentType.charsetOf name = .ok .utf8) :
    readBody r = .ok (Utf8.decodeLossy r.body) := by
  have hlossy : ((Charset.utf8.readBody r.body).lossy).mapError CharsetFault.fault =
      .ok (Utf8.decodeLossy r.body) :=
    Except.mapError_eq_ok_iff.mpr (Charset.lossy_readUtf8 r.body)
  unfold readBody
  split
  · rename_i hb
    rw [List.isEmpty_iff.mp hb]
    rfl
  · rw [h, Except.ok_bind_eq, hn]
    exact hlossy

/-- A charset is found in a content type only if that is ASCII. -/
theorem exists_asciiText {contentType name : Option Text} (h : charset contentType = .ok name) :
    ∃ t, contentType.elim (.ok []) asciiText = .ok t := by
  cases contentType with
  | none => exact ⟨[], rfl⟩
  | some t =>
    obtain ⟨t', ht, -⟩ := Except.bind_eq_ok_iff.mp h
    exact ⟨t', ht⟩

theorem respond_utf8 {r : HttpReply}
    (h : charset r.contentType = .ok none ∨ charset r.contentType = .ok (some "utf-8")) :
    respond r = ⟨r.status, .ok (Utf8.decodeLossy r.body)⟩ := by
  obtain ⟨name, hc, hn⟩ : ∃ name, charset r.contentType = .ok name ∧
      ContentType.charsetOf name = .ok .utf8 := by
    rcases h with h | h
    · exact ⟨_, h, rfl⟩
    · exact ⟨_, h, charsetOf_utf8⟩
  obtain ⟨t, ht⟩ := exists_asciiText hc
  rw [respond, ht, Except.ok_bind_eq, readBody_eq hc hn]

theorem charset_of_isUtf8 {contentType : Option Text} (h : ContentType.IsUtf8 contentType) :
    charset contentType = .ok none ∨ charset contentType = .ok (some "utf-8") := by
  cases contentType with
  | none => exact .inl rfl
  | some t =>
    rw [charset, asciiText_of_isAscii h.isAscii, Except.ok_bind_eq]
    exact h.charsetName.imp Except.mapError_eq_ok_iff.mpr Except.mapError_eq_ok_iff.mpr

/-! ## Posts -/

theorem exists_headerTexts {headers : Entries Value}
    (h : ∀ h ∈ headers, ∃ t : Text, h.2 = .text t ∧ t.IsAscii) :
    ∃ texts, headerTexts headers = .ok texts := by
  induction headers with
  | nil => exact ⟨[], rfl⟩
  | cons header headers ih =>
    obtain ⟨name, v⟩ := header
    obtain ⟨⟨t, rfl, ht⟩, hheaders⟩ := List.forall_mem_cons.mp h
    obtain ⟨texts, htexts⟩ := ih hheaders
    refine ⟨(name, t) :: texts, ?_⟩
    rw [headerTexts, headerText, asciiText_of_isAscii ht, htexts]
    rfl

variable {c : HttpClient} {network : Network} {call : PostCall} {content : List UInt8} {f : Fault}

theorem post_unencodable (hp : call.Plain) (he : encode call.json = .error f) :
    post c network call = ⟨.error f, [], c, network⟩ := by
  obtain ⟨headers, hh⟩ := exists_headerTexts hp.values
  have hr : request c.timeouts call = .error f := by
    rw [request, hh, he]
    rfl
  simp only [post, hr]

theorem post_encodable (hp : call.Plain) (he : encode call.json = .ok content) :
    ∃ p, p.content = content ∧ p.timeouts = c.timeouts ∧ post c network call =
      if c.closed then ⟨.error .clientClosed, [], c, network⟩
      else ⟨network.next.map respond, [p], c, network.tail⟩ := by
  obtain ⟨headers, hh⟩ := exists_headerTexts hp.values
  have hr : request c.timeouts call = .ok ⟨call.url, headers, content, c.timeouts⟩ := by
    rw [request, hh, he]
    rfl
  refine ⟨⟨call.url, headers, content, c.timeouts⟩, rfl, rfl, ?_⟩
  simp only [post, hr]

theorem encode_of_mem_sent {p : HttpPost} (h : p ∈ (post c network call).sent) :
    encode call.json = .ok p.content := by
  unfold post at h
  split at h
  · cases h
  · rename_i q hq
    split at h
    · cases h
    · obtain rfl := List.mem_singleton.mp h
      obtain ⟨headers, -, hq⟩ := Except.bind_eq_ok_iff.mp hq
      obtain ⟨content, hc, hq⟩ := Except.bind_eq_ok_iff.mp hq
      cases hq
      exact hc

theorem make_times {connect read : Value} (h : read.IsTime) :
    make connect read = .ok ⟨⟨connect, read, read, read⟩, false⟩ := by
  cases h <;> rfl

theorem documented_library : library.Documented where
  make_times _ hr := ⟨_, make_times hr, rfl, rfl⟩
  isClosed_close _ := rfl
  timeouts_close _ := rfl
  encode_compact h := encode_eq_ok_iff.mp h
  encode_written _ hw hc := encode_eq_ok_iff.mpr ⟨_, hw, hc⟩
  encode_half _ hw hc := encode_half hw hc
  respond_utf8 := respond_utf8
  post_unencodable c _ _ _ hp he := ⟨c, ⟨rfl, rfl⟩, post_unencodable hp he⟩
  post_closed {c} _ _ _ hp he hc := by
    obtain ⟨p, -, -, hpost⟩ := post_encodable hp he
    exact ⟨c, ⟨rfl, rfl⟩, hpost.trans (if_pos hc)⟩
  post_open {c} _ _ _ hp he hc := by
    obtain ⟨p, hcontent, htimeouts, hpost⟩ := post_encodable hp he
    exact ⟨p, c, ⟨rfl, rfl⟩, hcontent, htimeouts,
      hpost.trans (if_neg (Bool.eq_false_iff.mp hc))⟩
  encode_of_mem_sent := encode_of_mem_sent

end TangleGateway.HttpClient
