import TangleGateway.Http.Library
import TangleGateway.Number.Integer
import TangleGateway.Proofs.Json.Bytes

/-! # What a library documents

All that a gateway relies on when it posts over the clients of a library. The laws speak of calls
with a plain URL and plain headers. They leave open what a client keeps to itself, how values that
nest deeper are written and how bodies in other charsets are read.
-/

namespace TangleGateway

inductive Value.IsTime : Value → Prop where
  | int (i : Int) : IsTime (.int i)
  | float (x : Binary64) : IsTime (.float x)

def Text.IsAscii (t : Text) : Prop :=
  ∀ c ∈ t, c.toNat < 0x80

instance (t : Text) : Decidable t.IsAscii :=
  inferInstanceAs (Decidable (∀ c ∈ t, c.toNat < 0x80))

/-! ## Plain calls -/

def isHostSign : CodePoint → Bool
  | .scalar c => c.isAlphanum || c = '.' || c = '-'
  | .surrogate _ => false

/-- A name that starts with a letter, or an address of four bytes. -/
inductive IsPlainHost : Text → Prop where
  | name {first : Char} {rest : Text} : first.isAlpha = true → (∀ c ∈ rest, isHostSign c = true) →
      IsPlainHost (.scalar first :: rest)
  | address (a b c d : UInt8) :
      IsPlainHost (Integer.text a.toNat ++ ("." : Text) ++ Integer.text b.toNat ++ ("." : Text) ++
        Integer.text c.toNat ++ ("." : Text) ++ Integer.text d.toNat)

def IsPlainUrl (url : Text) : Prop :=
  ∃ (host : Text) (port : UInt16), IsPlainHost host ∧
    url = ("http://" : Text) ++ host ++ (":" : Text) ++ Integer.text port.toNat

def isNameSign : CodePoint → Bool
  | .scalar c => c.isAlpha || c = '-'
  | .surrogate _ => false

structure PostCall.Plain (call : PostCall) : Prop where
  url : IsPlainUrl call.url
  names : ∀ h ∈ call.headers, ∀ c ∈ h.1, isNameSign c = true
  values : ∀ h ∈ call.headers, ∃ t : Text, h.2 = .text t ∧ t.IsAscii

/-! ## The laws -/

open Json (Shallow Encodable)

namespace HttpLibrary

/-- A client with the same times, closed if the other one is. -/
structure Alike (http : HttpLibrary) (c c' : http.Client) : Prop where
  isClosed : http.isClosed c' = http.isClosed c
  timeouts : http.timeouts c' = http.timeouts c

structure Documented (http : HttpLibrary) : Prop where
  -- clients
  make_times {connect read : Value} : connect.IsTime → read.IsTime →
    ∃ c, http.make connect read = .ok c ∧ http.isClosed c = false ∧
      http.timeouts c = ⟨connect, read, read, read⟩
  isClosed_close (c : http.Client) : http.isClosed (http.close c) = true
  timeouts_close (c : http.Client) : http.timeouts (http.close c) = http.timeouts c
  -- contents
  encode_compact {v : Value} {content : List UInt8} : http.encode v = .ok content →
    ∃ t, Json.write v = .ok t ∧ Utf8.encode? t = some content
  encode_written {v : Value} {t : Text} {content : List UInt8} : Shallow 3 v →
    Json.write v = .ok t → Utf8.encode? t = some content → http.encode v = .ok content
  encode_half {v : Value} {t : Text} : Shallow 3 v →
    Json.write v = .ok t → Utf8.encode? t = none →
    ∃ f, http.encode v = .error f ∧ f.cls = .standard .unencodable
  -- bodies
  respond_utf8 {r : HttpReply} :
    http.charset r.contentType = .ok none ∨ http.charset r.contentType = .ok (some "utf-8") →
    http.respond r = ⟨r.status, .ok (Utf8.decodeLossy r.body)⟩
  -- posts
  post_unencodable (c : http.Client) (network : Network) {call : PostCall} {f : Fault} :
    call.Plain → http.encode call.json = .error f →
    ∃ c', http.Alike c c' ∧ http.post c network call = ⟨.error f, [], c', network⟩
  post_closed {c : http.Client} (network : Network) {call : PostCall} {content : List UInt8} :
    call.Plain → http.encode call.json = .ok content → http.isClosed c = true →
    ∃ c', http.Alike c c' ∧ http.post c network call = ⟨.error .clientClosed, [], c', network⟩
  post_open {c : http.Client} (network : Network) {call : PostCall} {content : List UInt8} :
    call.Plain → http.encode call.json = .ok content → http.isClosed c = false →
    ∃ p c', http.Alike c c' ∧ p.content = content ∧ p.timeouts = http.timeouts c ∧
      http.post c network call = ⟨network.next.map http.respond, [p], c', network.tail⟩
  encode_of_mem_sent {c : http.Client} {network : Network} {call : PostCall} {p : HttpPost} :
    p ∈ (http.post c network call).sent → http.encode call.json = .ok p.content

theorem Documented.encode_cases {http : HttpLibrary} (hd : http.Documented) {v : Value}
    (hs : Shallow 3 v) {t : Text} (hw : Json.write v = .ok t) :
    (Encodable v ∧ ∃ content, http.encode v = .ok content) ∨
      (¬ Encodable v ∧ ∃ f, http.encode v = .error f ∧ f.cls = .standard .unencodable) := by
  rw [← hs.isScalar_write_iff hw, Text.isScalar_iff_encode?]
  cases hc : Utf8.encode? t with
  | some content => exact .inl ⟨⟨content, rfl⟩, content, hd.encode_written hs hw hc⟩
  | none => exact .inr ⟨nofun, hd.encode_half hs hw hc⟩

end HttpLibrary

end TangleGateway
