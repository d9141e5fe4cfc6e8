import LeastPrivilege.Proofs.BrokerReply
import LeastPrivilege.Proofs.Encoding
import LeastPrivilege.Proofs.Parts

/-!
Requests do not share addresses. The key of a request fills the last segment of its address: the
segment has no reserved character, so the address is split where the request's route ends, and it
spells the key and no other (`Text.percentDecode?_percentEncode`). The routes of two operations
differ, so an address gives back the operation and the key (`Broker.url_exact`). The address is the
one that is handed to the web.
-/

namespace LeastPrivilege

/-! ## Segments -/

namespace Text

/-- Characters that mean something in an address. -/
def reserved : List Char :=
  [':', '/', '?', '#', '[', ']', '@', '!', '$', '&', '\x27', '(', ')', '*', '+', ',', ';', '=']

/-- The bytes that a segment spells, two digits behind a percent sign to a byte. Outside ASCII no
character spells one, nor does a percent sign without digits. -/
def percentBytes? : Text → Option (List UInt8)
  | [] => some []
  | .char '%' :: high :: low :: rest => do
    let high ← hexValue? high
    let low ← hexValue? low
    (percentBytes? rest).map (UInt8.ofNat (16 * high + low) :: ·)
  | c :: rest =>
    if c.toNat < 128 ∧ c ≠ .char '%' then
      (percentBytes? rest).map (UInt8.ofNat c.toNat :: ·)
    else none

/-- The text whose UTF-8 bytes a segment spells. -/
def percentDecode? (segment : Text) : Option Text := do
  let bytes ← percentBytes? segment
  let cs ← bytes.toByteArray.utf8Decode?
  return cs.toList.map .char

/-! ### Bytes -/

theorem percentByte_eq (b : UInt8) : percentByte b.toNat =
    [.char '%', .char (digitChar (b.toNat / 16)).toUpper,
      .char (digitChar (b.toNat % 16)).toUpper] := by
  have hb : b.toNat < 16 ^ (1 + 1) := b.toNat_lt
  have hhigh : b.toNat / 16 % 16 = b.toNat / 16 := by
    apply Nat.mod_eq_of_lt
    omega
  rw [percentByte, hex_eq hb]
  simp [lastHexDigits, expand, hhigh]

theorem percentBytes?_percentByte (b : UInt8) (rest : Text) :
    percentBytes? (percentByte b.toNat ++ rest) = (percentBytes? rest).map (b :: ·) := by
  have hb : b.toNat < 256 := b.toNat_lt
  have hvalue : 16 * (b.toNat / 16) + b.toNat % 16 = b.toNat := by omega
  rw [percentByte_eq]
  simp only [List.cons_append, List.nil_append, percentBytes?]
  rw [hexValue?_capital _ (by omega), hexValue?_capital _ (by omega)]
  show (percentBytes? rest).map (UInt8.ofNat (16 * (b.toNat / 16) + b.toNat % 16) :: ·) = _
  rw [hvalue, UInt8.ofNat_toNat]

theorem percentBytes?_percentBytes (bytes : List UInt8) (rest : Text) :
    percentBytes? (bytes.flatMap (fun b => percentByte b.toNat) ++ rest)
      = (percentBytes? rest).map (bytes ++ ·) := by
  induction bytes with
  | nil => simp
  | cons b bytes ih =>
    rw [List.flatMap_cons, List.append_assoc, percentBytes?_percentByte, ih, Option.map_map]
    rfl

/-! ### Characters -/

theorem lt_of_isUnreserved {c : Char} (h : isUnreserved c = true) : c.toNat < 128 := by
  simp only [isUnreserved, Bool.or_eq_true, beq_iff_eq] at h
  rcases h with (((h | rfl) | rfl) | rfl) | rfl
  · unfold Char.isAlphanum Char.isAlpha Char.isUpper Char.isLower Char.isDigit at h
    simp only [Bool.or_eq_true, Bool.and_eq_true, decide_eq_true_eq, ge_iff_le,
      UInt32.le_iff_toNat_le] at h
    rcases h with (⟨-, h⟩ | ⟨-, h⟩) | ⟨-, h⟩
    · exact Nat.lt_of_le_of_lt h (by decide)
    · exact Nat.lt_of_le_of_lt h (by decide)
    · exact Nat.lt_of_le_of_lt h (by decide)
  all_goals decide

/-- Neither a reserved character nor a percent sign stands for itself. -/
theorem not_reserved_of_isUnreserved {c : Char} (h : isUnreserved c = true) :
    c ∉ '%' :: reserved := by
  intro hc
  have hmarks : ('%' :: reserved).all (!isUnreserved ·) = true := by decide
  have hc := List.all_eq_true.mp hmarks c hc
  rw [h] at hc
  cases hc

theorem percentBytes?_unreserved {c : Char} (h : isUnreserved c = true) (rest : Text) :
    percentBytes? (.char c :: rest) = (percentBytes? rest).map (UInt8.ofNat c.toNat :: ·) := by
  have hlt : (CodePoint.char c).toNat < 128 := lt_of_isUnreserved h
  have hne : CodePoint.char c ≠ .char '%' := by
    intro e
    cases e
    exact not_reserved_of_isUnreserved h List.mem_cons_self
  rw [percentBytes?, if_pos ⟨hlt, hne⟩]
  · rfl
  · intro _ _ _ e
    exact absurd e hne

/-- What is written for a character spells its bytes. -/
theorem percentBytes?_percentCodePoint (c : Char) (rest : Text) :
    percentBytes? (percentCodePoint (.char c) ++ rest)
      = (percentBytes? rest).map (String.utf8EncodeChar c ++ ·) := by
  rw [percentCodePoint]
  split
  · rename_i h
    have hbyte : String.utf8EncodeChar c = [UInt8.ofNat c.toNat] := by
      have hlt := lt_of_isUnreserved h
      exact if_pos (Nat.le_of_lt_succ hlt)
    rw [hbyte]
    exact percentBytes?_unreserved h rest
  · exact percentBytes?_percentBytes _ rest

theorem percentBytes?_percentEncode (cs : List Char) :
    percentBytes? (percentEncode (cs.map .char)) = some (cs.flatMap String.utf8EncodeChar) := by
  induction cs with
  | nil => rfl
  | cons c rest ih =>
    rw [percentEncode] at ih ⊢
    rw [List.map_cons, List.flatMap_cons, percentBytes?_percentCodePoint, ih, List.flatMap_cons]
    rfl

/-- A text reads back from its segment. -/
theorem percentDecode?_percentEncode {t : Text} (h : t.IsEncodable) :
    percentDecode? (percentEncode t) = some t := by
  obtain ⟨s, rfl⟩ := h.exists_string
  have hbytes : (s.toList.flatMap String.utf8EncodeChar).toByteArray.utf8Decode?
      = some s.toList.toArray := List.utf8Decode?_utf8Encode
  rw [percentDecode?, ofString, percentBytes?_percentEncode]
  show (((s.toList.flatMap String.utf8EncodeChar).toByteArray.utf8Decode?).bind _) = _
  rw [hbytes]
  rfl

/-- A segment has no reserved character. -/
theorem not_reserved_of_mem {t : Text} (h : t.IsEncodable) {c : CodePoint}
    (hc : c ∈ percentEncode t) : ∀ a ∈ reserved, c ≠ .char a := by
  have hdigit : ∀ d < 16, (digitChar d).toUpper ∉ reserved := by decide
  have hpercent : '%' ∉ reserved := by decide
  have hchar {a : Char} (ha : a ∉ reserved) : ∀ a' ∈ reserved, CodePoint.char a ≠ .char a' := by
    rintro a' ha' ⟨⟩
    exact ha ha'
  obtain ⟨p, hp, hc⟩ := List.mem_flatMap.mp hc
  cases p with
  | half i => cases h _ hp
  | char a =>
    rw [percentCodePoint] at hc
    split at hc
    · rename_i ha
      rw [List.mem_singleton.mp hc]
      exact hchar fun hmem => not_reserved_of_isUnreserved ha (List.mem_cons_of_mem _ hmem)
    · obtain ⟨b, -, hc⟩ := List.mem_flatMap.mp hc
      have hb : b.toNat < 256 := b.toNat_lt
      rw [percentByte_eq] at hc
      simp only [List.mem_cons, List.not_mem_nil, or_false] at hc
      rcases hc with rfl | rfl | rfl
      · exact hchar hpercent
      · exact hchar (hdigit _ (by omega))
      · exact hchar (hdigit _ (by omega))

end Text

/-! ## Addresses -/

namespace BrokerRequest

/-- The segments in front of the key. -/
def route : BrokerRequest → List Text
  | flows _ => ["pod", "traffic"]
  | podAt _ => ["pod", "ip"]
  | serviceAt _ => ["svc", "ip"]
  | calls _ => ["pod", "syscalls"]

/-- The fixed part of a path has the two segments of the route. -/
theorem base_eq (r : BrokerRequest) : ∃ first second : Text, r.route = [first, second] ∧
    .char '/' ∉ first ∧ .char '/' ∉ second ∧
    r.base = .char '/' :: (first ++ .char '/' :: (second ++ [.char '/'])) := by
  cases r <;> exact ⟨_, _, rfl, by decide, by decide, rfl⟩

/-- A request is known by its route and its key. -/
theorem eq_of_route {r s : BrokerRequest} (hroute : r.route = s.route) (hkey : r.key = s.key) :
    r = s := by
  cases r <;> cases s
  case flows.flows | podAt.podAt | serviceAt.serviceAt | calls.calls => exact congrArg _ hkey
  -- The routes of two operations differ in one segment at least.
  all_goals exact absurd hroute (by dsimp only [route]; decide)

end BrokerRequest

namespace Broker

variable {b : Broker} {r s : BrokerRequest}

/-- The last part of an address is the segment of the key. -/
theorem parts_url (h : r.key.IsEncodable) : Text.parts '/' (b.url r)
    = Text.parts '/' b.baseUrl ++ (r.route ++ [Text.percentEncode r.key]) := by
  obtain ⟨first, second, hroute, hfirst, hsecond, hbase⟩ := r.base_eq
  have hsegment : .char '/' ∉ Text.percentEncode r.key :=
    fun hc => Text.not_reserved_of_mem h hc '/' (by decide) rfl
  have hurl : b.url r = b.baseUrl ++ .char '/' ::
      (first ++ .char '/' :: (second ++ .char '/' :: Text.percentEncode r.key)) := by
    simp [url, BrokerRequest.path, hbase]
  rw [hurl, Text.parts_join, Text.parts_append _ hfirst, Text.parts_append _ hsecond,
    Text.parts_of_not_mem hsegment, hroute]
  rfl

/-- Two requests with one address are the same. -/
theorem eq_of_url (hr : r.key.IsEncodable) (hs : s.key.IsEncodable) (h : b.url r = b.url s) :
    r = s := by
  have hparts := congrArg (Text.parts '/') h
  rw [parts_url hr, parts_url hs] at hparts
  -- Both addresses begin like the broker's and end with one segment, so the routes are apart.
  obtain ⟨hroute, hsegment⟩ := List.append_inj' (List.append_cancel_left hparts) rfl
  apply BrokerRequest.eq_of_route hroute
  have hdecoded := congrArg Text.percentDecode? (List.singleton_inj.mp hsegment)
  rw [Text.percentDecode?_percentEncode hr, Text.percentDecode?_percentEncode hs] at hdecoded
  exact Option.some.inj hdecoded

/-- **An address says what is requested.** A request asks for one address, which no request with
another operation or another key has. The key fills the segment behind the route of the operation,
which has no reserved character and spells the key. -/
theorem url_exact (b : Broker) (r : BrokerRequest) (h : r.key.IsEncodable) :
    (∀ (log : List (Exchange web)) (x : Except Fault r.Result), (b.getResult r).Ends log x →
      ∃ reply, log = [⟨.fetch (b.url r) b.timeout, reply⟩]) ∧
    (∀ s : BrokerRequest, s.key.IsEncodable → (b.url r = b.url s ↔ r = s)) ∧
    ∃ segment : Text, b.url r = b.baseUrl ++ (r.base ++ segment) ∧
      Text.parts '/' (b.url r) = Text.parts '/' b.baseUrl ++ (r.route ++ [segment]) ∧
      (∀ c ∈ segment, ∀ a ∈ Text.reserved, c ≠ .char a) ∧
      Text.percentDecode? segment = some r.key := by
  refine ⟨?_, ?_, Text.percentEncode r.key, rfl, parts_url h, ?_, ?_⟩
  · intro log x hends
    exact (getResult_reported b r log x hends).1 (Text.isEncodable_iff.mp h)
  · intro s hs
    constructor
    · exact eq_of_url h hs
    · intro e
      rw [e]
  · intro c hc
    exact Text.not_reserved_of_mem h hc
  · exact Text.percentDecode?_percentEncode h

/-- A key that spells the way to another request. -/
def nestedRequest : BrokerRequest := .podAt "../../svc/ip/10.0.0.9?é😀%2F"

/-- The service at the address that such a key names. -/
def plainRequest : BrokerRequest := .serviceAt "10.0.0.9"

theorem url_exact_nested : nestedRequest.key.IsEncodable ∧ plainRequest.key.IsEncodable ∧
    (ofUrl "http://broker/" (.ofNat 10)).url nestedRequest
      ≠ (ofUrl "http://broker/" (.ofNat 10)).url plainRequest ∧
    ∃ segment : Text, (ofUrl "http://broker/" (.ofNat 10)).url nestedRequest
        = "http://broker" ++ ("/pod/ip/" ++ segment) ∧
      (∀ c ∈ segment, ∀ a ∈ Text.reserved, c ≠ .char a) ∧
      Text.percentDecode? segment = some "../../svc/ip/10.0.0.9?é😀%2F" := by
  have hnested : nestedRequest.key.IsEncodable := by decide
  have hplain : plainRequest.key.IsEncodable := by decide
  obtain ⟨-, hapart, segment, hurl, -, hsegment, hkey⟩ :=
    url_exact (ofUrl "http://broker/" (.ofNat 10)) nestedRequest hnested
  refine ⟨hnested, hplain, ?_, segment, hurl, hsegment, hkey⟩
  intro h
  cases (hapart plainRequest hplain).mp h

end Broker

end LeastPrivilege
