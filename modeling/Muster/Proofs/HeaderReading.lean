import Muster.Auth.Nonce
import Muster.Auth.SignedHeaders
import Muster.Proofs.CodecReading
/-!
A header field gives back the text that it was made from, if that is visible ASCII without blanks, as
the ids of agents are. So the agent that a signed request names is the agent that signed it, and a
request whose other parts are such texts is read as it was signed, among whatever other fields.
-/
namespace Muster.Http

open Muster.Text

/-- A text that a header field carries unchanged: visible characters of ASCII and no blank. -/
structure FieldText (text : String) : Prop where
  nonempty : text ≠ ""
  visible : ∀ c ∈ text.toList, 0x21 ≤ c.toNat ∧ c.toNat ≤ 0x7E

theorem utf8EncodeChar_of_le {c : Char} (hc : c.toNat ≤ 0x7F) :
    String.utf8EncodeChar c = [UInt8.ofNat c.toNat] := by
  simp only [String.utf8EncodeChar]
  exact if_pos hc

theorem isVisible_ofNat {n : Nat} (hlow : 0x21 ≤ n) (hhigh : n ≤ 0x7E) :
    isVisible (UInt8.ofNat n) = true := by
  have hoctet : (UInt8.ofNat n).toNat = n := UInt8.toNat_ofNat_of_lt' (by change n < 256; omega)
  simp only [isVisible, Bool.or_eq_true, Bool.and_eq_true, decide_eq_true_eq,
    UInt8.le_iff_toNat_le, hoctet]
  exact Or.inr ⟨Nat.le_of_succ_le hlow, hhigh⟩

/-- Every character of such a text is one octet, which stands for it. -/
theorem visibleText?_flatMap {chars : List Char}
    (hchars : ∀ c ∈ chars, 0x21 ≤ c.toNat ∧ c.toNat ≤ 0x7E) :
    (chars.flatMap String.utf8EncodeChar).all isVisible = true ∧
      (chars.flatMap String.utf8EncodeChar).map (fun b => Char.ofNat b.toNat) = chars := by
  induction chars with
  | nil => exact ⟨rfl, rfl⟩
  | cons c rest ih =>
      obtain ⟨hlow, hhigh⟩ := hchars c List.mem_cons_self
      obtain ⟨hvisible, hsame⟩ := ih fun d hd => hchars d (List.mem_cons_of_mem c hd)
      have hoctet : (UInt8.ofNat c.toNat).toNat = c.toNat :=
        UInt8.toNat_ofNat_of_lt' (by change c.toNat < 256; omega)
      rw [List.flatMap_cons, utf8EncodeChar_of_le (by omega)]
      constructor
      · rw [List.cons_append, List.all_cons, List.nil_append, hvisible,
          isVisible_ofNat hlow hhigh, Bool.and_self]
      · rw [List.cons_append, List.map_cons, List.nil_append, hsame, hoctet, Char.ofNat_toNat]

theorem FieldText.visibleText? {text : String} (htext : FieldText text) :
    visibleText? (toUtf8 text) = some text := by
  obtain ⟨hvisible, hsame⟩ := visibleText?_flatMap htext.visible
  rw [Http.visibleText?, toUtf8_eq, if_pos hvisible, hsame, String.ofList_toList]

theorem FieldText.isBlank {text : String} (htext : FieldText text) :
    ∀ c ∈ text.toList, Text.isBlank c = false := by
  intro c hc
  obtain ⟨hlow, hhigh⟩ := htext.visible c hc
  exact isBlank_of_visible hlow hhigh

theorem Headers.get?_append_of_none {before : Headers} {name : String}
    (hbefore : ∀ field ∈ before, lowerName field.1 ≠ lowerName name) (headers : Headers) :
    Headers.get? (before ++ headers) name = headers.get? name := by
  have hnone : before.find? (fun field => lowerName field.1 = lowerName name) = none := by
    rw [List.find?_eq_none]
    intro field hfield
    simpa using hbefore field hfield
  rw [Headers.get?, List.find?_append, hnone, Option.none_or]
  rfl

theorem Headers.get?_append_of_some {headers : Headers} {name : String} {octets : List UInt8}
    (hsome : headers.get? name = some octets) (behind : Headers) :
    Headers.get? (headers ++ behind) name = some octets := by
  rw [Headers.get?, Option.map_eq_some_iff] at hsome ⊢
  obtain ⟨field, hfield, hoctets⟩ := hsome
  exact ⟨field, by rw [List.find?_append, hfield, Option.some_or], hoctets⟩

end Muster.Http

namespace Muster.Auth

open Muster.Bytes Muster.Http Muster.Text

theorem requireField_of_get? {headers : Headers} {name text : String} (htext : FieldText text)
    (hget : headers.get? name = some (toUtf8 text)) (missing : AuthError) :
    requireField headers name missing = .ok text := by
  have hempty : text.isEmpty = false := by
    cases hcase : text.isEmpty with
    | false => rfl
    | true => exact absurd (String.isEmpty_iff.1 hcase) htext.nonempty
  have hread : fieldText? headers name = some text := by
    simp only [fieldText?, Headers.text?, hget, Option.bind_some, htext.visibleText?,
      Option.map_some, trim_eq_self htext.isBlank, Option.filter_some, hempty, Bool.not_false,
      ↓reduceIte]
  rw [requireField, hread]

/-- The names of the fields that a signature takes. -/
def signatureFields : List String :=
  [agentIdField, timestampField, nonceField, signatureField]

/-- The signature fields of a request can be carried by a request. -/
structure SignedHeaders.Sendable (signed : SignedHeaders) : Prop where
  agentId : FieldText signed.agentId
  timestamp : bounds64.holds signed.timestamp = true
  nonce : FieldText signed.nonce
  signature : FieldText signed.signature

theorem fieldText_ofInt (n : Int) : FieldText (ofInt n) := by
  have hsign : 0x21 ≤ '-'.toNat ∧ '-'.toNat ≤ 0x7E := by decide
  refine ⟨?_, ?_⟩
  · intro hempty
    have hchars := congrArg String.toList hempty
    rw [toList_ofInt] at hchars
    exact natDigits_ne_nil n.natAbs (List.append_eq_nil_iff.1 hchars).2
  · intro c hc
    rw [toList_ofInt, List.mem_append] at hc
    rcases hc with hc | hc
    · split at hc
      · exact List.mem_singleton.1 hc ▸ hsign
      · cases hc
    · have hdigit := isDigit_of_mem_natDigits n.natAbs c hc
      simp only [isDigit, Bool.and_eq_true, decide_eq_true_eq] at hdigit
      have hlow : 0x30 ≤ c.toNat := hdigit.1
      have hhigh : c.toNat ≤ 0x39 := hdigit.2
      omega

theorem SignedHeaders.get?_toHeaders (signed : SignedHeaders) :
    signed.toHeaders.get? agentIdField = some (toUtf8 signed.agentId) ∧
      signed.toHeaders.get? timestampField = some (toUtf8 (ofInt signed.timestamp)) ∧
      signed.toHeaders.get? nonceField = some (toUtf8 signed.nonce) ∧
      signed.toHeaders.get? signatureField = some (toUtf8 signed.signature) := by
  have hnames : (signatureFields.map lowerName).Nodup := by decide
  simp only [signatureFields, List.map_cons, List.map_nil, List.nodup_cons, List.mem_cons,
    List.not_mem_nil, or_false, not_or] at hnames
  obtain ⟨⟨htime, hnonce, hsignature⟩, ⟨hnonce', hsignature'⟩, hsignature'', -⟩ := hnames
  simp [Headers.get?, SignedHeaders.toHeaders, htime, hnonce, hsignature, hnonce', hsignature',
    hsignature'']

/-- What can be sent is read as it was sent, whatever other fields the request has. Only fields of
the same names in front would come before them. -/
theorem SignedHeaders.Sendable.ofHeaders {signed : SignedHeaders} (hsigned : signed.Sendable)
    {before : Headers} (hbefore : ∀ field ∈ before, lowerName field.1 ∉ signatureFields)
    (behind : Headers) :
    SignedHeaders.ofHeaders (before ++ signed.toHeaders ++ behind) = .ok signed := by
  have hlower : ∀ name ∈ signatureFields, lowerName name = name := by decide
  have hget : ∀ name ∈ signatureFields, ∀ octets, signed.toHeaders.get? name = some octets →
      Headers.get? (before ++ signed.toHeaders ++ behind) name = some octets := by
    intro name hname octets hoctets
    apply Headers.get?_append_of_some
    rw [Headers.get?_append_of_none _ signed.toHeaders, hoctets]
    intro field hfield hsame
    rw [hlower name hname] at hsame
    exact hbefore field hfield (hsame ▸ hname)
  obtain ⟨hid, htime, hnonce, hsignature⟩ := signed.get?_toHeaders
  have hread : readInt bounds64 (ofInt signed.timestamp) = .ok signed.timestamp :=
    readInt_ofInt (by decide) hsigned.timestamp
  simp only [SignedHeaders.ofHeaders,
    requireField_of_get? hsigned.agentId (hget _ (by decide) _ hid),
    requireField_of_get? (fieldText_ofInt signed.timestamp) (hget _ (by decide) _ htime),
    requireField_of_get? hsigned.nonce (hget _ (by decide) _ hnonce),
    requireField_of_get? hsigned.signature (hget _ (by decide) _ hsignature), bind, Except.bind,
    hread]

theorem agentId_of_toHeaders {signed read : SignedHeaders} (hid : FieldText signed.agentId)
    (hread : SignedHeaders.ofHeaders signed.toHeaders = .ok read) :
    read.agentId = signed.agentId := by
  simp only [SignedHeaders.ofHeaders] at hread
  rw [requireField_of_get? hid signed.get?_toHeaders.1] at hread
  obtain ⟨id, hfirst, hread⟩ := Json.bind_eq_ok hread
  cases hfirst
  obtain ⟨text, -, hread⟩ := Json.bind_eq_ok hread
  cases htime : readInt bounds64 text with
  | error fault =>
      rw [htime] at hread
      cases hread
  | ok time =>
      rw [htime] at hread
      obtain ⟨timestamp, -, hread⟩ := Json.bind_eq_ok hread
      obtain ⟨nonce, -, hread⟩ := Json.bind_eq_ok hread
      obtain ⟨signature, -, hread⟩ := Json.bind_eq_ok hread
      cases hread
      rfl

/-- An id that the control plane has given to an agent. -/
def IssuedAgentId (id : String) : Prop :=
  ∃ source, (freshAgentId source).1 = id

/-- The id is written like those of agents: behind a word, 16 octets in groups of digits. -/
def AgentIdForm (id : String) : Prop :=
  ∃ octets : List UInt8, octets.length = 16 ∧ id = "agent-" ++ Uuid.text octets

theorem IssuedAgentId.form {id : String} (hid : IssuedAgentId id) : AgentIdForm id := by
  obtain ⟨source, rfl⟩ := hid
  exact ⟨(Uuid.fresh source).1, Uuid.length_fresh source, rfl⟩

/-- What holds of the digits, the hyphen and the word holds of all characters of such an id. -/
theorem AgentIdForm.forall {property : Char → Prop} [DecidablePred property]
    (hdigit : ∀ digit : Fin 16, property (Nat.digitChar digit)) (hhyphen : property '-')
    (hword : "agent-".toList.all (fun c => decide (property c)) = true) {id : String}
    (hid : AgentIdForm id) : ∀ c ∈ id.toList, property c := by
  obtain ⟨octets, -, rfl⟩ := hid
  intro c hc
  rw [String.toList_append, List.mem_append] at hc
  rcases hc with hc | hc
  · exact of_decide_eq_true (List.all_eq_true.1 hword c hc)
  · exact Uuid.text_forall hdigit hhyphen octets c hc

/-- Such ids are carried by header fields unchanged. -/
theorem AgentIdForm.fieldText {id : String} (hid : AgentIdForm id) : FieldText id := by
  refine ⟨?_, hid.forall (by decide) (by decide) (by decide)⟩
  obtain ⟨octets, -, rfl⟩ := hid
  intro hempty
  have hchars := congrArg String.toList hempty
  rw [String.toList_append] at hchars
  cases hchars

theorem IssuedAgentId.fieldText {id : String} (hid : IssuedAgentId id) : FieldText id :=
  hid.form.fieldText

/-- Nonces of 16 octets are carried by header fields unchanged. -/
theorem fieldText_simpleText {octets : List UInt8} (hlength : octets.length = 16) :
    FieldText (Uuid.simpleText octets) := by
  refine ⟨?_, ?_⟩
  · obtain ⟨octet, rest, rfl⟩ := List.exists_cons_of_length_pos (by omega : 0 < octets.length)
    intro hempty
    have hchars := congrArg String.toList hempty
    rw [Uuid.simpleText, String.toList_ofList] at hchars
    cases hchars
  · rw [Uuid.simpleText, String.toList_ofList]
    exact Uuid.digits_forall (by decide) octets

end Muster.Auth
