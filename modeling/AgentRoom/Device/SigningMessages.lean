import AgentRoom.Device.Tables
import AgentRoom.Library.Digits

namespace AgentRoom.DeviceProofs

open Library

inductive DevicePlatform where
  | windows
  | macOs
  | linux
  | web
  | network
deriving DecidableEq

def DevicePlatform.asStr : DevicePlatform → List Char
  | .windows => "windows".toList
  | .macOs => "macos".toList
  | .linux => "linux".toList
  | .web => "web".toList
  | .network => "network".toList

inductive DeviceRequestProofError where
  | invalidMethod
  | invalidRequestTarget
  | invalidNonce

def byteLength (text : List Char) : Nat := (text.map Char.utf8Size).sum

def validMethod (method : List Char) : Bool :=
  !method.isEmpty && byteLength method ≤ 16 && method.all Char.isUpper

def validTarget (target : List Char) : Bool :=
  byteLength target ≤ 2048 && ['/'].isPrefixOf target && !(['/', '/'].isPrefixOf target) &&
    !target.any (fun char => char = '\\' || char = '#') && !target.any isControlChar

structure DeviceRequestProofPayload where
  deviceId : DeviceId
  issuedAt : UtcMillis
  nonce : List Char
  method : List Char
  requestTarget : List Char
  bodyDigest : SecretDigest
  methodValid : validMethod method = true
  targetValid : validTarget requestTarget = true
  nonceLength : 16 ≤ byteLength nonce ∧ byteLength nonce ≤ 256

def DeviceRequestProofPayload.new (deviceId : DeviceId) (issuedAt : UtcMillis) (nonce method requestTarget : List Char)
    (bodyDigest : SecretDigest) : Except DeviceRequestProofError DeviceRequestProofPayload :=
  if methodValid : validMethod method = true then
    if targetValid : validTarget requestTarget = true then
      if nonceLength : 16 ≤ byteLength nonce ∧ byteLength nonce ≤ 256 then
        .ok { deviceId, issuedAt, nonce, method, requestTarget, bodyDigest, methodValid, targetValid, nonceLength }
      else .error .invalidNonce
    else .error .invalidRequestTarget
  else .error .invalidMethod

-- How the uuid package displays an identifier: in one line, and no two of them alike.
structure UuidDisplay where
  text : Nat → List Char
  injective : ∀ first second, text first = text second → first = second
  oneLine : ∀ uuid, '\n' ∉ text uuid

def encodeHex (bytes : BitVec 256) : List Char := (spell "0123456789abcdef".toList 64 bytes.toNat).reverse

def line (text rest : List Char) : List Char := text ++ '\n' :: rest

variable (display : UuidDisplay)

def canonicalDeviceRequestMessage (proof : DeviceRequestProofPayload) (credentialDigest : SecretDigest) : ByteArray :=
  (String.ofList (line "agent-room-device-request-v1".toList (line (display.text proof.deviceId.uuid) (line proof.method
    (line proof.requestTarget (line (encodeHex proof.bodyDigest.bytes) (line (Nat.toDigits 10 proof.issuedAt.value)
      (line proof.nonce (encodeHex credentialDigest.bytes))))))))).toUTF8

def canonicalDeviceRegistrationMessage (authorizationTokenDigest : SecretDigest) (label : List Char) (platform : DevicePlatform)
    (publicKey : DevicePublicSigningKey) : ByteArray :=
  (String.ofList (line "agent-room-device-registration-v1".toList (line (encodeHex authorizationTokenDigest.bytes)
    (line label (line platform.asStr (encodeHex publicKey.bytes)))))).toUTF8

theorem bytes_inj (same : (String.ofList first).toUTF8 = (String.ofList second).toUTF8) : first = second :=
  String.ofList_injective (String.toByteArray_inj.mp same)

theorem line_inj (whole : '\n' ∉ first) (wholeToo : '\n' ∉ second)
    (same : line first rest = line second other) : first = second ∧ rest = other := by
  induction first generalizing second with
  | nil =>
    cases second with
    | nil => exact ⟨rfl, (List.cons.inj same).2⟩
    | cons head tail => exact absurd (List.mem_cons.mpr (.inl (List.cons.inj same).1)) wholeToo
  | cons head tail ih =>
    cases second with
    | nil => exact absurd (List.mem_cons.mpr (.inl (List.cons.inj same).1.symm)) whole
    | cons second rest =>
      obtain ⟨rfl, later⟩ := List.cons.inj same
      obtain ⟨rfl, ends⟩ := ih (List.not_mem_of_not_mem_cons whole) (List.not_mem_of_not_mem_cons wholeToo) later
      exact ⟨rfl, ends⟩

-- What ends in as many letters can be anything before them.
theorem last_line_inj (sameLength : rest.length = other.length) (same : line first rest = line second other) :
    first = second ∧ rest = other := by
  obtain ⟨texts, ends⟩ := List.append_inj' same (by simpa using sameLength)
  exact ⟨texts, (List.cons.inj ends).2⟩

theorem label_first (label platform key : List Char) : line label (line platform key) = line (line label platform) key := by
  simp [line]

theorem reverse_line (text rest : List Char) : (line text rest).reverse = line rest.reverse text.reverse := by
  simp [line]

theorem hex_length (bytes : BitVec 256) : (encodeHex bytes).length = 64 := by
  simp [encodeHex]

theorem hex_inj (same : encodeHex first = encodeHex second) : first = second := by
  have digits := (spell_inj _ (by decide) (by decide) 64 first.toNat second.toNat).mp (List.reverse_injective same)
  have room : 2 ^ 256 ≤ ("0123456789abcdef".toList.length) ^ 64 := by decide
  rw [Nat.mod_eq_of_lt (Nat.lt_of_lt_of_le first.isLt room), Nat.mod_eq_of_lt (Nat.lt_of_lt_of_le second.isLt room)] at digits
  exact BitVec.eq_of_toNat_eq digits

theorem hex_one_line (bytes : BitVec 256) : '\n' ∉ encodeHex bytes := by
  intro listed
  have letter := mem_spell "0123456789abcdef".toList (by decide) (List.mem_reverse.mp listed)
  exact absurd letter (by decide)

theorem decimal_one_line (number : Nat) : '\n' ∉ Nat.toDigits 10 number := by
  intro listed
  exact absurd (Nat.isDigit_of_mem_toDigits (by decide) (by decide) listed) (by decide)

theorem decimal_inj (same : Nat.toDigits 10 first = Nat.toDigits 10 second) : first = second := by
  rw [← @Nat.ofDigitChars_ten_toDigits first, same, Nat.ofDigitChars_ten_toDigits]

theorem method_one_line (proof : DeviceRequestProofPayload) : '\n' ∉ proof.method := by
  intro listed
  have upper := ((Bool.and_eq_true ..).mp proof.methodValid).2
  exact absurd (List.all_eq_true.mp upper _ listed) (by decide)

theorem target_one_line (proof : DeviceRequestProofPayload) : '\n' ∉ proof.requestTarget := by
  intro listed
  have plain := ((Bool.and_eq_true ..).mp proof.targetValid).2
  rw [Bool.not_eq_true', List.any_eq_false] at plain
  exact plain _ listed (by decide)

theorem platform_one_line (platform : DevicePlatform) : '\n' ∉ platform.asStr := by
  cases platform <;> decide

theorem platform_inj (same : DevicePlatform.asStr first = DevicePlatform.asStr second) : first = second := by
  revert same
  cases first <;> cases second <;> decide

theorem request_message_inj (same : canonicalDeviceRequestMessage display first credential =
    canonicalDeviceRequestMessage display second other) : first = second ∧ credential = other := by
  have same := (line_inj (by decide) (by decide) (bytes_inj same)).2
  obtain ⟨device, same⟩ := line_inj (display.oneLine _) (display.oneLine _) same
  obtain ⟨method, same⟩ := line_inj (method_one_line first) (method_one_line second) same
  obtain ⟨target, same⟩ := line_inj (target_one_line first) (target_one_line second) same
  obtain ⟨body, same⟩ := line_inj (hex_one_line _) (hex_one_line _) same
  obtain ⟨issued, same⟩ := line_inj (decimal_one_line _) (decimal_one_line _) same
  obtain ⟨nonce, digest⟩ := last_line_inj (by rw [hex_length, hex_length]) same
  have device := display.injective _ _ device
  have body := hex_inj body
  have issued := decimal_inj issued
  obtain ⟨⟨_⟩, ⟨_, _⟩, _, _, _, ⟨_⟩, _, _, _⟩ := first
  obtain ⟨⟨_⟩, ⟨_, _⟩, _, _, _, ⟨_⟩, _, _, _⟩ := second
  cases device
  cases method
  cases target
  cases body
  cases issued
  cases nonce
  cases credential
  cases other
  exact ⟨rfl, congrArg SecretDigest.mk (hex_inj digest)⟩

theorem signing_messages_are_unambiguous :
    (∀ first credential second other, canonicalDeviceRequestMessage display first credential =
      canonicalDeviceRequestMessage display second other → first = second ∧ credential = other) ∧
    (∀ token label platform key token' label' platform' key', canonicalDeviceRegistrationMessage token label platform key =
      canonicalDeviceRegistrationMessage token' label' platform' key' →
        token = token' ∧ label = label' ∧ platform = platform' ∧ key = key') ∧
    ∀ proof credential token label platform key, canonicalDeviceRequestMessage display proof credential ≠
      canonicalDeviceRegistrationMessage token label platform key := by
  refine ⟨fun _ _ _ _ => request_message_inj display, ?_, ?_⟩
  · rintro ⟨token⟩ label platform ⟨key⟩ ⟨token'⟩ label' platform' ⟨key'⟩ same
    have same := (line_inj (by decide) (by decide) (bytes_inj same)).2
    obtain ⟨tokens, same⟩ := line_inj (hex_one_line _) (hex_one_line _) same
    -- A label may be anything: the two lines after it are read from the end.
    obtain ⟨fields, keys⟩ := last_line_inj (by rw [hex_length, hex_length]) ((label_first ..).symm.trans (same.trans (label_first ..)))
    have turned := congrArg List.reverse fields
    rw [reverse_line, reverse_line] at turned
    obtain ⟨platforms, labels⟩ := line_inj (by simpa using platform_one_line platform) (by simpa using platform_one_line platform') turned
    cases hex_inj tokens
    cases hex_inj keys
    exact ⟨rfl, List.reverse_injective labels, platform_inj (List.reverse_injective platforms), rfl⟩
  · intro proof credential token label platform key same
    exact absurd (line_inj (by decide) (by decide) (bytes_inj same)).1 (by decide)

-- Five groups of lowercase hexadecimal digits; what no identifier of 128 bits has is put behind them.
def uuidDigits (uuid : Nat) : List Char :=
  ((((spell "0123456789abcdef".toList 32 uuid).reverse.insertIdx 20 '-').insertIdx 16 '-').insertIdx 12 '-').insertIdx 8 '-'

def uuidText (uuid : Nat) : List Char := uuidDigits uuid ++ List.replicate (uuid / 2 ^ 128) '.'

theorem uuid_digits_length (uuid : Nat) : (uuidDigits uuid).length = 36 := by
  simp [uuidDigits, List.length_insertIdx]

theorem uuid_text_inj (same : uuidText first = uuidText second) : first = second := by
  obtain ⟨digits, rest⟩ := List.append_inj same (by rw [uuid_digits_length, uuid_digits_length])
  have high : first / 2 ^ 128 = second / 2 ^ 128 := by simpa using congrArg List.length rest
  have inj := fun place => List.insertIdx_injective place '-'
  have spelled := List.reverse_injective (inj 20 (inj 16 (inj 12 (inj 8 digits))))
  have low : first % 16 ^ 32 = second % 16 ^ 32 := (spell_inj _ (by decide) (by decide) 32 first second).mp spelled
  omega

theorem uuid_text_one_line (uuid : Nat) : '\n' ∉ uuidText uuid := by
  have plain {text : List Char} {place : Nat} (whole : '\n' ∉ text) : '\n' ∉ text.insertIdx place '-' := fun listed =>
    (List.eq_or_mem_of_mem_insertIdx listed).elim (by decide) whole
  intro listed
  rcases List.mem_append.mp listed with digit | other
  · refine plain (plain (plain (plain fun letter => ?_))) digit
    exact absurd (mem_spell "0123456789abcdef".toList (by decide) (List.mem_reverse.mp letter)) (by decide)
  · exact absurd (List.eq_of_mem_replicate other) (by decide)

def hyphenated : UuidDisplay := ⟨uuidText, fun _ _ => uuid_text_inj, uuid_text_one_line⟩

def listRooms : DeviceRequestProofPayload :=
  ⟨⟨0x019b76daa80070008000000000000001⟩, 1000, "0123456789abcdef".toList, "GET".toList, "/v1/rooms?limit=2".toList, ⟨7⟩, by decide,
    by decide, by decide⟩

-- The label of the second registration ends as the first one goes on.
theorem messages_are_told_apart :
    canonicalDeviceRequestMessage hyphenated listRooms ⟨1⟩ ≠ canonicalDeviceRequestMessage hyphenated listRooms ⟨2⟩ ∧
    canonicalDeviceRegistrationMessage ⟨1⟩ "Ada".toList .linux ⟨2⟩ ≠
      canonicalDeviceRegistrationMessage ⟨1⟩ "Ada\nlinux".toList .linux ⟨2⟩ ∧
    canonicalDeviceRequestMessage hyphenated listRooms ⟨1⟩ ≠ canonicalDeviceRegistrationMessage ⟨1⟩ "Ada".toList .linux ⟨2⟩ := by
  obtain ⟨requests, registrations, apart⟩ := signing_messages_are_unambiguous hyphenated
  refine ⟨fun same => ?_, fun same => ?_, apart _ _ _ _ _ _⟩
  · exact absurd (requests _ _ _ _ same).2 (by decide)
  · exact absurd (registrations _ _ _ _ _ _ _ _ same).2.1 (by decide)

end AgentRoom.DeviceProofs
