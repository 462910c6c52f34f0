import AgentRoom.Agents.Names
import AgentRoom.Library.Digits
import Mathlib

namespace AgentRoom.RoomAccess

open Library AgentNames

-- So many letters of an alphabet: what the constructors of the three codes leave.
structure Code (alphabet : List Char) (length : Nat) where
  text : List Char
  whole : text.length = length
  letters : ∀ letter ∈ text, letter ∈ alphabet
deriving DecidableEq

def Code.spelled (alphabet : List Char) (length : Nat) (some' : alphabet ≠ []) (value : Nat) : Code alphabet length :=
  ⟨spell alphabet length value, length_spell alphabet length value, fun _ => mem_spell alphabet some'⟩

def joinAlphabet : List Char := "0123456789ABCDEFGHJKMNPQRSTVWXYZ".toList

def inviteAlphabet : List Char := "0123456789abcdefghjkmnpqrstvwxyz".toList

def shareAlphabet : List Char := "0123456789ABCDEFGHIJKLMNOPQRSTUVWXYZabcdefghijklmnopqrstuvwxyz".toList

abbrev PrivateRoomJoinCode := Code joinAlphabet 12

abbrev PrivateRoomInviteSecret := Code inviteAlphabet 26

abbrev RoomShareCode := Code shareAlphabet 6

-- The entropy is the number that its bytes spell, the highest first.
def PrivateRoomJoinCode.fromEntropy (entropy : BitVec 64) : PrivateRoomJoinCode :=
  .spelled joinAlphabet 12 (by decide) entropy.toNat

def PrivateRoomInviteSecret.fromEntropy (entropy : BitVec 128) : PrivateRoomInviteSecret :=
  .spelled inviteAlphabet 26 (by decide) entropy.toNat

def RoomShareCode.fromEntropy (entropy : BitVec 128) : RoomShareCode :=
  .spelled shareAlphabet 6 (by decide) entropy.toNat

def maxInput : Nat := 64

def byteLength (text : List Char) : Nat := (text.map Char.utf8Size).sum

def checkedCode (failure : DomainError) (alphabet : List Char) (length : Nat) (text : List Char) : DomainResult (Code alphabet length) :=
  if valid : text.length = length ∧ ∀ letter ∈ text, letter ∈ alphabet then .ok ⟨text, valid.1, valid.2⟩ else .error failure

def isSeparator (char : Char) : Bool := char = '-' || isWhitespaceChar char

def readLetter (char : Char) : Char :=
  match char.toUpper with
  | 'O' => '0'
  | 'I' | 'L' => '1'
  | other => other

-- The loop passes the separators by, and fails in one way at any other letter and at any other length.
def PrivateRoomJoinCode.parse (input : List Char) : DomainResult PrivateRoomJoinCode :=
  if maxInput < byteLength input then .error (.validation "join_code" "口令应为 12 个字母或数字")
  else checkedCode (.validation "join_code" "口令应为 12 个字母或数字") joinAlphabet 12
    ((input.filter fun char => !isSeparator char).map readLetter)

def PrivateRoomJoinCode.display (code : PrivateRoomJoinCode) : List Char :=
  code.text.take 4 ++ '-' :: (code.text.drop 4).take 4 ++ '-' :: code.text.drop 8

def PrivateRoomInviteSecret.parse (input : List Char) : DomainResult PrivateRoomInviteSecret :=
  if maxInput < byteLength input then .error (.validation "invite_secret" "邀请链接里的秘密应为 26 个字母或数字")
  else checkedCode (.validation "invite_secret" "邀请链接里的秘密应为 26 个字母或数字") inviteAlphabet 26
    ((trim input).map Char.toLower)

-- The alphabet holds all the letters and digits of ASCII.
def RoomShareCode.parse (input : List Char) : DomainResult RoomShareCode :=
  checkedCode (.validation "room_share_code" "分享码应为 6 位字母或数字") shareAlphabet 6 input

-- Letters that stand for one another: in either case, and those that are easily confused.
inductive SameLetter (first second : Char) : Prop where
  | case (same : first.toUpper = second.toUpper)
  | zero (first : first.toUpper ∈ ['O', '0']) (second : second.toUpper ∈ ['O', '0'])
  | one (first : first.toUpper ∈ ['I', 'L', '1']) (second : second.toUpper ∈ ['I', 'L', '1'])

-- Texts that differ in such letters and in separators only.
inductive Alike : List Char → List Char → Prop where
  | nil : Alike [] []
  | passFirst (separator : isSeparator char = true) (rest : Alike first second) : Alike (char :: first) second
  | passSecond (separator : isSeparator char = true) (rest : Alike first second) : Alike first (char :: second)
  | letter (same : SameLetter char other) (rest : Alike first second) : Alike (char :: first) (other :: second)

theorem read_same (same : SameLetter first second) : readLetter first = readLetter second := by
  unfold readLetter
  cases same with
  | case same => rw [same]
  | zero first second =>
    simp only [List.mem_cons, List.not_mem_nil, or_false] at first second
    rcases first with first | first <;> rcases second with second | second <;> simp [first, second]
  | one first second =>
    simp only [List.mem_cons, List.not_mem_nil, or_false] at first second
    rcases first with first | first | first <;> rcases second with second | second | second <;> simp [first, second]

theorem printed_separator (low : 65 ≤ char.toNat) (high : char.toNat ≤ 126) : isSeparator char = false := by
  have letter : char ≠ '-' := by
    rintro rfl
    exact absurd low (by decide)
  simp [isSeparator, letter, printed_solid (Nat.le_trans (by decide) low) high]

theorem separator_upper (char : Char) : isSeparator char.toUpper = isSeparator char := by
  by_cases lower : 'a'.val ≤ char.val ∧ char.val ≤ 'z'.val
  · have low : 97 ≤ char.toNat := UInt32.le_iff_toNat_le.mp lower.1
    have high : char.toNat ≤ 122 := UInt32.le_iff_toNat_le.mp lower.2
    have raised : char.toUpper.toNat = char.toNat - 32 := by
      have size : char.val.toNat = char.toNat := rfl
      have shift : ('A'.val - 'a'.val).toNat = 4294967264 := by decide
      rw [Char.toUpper, dif_pos lower, Char.toNat, UInt32.toNat_add, shift, size]
      omega
    rw [printed_separator (by omega) (by omega), printed_separator (by omega) (by omega)]
  · rw [Char.toUpper, dif_neg lower]

theorem separator_same (same : SameLetter first second) : isSeparator first = isSeparator second := by
  rw [← separator_upper first, ← separator_upper second]
  cases same with
  | case same => rw [same]
  | zero first second =>
    have plain := List.all_eq_true.mp (by decide : ['O', '0'].all (fun letter => !isSeparator letter) = true)
    simp only [Bool.not_eq_true'] at plain
    rw [plain _ first, plain _ second]
  | one first second =>
    have plain := List.all_eq_true.mp (by decide : ['I', 'L', '1'].all (fun letter => !isSeparator letter) = true)
    simp only [Bool.not_eq_true'] at plain
    rw [plain _ first, plain _ second]

theorem alike_read (alike : Alike first second) :
    (first.filter fun char => !isSeparator char).map readLetter = (second.filter fun char => !isSeparator char).map readLetter := by
  induction alike with
  | nil => rfl
  | passFirst separator _ ih => simpa [separator] using ih
  | passSecond separator _ ih => simpa [separator] using ih
  | @letter char other _ _ same _ ih =>
    cases passed : isSeparator other <;> simp [separator_same same, read_same same, ih, passed]

theorem ascii_length (ascii : ∀ letter ∈ text, letter.utf8Size = 1) : byteLength text = text.length := by
  rw [byteLength, List.map_congr_left ascii]
  simp

theorem checked_text (code : Code alphabet length) (failure : DomainError) : checkedCode failure alphabet length code.text = .ok code := by
  rw [checkedCode, dif_pos ⟨code.whole, code.letters⟩]

theorem spelled_inj (apart : alphabet.Nodup) (some' : alphabet ≠ []) (length first second : Nat) :
    Code.spelled alphabet length some' first = Code.spelled alphabet length some' second ↔
      first % alphabet.length ^ length = second % alphabet.length ^ length := by
  rw [Code.spelled, Code.spelled, Code.mk.injEq]
  exact spell_inj alphabet apart some' length first second

theorem join_letter (code : PrivateRoomJoinCode) :
    ∀ letter ∈ code.text, isSeparator letter = false ∧ readLetter letter = letter ∧ letter.utf8Size = 1 :=
  fun letter listed => of_decide_eq_true (List.all_eq_true.mp (by decide : joinAlphabet.all (fun letter =>
    isSeparator letter = false ∧ readLetter letter = letter ∧ letter.utf8Size = 1) = true) letter (code.letters letter listed))

theorem join_parsed (code : PrivateRoomJoinCode) (short : byteLength input ≤ maxInput)
    (kept : (input.filter fun char => !isSeparator char) = code.text) : PrivateRoomJoinCode.parse input = .ok code := by
  have read : code.text.map readLetter = code.text :=
    (List.map_congr_left fun letter listed => (join_letter code letter listed).2.1).trans (List.map_id _)
  rw [PrivateRoomJoinCode.parse, if_neg (Nat.not_lt.mpr short), kept, read]
  exact checked_text code _

theorem join_reads_back (code : PrivateRoomJoinCode) :
    PrivateRoomJoinCode.parse code.display = .ok code ∧ PrivateRoomJoinCode.parse code.text = .ok code := by
  have letters (text : List Char) (part : text ⊆ code.text) : (text.filter fun char => !isSeparator char) = text :=
    List.filter_eq_self.mpr fun letter listed => by rw [(join_letter code letter (part listed)).1]; rfl
  have short (text : List Char) (part : ∀ letter ∈ text, letter = '-' ∨ letter ∈ code.text) (room : text.length ≤ maxInput) :
      byteLength text ≤ maxInput := by
    rw [ascii_length]
    · exact room
    · intro letter listed
      rcases part letter listed with rfl | listed
      · rfl
      · exact (join_letter code letter listed).2.2
  constructor
  · have first := List.take_subset 4 code.text
    have last := List.drop_subset 8 code.text
    have middle : (code.text.drop 4).take 4 ⊆ code.text := fun _ listed => List.drop_subset _ _ (List.take_subset _ _ listed)
    refine join_parsed code (short _ ?_ ?_) ?_
    · intro letter listed
      simp only [PrivateRoomJoinCode.display, List.mem_append, List.mem_cons] at listed
      rcases listed with (inFirst | dash | inMiddle) | dash | inLast
      · exact .inr (first inFirst)
      · exact .inl dash
      · exact .inr (middle inMiddle)
      · exact .inl dash
      · exact .inr (last inLast)
    · simp [PrivateRoomJoinCode.display, code.whole, maxInput]
    · have dash : isSeparator '-' = true := rfl
      simp only [PrivateRoomJoinCode.display, List.filter_append, List.filter_cons, letters _ first, letters _ middle,
        letters _ last, dash, Bool.not_true, Bool.false_eq_true, if_false]
      have rest : code.text.drop 8 = (code.text.drop 4).drop 4 := by rw [List.drop_drop]
      rw [rest, List.append_assoc, List.take_append_drop, List.take_append_drop]
  · exact join_parsed code (short _ (fun _ => .inr) (by rw [code.whole]; decide)) (letters _ (List.Subset.refl _))

theorem invite_reads_back (secret : PrivateRoomInviteSecret) : PrivateRoomInviteSecret.parse secret.text = .ok secret := by
  have letter : ∀ letter ∈ secret.text, isWhitespaceChar letter = false ∧ letter.toLower = letter ∧ letter.utf8Size = 1 :=
    fun letter listed => of_decide_eq_true (List.all_eq_true.mp (by decide : inviteAlphabet.all (fun letter =>
      isWhitespaceChar letter = false ∧ letter.toLower = letter ∧ letter.utf8Size = 1) = true) letter (secret.letters letter listed))
  have trimmed : trim secret.text = secret.text := by
    refine trim_trimmed ⟨List.dropWhile_eq_self_iff.mpr fun some' => ?_, List.rdropWhile_eq_self_iff.mpr fun some' => ?_⟩
    · rw [(letter _ (List.getElem_mem some')).1]
      exact Bool.false_ne_true
    · rw [(letter _ (List.getLast_mem some')).1]
      exact Bool.false_ne_true
  have lowered : secret.text.map Char.toLower = secret.text :=
    (List.map_congr_left fun char listed => (letter char listed).2.1).trans (List.map_id _)
  have short : ¬ maxInput < byteLength secret.text := by
    rw [ascii_length fun char listed => (letter char listed).2.2, secret.whole]
    decide
  rw [PrivateRoomInviteSecret.parse, if_neg short, trimmed, lowered]
  exact checked_text secret _

-- Every code reads back as itself, and says of its entropy what it has room for.
theorem codes_read_back :
    (∀ entropy, PrivateRoomJoinCode.parse (PrivateRoomJoinCode.fromEntropy entropy).display = .ok (.fromEntropy entropy) ∧
      PrivateRoomJoinCode.parse (PrivateRoomJoinCode.fromEntropy entropy).text = .ok (.fromEntropy entropy)) ∧
    (∀ first second, byteLength first ≤ maxInput → byteLength second ≤ maxInput → Alike first second →
      PrivateRoomJoinCode.parse first = PrivateRoomJoinCode.parse second) ∧
    (∀ first second, PrivateRoomJoinCode.fromEntropy first = .fromEntropy second ↔ first.toNat % 2 ^ 60 = second.toNat % 2 ^ 60) ∧
    (∀ secret : PrivateRoomInviteSecret, PrivateRoomInviteSecret.parse secret.text = .ok secret) ∧
    (∀ first second, PrivateRoomInviteSecret.fromEntropy first = .fromEntropy second → first = second) ∧
    (∀ code : RoomShareCode, RoomShareCode.parse code.text = .ok code) ∧
    ∀ first second, RoomShareCode.fromEntropy first = .fromEntropy second ↔ first.toNat % 62 ^ 6 = second.toNat % 62 ^ 6 := by
  refine ⟨fun entropy => join_reads_back _, ?_, ?_, invite_reads_back, ?_, fun code => checked_text code _, ?_⟩
  · intro first second short shortToo alike
    rw [PrivateRoomJoinCode.parse, PrivateRoomJoinCode.parse, if_neg (Nat.not_lt.mpr short), if_neg (Nat.not_lt.mpr shortToo),
      alike_read alike]
  · intro first second
    exact @spelled_inj joinAlphabet (by decide) (by decide) 12 first.toNat second.toNat
  · intro first second same
    have digits := (spelled_inj (by decide) (by decide) 26 first.toNat second.toNat).mp same
    have room : 2 ^ 128 ≤ inviteAlphabet.length ^ 26 := by decide
    rw [Nat.mod_eq_of_lt (Nat.lt_of_lt_of_le first.isLt room), Nat.mod_eq_of_lt (Nat.lt_of_lt_of_le second.isLt room)] at digits
    exact BitVec.eq_of_toNat_eq digits
  · intro first second
    exact spelled_inj (by decide) (by decide) 6 first.toNat second.toNat

theorem lower_case_code_is_read_alike : PrivateRoomJoinCode.parse "7k2m-o9xq 4pl8".toList = .ok (.fromEntropy 0x406c4bf520a0a67) :=
  (codes_read_back.2.1 "7k2m-o9xq 4pl8".toList "7K2M09XQ4P18".toList (by decide) (by decide)
    (.letter (.case rfl) (.letter (.case rfl) (.letter (.case rfl) (.letter (.case rfl) (.passFirst rfl
      (.letter (.zero (by decide) (by decide)) (.letter (.case rfl) (.letter (.case rfl) (.letter (.case rfl) (.passFirst rfl
      (.letter (.case rfl) (.letter (.case rfl) (.letter (.one (by decide) (by decide)) (.letter (.case rfl)
        .nil))))))))))))))).trans (join_reads_back (.fromEntropy 0x406c4bf520a0a67)).2

theorem share_code_forgets_entropy : RoomShareCode.fromEntropy 0#128 = .fromEntropy 56800235584#128 ∧ 0#128 ≠ 56800235584#128 := by
  decide

end AgentRoom.RoomAccess
