import AgentRoom.Domain.Basics
import AgentRoom.Library.Fallible
import Mathlib.Data.List.DropRight
import Mathlib.Logic.Function.Iterate

namespace AgentRoom.AgentNames

open Library

def trimStart (text : List Char) : List Char := text.dropWhile isWhitespaceChar

def trimEnd (text : List Char) : List Char := text.rdropWhile isWhitespaceChar

def trim (text : List Char) : List Char := trimEnd (trimStart text)

-- str::rsplit_once for " #".
def rsplitTag : List Char → Option (List Char × List Char)
  | [] => none
  | head :: rest =>
    match rsplitTag rest with
    | some (base, digits) => some (head :: base, digits)
    | none => if head = ' ' ∧ rest.head? = some '#' then some ([], rest.tail) else none

def fourDigits (digits : List Char) : Bool := digits.length = 4 && digits.all Char.isDigit

def untaggedName (name : List Char) : List Char :=
  match rsplitTag (trim name) with
  | none => trim name
  | some (base, digits) => if fourDigits digits = true ∧ trimEnd base ≠ [] then trimEnd base else trim name

def maxTaggedNameCharacters : Nat := 80

def tagCharacters : Nat := 6

abbrev AgentNameTag := Fin 10000

def digit (value : Nat) : Char := Char.ofNat (48 + value % 10)

-- Written as {:04} after the sign.
def AgentNameTag.digits (tag : AgentNameTag) : List Char := [digit (tag / 1000), digit (tag / 100), digit (tag / 10), digit tag]

def taggedName (name : List Char) (tag : AgentNameTag) : List Char :=
  let room := maxTaggedNameCharacters - tagCharacters
  trimEnd ((untaggedName name).take room) ++ ' ' :: '#' :: tag.digits

def Trimmed (text : List Char) : Prop := trimStart text = text ∧ trimEnd text = text

theorem trim_trimmed (trimmed : Trimmed text) : trim text = text := by
  rw [trim, trimmed.1, trimmed.2]

theorem head_solid (begins : trimStart (head :: tail) = head :: tail) : isWhitespaceChar head = false := by
  by_contra space
  have short := congrArg List.length begins
  have dropped := List.length_dropWhile_le isWhitespaceChar tail
  simp only [trimStart, List.dropWhile_cons, Bool.not_eq_false _ ▸ space, if_true, List.length_cons] at short
  omega

-- What begins with no space keeps its beginning when its end is cut off.
theorem prefix_trimmed (begins : trimStart text = text) (cut : part <+: text) : Trimmed (trimEnd part) := by
  refine ⟨?_, List.rdropWhile_idempotent ..⟩
  obtain ⟨rest, whole⟩ := (List.rdropWhile_prefix isWhitespaceChar part).trans cut
  change _ ++ rest = text at whole
  cases kept : trimEnd part with
  | nil => rfl
  | cons head tail =>
    rw [show List.rdropWhile isWhitespaceChar part = head :: tail from kept] at whole
    simp [trimStart, head_solid (whole ▸ begins)]

theorem trimmed_trim (text : List Char) : Trimmed (trim text) :=
  prefix_trimmed (List.dropWhile_idempotent ..) (List.prefix_refl _)

theorem rsplit_tag_some (text : List Char) (found : rsplitTag text = some (base, digits)) :
    text = base ++ ' ' :: '#' :: digits := by
  induction text generalizing base with
  | nil => cases found
  | cons head rest ih =>
    simp only [rsplitTag] at found
    split at found
    · rename_i split
      cases found
      exact congrArg (head :: ·) (ih split)
    · split at found
      · rename_i tagged
        cases found
        rw [List.nil_append, tagged.1, ← List.cons_head?_tail tagged.2, List.tail_cons]
      · cases found

theorem rsplit_tag_append (base : List Char) (four : fourDigits digits = true) :
    rsplitTag (base ++ ' ' :: '#' :: digits) = some (base, digits) := by
  have plain (rest : List Char) (digit : rest.all Char.isDigit = true) : rsplitTag rest = none := by
    induction rest with
    | nil => rfl
    | cons head tail ih =>
      obtain ⟨first, others⟩ := (Bool.and_eq_true ..).mp ((List.all_cons ..).symm.trans digit)
      have solid : head ≠ ' ' := fun same => absurd first (by rw [same]; decide)
      simp [rsplitTag, ih others, solid]
  induction base with
  | nil =>
    have rest := plain digits ((Bool.and_eq_true ..).mp four).2
    simp [rsplitTag, rest]
  | cons head tail ih => simp [rsplitTag, ih]

theorem printed_solid (low : 33 ≤ char.toNat) (high : char.toNat ≤ 126) : isWhitespaceChar char = false := by
  simp only [isWhitespaceChar, Bool.or_eq_false_iff, Bool.and_eq_false_iff, decide_eq_false_iff_not, List.mem_cons,
    List.not_mem_nil, or_false]
  omega

theorem digit_solid (digit : char.isDigit = true) : isWhitespaceChar char = false := by
  simp only [Char.isDigit, Bool.and_eq_true, decide_eq_true_eq, ge_iff_le, UInt32.le_iff_toNat_le] at digit
  exact printed_solid (Nat.le_trans (by decide) digit.1) (Nat.le_trans digit.2 (by decide))

theorem tagged_trimmed (four : fourDigits digits = true) (begins : trimStart base = base) (solid : base ≠ []) :
    Trimmed (base ++ ' ' :: '#' :: digits) := by
  obtain ⟨length, digit⟩ := (Bool.and_eq_true ..).mp four
  have some' : digits ≠ [] := by
    rintro rfl
    cases length
  have ends : ¬ isWhitespaceChar (digits.getLast some') = true := by
    rw [digit_solid (List.all_eq_true.mp digit _ (List.getLast_mem some'))]
    exact Bool.false_ne_true
  refine ⟨?_, List.rdropWhile_eq_self_iff.mpr fun whole => by simpa [List.getLast_append, List.getLast_cons, some'] using ends⟩
  cases base with
  | nil => exact absurd rfl solid
  | cons head tail =>
    simp [trimStart, head_solid begins]

theorem untagged_tag (four : fourDigits digits = true) (trimmed : Trimmed base) (solid : base ≠ []) :
    untaggedName (base ++ ' ' :: '#' :: digits) = base := by
  rw [untaggedName, trim_trimmed (tagged_trimmed four trimmed.1 solid), rsplit_tag_append base four]
  simp [trimmed.2, four, if_pos solid]

theorem untagged_trimmed (name : List Char) : Trimmed (untaggedName name) := by
  unfold untaggedName
  split
  · exact trimmed_trim name
  · rename_i base digits found
    split
    · exact prefix_trimmed (trimmed_trim name).1 ⟨_, (rsplit_tag_some _ found).symm⟩
    · exact trimmed_trim name

theorem untagged_solid (written : name.all isWhitespaceChar = false) : untaggedName name ≠ [] := by
  have started : trimStart name ≠ [] := by
    intro blank
    exact Bool.false_ne_true (written.symm.trans (List.all_eq_true.mpr (List.dropWhile_eq_nil_iff.mp blank)))
  have some' : trim name ≠ [] := by
    intro empty
    have blank := List.rdropWhile_eq_nil_iff.mp empty _ (List.head_mem started)
    exact Bool.false_ne_true ((List.head_dropWhile_not isWhitespaceChar started).symm.trans blank)
  unfold untaggedName
  split
  · exact some'
  · split
    · rename_i solid
      exact solid.2
    · exact some'

theorem tagged_name_keeps (trimmed : Trimmed base) (solid : base ≠ []) (short : base.length ≤ 74) (tag other : AgentNameTag) :
    taggedName (base ++ ' ' :: '#' :: tag.digits) other = base ++ ' ' :: '#' :: other.digits := by
  have written (value : Nat) : (digit value).isDigit = true :=
    (by decide : ∀ last : Fin 10, (Char.ofNat (48 + last)).isDigit = true) ⟨value % 10, Nat.mod_lt value (by decide)⟩
  have four : fourDigits tag.digits = true := by simp [fourDigits, AgentNameTag.digits, written]
  rw [taggedName, untagged_tag four trimmed solid]
  simp [maxTaggedNameCharacters, tagCharacters, List.take_of_length_le short, trimmed.2]

theorem tags_do_not_stack (name : List Char) (written : name.all isWhitespaceChar = false) (tag other : AgentNameTag) :
    taggedName (taggedName name tag) other = taggedName name other ∧ taggedName (taggedName name tag) tag = taggedName name tag ∧
      (∃ base, base ≠ [] ∧ base <+: untaggedName name ∧ taggedName name other = base ++ ' ' :: '#' :: other.digits) ∧
      ∀ any, (taggedName any other).length ≤ maxTaggedNameCharacters := by
  have trimmed := prefix_trimmed (untagged_trimmed name).1 (List.take_prefix 74 (untaggedName name))
  have short (text : List Char) : (trimEnd (text.take 74)).length ≤ 74 :=
    Nat.le_trans (List.rdropWhile_prefix isWhitespaceChar _).length_le (List.length_take_le 74 text)
  have solid : trimEnd ((untaggedName name).take 74) ≠ [] := by
    intro blank
    obtain ⟨head, rest, whole⟩ := List.exists_cons_of_ne_nil (untagged_solid written)
    have first := head_solid (whole ▸ (untagged_trimmed name).1)
    have space := List.rdropWhile_eq_nil_iff.mp blank head (by simp [whole])
    exact Bool.false_ne_true (first.symm.trans space)
  have part : trimEnd ((untaggedName name).take 74) <+: untaggedName name :=
    (List.rdropWhile_prefix isWhitespaceChar _).trans (List.take_prefix 74 _)
  refine ⟨tagged_name_keeps trimmed solid (short _) tag other, tagged_name_keeps trimmed solid (short _) tag tag,
    ⟨_, solid, part, rfl⟩, fun any => ?_⟩
  have room := short (untaggedName any)
  rw [taggedName, List.length_append]
  exact Nat.add_le_add_right room 6

theorem codex_is_tagged_once : taggedName (taggedName "Codex".toList 2316) 2320 = taggedName "Codex".toList 2320 :=
  (tags_do_not_stack "Codex".toList (by decide) 2316 2320).1

def maxNameCharacters : Nat := 64

def reservedNames : List (List Char) :=
  ["system", "admin", "administrator", "moderator", "mod", "root", "official", "系统", "管理员", "管理者", "版主", "官方", "客服"].map
    String.toList

def reservedPrefix : List Char := "agentroom".toList

structure NetworkAgentName where
  value : List Char
deriving DecidableEq

-- char::to_lowercase is a table of Unicode, of which only the check for reserved names makes use.
variable (toLowercase : Char → List Char)

def normalized (name : List Char) : List Char :=
  (name.filter fun char => !isWhitespaceChar char && !(['-', '_', '.', '·', '・'].contains char)).flatMap toLowercase

def reserved (name : List Char) : Bool :=
  reservedPrefix.isPrefixOf (normalized toLowercase name) || reservedNames.contains (normalized toLowercase name)

def NetworkAgentName.parse (input : List Char) : DomainResult NetworkAgentName :=
  let name := untaggedName input
  if name = [] ∨ maxNameCharacters < name.length then .error (.validation "network_agent_name" "名字须为 1 到 64 个字符")
  else if name.any isControlChar = true then .error (.validation "network_agent_name" "名字不能含控制字符")
  else if reserved toLowercase name = true then .error (.validation "network_agent_name" "这个名字留给平台与管理者")
  else .ok ⟨name⟩

def EndsInTag (text : List Char) : Prop :=
  ∃ base digits, text = base ++ ' ' :: '#' :: digits ∧ fourDigits digits = true ∧ trimEnd base ≠ []

-- Spaces apart, the text is a name with one tag behind the other.
def StackedTags (input : List Char) : Prop :=
  ∃ base digits, trim input = base ++ ' ' :: '#' :: digits ∧ fourDigits digits = true ∧ EndsInTag (trimEnd base)

theorem ends_in_tag_some (tagged : EndsInTag text) : text ≠ [] := by
  obtain ⟨base, digits, rfl, _⟩ := tagged
  simp

theorem untagged_same_iff (trimmed : Trimmed text) : untaggedName text = text ↔ ¬ EndsInTag text := by
  constructor
  · rintro same ⟨base, digits, rfl, four, solid⟩
    rw [untaggedName, trim_trimmed trimmed, rsplit_tag_append base four] at same
    simp only [four, true_and, if_pos solid] at same
    have short := (List.rdropWhile_prefix isWhitespaceChar base).length_le
    have whole := congrArg List.length same
    simp only [trimEnd, List.length_append, List.length_cons] at whole
    omega
  · intro plain
    unfold untaggedName
    split
    · exact trim_trimmed trimmed
    · rename_i base digits found
      rw [if_neg, trim_trimmed trimmed]
      intro tagged
      exact plain ⟨base, digits, (trim_trimmed trimmed) ▸ rsplit_tag_some _ found, tagged⟩

theorem untagged_tagged_iff (input : List Char) : EndsInTag (untaggedName input) ↔ StackedTags input := by
  constructor
  · intro tagged
    unfold untaggedName at tagged
    split at tagged
    · rename_i none
      obtain ⟨base, digits, whole, four, _⟩ := tagged
      rw [whole, rsplit_tag_append base four] at none
      cases none
    · rename_i base digits found
      split at tagged
      · rename_i stripped
        exact ⟨base, digits, rsplit_tag_some _ found, stripped.1, tagged⟩
      · rename_i kept
        obtain ⟨base', digits', whole, four, solid⟩ := tagged
        rw [whole, rsplit_tag_append base' four] at found
        cases found
        exact absurd ⟨four, solid⟩ kept
  · rintro ⟨base, digits, whole, four, tagged⟩
    rw [untaggedName, whole, rsplit_tag_append base four]
    simpa only [four, true_and, if_pos (ends_in_tag_some tagged)] using tagged

theorem accepted_name_hides_nothing_iff (input : List Char) (name : NetworkAgentName)
    (accepted : NetworkAgentName.parse toLowercase input = .ok name) :
    (untaggedName name.value = name.value ∧ ∀ times, reserved toLowercase (untaggedName^[times] name.value) = false) ↔
      ¬ StackedTags input := by
  have read : name.value = untaggedName input ∧ reserved toLowercase (untaggedName input) = false := by
    simp only [NetworkAgentName.parse] at accepted
    split at accepted
    · cases accepted
    · split at accepted
      · cases accepted
      · split at accepted
        · cases accepted
        · rename_i free
          cases accepted
          exact ⟨rfl, Bool.not_eq_true _ ▸ free⟩
  rw [← untagged_tagged_iff, ← untagged_same_iff (untagged_trimmed input), read.1]
  constructor
  · exact fun hidden => hidden.1
  · intro same
    refine ⟨same, fun times => ?_⟩
    rw [Function.iterate_fixed same]
    exact read.2

theorem codex_hides_nothing : untaggedName "Codex".toList = "Codex".toList :=
  ((accepted_name_hides_nothing_iff (fun char => [char.toLower]) "Codex #2316".toList ⟨"Codex".toList⟩ (by decide)).mpr
    ((untagged_tagged_iff _).not.mp ((untagged_same_iff (untagged_trimmed _)).mp (by decide)))).1

theorem admin_hides_behind_two_tags : ∃ name,
    NetworkAgentName.parse (fun char => [char.toLower]) "Admin #1111 #2222".toList = .ok name ∧
      untaggedName name.value ≠ name.value ∧ reserved (fun char => [char.toLower]) (untaggedName name.value) = true :=
  ⟨⟨"Admin #1111".toList⟩, by decide, by decide, by decide⟩

end AgentRoom.AgentNames
