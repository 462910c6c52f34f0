import Mathlib

namespace AgentRoom.Library

variable {α κ : Type} [LinearOrder κ] (key : α → κ)

-- An ordered set kept as the list of its members in rising order.
def insertMember (item : α) : List α → List α
  | [] => [item]
  | head :: rest =>
    if key item < key head then item :: head :: rest
    else if key head < key item then head :: insertMember item rest
    else head :: rest

def collectMembers : List α → List α
  | [] => []
  | item :: rest => insertMember key item (collectMembers rest)

def Rising (members : List α) : Prop := members.Pairwise fun a b => key a < key b

variable {members : List α}

theorem insert_member_source (member : other ∈ insertMember key item members) : other = item ∨ other ∈ members := by
  induction members with
  | nil => exact .inl (List.mem_singleton.mp member)
  | cons head rest ih =>
    unfold insertMember at member
    by_cases before : key item < key head
    · rw [if_pos before] at member
      exact List.mem_cons.mp member
    · rw [if_neg before] at member
      by_cases beyond : key head < key item
      · rw [if_pos beyond] at member
        rcases List.mem_cons.mp member with same | later
        · exact .inr (same ▸ List.mem_cons_self ..)
        · exact (ih later).imp_right (List.mem_cons_of_mem head)
      · rw [if_neg beyond] at member
        exact .inr member

theorem insert_member_rising (item : α) (rising : Rising key members) : Rising key (insertMember key item members) := by
  induction members with
  | nil => exact List.pairwise_singleton ..
  | cons head rest ih =>
    obtain ⟨least, tail⟩ := List.pairwise_cons.mp rising
    unfold insertMember
    by_cases before : key item < key head
    · rw [if_pos before]
      refine List.pairwise_cons.mpr ⟨?_, rising⟩
      intro other member
      rcases List.mem_cons.mp member with same | later
      · rw [same]
        exact before
      · exact lt_trans before (least other later)
    · rw [if_neg before]
      by_cases beyond : key head < key item
      · rw [if_pos beyond]
        refine List.pairwise_cons.mpr ⟨?_, ih tail⟩
        intro other member
        rcases insert_member_source key member with same | later
        · rw [same]
          exact beyond
        · exact least other later
      · rw [if_neg beyond]
        exact rising

theorem collect_members_rising (items : List α) : Rising key (collectMembers key items) := by
  induction items with
  | nil => exact List.Pairwise.nil
  | cons item rest ih => exact insert_member_rising key item ih

theorem collect_members_of_rising (rising : Rising key members) : collectMembers key members = members := by
  induction members with
  | nil => rfl
  | cons head rest ih =>
    obtain ⟨least, tail⟩ := List.pairwise_cons.mp rising
    rw [collectMembers, ih tail]
    cases rest with
    | nil => rfl
    | cons next others => rw [insertMember, if_pos (least next List.mem_cons_self)]

section

variable {key} {members others items : List α} {item other : α} (injective : Function.Injective key)
include injective

theorem mem_insert_member : other ∈ insertMember key item members ↔ other = item ∨ other ∈ members := by
  induction members with
  | nil => simp [insertMember]
  | cons head rest ih =>
    unfold insertMember
    split
    · exact List.mem_cons
    · split
      · rw [List.mem_cons, ih, List.mem_cons, or_left_comm]
      · next before beyond =>
          have same : item = head := injective (le_antisymm (not_lt.mp beyond) (not_lt.mp before))
          simp [same]

theorem mem_collect_members : other ∈ collectMembers key items ↔ other ∈ items := by
  induction items with
  | nil => rfl
  | cons item rest ih => rw [collectMembers, mem_insert_member injective, ih, List.mem_cons]

omit injective

theorem rising_ext (rising : Rising key members) (rising' : Rising key others) (same : ∀ item, item ∈ members ↔ item ∈ others) :
    members = others := by
  have : Std.Irrefl fun a b => key a < key b := ⟨fun a => lt_irrefl (key a)⟩
  have : Std.Antisymm fun a b => key a < key b := ⟨fun _ _ before after => absurd after (lt_asymm before)⟩
  exact List.Pairwise.eq_of_mem_iff rising rising' same

theorem rising_past (rising : Rising key members) (shown : (members.take count).getLast? = some last) :
    members.filter (fun item => key last < key item) = members.drop count := by
  obtain ⟨earlier, parted⟩ := List.getLast?_eq_some_iff.mp shown
  have ordered := rising
  rw [← List.take_append_drop count members, parted] at ordered
  obtain ⟨before, _, across⟩ := List.pairwise_append.mp ordered
  have kept : (members.drop count).filter (fun item => key last < key item) = members.drop count :=
    List.filter_eq_self.mpr fun item listed => decide_eq_true (across last (by simp) item listed)
  have passed : (members.take count).filter (fun item => key last < key item) = [] := by
    rw [parted, List.filter_eq_nil_iff]
    intro item listed
    rcases List.mem_append.mp listed with early | same
    · simpa using le_of_lt ((List.pairwise_append.mp before).2.2 item early last (List.mem_singleton.mpr rfl))
    · simp [List.mem_singleton.mp same]
  calc members.filter (fun item => key last < key item)
      = (members.take count ++ members.drop count).filter (fun item => key last < key item) := by rw [List.take_append_drop]
    _ = members.drop count := by rw [List.filter_append, passed, kept, List.nil_append]

end

-- A sort whose comparison settles every tie does not depend on the order it starts from.
theorem sort_shuffled [DecidableRel r] [Std.Total r] [IsTrans α r] {items shuffled : List α}
    (same : items.Perm shuffled) (settled : ∀ first ∈ items, ∀ second ∈ items, r first second → r second first → first = second) :
    shuffled.insertionSort r = items.insertionSort r :=
  List.Perm.eq_of_pairwise
    (fun first second listed listed' => settled first (same.mem_iff.mpr ((List.mem_insertionSort r).mp listed)) second
      ((List.mem_insertionSort r).mp listed'))
    (List.pairwise_insertionSort r shuffled) (List.pairwise_insertionSort r items)
    ((List.perm_insertionSort r shuffled).trans (same.symm.trans (List.perm_insertionSort r items).symm))

end AgentRoom.Library

namespace AgentRoom.Library

variable {α κ ρ : Type} [LinearOrder κ] [LinearOrder ρ]

-- An item with the key of a listed one takes its place.
def putMember (key : α → κ) (item : α) : List α → List α
  | [] => [item]
  | head :: rest =>
    if key item < key head then item :: head :: rest
    else if key head < key item then head :: putMember key item rest
    else item :: rest

section

variable {key : α → κ}

theorem put_member_source (listed : other ∈ putMember key item members) : other = item ∨ other ∈ members := by
  induction members with
  | nil => exact .inl (List.mem_singleton.mp listed)
  | cons head rest ih =>
    unfold putMember at listed
    by_cases before : key item < key head
    · rw [if_pos before] at listed
      exact List.mem_cons.mp listed
    · rw [if_neg before] at listed
      by_cases beyond : key head < key item
      · rw [if_pos beyond] at listed
        rcases List.mem_cons.mp listed with same | later
        · exact .inr (same ▸ List.mem_cons_self ..)
        · exact (ih later).imp_right (List.mem_cons_of_mem head)
      · rw [if_neg beyond] at listed
        exact (List.mem_cons.mp listed).imp_right (List.mem_cons_of_mem head)

theorem put_member_keys (item : α) (members : List α) : (putMember key item members).map key = (insertMember key item members).map key := by
  induction members with
  | nil => rfl
  | cons head rest ih =>
    unfold putMember insertMember
    by_cases before : key item < key head
    · rw [if_pos before, if_pos before]
    · rw [if_neg before, if_neg before]
      by_cases beyond : key head < key item
      · rw [if_pos beyond, if_pos beyond, List.map_cons, List.map_cons, ih]
      · rw [if_neg beyond, if_neg beyond, List.map_cons, List.map_cons, le_antisymm (not_lt.mp beyond) (not_lt.mp before)]

theorem put_member_rising (item : α) (rising : Rising key members) : Rising key (putMember key item members) := by
  have keys := List.pairwise_map.mpr (insert_member_rising key item rising)
  rw [← put_member_keys] at keys
  exact List.pairwise_map.mp keys

theorem put_member_self : item ∈ putMember key item members := by
  induction members with
  | nil => exact List.mem_singleton.mpr rfl
  | cons head rest ih =>
    unfold putMember
    by_cases before : key item < key head
    · rw [if_pos before]
      exact List.mem_cons_self ..
    · rw [if_neg before]
      by_cases beyond : key head < key item
      · rw [if_pos beyond]
        exact List.mem_cons_of_mem head ih
      · rw [if_neg beyond]
        exact List.mem_cons_self ..

theorem put_member_other (listed : other ∈ members) (apart : key other ≠ key item) : other ∈ putMember key item members := by
  induction members with
  | nil => cases listed
  | cons head rest ih =>
    unfold putMember
    by_cases before : key item < key head
    · rw [if_pos before]
      exact List.mem_cons_of_mem item listed
    · rw [if_neg before]
      by_cases beyond : key head < key item
      · rw [if_pos beyond]
        rcases List.mem_cons.mp listed with same | later
        · exact same ▸ List.mem_cons_self ..
        · exact List.mem_cons_of_mem head (ih later)
      · rw [if_neg beyond]
        have even : key item = key head := le_antisymm (not_lt.mp beyond) (not_lt.mp before)
        rcases List.mem_cons.mp listed with same | later
        · exact absurd (by rw [same, even]) apart
        · exact List.mem_cons_of_mem item later

theorem rising_unique (rising : Rising key members) (listed : first ∈ members)
    (listed' : second ∈ members) (same : key first = key second) : first = second := by
  have distinct : (members.map key).Nodup := List.pairwise_map.mpr (rising.imp fun less => ne_of_lt less)
  exact List.inj_on_of_nodup_map distinct listed listed' same

end

-- A map whose entries carry their keys, in rising order of them.
structure OrderedMap (key : α → κ) where
  items : List α
  rising : Rising key items

namespace OrderedMap

variable {key : α → κ}

def empty (key : α → κ) : OrderedMap key := ⟨[], List.Pairwise.nil⟩

def get (map : OrderedMap key) (place : κ) : Option α := map.items.find? fun item => key item = place

def insert (map : OrderedMap key) (item : α) : OrderedMap key :=
  ⟨putMember key item map.items, put_member_rising item map.rising⟩

def retain (map : OrderedMap key) (keep : α → Bool) : OrderedMap key :=
  ⟨map.items.filter keep, map.rising.sublist List.filter_sublist⟩

variable (map : OrderedMap key)

theorem get_item (place : κ) (item : α) (found : map.get place = some item) : item ∈ map.items ∧ key item = place :=
  ⟨List.mem_of_find?_eq_some found, by simpa using List.find?_some found⟩

theorem get_none (item : α) (missing : map.get (key item) = none) : item ∉ map.items := by
  intro listed
  have missed := List.find?_eq_none.mp missing item listed
  simp at missed

theorem unique (first second : α) (listed : first ∈ map.items) (listed' : second ∈ map.items)
    (same : key first = key second) : first = second :=
  rising_unique map.rising listed listed' same

theorem get_listed (item : α) (listed : item ∈ map.items) : map.get (key item) = some item := by
  cases found : map.get (key item) with
  | none => exact absurd listed (map.get_none item found)
  | some other =>
    obtain ⟨listed', same⟩ := map.get_item _ other found
    rw [map.unique other item listed' listed same]

theorem insert_source (item other : α) (listed : other ∈ (map.insert item).items) : other = item ∨ other ∈ map.items :=
  put_member_source listed

theorem insert_self (item : α) : item ∈ (map.insert item).items :=
  put_member_self

theorem mem_retain (keep : α → Bool) (item : α) :
    item ∈ (map.retain keep).items ↔ item ∈ map.items ∧ keep item = true := List.mem_filter

section

variable (rank : α → ρ)

def outranks (map : OrderedMap key) (item : α) : Bool := (map.get (key item)).all fun held => rank held < rank item

def offer (map : OrderedMap key) (item : α) : OrderedMap key := if map.outranks rank item then map.insert item else map

-- Nothing on the other list with the same key ranks above an entry.
def Unbeaten (key : α → κ) (rank : α → ρ) (item : α) (others : List α) : Prop := ∀ other ∈ others, key other = key item → rank other ≤ rank item

variable (map : OrderedMap key)

theorem offer_source (item kept : α) (listed : kept ∈ (map.offer rank item).items) : kept = item ∨ kept ∈ map.items := by
  by_cases taken : map.outranks rank item = true
  · rw [offer, if_pos taken] at listed
    exact map.insert_source item kept listed
  · rw [offer, if_neg taken] at listed
    exact .inr listed

theorem offers_source (items : List α) (kept : α) (listed : kept ∈ (items.foldl (offer rank) map).items) :
    kept ∈ items ∨ kept ∈ map.items := by
  induction items generalizing map with
  | nil => exact .inr listed
  | cons item rest ih =>
    rcases ih (map.offer rank item) listed with later | early
    · exact .inl (List.mem_cons_of_mem item later)
    · rcases map.offer_source rank item kept early with same | held
      · exact .inl (same ▸ List.mem_cons_self ..)
      · exact .inr held

theorem offer_stays (item other : α) (among : other ∈ item :: map.items) :
    ∃ held ∈ (map.offer rank item).items, key held = key other ∧ rank other ≤ rank held := by
  by_cases taken : map.outranks rank item = true
  · rw [offer, if_pos taken]
    rcases List.mem_cons.mp among with offered | held
    · exact ⟨item, map.insert_self item, by rw [offered], by rw [offered]⟩
    · by_cases same : key other = key item
      · have found := map.get_listed other held
        rw [same] at found
        rw [outranks, found] at taken
        exact ⟨item, map.insert_self item, same.symm, le_of_lt (by simpa using taken)⟩
      · exact ⟨other, put_member_other held same, rfl, le_refl _⟩
  · rw [offer, if_neg taken]
    rcases List.mem_cons.mp among with offered | held
    · rw [outranks] at taken
      cases found : map.get (key item) with
      | none => simp [found] at taken
      | some top =>
        obtain ⟨listed, same⟩ := map.get_item _ top found
        refine ⟨top, listed, by rw [same, offered], ?_⟩
        rw [offered]
        exact not_lt.mp (by simpa [found] using taken)
    · exact ⟨other, held, rfl, le_refl _⟩

theorem offers_unbeaten (items : List α) (kept : α)
    (listed : kept ∈ (items.foldl (offer rank) map).items) : Unbeaten key rank kept (items ++ map.items) := by
  induction items generalizing map with
  | nil =>
    intro other held same
    exact le_of_eq (congrArg rank (map.unique other kept held listed same))
  | cons item rest ih =>
    intro other among same
    have later := ih (map.offer rank item) listed
    rcases List.mem_append.mp among with offered | held
    · rcases List.mem_cons.mp offered with first | other_later
      · obtain ⟨top, stays, at_, above⟩ := map.offer_stays rank item other (first ▸ List.mem_cons_self ..)
        exact le_trans above (later top (List.mem_append_right _ stays) (at_.trans same))
      · exact later other (List.mem_append_left _ other_later) same
    · obtain ⟨top, stays, at_, above⟩ := map.offer_stays rank item other (List.mem_cons_of_mem item held)
      exact le_trans above (later top (List.mem_append_right _ stays) (at_.trans same))

end

end OrderedMap

end AgentRoom.Library
