import Mathlib.Data.Rat.Defs
import Mathlib.Tactic.Common

namespace AgentRoom.Library

-- An integer and a fraction of equal value are different numbers.
inductive JsonNumber where
  | integer (value : Int)
  | fraction (value : Rat)

def JsonNumber.value : JsonNumber → Rat
  | .integer value => value
  | .fraction value => value

inductive Json where
  | null
  | bool (value : Bool)
  | number (value : JsonNumber)
  | string (text : String)
  | array (items : List Json)
  | object (fields : List (String × Json))

variable {α : Type}

def lookup (key : String) (fields : List (String × α)) : Option α :=
  (fields.find? fun field => field.1 = key).map Prod.snd

variable (key : String)

theorem lookup_head (value : α) (rest : List (String × α)) : lookup key ((key, value) :: rest) = some value := by
  simp [lookup]

theorem lookup_next {key other : String} (value : α) (different : other ≠ key) :
    lookup key ((other, value) :: rest) = lookup key rest := by
  simp [lookup, different]

@[simp] theorem lookup_nil : lookup key ([] : List (String × α)) = none := rfl

@[simp] theorem lookup_append (first second : List (String × α)) :
    lookup key (first ++ second) = (lookup key first).or (lookup key second) := by
  simp only [lookup, List.find?_append]
  cases List.find? (fun field => decide (field.1 = key)) first with
  | none => simp
  | some field => simp

theorem lookup_filter (kept : String → Bool) (fields : List (String × α)) (keeps : kept key = true) :
    lookup key (fields.filter fun field => kept field.1) = lookup key fields := by
  induction fields with
  | nil => rfl
  | cons field rest ih =>
    obtain ⟨other, value⟩ := field
    by_cases same : other = key
    · rw [same, List.filter_cons_of_pos (by simpa using keeps), lookup_head, lookup_head]
    · by_cases stays : kept other = true
      · rw [List.filter_cons_of_pos (by simpa using stays), lookup_next value same, lookup_next value same, ih]
      · rw [List.filter_cons_of_neg (by simpa using stays), lookup_next value same, ih]

namespace Json

def asObject : Json → Option (List (String × Json))
  | .object fields => some fields
  | _ => none

def get (json : Json) (key : String) : Option Json := json.asObject.bind (lookup key)

def asStr : Json → Option String
  | .string text => some text
  | _ => none

def asNumber : Json → Option Rat
  | .number amount => some amount.value
  | _ => none

def asU64 : Json → Option Nat
  | .number (.integer value) => if 0 ≤ value then some value.toNat else none
  | _ => none

def isNull : Json → Bool
  | .null => true
  | _ => false

def asVariant (named : String → Option α) : Json → Option α
  | .string name => named name
  | .object [(name, .null)] => named name
  | _ => none

end Json

def required (key : String) (decode : Json → Option α) (fields : List (String × Json)) : Option α :=
  (lookup key fields).bind decode

def optional (key : String) (decode : Json → Option α) (fields : List (String × Json)) : Option (Option α) :=
  match lookup key fields with
  | none | some .null => some none
  | some value => (decode value).map some

def remaining (known : List String) (fields : List (String × Json)) : List (String × Json) :=
  fields.filter fun field => !decide (field.1 ∈ known)

theorem lookup_remaining {key : String} {fields : List (String × Json)} (unknown : key ∉ known) :
    lookup key (remaining known fields) = lookup key fields :=
  lookup_filter key (fun name => !decide (name ∈ known)) fields (by simpa using unknown)

end AgentRoom.Library
