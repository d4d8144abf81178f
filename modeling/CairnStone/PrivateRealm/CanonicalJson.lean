import CairnStone.JavaScript.Json
import CairnStone.PrivateRealm.Scope
import Mathlib.Data.List.Sort

/-! The payload that the gateway signs: what `assertPlainJson` accepts, and the canonical JSON
text of what it accepts.
-/

namespace CairnStone.PrivateRealm

open JavaScript List

def MAX_DEPTH : Nat := 6
def MAX_KEYS : Nat := 50
def MAX_ARRAY : Nat := 50
def MAX_STRING : Nat := 70000

/-- What `assertPlainJson` returns. It maps arrays with `map`, which keeps empty slots, so an
array may still have them (`none`).
-/
inductive PlainJson : Type where
  | null
  | bool (b : Bool)
  | number (x : Double)
  | string (s : Text)
  | array (slots : List (Option PlainJson))
  | object (members : List (Text × PlainJson))

def FORBIDDEN_KEYS : List Text :=
  [text "__proto__", text "constructor", text "prototype"]

/-- `out[key] = value`: a new key comes last, a known one keeps its place. -/
def setMember (out : List (Text × PlainJson)) (key : Text) (value : PlainJson)
    : List (Text × PlainJson) :=
  if out.any (·.1 == key) then
    out.map (fun mem => if mem.1 == key then (key, value) else mem)
  else
    out ++ [(key, value)]

mutual

def assertPlainJson : Value → Nat → Except Failure PlainJson
  | value, depth =>
    if MAX_DEPTH < depth then
      .error (.realm "invalid_arguments")
    else
      match value with
      | .null => .ok .null
      | .bool b => .ok (.bool b)
      | .number (.finite x) => .ok (.number x)
      | .number _ => .error (.realm "invalid_arguments")
      | .string s =>
        if MAX_STRING < s.length then .error (.realm "invalid_arguments")
        else .ok (.string s)
      | .array slots =>
        if MAX_ARRAY < slots.length then .error (.realm "invalid_arguments")
        else (assertSlots slots (depth + 1)).map .array
      | .object proto properties =>
        if proto = .other then .error (.realm "invalid_arguments")
        else if MAX_KEYS < properties.length then .error (.realm "invalid_arguments")
        else (assertMembers properties (depth + 1) []).map .object
      | .undefined => .error (.realm "invalid_arguments")
      | .other => .error (.realm "invalid_arguments")

/-- `value.map(v => assertPlainJson(v, depth))`: empty slots are skipped and kept. -/
def assertSlots : List (Option Value) → Nat → Except Failure (List (Option PlainJson))
  | [], _ => .ok []
  | none :: rest, depth => do
    let rest ← assertSlots rest depth
    .ok (none :: rest)
  | some value :: rest, depth => do
    let plain ← assertPlainJson value depth
    let rest ← assertSlots rest depth
    .ok (some plain :: rest)

/-- `for (const key of keys) out[key] = assertPlainJson(value[key], depth)` -/
def assertMembers
    : List (Text × Value) → Nat → List (Text × PlainJson)
      → Except Failure (List (Text × PlainJson))
  | [], _, out => .ok out
  | (key, value) :: rest, depth, out =>
    if key ∈ FORBIDDEN_KEYS then
      .error (.realm "invalid_arguments")
    else do
      let plain ← assertPlainJson value depth
      assertMembers rest depth (setMember out key plain)

end

/-- `texts.join(",")` -/
def joinComma : List Text → Text
  | [] => []
  | first :: rest => first ++ rest.flatMap (0x2C :: ·)

/-- `entries` in the order of `Object.keys(value).sort()`. -/
def sortByKey {α : Type} (entries : List (Text × α)) : List (Text × α) :=
  entries.insertionSort (fun a b => a.1 ≤ b.1)

/-- `${JSON.stringify(key)}:${text}` -/
def memberText (mem : Text × Text) : Text :=
  quote mem.1 ++ 0x3A :: mem.2

mutual

def canonicalJson : PlainJson → Text
  | .null => text "null"
  | .bool b => if b then text "true" else text "false"
  | .number x => (Number.finite x).toText
  | .string s => quote s
  | .array slots => 0x5B :: (joinComma (canonicalSlots slots) ++ [0x5D])
  | .object members =>
    0x7B :: (joinComma ((sortByKey (canonicalMembers members)).map memberText) ++ [0x7D])

/-- `value.map(canonicalJson)` as `join` reads it: an empty slot is the empty text. -/
def canonicalSlots : List (Option PlainJson) → List Text
  | [] => []
  | none :: rest => [] :: canonicalSlots rest
  | some value :: rest => canonicalJson value :: canonicalSlots rest

def canonicalMembers : List (Text × PlainJson) → List (Text × Text)
  | [] => []
  | (key, value) :: rest => (key, canonicalJson value) :: canonicalMembers rest

end

/-- The number 1. -/
def ENVELOPE_VERSION : Double :=
  ⟨false, 2 ^ 52, -52, by norm_num, by norm_num, by norm_num, Or.inl le_rfl⟩

def signedPayload (caller method : Text) (args : PlainJson) (iat : Double) (nonce : Text)
    : Text :=
  canonicalJson
    (.object
      [(text "v", .number ENVELOPE_VERSION), (text "caller", .string caller),
        (text "method", .string method), (text "args", args), (text "iat", .number iat),
        (text "nonce", .string nonce)])

@[elab_as_elim]
theorem PlainJson.induct {P : PlainJson → Prop} (null : P .null) (bool : ∀ b, P (.bool b))
    (number : ∀ x, P (.number x)) (string : ∀ s, P (.string s))
    (array : ∀ slots, (∀ v, some v ∈ slots → P v) → P (.array slots))
    (object : ∀ members, (∀ k v, (k, v) ∈ members → P v) → P (.object members))
    : ∀ value, P value := by
  let slotsHold (slots : List (Option PlainJson)) : Prop := ∀ v, some v ∈ slots → P v
  let membersHold (members : List (Text × PlainJson)) : Prop := ∀ k v, (k, v) ∈ members → P v
  let slotHolds (slot : Option PlainJson) : Prop := ∀ v, slot = some v → P v
  refine @PlainJson.rec P slotsHold membersHold slotHolds (fun mem => P mem.2)
    null bool number string array object ?_ ?_ ?_ ?_ ?_ ?_ ?_
  · exact fun v mem => absurd mem not_mem_nil
  · intro slot rest holds ih v mem
    rcases mem_cons.mp mem with first | later
    · exact holds v first.symm
    · exact ih v later
  · exact fun k v mem => absurd mem not_mem_nil
  · intro first rest holds ih k v mem
    rcases mem_cons.mp mem with rfl | later
    · exact holds
    · exact ih k v later
  · exact fun v absent => by cases absent
  · exact fun value holds v same => Option.some.inj same ▸ holds
  · exact fun key value holds => holds

theorem canonicalSlots_eq (slots : List (Option PlainJson))
    : canonicalSlots slots = slots.map (fun slot => (slot.map canonicalJson).getD []) := by
  induction slots with
  | nil => rfl
  | cons slot rest ih => cases slot <;> simp [canonicalSlots, ih]

theorem canonicalMembers_eq (members : List (Text × PlainJson))
    : canonicalMembers members = members.map (fun m => (m.1, canonicalJson m.2)) := by
  induction members with
  | nil => rfl
  | cons mem rest ih => simp [canonicalMembers, ih]

mutual

def UniqueKeys : PlainJson → Prop
  | .array slots => UniqueKeysSlots slots
  | .object members => (members.map Prod.fst).Nodup ∧ UniqueKeysMembers members
  | _ => True

def UniqueKeysSlots : List (Option PlainJson) → Prop
  | [] => True
  | none :: rest => UniqueKeysSlots rest
  | some value :: rest => UniqueKeys value ∧ UniqueKeysSlots rest

def UniqueKeysMembers : List (Text × PlainJson) → Prop
  | [] => True
  | (_, value) :: rest => UniqueKeys value ∧ UniqueKeysMembers rest

end

theorem uniqueKeysSlots_iff {slots : List (Option PlainJson)}
    : UniqueKeysSlots slots ↔ ∀ v, some v ∈ slots → UniqueKeys v := by
  induction slots with
  | nil => simp [UniqueKeysSlots]
  | cons slot rest ih => cases slot <;> simp [UniqueKeysSlots, ih]

theorem uniqueKeysMembers_iff {members : List (Text × PlainJson)}
    : UniqueKeysMembers members ↔ ∀ k v, (k, v) ∈ members → UniqueKeys v := by
  induction members with
  | nil => simp [UniqueKeysMembers]
  | cons mem rest ih =>
    obtain ⟨key, value⟩ := mem
    simp only [UniqueKeysMembers, ih, mem_cons, Prod.mk.injEq]
    constructor
    · rintro ⟨first, later⟩ k v (⟨rfl, rfl⟩ | seen)
      · exact first
      · exact later k v seen
    · intro all
      exact ⟨all key value (.inl ⟨rfl, rfl⟩), fun k v seen => all k v (.inr seen)⟩

variable {out : List (Text × PlainJson)}

theorem mem_setMember {key : Text} {value : PlainJson} {mem : Text × PlainJson}
    (seen : mem ∈ setMember out key value)
    : mem = (key, value) ∨ mem ∈ out := by
  unfold setMember at seen
  split at seen
  · obtain ⟨old, here, rfl⟩ := mem_map.mp seen
    split
    · exact .inl rfl
    · exact .inr here
  · rcases mem_append.mp seen with old | new
    · exact .inr old
    · exact .inl (mem_singleton.mp new)

/-- Assigning a member keeps keys unique. -/
theorem nodup_setMember (nodup : (out.map Prod.fst).Nodup) (key : Text) (value : PlainJson)
    : ((setMember out key value).map Prod.fst).Nodup := by
  unfold setMember
  split
  · have sameKeys
        : (out.map (fun mem => if mem.1 == key then (key, value) else mem)).map
            Prod.fst
          = out.map Prod.fst := by
      rw [map_map]
      refine map_congr_left (fun mem _ => ?_)
      by_cases hit : mem.1 = key
      · simp [hit]
      · simp [hit]
    rwa [sameKeys]
  · rename_i fresh
    rw [map_append, nodup_append]
    refine ⟨nodup, by simp, ?_⟩
    rintro k old k' new rfl
    obtain ⟨mem, seen, rfl⟩ := mem_map.mp old
    apply fresh
    rw [any_eq_true]
    exact ⟨mem, seen, by simpa using new⟩

mutual

theorem uniqueKeys_assertPlainJson {value : Value} {depth : Nat} {plain : PlainJson}
    (taken : assertPlainJson value depth = .ok plain)
    : UniqueKeys plain := by
  cases value with
  | undefined =>
    rw [assertPlainJson] at taken
    split at taken <;> cases taken
  | null =>
    rw [assertPlainJson] at taken
    split at taken <;> cases taken
    trivial
  | bool b =>
    rw [assertPlainJson] at taken
    split at taken <;> cases taken
    trivial
  | number n =>
    cases n with
    | finite x =>
      rw [assertPlainJson] at taken
      split at taken <;> cases taken
      trivial
    | nan =>
      simp only [assertPlainJson] at taken
      split at taken <;> cases taken
    | infinity negative =>
      simp only [assertPlainJson] at taken
      split at taken <;> cases taken
  | string s =>
    rw [assertPlainJson] at taken
    split at taken
    · cases taken
    · split at taken <;> cases taken
      trivial
  | array slots =>
    rw [assertPlainJson] at taken
    split at taken
    · cases taken
    · split at taken
      · cases taken
      · obtain ⟨plainSlots, mapped, rfl⟩ := map_eq_ok.mp taken
        exact uniqueKeysSlots_assertSlots mapped
  | object proto properties =>
    rw [assertPlainJson] at taken
    split_ifs at taken
    · obtain ⟨members, rebuilt, rfl⟩ := map_eq_ok.mp taken
      have empty : (([] : List (Text × PlainJson)).map Prod.fst).Nodup := nodup_nil
      exact uniqueKeysMembers_assertMembers empty trivial rebuilt
  | other =>
    rw [assertPlainJson] at taken
    split at taken <;> cases taken

theorem uniqueKeysSlots_assertSlots {slots : List (Option Value)} {depth : Nat}
    {plain : List (Option PlainJson)} (taken : assertSlots slots depth = .ok plain)
    : UniqueKeysSlots plain := by
  match slots with
  | [] =>
    cases taken
    trivial
  | none :: rest =>
    rw [assertSlots] at taken
    obtain ⟨plainRest, later, result⟩ := bind_eq_ok.mp taken
    cases result
    change UniqueKeysSlots plainRest
    exact uniqueKeysSlots_assertSlots later
  | some value :: rest =>
    rw [assertSlots] at taken
    obtain ⟨first, holds, result⟩ := bind_eq_ok.mp taken
    obtain ⟨plainRest, later, result⟩ := bind_eq_ok.mp result
    cases result
    exact ⟨uniqueKeys_assertPlainJson holds, uniqueKeysSlots_assertSlots later⟩

theorem uniqueKeysMembers_assertMembers {properties : List (Text × Value)} {depth : Nat}
    {out plain : List (Text × PlainJson)} (nodup : (out.map Prod.fst).Nodup)
    (unique : UniqueKeysMembers out)
    (taken : assertMembers properties depth out = .ok plain)
    : (plain.map Prod.fst).Nodup ∧ UniqueKeysMembers plain := by
  match properties with
  | [] =>
    cases taken
    exact ⟨nodup, unique⟩
  | (key, value) :: rest =>
    rw [assertMembers] at taken
    split at taken
    · cases taken
    · obtain ⟨first, holds, later⟩ := bind_eq_ok.mp taken
      refine uniqueKeysMembers_assertMembers (nodup_setMember nodup key first) ?_ later
      rw [uniqueKeysMembers_iff]
      intro k v seen
      rcases mem_setMember seen with same | old
      · cases same
        exact uniqueKeys_assertPlainJson holds
      · exact uniqueKeysMembers_iff.mp unique k v old

end

end CairnStone.PrivateRealm
