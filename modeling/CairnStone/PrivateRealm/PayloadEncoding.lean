import CairnStone.PrivateRealm.CanonicalJson

/-! How far the signed payload determines what was signed. Canonical texts can be split off the
front of any text that goes on with a delimiter, and they determine the value except that an
array with one empty slot is written like an empty array.
-/

namespace CairnStone.PrivateRealm

open JavaScript List Number

variable {lenient : Bool} {u : CodeUnit}

/-- An array that is written `[]`. -/
def Bare (slots : List (Option PlainJson)) : Prop :=
  slots = [] ∨ slots = [none]

mutual

/-- Equality of JSON values: objects are unordered, and both zeros are one number. A lenient
comparison also takes every two arrays that are written `[]` for equal.
-/
def Agree (lenient : Bool) : PlainJson → PlainJson → Prop
  | .null, .null => True
  | .bool a, .bool b => a = b
  | .number x, .number y => Number.Same (.finite x) (.finite y)
  | .string s, .string t => s = t
  | .array a, .array b => (lenient = true ∧ Bare a ∧ Bare b) ∨ AgreeSlots lenient a b
  | .object a, .object b => a.length = b.length ∧ AgreeMembers lenient a b
  | _, _ => False

def AgreeSlots (lenient : Bool) : List (Option PlainJson) → List (Option PlainJson) → Prop
  | [], [] => True
  | none :: a, none :: b => AgreeSlots lenient a b
  | some v :: a, some w :: b => Agree lenient v w ∧ AgreeSlots lenient a b
  | _, _ => False

def AgreeMembers (lenient : Bool)
    : List (Text × PlainJson) → List (Text × PlainJson) → Prop
  | [], _ => True
  | (key, v) :: rest, others =>
    (∃ w, (key, w) ∈ others ∧ Agree lenient v w) ∧ AgreeMembers lenient rest others

end

/-- Equality of JSON values. -/
def SameJson (v w : PlainJson) : Prop :=
  Agree false v w

/-- Equality of JSON values up to an empty slot alone in its array. -/
def SameButForHole (v w : PlainJson) : Prop :=
  Agree true v w

variable {a b : List (Text × PlainJson)}

theorem agreeMembers_iff
    : AgreeMembers lenient a b ↔ ∀ k v, (k, v) ∈ a → ∃ w, (k, w) ∈ b ∧ Agree lenient v w := by
  induction a with
  | nil => simp [AgreeMembers]
  | cons mem rest ih =>
    obtain ⟨key, value⟩ := mem
    simp only [AgreeMembers, ih, mem_cons, Prod.mk.injEq]
    constructor
    · rintro ⟨first, later⟩ k v (⟨rfl, rfl⟩ | seen)
      · exact first
      · exact later k v seen
    · intro all
      exact ⟨all key value (.inl ⟨rfl, rfl⟩), fun k v seen => all k v (.inr seen)⟩

/-- `,`, `]` or `}` -/
def isDelimiter (u : CodeUnit) : Bool :=
  u == 0x2C || u == 0x5D || u == 0x7D

def Delimited (rest : Text) : Prop :=
  ∀ u ∈ rest.head?, isDelimiter u

theorem delimited_cons {rest : Text} (delimiter : isDelimiter u)
    : Delimited (u :: rest) := by
  simpa [Delimited] using delimiter

/-- The kind of a value, as far as the first code unit of its text tells. -/
def PlainJson.kind : PlainJson → Nat
  | .null => 0
  | .bool b => if b then 1 else 2
  | .number _ => 3
  | .string _ => 4
  | .array _ => 5
  | .object _ => 6

def opened (u : CodeUnit) : Nat :=
  if u = 0x6E then 0
  else if u = 0x74 then 1
  else if u = 0x66 then 2
  else if u = 0x22 then 4
  else if u = 0x5B then 5
  else if u = 0x7B then 6
  else if isDelimiter u then 7
  else 3

theorem not_delimiter_of_isNumberUnit (unit : isNumberUnit u)
    : isDelimiter u = false := by
  by_contra delimiter
  simp only [isDelimiter, Bool.not_eq_false, Bool.or_eq_true, beq_iff_eq] at delimiter
  rcases delimiter with (rfl | rfl) | rfl <;> exact absurd unit (by decide)

theorem opened_of_isNumberUnit (unit : isNumberUnit u) : opened u = 3 := by
  have delimiter := not_delimiter_of_isNumberUnit unit
  unfold opened
  split_ifs with h1 h2 h3 h4 h5 h6 h7
  · subst h1
    exact absurd unit (by decide)
  · subst h2
    exact absurd unit (by decide)
  · subst h3
    exact absurd unit (by decide)
  · subst h4
    exact absurd unit (by decide)
  · subst h5
    exact absurd unit (by decide)
  · subst h6
    exact absurd unit (by decide)
  · rw [delimiter] at h7
    cases h7
  · rfl

/-- The first code unit of a value's text tells its kind. -/
theorem exists_canonicalJson_eq_cons (v : PlainJson)
    : ∃ u rest, canonicalJson v = u :: rest ∧ opened u = v.kind := by
  cases v with
  | null => exact ⟨_, _, rfl, by decide⟩
  | bool b => cases b <;> exact ⟨_, _, rfl, by decide⟩
  | number x =>
    obtain ⟨u, rest, put⟩ := exists_cons_of_ne_nil (toText_ne_nil x)
    have unit : isNumberUnit u :=
      isNumberUnit_of_mem_toText (put ▸ mem_cons_self)
    exact ⟨u, rest, by rw [canonicalJson, put], opened_of_isNumberUnit unit⟩
  | string s => exact ⟨_, _, rfl, rfl⟩
  | array slots => exact ⟨_, _, rfl, rfl⟩
  | object members => exact ⟨_, _, rfl, rfl⟩

/-- Values of different kinds have different texts. -/
theorem kind_eq_of_append_eq {v w : PlainJson} {r r' : Text}
    (same : canonicalJson v ++ r = canonicalJson w ++ r')
    : v.kind = w.kind := by
  obtain ⟨u, rest, put, kind⟩ := exists_canonicalJson_eq_cons v
  obtain ⟨u', rest', written', kind'⟩ := exists_canonicalJson_eq_cons w
  rw [put, written', cons_append, cons_append] at same
  rw [← kind, ← kind', (cons.inj same).1]

/-- No value is written with a leading delimiter. -/
theorem canonicalJson_not_delimited (v : PlainJson)
    : ∃ u rest, canonicalJson v = u :: rest ∧ isDelimiter u = false := by
  obtain ⟨u, rest, put, kind⟩ := exists_canonicalJson_eq_cons v
  refine ⟨u, rest, put, ?_⟩
  by_contra delimiter
  simp only [isDelimiter, Bool.not_eq_false, Bool.or_eq_true, beq_iff_eq] at delimiter
  have seven : opened u = 7 := by rcases delimiter with (rfl | rfl) | rfl <;> decide
  rw [seven] at kind
  cases v <;> simp [PlainJson.kind] at kind
  split at kind <;> cases kind

/-- A number ends where its number units end. -/
theorem number_append_inj {x y : Double} {r r' : Text} (delimited : Delimited r)
    (delimited' : Delimited r')
    (same : (finite x).toText ++ r = (finite y).toText ++ r')
    : (finite x).toText = (finite y).toText ∧ r = r' := by
  have stops {t : Text} (delimited : Delimited t) : t.takeWhile isNumberUnit = [] := by
    cases t with
    | nil => rfl
    | cons u rest =>
      have delimiter : isDelimiter u := delimited u rfl
      refine takeWhile_cons_of_neg (fun unit => ?_)
      rw [not_delimiter_of_isNumberUnit unit] at delimiter
      cases delimiter
  have taken {z : Double} {t : Text} (delimited : Delimited t)
      : ((finite z).toText ++ t).takeWhile isNumberUnit = (finite z).toText := by
    rw [takeWhile_append_of_pos (fun u => isNumberUnit_of_mem_toText),
      stops delimited, append_nil]
  have texts : (finite x).toText = (finite y).toText := by
    rw [← taken delimited, same, taken delimited']
  rw [texts] at same
  exact ⟨texts, append_cancel_left same⟩

section Joined

variable {α : Type} {f : α → Text} {R : α → α → Prop} {close : CodeUnit}

def ItemsSplit (f : α → Text) (R : α → α → Prop) (a b : List α) : Prop :=
  ∀ x ∈ a, ∀ y ∈ b, ∀ r r', Delimited r → Delimited r' → f x ++ r = f y ++ r' → R x y ∧ r = r'

def Blank (f : α → Text) (items : List α) : Prop :=
  items = [] ∨ ∃ x, items = [x] ∧ f x = []

theorem delimited_following (closes : isDelimiter close) (items : List α) (rest : Text)
    : Delimited (items.flatMap (0x2C :: f ·) ++ close :: rest) := by
  cases items with
  | nil => exact delimited_cons closes
  | cons x items => exact delimited_cons (by decide)

/-- What follows the first item is a sequence of commas and items up to the closing unit.
Witness: induction on the items; a comma is not the closing unit.
-/
theorem following_split (closes : isDelimiter close) (noComma : close ≠ 0x2C) {a b : List α}
    (splits : ItemsSplit f R a b) {r r' : Text}
    (same
      : a.flatMap (0x2C :: f ·) ++ close :: r = b.flatMap (0x2C :: f ·) ++ close :: r')
    : List.Forall₂ R a b ∧ r = r' := by
  induction a generalizing b with
  | nil =>
    cases b with
    | nil => exact ⟨.nil, (cons.inj same).2⟩
    | cons y b => exact absurd (cons.inj same).1 noComma
  | cons x a ih =>
    cases b with
    | nil => exact absurd (cons.inj same).1.symm noComma
    | cons y b =>
      simp only [flatMap_cons, cons_append, append_assoc, List.cons.injEq,
        true_and] at same
      obtain ⟨first, rest⟩ :=
        splits x (.head _) y (.head _) _ _
          (delimited_following closes a r) (delimited_following closes b r') same
      have later : ItemsSplit f R a b := fun x hx y hy =>
        splits x (.tail _ hx) y (.tail _ hy)
      obtain ⟨tail, remainder⟩ := ih later rest
      exact ⟨.cons first tail, remainder⟩

theorem joinComma_map_cons (x : α) (rest : List α)
    : joinComma ((x :: rest).map f) = f x ++ rest.flatMap (0x2C :: f ·) := by
  rw [map_cons, joinComma, flatMap_map]

theorem joined_split (closes : isDelimiter close) (noComma : close ≠ 0x2C) {a b : List α}
    (splits : ItemsSplit f R a b) (opens : ∀ x, ∀ u ∈ (f x).head?, isDelimiter u = false)
    {r r' : Text}
    (same : joinComma (a.map f) ++ close :: r = joinComma (b.map f) ++ close :: r')
    : (List.Forall₂ R a b ∨ (Blank f a ∧ Blank f b)) ∧ r = r' := by
  have lone (y : α) (rest : List α) (s s' : Text)
      (same : close :: s = joinComma ((y :: rest).map f) ++ close :: s')
      : Blank f (y :: rest) ∧ s = s' := by
    rw [joinComma_map_cons, append_assoc] at same
    match put : f y with
    | u :: t =>
      rw [put, cons_append] at same
      have notDelimiter := opens y u (by simp [put])
      rw [← (cons.inj same).1, closes] at notDelimiter
      cases notDelimiter
    | [] =>
      rw [put, nil_append] at same
      match rest with
      | [] => exact ⟨.inr ⟨y, rfl, put⟩, (cons.inj same).2⟩
      | z :: rest => exact absurd (cons.inj same).1 noComma
  match a, b with
  | [], [] => exact ⟨.inl .nil, (cons.inj same).2⟩
  | [], y :: b =>
    obtain ⟨blank, remainder⟩ := lone y b r r' same
    exact ⟨.inr ⟨.inl rfl, blank⟩, remainder⟩
  | x :: a, [] =>
    obtain ⟨blank, remainder⟩ := lone x a r' r same.symm
    exact ⟨.inr ⟨blank, .inl rfl⟩, remainder.symm⟩
  | x :: a, y :: b =>
    rw [joinComma_map_cons, joinComma_map_cons, append_assoc, append_assoc] at same
    obtain ⟨first, rest⟩ :=
      splits x (.head _) y (.head _) _ _ (delimited_following closes a r)
        (delimited_following closes b r') same
    have later : ItemsSplit f R a b := fun x hx y hy =>
      splits x (.tail _ hx) y (.tail _ hy)
    obtain ⟨tail, remainder⟩ := following_split closes noComma later rest
    exact ⟨.inl (.cons first tail), remainder⟩

end Joined

def slotText (slot : Option PlainJson) : Text :=
  (slot.map canonicalJson).getD []

def entryText (mem : Text × PlainJson) : Text :=
  memberText (mem.1, canonicalJson mem.2)

theorem canonicalSlots_eq_map (slots : List (Option PlainJson))
    : canonicalSlots slots = slots.map slotText :=
  canonicalSlots_eq slots

theorem sorted_members_eq (members : List (Text × PlainJson))
    : (sortByKey (canonicalMembers members)).map memberText
      = (sortByKey members).map entryText := by
  have sorted := map_insertionSort (fun a b : Text × PlainJson => a.1 ≤ b.1)
    (fun a b : Text × Text => a.1 ≤ b.1) (fun m => (m.1, canonicalJson m.2)) members
    (fun _ _ _ _ => Iff.rfl)
  rw [canonicalMembers_eq, sortByKey, sortByKey, ← sorted, map_map]
  rfl

theorem mem_sortByKey {α : Type} {members : List (Text × α)} {mem : Text × α}
    : mem ∈ sortByKey members ↔ mem ∈ members :=
  (perm_insertionSort _ members).mem_iff

theorem agreeSlots_iff {a b : List (Option PlainJson)}
    : AgreeSlots lenient a b ↔ List.Forall₂ (Option.Rel (Agree lenient)) a b := by
  induction a generalizing b with
  | nil => cases b <;> simp [AgreeSlots]
  | cons slot a ih =>
    cases b with
    | nil => simp [AgreeSlots]
    | cons slot' b => cases slot <;> cases slot' <;> simp [AgreeSlots, ih]

theorem exists_mem_of_forall₂ {α β : Type} {R : α → β → Prop} {a : List α} {b : List β}
    (all : List.Forall₂ R a b) {x : α} (seen : x ∈ a)
    : ∃ y ∈ b, R x y := by
  induction all with
  | nil => cases seen
  | @cons x' y' a b first rest ih =>
    rcases mem_cons.mp seen with rfl | later
    · exact ⟨y', .head _, first⟩
    · obtain ⟨y, here, related⟩ := ih later
      exact ⟨y, .tail _ here, related⟩

/-- The text of the value can be split off the front of any text that goes on with a
delimiter, and no other value has it.
-/
def Splits (v : PlainJson) : Prop :=
  ∀ w r r', UniqueKeys v → UniqueKeys w → Delimited r → Delimited r'
    → canonicalJson v ++ r = canonicalJson w ++ r' → SameButForHole v w ∧ r = r'

variable {slots : List (Option PlainJson)}

theorem splits_array (splits : ∀ v, some v ∈ slots → Splits v)
    : Splits (.array slots) := by
  intro w r r' unique unique' delimited delimited' same
  have kinds := kind_eq_of_append_eq same
  cases w with
  | array slots' =>
    have items : ItemsSplit slotText (Option.Rel (Agree true)) slots slots' := by
      intro x hx y hy t t' ht ht' same
      have clash (v : PlainJson) {s s' : Text} (hs : Delimited s)
          (same : s = canonicalJson v ++ s')
          : False := by
        obtain ⟨u, rest, put, notDelimiter⟩ := canonicalJson_not_delimited v
        have delimiter : isDelimiter u := by
          apply hs
          simp [same, put]
        rw [notDelimiter] at delimiter
        cases delimiter
      match x, y with
      | none, none => exact ⟨.none, same⟩
      | none, some v => exact (clash v ht same).elim
      | some v, none => exact (clash v ht' same.symm).elim
      | some v, some w =>
        obtain ⟨agree, rest⟩ :=
          splits v hx w t t' (uniqueKeysSlots_iff.mp unique v hx)
            (uniqueKeysSlots_iff.mp unique' w hy) ht ht' same
        exact ⟨.some agree, rest⟩
    have opens : ∀ x, ∀ u ∈ (slotText x).head?, isDelimiter u = false := by
      intro x u head
      cases x with
      | none => cases head
      | some v =>
        obtain ⟨u', rest, put, notDelimiter⟩ := canonicalJson_not_delimited v
        simp only [slotText, Option.map_some, Option.getD_some, put, head?_cons,
          Option.mem_some_iff] at head
        rw [← head]
        exact notDelimiter
    have blank {a : List (Option PlainJson)} (blank : Blank slotText a) : Bare a := by
      rcases blank with empty | ⟨x, rfl, put⟩
      · exact .inl empty
      · cases x with
        | none => exact .inr rfl
        | some v =>
          obtain ⟨u, rest, text, _⟩ := canonicalJson_not_delimited v
          simp [slotText, text] at put
    simp only [canonicalJson, canonicalSlots_eq_map, cons_append, append_assoc,
      nil_append, List.cons.injEq, true_and] at same
    obtain ⟨agree, rest⟩ := joined_split (by decide) (by decide) items opens same
    refine ⟨?_, rest⟩
    rcases agree with all | ⟨left, right⟩
    · exact .inr (agreeSlots_iff.mpr all)
    · exact .inl ⟨rfl, blank left, blank right⟩
  | bool b => cases b <;> cases kinds
  | _ => cases kinds

theorem splits_object {members : List (Text × PlainJson)}
    (splits : ∀ k v, (k, v) ∈ members → Splits v)
    : Splits (.object members) := by
  intro w r r' unique unique' delimited delimited' same
  have kinds := kind_eq_of_append_eq same
  cases w with
  | object members' =>
    let R (m m' : Text × PlainJson) : Prop := m.1 = m'.1 ∧ SameButForHole m.2 m'.2
    have items : ItemsSplit entryText R (sortByKey members) (sortByKey members') := by
      rintro ⟨k, v⟩ hx ⟨k', v'⟩ hy t t' ht ht' same
      have seen := mem_sortByKey.mp hx
      have listed' := mem_sortByKey.mp hy
      simp only [entryText, memberText, append_assoc, cons_append] at same
      obtain ⟨sameKey, rest⟩ := quote_append_inj same
      obtain ⟨agree, remainder⟩ :=
        splits k v seen v' t t' (uniqueKeysMembers_iff.mp unique.2 k v seen)
          (uniqueKeysMembers_iff.mp unique'.2 k' v' listed') ht ht' (cons.inj rest).2
      exact ⟨⟨sameKey, agree⟩, remainder⟩
    have opens : ∀ x, ∀ u ∈ (entryText x).head?, isDelimiter u = false := by
      intro x u head
      have quoteMark : u = 0x22 := by simpa [entryText, memberText, quote] using head.symm
      rw [quoteMark]
      decide
    have blank {a : List (Text × PlainJson)} (blank : Blank entryText a) : a = [] := by
      rcases blank with empty | ⟨x, rfl, put⟩
      · exact empty
      · simp [entryText, memberText, quote] at put
    simp only [canonicalJson, sorted_members_eq, cons_append, append_assoc,
      nil_append, List.cons.injEq, true_and] at same
    obtain ⟨agree, rest⟩ := joined_split (by decide) (by decide) items opens same
    refine ⟨?_, rest⟩
    have all : List.Forall₂ R (sortByKey members) (sortByKey members') := by
      rcases agree with all | ⟨left, right⟩
      · exact all
      · rw [blank left, blank right]
        exact .nil
    have size : members.length = members'.length := by
      have lengths := all.length_eq
      rwa [sortByKey, sortByKey, length_insertionSort, length_insertionSort]
        at lengths
    refine ⟨size, agreeMembers_iff.mpr (fun k v seen => ?_)⟩
    obtain ⟨⟨k', v'⟩, listed', sameKey, agree⟩ :=
      exists_mem_of_forall₂ all (mem_sortByKey.mpr seen)
    obtain rfl : k = k' := sameKey
    exact ⟨v', mem_sortByKey.mp listed', agree⟩
  | bool b => cases b <;> cases kinds
  | _ => cases kinds

/-- Every plain value can be split off. Witness: induction on the value; quotes, brackets and
delimiters show where each part ends.
-/
theorem splits (v : PlainJson) : Splits v := by
  induction v using PlainJson.induct with
  | null =>
    intro w r r' _ _ _ _ same
    have kinds := kind_eq_of_append_eq same
    cases w with
    | null => exact ⟨trivial, append_cancel_left same⟩
    | bool b => cases b <;> cases kinds
    | _ => cases kinds
  | bool b =>
    intro w r r' _ _ _ _ same
    have kinds := kind_eq_of_append_eq same
    cases w with
    | bool b' =>
      obtain rfl : b = b' := by
        cases b <;> cases b' <;> first | rfl | cases kinds
      exact ⟨rfl, append_cancel_left same⟩
    | _ => cases b <;> cases kinds
  | number x =>
    intro w r r' _ _ delimited delimited' same
    have kinds := kind_eq_of_append_eq same
    cases w with
    | number y =>
      obtain ⟨texts, rest⟩ := number_append_inj delimited delimited' same
      exact ⟨same_of_toText_eq texts, rest⟩
    | bool b => cases b <;> cases kinds
    | _ => cases kinds
  | string s =>
    intro w r r' _ _ _ _ same
    have kinds := kind_eq_of_append_eq same
    cases w with
    | string s' => exact quote_append_inj same
    | bool b => cases b <;> cases kinds
    | _ => cases kinds
  | array slots ih => exact splits_array ih
  | object members ih => exact splits_object ih

/-- Two arrays that are written `[]` are written alike. -/
theorem joinComma_bare (bare : Bare slots)
    : joinComma (canonicalSlots slots) = [] := by
  rcases bare with rfl | rfl <;> rfl

/-- Members with unique keys that agree as unordered maps are written alike.
Witness: their written members are a permutation of each other, and a list that is sorted by
distinct keys is determined by its members.
-/
theorem sortByKey_eq_of_agree (unique : (a.map Prod.fst).Nodup)
    (unique' : (b.map Prod.fst).Nodup) (size : a.length = b.length)
    (agree : ∀ k v, (k, v) ∈ a → ∃ w, (k, w) ∈ b ∧ canonicalJson v = canonicalJson w)
    : sortByKey (canonicalMembers a) = sortByKey (canonicalMembers b) := by
  have keys (members : List (Text × PlainJson))
      : (canonicalMembers members).map Prod.fst = members.map Prod.fst := by
    rw [canonicalMembers_eq, map_map]
    rfl
  have subset : canonicalMembers a ⊆ canonicalMembers b := by
    intro mem seen
    rw [canonicalMembers_eq] at seen ⊢
    obtain ⟨⟨k, v⟩, here, rfl⟩ := mem_map.mp seen
    obtain ⟨w, present', texts⟩ := agree k v here
    exact mem_map.mpr ⟨(k, w), present', by rw [texts]⟩
  have nodup : (canonicalMembers a).Nodup := by
    refine List.Nodup.of_map Prod.fst ?_
    rwa [keys]
  have perm : (canonicalMembers a).Perm (canonicalMembers b) := by
    refine (subperm_of_subset nodup subset).perm_of_length_le ?_
    rw [canonicalMembers_eq, canonicalMembers_eq, length_map, length_map, size]
  have sorted (entries : List (Text × Text))
      : (sortByKey entries).Pairwise (fun x y => x.1 ≤ y.1) :=
    pairwise_insertionSort _ entries
  have sortedPerm : (sortByKey (canonicalMembers a)).Perm (sortByKey (canonicalMembers b)) :=
    (perm_insertionSort _ _).trans (perm.trans (perm_insertionSort _ _).symm)
  refine List.Perm.eq_of_pairwise (fun x y hx hy le le' => ?_) (sorted _) (sorted _) sortedPerm
  have sameKey : x.1 = y.1 := le_antisymm le le'
  have hx' := mem_sortByKey.mp hx
  have hy' := mem_sortByKey.mp hy
  refine inj_on_of_nodup_map ?_ (perm.subset hx') hy' sameKey
  rwa [keys]

/-- Values that agree have one canonical text, whatever the order of their keys.
Witness: induction on the value.
-/
theorem canonicalJson_eq_of_agree (v w : PlainJson) (unique : UniqueKeys v)
    (unique' : UniqueKeys w) (agree : Agree lenient v w)
    : canonicalJson v = canonicalJson w := by
  induction v using PlainJson.induct generalizing w with
  | null =>
    cases w with
    | null => rfl
    | _ => exact agree.elim
  | bool b =>
    cases w with
    | bool b' => rw [show b = b' from agree]
    | _ => exact agree.elim
  | number x =>
    cases w with
    | number y => exact toText_eq_of_same agree
    | _ => exact agree.elim
  | string s =>
    cases w with
    | string s' => rw [show s = s' from agree]
    | _ => exact agree.elim
  | array slots ih =>
    cases w with
    | array slots' =>
      rcases agree with ⟨_, bare, bare'⟩ | agree
      · rw [canonicalJson, canonicalJson, joinComma_bare bare, joinComma_bare bare']
      · have texts : slots.map slotText = slots'.map slotText := by
          have all := agreeSlots_iff.mp agree
          have each (v w : PlainJson) (hv : some v ∈ slots) (hw : some w ∈ slots')
              (same : Agree lenient v w)
              : canonicalJson v = canonicalJson w :=
            ih v hv w (uniqueKeysSlots_iff.mp unique v hv)
              (uniqueKeysSlots_iff.mp unique' w hw) same
          clear ih unique unique' agree
          induction all with
          | nil => rfl
          | @cons slot slot' rest rest' first _ rests =>
            have heads : slotText slot = slotText slot' := by
              cases first with
              | none => rfl
              | @some v w same =>
                exact each v w (.head _) (.head _) same
            rw [map_cons, map_cons, heads,
              rests (fun v w hv hw =>
                each v w (.tail _ hv) (.tail _ hw))]
        rw [canonicalJson, canonicalJson, canonicalSlots_eq_map, canonicalSlots_eq_map, texts]
    | _ => exact agree.elim
  | object members ih =>
    cases w with
    | object members' =>
      have sorted : sortByKey (canonicalMembers members)
          = sortByKey (canonicalMembers members') := by
        refine sortByKey_eq_of_agree unique.1 unique'.1 agree.1 (fun k v seen => ?_)
        obtain ⟨w, listed', same⟩ := agreeMembers_iff.mp agree.2 k v seen
        exact ⟨w, listed', ih k v seen w (uniqueKeysMembers_iff.mp unique.2 k v seen)
          (uniqueKeysMembers_iff.mp unique'.2 k w listed') same⟩
      rw [canonicalJson, canonicalJson, sorted]
    | _ => exact agree.elim

/-- Two plain values have one canonical text exactly if they are equal but for empty slots that
are alone in their array.
-/
theorem canonicalJson_eq_iff {v w : PlainJson} (unique : UniqueKeys v) (unique' : UniqueKeys w)
    : canonicalJson v = canonicalJson w ↔ SameButForHole v w := by
  constructor
  · intro same
    have delimited : Delimited [] := by simp [Delimited]
    have appended : canonicalJson v ++ [] = canonicalJson w ++ [] := by rw [same]
    exact (splits v w [] [] unique unique' delimited delimited appended).1
  · exact canonicalJson_eq_of_agree v w unique unique'

/-- What an envelope carries under its signature. -/
structure SignedContent where
  (caller method : Text)
  args : PlainJson
  iat : Double
  nonce : Text

namespace SignedContent

def payload (content : SignedContent) : Text :=
  signedPayload content.caller content.method content.args content.iat content.nonce

/-- Everything but the args is equal. -/
def SameHeader (a b : SignedContent) : Prop :=
  a.caller = b.caller ∧ a.method = b.method ∧ Number.Same (.finite a.iat) (.finite b.iat)
  ∧ a.nonce = b.nonce

/-- Two contents differ only in that at some places one has an empty array and the other an
array whose only slot is empty.
-/
def DifferOnlyInHoles (a b : SignedContent) : Prop :=
  SameHeader a b ∧ SameButForHole a.args b.args ∧ ¬ SameJson a.args b.args

theorem agree_of_mem {lenient : Bool} {a b : List (Text × PlainJson)}
    (unique : (b.map Prod.fst).Nodup) (agree : AgreeMembers lenient a b) {k : Text}
    {v w : PlainJson} (left : (k, v) ∈ a) (right : (k, w) ∈ b)
    : Agree lenient v w := by
  obtain ⟨w', right', same⟩ := agreeMembers_iff.mp agree k v left
  have sameMember : (k, w') = (k, w) := inj_on_of_nodup_map unique right' right rfl
  rwa [(Prod.mk.inj sameMember).2] at same

def members (content : SignedContent) : List (Text × PlainJson) :=
  [(text "v", .number ENVELOPE_VERSION), (text "caller", .string content.caller),
    (text "method", .string content.method), (text "args", content.args),
    (text "iat", .number content.iat), (text "nonce", .string content.nonce)]

theorem uniqueKeys_members {content : SignedContent} (unique : UniqueKeys content.args)
    : UniqueKeys (.object content.members) := by
  refine ⟨?_, trivial, trivial, trivial, unique, trivial, trivial, trivial⟩
  change [text "v", text "caller", text "method", text "args", text "iat", text "nonce"].Nodup
  decide

/-- Payloads are equal exactly if the contents are equal but for lone empty slots.
Witness: the payload is the canonical text of an object with fixed keys.
-/
theorem payload_eq_iff {a b : SignedContent} (unique : UniqueKeys a.args)
    (unique' : UniqueKeys b.args)
    : a.payload = b.payload ↔ SameHeader a b ∧ SameButForHole a.args b.args := by
  have texts (content : SignedContent) : content.payload = canonicalJson (.object content.members)
      := rfl
  rw [texts, texts, canonicalJson_eq_iff (uniqueKeys_members unique) (uniqueKeys_members unique')]
  constructor
  · rintro ⟨_, agree⟩
    have mem (k : Text) {v w : PlainJson} (left : (k, v) ∈ a.members)
        (right : (k, w) ∈ b.members)
        : Agree true v w :=
      agree_of_mem (uniqueKeys_members unique').1 agree left right
    have caller : Agree true (.string a.caller) (.string b.caller) :=
      mem (text "caller") (by simp [members]) (by simp [members])
    have method : Agree true (.string a.method) (.string b.method) :=
      mem (text "method") (by simp [members]) (by simp [members])
    have args : Agree true a.args b.args :=
      mem (text "args") (by simp [members]) (by simp [members])
    have iat : Agree true (.number a.iat) (.number b.iat) :=
      mem (text "iat") (by simp [members]) (by simp [members])
    have nonce : Agree true (.string a.nonce) (.string b.nonce) :=
      mem (text "nonce") (by simp [members]) (by simp [members])
    exact ⟨⟨caller, method, iat, nonce⟩, args⟩
  · rintro ⟨⟨caller, method, iat, nonce⟩, args⟩
    have version : Agree true (.number ENVELOPE_VERSION) (.number ENVELOPE_VERSION) := .inl rfl
    exact ⟨rfl, ⟨.number ENVELOPE_VERSION, by simp [members], version⟩,
      ⟨.string b.caller, by simp [members], caller⟩,
      ⟨.string b.method, by simp [members], method⟩, ⟨b.args, by simp [members], args⟩,
      ⟨.number b.iat, by simp [members], iat⟩, ⟨.string b.nonce, by simp [members], nonce⟩,
      trivial⟩

end SignedContent

/-- Whatever two accepted envelopes carry, equal payloads mean equal contents. -/
def PayloadDetermines (a b : SignedContent) : Prop :=
  a.payload = b.payload → a.SameHeader b ∧ SameJson a.args b.args

/-- The payload determines what was signed exactly if the contents do not differ only in lone
empty slots, and no payload depends on the order of keys.
Witness: canonical texts determine values but for such slots.
-/
theorem payloadDetermines_iff {args args' : Value} {a b : SignedContent}
    (accepted : assertPlainJson args 0 = .ok a.args)
    (accepted' : assertPlainJson args' 0 = .ok b.args)
    : (PayloadDetermines a b ↔ ¬ a.DifferOnlyInHoles b)
      ∧ (SameJson a.args b.args → canonicalJson a.args = canonicalJson b.args) := by
  have unique := uniqueKeys_assertPlainJson accepted
  have unique' := uniqueKeys_assertPlainJson accepted'
  refine ⟨?_, canonicalJson_eq_of_agree _ _ unique unique'⟩
  rw [PayloadDetermines, SignedContent.payload_eq_iff unique unique']
  constructor
  · rintro determines ⟨header, args, differ⟩
    exact differ (determines ⟨header, args⟩).2
  · rintro noHoles ⟨header, args⟩
    refine ⟨header, ?_⟩
    by_contra differ
    exact noHoles ⟨header, args, differ⟩

/-- Two objects that list their keys in different orders. -/
theorem payloadDetermines_sample
    : let a : SignedContent :=
        ⟨text "gw", text "send", .array [some (.object [(text "b", .null), (text "a", .bool true)])],
          ENVELOPE_VERSION, text "nonce"⟩
      let b : SignedContent :=
        ⟨text "gw", text "send", .array [some (.object [(text "a", .bool true), (text "b", .null)])],
          ENVELOPE_VERSION, text "nonce"⟩
      (PayloadDetermines a b ↔ ¬ a.DifferOnlyInHoles b)
      ∧ (SameJson a.args b.args → canonicalJson a.args = canonicalJson b.args) := by
  have left
      : assertPlainJson
          (.array [some (.object .objectPrototype [(text "b", .null), (text "a", .bool true)])]) 0
        = .ok (.array [some (.object [(text "b", .null), (text "a", .bool true)])]) := rfl
  have right
      : assertPlainJson
          (.array [some (.object .objectPrototype [(text "a", .bool true), (text "b", .null)])]) 0
        = .ok (.array [some (.object [(text "a", .bool true), (text "b", .null)])]) := rfl
  exact payloadDetermines_iff left right

/-- Two accepted contents with one payload whose args differ. -/
theorem payloadOfLoneHole
    : ∃ a b : SignedContent,
        assertPlainJson (.array [none]) 0 = .ok a.args ∧ assertPlainJson (.array []) 0 = .ok b.args
        ∧ a.payload = b.payload ∧ ¬ SameJson a.args b.args := by
  refine ⟨⟨text "gw", text "send", .array [none], ENVELOPE_VERSION, text "nonce"⟩,
    ⟨text "gw", text "send", .array [], ENVELOPE_VERSION, text "nonce"⟩, rfl, rfl, rfl, ?_⟩
  rintro (⟨lenient, _⟩ | slots)
  · cases lenient
  · exact slots

end CairnStone.PrivateRealm
