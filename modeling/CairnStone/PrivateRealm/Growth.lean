import CairnStone.PrivateRealm.Invariants

/-! How the private database can grow: identities never change, revocation is final,
messages are only appended, and a delivery keeps its stamps once it has them.
-/

namespace CairnStone.PrivateRealm

open JavaScript Data Concurrency List Database

structure DeliveryRow.Evolves (old new : DeliveryRow) : Prop where
  key : new.key = old.key
  deliveredAt : new.deliveredAt = old.deliveredAt
  readAt : old.readAt = none ∨ new.readAt = old.readAt
  ackedAt : old.ackedAt = none ∨ new.ackedAt = old.ackedAt

structure Grows (db db' : Database) : Prop where
  homes : ∀ h ∈ db.homes, ∃ h' ∈ db'.homes, h'.identity = h.identity
  connections
    : ∀ c ∈ db.connections, ∃ c' ∈ db'.connections,
        c'.identity = c.identity ∧ (c.status = .revoked → c'.status = .revoked)
  inboxes : ∀ i ∈ db.inboxes, ∃ i' ∈ db'.inboxes, i'.identity = i.identity
  messages : ∀ m ∈ db.messages, m ∈ db'.messages
  deliveries : ∀ d ∈ db.deliveries, ∃ d' ∈ db'.deliveries, d.Evolves d'
  delivered
    : ∀ d' ∈ db'.deliveries, d'.messageKey ∈ db.messages.map MessageRow.key
      → ∃ d ∈ db.deliveries, d.Evolves d'

theorem DeliveryRow.Evolves.refl (d : DeliveryRow) : d.Evolves d :=
  ⟨rfl, rfl, .inr rfl, .inr rfl⟩

theorem DeliveryRow.Evolves.trans {a b c : DeliveryRow} (first : a.Evolves b)
    (second : b.Evolves c)
    : a.Evolves c where
  key := second.key.trans first.key
  deliveredAt := second.deliveredAt.trans first.deliveredAt
  readAt := by
    rcases first.readAt with unset | kept
    · exact .inl unset
    · rcases second.readAt with unset | kept'
      · exact .inl (kept ▸ unset)
      · exact .inr (kept'.trans kept)
  ackedAt := by
    rcases first.ackedAt with unset | kept
    · exact .inl unset
    · rcases second.ackedAt with unset | kept'
      · exact .inl (kept ▸ unset)
      · exact .inr (kept'.trans kept)

theorem DeliveryRow.Evolves.messageKey {a b : DeliveryRow} (evolves : a.Evolves b)
    : b.messageKey = a.messageKey := by
  have key := evolves.key
  simp only [DeliveryRow.key, Prod.mk.injEq] at key
  exact Prod.ext key.1 key.2.1

namespace Grows

variable {db : Database}

theorem refl (db : Database) : Grows db db where
  homes := fun h mem => ⟨h, mem, rfl⟩
  connections := fun c mem => ⟨c, mem, rfl, id⟩
  inboxes := fun i mem => ⟨i, mem, rfl⟩
  messages := fun _ => id
  deliveries := fun d mem => ⟨d, mem, .refl d⟩
  delivered := fun d mem _ => ⟨d, mem, .refl d⟩

theorem trans {a b c : Database} (first : Grows a b) (second : Grows b c) : Grows a c where
  homes := by
    intro h mem
    obtain ⟨h', mem', same⟩ := first.homes h mem
    obtain ⟨h'', mem'', same'⟩ := second.homes h' mem'
    exact ⟨h'', mem'', same'.trans same⟩
  connections := by
    intro row mem
    obtain ⟨row', mem', same, revoked⟩ := first.connections row mem
    obtain ⟨row'', mem'', same', revoked'⟩ := second.connections row' mem'
    exact ⟨row'', mem'', same'.trans same, fun h => revoked' (revoked h)⟩
  inboxes := by
    intro i mem
    obtain ⟨i', mem', same⟩ := first.inboxes i mem
    obtain ⟨i'', mem'', same'⟩ := second.inboxes i' mem'
    exact ⟨i'', mem'', same'.trans same⟩
  messages := fun m mem => second.messages m (first.messages m mem)
  deliveries := by
    intro d mem
    obtain ⟨d', mem', evolves⟩ := first.deliveries d mem
    obtain ⟨d'', mem'', evolves'⟩ := second.deliveries d' mem'
    exact ⟨d'', mem'', evolves.trans evolves'⟩
  delivered := by
    intro d'' mem'' known
    obtain ⟨m, stored, sameKey⟩ := mem_map.mp known
    obtain ⟨d', mem', evolves'⟩ :=
      second.delivered d'' mem'' (mem_map.mpr ⟨m, first.messages m stored, sameKey⟩)
    obtain ⟨d, mem, evolves⟩ := first.delivered d' mem' (evolves'.messageKey ▸ known)
    exact ⟨d, mem, evolves.trans evolves'⟩

/-- Rewriting connections without touching identities, and without reviving one, grows the
database.
-/
theorem of_connections {p : ConnectionRow → Bool} {f : ConnectionRow → ConnectionRow}
    {grants : List GrantRow} (same : ∀ row, (f row).identity = row.identity)
    (revoked : ∀ row, p row = true → row.status = .revoked → (f row).status = .revoked)
    : Grows db { db with connections := updateWhere p f db.connections, grants } :=
  { refl db with
    connections := by
      intro c mem
      refine ⟨if p c then f c else c, mem_updateWhere.mpr ⟨c, mem, rfl⟩, ?_⟩
      split
      · rename_i hit
        exact ⟨same c, revoked c hit⟩
      · exact ⟨rfl, id⟩ }

/-- Stamping unstamped deliveries grows the database. -/
theorem of_deliveries {p : DeliveryRow → Bool} {f : DeliveryRow → DeliveryRow}
    (evolves : ∀ row, p row = true → row.Evolves (f row))
    : Grows db { db with deliveries := updateWhere p f db.deliveries } :=
  { refl db with
    deliveries := by
      intro d mem
      refine ⟨if p d then f d else d, mem_updateWhere.mpr ⟨d, mem, rfl⟩, ?_⟩
      split
      · rename_i hit
        exact evolves d hit
      · exact .refl d
    delivered := by
      intro d' mem _
      obtain ⟨d, old, rfl⟩ := mem_updateWhere.mp mem
      refine ⟨d, old, ?_⟩
      split
      · rename_i hit
        exact evolves d hit
      · exact .refl d }

/-- Every command grows the database.
Witness: each insert appends, and each update keeps the columns that identify a row.
-/
theorem effect {db' : Database} {command : Command} (effect : Effect db command db')
    : Grows db db' := by
  have grantsOnly (grants : List GrantRow) : Grows db { db with grants } := { refl db with }
  cases effect with
  | unchanged => exact refl db
  | audited => exact { refl db with }
  | homeCreated => exact { refl db with
      homes := fun h mem => ⟨h, mem_append_left _ mem, rfl⟩
      connections := fun c mem => ⟨c, mem_append_left _ mem, rfl, id⟩ }
  | attached => exact { refl db with
      connections := fun c mem => ⟨c, mem_append_left _ mem, rfl, id⟩ }
  | roleSet => exact of_connections (fun _ => rfl) (fun _ _ => id)
  | connectionRevoked => exact of_connections (fun _ => rfl) (fun _ _ _ => rfl)
  | inboxCreated => exact { refl db with
      inboxes := fun i mem => ⟨i, mem_append_left _ mem, rfl⟩ }
  | grantInserted => exact grantsOnly _
  | grantReplaced => exact grantsOnly _
  | grantRevoked => exact grantsOnly _
  | @delivered message targets sender fresh authorized freshDeliveries nodup =>
    have new
        : ∀ d ∈ targets.map (newDelivery message),
            d.messageKey ∉ db.messages.map MessageRow.key := by
      intro d mem known
      obtain ⟨inboxId, _, rfl⟩ := mem_map.mp mem
      obtain ⟨m, stored, same⟩ := mem_map.mp known
      exact fresh m stored same
    exact { refl db with
      messages := fun m mem => mem_append_left _ mem
      deliveries := fun d mem => ⟨d, mem_append_left _ mem, .refl d⟩
      delivered := by
        intro d mem known
        rcases mem_append.mp mem with old | added
        · exact ⟨d, old, .refl d⟩
        · exact absurd known (new d added) }
  | readStamped =>
    refine of_deliveries (fun row hit => ⟨rfl, rfl, .inl ?_, .inr rfl⟩)
    simp only [readMatches, Bool.and_eq_true, beq_iff_eq] at hit
    exact hit.1.1.2
  | ackStamped =>
    refine of_deliveries (fun row hit => ⟨rfl, rfl, ?_, .inl ?_⟩)
    · cases read : row.readAt with
      | none => exact .inl rfl
      | some stamp => exact .inr (by simp)
    · simp only [ackMatches, Bool.and_eq_true, beq_iff_eq] at hit
      exact hit.1.1.2

/-- The moves of the outside world change only statuses. -/
theorem disturb (w : World) (event : Disturbance) : Grows w.db (World.disturb event w).db := by
  cases event with
  | tick by_ => exact refl w.db
  | bucket failing => exact refl w.db
  | setInboxStatus homeId inboxId status => exact { refl w.db with
      inboxes := by
        intro i mem
        refine ⟨_, mem_updateWhere.mpr ⟨i, mem, rfl⟩, ?_⟩
        split <;> rfl }
  | setHomeStatus homeId status => exact { refl w.db with
      homes := by
        intro h mem
        refine ⟨_, mem_updateWhere.mpr ⟨h, mem, rfl⟩, ?_⟩
        split <;> rfl }

end Grows

end CairnStone.PrivateRealm
