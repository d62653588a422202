/-!
The deliveries of a channel that are not settled yet, by delivery id. A delivery that comes again
under the same id takes the place of the earlier one.
-/
namespace Baler.Amqp

/-- Unsettled deliveries with their ids, each id once. -/
structure Pending (α : Type) where
  entries : List (Int × α)
  nodup : (entries.map (·.1)).Nodup
deriving DecidableEq, Repr

namespace Pending

variable {α : Type}

/-- No delivery. -/
def empty : Pending α := ⟨[], List.nodup_nil⟩

/-- The number of deliveries. -/
def size (p : Pending α) : Nat := p.entries.length

/-- The ids of the deliveries. -/
def ids (p : Pending α) : List Int := p.entries.map (·.1)

/-- The deliveries. -/
def values (p : Pending α) : List α := p.entries.map (·.2)

/-- The delivery with an id. -/
def find? (p : Pending α) (id : Int) : Option α := p.entries.lookup id

/-- The deliveries whose ids are kept. -/
def filter (p : Pending α) (keep : Int → Bool) : Pending α :=
  ⟨p.entries.filter fun e => keep e.1, p.nodup.sublist (List.filter_sublist.map _)⟩

/-- Drop the delivery with an id. -/
def erase (p : Pending α) (id : Int) : Pending α := p.filter (· ≠ id)

/-- Drop every delivery with a smaller id. -/
def eraseBelow (p : Pending α) (id : Int) : Pending α := p.filter (¬ · < id)

theorem mem_ids_filter {p : Pending α} {keep : Int → Bool} {i : Int} :
    i ∈ (p.filter keep).ids ↔ i ∈ p.ids ∧ keep i = true := by
  simp only [ids, filter, List.mem_map, List.mem_filter]
  constructor
  · rintro ⟨e, ⟨h, kept⟩, rfl⟩; exact ⟨⟨e, h, rfl⟩, kept⟩
  · rintro ⟨⟨e, h, rfl⟩, kept⟩; exact ⟨e, ⟨h, kept⟩, rfl⟩

theorem values_filter_sublist (p : Pending α) (keep : Int → Bool) :
    (p.filter keep).values.Sublist p.values := List.filter_sublist.map _

theorem mem_ids_erase {p : Pending α} {id i : Int} : i ∈ (p.erase id).ids ↔ i ∈ p.ids ∧ i ≠ id := by
  simp [erase, mem_ids_filter]

theorem nodup_erase_concat (p : Pending α) (id : Int) (a : α) :
    (((p.erase id).entries ++ [(id, a)]).map (·.1)).Nodup := by
  have others : id ∉ (p.erase id).ids := by simp [mem_ids_erase]
  rw [List.map_append, List.nodup_append]
  refine ⟨(p.erase id).nodup, by simp, fun i hi j hj same => ?_⟩
  obtain rfl : j = id := List.mem_singleton.mp hj
  exact others (same ▸ hi)

/-- Put a delivery under its id. -/
def track (p : Pending α) (id : Int) (a : α) : Pending α :=
  ⟨(p.erase id).entries ++ [(id, a)], p.nodup_erase_concat id a⟩

/-- Take the delivery with an id out; cumulatively, those with smaller ids are dropped with it. -/
def settle? (p : Pending α) (id : Int) (cumulative : Bool) : Option (Pending α × α) :=
  (p.find? id).map fun a =>
    let rest := p.erase id
    (if cumulative then rest.eraseBelow id else rest, a)

theorem mem_ids_track {p : Pending α} {id i : Int} {a : α} :
    i ∈ (p.track id a).ids ↔ i = id ∨ i ∈ p.ids := by
  have h : (p.track id a).ids = (p.erase id).ids ++ [id] := by simp [ids, track]
  rw [h, List.mem_append, List.mem_singleton, mem_ids_erase]
  by_cases hi : i = id <;> simp [hi]

@[simp] theorem find?_empty (id : Int) : (empty : Pending α).find? id = none := rfl

theorem mem_ids_iff {p : Pending α} {id : Int} : id ∈ p.ids ↔ ∃ a, p.find? id = some a := by
  rw [find?, ← Option.isSome_iff_exists, List.lookup_isSome_iff, ids, List.mem_map]
  constructor
  · rintro ⟨e, he, rfl⟩; exact ⟨e, he, by simp⟩
  · rintro ⟨e, he, h⟩; exact ⟨e, he, (eq_of_beq h).symm⟩

/-- What is kept for its id is found under it as before. -/
theorem find?_filter (p : Pending α) (keep : Int → Bool) (id : Int) :
    (p.filter keep).find? id = if keep id then p.find? id else none := by
  simp only [find?, filter]
  induction p.entries with
  | nil => simp
  | cons e rest ih =>
    rcases e with ⟨k, a⟩
    by_cases hi : id = k
    · subst hi
      cases hk : keep id <;> simp [hk, ih]
    · have other : (id == k) = false := by simpa using hi
      cases hk : keep k <;> simp [List.lookup_cons, hk, other, ih]

theorem find?_erase (p : Pending α) (id i : Int) :
    (p.erase id).find? i = if i = id then none else p.find? i := by
  by_cases hi : i = id <;> simp [erase, find?_filter, hi]

theorem find?_eraseBelow (p : Pending α) (id i : Int) :
    (p.eraseBelow id).find? i = if i < id then none else p.find? i := by
  have kept := p.find?_filter (fun k => ¬k < id) i
  by_cases hi : i < id <;> simpa [eraseBelow, hi] using kept

theorem find?_track (p : Pending α) (id : Int) (a : α) (i : Int) :
    (p.track id a).find? i = if i = id then some a else p.find? i := by
  have kept := p.find?_erase id i
  simp only [find?] at kept ⊢
  rw [track, List.lookup_append, kept]
  by_cases hi : i = id
  · subst hi; simp
  · have other : (i == id) = false := by simpa using hi
    simp [List.lookup_cons, hi, other]

theorem settle?_eq_none {p : Pending α} {id : Int} (h : p.find? id = none) (cumulative : Bool) :
    p.settle? id cumulative = none := by simp [settle?, h]

/-- A delivery that is pending is taken out, cumulatively with those below it. -/
theorem settle?_eq_some {p : Pending α} {id : Int} {a : α} (h : p.find? id = some a)
    (cumulative : Bool) : ∃ q, p.settle? id cumulative = some (q, a) ∧
      ∀ i, q.find? i = if i = id ∨ cumulative = true ∧ i < id then none else p.find? i := by
  refine ⟨if cumulative then (p.erase id).eraseBelow id else p.erase id, by simp [settle?, h],
    fun i => ?_⟩
  cases cumulative with
  | false => simp [find?_erase]
  | true =>
    by_cases hi : i = id <;> by_cases hl : i < id <;> simp [find?_eraseBelow, find?_erase, hi, hl]

end Pending
end Baler.Amqp
