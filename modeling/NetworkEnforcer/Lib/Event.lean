import NetworkEnforcer.Lib.Store

/-!
# Events of a watched store

A watch reports that an object was created, updated or deleted.  `Event.Between s s'` says that an event
is what happened between two states of the store: every other object stays as it was, and the objects
under the event's key before and after are among those the event carries.

* `Event.objects` — the objects an event handler is called with;
* `Event.accepts` — a predicate that filters updates only;
* `Event.ofChange` — the event that a change of one object causes.
-/

namespace NetworkEnforcer.Lib

/-- An event of a watch, with the objects it carries. -/
inductive Event (O : Type) where
  | create (obj : O)
  | update (old new : O)
  | delete (obj : O)

namespace Event

variable {O K : Type}

/-- The object before the event. -/
def before : Event O → Option O
  | .create _ => none
  | .update old _ => some old
  | .delete obj => some obj

/-- The object after the event. -/
def after : Event O → Option O
  | .create obj => some obj
  | .update _ new => some new
  | .delete _ => none

/-- The objects of an event, in the order a handler takes them. -/
def objects (e : Event O) : List O := e.before.toList ++ e.after.toList

lemma mem_objects {e : Event O} {x : O} : x ∈ e.objects ↔ e.before = some x ∨ e.after = some x := by
  simp [objects]

/-- The object the event is about, as it is now or was last. -/
def object : Event O → O
  | .create obj => obj
  | .update _ new => new
  | .delete obj => obj

lemma object_mem (e : Event O) : e.object ∈ e.objects := by
  cases e <;> simp [object, objects, before, after]

/-- A predicate with only an update function: creations and deletions pass. -/
def accepts (changes : O → O → Bool) : Event O → Bool
  | .create _ => true
  | .update old new => changes old new
  | .delete _ => true

/-- The event of a part of the objects. -/
def map {P : Type} (f : O → P) : Event O → Event P
  | .create obj => .create (f obj)
  | .update old new => .update (f old) (f new)
  | .delete obj => .delete (f obj)

/-- A rejected event is an update, of objects the predicate does not tell apart. -/
lemma exists_of_accepts_map_eq_false {P : Type} {f : O → P} {changes : P → P → Bool} {e : Event O}
    (h : (e.map f).accepts changes = false) :
    ∃ old new, e = .update old new ∧ changes (f old) (f new) = false := by
  cases e with
  | create obj => cases h
  | update old new => exact ⟨old, new, rfl, h⟩
  | delete obj => cases h

variable [DecidableEq K] {key : O → K}

/-- The event is the difference between two states of a store. -/
structure Between (s s' : Store key) (e : Event O) : Prop where
  key_eq {x : O} : x ∈ e.objects → key x = key e.object
  before : s.lookup (key e.object) = e.before
  after : s'.lookup (key e.object) = e.after
  frame {k : K} : k ≠ key e.object → s'.lookup k = s.lookup k

/-- The removal of an object is its deletion. -/
lemma between_remove {s : Store key} {k : K} {obj : O} (h : s.lookup k = some obj) :
    (Event.delete obj).Between s (s.remove k) := by
  obtain rfl := Store.key_of_lookup h
  refine ⟨fun hx => ?_, h, Store.lookup_remove .., Store.lookup_remove_ne⟩
  rw [List.mem_singleton.1 hx]
  rfl

namespace Between

variable {s s' : Store key} {e : Event O}

lemma mem_before (h : Between s s' e) {x : O} (hx : s.lookup (key e.object) = some x) : x ∈ e.objects :=
  mem_objects.2 (Or.inl (h.before.symm.trans hx))

lemma mem_after (h : Between s s' e) {x : O} (hx : s'.lookup (key e.object) = some x) : x ∈ e.objects :=
  mem_objects.2 (Or.inr (h.after.symm.trans hx))

/-- An object that is not the event's is in both states or in neither. -/
lemma mem_values_iff (h : Between s s' e) {x : O} (hx : key x ≠ key e.object) :
    x ∈ s'.values ↔ x ∈ s.values := by
  rw [Store.mem_values, Store.mem_values, h.frame hx]

/-- What no object of the event satisfies, the same objects satisfy before and after. -/
lemma mem_values_iff_of_not (h : Between s s' e) {p : O → Prop} (hp : ∀ x ∈ e.objects, ¬ p x) {x : O}
    (hx : p x) : x ∈ s'.values ↔ x ∈ s.values := by
  by_cases hk : key x = key e.object
  · constructor <;> intro hmem <;> rw [Store.mem_values, hk] at hmem
    · exact absurd hx (hp x (h.mem_after hmem))
    · exact absurd hx (hp x (h.mem_before hmem))
  · exact h.mem_values_iff hk

/-- An update that keeps the view of its object keeps the view of the store. -/
lemma sameBy {old new : O} (h : Between s s' (.update old new)) {β : Type} {f : O → β}
    (hf : f old = f new) : Store.SameBy f s s' := by
  intro k
  by_cases hk : k = key new
  · subst hk
    rw [show s.lookup (key new) = some old from h.before, show s'.lookup (key new) = some new from h.after,
      Option.map_some, Option.map_some, hf]
  · rw [h.frame hk]

/-- An event of objects outside a part changes nothing in it. -/
lemma sameBy_filter (h : Between s s' e) {p : O → Bool} (hp : ∀ x ∈ e.objects, p x = false) {β : Type}
    {f : O → β} : Store.SameBy f (s.filter p) (s'.filter p) := by
  have hnone : ∀ o : Option O, (∀ x, o = some x → p x = false) → o.filter p = none := by
    rintro (_ | x) hx
    · rfl
    · simp [hx x rfl]
  intro k
  rw [Store.lookup_filter, Store.lookup_filter]
  by_cases hk : k = key e.object
  · subst hk
    rw [hnone _ fun x hx => hp x (h.mem_before hx), hnone _ fun x hx => hp x (h.mem_after hx)]
  · rw [h.frame hk]

end Between

/-! ## The event of a write -/

/-- What a watch reports of the object under `k`, when the store goes from `s` to `s'`. -/
def ofChange [DecidableEq O] (s s' : Store key) (k : K) : Option (Event O) :=
  match s.lookup k, s'.lookup k with
  | none, none => none
  | none, some new => some (.create new)
  | some old, none => some (.delete old)
  | some old, some new => if old = new then none else some (.update old new)

section OfChange

variable [DecidableEq O] {s s' : Store key} {k : K}

lemma ofChange_self (s : Store key) (k : K) : ofChange s s k = none := by
  unfold ofChange
  cases s.lookup k with
  | none => rfl
  | some v => exact if_pos rfl

lemma lookup_of_ofChange_eq_none (h : ofChange s s' k = none) : s'.lookup k = s.lookup k := by
  unfold ofChange at h
  split at h
  · rename_i hs hs'
    rw [hs, hs']
  · cases h
  · cases h
  · rename_i old new hs hs'
    split at h
    · rename_i heq
      rw [hs, hs', heq]
    · cases h

/-- If nothing else changed, the event is the difference. -/
lemma between_of_ofChange {e : Event O} (h : ofChange s s' k = some e)
    (hframe : ∀ k', k' ≠ k → s'.lookup k' = s.lookup k') : Between s s' e ∧ key e.object = k := by
  unfold ofChange at h
  split at h
  · cases h
  · rename_i new hs hs'
    obtain rfl := Option.some.inj h
    obtain rfl := Store.key_of_lookup hs'
    exact ⟨⟨fun hx => by rw [List.mem_singleton.1 hx]; rfl, hs, hs', hframe _⟩, rfl⟩
  · rename_i old hs hs'
    obtain rfl := Option.some.inj h
    obtain rfl := Store.key_of_lookup hs
    exact ⟨⟨fun hx => by rw [List.mem_singleton.1 hx]; rfl, hs, hs', hframe _⟩, rfl⟩
  · rename_i old new hs hs'
    split at h
    · cases h
    · obtain rfl := Option.some.inj h
      obtain rfl := Store.key_of_lookup hs'
      refine ⟨⟨?_, hs, hs', hframe _⟩, rfl⟩
      intro x hx
      rcases mem_objects.1 hx with hx | hx
      · rw [← Option.some.inj hx]
        exact Store.key_of_lookup hs
      · rw [← Option.some.inj hx]
        rfl

end OfChange

end Event

end NetworkEnforcer.Lib
