import Mathlib.Algebra.Order.BigOperators.Group.List
import Mathlib.Algebra.Order.Ring.Int
import NetworkEnforcer.Lib.GoMap

/-!
# Stores of objects under their own keys

A `Store key` holds values, each under the key it carries, so that no two values share a key.  It is
what a list call returns once indexed, and what an API server keeps.

* `Store.ofList` — the index of a list;
* `Store.put`, `Store.remove` — the two ways to change one object, with their lookups;
* `Store.filter`, `Store.only` — the objects, or the one object, that satisfy a condition;
* `Store.SameBy` — two stores that look alike to whoever sees only a part of each value;
* `Store.sum` — a sum over all values, and how `put` changes it.
-/

namespace NetworkEnforcer.Lib

/-- Values, each under its own key. -/
structure Store {K V : Type} [DecidableEq K] (key : V → K) where
  map : GoMap K V
  key_eq {k : K} {v : V} : map.lookup k = some v → key v = k

namespace Store

variable {K V : Type} [DecidableEq K] {key : V → K}

def lookup (s : Store key) (k : K) : Option V := s.map.lookup k

def values (s : Store key) : List V := s.map.values

/-- The index of a list; of two values with one key the last stays. -/
def ofList (items : List V) : Store key where
  map := GoMap.indexBy key items
  key_eq h := (GoMap.lookup_indexBy h).2

/-- The store with `v` under its key. -/
def put (s : Store key) (v : V) : Store key where
  map := s.map.insert (key v) v
  key_eq {k w} h := by
    by_cases hk : k = key v
    · subst hk
      rw [AList.lookup_insert] at h
      rw [Option.some.inj h]
    · rw [AList.lookup_insert_ne hk] at h
      exact s.key_eq h

/-- The store without the value under `k`. -/
def remove (s : Store key) (k : K) : Store key where
  map := s.map.erase k
  key_eq {k' w} h := by
    by_cases hk : k' = k
    · subst hk
      rw [AList.lookup_erase] at h
      cases h
    · rw [AList.lookup_erase_ne hk] at h
      exact s.key_eq h

lemma key_of_lookup {s : Store key} {k : K} {v : V} (h : s.lookup k = some v) : key v = k := s.key_eq h

lemma mem_values {s : Store key} {v : V} : v ∈ s.values ↔ s.lookup (key v) = some v := by
  unfold values lookup
  rw [GoMap.mem_values]
  constructor
  · rintro ⟨k, hk⟩
    rw [s.key_eq hk]
    exact hk
  · exact fun h => ⟨_, h⟩

lemma mem_of_lookup {s : Store key} {k : K} {v : V} (h : s.lookup k = some v) : v ∈ s.values :=
  GoMap.mem_values.2 ⟨k, h⟩

/-- The keys of the values, in order, are the keys of the map. -/
lemma map_key_values (s : Store key) : s.values.map key = s.map.keys := by
  unfold values GoMap.values AList.keys List.keys
  rw [List.map_map]
  refine List.map_congr_left fun e he => ?_
  exact s.key_eq (AList.mem_lookup_iff.2 he)

lemma map_key_values_nodup (s : Store key) : (s.values.map key).Nodup := by
  rw [map_key_values]
  exact s.map.keys_nodup

lemma mem_map_key_values {s : Store key} {k : K} : k ∈ s.values.map key ↔ (s.lookup k).isSome := by
  rw [map_key_values]
  exact (AList.mem_keys).symm.trans AList.lookup_isSome.symm

/-- A key determines the value. -/
lemma eq_of_key_eq {s : Store key} {v w : V} (hv : v ∈ s.values) (hw : w ∈ s.values) (h : key v = key w) :
    v = w := by
  rw [mem_values] at hv hw
  rw [h, hw] at hv
  exact (Option.some.inj hv).symm

lemma values_nodup (s : Store key) : s.values.Nodup := List.Nodup.of_map _ s.map_key_values_nodup

/-- Without repeated keys, the index of a list holds the list. -/
lemma values_ofList_perm {items : List V} (hn : (items.map key).Nodup) :
    (ofList items : Store key).values.Perm items := by
  refine (List.perm_ext_iff_of_nodup (values_nodup _) (List.Nodup.of_map _ hn)).2 fun v => ?_
  rw [mem_values]
  exact ⟨fun h => (GoMap.lookup_indexBy h).1, fun h => GoMap.lookup_indexBy_of_mem hn h⟩

@[simp] lemma lookup_put (s : Store key) (v : V) : (s.put v).lookup (key v) = some v :=
  AList.lookup_insert _

lemma lookup_put_ne {s : Store key} {v : V} {k : K} (h : k ≠ key v) : (s.put v).lookup k = s.lookup k :=
  AList.lookup_insert_ne h

/-- A value of the new store is the one that was put, or an old one under another key. -/
lemma lookup_put_cases {s : Store key} {v w : V} {k : K} (h : (s.put v).lookup k = some w) :
    (k = key v ∧ w = v) ∨ (k ≠ key v ∧ s.lookup k = some w) := by
  by_cases hk : k = key v
  · subst hk
    rw [lookup_put] at h
    exact Or.inl ⟨rfl, (Option.some.inj h).symm⟩
  · rw [lookup_put_ne hk] at h
    exact Or.inr ⟨hk, h⟩

lemma lookup_of_put_eq_none {s : Store key} {v : V} {k : K} (h : (s.put v).lookup k = none) :
    s.lookup k = none := by
  by_cases hk : k = key v
  · subst hk
    rw [lookup_put] at h
    cases h
  · rwa [lookup_put_ne hk] at h

lemma lookup_put_isSome {s : Store key} {v : V} {k : K} (h : (s.lookup k).isSome) :
    ((s.put v).lookup k).isSome := by
  by_contra hne
  rw [lookup_of_put_eq_none (Option.not_isSome_iff_eq_none.1 hne)] at h
  cases h

@[simp] lemma lookup_remove (s : Store key) (k : K) : (s.remove k).lookup k = none :=
  AList.lookup_erase _ _

lemma lookup_remove_ne {s : Store key} {k k' : K} (h : k' ≠ k) : (s.remove k).lookup k' = s.lookup k' :=
  AList.lookup_erase_ne h

lemma mem_of_mem_remove {s : Store key} {k : K} {v : V} (h : v ∈ (s.remove k).values) : v ∈ s.values := by
  rw [mem_values] at h ⊢
  by_cases hk : key v = k
  · rw [hk, lookup_remove] at h
    cases h
  · rwa [lookup_remove_ne hk] at h

/-! ## Parts -/

/-- The values that satisfy `p`. -/
def filter (s : Store key) (p : V → Bool) : Store key := ofList (s.values.filter p)

lemma map_key_filter_nodup (s : Store key) (p : V → Bool) : ((s.values.filter p).map key).Nodup :=
  List.Nodup.sublist (List.filter_sublist.map key) s.map_key_values_nodup

lemma values_filter_perm (s : Store key) (p : V → Bool) : (s.filter p).values.Perm (s.values.filter p) :=
  values_ofList_perm (s.map_key_filter_nodup p)

lemma lookup_filter (s : Store key) (p : V → Bool) (k : K) : (s.filter p).lookup k = (s.lookup k).filter p := by
  cases hl : (s.lookup k).filter p with
  | some v =>
    obtain ⟨hv, hp⟩ := Option.filter_eq_some_iff.1 hl
    obtain rfl := key_of_lookup hv
    exact mem_values.1 ((s.values_filter_perm p).mem_iff.2 (List.mem_filter.2 ⟨mem_of_lookup hv, hp⟩))
  | none =>
    by_contra hne
    obtain ⟨v, hv⟩ := Option.ne_none_iff_exists'.1 hne
    obtain ⟨hmem, hp⟩ := List.mem_filter.1 ((s.values_filter_perm p).mem_iff.1 (mem_of_lookup hv))
    obtain rfl := key_of_lookup hv
    rw [mem_values.1 hmem] at hl
    simp [hp] at hl

/-- The value under `k`, if it satisfies `p`. -/
def only (s : Store key) (k : K) (p : V → Bool) : Store key := ofList ((s.lookup k).filter p).toList

lemma lookup_only (s : Store key) (k : K) (p : V → Bool) (k' : K) :
    (s.only k p).lookup k' = if k' = k then (s.lookup k).filter p else none := by
  unfold only
  cases hl : (s.lookup k).filter p with
  | none => simp [ofList, lookup, GoMap.indexBy]
  | some v =>
    obtain rfl := key_of_lookup (Option.filter_eq_some_iff.1 hl).1
    show ((∅ : GoMap K V).insert (key v) v).lookup k' = _
    by_cases hk : k' = key v
    · rw [if_pos hk, hk, AList.lookup_insert]
    · rw [if_neg hk, AList.lookup_insert_ne hk, AList.lookup_empty]

/-! ## Views -/

/-- Under every key the two stores have the same view, or both have nothing. -/
def SameBy {β : Type} (f : V → β) (s s' : Store key) : Prop :=
  ∀ k, (s.lookup k).map f = (s'.lookup k).map f

namespace SameBy

variable {β : Type} {f : V → β} {s s' : Store key}

lemma refl (f : V → β) (s : Store key) : SameBy f s s := fun _ => rfl

lemma symm (h : SameBy f s s') : SameBy f s' s := fun k => (h k).symm

/-- Every value has its like in the other store. -/
lemma exists_like (h : SameBy f s s') {v : V} (hv : v ∈ s.values) :
    ∃ v' ∈ s'.values, key v' = key v ∧ f v' = f v := by
  have hk := h (key v)
  rw [mem_values.1 hv, Option.map_some] at hk
  obtain ⟨v', hv', hf⟩ := Option.map_eq_some_iff.1 hk.symm
  exact ⟨v', mem_of_lookup hv', key_of_lookup hv', hf⟩

/-- A part that is chosen by the key is seen alike. -/
lemma filter (h : SameBy f s s') {p : V → Bool} (hp : ∀ v v', key v = key v' → p v = p v') :
    SameBy f (s.filter p) (s'.filter p) := by
  intro k
  have hk := h k
  rw [lookup_filter, lookup_filter]
  cases hs : s.lookup k with
  | none =>
    rw [hs, Option.map_none, eq_comm, Option.map_eq_none_iff] at hk
    rw [hk]
  | some v =>
    rw [hs, Option.map_some] at hk
    obtain ⟨v', hs', hf⟩ := Option.map_eq_some_iff.1 hk.symm
    have hsame : p v = p v' := hp v v' ((key_of_lookup hs).trans (key_of_lookup hs').symm)
    rw [hs', Option.filter_some, Option.filter_some, ← hsame]
    split
    · rw [Option.map_some, Option.map_some, hf]
    · rfl

end SameBy

/-! ## Sums -/

/-- The sum of `f` over all values. -/
def sum (f : V → Int) (s : Store key) : Int := (s.values.map f).sum

lemma sum_put_of_lookup {s : Store key} {v old : V} (f : V → Int) (h : s.lookup (key v) = some old) :
    (s.put v).sum f = s.sum f - f old + f v := by
  have hmem : key v ∈ s.map.entries.keys := AList.lookup_isSome.1 (Option.isSome_of_eq_some h)
  obtain ⟨w, l₁, l₂, hnot, hl, hk⟩ := List.exists_of_kerase hmem
  have hw : w = old := by
    have h' := h
    rw [lookup, AList.lookup, hl, List.dlookup_append, List.dlookup_eq_none.2 hnot] at h'
    simpa using h'
  subst hw
  have hnew : (s.put v).values = v :: (l₁ ++ l₂).map Sigma.snd := by
    rw [← hk]
    rfl
  have hold : s.values = (l₁ ++ ⟨key v, w⟩ :: l₂).map Sigma.snd := by
    rw [← hl]
    rfl
  simp only [sum, hnew, hold, List.map_append, List.map_cons, List.sum_append, List.sum_cons]
  omega

lemma sum_put_of_none {s : Store key} {v : V} (f : V → Int) (h : s.lookup (key v) = none) :
    (s.put v).sum f = s.sum f + f v := by
  have hmem : key v ∉ s.map.entries.keys := AList.lookup_eq_none.1 h
  simp only [sum, values, GoMap.values, put, AList.insert, List.kinsert, List.kerase_of_notMem_keys hmem,
    List.map_cons, List.sum_cons]
  omega

/-- A sum of non-negative numbers is at least each of them. -/
lemma le_sum {s : Store key} {f : V → Int} (hf : ∀ v ∈ s.values, 0 ≤ f v) {v : V} (hv : v ∈ s.values) :
    f v ≤ s.sum f :=
  List.single_le_sum (by simpa using hf) _ (List.mem_map_of_mem hv)

end Store

end NetworkEnforcer.Lib
