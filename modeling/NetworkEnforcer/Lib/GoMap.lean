import Mathlib.Data.List.AList

/-!
# Finite maps with an iteration order

A map of the program is an association list without repeated keys (`AList`).  The order of its
entries stands for the order in which one `range` loop visits them: a statement about every map is
a statement about every iteration order.

* `GoMap.values` — the values, in iteration order;
* `GoMap.indexBy` — the map a loop `m[key(x)] = x` builds from a list;
* `GoMap.tally` — the map a loop `m[k]++` builds;
* `GoMap.push` — the step of a loop that groups values under keys;
* `GoMap.equal` — `maps.Equal`, which does not see the order.
-/

namespace NetworkEnforcer.Lib

/-- A map from `K` to `V`. -/
abbrev GoMap (K V : Type) : Type := AList (fun _ : K => V)

namespace GoMap

variable {K V : Type}

/-- The values, in iteration order. -/
def values (m : GoMap K V) : List V := m.entries.map Sigma.snd

variable [DecidableEq K]

/-- The loop `for _, x := range items { m[key(x)] = x }` from the empty map: the last item wins. -/
def indexBy (key : V → K) (items : List V) : GoMap K V :=
  items.foldl (fun m x => m.insert (key x) x) ∅

/-- `maps.Copy` from a map with these entries. -/
lemma lookup_foldl_entries {es : List (Sigma fun _ : K => V)} (hes : es.NodupKeys) (m : GoMap K V) (k : K) :
    AList.lookup k (es.foldl (fun m e => m.insert e.1 e.2) m) = (es.dlookup k).or (m.lookup k) := by
  induction es generalizing m with
  | nil => rfl
  | cons e es ih =>
    obtain ⟨hnot, hes⟩ := List.nodupKeys_cons.1 hes
    rw [List.foldl_cons, ih hes]
    obtain ⟨key, v⟩ := e
    by_cases hk : k = key
    · subst hk
      rw [List.dlookup_cons_eq, List.dlookup_eq_none.2 hnot, AList.lookup_insert]
      rfl
    · rw [List.dlookup_cons_ne _ _ hk, AList.lookup_insert_ne hk]

lemma mem_values {m : GoMap K V} {v : V} : v ∈ m.values ↔ ∃ k, m.lookup k = some v := by
  unfold values
  rw [List.mem_map]
  constructor
  · rintro ⟨⟨k, v'⟩, h, rfl⟩
    exact ⟨k, AList.mem_lookup_iff.2 h⟩
  · rintro ⟨k, h⟩
    exact ⟨⟨k, v⟩, AList.mem_lookup_iff.1 h, rfl⟩

/-- What a loop adds to a map it starts from, if every turn makes at most one entry `R`: whatever the map
holds in the end is old or the entry of an item. -/
lemma lookup_foldl_insert {α : Type} {R : α → K → V → Prop} {f : GoMap K V → α → GoMap K V}
    (hf : ∀ m x, f m x = m ∨ ∃ k v, R x k v ∧ f m x = m.insert k v) (items : List α)
    (m : GoMap K V) {k : K} {v : V} (h : (items.foldl f m).lookup k = some v) :
    m.lookup k = some v ∨ ∃ x ∈ items, R x k v := by
  induction items generalizing m with
  | nil => exact Or.inl h
  | cons x items ih =>
    rcases ih _ h with h' | ⟨y, hy, hentry⟩
    · rcases hf m x with heq | ⟨k', v', hentry, heq⟩
      · rw [heq] at h'
        exact Or.inl h'
      · rw [heq] at h'
        by_cases hk : k = k'
        · subst hk
          rw [AList.lookup_insert] at h'
          obtain rfl := Option.some.inj h'
          exact Or.inr ⟨x, List.mem_cons_self .., hentry⟩
        · rw [AList.lookup_insert_ne hk] at h'
          exact Or.inl h'
    · exact Or.inr ⟨y, List.mem_cons_of_mem _ hy, hentry⟩

/-- A key that no turn of a loop removes, and that the turn of some item puts in, is in the map in the
end. -/
lemma isSome_lookup_foldl {α : Type} {f : GoMap K V → α → GoMap K V} {k : K}
    (hstay : ∀ m x, (m.lookup k).isSome → ((f m x).lookup k).isSome) {items : List α} {x : α}
    (hx : x ∈ items) (hput : ∀ m, ((f m x).lookup k).isSome) (m : GoMap K V) :
    ((items.foldl f m).lookup k).isSome := by
  have hkept : ∀ (items : List α) (m : GoMap K V), (m.lookup k).isSome →
      ((items.foldl f m).lookup k).isSome := by
    intro items
    induction items with
    | nil => exact fun _ h => h
    | cons y items ih => exact fun m h => ih _ (hstay m y h)
  induction items generalizing m with
  | nil => cases hx
  | cons y items ih =>
    rw [List.foldl_cons]
    rcases List.mem_cons.1 hx with rfl | hx
    · exact hkept items _ (hput m)
    · exact ih hx _

/-- Every entry of an index is one of the items, under its own key. -/
lemma lookup_indexBy {key : V → K} {items : List V} {k : K} {v : V}
    (h : (indexBy key items).lookup k = some v) : v ∈ items ∧ key v = k := by
  have hstep : ∀ (m : GoMap K V) (x : V), m.insert (key x) x = m ∨
      ∃ k v, (v = x ∧ key x = k) ∧ m.insert (key x) x = m.insert k v :=
    fun m x => Or.inr ⟨key x, x, ⟨rfl, rfl⟩, rfl⟩
  rcases lookup_foldl_insert hstep items ∅ h with h' | ⟨x, hx, rfl, hk⟩
  · rw [AList.lookup_empty] at h'
    cases h'
  · exact ⟨hx, hk⟩

lemma lookup_foldl_insert_of_notMem {key : V → K} {items : List V} {k : K} (h : k ∉ items.map key)
    (m : GoMap K V) : (items.foldl (fun m x => m.insert (key x) x) m).lookup k = m.lookup k := by
  induction items generalizing m with
  | nil => rfl
  | cons x items ih =>
    rw [List.map_cons, List.mem_cons, not_or] at h
    rw [List.foldl_cons, ih h.2, AList.lookup_insert_ne h.1]

/-- Without repeated keys, every item is in the index. -/
lemma lookup_indexBy_of_mem {key : V → K} {items : List V} (hn : (items.map key).Nodup) {v : V}
    (hv : v ∈ items) : (indexBy key items).lookup (key v) = some v := by
  suffices ∀ m : GoMap K V, (items.foldl (fun m x => m.insert (key x) x) m).lookup (key v) = some v from
    this ∅
  induction items with
  | nil => cases hv
  | cons x items ih =>
    intro m
    rw [List.map_cons, List.nodup_cons] at hn
    rw [List.foldl_cons]
    rcases List.mem_cons.1 hv with rfl | hv
    · rw [lookup_foldl_insert_of_notMem hn.1, AList.lookup_insert]
    · exact ih hn.2 hv _

/-- The loop `for _, k := range ks { m[k]++ }` from the empty map. -/
def tally (ks : List K) : GoMap K Nat :=
  ks.foldl (fun m k => m.insert k ((m.lookup k).getD 0 + 1)) ∅

lemma lookup_foldl_tally (ks : List K) (m : GoMap K Nat) (k : K) :
    ((ks.foldl (fun m k => m.insert k ((m.lookup k).getD 0 + 1)) m).lookup k).getD 0 =
      (m.lookup k).getD 0 + ks.count k := by
  induction ks generalizing m with
  | nil => simp
  | cons x ks ih =>
    rw [List.foldl_cons, ih]
    by_cases hx : k = x
    · subst hx
      rw [AList.lookup_insert, List.count_cons_self, Option.getD_some]
      omega
    · rw [AList.lookup_insert_ne hx, List.count_cons_of_ne (Ne.symm hx)]

lemma lookup_tally (ks : List K) (k : K) : ((tally ks).lookup k).getD 0 = ks.count k := by
  rw [tally, lookup_foldl_tally, AList.lookup_empty, Option.getD_none, Nat.zero_add]

/-- `m[k] = append(m[k], x)`. -/
def push (m : GoMap K (List V)) (k : K) (x : V) : GoMap K (List V) :=
  m.insert k ((m.lookup k).getD [] ++ [x])

lemma lookup_push_self (m : GoMap K (List V)) (k : K) (x : V) :
    ((m.push k x).lookup k).getD [] = (m.lookup k).getD [] ++ [x] := by
  rw [push, AList.lookup_insert, Option.getD_some]

lemma lookup_push_ne (m : GoMap K (List V)) {k k' : K} (x : V) (h : k' ≠ k) :
    (m.push k x).lookup k' = m.lookup k' :=
  AList.lookup_insert_ne h

/-- A loop of `delete`. -/
lemma lookup_foldl_erase (ks : List K) (m : GoMap K V) (k : K) :
    (ks.foldl (fun m k => m.erase k) m).lookup k = if k ∈ ks then none else m.lookup k := by
  induction ks generalizing m with
  | nil => simp
  | cons k' ks ih =>
    rw [List.foldl_cons, ih]
    by_cases hk : k = k'
    · subst hk
      simp
    · rw [AList.lookup_erase_ne hk]
      simp [hk]

/-- Deleting the same keys from two orders of one map leaves two orders of one map. -/
lemma perm_foldl_erase {α : Type} (key : α → K) (l : List α) {m m' : GoMap K V}
    (h : m.entries.Perm m'.entries) : (l.foldl (fun m x => m.erase (key x)) m).entries.Perm
      (l.foldl (fun m x => m.erase (key x)) m').entries := by
  induction l generalizing m m' with
  | nil => exact h
  | cons x l ih =>
    rw [List.foldl_cons, List.foldl_cons]
    exact ih (AList.perm_erase h)

/-- `maps.Equal`: as many entries, and every entry of the one in the other. -/
def equal [DecidableEq V] (m m' : GoMap K V) : Bool :=
  m.entries.length = m'.entries.length && m.entries.all fun e => m'.lookup e.1 = some e.2

/-- Equal maps answer every lookup alike. -/
lemma lookup_of_equal [DecidableEq V] {m m' : GoMap K V} (h : m.equal m' = true) (k : K) :
    m.lookup k = m'.lookup k := by
  simp only [equal, Bool.and_eq_true, decide_eq_true_eq, List.all_eq_true] at h
  have hsub : m.entries ⊆ m'.entries := fun e he => AList.mem_lookup_iff.1 (h.2 e he)
  have hperm := (List.subperm_of_subset m.nodupKeys.nodup hsub).perm_of_length_le (Nat.le_of_eq h.1.symm)
  exact AList.perm_lookup hperm

end GoMap

end NetworkEnforcer.Lib
