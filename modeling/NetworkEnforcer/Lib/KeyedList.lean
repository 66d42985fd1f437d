import NetworkEnforcer.Lib.GoMap
import Mathlib.Data.List.Induction
import Mathlib.Data.List.Perm.Subperm
import Mathlib.Data.List.Sort

/-!
# Lists with an index of their keys

A list is updated through a map from keys to positions.  `Indexed key m l` says that the map and the
list agree; it forces the keys to be pairwise distinct, and under it an update through the map is the
update `upsert` by key, which mentions no position:

* `Indexed.modify_eq_upsert`, `Indexed.append_eq_upsert` — the two cases of an update;
* `Indexed.modify`, `Indexed.append` — the index stays right;
* `indexed_positions` — the loop that builds the index of a list with distinct keys.
-/

namespace NetworkEnforcer.Lib

variable {α κ : Type} [DecidableEq κ] {key : α → κ}

/-- Change the elements with the key of `x` by `f`; without one, append `x`. -/
def upsert (key : α → κ) (f : α → α) (x : α) (l : List α) : List α :=
  if key x ∈ l.map key then l.map fun y => if key y = key x then f y else y else l ++ [x]

/-- The map sends exactly the keys of the list to their positions. -/
def Indexed (key : α → κ) (m : GoMap κ Nat) (l : List α) : Prop :=
  ∀ k i, m.lookup k = some i ↔ l[i]?.map key = some k

/-- The index of a list: `m[key(x)] = i` for every element `x` at position `i`. -/
def positions (key : α → κ) (l : List α) : GoMap κ Nat :=
  l.zipIdx.foldl (fun m p => m.insert (key p.1) p.2) ∅

/-! ## Keys of an updated list -/

lemma map_key_upsert_of_mem {f : α → α} {x : α} {l : List α} (hf : ∀ y, key (f y) = key y)
    (h : key x ∈ l.map key) : (upsert key f x l).map key = l.map key := by
  rw [upsert, if_pos h, List.map_map]
  refine List.map_congr_left fun y _ => ?_
  simp only [Function.comp]
  split
  · exact hf y
  · rfl

lemma upsert_of_notMem {f : α → α} {x : α} {l : List α} (h : key x ∉ l.map key) :
    upsert key f x l = l ++ [x] := by
  rw [upsert, if_neg h]

/-- **An update keeps the keys distinct.** -/
theorem nodup_upsert {f : α → α} {x : α} {l : List α} (hf : ∀ y, key (f y) = key y)
    (hl : (l.map key).Nodup) : ((upsert key f x l).map key).Nodup := by
  by_cases h : key x ∈ l.map key
  · rw [map_key_upsert_of_mem hf h]
    exact hl
  · rw [upsert_of_notMem h, List.map_append, List.nodup_append]
    refine ⟨hl, by simp, ?_⟩
    intro a ha b hb hab
    obtain rfl : b = key x := by simpa using hb
    exact h (hab ▸ ha)

/-! ## What the index says -/

lemma Indexed.eq_of_key_eq {m : GoMap κ Nat} {l : List α} (h : Indexed key m l) {i j : Nat} {k : κ}
    (hi : l[i]?.map key = some k) (hj : l[j]?.map key = some k) : i = j := by
  have h1 := (h k i).2 hi
  rw [(h k j).2 hj] at h1
  exact (Option.some.inj h1).symm

lemma Indexed.lookup_isSome_iff {m : GoMap κ Nat} {l : List α} (h : Indexed key m l) {k : κ} :
    (m.lookup k).isSome ↔ k ∈ l.map key := by
  rw [Option.isSome_iff_exists, List.mem_iff_getElem?]
  simp only [List.getElem?_map, h k]

lemma Indexed.lookup_eq_none_iff {m : GoMap κ Nat} {l : List α} (h : Indexed key m l) {k : κ} :
    m.lookup k = none ↔ k ∉ l.map key := by
  rw [← h.lookup_isSome_iff, Option.not_isSome_iff_eq_none]

theorem Indexed.modify_eq_upsert {m : GoMap κ Nat} {l : List α} (h : Indexed key m l) {x : α}
    {i : Nat} (f : α → α) (hx : m.lookup (key x) = some i) : l.modify i f = upsert key f x l := by
  have hi := (h (key x) i).1 hx
  have hmem : key x ∈ l.map key := h.lookup_isSome_iff.1 (by rw [hx]; rfl)
  rw [upsert, if_pos hmem]
  refine List.ext_getElem? fun j => ?_
  rw [List.getElem?_modify, List.getElem?_map]
  cases hj : l[j]? with
  | none => rfl
  | some y =>
    by_cases hij : i = j
    · subst hij
      have hy : key y = key x := by simpa [hj] using hi
      simp [hy]
    · have hy : key y ≠ key x := fun hy => hij (h.eq_of_key_eq hi (by simp [hj, hy]))
      simp [hij, hy]

theorem Indexed.append_eq_upsert {m : GoMap κ Nat} {l : List α} (h : Indexed key m l) {x : α}
    (f : α → α) (hx : m.lookup (key x) = none) : l ++ [x] = upsert key f x l :=
  (upsert_of_notMem (h.lookup_eq_none_iff.1 hx)).symm

/-! ## Keeping the index right -/

theorem Indexed.modify {m : GoMap κ Nat} {l : List α} (h : Indexed key m l) {f : α → α}
    (hf : ∀ y, key (f y) = key y) (i : Nat) : Indexed key m (l.modify i f) := by
  intro k j
  rw [h k j, List.getElem?_modify]
  cases l[j]? with
  | none => simp
  | some y => by_cases hij : i = j <;> simp [hij, hf]

theorem Indexed.append {m : GoMap κ Nat} {l : List α} (h : Indexed key m l) {x : α}
    (hx : m.lookup (key x) = none) : Indexed key (m.insert (key x) l.length) (l ++ [x]) := by
  have hnot : key x ∉ l.map key := h.lookup_eq_none_iff.1 hx
  intro k j
  by_cases hk : k = key x
  · subst hk
    rw [AList.lookup_insert, Option.some.injEq]
    constructor
    · rintro rfl
      simp
    · intro hj
      by_contra hne
      rcases Nat.lt_or_gt_of_ne (Ne.symm hne) with hlt | hgt
      · rw [List.getElem?_append_left hlt, ← List.getElem?_map] at hj
        exact hnot (List.mem_of_getElem? hj)
      · rw [List.getElem?_eq_none (by simp; omega)] at hj
        cases hj
  · rw [AList.lookup_insert_ne hk, h k j]
    by_cases hlt : j < l.length
    · rw [List.getElem?_append_left hlt]
    · -- past the old list there is only `x`, whose key is not `k`
      rw [List.getElem?_eq_none (by omega)]
      rcases Nat.lt_or_eq_of_le (Nat.le_of_not_lt hlt) with hgt | rfl
      · rw [List.getElem?_eq_none (by simp; omega)]
      · simp [Ne.symm hk]

/-- The index loop over the positions from `n` on, after a map that indexes the list before them. -/
lemma indexed_foldl (l : List α) : ∀ (pre : List α) (m : GoMap κ Nat), Indexed key m pre →
    ((pre ++ l).map key).Nodup →
    Indexed key ((l.zipIdx pre.length).foldl (fun m p => m.insert (key p.1) p.2) m) (pre ++ l) := by
  induction l with
  | nil =>
    intro pre m hm _
    simpa using hm
  | cons x l ih =>
    intro pre m hm hnd
    have hx : m.lookup (key x) = none := by
      rw [hm.lookup_eq_none_iff]
      rw [List.map_append, List.map_cons, List.nodup_append] at hnd
      exact fun hmem => hnd.2.2 _ hmem _ (List.mem_cons_self ..) rfl
    have hstep := ih (pre ++ [x]) _ (hm.append hx) (by simpa using hnd)
    simpa [List.zipIdx_cons] using hstep

/-- **The loop builds the index** of a list with distinct keys. -/
theorem indexed_positions {l : List α} (h : (l.map key).Nodup) : Indexed key (positions key l) l := by
  have hempty : Indexed key (∅ : GoMap κ Nat) ([] : List α) := by
    intro k i
    simp
  simpa [positions] using indexed_foldl l [] ∅ hempty (by simpa using h)

/-! ## What survives a sort, a filter or a cut -/

lemma subperm_map {β : Type} {l₁ l₂ : List α} (f : α → β) (h : l₁.Subperm l₂) :
    (l₁.map f).Subperm (l₂.map f) := by
  obtain ⟨l, hp, hs⟩ := h
  exact ⟨l.map f, hp.map f, hs.map f⟩

lemma nodup_of_subperm {l₁ l₂ : List α} (h : l₁.Subperm l₂) (hn : l₂.Nodup) : l₁.Nodup := by
  obtain ⟨l, hp, hs⟩ := h
  exact hp.nodup_iff.1 (hn.sublist hs)

/-! ## Changing one element -/

section Modify

variable {α β : Type} {f : α → α}

lemma map_modify {g : α → β} {f' : β → β} (h : ∀ a, g (f a) = f' (g a)) (l : List α) (i : Nat) :
    (l.modify i f).map g = (l.map g).modify i f' := by
  induction l generalizing i with
  | nil => cases i <;> rfl
  | cons a l ih =>
    cases i with
    | zero => simp [h]
    | succ i => simp [ih]

lemma map_modify_of_forall {g : α → β} (h : ∀ a, g (f a) = g a) (l : List α) (i : Nat) :
    (l.modify i f).map g = l.map g := by
  have hid : (l.modify i f).map g = (l.map g).modify i id := map_modify h l i
  rw [hid, List.modify_id]

lemma forall_mem_modify {P : α → Prop} (hf : ∀ a, P a → P (f a)) {l : List α} (h : ∀ a ∈ l, P a)
    (i : Nat) : ∀ a ∈ l.modify i f, P a := by
  induction l generalizing i with
  | nil => cases i <;> simp
  | cons a l ih =>
    rw [List.forall_mem_cons] at h
    cases i with
    | zero => simpa [List.modify_zero_cons] using ⟨hf a h.1, h.2⟩
    | succ i => simpa [List.modify_succ_cons] using ⟨h.1, ih h.2 i⟩

end Modify

/-! ## Repeated keys

Without the assumption that keys are distinct, the index loop leaves every key at its last position. -/

section Last

variable {α κ : Type} {p : α → Bool} {f : α → α}

/-- The last position at which `p` holds. -/
def lastIdx (p : α → Bool) : List α → Option Nat
  | [] => none
  | a :: l => ((lastIdx p l).map (· + 1)).or (if p a then some 0 else none)

/-- Change the last element at which `p` holds. -/
def modifyLast (p : α → Bool) (f : α → α) : List α → List α
  | [] => []
  | a :: l => if l.any p then a :: modifyLast p f l else if p a then f a :: l else a :: l

lemma lastIdx_isSome (l : List α) : (lastIdx p l).isSome = l.any p := by
  induction l with
  | nil => rfl
  | cons a l ih =>
    rw [lastIdx, List.any_cons, ← ih, Option.isSome_or, Option.isSome_map]
    cases p a <;> simp

lemma lastIdx_eq_none {l : List α} : lastIdx p l = none ↔ l.any p = false := by
  rw [← lastIdx_isSome, Option.isSome_eq_false_iff, Option.isNone_iff_eq_none]

lemma modify_eq_modifyLast {l : List α} {i : Nat} (h : lastIdx p l = some i) :
    l.modify i f = modifyLast p f l := by
  induction l generalizing i with
  | nil => cases h
  | cons a l ih =>
    rw [lastIdx] at h
    rw [modifyLast]
    cases hl : lastIdx p l with
    | some j =>
      rw [hl, Option.map_some, Option.some_or] at h
      obtain rfl := Option.some.inj h
      rw [if_pos (by rw [← lastIdx_isSome, hl]; rfl), List.modify_succ_cons, ih hl]
    | none =>
      rw [hl, Option.map_none, Option.none_or] at h
      rw [if_neg (by rw [lastIdx_eq_none.1 hl]; decide)]
      by_cases hp : p a = true
      · rw [if_pos hp] at h
        obtain rfl := Option.some.inj h
        rw [if_pos hp, List.modify_zero_cons]
      · rw [if_neg hp] at h
        cases h

lemma lastIdx_concat (l : List α) (a : α) :
    lastIdx p (l ++ [a]) = if p a then some l.length else lastIdx p l := by
  induction l with
  | nil => simp [lastIdx]
  | cons b l ih =>
    rw [List.cons_append, lastIdx, lastIdx, ih]
    split <;> simp

lemma lastIdx_map {β : Type} (g : α → β) (p : β → Bool) (l : List α) :
    lastIdx p (l.map g) = lastIdx (fun a => p (g a)) l := by
  induction l with
  | nil => rfl
  | cons a l ih => rw [List.map_cons, lastIdx, lastIdx, ih]

lemma lastIdx_modify (hf : ∀ a, p (f a) = p a) (l : List α) (i : Nat) :
    lastIdx p (l.modify i f) = lastIdx p l := by
  induction l generalizing i with
  | nil => cases i <;> rfl
  | cons a l ih =>
    cases i with
    | zero => rw [List.modify_zero_cons, lastIdx, lastIdx, hf]
    | succ i => rw [List.modify_succ_cons, lastIdx, lastIdx, ih]

/-- **The index loop leaves every key at its last position.** -/
theorem lookup_positions [DecidableEq κ] (key : α → κ) (l : List α) (k : κ) :
    (positions key l).lookup k = lastIdx (fun a => key a = k) l := by
  unfold positions
  induction l using List.reverseRecOn with
  | nil => rfl
  | append_singleton l a ih =>
    rw [List.zipIdx_append, List.foldl_append, lastIdx_concat]
    simp only [List.zipIdx_singleton, List.foldl_cons, List.foldl_nil]
    by_cases hk : key a = k
    · subst hk
      rw [AList.lookup_insert, if_pos (by simp), Nat.zero_add]
    · rw [AList.lookup_insert_ne (Ne.symm hk), if_neg (by simpa using hk), ih]

lemma map_modifyLast {β : Type} {g : α → β} (h : ∀ a, g (f a) = g a) (l : List α) :
    (modifyLast p f l).map g = l.map g := by
  induction l with
  | nil => rfl
  | cons a l ih =>
    rw [modifyLast]
    split
    · rw [List.map_cons, List.map_cons, ih]
    · split
      · rw [List.map_cons, List.map_cons, h]
      · rfl

lemma modifyLast_of_not_any {l : List α} (h : ¬l.any p = true) : modifyLast p f l = l := by
  induction l with
  | nil => rfl
  | cons a l ih =>
    rw [List.any_cons, Bool.or_eq_true, not_or] at h
    rw [modifyLast, if_neg h.2, if_neg h.1]

variable {q : α → Bool}

lemma any_filter_of_imp (h : ∀ a, p a = true → q a = true) (l : List α) :
    (l.filter q).any p = l.any p := by
  rw [List.any_filter]
  congr 1
  funext a
  cases hp : p a with
  | true => rw [h a hp]; rfl
  | false => simp

/-- A filter that keeps whatever is changed passes through the change. -/
lemma filter_modifyLast_of_imp (hf : ∀ a, q (f a) = q a) (h : ∀ a, p a = true → q a = true)
    (l : List α) : (modifyLast p f l).filter q = modifyLast p f (l.filter q) := by
  induction l with
  | nil => rfl
  | cons a l ih =>
    have hany := any_filter_of_imp h l
    rw [modifyLast]
    by_cases hl : l.any p = true
    · rw [if_pos hl, List.filter_cons, List.filter_cons, ih]
      split
      · rw [modifyLast, if_pos (hany.trans hl)]
      · rfl
    · rw [if_neg hl]
      by_cases hp : p a = true
      · have hq := h a hp
        rw [if_pos hp, List.filter_cons_of_pos ((hf a).trans hq), List.filter_cons_of_pos hq, modifyLast,
          if_neg (hany ▸ hl), if_pos hp]
      · rw [if_neg hp, List.filter_cons]
        split
        · rw [modifyLast, if_neg (hany ▸ hl), if_neg hp]
        · -- nothing to change is left
          rw [← ih]
          exact (congrArg (List.filter q) (modifyLast_of_not_any hl)).symm

/-- A filter that drops whatever is changed does not see the change. -/
lemma filter_modifyLast_of_imp_not (hf : ∀ a, q (f a) = q a) (h : ∀ a, p a = true → q a = false)
    (l : List α) : (modifyLast p f l).filter q = l.filter q := by
  induction l with
  | nil => rfl
  | cons a l ih =>
    rw [modifyLast]
    split
    · rw [List.filter_cons, List.filter_cons, ih]
    · split
      · rename_i hp
        have hq := h a hp
        rw [List.filter_cons_of_neg (by rw [hf, hq]; decide), List.filter_cons_of_neg (by rw [hq]; decide)]
      · rfl

end Last

end NetworkEnforcer.Lib
