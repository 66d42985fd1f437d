import Mathlib.Data.List.Nodup
import Mathlib.Data.List.AList

/-!
# JSON merge patches (RFC 7386)

`Json α` is a JSON value with leaves in `α`; an array is a leaf, since a merge patch replaces arrays
whole.  The members of an object are a list of pairs, read by `get`.

* `mergePatch` — the algorithm of the RFC;
* `createMergePatch` — the patch that leads from one object to another;
* `get_mergeFields`, `get_createMergePatch` — both, member by member;
* `get_mergeFields_createMergePatch` — what the patch between two objects does to a third one, with
  `patchMember_diffMember_leaf` and `get_members_patchMember` for members that are leaves or objects.
-/

namespace NetworkEnforcer.Lib

inductive Json (α : Type) where
  | null
  | leaf (a : α)
  | obj (fields : List (String × Json α))

namespace Json

variable {α β : Type}

/-! ## Members -/

/-- The first member under a name. -/
def get (k : String) : List (String × β) → Option β
  | [] => none
  | (k', v) :: l => if k = k' then some v else get k l

def erase (k : String) (l : List (String × β)) : List (String × β) := l.filter fun e => e.1 ≠ k

def set (k : String) (v : β) (l : List (String × β)) : List (String × β) := (k, v) :: erase k l

/-- The names of the members. -/
def names (l : List (String × β)) : List String := l.map Prod.fst

@[simp] lemma get_nil (k : String) : get k ([] : List (String × β)) = none := rfl

lemma get_cons (k k' : String) (v : β) (l : List (String × β)) :
    get k ((k', v) :: l) = if k = k' then some v else get k l := rfl

lemma get_append (k : String) (l m : List (String × β)) : get k (l ++ m) = (get k l).or (get k m) := by
  induction l with
  | nil => rfl
  | cons e l ih =>
    obtain ⟨k', v⟩ := e
    rw [List.cons_append, get_cons, get_cons, ih]
    split <;> rfl

lemma get_eq_none_iff {k : String} {l : List (String × β)} : get k l = none ↔ k ∉ names l := by
  induction l with
  | nil => simp [names]
  | cons e l ih =>
    obtain ⟨k', v⟩ := e
    by_cases hk : k = k'
    · simp [get_cons, names, hk]
    · simpa [get_cons, names, hk] using ih

@[simp] lemma get_erase_self (k : String) (l : List (String × β)) : get k (erase k l) = none := by
  rw [get_eq_none_iff]
  simp [names, erase]

lemma get_erase_of_ne {k k' : String} (h : k ≠ k') (l : List (String × β)) :
    get k (erase k' l) = get k l := by
  induction l with
  | nil => rfl
  | cons e l ih =>
    obtain ⟨k'', v⟩ := e
    by_cases hk : k'' = k'
    · subst hk
      have herase : erase k'' ((k'', v) :: l) = erase k'' l := by simp [erase]
      rw [herase, ih, get_cons, if_neg h]
    · have herase : erase k' ((k'', v) :: l) = (k'', v) :: erase k' l := by simp [erase, hk]
      rw [herase, get_cons, get_cons, ih]

@[simp] lemma get_set_self (k : String) (v : β) (l : List (String × β)) : get k (set k v l) = some v := by
  simp [set, get_cons]

lemma get_set_of_ne {k k' : String} (h : k ≠ k') (v : β) (l : List (String × β)) :
    get k (set k' v l) = get k l := by
  rw [set, get_cons, if_neg h, get_erase_of_ne h]

/-- The members of a table whose values are there; the others are omitted. -/
def present : List (String × Option β) → List (String × β)
  | [] => []
  | (k, some v) :: l => (k, v) :: present l
  | (_, none) :: l => present l

lemma names_present_sublist (l : List (String × Option β)) : (names (present l)).Sublist (names l) := by
  induction l with
  | nil => exact List.Sublist.slnil
  | cons e l ih =>
    obtain ⟨k, _ | v⟩ := e
    · exact ih.cons _
    · exact ih.cons_cons _

lemma get_present {l : List (String × Option β)} (h : (names l).Nodup) (k : String) :
    get k (present l) = (get k l).join := by
  induction l with
  | nil => rfl
  | cons e l ih =>
    obtain ⟨k', o⟩ := e
    simp only [names, List.map_cons, List.nodup_cons] at h
    have ih := ih h.2
    by_cases hk : k = k'
    · subst hk
      cases o with
      | some v => simp [present, get_cons]
      | none =>
        rw [present, ih, get_cons, if_pos rfl, get_eq_none_iff.2 h.1]
        rfl
    · cases o with
      | some v => rw [present, get_cons, get_cons, if_neg hk, if_neg hk, ih]
      | none => rw [present, get_cons, if_neg hk, ih]

/-! ## Applying a patch -/

/-- The members of an object; a value of another kind counts as an empty one. -/
def fields : Json α → List (String × Json α)
  | obj l => l
  | _ => []

/-- The members of a member. -/
def members (o : Option (Json α)) : List (String × Json α) := (o.map fields).getD []

/-- The value of a leaf. -/
def value : Json α → Option α
  | leaf a => some a
  | _ => none

@[simp] lemma bind_value_map_leaf (o : Option α) : (o.map leaf).bind value = o := by
  cases o <;> rfl

def isNull : Json α → Bool
  | null => true
  | _ => false

mutual

/-- `MergePatch(Target, Patch)` of the RFC. -/
def mergePatch (target : Json α) : Json α → Json α
  | null => null
  | leaf a => leaf a
  | obj p => obj (mergeFields target.fields p)
termination_by structural p => p

/-- The loop over the members of the patch: `null` removes a member. -/
def mergeFields (target : List (String × Json α)) : List (String × Json α) → List (String × Json α)
  | [] => target
  | (k, v) :: p =>
    mergeFields (if v.isNull then erase k target
      else set k (mergePatch ((get k target).getD null) v) target) p
termination_by structural p => p

end

/-- What a patch member does to the member of the target. -/
def patchMember (target : Option (Json α)) : Option (Json α) → Option (Json α)
  | none => target
  | some null => none
  | some v => some (mergePatch (target.getD null) v)

lemma patchMember_leaf (target : Option (Json α)) (a : α) :
    patchMember target (some (leaf a)) = some (leaf a) := by
  simp [patchMember, mergePatch]

lemma patchMember_obj (target : Option (Json α)) (q : List (String × Json α)) :
    patchMember target (some (obj q)) = some (obj (mergeFields (members target) q)) := by
  cases target <;> simp [patchMember, mergePatch, members, fields]

lemma mergeFields_cons (target p : List (String × Json α)) (k : String) (v : Json α) :
    mergeFields target ((k, v) :: p) =
      mergeFields (match patchMember (get k target) (some v) with
        | none => erase k target
        | some v' => set k v' target) p := by
  cases v <;> simp [mergeFields, patchMember, isNull]

/-- **A patch, member by member.** -/
theorem get_mergeFields {p : List (String × Json α)} (h : (names p).Nodup)
    (target : List (String × Json α)) (k : String) :
    get k (mergeFields target p) = patchMember (get k target) (get k p) := by
  induction p generalizing target with
  | nil => simp [mergeFields, patchMember]
  | cons e p ih =>
    obtain ⟨k', v⟩ := e
    simp only [names, List.map_cons, List.nodup_cons] at h
    rw [mergeFields_cons, ih h.2, get_cons]
    by_cases hk : k = k'
    · subst hk
      have hnone : get k p = none := get_eq_none_iff.2 h.1
      rw [if_pos rfl, hnone]
      cases patchMember (get k target) (some v) with
      | none => simp [patchMember]
      | some v' => simp [patchMember]
    · rw [if_neg hk]
      congr 1
      cases patchMember (get k' target) (some v) with
      | none => exact get_erase_of_ne hk target
      | some v' => exact get_set_of_ne hk v' target

lemma names_erase_nodup {l : List (String × Json α)} (h : (names l).Nodup) (k : String) :
    (names (erase k l)).Nodup :=
  h.sublist (List.filter_sublist.map _)

lemma names_set_nodup {l : List (String × Json α)} (h : (names l).Nodup) (k : String) (v : Json α) :
    (names (set k v l)).Nodup :=
  List.nodup_cons.2 ⟨get_eq_none_iff.1 (get_erase_self k l), names_erase_nodup h k⟩

lemma names_mergeFields_nodup (p : List (String × Json α)) {target : List (String × Json α)}
    (h : (names target).Nodup) : (names (mergeFields target p)).Nodup := by
  induction p generalizing target with
  | nil => simpa [mergeFields] using h
  | cons e p ih =>
    obtain ⟨k, v⟩ := e
    rw [mergeFields_cons]
    apply ih
    split
    · exact names_erase_nodup h k
    · exact names_set_nodup h k _

lemma names_members_patchMember_nodup {target : Option (Json α)} (h : (names (members target)).Nodup)
    (d : Option (Json α)) : (names (members (patchMember target d))).Nodup := by
  rcases d with _ | _ | a | q
  · exact h
  · exact List.nodup_nil
  · rw [patchMember_leaf]
    exact List.nodup_nil
  · rw [patchMember_obj]
    exact names_mergeFields_nodup q h

/-! ## Computing a patch -/

/-- The members that are gone, as removals. -/
def removals (base new : List (String × Json α)) : List (String × Json α) :=
  (base.filter fun e => (get e.1 new).isNone).map fun e => (e.1, null)

variable [DecidableEq α]

mutual

/-- The patch from one value to another; `none` when there is nothing to say. -/
def diffValue (base : Json α) : Json α → Option (Json α)
  | null =>
    match base with
    | null => none
    | _ => some null
  | leaf a =>
    match base with
    | leaf b => if b = a then none else some (leaf a)
    | _ => some (leaf a)
  | obj n =>
    match base with
    | obj b => if (diffFields b n ++ removals b n).isEmpty then none
      else some (obj (diffFields b n ++ removals b n))
    | _ => some (obj n)
termination_by structural n => n

/-- The members that are new or changed. -/
def diffFields (base : List (String × Json α)) : List (String × Json α) → List (String × Json α)
  | [] => []
  | (k, v) :: n =>
    match get k base with
    | none => (k, v) :: diffFields base n
    | some bv =>
      match diffValue bv v with
      | none => diffFields base n
      | some d => (k, d) :: diffFields base n
termination_by structural n => n

end

/-- `CreateMergePatch` on the members of two objects. -/
def createMergePatch (base new : List (String × Json α)) : List (String × Json α) :=
  diffFields base new ++ removals base new

/-- The member of a patch, from the members of the two objects. -/
def diffMember : Option (Json α) → Option (Json α) → Option (Json α)
  | none, none => none
  | some _, none => some null
  | none, some v => some v
  | some bv, some v => diffValue bv v

lemma names_diffFields_sublist (base new : List (String × Json α)) :
    (names (diffFields base new)).Sublist (names new) := by
  induction new with
  | nil => simp [diffFields, names]
  | cons e new ih =>
    obtain ⟨k, v⟩ := e
    rw [diffFields]
    split
    · exact ih.cons_cons _
    · split
      · exact ih.cons _
      · exact ih.cons_cons _

lemma get_diffFields {new : List (String × Json α)} (h : (names new).Nodup)
    (base : List (String × Json α)) (k : String) :
    get k (diffFields base new) = (get k new).bind fun v => diffMember (get k base) (some v) := by
  induction new with
  | nil => simp [diffFields]
  | cons e new ih =>
    obtain ⟨k', v⟩ := e
    simp only [names, List.map_cons, List.nodup_cons] at h
    have ih := ih h.2
    rw [diffFields, get_cons]
    by_cases hk : k = k'
    · subst hk
      have hnone : get k new = none := get_eq_none_iff.2 h.1
      rw [hnone] at ih
      rw [if_pos rfl, Option.bind_some]
      cases hb : get k base with
      | none => simp [diffMember, get_cons]
      | some bv =>
        cases hd : diffValue bv v with
        | none => simpa [diffMember, hd] using ih
        | some d => simp [diffMember, hd, get_cons]
    · rw [if_neg hk, ← ih]
      split
      · rw [get_cons, if_neg hk]
      · split
        · rfl
        · rw [get_cons, if_neg hk]

omit [DecidableEq α] in
lemma get_removals (base new : List (String × Json α)) (k : String) :
    get k (removals base new) = if (get k base).isSome && (get k new).isNone then some null else none := by
  induction base with
  | nil => simp [removals]
  | cons e base ih =>
    obtain ⟨k', v⟩ := e
    by_cases hn : (get k' new).isNone
    · have hcons : removals ((k', v) :: base) new = (k', null) :: removals base new := by
        simp only [removals, List.filter_cons, hn, if_true, List.map_cons]
      rw [hcons, get_cons, get_cons, ih]
      by_cases hk : k = k'
      · subst hk
        simp [hn]
      · rw [if_neg hk, if_neg hk]
    · have hcons : removals ((k', v) :: base) new = removals base new := by
        simp only [removals, List.filter_cons, hn]
        rfl
      rw [hcons, ih, get_cons]
      by_cases hk : k = k'
      · subst hk
        simp [hn]
      · rw [if_neg hk]

/-- **A computed patch, member by member.** -/
theorem get_createMergePatch {new : List (String × Json α)} (h : (names new).Nodup)
    (base : List (String × Json α)) (k : String) :
    get k (createMergePatch base new) = diffMember (get k base) (get k new) := by
  rw [createMergePatch, get_append, get_diffFields h, get_removals]
  cases hb : get k base <;> cases hn : get k new <;> simp [diffMember]

lemma names_createMergePatch_nodup {base new : List (String × Json α)} (hb : (names base).Nodup)
    (hn : (names new).Nodup) : (names (createMergePatch base new)).Nodup := by
  have hsub : (names (removals base new)).Sublist (names base) := by
    simp only [names, removals, List.map_map]
    exact List.filter_sublist.map _
  rw [names, createMergePatch, List.map_append, List.nodup_append]
  refine ⟨hn.sublist (names_diffFields_sublist base new), hb.sublist hsub, ?_⟩
  -- a removed member is not in the new object
  intro a ha b hb' hab
  subst hab
  have hin : a ∈ names new := (names_diffFields_sublist base new).subset ha
  have hout : get a new = none := by
    have : get a (removals base new) ≠ none := fun h => get_eq_none_iff.1 h hb'
    rw [get_removals] at this
    by_contra hne
    simp [hne] at this
  exact get_eq_none_iff.1 hout hin

/-- The patch from `base` to `new`, applied to a third object, member by member. -/
theorem get_mergeFields_createMergePatch {base new : List (String × Json α)} (hb : (names base).Nodup)
    (hn : (names new).Nodup) (target : List (String × Json α)) (k : String) :
    get k (mergeFields target (createMergePatch base new)) =
      patchMember (get k target) (diffMember (get k base) (get k new)) := by
  rw [get_mergeFields (names_createMergePatch_nodup hb hn), get_createMergePatch hn]

/-- A member that is a leaf or absent in both objects is kept where they agree and set where they do
not. -/
theorem patchMember_diffMember_leaf (target : Option (Json α)) (b n : Option α) :
    patchMember target (diffMember (b.map leaf) (n.map leaf)) = if b = n then target else n.map leaf := by
  cases b with
  | none =>
    cases n with
    | none => simp [diffMember, patchMember]
    | some y => simp [diffMember, patchMember_leaf]
  | some x =>
    cases n with
    | none => simp [diffMember, patchMember]
    | some y =>
      by_cases hxy : x = y
      · simp [diffMember, diffValue, patchMember, hxy]
      · simp [diffMember, diffValue, patchMember_leaf, hxy]

/-- A member that is an object in both: nothing if they agree, else the patch between them. -/
theorem diffMember_obj (b n : List (String × Json α)) :
    diffMember (some (obj b)) (some (obj n)) =
      if createMergePatch b n = [] then none else some (obj (createMergePatch b n)) := by
  simp only [diffMember, diffValue, createMergePatch, List.isEmpty_iff]
  rfl

/-- A member that is an object in both is patched member by member, whether or not they agree. -/
theorem get_members_patchMember {b n : List (String × Json α)} (hb : (names b).Nodup)
    (hn : (names n).Nodup) (target : Option (Json α)) (k : String) :
    get k (members (patchMember target (diffMember (some (obj b)) (some (obj n))))) =
      patchMember (get k (members target)) (diffMember (get k b) (get k n)) := by
  rw [diffMember_obj]
  split
  · rename_i hnil
    rw [← get_createMergePatch hn, hnil]
    rfl
  · rw [patchMember_obj]
    exact get_mergeFields_createMergePatch hb hn (members target) k

end Json

end NetworkEnforcer.Lib
