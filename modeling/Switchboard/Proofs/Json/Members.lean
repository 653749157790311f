import Mathlib.Data.List.Induction
import Mathlib.Data.List.Nodup
import Mathlib.Logic.Function.Basic
import Switchboard.Json.Value

/-!
# Members of objects

A member is looked up by its key, and the first one with the key counts. An object is built by
giving keys their values one after another, so that a repeated key keeps its place and takes the
last value; members without repeated keys are built as they stand.

## Main results

* `get?_insert`: a key that is given a value has it, and the other keys keep theirs.
* `ofList_eq_self`: members without repeated keys.
* `nodup_ofList`, `get?_ofList`: an object has no key twice, and under each key the last value that
  was given to it.
-/

namespace Switchboard.Json

/-- A value is taken as a string only if it is one. -/
theorem Value.string?_eq_some_iff {v : Value} {text : String} :
    v.string? = some text ↔ v = .string text := by
  cases v <;> simp [string?]

namespace Members

/-- There is nothing in no members. -/
theorem get?_nil (key : String) : get? [] key = none := rfl

/-- Looking up a key, member by member: the first one that has it counts. -/
theorem get?_cons (key : String) (value : Value) (members : Members) (k : String) :
    get? ((key, value) :: members) k = if k = key then some value else get? members k := by
  by_cases h : k = key
  · subst h
    rw [if_pos rfl, get?, List.find?_cons_of_pos (by simp), Option.map_some]
  · rw [if_neg h, get?, List.find?_cons_of_neg (by simpa using Ne.symm h), get?]

/-- A key that is given a value has it, and the other keys keep theirs. -/
theorem get?_insert (members : Members) (key : String) (value : Value) :
    get? (insert members key value) = Function.update (get? members) key (some value) := by
  funext k
  rw [Function.update_apply]
  induction members with
  | nil => exact get?_cons key value [] k
  | cons member members ih =>
      obtain ⟨key', value'⟩ := member
      rw [insert]
      split
      · next h =>
          rw [get?_cons, get?_cons, h]
          split <;> rfl
      · next h =>
          rw [get?_cons, get?_cons, ih]
          split
          · next hk => rw [if_neg (hk ▸ h)]
          · rfl

/-- A member with a new key comes in at the end. -/
theorem insert_eq_append {members : Members} {key : String} (h : key ∉ members.map Prod.fst)
    (value : Value) : insert members key value = members ++ [(key, value)] := by
  induction members with
  | nil => rfl
  | cons member members ih =>
      obtain ⟨k, v⟩ := member
      rw [List.map_cons, List.mem_cons, not_or] at h
      rw [insert, if_neg (Ne.symm h.1), ih h.2, List.cons_append]

/-- A further entry comes in last. -/
theorem ofList_concat (entries : List (String × Value)) (entry : String × Value) :
    ofList (entries ++ [entry]) = insert (ofList entries) entry.1 entry.2 := by
  rw [ofList, List.foldl_append]
  rfl

/-- Members without repeated keys are the members of the object that is written with them. -/
theorem ofList_eq_self {members : Members} (h : (members.map Prod.fst).Nodup) :
    ofList members = members := by
  induction members using List.reverseRecOn with
  | nil => rfl
  | append_singleton members member ih =>
      rw [List.map_append, List.nodup_append] at h
      obtain ⟨hnodup, -, hapart⟩ := h
      have hkey : member.1 ∉ members.map Prod.fst := fun hmem =>
        hapart _ hmem member.1 (List.mem_singleton.mpr rfl) rfl
      rw [ofList_concat, ih hnodup, insert_eq_append hkey]

/-- A member whose key is not repeated is found under its key. -/
theorem get?_eq_some_of_mem {members : Members} (h : (members.map Prod.fst).Nodup) {key : String}
    {value : Value} (hmem : (key, value) ∈ members) : get? members key = some value := by
  induction members with
  | nil => exact absurd hmem List.not_mem_nil
  | cons member members ih =>
      obtain ⟨k, v⟩ := member
      rw [List.map_cons, List.nodup_cons] at h
      rw [get?_cons]
      rcases List.mem_cons.mp hmem with heq | htail
      · obtain ⟨rfl, rfl⟩ := Prod.mk.inj heq
        exact if_pos rfl
      · have hne : key ≠ k := by
          rintro rfl
          exact h.1 (List.mem_map.mpr ⟨(key, value), htail, rfl⟩)
        rw [if_neg hne, ih h.2 htail]

/-- A key has no value if it is none of the keys. -/
theorem get?_eq_none_iff {members : Members} {key : String} :
    get? members key = none ↔ key ∉ members.map Prod.fst := by
  induction members with
  | nil => simp [get?]
  | cons member members ih =>
      obtain ⟨k, v⟩ := member
      rw [get?_cons, List.map_cons, List.mem_cons, not_or]
      by_cases h : key = k
      · simp [h]
      · simp [h, ih]

/-- A key that is there keeps its place. -/
theorem keys_insert_of_mem {members : Members} {key : String} (h : key ∈ members.map Prod.fst)
    (value : Value) : (insert members key value).map Prod.fst = members.map Prod.fst := by
  induction members with
  | nil => exact absurd h List.not_mem_nil
  | cons member members ih =>
      obtain ⟨k, v⟩ := member
      rw [insert]
      split
      · rfl
      · next hne =>
          rw [List.map_cons, List.mem_cons] at h
          rw [List.map_cons, List.map_cons, ih (h.resolve_left (Ne.symm hne))]

/-- **Keys** occur once, however often they were given a value. -/
theorem nodup_ofList (entries : List (String × Value)) :
    ((ofList entries).map Prod.fst).Nodup := by
  induction entries using List.reverseRecOn with
  | nil => exact List.nodup_nil
  | append_singleton entries entry ih =>
      rw [ofList_concat]
      by_cases h : entry.1 ∈ (ofList entries).map Prod.fst
      · rwa [keys_insert_of_mem h]
      · rw [insert_eq_append h, List.map_append, List.map_singleton, ← List.concat_eq_append]
        exact ih.concat h

/-- The members are the old ones and the one that came in. -/
theorem mem_of_mem_insert {members : Members} {key : String} {value : Value}
    {member : String × Value} (h : member ∈ insert members key value) :
    member = (key, value) ∨ member ∈ members := by
  induction members with
  | nil => exact .inl (List.mem_singleton.mp h)
  | cons first members ih =>
      obtain ⟨k, v⟩ := first
      rw [insert] at h
      split at h
      · next hk =>
          rcases List.mem_cons.mp h with heq | htail
          · exact .inl (hk ▸ heq)
          · exact .inr (List.mem_cons_of_mem _ htail)
      · rcases List.mem_cons.mp h with rfl | htail
        · exact .inr List.mem_cons_self
        · exact (ih htail).imp_right (List.mem_cons_of_mem _)

/-- An object has no members but those that it was given. -/
theorem mem_of_mem_ofList {entries : List (String × Value)} {member : String × Value}
    (h : member ∈ ofList entries) : member ∈ entries := by
  induction entries using List.reverseRecOn with
  | nil => exact h
  | append_singleton entries entry ih =>
      rw [ofList_concat] at h
      rw [List.mem_append, List.mem_singleton]
      exact (mem_of_mem_insert h).symm.imp_left ih

/-- **The last value** that was given to a key counts. -/
theorem get?_ofList (entries : List (String × Value)) (key : String) :
    get? (ofList entries) key = entries.reverse.lookup key := by
  induction entries using List.reverseRecOn with
  | nil => rfl
  | append_singleton entries entry ih =>
      rw [ofList_concat, get?_insert, Function.update_apply, ih, List.reverse_concat,
        List.lookup_cons]
      by_cases h : key = entry.1
      · rw [if_pos h, beq_iff_eq.mpr h]
      · rw [if_neg h, beq_eq_false_iff_ne.mpr h]

end Members

end Switchboard.Json
