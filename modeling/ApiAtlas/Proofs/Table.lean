import ApiAtlas.Table

/-! # Entries of tables

Reading a table after writing to it. A key is present exactly when some entry has it, and writing
keeps the keys of a table distinct.
-/

namespace ApiAtlas

theorem eraseDups_concat {α : Type} [BEq α] [LawfulBEq α] (list : List α) (item : α) :
    (list ++ [item]).eraseDups = if item ∈ list then list.eraseDups else list.eraseDups ++ [item] := by
  rw [List.eraseDups_append]
  by_cases member : item ∈ list
  · simp [List.removeAll, member]
  · simp [List.removeAll, member, List.eraseDups_cons]

namespace Table

variable {α : Type} {key other : String} {value found : α} {table others : Table α}

@[simp] theorem get?_nil : get? key ([] : Table α) = none := rfl

theorem get?_cons {entry : String × α} :
    get? key (entry :: table) = if entry.1 = key then some entry.2 else get? key table := rfl

@[simp] theorem get?_cons_self : get? key ((key, value) :: table) = some value := if_pos rfl

theorem get?_cons_ne (different : other ≠ key) :
    get? key ((other, value) :: table) = get? key table := if_neg different

theorem has_iff : has key table ↔ ∃ value, get? key table = some value := by
  rw [has, Option.isSome_iff_exists]

theorem has_of_get? (h : get? key table = some value) : has key table := has_iff.mpr ⟨value, h⟩

theorem not_has_iff : has key table = false ↔ get? key table = none := by
  rw [has, Option.isSome_eq_false_iff, Option.isNone_iff_eq_none]

theorem mem_of_get? (h : get? key table = some value) : (key, value) ∈ table := by
  induction table with
  | nil => cases h
  | cons entry table ih =>
      rw [get?_cons] at h
      split at h
      · rename_i same
        cases h
        subst same
        exact List.mem_cons_self
      · exact List.mem_cons_of_mem _ (ih h)

theorem mem_keys : key ∈ keys table ↔ ∃ value, (key, value) ∈ table := by
  simp only [keys, List.mem_map, Prod.exists, exists_and_right, exists_eq_right]

theorem mem_keys_iff_has : key ∈ keys table ↔ has key table := by
  induction table with
  | nil => exact ⟨fun h => absurd h List.not_mem_nil, fun h => absurd h Bool.false_ne_true⟩
  | cons entry table ih =>
      rw [keys, List.map_cons, List.mem_cons, ← keys, ih, has_iff, has_iff, get?_cons]
      split
      · rename_i same
        exact ⟨fun _ => ⟨_, rfl⟩, fun _ => .inl same.symm⟩
      · rename_i different
        exact ⟨fun h => h.resolve_left (Ne.symm different), .inr⟩

theorem has_congr {β : Type} {others : Table β} (h : keys table = keys others) (key : String) :
    has key table = has key others := by
  rw [Bool.eq_iff_iff, ← mem_keys_iff_has, ← mem_keys_iff_has, h]

theorem get?_of_mem (distinct : (keys table).Nodup) (h : (key, value) ∈ table) :
    get? key table = some value := by
  induction table with
  | nil => cases h
  | cons entry table ih =>
      obtain ⟨fresh, distinct⟩ := List.nodup_cons.mp distinct
      rcases List.mem_cons.mp h with rfl | member
      · exact get?_cons_self
      · have listed : key ∈ keys table := mem_keys.mpr ⟨value, member⟩
        have different : entry.1 ≠ key := by
          rintro rfl
          exact fresh listed
        rw [get?_cons, if_neg different, ih distinct member]

/-- The order of distinct keys is not seen. -/
theorem get?_perm (distinct : (keys table).Nodup) (reordered : others.Perm table) :
    get? key others = get? key table := by
  have distinct' : (keys others).Nodup := (reordered.map Prod.fst).nodup_iff.mpr distinct
  cases there : get? key table with
  | some value => exact get?_of_mem distinct' (reordered.mem_iff.mpr (mem_of_get? there))
  | none =>
      cases found : get? key others with
      | none => rfl
      | some value =>
          have present := get?_of_mem distinct (reordered.mem_iff.mp (mem_of_get? found))
          rw [there] at present
          cases present

@[simp] theorem get?_put_self : get? key (put key value table) = some value := by
  induction table with
  | nil => exact get?_cons_self
  | cons entry table ih =>
      rw [put]
      split
      · exact if_pos ‹_›
      · rw [get?_cons, if_neg ‹_›, ih]

theorem get?_put_ne (different : other ≠ key) :
    get? other (put key value table) = get? other table := by
  induction table with
  | nil => exact get?_cons_ne different.symm
  | cons entry table ih =>
      rw [put]
      split
      · rename_i same
        have elsewhere : entry.1 ≠ other := fun h => different (h.symm.trans same)
        rw [get?_cons, get?_cons, if_neg elsewhere, if_neg elsewhere]
      · rw [get?_cons, get?_cons, ih]

theorem get?_put : get? other (put key value table) =
    if other = key then some value else get? other table := by
  split
  · rename_i same
    subst same
    exact get?_put_self
  · exact get?_put_ne ‹_›

@[simp] theorem has_put : has other (put key value table) ↔ other = key ∨ has other table := by
  rw [has_iff, has_iff, get?_put]
  split
  · exact ⟨fun _ => .inl ‹_›, fun _ => ⟨_, rfl⟩⟩
  · exact ⟨.inr, fun h => h.resolve_left ‹_›⟩

theorem keys_put : keys (put key value table) =
    if has key table then keys table else keys table ++ [key] := by
  induction table with
  | nil => rfl
  | cons entry table ih =>
      rw [put]
      split
      · rename_i same
        have here : has key (entry :: table) := has_of_get? (if_pos same)
        rw [if_pos here]
        rfl
      · rename_i different
        have same : has key (entry :: table) = has key table := congrArg Option.isSome (if_neg different)
        rw [same, keys, List.map_cons, ← keys, ih]
        split <;> rfl

theorem put_of_not_has (fresh : has key table = false) : put key value table = table ++ [(key, value)] := by
  induction table with
  | nil => rfl
  | cons entry table ih =>
      have different : entry.1 ≠ key := by
        intro same
        have here : has key (entry :: table) := has_of_get? (if_pos same)
        rw [fresh] at here
        cases here
      rw [not_has_iff, get?_cons, if_neg different, ← not_has_iff] at fresh
      rw [put, if_neg different, ih fresh, List.cons_append]

theorem foldl_put_of_not_has {entries : List (String × α)} (distinct : (keys entries).Nodup)
    (fresh : ∀ key ∈ keys entries, has key table = false) :
    entries.foldl (fun acc p => put p.1 p.2 acc) table = table ++ entries := by
  induction entries generalizing table with
  | nil => exact (List.append_nil _).symm
  | cons entry entries ih =>
      obtain ⟨new, distinct⟩ := List.nodup_cons.mp distinct
      have here := fresh entry.1 List.mem_cons_self
      rw [List.foldl_cons, ih distinct, put_of_not_has here, List.append_assoc, List.singleton_append]
      intro key member
      rw [Bool.eq_false_iff, ne_eq, has_put]
      rintro (rfl | there)
      · exact new member
      · exact Bool.false_ne_true ((fresh key (List.mem_cons_of_mem _ member)).symm.trans there)

theorem get?_append (absent : other ∉ keys others) : get? other (table ++ others) = get? other table := by
  induction table with
  | nil =>
      cases found : get? other others with
      | none => exact found
      | some value => exact absurd (mem_keys.mpr ⟨value, mem_of_get? found⟩) absent
  | cons entry table ih => rw [List.cons_append, get?_cons, get?_cons, ih]

theorem get?_append_or : get? key (table ++ others) = (get? key table).or (get? key others) := by
  induction table with
  | nil => simp
  | cons entry table ih =>
      rw [List.cons_append, get?_cons, get?_cons, ih]
      split <;> simp

theorem get?_filter (keep : String → Bool) :
    get? key (table.filter fun entry => keep entry.1) = if keep key then get? key table else none := by
  induction table with
  | nil => simp
  | cons entry table ih =>
      rw [List.filter_cons, get?_cons]
      by_cases same : entry.1 = key
      · subst same
        cases kept : keep entry.1 <;> simp [kept, ih, get?_cons]
      · cases keep entry.1 <;> simp [ih, get?_cons, same]

/-- Of entries that are written one after another, the last one with a key counts. -/
theorem get?_foldl_put {entries : List (String × α)} :
    get? key (entries.foldl (fun acc p => put p.1 p.2 acc) table) = (get? key entries.reverse).or (get? key table) := by
  induction entries generalizing table with
  | nil => simp
  | cons entry entries ih =>
      rw [List.foldl_cons, ih, get?_put, List.reverse_cons, get?_append_or, get?_cons]
      by_cases same : entry.1 = key
      · simp [same]
      · simp [same, Ne.symm same]

/-- The keys that are left stand in the order in which they first occur. -/
theorem keys_foldl_put {entries : List (String × α)} {names : List String} (same : keys table = names.eraseDups) :
    keys (entries.foldl (fun acc p => put p.1 p.2 acc) table) = (names ++ keys entries).eraseDups := by
  induction entries generalizing table names with
  | nil => simpa [keys] using same
  | cons entry entries ih =>
      have step : keys (put entry.1 entry.2 table) = (names ++ [entry.1]).eraseDups := by
        rw [keys_put, eraseDups_concat, same]
        simp only [← mem_keys_iff_has, same, List.mem_eraseDups]
      rw [List.foldl_cons, ih step, List.append_assoc]
      rfl

theorem ofEntries_of_nodup {entries : List (String × α)} (distinct : (keys entries).Nodup) :
    ofEntries entries = entries := foldl_put_of_not_has distinct fun _ _ => rfl

theorem nodup_keys_put (distinct : (keys table).Nodup) : (keys (put key value table)).Nodup := by
  rw [keys_put]
  split
  · exact distinct
  · rename_i absent
    rw [List.nodup_append]
    refine ⟨distinct, List.nodup_cons.mpr ⟨List.not_mem_nil, .nil⟩, ?_⟩
    rintro first member _ last rfl
    obtain rfl := List.mem_singleton.mp last
    exact absent (mem_keys_iff_has.mp member)

theorem mem_of_mem_put {entry : String × α} (member : entry ∈ put key value table) :
    entry ∈ table ∨ entry = (key, value) := by
  induction table with
  | nil => exact .inr (List.mem_singleton.mp member)
  | cons first table ih =>
      rw [put] at member
      split at member
      · rename_i same
        rcases List.mem_cons.mp member with rfl | member
        · exact .inr (congrArg (·, value) same)
        · exact .inl (List.mem_cons_of_mem _ member)
      · rcases List.mem_cons.mp member with rfl | member
        · exact .inl List.mem_cons_self
        · exact (ih member).imp_left (List.mem_cons_of_mem _)

theorem mem_of_mem_foldl_put {entries : List (String × α)} {entry : String × α}
    (member : entry ∈ entries.foldl (fun acc p => put p.1 p.2 acc) table) :
    entry ∈ table ∨ entry ∈ entries := by
  induction entries generalizing table with
  | nil => exact .inl member
  | cons first entries ih =>
      rcases ih member with member | member
      · rcases mem_of_mem_put member with member | rfl
        · exact .inl member
        · exact .inr List.mem_cons_self
      · exact .inr (List.mem_cons_of_mem _ member)

theorem nodup_keys_foldl_put {entries : List (String × α)} (distinct : (keys table).Nodup) :
    (keys (entries.foldl (fun acc p => put p.1 p.2 acc) table)).Nodup := by
  induction entries generalizing table with
  | nil => exact distinct
  | cons first entries ih => exact ih (nodup_keys_put distinct)

theorem putNew_eq : putNew key value table = if has key table then table else put key value table := by
  rw [putNew]
  split
  · rfl
  · rename_i absent
    exact (put_of_not_has (Bool.eq_false_iff.mpr absent)).symm

/-- An entry counts unless its key is already there. -/
theorem get?_foldl_putNew {entries : List (String × α)} :
    get? key (entries.foldl (fun acc p => putNew p.1 p.2 acc) table) = (get? key table).or (get? key entries) := by
  induction entries generalizing table with
  | nil => simp
  | cons entry entries ih =>
      have step : get? key (putNew entry.1 entry.2 table) = (get? key table).or (get? key [entry]) := by
        rw [putNew]
        split
        · rename_i present
          obtain ⟨value, found⟩ := has_iff.mp present
          by_cases same : entry.1 = key
          · simp [← same, found]
          · simp [get?_cons, same]
        · exact get?_append_or
      rw [List.foldl_cons, ih, step, Option.or_assoc, ← get?_append_or, List.singleton_append]

theorem mem_of_mem_foldl_putNew {entries : List (String × α)} {entry : String × α}
    (member : entry ∈ entries.foldl (fun acc p => putNew p.1 p.2 acc) table) :
    entry ∈ table ∨ entry ∈ entries := by
  induction entries generalizing table with
  | nil => exact .inl member
  | cons first entries ih =>
      rw [List.foldl_cons, putNew_eq] at member
      rcases ih member with member | member
      · split at member
        · exact .inl member
        · rcases mem_of_mem_put member with member | rfl
          · exact .inl member
          · exact .inr List.mem_cons_self
      · exact .inr (List.mem_cons_of_mem _ member)

theorem nodup_keys_foldl_putNew {entries : List (String × α)} (distinct : (keys table).Nodup) :
    (keys (entries.foldl (fun acc p => putNew p.1 p.2 acc) table)).Nodup := by
  induction entries generalizing table with
  | nil => exact distinct
  | cons first entries ih =>
      rw [List.foldl_cons, putNew_eq]
      refine ih ?_
      split
      · exact distinct
      · exact nodup_keys_put distinct

end Table

end ApiAtlas
