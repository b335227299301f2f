import ApiAtlas.Document.Loading
import ApiAtlas.Document.Operation
import ApiAtlas.Proofs.Except
import ApiAtlas.Proofs.Json.Same

/-! # Distinct keys in documents

A loaded document has distinct keys in every object, and so has every part of it that is looked at.
-/

namespace ApiAtlas

namespace Json

theorem Keyed.get? {value found : Json} {key : String} (keyed : value.Keyed) (h : value.get? key = some found) :
    found.Keyed := by
  cases value with
  | object fields => exact keyed.get h
  | _ => cases h

/-- What is listed in a table that may be absent stands in an object. -/
theorem exists_fields_of_mem {found : Option Json} {entry : String × Json}
    (member : entry ∈ (found.bind fields?).getD []) : ∃ fields, found = some (.object fields) ∧ entry ∈ fields := by
  cases found with
  | none => cases member
  | some value =>
      cases value with
      | object fields => exact ⟨fields, rfl, member⟩
      | _ => cases member

/-- What is listed in a list that may be absent stands in an array. -/
theorem exists_items_of_mem {found : Option Json} {item : Json} (member : item ∈ (found.bind items?).getD []) :
    ∃ items, found = some (.array items) ∧ item ∈ items := by
  cases found with
  | none => cases member
  | some value =>
      cases value with
      | array items => exact ⟨items, rfl, member⟩
      | _ => cases member

namespace Parser

variable {text after : List Char} {found : Json}

theorem keyed_keyword {word : List Char} (keyed : found.Keyed) {result : Json}
    (h : keyword word found text = some (result, after)) : result.Keyed := by
  rw [keyword] at h
  split at h
  · cases h
    exact keyed
  · cases h

/-- Keys that are written twice in an object are one key of its table. -/
theorem keyed_ofEntries {entries : List (String × Json)} (keyed : ∀ entry ∈ entries, entry.2.Keyed) :
    (Json.object (Table.ofEntries entries)).Keyed := by
  refine .object (Table.nodup_keys_foldl_put .nil) fun entry member => ?_
  rcases Table.mem_of_mem_foldl_put member with member | member
  · cases member
  · exact keyed entry member

/-- With this much fuel only values with distinct keys are read. -/
structure ReadsKeyed (fuel : Nat) : Prop where
  value {room : Nat} {text after : List Char} {found : Json} :
    value fuel room text = some (found, after) → found.Keyed
  items {room : Nat} {text after : List Char} {found : List Json} :
    items fuel room text = some (found, after) → ∀ item ∈ found, item.Keyed
  fields {room : Nat} {text after : List Char} {found : List (String × Json)} :
    fields fuel room text = some (found, after) → ∀ entry ∈ found, entry.2.Keyed

section Reading

variable {fuel room : Nat}

theorem keyed_value (inner : ReadsKeyed fuel) (h : value (fuel + 1) room text = some (found, after)) :
    found.Keyed := by
  rw [value.eq_def] at h
  dsimp only at h
  split at h
  · cases h
  · obtain ⟨⟨s, rest⟩, _, same⟩ := Option.map_eq_some_iff.mp h
    cases same
    exact .string s
  · split at h
    · cases h
    · split at h
      · cases h
        exact .array nofun
      · obtain ⟨⟨xs, rest⟩, inside, same⟩ := Option.map_eq_some_iff.mp h
        cases same
        exact .array (inner.items inside)
  · split at h
    · cases h
    · split at h
      · cases h
        exact .object .nil nofun
      · obtain ⟨⟨xs, rest⟩, inside, same⟩ := Option.map_eq_some_iff.mp h
        cases same
        exact keyed_ofEntries (inner.fields inside)
  · obtain ⟨⟨n, rest⟩, _, same⟩ := Option.map_eq_some_iff.mp h
    cases same
    exact .number n
  · exact keyed_keyword (.bool true) h
  · exact keyed_keyword (.bool false) h
  · exact keyed_keyword .null h
  · split at h
    · obtain ⟨⟨n, rest⟩, _, same⟩ := Option.map_eq_some_iff.mp h
      cases same
      exact .number n
    · cases h

theorem keyed_items {found : List Json} (inner : ReadsKeyed fuel)
    (h : items (fuel + 1) room text = some (found, after)) : ∀ item ∈ found, item.Keyed := by
  rw [items] at h
  split at h
  · cases h
  · rename_i read
    split at h
    · obtain ⟨⟨xs, rest⟩, inside, same⟩ := Option.map_eq_some_iff.mp h
      cases same
      exact List.forall_mem_cons.mpr ⟨inner.value read, inner.items inside⟩
    · cases h
      exact List.forall_mem_singleton.mpr (inner.value read)
    · cases h

theorem keyed_fields {found : List (String × Json)} (inner : ReadsKeyed fuel)
    (h : fields (fuel + 1) room text = some (found, after)) : ∀ entry ∈ found, entry.2.Keyed := by
  rw [fields] at h
  split at h
  · split at h
    · cases h
    · split at h
      · split at h
        · cases h
        · rename_i read
          split at h
          · obtain ⟨⟨xs, rest⟩, inside, same⟩ := Option.map_eq_some_iff.mp h
            cases same
            exact List.forall_mem_cons.mpr ⟨inner.value read, inner.fields inside⟩
          · cases h
            exact List.forall_mem_singleton.mpr (inner.value read)
          · cases h
      · cases h
  · cases h

theorem readsKeyed (fuel : Nat) : ReadsKeyed fuel := by
  induction fuel with
  | zero =>
      constructor
      case value =>
        intro room text after found h
        rw [Parser.value] at h
        cases h
      case items =>
        intro room text after found h
        rw [Parser.items] at h
        cases h
      case fields =>
        intro room text after found h
        rw [Parser.fields] at h
        cases h
  | succ fuel ih => exact ⟨keyed_value ih, keyed_items ih, keyed_fields ih⟩

end Reading

end Parser

theorem keyed_of_parse {text : String} {found : Json} (h : parse? text = some found) : found.Keyed := by
  rw [parse?] at h
  split at h
  · rename_i read
    split at h
    · cases h
      exact (Parser.readsKeyed _).value read
    · cases h
  · cases h

end Json

namespace Document

variable {doc : Document}

/-- A loaded document has distinct keys everywhere. -/
theorem keyed_of_load {tree : FileTree} {root path : String} (h : load tree root path = .ok doc) :
    doc.root.Keyed := by
  rw [load, bind_eq_ok_iff] at h
  obtain ⟨text, _, h⟩ := h
  split at h
  · cases h
  · rename_i value parsed
    have keyed := Json.keyed_of_parse parsed
    cases value with
    | object fields =>
        cases h
        exact keyed
    | _ => cases h

theorem keyed_of_loadEach {tree : FileTree} {root : String} {found : List (Except LoadError Document)}
    (loads : loadEach tree root = .ok found) (member : .ok doc ∈ found) : doc.root.Keyed := by
  rw [loadEach] at loads
  cases listed : entries tree root with
  | error error =>
      rw [listed] at loads
      cases loads
  | ok all =>
      rw [listed] at loads
      cases loads
      obtain ⟨entry, _, loaded⟩ := List.mem_map.mp member
      cases entry with
      | error error => cases loaded
      | ok path => exact keyed_of_load loaded

theorem keyed_follow {value found : Json} {names : List String} (keyed : value.Keyed)
    (h : Pointer.follow value names = some found) : found.Keyed := by
  induction names generalizing value with
  | nil =>
      cases h
      exact keyed
  | cons name names ih =>
      obtain ⟨part, step, rest⟩ := Option.bind_eq_some_iff.mp h
      refine ih ?_ rest
      cases value with
      | object fields => exact keyed.get step
      | array items =>
          obtain ⟨position, _, there⟩ := Option.bind_eq_some_iff.mp step
          exact keyed.item (List.mem_of_getElem? there)
      | _ => cases step

theorem keyed_dereference? {value found : Json} (root : doc.root.Keyed) (keyed : value.Keyed)
    (h : Operation.dereference? doc value = some found) : found.Keyed := by
  rw [Operation.dereference?] at h
  split at h
  · obtain ⟨pointer, _, there⟩ := Option.bind_eq_some_iff.mp h
    obtain ⟨names, _, followed⟩ := Option.bind_eq_some_iff.mp there
    exact keyed_follow root followed
  · cases h
    exact keyed

/-- The components stand in one object. -/
theorem exists_schemas_of_get? {name : String} {schema : Json} (found : Table.get? name doc.schemas = some schema) :
    ∃ parts fields, doc.root.get? "components" = some parts ∧ parts.get? "schemas" = some (.object fields) ∧
      Table.get? name fields = some schema := by
  obtain ⟨fields, there, _⟩ := Json.exists_fields_of_mem (Table.mem_of_get? found)
  obtain ⟨parts, components, inside⟩ := Option.bind_eq_some_iff.mp there
  rw [schemas, schemas?, there] at found
  exact ⟨parts, fields, components, inside, found⟩

theorem keyed_schemas (keyed : doc.root.Keyed) {name : String} {schema : Json}
    (h : Table.get? name doc.schemas = some schema) : schema.Keyed := by
  obtain ⟨parts, fields, components, inside, found⟩ := exists_schemas_of_get? h
  exact ((keyed.get? components).get? inside).get found

/-- An operation stands under the key of its method in the item of its path. -/
theorem exists_paths_of_mem_operations {op : Operation} (member : op ∈ doc.operations) :
    ∃ items, doc.root.get? "paths" = some (.object items) ∧ (op.path, op.item) ∈ items ∧
      op.item.get? op.key.text = some op.value := by
  obtain ⟨⟨path, item⟩, listed, member⟩ := List.mem_flatMap.mp member
  obtain ⟨key, _, found⟩ := List.mem_filterMap.mp member
  obtain ⟨value, there, rfl⟩ := Option.map_eq_some_iff.mp found
  obtain ⟨items, written, listed⟩ := Json.exists_fields_of_mem listed
  exact ⟨items, written, listed, there⟩

theorem keyed_operation (keyed : doc.root.Keyed) {op : Operation} (member : op ∈ doc.operations) :
    op.value.Keyed := by
  obtain ⟨items, written, listed, there⟩ := exists_paths_of_mem_operations member
  exact ((keyed.get? written).field listed).get? there

end Document

end ApiAtlas
