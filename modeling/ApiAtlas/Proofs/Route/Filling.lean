import ApiAtlas.Proofs.Route.Dispatch
import ApiAtlas.Proofs.Route.Expression

/-! # Filling templates

A path comes from a template by putting values in the place of its placeholders. The template matches the paths
that come from its segments in this way, a slash before each, and captures the values again. It matches what comes
from the template as written only if that has no slashes besides these.
-/

namespace ApiAtlas

namespace Route

/-- A segment is a placeholder if it begins and ends with a brace. -/
def IsPlaceholder (segment : String) : Prop :=
  segment.toList.head? = some '\x7b' ∧ segment.toList.getLast? = some '\x7d'

instance (segment : String) : Decidable (IsPlaceholder segment) := inferInstanceAs (Decidable (_ ∧ _))

/-- What may stand in a path for a segment: any piece for a placeholder, and otherwise the segment itself. -/
inductive Fills : String → String → Prop where
  | itself {segment : String} (plain : ¬ IsPlaceholder segment) : Fills segment segment
  | value {segment piece : String} (braced : IsPlaceholder segment) (proper : IsPiece piece) : Fills segment piece

/-- The segments of a template; what is empty between two slashes does not count. -/
def segmentsOf (path : String) : List String := (Text.split '/' path).filter (· != "")

/-- The values of the placeholders, each with the name in the braces. -/
def valuesOf (segments pieces : List String) : List (String × String) :=
  ((segments.zip pieces).filter fun entry => IsPlaceholder entry.1).map fun entry =>
    (Segment.unbraced entry.1, entry.2)

/-- Puts values in the place of placeholders, one after another. -/
def refill : (segments values : List String) → List String
  | [], _ => []
  | segment :: segments, values =>
    if IsPlaceholder segment then values.head?.getD segment :: refill segments values.tail
    else segment :: refill segments values

/-- A text without the braces around it, of which there may be several. -/
structure Stripped (segment name : String) : Prop where
  around : ∃ opening closing, segment.toList =
    List.replicate opening '\x7b' ++ name.toList ++ List.replicate closing '\x7d'
  first : name.toList.head? ≠ some '\x7b'
  last : name.toList.getLast? ≠ some '\x7d'

/-- A path that is a slash, or in which each slash is followed by a segment. -/
def Plain (path : String) : Prop :=
  path = "/" ∨ ∃ segments, (∀ segment ∈ segments, IsPiece segment) ∧ path = pathOf segments

section Segments

variable {segment piece : String} {segments pieces : List String}

theorem ofText_of_placeholder (braced : IsPlaceholder segment) :
    Segment.ofText segment = .parameter (Segment.unbraced segment) := by
  rw [Segment.ofText, if_pos]
  simpa [IsPlaceholder] using braced

theorem ofText_of_not_placeholder (plain : ¬ IsPlaceholder segment) : Segment.ofText segment = .literal segment := by
  rw [Segment.ofText, if_neg]
  simpa [IsPlaceholder] using plain

theorem takes_ofText_iff : (Segment.ofText segment).Takes piece ↔ Fills segment piece := by
  by_cases braced : IsPlaceholder segment
  · rw [ofText_of_placeholder braced]
    constructor
    · rintro (_ | proper)
      exact .value braced proper
    · rintro (plain | ⟨_, proper⟩)
      · exact absurd braced plain
      · exact .parameter proper
  · rw [ofText_of_not_placeholder braced]
    constructor
    · rintro ⟨⟩
      exact .itself braced
    · rintro (_ | ⟨there, _⟩)
      · exact .literal
      · exact absurd there braced

theorem forall₂_takes_iff :
    List.Forall₂ Segment.Takes (segments.map Segment.ofText) pieces ↔ List.Forall₂ Fills segments pieces := by
  rw [List.forall₂_map_left_iff]
  simp only [takes_ofText_iff]

theorem valuesOf_cons : valuesOf (segment :: segments) (piece :: pieces) =
    if IsPlaceholder segment then (Segment.unbraced segment, piece) :: valuesOf segments pieces
    else valuesOf segments pieces := by
  rw [valuesOf, List.zip_cons_cons, List.filter_cons]
  by_cases braced : IsPlaceholder segment <;> simp [braced, valuesOf]

theorem parametersOf_map_ofText (fills : List.Forall₂ Fills segments pieces) :
    parametersOf (segments.map Segment.ofText) pieces = valuesOf segments pieces := by
  induction fills with
  | nil => rfl
  | cons first _ ih =>
      rw [List.map_cons, valuesOf_cons]
      cases first with
      | itself plain => rw [ofText_of_not_placeholder plain, parametersOf, ih, if_neg plain]
      | value braced _ => rw [ofText_of_placeholder braced, parametersOf, ih, if_pos braced]

theorem refill_valuesOf (fills : List.Forall₂ Fills segments pieces) :
    refill segments ((valuesOf segments pieces).map (·.2)) = pieces := by
  induction fills with
  | nil => rfl
  | cons first _ ih =>
      rw [valuesOf_cons, refill]
      cases first with
      | itself plain => rw [if_neg plain, if_neg plain, ih]
      | value braced _ =>
          rw [if_pos braced, if_pos braced, List.map_cons, List.tail_cons, ih]
          rfl

theorem exists_replicate_append (c : Char) (text : List Char) :
    ∃ count, text = List.replicate count c ++ text.dropWhile (· == c) := by
  refine ⟨(text.takeWhile (· == c)).length, ?_⟩
  have same : text.takeWhile (· == c) = List.replicate (text.takeWhile (· == c)).length c := by
    rw [List.eq_replicate_iff]
    refine ⟨rfl, fun d member => ?_⟩
    exact eq_of_beq (List.all_eq_true.mp List.all_takeWhile d member)
  rw [← same, List.takeWhile_append_dropWhile]

theorem stripped_unbraced (segment : String) : Stripped segment (Segment.unbraced segment) := by
  obtain ⟨opening, start⟩ := exists_replicate_append '\x7b' segment.toList
  have first := Text.head?_dropWhile_ne '\x7b' segment.toList
  rw [Segment.unbraced]
  generalize segment.toList.dropWhile (· == '\x7b') = inner at start first ⊢
  obtain ⟨closing, finish⟩ := exists_replicate_append '\x7d' inner.reverse
  have last := Text.head?_dropWhile_ne '\x7d' inner.reverse
  generalize inner.reverse.dropWhile (· == '\x7d') = name at finish last ⊢
  have whole : inner = name.reverse ++ List.replicate closing '\x7d' := by
    rw [← List.reverse_reverse inner, finish, List.reverse_append, List.reverse_replicate]
  refine ⟨⟨opening, closing, ?_⟩, ?_, ?_⟩
  · rw [String.toList_ofList, start, whole, List.append_assoc]
  · rw [String.toList_ofList]
    intro brace
    rw [whole, List.head?_append, brace] at first
    exact first rfl
  · rwa [String.toList_ofList, List.getLast?_reverse]

end Segments

section Instances

variable {path request : String} {pieces : List String}

theorem isPiece_of_mem_segmentsOf {segment : String} (member : segment ∈ segmentsOf path) : IsPiece segment := by
  obtain ⟨written, some_⟩ := List.mem_filter.mp member
  exact ⟨bne_iff_ne.mp some_, Text.not_mem_of_mem_split written⟩

theorem ofPath_of_segments (named : segmentsOf path ≠ []) :
    Template.ofPath path = .segments ((segmentsOf path).map Segment.ofText) := by
  rw [Template.ofPath, if_neg]
  · rfl
  · rintro rfl
    exact named (by decide)

/-- Matching inverts filling. The template of a path with at least one segment matches exactly the paths in which
each segment is filled: a text by itself and a placeholder by any piece, a slash before each. What is captured are
then the pieces that fill the placeholders, in order and under the names in their braces, so that they give the
path again. All this is as the regular expression of the template says, whose groups are paired with the names. -/
theorem accepts_iff_filled (named : segmentsOf path ≠ []) (request : String) :
    ((Template.ofPath path).accepts request ↔
      ∃ pieces, List.Forall₂ Fills (segmentsOf path) pieces ∧ request = pathOf pieces) ∧
    (∀ pieces, List.Forall₂ Fills (segmentsOf path) pieces → request = pathOf pieces →
      (Template.ofPath path).capture? request = some (valuesOf (segmentsOf path) pieces) ∧
      refill (segmentsOf path) ((valuesOf (segmentsOf path) pieces).map (·.2)) = pieces) ∧
    (∀ segment, Stripped segment (Segment.unbraced segment)) ∧
    (Template.ofPath path).expression.search request = (Template.ofPath path).accepts request ∧
    (Template.ofPath path).grouped? request = (Template.ofPath path).capture? request := by
  have proper := Template.proper_ofPath path
  refine ⟨?_, ?_, stripped_unbraced, Template.search_expression proper request,
    Template.grouped?_eq_capture? proper request⟩
  · rw [ofPath_of_segments named] at proper ⊢
    simp only [accepts_segments_iff_takes proper, forall₂_takes_iff]
  · rintro pieces fills rfl
    rw [ofPath_of_segments named] at proper ⊢
    rw [capture?_pathOf proper (forall₂_takes_iff.mpr fills), parametersOf_map_ofText fills]
    exact ⟨rfl, refill_valuesOf fills⟩

/-- The marks of expressions are nothing special in a template, and a name may stand in more than one pair of
braces. -/
theorem accepts_iff_filled_report : segmentsOf "/reports/v1.0+/{year}-{part}/{{id}}" ≠ [] ∧
    (Template.ofPath "/reports/v1.0+/{year}-{part}/{{id}}").accepts "/reports/v1.0+/?/7" ∧
    (Template.ofPath "/reports/v1.0+/{year}-{part}/{{id}}").capture? "/reports/v1.0+/?/7" =
      some [("year\x7d-\x7bpart", "?"), ("id", "7")] := by
  have named : segmentsOf "/reports/v1.0+/{year}-{part}/{{id}}" ≠ [] := by decide +kernel
  have segments : segmentsOf "/reports/v1.0+/{year}-{part}/{{id}}" =
      ["reports", "v1.0+", "{year}-{part}", "{{id}}"] := by decide +kernel
  have fills : List.Forall₂ Fills (segmentsOf "/reports/v1.0+/{year}-{part}/{{id}}")
      ["reports", "v1.0+", "?", "7"] := by
    rw [segments]
    refine .cons (.itself (by decide)) (.cons (.itself (by decide)) (.cons (.value (by decide) ?_)
      (.cons (.value (by decide) ?_) .nil)))
    · exact ⟨by decide, by decide⟩
    · exact ⟨by decide, by decide⟩
  have written : "/reports/v1.0+/?/7" = pathOf ["reports", "v1.0+", "?", "7"] := by decide +kernel
  have values : valuesOf (segmentsOf "/reports/v1.0+/{year}-{part}/{{id}}") ["reports", "v1.0+", "?", "7"] =
      [("year\x7d-\x7bpart", "?"), ("id", "7")] := by decide +kernel
  have captured := ((accepts_iff_filled named "/reports/v1.0+/?/7").2.1 _ fills written).1
  exact ⟨named, (accepts_iff_filled named _).1.mpr ⟨_, fills, written⟩, captured.trans (congrArg some values)⟩

end Instances

section Written

variable {path piece : String} {pieces : List String}

theorem fills_empty_iff : Fills "" piece ↔ piece = "" := by
  have plain : ¬ IsPlaceholder "" := by decide
  constructor
  · rintro (_ | ⟨braced, _⟩)
    · rfl
    · exact absurd braced plain
  · rintro rfl
    exact .itself plain

theorem eq_empty_of_fills {segment : String} (fills : Fills segment "") : segment = "" := by
  cases fills with
  | itself => rfl
  | value _ proper => exact absurd rfl proper.nonempty

theorem whole_of_fills {segments : List String} (whole : ∀ segment ∈ segments, '/' ∉ segment.toList)
    (fills : List.Forall₂ Fills segments pieces) : ∀ piece ∈ pieces, '/' ∉ piece.toList := by
  induction fills with
  | nil => exact List.forall_mem_nil _
  | cons first _ ih =>
      rw [List.forall_mem_cons] at whole ⊢
      refine ⟨?_, ih whole.2⟩
      cases first with
      | itself => exact whole.1
      | value _ proper => exact proper.whole

theorem join_eq_pathOf_iff {others : List String} (some_ : pieces ≠ []) (whole : ∀ piece ∈ pieces, '/' ∉ piece.toList)
    (whole' : ∀ piece ∈ others, '/' ∉ piece.toList) : Text.join "/" pieces = pathOf others ↔ pieces = "" :: others := by
  constructor
  · intro same
    have split : Text.split '/' (Text.join "/" pieces) = pieces := Text.split_join some_ whole
    rw [same, split_pathOf whole'] at split
    exact split.symm
  · rintro rfl
    exact pathOf_eq_join.symm

theorem split_eq_iff {segments : List String} (whole : ∀ segment ∈ segments, '/' ∉ segment.toList) :
    Text.split '/' path = "" :: segments ↔ path = pathOf segments := by
  constructor
  · intro split
    have written : Text.join "/" (Text.split '/' path) = path := Text.join_split '/' path
    rw [pathOf_eq_join, ← split, written]
  · rintro rfl
    exact split_pathOf whole

theorem segmentsOf_pathOf {segments : List String} (proper : ∀ segment ∈ segments, IsPiece segment) :
    segmentsOf (pathOf segments) = segments := by
  have split : Text.split '/' (pathOf segments) = "" :: segments :=
    split_pathOf fun segment member => (proper segment member).whole
  rw [segmentsOf, split, List.filter_cons_of_neg (by simp), List.filter_eq_self]
  exact fun segment member => bne_iff_ne.mpr (proper segment member).nonempty

/-- A path of which no segment is dropped is plain. -/
theorem plain_of_length_segmentsOf {segments : List String} (split : Text.split '/' path = "" :: segments)
    (same : (segmentsOf path).length = segments.length) : Plain path := by
  have kept : segmentsOf path = segments.filter (· != "") := by
    rw [segmentsOf, split]
    rfl
  have all : ∀ segment ∈ segments, segment != "" := by
    rw [← List.length_filter_eq_length_iff, ← kept, same]
  have proper : ∀ segment ∈ segments, IsPiece segment := by
    intro segment member
    have within : segment ∈ Text.split '/' path := split ▸ List.mem_cons_of_mem _ member
    exact ⟨bne_iff_ne.mp (all segment member), Text.not_mem_of_mem_split within⟩
  exact .inr ⟨segments, proper, (split_eq_iff fun segment member => (proper segment member).whole).mp split⟩

theorem accepts_join_root (fills : List.Forall₂ Fills (Text.split '/' "/") pieces) :
    (Template.ofPath "/").accepts (Text.join "/" pieces) := by
  have split : Text.split '/' "/" = ["", ""] := by decide
  rw [split] at fills
  obtain ⟨_, _, first, rest, rfl⟩ := List.forall₂_cons_left_iff.mp fills
  obtain ⟨_, _, second, none, rfl⟩ := List.forall₂_cons_left_iff.mp rest
  cases none
  rw [fills_empty_iff.mp first, fills_empty_iff.mp second]
  decide

/-- The template of a path matches what comes from the path as written exactly if the path is plain. -/
theorem accepts_join_iff (fills : List.Forall₂ Fills (Text.split '/' path) pieces) :
    (Template.ofPath path).accepts (Text.join "/" pieces) ↔ Plain path := by
  by_cases root : path = "/"
  · subst root
    exact iff_of_true (accepts_join_root fills) (.inl rfl)
  · have proper := Template.proper_ofPath path
    have template : Template.ofPath path = .segments ((segmentsOf path).map Segment.ofText) := if_neg root
    rw [template] at proper ⊢
    rw [accepts_segments_iff_takes proper]
    constructor
    · rintro ⟨others, takes, same⟩
      have taken := forall₂_takes_iff.mp takes
      have apart := whole_of_fills (fun _ member => (isPiece_of_mem_segmentsOf member).whole) taken
      have whole := whole_of_fills (fun _ member => Text.not_mem_of_mem_split member) fills
      have some_ : pieces ≠ [] := by
        rintro rfl
        exact Text.split_ne_nil '/' path (List.forall₂_nil_right_iff.mp fills)
      -- There are as many segments as pieces, so that none was dropped.
      obtain rfl := (join_eq_pathOf_iff some_ whole apart).mp same
      obtain ⟨first, segments, fill, rest, split⟩ := List.forall₂_cons_right_iff.mp fills
      obtain rfl := eq_empty_of_fills fill
      exact plain_of_length_segmentsOf split (taken.length_eq.trans rest.length_eq.symm)
    · rintro (rfl | ⟨segments, proper', rfl⟩)
      · exact absurd rfl root
      · rw [split_pathOf fun segment member => (proper' segment member).whole] at fills
        obtain ⟨_, others, first, rest, rfl⟩ := List.forall₂_cons_left_iff.mp fills
        obtain rfl := fills_empty_iff.mp first
        rw [segmentsOf_pathOf proper']
        exact ⟨others, forall₂_takes_iff.mpr rest, pathOf_eq_join.symm⟩

/-- A route of a table is reached by what comes from its path as written, with any pieces in the place of its
placeholders, exactly if the path is plain: a slash, or nonempty segments with a slash before each. -/
theorem DispatchTable.accepts_written_iff {strict : Bool} {entries : List Entry} {table : DispatchTable}
    (built : ofEntries strict entries = .ok table) : ∀ route ∈ table.routes, ∀ pieces,
      List.Forall₂ Fills (Text.split '/' route.entry.path) pieces →
        (route.template.accepts (Text.join "/" pieces) ↔ Plain route.entry.path) := by
  intro route member pieces fills
  rw [(holds_ofEntries built).template route member]
  exact accepts_join_iff fills

/-- The users, the users under a path that ends in a slash, and a single user. -/
def userEntries : List Entry :=
  [{ (default : Entry) with path := "/users/{id}", method := "GET", name := "user" },
   { (default : Entry) with path := "/users/", method := "GET", name := "users" }]

theorem exists_table_users : ∃ table, DispatchTable.ofEntries false userEntries = .ok table ∧
    (∃ route ∈ table.routes, route.entry.path = "/users/{id}") ∧ ∃ route ∈ table.routes, route.entry.path = "/users/" :=
  ⟨_, rfl, ⟨_, List.mem_cons_self, rfl⟩, ⟨_, List.mem_cons_of_mem _ List.mem_cons_self, rfl⟩⟩

theorem fills_user : List.Forall₂ Fills (Text.split '/' "/users/{id}") ["", "users", "42"] :=
  .cons (.itself (by decide)) (.cons (.itself (by decide)) (.cons (.value (by decide) ⟨by decide, by decide⟩) .nil))

theorem fills_users : List.Forall₂ Fills (Text.split '/' "/users/") ["", "users", ""] :=
  .cons (.itself (by decide)) (.cons (.itself (by decide)) (.cons (.itself (by decide)) .nil))

theorem plain_user : Plain "/users/{id}" :=
  have pieces : IsPiece "users" ∧ IsPiece "{id}" := ⟨⟨by decide, by decide⟩, ⟨by decide, by decide⟩⟩
  .inr ⟨["users", "{id}"], List.forall_mem_cons.mpr ⟨pieces.1, List.forall_mem_singleton.mpr pieces.2⟩, by decide⟩

theorem not_plain_users : ¬ Plain "/users/" := by
  rintro (root | ⟨segments, pieces, same⟩)
  · exact absurd root (by decide)
  · have split : "" :: segments = Text.split '/' "/users/" :=
      ((split_eq_iff fun segment member => (pieces segment member).whole).mpr same).symm
    have last : "" ∈ segments := by
      rw [(List.cons.inj split).2]
      decide
    exact (pieces "" last).nonempty rfl

theorem DispatchTable.accepts_written_iff_users : ∃ table, ofEntries false userEntries = .ok table ∧
    (∃ route ∈ table.routes, route.entry.path = "/users/{id}" ∧ route.template.accepts "/users/42") ∧
    ∃ route ∈ table.routes, route.entry.path = "/users/" ∧ ¬ route.template.accepts "/users/" := by
  obtain ⟨table, built, ⟨user, member, same⟩, ⟨users, member', same'⟩⟩ := exists_table_users
  refine ⟨table, built, ⟨user, member, same, ?_⟩, users, member', same', ?_⟩
  · exact (accepts_written_iff built user member ["", "users", "42"] (same ▸ fills_user)).mpr (same ▸ plain_user)
  · have written := accepts_written_iff built users member' ["", "users", ""] (same' ▸ fills_users)
    rw [same'] at written
    exact fun accepts => not_plain_users (written.mp accepts)

/-- A path that ends in a slash is not matched by the template that was read from it. -/
theorem DispatchTable.refuses_written : ¬ ∀ strict entries table, ofEntries strict entries = .ok table →
    ∀ route ∈ table.routes, ∀ pieces, List.Forall₂ Fills (Text.split '/' route.entry.path) pieces →
      route.template.accepts (Text.join "/" pieces) := by
  intro served
  obtain ⟨table, built, _, users, member, same⟩ := exists_table_users
  have template := (holds_ofEntries built).template users member
  have accepts := served false userEntries table built users member ["", "users", ""] (same ▸ fills_users)
  rw [template, same] at accepts
  revert accepts
  decide +kernel

end Written

end Route

end ApiAtlas
