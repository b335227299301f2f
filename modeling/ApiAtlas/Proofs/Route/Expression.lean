import ApiAtlas.Proofs.Pattern.Matching
import ApiAtlas.Proofs.Route.Template

/-! # Templates as regular expressions

The expression of a template goes from the start of a path to its end: a slash before each segment, then the
characters of a text, or a group of characters other than slashes for a parameter. To match a path piece by
piece comes to the same as to match this expression, and the parameters are what its groups have read.
-/

namespace ApiAtlas

namespace Pattern

/-- What a group has read. -/
def groupText? (text : Array Char) (p : Progress) (number : Nat) : Option String := do
  let span ← p.span? number
  let last ← span.last
  return String.ofList ((text.toList.take last).drop span.first)

/-- How far the first match in a text has come. -/
def firstMatch? (pattern : Pattern) (text : Array Char) : Option Progress :=
  (List.range (text.size + 1)).findSome? fun first => (ends text pattern { position := first }).head?

/-- What the groups of the first match have read, in the order of their numbers. -/
def groups? (pattern : Pattern) (text : String) : Option (List (Option String)) :=
  (pattern.firstMatch? text.toList.toArray).map fun p =>
    (List.range' 1 pattern.groupCount).map (groupText? text.toList.toArray p)

variable {text : Array Char} {p : Progress} {pattern : Pattern} {run : List Char} {number : Nat}

theorem isSome_groups? (pattern : Pattern) (text : String) : (pattern.groups? text).isSome = pattern.search text := by
  rw [groups?, Option.isSome_map, firstMatch?, search, Bool.eq_iff_iff, List.findSome?_isSome_iff, List.any_eq_true]
  refine exists_congr fun first => and_congr_right fun _ => ?_
  cases ends text.toList.toArray pattern { position := first } <;> simp

/-- A pattern that begins at the start of a text matches there or nowhere. -/
theorem firstMatch?_start : firstMatch? (.seq .start pattern) text = (ends text pattern { position := 0 }).head? := by
  have elsewhere : ∀ first, first ≠ 0 → ends text (.seq .start pattern) { position := first } = [] := by
    intro first later
    rw [ends, ends, if_neg later]
    rfl
  have here : ends text (.seq .start pattern) { position := 0 } = ends text pattern { position := 0 } := by
    rw [ends, ends, if_pos rfl]
    rfl
  rw [firstMatch?, List.range_succ_eq_map, List.findSome?_cons, here, List.findSome?_map]
  have rest : (List.range text.size).findSome?
      ((fun first => (ends text (.seq .start pattern) { position := first }).head?) ∘ Nat.succ) = none := by
    rw [List.findSome?_eq_none_iff]
    intro first _
    rw [Function.comp_apply, elsewhere _ first.succ_ne_zero, List.head?_nil]
  cases (ends text pattern { position := 0 }).head? with
  | none => exact rest
  | some p => rfl

theorem reads_whole_iff : Reads text { position := 0 } run ∧ run.length = text.size ↔ text.toList = run := by
  rw [Reads, List.drop_zero]
  constructor
  · rintro ⟨reads, length⟩
    exact (reads.eq_of_length length).symm
  · rintro rfl
    exact ⟨List.prefix_rfl, rfl⟩

theorem groupText?_capture (reads : Reads text p run) :
    groupText? text (p.capture number run.length) number = some (String.ofList run) := by
  have span : (p.capture number run.length).span? number = some ⟨number, p.position, some (p.position + run.length)⟩ :=
    Progress.span?_capture.trans (if_pos rfl)
  obtain ⟨tail, same⟩ := reads
  rw [groupText?, span]
  simp [List.drop_take, ← same]

end Pattern

namespace Route

open Pattern

def Segment.names : Segment → List String
  | .literal _ => []
  | .parameter name => [name]

/-- The names of the parameters, in the order of the segments. -/
def Template.names : Template → List String
  | .root => []
  | .segments list => list.flatMap Segment.names

/-- The parameters as the groups of the expression give them, each under the name at its place. -/
def Template.grouped? (template : Template) (path : String) : Option (List (String × String)) :=
  (template.expression.groups? path).map fun texts =>
    (template.names.zip texts).filterMap fun entry => entry.2.map (entry.1, ·)

/-- A segment takes a piece of a path: a text takes itself, and a parameter whatever is not empty. -/
inductive Segment.Takes : Segment → String → Prop where
  | literal {text : String} : Takes (.literal text) text
  | parameter {name piece : String} (proper : IsPiece piece) : Takes (.parameter name) piece

/-- The pieces that parameters take, with the names of these. -/
def parametersOf : List Segment → List String → List (String × String)
  | .literal _ :: list, _ :: pieces => parametersOf list pieces
  | .parameter name :: list, piece :: pieces => (name, piece) :: parametersOf list pieces
  | _, _ => []

/-- How far a match has come after segments that take these pieces. -/
def after : (number : Nat) → List Segment → List String → Progress → Progress
  | number, .literal _ :: list, piece :: pieces, p => after number list pieces (p.advance ('/' :: piece.toList).length)
  | number, .parameter _ :: list, piece :: pieces, p =>
    after (number + 1) list pieces ((p.advance 1).capture number piece.toList.length)
  | _, _, _, p => p

/-- From here to its end, the text is the path of these pieces. -/
def IsRest (text : Array Char) (p : Progress) (pieces : List String) : Prop :=
  Reads text p (pathOf pieces).toList ∧ p.position + (pathOf pieces).toList.length = text.size

variable {text : Array Char} {p r : Progress} {number : Nat} {list : List Segment} {pieces : List String}
  {path : String}

section Pieces

theorem isPiece_iff {piece : String} : IsPiece piece ↔ piece.toList ≠ [] ∧ Within notSlash piece.toList := by
  have characters : Within notSlash piece.toList ↔ '/' ∉ piece.toList := by
    constructor
    · intro within slash
      have inside := within _ slash
      simp [notSlash, CharSet.contains, CharSet.single] at inside
    · intro whole c member
      have other : ¬ (CharSet.single '/').contains c := by
        rw [contains_single]
        rintro rfl
        exact whole member
      simpa [notSlash, CharSet.contains] using other
  rw [characters, ne_eq, String.toList_eq_nil_iff]
  exact ⟨fun proper => ⟨proper.nonempty, proper.whole⟩, fun both => ⟨both.1, both.2⟩⟩

theorem toList_pathOf_cons {piece : String} :
    (pathOf (piece :: pieces)).toList = ('/' :: piece.toList) ++ (pathOf pieces).toList := by
  simp [pathOf]

theorem join_cons_eq_append (first : String) :
    (Text.join "/" (first :: pieces)).toList = first.toList ++ (pathOf pieces).toList := by
  rw [Text.join, String.toList_intercalate]
  induction pieces generalizing first with
  | nil => simp [pathOf]
  | cons piece pieces ih =>
      rw [List.map_cons, List.map_cons, List.intercalate_cons_cons, ← List.map_cons, ih, toList_pathOf_cons]
      simp

theorem pathOf_eq_join : pathOf pieces = Text.join "/" ("" :: pieces) := by
  apply String.toList_injective
  rw [join_cons_eq_append]
  rfl

theorem Template.whole_of_proper (proper : (Template.segments list).Proper) :
    ∀ text ∈ list.flatMap Segment.literals, '/' ∉ text.toList := fun text member => (proper text member).whole

theorem whole_of_takes (whole : ∀ text ∈ list.flatMap Segment.literals, '/' ∉ text.toList)
    (takes : List.Forall₂ Segment.Takes list pieces) : ∀ piece ∈ pieces, '/' ∉ piece.toList := by
  induction takes with
  | nil => exact List.forall_mem_nil _
  | cons first _ ih =>
      rw [List.flatMap_cons, List.forall_mem_append] at whole
      refine List.forall_mem_cons.mpr ⟨?_, ih whole.2⟩
      cases first with
      | literal => exact whole.1 _ (List.mem_singleton_self _)
      | parameter proper => exact proper.whole

theorem takes_of_fitsAll (whole : ∀ piece ∈ pieces, '/' ∉ piece.toList) (fits : fitsAll list pieces) :
    List.Forall₂ Segment.Takes list pieces := by
  induction list generalizing pieces with
  | nil =>
      cases pieces with
      | nil => exact .nil
      | cons => cases fits
  | cons segment list ih =>
      cases pieces with
      | nil => cases segment <;> cases fits
      | cons piece pieces =>
          rw [fitsAll, Bool.and_eq_true] at fits
          rw [List.forall_mem_cons] at whole
          refine .cons ?_ (ih whole.2 fits.2)
          cases segment with
          | literal characters =>
              obtain rfl := eq_of_beq fits.1
              exact .literal
          | parameter name => exact .parameter ⟨bne_iff_ne.mp fits.1, whole.1⟩

theorem matchPieces_of_takes (takes : List.Forall₂ Segment.Takes list pieces) :
    Template.matchPieces list pieces = some (parametersOf list pieces) := by
  induction takes with
  | nil => rfl
  | cons first _ ih =>
      cases first with
      | literal => rw [Template.matchPieces, if_pos rfl, ih, parametersOf]
      | parameter piece => rw [Template.matchPieces, if_neg piece.nonempty, ih, parametersOf, Option.map_some]

/-- Segments match the paths whose pieces they take, and no others. -/
theorem accepts_segments_iff_takes (proper : (Template.segments list).Proper) :
    (Template.segments list).accepts path ↔
      ∃ pieces, List.Forall₂ Segment.Takes list pieces ∧ path = pathOf pieces := by
  rw [accepts_segments_iff]
  constructor
  · rintro ⟨pieces, split, fits⟩
    have whole : ∀ piece ∈ pieces, '/' ∉ piece.toList := fun piece member =>
      Text.not_mem_of_mem_split (split ▸ List.mem_cons_of_mem _ member)
    have written : Text.join "/" (Text.split '/' path) = path := Text.join_split '/' path
    refine ⟨pieces, takes_of_fitsAll whole fits, ?_⟩
    rw [pathOf_eq_join, ← split, written]
  · rintro ⟨pieces, takes, rfl⟩
    refine ⟨pieces, split_pathOf (whole_of_takes (Template.whole_of_proper proper) takes), ?_⟩
    rw [← isSome_matchPieces, matchPieces_of_takes takes, Option.isSome_some]

theorem capture?_pathOf (proper : (Template.segments list).Proper) (takes : List.Forall₂ Segment.Takes list pieces) :
    (Template.segments list).capture? (pathOf pieces) = some (parametersOf list pieces) := by
  rw [Template.capture?, split_pathOf (whole_of_takes (Template.whole_of_proper proper) takes)]
  exact matchPieces_of_takes takes

end Pieces

section Matching

theorem mem_ends_literal_cons {characters : String} :
    r ∈ ends text (expressionOf number (.literal characters :: list)) p ↔ Reads text p ('/' :: characters.toList) ∧
      r ∈ ends text (expressionOf number list) (p.advance ('/' :: characters.toList).length) := by
  rw [expressionOf, mem_ends_seq]
  constructor
  · rintro ⟨q, leads, rest⟩
    obtain ⟨reads, rfl⟩ := mem_ends_spelled.mp leads
    exact ⟨reads, rest⟩
  · rintro ⟨reads, rest⟩
    exact ⟨_, mem_ends_spelled.mpr ⟨reads, rfl⟩, rest⟩

theorem mem_ends_parameter_cons {name : String} :
    r ∈ ends text (expressionOf number (.parameter name :: list)) p ↔
      ∃ piece : String, IsPiece piece ∧ Reads text p ('/' :: piece.toList) ∧
        r ∈ ends text (expressionOf (number + 1) list) ((p.advance 1).capture number piece.toList.length) := by
  rw [expressionOf, mem_ends_seq]
  constructor
  · rintro ⟨q, leads, rest⟩
    obtain ⟨slash, rfl⟩ := mem_ends_spelled.mp leads
    obtain ⟨q, group, rest⟩ := mem_ends_seq.mp rest
    obtain ⟨run, some_, within, reads, rfl⟩ := mem_ends_group_run.mp group
    refine ⟨String.ofList run, isPiece_iff.mpr ?_, ?_, ?_⟩
    · rw [String.toList_ofList]
      exact ⟨some_, within⟩
    · rw [String.toList_ofList]
      exact reads_cons.mpr ⟨slash, reads⟩
    · rw [String.toList_ofList]
      exact rest
  · rintro ⟨piece, proper, reads, rest⟩
    obtain ⟨some_, within⟩ := isPiece_iff.mp proper
    obtain ⟨slash, reads⟩ := reads_cons.mp reads
    refine ⟨_, mem_ends_spelled.mpr ⟨slash, rfl⟩, mem_ends_seq.mpr ⟨_, ?_, rest⟩⟩
    exact mem_ends_group_run.mpr ⟨_, some_, within, reads, rfl⟩

theorem isRest_nil : IsRest text p [] ↔ p.position = text.size :=
  ⟨fun rest => rest.2, fun last => ⟨reads_nil, last⟩⟩

theorem isRest_cons {piece : String} : IsRest text p (piece :: pieces) ↔
    Reads text p ('/' :: piece.toList) ∧ IsRest text (p.advance ('/' :: piece.toList).length) pieces := by
  rw [IsRest, toList_pathOf_cons, reads_append, List.length_append, ← Nat.add_assoc, ← Progress.position_advance,
    and_assoc]
  rfl

theorem isRest_congr (same : p.position = r.position) : IsRest text p pieces ↔ IsRest text r pieces := by
  rw [IsRest, IsRest, Reads, Reads, same]

theorem mem_ends_nil : r ∈ ends text (expressionOf number []) p ↔ p.position = text.size ∧ r = p := by
  rw [expressionOf, ends]
  split <;> simp [*]

/-- The expression of segments leads to the end of the text past pieces that the segments take. -/
theorem mem_ends_expressionOf : r ∈ ends text (expressionOf number list) p ↔
    ∃ pieces, List.Forall₂ Segment.Takes list pieces ∧ IsRest text p pieces ∧ r = after number list pieces p := by
  induction list generalizing number p with
  | nil =>
      rw [mem_ends_nil]
      constructor
      · rintro ⟨last, rfl⟩
        exact ⟨[], .nil, isRest_nil.mpr last, rfl⟩
      · rintro ⟨_, ⟨⟩, rest, rfl⟩
        exact ⟨isRest_nil.mp rest, rfl⟩
  | cons segment list ih =>
      cases segment with
      | literal characters =>
          rw [mem_ends_literal_cons, ih]
          constructor
          · rintro ⟨reads, pieces, takes, rest, rfl⟩
            exact ⟨characters :: pieces, .cons .literal takes, isRest_cons.mpr ⟨reads, rest⟩, rfl⟩
          · rintro ⟨_, taken, rest, rfl⟩
            obtain ⟨_, pieces, ⟨⟩, takes, rfl⟩ := List.forall₂_cons_left_iff.mp taken
            obtain ⟨reads, rest⟩ := isRest_cons.mp rest
            exact ⟨reads, pieces, takes, rest, rfl⟩
      | parameter name =>
          -- The group is entered and left on the way, which does not move the position.
          have position {piece : String} : ((p.advance 1).capture number piece.toList.length).position =
              (p.advance ('/' :: piece.toList).length).position := by
            rw [Progress.position_capture, ← Progress.advance_cons]
            rfl
          rw [mem_ends_parameter_cons]
          constructor
          · rintro ⟨piece, proper, reads, leads⟩
            obtain ⟨pieces, takes, rest, rfl⟩ := ih.mp leads
            refine ⟨piece :: pieces, .cons (.parameter proper) takes, isRest_cons.mpr ⟨reads, ?_⟩, rfl⟩
            exact (isRest_congr position).mp rest
          · rintro ⟨_, taken, rest, rfl⟩
            obtain ⟨piece, pieces, first, takes, rfl⟩ := List.forall₂_cons_left_iff.mp taken
            obtain ⟨reads, rest⟩ := isRest_cons.mp rest
            cases first with
            | parameter proper =>
                exact ⟨piece, proper, reads, ih.mpr ⟨pieces, takes, (isRest_congr position).mpr rest, rfl⟩⟩

theorem groupCount_spelled (run : List Char) : groupCount (spelled run) = 0 := by
  induction run with
  | nil => rfl
  | cons c run ih => rw [spelled, groupCount, ih]; rfl

theorem groupCount_expressionOf : groupCount (expressionOf number list) = (list.flatMap Segment.names).length := by
  induction list generalizing number with
  | nil => rfl
  | cons segment list ih =>
      cases segment with
      | literal characters =>
          rw [expressionOf, groupCount, groupCount_spelled, ih, Nat.zero_add]
          rfl
      | parameter name =>
          rw [expressionOf, groupCount, groupCount_spelled, groupCount, ih, List.flatMap_cons, List.length_append]
          simp [groupCount, Segment.names]

/-- Later groups have other numbers, so they leave what a group has read. -/
theorem span?_after {earlier : Nat} (before : earlier < number) :
    (after number list pieces p).span? earlier = p.span? earlier := by
  induction list generalizing number pieces p with
  | nil => cases pieces <;> rfl
  | cons segment list ih =>
      cases pieces with
      | nil => cases segment <;> rfl
      | cons piece pieces =>
          cases segment with
          | literal characters =>
              rw [after, ih before]
              rfl
          | parameter name =>
              rw [after, ih (Nat.lt_succ_of_lt before), Progress.span?_capture, if_neg (Nat.ne_of_gt before)]
              rfl

/-- The groups have read the pieces that the parameters take. -/
theorem groupTexts_after (takes : List.Forall₂ Segment.Takes list pieces)
    (reads : Reads text p (pathOf pieces).toList) :
    (List.range' number (list.flatMap Segment.names).length).map (groupText? text (after number list pieces p)) =
      (parametersOf list pieces).map fun entry => some entry.2 := by
  induction takes generalizing number p with
  | nil => rfl
  | @cons segment piece list pieces first takes ih =>
      rw [toList_pathOf_cons] at reads
      obtain ⟨here, rest⟩ := reads_append.mp reads
      cases first with
      | literal => exact ih rest
      | @parameter name _ proper =>
          obtain ⟨_, reads⟩ := reads_cons.mp here
          have kept : groupText? text
              (after (number + 1) list pieces ((p.advance 1).capture number piece.toList.length))
              number = some piece := by
            rw [groupText?, span?_after number.lt_succ_self, ← groupText?, groupText?_capture reads,
              String.ofList_toList]
          have later : Reads text ((p.advance 1).capture number piece.toList.length) (pathOf pieces).toList := by
            rw [Reads, Progress.position_capture]
            rw [Reads, ← Progress.advance_cons] at rest
            exact rest
          have count : (List.flatMap Segment.names (.parameter name :: list)).length =
              (list.flatMap Segment.names).length + 1 := by
            rw [List.flatMap_cons, List.length_append, Nat.add_comm]
            rfl
          rw [count, List.range'_succ, List.map_cons, after, kept, ih later, parametersOf, List.map_cons]

theorem names_parametersOf (takes : List.Forall₂ Segment.Takes list pieces) :
    list.flatMap Segment.names = (parametersOf list pieces).map (·.1) := by
  induction takes with
  | nil => rfl
  | cons first _ ih =>
      rw [List.flatMap_cons, ih]
      cases first <;> rfl

theorem zip_parameters (entries : List (String × String)) :
    ((entries.map (·.1)).zip (entries.map fun entry => some entry.2)).filterMap
      (fun entry => entry.2.map (entry.1, ·)) = entries := by
  induction entries with
  | nil => rfl
  | cons entry entries ih => simpa using ih

theorem mem_ends_whole : r ∈ ends path.toList.toArray (expressionOf 1 list) { position := 0 } ↔
    ∃ pieces, List.Forall₂ Segment.Takes list pieces ∧ path = pathOf pieces ∧
      r = after 1 list pieces { position := 0 } := by
  rw [mem_ends_expressionOf]
  refine exists_congr fun pieces => and_congr_right fun _ => and_congr_left fun _ => ?_
  rw [IsRest, Nat.zero_add, reads_whole_iff, String.toList_inj]

theorem groups?_eq_none (none : ∀ pieces, List.Forall₂ Segment.Takes list pieces → path ≠ pathOf pieces) :
    groups? (.seq .start (expressionOf 1 list)) path = .none := by
  have nowhere : ends path.toList.toArray (expressionOf 1 list) { position := 0 } = [] := by
    rw [List.eq_nil_iff_forall_not_mem]
    intro r leads
    obtain ⟨pieces, takes, same, _⟩ := mem_ends_whole.mp leads
    exact none pieces takes same
  rw [groups?, firstMatch?_start, nowhere]
  rfl

/-- A path has pieces in one way only, so all matches of the expression come equally far. -/
theorem groups?_pathOf (whole : ∀ text ∈ list.flatMap Segment.literals, '/' ∉ text.toList)
    (takes : List.Forall₂ Segment.Takes list pieces) : groups? (.seq .start (expressionOf 1 list)) (pathOf pieces) =
      some ((parametersOf list pieces).map fun entry => some entry.2) := by
  have here := mem_ends_whole.mpr ⟨pieces, takes, rfl, rfl⟩
  obtain ⟨r, found⟩ := Option.isSome_iff_exists.mp (List.isSome_head?.mpr (List.ne_nil_of_mem here))
  obtain ⟨others, takes', same, rfl⟩ := mem_ends_whole.mp (List.mem_of_head? found)
  obtain rfl : pieces = others := by
    have split := congrArg (Text.split '/') same
    rw [split_pathOf (whole_of_takes whole takes), split_pathOf (whole_of_takes whole takes')] at split
    exact (List.cons.inj split).2
  have count : groupCount (.seq .start (expressionOf 1 list)) = (list.flatMap Segment.names).length := by
    rw [groupCount, groupCount_expressionOf]
    exact Nat.zero_add _
  have reads : Reads (pathOf pieces).toList.toArray { position := 0 } (pathOf pieces).toList :=
    (reads_whole_iff.mpr rfl).1
  rw [groups?, firstMatch?_start, found, Option.map_some, count, groupTexts_after takes reads]

end Matching

namespace Template

/-- The groups of the expression give the parameters that the pieces of a path give. -/
theorem grouped?_eq_capture? {template : Template} (proper : template.Proper) (path : String) :
    template.grouped? path = template.capture? path := by
  cases template with
  | root =>
      have expression : root.expression = .seq .start (expressionOf 1 [.literal ""]) := rfl
      rw [grouped?, expression, capture?]
      split
      · rename_i same
        obtain rfl : path = pathOf [""] := same
        rw [groups?_pathOf (by simp [Segment.literals]) (.cons .literal .nil)]
        rfl
      · rename_i other
        rw [groups?_eq_none]
        · rfl
        · rintro pieces taken rfl
          obtain ⟨_, _, ⟨⟩, ⟨⟩, rfl⟩ := List.forall₂_cons_left_iff.mp taken
          exact other rfl
  | segments list =>
      rw [grouped?, expression]
      by_cases taken : ∃ pieces, List.Forall₂ Segment.Takes list pieces ∧ path = pathOf pieces
      · obtain ⟨pieces, takes, rfl⟩ := taken
        rw [groups?_pathOf (whole_of_proper proper) takes, capture?_pathOf proper takes, Option.map_some, names,
          names_parametersOf takes, zip_parameters]
      · have refuses : ¬ (segments list).accepts path :=
          fun accepts => taken ((accepts_segments_iff_takes proper).mp accepts)
        rw [accepts, Bool.not_eq_true, Option.isSome_eq_false_iff, Option.isNone_iff_eq_none] at refuses
        rw [refuses, groups?_eq_none fun pieces takes same => taken ⟨pieces, takes, same⟩]
        rfl

theorem search_expression {template : Template} (proper : template.Proper) (path : String) :
    template.expression.search path = template.accepts path := by
  rw [accepts, ← grouped?_eq_capture? proper, grouped?, Option.isSome_map, isSome_groups?]

end Template

end Route

end ApiAtlas
