import Mathlib.Algebra.Order.BigOperators.Group.List
import Mathlib.Algebra.Order.Group.Nat
import ApiAtlas.Proofs.Text.Basic
import ApiAtlas.Route.Template

/-! # Which templates cover others

A template covers another one if it accepts every path that the other one accepts. This is seen from the
segments. A path in which every parameter stands for a text that no template mentions shows it at once for
any number of templates.
-/

namespace ApiAtlas

namespace Route

/-- A piece of a path fits a segment. -/
def Segment.fits : Segment → String → Bool
  | .literal text, piece => piece == text
  | .parameter _, piece => piece != ""

/-- Every piece that fits the second segment fits the first one. -/
def Segment.covers : Segment → Segment → Bool
  | .parameter _, _ => true
  | .literal text, .literal other => text == other
  | .literal _, .parameter _ => false

def coversAll : List Segment → List Segment → Bool
  | [], [] => true
  | first :: rest, second :: others => first.covers second && coversAll rest others
  | _, _ => false

def Template.covers : Template → Template → Bool
  | .root, .root => true
  | .segments list, .segments others => coversAll list others
  | _, _ => false

/-- The path with these pieces. -/
def pathOf (pieces : List String) : String :=
  String.ofList (pieces.flatMap fun piece => '/' :: piece.toList)

/-- A piece that fits the segment: itself, or a text that stands for the parameter. -/
def Segment.sample (fresh : String) : Segment → String
  | .literal text => text
  | .parameter _ => fresh

def Template.sample (fresh : String) : Template → String
  | .root => "/"
  | .segments list => pathOf (list.map (Segment.sample fresh))

/-- A piece of a path that is not empty. -/
structure IsPiece (text : String) : Prop where
  nonempty : text ≠ ""
  whole : '/' ∉ text.toList

def Segment.literals : Segment → List String
  | .literal text => [text]
  | .parameter _ => []

def Template.literals : Template → List String
  | .root => []
  | .segments list => list.flatMap Segment.literals

def Template.Proper (template : Template) : Prop := ∀ text ∈ template.literals, IsPiece text

section Splitting

/-- The pieces of a path come after an empty one. -/
theorem split_pathOf {pieces : List String} (whole : ∀ piece ∈ pieces, '/' ∉ piece.toList) :
    Text.split '/' (pathOf pieces) = "" :: pieces := by
  have each : ∀ piece ∈ pieces.map String.toList, '/' ∉ piece := by simpa using whole
  have split := Text.splitChars_flatMap List.not_mem_nil each
  rw [List.nil_append, List.flatMap_map] at split
  rw [Text.split, pathOf, String.toList_ofList, split]
  simp

theorem pathOf_ne_root {pieces : List String} (proper : ∀ piece ∈ pieces, IsPiece piece) : pathOf pieces ≠ "/" := by
  intro same
  have split : Text.split '/' (pathOf pieces) = "" :: pieces := split_pathOf fun piece member => (proper piece member).whole
  have root : Text.split '/' "/" = ["", ""] := rfl
  rw [same, root, List.cons.injEq] at split
  exact (proper "" (split.2 ▸ List.mem_singleton_self _)).nonempty rfl

end Splitting

def fitsAll : List Segment → List String → Bool
  | [], [] => true
  | segment :: rest, piece :: pieces => segment.fits piece && fitsAll rest pieces
  | _, _ => false

theorem isSome_matchPieces (list : List Segment) (pieces : List String) :
    (Template.matchPieces list pieces).isSome = fitsAll list pieces := by
  induction list generalizing pieces with
  | nil => cases pieces <;> rfl
  | cons segment list ih =>
      cases pieces with
      | nil => cases segment <;> rfl
      | cons piece pieces =>
          rw [fitsAll, ← ih]
          cases segment with
          | literal text => by_cases same : piece = text <;> simp [Template.matchPieces, Segment.fits, same]
          | parameter name => by_cases empty : piece = "" <;> simp [Template.matchPieces, Segment.fits, empty]

theorem accepts_segments_iff {list : List Segment} {path : String} : (Template.segments list).accepts path ↔
    ∃ pieces, Text.split '/' path = "" :: pieces ∧ fitsAll list pieces := by
  rw [Template.accepts, Template.capture?]
  split
  · rename_i pieces same
    simp [same, isSome_matchPieces]
  · rename_i other
    simp only [Option.isSome_none, Bool.false_eq_true, false_iff, not_exists, not_and]
    exact fun pieces same => absurd same (other pieces)

theorem accepts_root_iff {path : String} : Template.root.accepts path ↔ path = "/" := by
  simp [Template.accepts, Template.capture?]

section Proper

theorem Segment.literals_ofText_subset (text : String) : ∀ other ∈ (ofText text).literals, other = text := by
  intro other member
  rw [ofText] at member
  split at member
  · cases member
  · exact List.mem_singleton.mp member

/-- A template that is read from a path is made of pieces of it. -/
theorem Template.proper_ofPath (path : String) : (ofPath path).Proper := by
  intro text member
  rw [ofPath] at member
  split at member
  · cases member
  · obtain ⟨segment, listed, inside⟩ := List.mem_flatMap.mp member
    obtain ⟨part, kept, rfl⟩ := List.mem_map.mp listed
    obtain rfl := Segment.literals_ofText_subset part text inside
    obtain ⟨written, nonempty⟩ := List.mem_filter.mp kept
    obtain ⟨chars, split, rfl⟩ := List.mem_map.mp written
    refine ⟨by simpa using nonempty, fun slash => ?_⟩
    rw [String.toList_ofList] at slash
    exact absurd (Text.not_isSeparator_of_mem split slash) (by simp)

theorem exists_fresh (texts : List String) : ∃ fresh, IsPiece fresh ∧ fresh ∉ texts := by
  let length := (texts.map String.length).sum + 1
  refine ⟨String.ofList (List.replicate length 'x'), ⟨?_, ?_⟩, fun member => ?_⟩
  · intro empty
    have none := congrArg String.length empty
    simp [length] at none
  · simp
  · have short := List.le_sum_of_mem (List.mem_map_of_mem member : String.length _ ∈ texts.map String.length)
    simp [length] at short

end Proper

section Covering

variable {list others : List Segment} {fresh : String}

theorem Segment.fits_of_covers {first second : Segment} {piece : String} (proper : ∀ text ∈ second.literals, IsPiece text)
    (covers : first.covers second) (fits : second.fits piece) : first.fits piece := by
  cases first with
  | literal text =>
      cases second with
      | literal other =>
          have same : text = other := eq_of_beq covers
          exact same ▸ fits
      | parameter name => cases covers
  | parameter name =>
      cases second with
      | literal text =>
          have same : piece = text := eq_of_beq fits
          have there : IsPiece text := proper text (List.mem_singleton_self _)
          exact bne_iff_ne.mpr (same ▸ there.nonempty)
      | parameter other => exact fits

theorem fitsAll_of_coversAll {pieces : List String} (proper : ∀ text ∈ others.flatMap Segment.literals, IsPiece text)
    (covers : coversAll list others) (fits : fitsAll others pieces) : fitsAll list pieces := by
  induction list generalizing others pieces with
  | nil =>
      cases others with
      | nil => exact fits
      | cons => cases covers
  | cons first list ih =>
      cases others with
      | nil => cases covers
      | cons second others =>
          cases pieces with
          | nil => cases fits
          | cons piece pieces =>
              simp only [coversAll, fitsAll, Bool.and_eq_true, List.flatMap_cons, List.forall_mem_append] at *
              exact ⟨Segment.fits_of_covers proper.1 covers.1 fits.1, ih proper.2 covers.2 fits.2⟩

/-- What stands for a parameter is no text, so only parameters let it through. -/
theorem Segment.covers_of_fits_sample {first second : Segment} (apart : fresh ∉ first.literals)
    (fits : first.fits (second.sample fresh)) : first.covers second := by
  cases first with
  | literal text =>
      cases second with
      | literal other =>
          have same : other = text := eq_of_beq fits
          exact beq_iff_eq.mpr same.symm
      | parameter name =>
          have same : fresh = text := eq_of_beq fits
          exact absurd (List.mem_singleton.mpr same) apart
  | parameter name => rfl

theorem coversAll_of_fitsAll_sample (apart : fresh ∉ list.flatMap Segment.literals)
    (fits : fitsAll list (others.map (Segment.sample fresh))) : coversAll list others := by
  induction list generalizing others with
  | nil =>
      cases others with
      | nil => rfl
      | cons => cases fits
  | cons first list ih =>
      cases others with
      | nil => cases fits
      | cons second others =>
          simp only [coversAll, List.map_cons, fitsAll, Bool.and_eq_true, List.flatMap_cons, List.mem_append,
            not_or] at *
          exact ⟨Segment.covers_of_fits_sample apart.1 fits.1, ih apart.2 fits.2⟩

theorem Segment.fits_sample {segment : Segment} (piece : IsPiece fresh) : segment.fits (segment.sample fresh) := by
  cases segment with
  | literal text => exact beq_self_eq_true text
  | parameter name => exact bne_iff_ne.mpr piece.nonempty

theorem isPiece_sample {segment : Segment} (piece : IsPiece fresh) (proper : ∀ text ∈ segment.literals, IsPiece text) :
    IsPiece (segment.sample fresh) := by
  cases segment with
  | literal text => exact proper text (List.mem_singleton_self _)
  | parameter name => exact piece

theorem fitsAll_sample (piece : IsPiece fresh) : fitsAll list (list.map (Segment.sample fresh)) := by
  induction list with
  | nil => rfl
  | cons segment list ih =>
      rw [List.map_cons, fitsAll, Segment.fits_sample piece, ih]
      rfl

namespace Template

variable {first second : Template}

theorem isPiece_of_mem_sample (piece : IsPiece fresh) (proper : (segments list).Proper) :
    ∀ text ∈ list.map (Segment.sample fresh), IsPiece text := by
  intro text member
  obtain ⟨segment, listed, rfl⟩ := List.mem_map.mp member
  exact isPiece_sample piece fun text inside => proper text (List.mem_flatMap.mpr ⟨segment, listed, inside⟩)

theorem accepts_sample (piece : IsPiece fresh) (proper : second.Proper) : second.accepts (second.sample fresh) := by
  cases second with
  | root => rfl
  | segments list =>
      have pieces := isPiece_of_mem_sample piece proper
      exact accepts_segments_iff.mpr ⟨_, split_pathOf fun text member => (pieces text member).whole, fitsAll_sample piece⟩

theorem not_accepts_root (proper : (segments list).Proper) : ¬ (segments list).accepts "/" := by
  intro accepts
  obtain ⟨pieces, split, fits⟩ := accepts_segments_iff.mp accepts
  have root : Text.split '/' "/" = ["", ""] := rfl
  rw [root, List.cons.injEq] at split
  obtain ⟨_, rfl⟩ := split
  cases list with
  | nil => cases fits
  | cons segment list =>
      cases segment with
      | parameter name => simp [fitsAll, Segment.fits] at fits
      | literal text =>
          have here : IsPiece text := proper text (List.mem_flatMap.mpr ⟨_, List.mem_cons_self, List.mem_singleton_self _⟩)
          simp [fitsAll, Segment.fits, here.nonempty.symm] at fits

/-- A template that does not mention what stands for parameters covers each template whose sample it
accepts. -/
theorem covers_of_accepts_sample (piece : IsPiece fresh) (apart : fresh ∉ first.literals) (proper : first.Proper)
    (proper' : second.Proper) (accepts : first.accepts (second.sample fresh)) : first.covers second := by
  cases second with
  | root =>
      cases first with
      | root => rfl
      | segments list => exact absurd accepts (not_accepts_root proper)
  | segments others =>
      have pieces := isPiece_of_mem_sample piece proper'
      cases first with
      -- The path of the root is the sample of no segments: its only piece would be empty.
      | root => exact absurd (accepts_root_iff.mp accepts) (pathOf_ne_root pieces)
      | segments list =>
          obtain ⟨found, split, fits⟩ := accepts_segments_iff.mp accepts
          rw [sample, split_pathOf fun text member => (pieces text member).whole, List.cons.injEq] at split
          obtain ⟨_, rfl⟩ := split
          exact coversAll_of_fitsAll_sample apart fits

/-- A template covers another one exactly if it accepts whatever the other one accepts. -/
theorem covers_iff (proper : first.Proper) (proper' : second.Proper) :
    first.covers second ↔ ∀ path, second.accepts path → first.accepts path := by
  constructor
  · intro covers path accepts
    cases second with
    | root =>
        cases first with
        | root => exact accepts
        | segments list => cases covers
    | segments others =>
        cases first with
        | root => cases covers
        | segments list =>
            obtain ⟨pieces, split, fits⟩ := accepts_segments_iff.mp accepts
            exact accepts_segments_iff.mpr ⟨pieces, split, fitsAll_of_coversAll proper' covers fits⟩
  · intro accepts
    obtain ⟨fresh, piece, apart⟩ := exists_fresh first.literals
    exact covers_of_accepts_sample piece apart proper proper' (accepts _ (accepts_sample piece proper'))

end Template

end Covering

end Route

end ApiAtlas
