import Mathlib.Data.List.Basic
import ApiAtlas.Pattern.Basic

/-! # Where patterns lead

Of the positions to which a pattern leads, the order is left aside here: what counts is which they are. A
pattern that is a text leads past this text, a repeated set of characters past any run of them, and a group
leads where its body leads and keeps what it has read.
-/

namespace ApiAtlas

namespace Found

variable {α : Type} [BEq α] [Hashable α] {found : Found α} {a b : α} {list : List α}

/-- The set beside the list has the same members. -/
def Exact (found : Found α) : Prop := ∀ a, found.contains a ↔ a ∈ found.toList

theorem exact_nothing : (nothing : Found α).Exact := by
  intro a
  simp [nothing, contains, toList]

theorem toList_add : (found.add a).toList = if found.contains a then found.toList else found.toList ++ [a] := by
  rw [add]
  split <;> simp [toList]

theorem mem_add (exact : found.Exact) : b ∈ (found.add a).toList ↔ b ∈ found.toList ∨ b = a := by
  rw [toList_add]
  split
  · rename_i there
    constructor
    · exact .inl
    · rintro (member | rfl)
      · exact member
      · exact (exact b).mp there
  · simp

variable [LawfulBEq α]

theorem Exact.add (exact : found.Exact) (a : α) : (found.add a).Exact := by
  intro b
  rw [mem_add exact, ← exact b, Found.add]
  split
  · rename_i there
    constructor
    · exact .inl
    · rintro (member | rfl)
      · exact member
      · exact there
  · rw [contains, contains, Std.HashSet.contains_insert, Bool.or_eq_true, beq_iff_eq, or_comm, @eq_comm _ a]

theorem Exact.addAll (exact : found.Exact) (list : List α) : (found.addAll list).Exact := by
  induction list generalizing found with
  | nil => exact exact
  | cons a list ih => exact ih (exact.add a)

theorem mem_addAll (exact : found.Exact) : b ∈ (found.addAll list).toList ↔ b ∈ found.toList ∨ b ∈ list := by
  induction list generalizing found with
  | nil => simp [addAll]
  | cons a list ih =>
      have step : found.addAll (a :: list) = (found.add a).addAll list := rfl
      rw [step, ih (exact.add a), mem_add exact, List.mem_cons, or_assoc]

theorem mem_distinct : b ∈ distinct list ↔ b ∈ list := by
  have none : b ∉ (nothing : Found α).toList := List.not_mem_nil
  rw [distinct, mem_addAll exact_nothing]
  exact or_iff_right none

end Found

namespace Pattern

open Progress

namespace Progress

variable {step : Progress → List Progress} {found : List Progress} {p r : Progress}

theorem mem_stepAll : r ∈ stepAll step found ↔ ∃ q ∈ found, r ∈ step q := by
  have all (acc : Found Progress) (exact : acc.Exact) :
      r ∈ (found.foldl (fun acc p => acc.addAll (step p)) acc).toList ↔ r ∈ acc.toList ∨ ∃ q ∈ found, r ∈ step q := by
    induction found generalizing acc with
    | nil => simp
    | cons q found ih =>
        rw [List.foldl_cons, ih _ (exact.addAll _), Found.mem_addAll exact]
        simp [or_assoc]
  unfold stepAll
  split
  · simp
  · have none : r ∉ (Found.nothing : Found Progress).toList := List.not_mem_nil
    rw [all _ Found.exact_nothing]
    exact or_iff_right none

theorem exact_extend {eager : Bool} {room : Nat} {found : Found Progress} (exact : found.Exact) :
    (extend step eager room found p).Exact := by
  induction room generalizing found p with
  | zero => exact exact
  | succ room ih =>
      have each (list : List Progress) {acc : Found Progress} (exact : acc.Exact) :
          (list.foldl (extend step eager room) acc).Exact := by
        induction list generalizing acc with
        | nil => exact exact
        | cons q list inner => exact inner (ih exact)
      rw [extend]
      split
      · exact exact
      · split
        · exact (each _ exact).add p
        · exact each _ (exact.add p)

/-- So many characters on. -/
def advance (p : Progress) (count : Nat) : Progress := { p with position := p.position + count }

@[simp] theorem position_advance {count : Nat} : (p.advance count).position = p.position + count := rfl

@[simp] theorem advance_zero : p.advance 0 = p := rfl

theorem advance_advance {count more : Nat} : (p.advance count).advance more = p.advance (count + more) := by
  simp [advance, Nat.add_assoc]

theorem advance_cons {c : Char} {run : List Char} :
    (p.advance 1).advance run.length = p.advance (c :: run).length := by
  rw [advance_advance, List.length_cons, Nat.add_comm]

/-- What a group has read, so many characters, is kept under its number. -/
def capture (p : Progress) (number count : Nat) : Progress := ((p.enter number).advance count).leave number

theorem span?_setSpan {span : Span} {number : Nat} :
    (p.setSpan span).span? number = if span.number = number then some span else p.span? number := by
  rw [setSpan, span?, List.find?_cons]
  by_cases same : span.number = number
  · simp [same]
  · have other : (span.number == number) = false := beq_eq_false_iff_ne.mpr same
    simp only [other, if_neg same, span?, List.find?_filter]
    congr 1
    funext listed
    by_cases here : listed.number = number
    · simp [here, Ne.symm same]
    · simp [here]

theorem capture_eq {number count : Nat} : p.capture number count = ((p.enter number).advance count).setSpan
    ⟨number, p.position, some (p.position + count)⟩ := by
  have entered : ((p.enter number).advance count).span? number =
      some ⟨number, p.position, (p.span? number).bind (·.last)⟩ := span?_setSpan.trans (if_pos rfl)
  rw [capture, leave, entered]
  rfl

@[simp] theorem position_capture {number count : Nat} : (p.capture number count).position = p.position + count := by
  rw [capture_eq]
  rfl

theorem span?_capture {number count other : Nat} : (p.capture number count).span? other =
    if number = other then some ⟨number, p.position, some (p.position + count)⟩ else p.span? other := by
  have entered (other : Nat) (different : number ≠ other) :
      ((p.enter number).advance count).span? other = p.span? other := span?_setSpan.trans (if_neg different)
  rw [capture_eq, span?_setSpan]
  split
  · rfl
  · rename_i different
    exact entered other different

end Progress

variable {text : Array Char} {p r : Progress} {first second body : Pattern} {set : CharSet} {run more : List Char}

/-- The characters from here on start like this. -/
def Reads (text : Array Char) (p : Progress) (run : List Char) : Prop := run <+: text.toList.drop p.position

theorem reads_nil : Reads text p [] := List.nil_prefix

theorem reads_append : Reads text p (run ++ more) ↔ Reads text p run ∧ Reads text (p.advance run.length) more := by
  rw [Reads, Reads, Reads, position_advance, ← List.drop_drop]
  generalize text.toList.drop p.position = rest
  constructor
  · rintro ⟨tail, rfl⟩
    simp
  · rintro ⟨⟨tail, rfl⟩, start⟩
    rw [List.drop_left] at start
    exact (List.prefix_append_right_inj run).mpr start

theorem reads_cons {c : Char} : Reads text p (c :: run) ↔ Reads text p [c] ∧ Reads text (p.advance 1) run := by
  change Reads text p ([c] ++ run) ↔ _
  exact reads_append

theorem reads_singleton {c : Char} : Reads text p [c] ↔ text[p.position]? = some c := by
  rw [Reads, ← Array.getElem?_toList, ← List.head?_drop]
  cases text.toList.drop p.position <;> simp [eq_comm]

theorem mem_ends_seq : r ∈ ends text (.seq first second) p ↔ ∃ q ∈ ends text first p, r ∈ ends text second q := by
  rw [ends, mem_stepAll]

/-- A character of the set is here, and the pattern leads past it, or there is none, and it leads nowhere. -/
theorem ends_char_cases (text : Array Char) (set : CharSet) (p : Progress) :
    (∃ c, Reads text p [c] ∧ set.contains c ∧ ends text (.char set) p = [p.advance 1]) ∨
      ((∀ c, Reads text p [c] → ¬ set.contains c) ∧ ends text (.char set) p = []) := by
  rw [ends]
  cases here : text[p.position]? with
  | none =>
      refine .inr ⟨fun c reads => ?_, rfl⟩
      rw [reads_singleton, here] at reads
      cases reads
  | some c =>
      by_cases inside : set.contains c
      · exact .inl ⟨c, reads_singleton.mpr here, inside, if_pos inside⟩
      · refine .inr ⟨fun d reads => ?_, if_neg inside⟩
        rw [reads_singleton, here, Option.some.injEq] at reads
        exact reads ▸ inside

theorem mem_ends_char :
    r ∈ ends text (.char set) p ↔ ∃ c, Reads text p [c] ∧ set.contains c ∧ r = p.advance 1 := by
  rcases ends_char_cases text set p with ⟨c, reads, inside, leads⟩ | ⟨nothing, leads⟩
  · rw [leads, List.mem_singleton]
    constructor
    · rintro rfl
      exact ⟨c, reads, inside, rfl⟩
    · rintro ⟨_, _, _, rfl⟩
      rfl
  · rw [leads]
    refine iff_of_false List.not_mem_nil ?_
    rintro ⟨c, reads, inside, _⟩
    exact nothing c reads inside

theorem contains_single {c d : Char} : (CharSet.single c).contains d ↔ d = c := by
  simp only [CharSet.single, CharSet.contains, Bool.and_eq_true, decide_eq_true_eq]
  constructor
  · intro both
    exact Char.le_antisymm both.2 both.1
  · rintro rfl
    exact ⟨Char.le_refl d, Char.le_refl d⟩

theorem mem_ends_single {c : Char} : r ∈ ends text (.char (.single c)) p ↔ Reads text p [c] ∧ r = p.advance 1 := by
  rw [mem_ends_char]
  constructor
  · rintro ⟨d, reads, inside, rfl⟩
    obtain rfl := contains_single.mp inside
    exact ⟨reads, rfl⟩
  · rintro ⟨reads, rfl⟩
    exact ⟨c, reads, contains_single.mpr rfl, rfl⟩

theorem mem_ends_spelled : r ∈ ends text (spelled run) p ↔ Reads text p run ∧ r = p.advance run.length := by
  induction run generalizing p with
  | nil => simp [spelled, ends, reads_nil]
  | cons c run ih =>
      rw [spelled, mem_ends_seq, reads_cons]
      constructor
      · rintro ⟨q, leads, rest⟩
        obtain ⟨reads, rfl⟩ := mem_ends_single.mp leads
        obtain ⟨reads', rfl⟩ := ih.mp rest
        exact ⟨⟨reads, reads'⟩, advance_cons⟩
      · rintro ⟨⟨reads, reads'⟩, rfl⟩
        exact ⟨_, mem_ends_single.mpr ⟨reads, rfl⟩, ih.mpr ⟨reads', advance_cons.symm⟩⟩

theorem mem_ends_group {number : Nat} :
    r ∈ ends text (.group number body) p ↔ ∃ q ∈ ends text body (p.enter number), r = q.leave number := by
  rw [ends, Found.mem_distinct, List.mem_map]
  simp only [eq_comm]

section Runs

/-- All characters of a run are in a set. -/
def Within (set : CharSet) (run : List Char) : Prop := ∀ c ∈ run, set.contains c

theorem mem_extend {room : Nat} : r ∈ (extend (ends text (.char set)) true room .nothing p).toList ↔
    ∃ run, run.length < room ∧ Within set run ∧ Reads text p run ∧ r = p.advance run.length := by
  -- A run is a first character and a run from the place after it, where there is less room.
  induction room generalizing p with
  | zero =>
      have none : r ∉ (Found.nothing : Found Progress).toList := List.not_mem_nil
      exact iff_of_false none (by simp)
  | succ room ih =>
      have new : (Found.nothing : Found Progress).contains p = false := by simp [Found.nothing, Found.contains]
      have exact (q : Progress) : (extend (ends text (.char set)) true room .nothing q).Exact :=
        exact_extend Found.exact_nothing
      rw [extend, new, if_neg Bool.false_ne_true, if_pos rfl]
      rcases ends_char_cases text set p with ⟨c, reads, inside, leads⟩ | ⟨nothing, leads⟩
      · have next : (ends text (.char set) p).filter (p.position < ·.position) = [p.advance 1] := by simp [leads]
        rw [next, List.foldl_cons, List.foldl_nil, Found.mem_add (exact _), ih]
        constructor
        · rintro (⟨run, short, within, reads', rfl⟩ | rfl)
          · refine ⟨c :: run, by simpa using short, List.forall_mem_cons.mpr ⟨inside, within⟩, ?_, advance_cons⟩
            exact reads_cons.mpr ⟨reads, reads'⟩
          · exact ⟨[], room.succ_pos, List.forall_mem_nil _, reads_nil, rfl⟩
        · rintro ⟨run, short, within, reads', rfl⟩
          cases run with
          | nil => exact .inr rfl
          | cons d run =>
              obtain ⟨_, rest⟩ := reads_cons.mp reads'
              exact .inl ⟨run, by simpa using short, (List.forall_mem_cons.mp within).2, rest, advance_cons.symm⟩
      · rw [leads, List.filter_nil, List.foldl_nil, Found.mem_add Found.exact_nothing]
        constructor
        · rintro (member | rfl)
          · cases member
          · exact ⟨[], room.succ_pos, List.forall_mem_nil _, reads_nil, rfl⟩
        · rintro ⟨run, short, within, reads, rfl⟩
          cases run with
          | nil => exact .inr rfl
          | cons c run => exact absurd (within c List.mem_cons_self) (nothing c (reads_cons.mp reads).1)

theorem ends_run : ends text (.times (.char set) 1 none true) p =
    ((ends text (.char set) p).foldl (extend (ends text (.char set)) true (text.size + 1)) .nothing).toList := by
  have once : exactly (ends text (.char set)) 1 [p] = ends text (.char set) p := by
    simp only [exactly, stepAll]
    exact ite_self _
  conv_lhs => rw [ends]
  simp only [once]

/-- A set that is repeated at least once leads past each run of its characters. -/
theorem mem_ends_run : r ∈ ends text (.times (.char set) 1 none true) p ↔
    ∃ run, run ≠ [] ∧ Within set run ∧ Reads text p run ∧ r = p.advance run.length := by
  rw [ends_run]
  rcases ends_char_cases text set p with ⟨c, reads, inside, leads⟩ | ⟨nothing, leads⟩
  · rw [leads, List.foldl_cons, List.foldl_nil, mem_extend]
    constructor
    · rintro ⟨run, _, within, reads', rfl⟩
      refine ⟨c :: run, List.cons_ne_nil _ _, List.forall_mem_cons.mpr ⟨inside, within⟩, ?_, advance_cons⟩
      exact reads_cons.mpr ⟨reads, reads'⟩
    · rintro ⟨run, some_, within, reads', rfl⟩
      obtain ⟨d, run, rfl⟩ := List.exists_cons_of_ne_nil some_
      obtain ⟨_, rest⟩ := reads_cons.mp reads'
      refine ⟨run, ?_, (List.forall_mem_cons.mp within).2, rest, advance_cons.symm⟩
      have short := rest.length_le
      rw [List.length_drop] at short
      exact Nat.lt_succ_of_le (Nat.le_trans short (Nat.sub_le _ _))
  · rw [leads]
    refine iff_of_false List.not_mem_nil ?_
    rintro ⟨run, some_, within, reads, _⟩
    obtain ⟨c, run, rfl⟩ := List.exists_cons_of_ne_nil some_
    exact nothing c (reads_cons.mp reads).1 (within c List.mem_cons_self)

/-- A group of such a run keeps it. -/
theorem mem_ends_group_run {number : Nat} : r ∈ ends text (.group number (.times (.char set) 1 none true)) p ↔
    ∃ run, run ≠ [] ∧ Within set run ∧ Reads text p run ∧ r = p.capture number run.length := by
  rw [mem_ends_group]
  constructor
  · rintro ⟨q, leads, rfl⟩
    obtain ⟨run, some_, within, reads, rfl⟩ := mem_ends_run.mp leads
    exact ⟨run, some_, within, reads, rfl⟩
  · rintro ⟨run, some_, within, reads, rfl⟩
    exact ⟨_, mem_ends_run.mpr ⟨run, some_, within, reads, rfl⟩, rfl⟩

end Runs

end Pattern

end ApiAtlas
