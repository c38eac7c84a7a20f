import Mathlib.Data.List.Infix
import Userland.Log.Record

/-!
# Which part of a target is shown

The origin of a target ends at the first double colon, unless the part in front
of it is `user`.  `BeforeFirstColons` says which place is meant where colons
follow one another: of the three colons in `swap5:::pattern` the first two count,
and the third one belongs to what is dropped.  An empty part in front is a part
like any other, and a single colon separates nothing.

No form of the target is assumed.  In particular it need not be the path of a
module, and the part in front may be `user` with more letters behind it, which
is then a program like any other.
-/

namespace Userland
namespace Log

/-- What stands behind the program in the path of a module. -/
def colons : List Char := [':', ':']

/-! ## The first double colon -/

/-- A text has a double colon behind `before`, and none further in front. -/
structure BeforeFirstColons (before text : List Char) : Prop where
  found : before ++ colons <+: text
  first : ∀ other, other ++ colons <+: text → before.length ≤ other.length

section Places

variable {before rest text : List Char} {character : Char}

theorem beforeFirstColons_colons_iff :
    BeforeFirstColons before (':' :: ':' :: rest) ↔ before = [] := by
  constructor
  · intro stands
    apply List.eq_nil_of_length_eq_zero
    exact Nat.le_zero.mp (stands.first [] (List.prefix_append colons rest))
  · rintro rfl
    exact ⟨List.prefix_append colons rest, fun other _ => Nat.zero_le other.length⟩

theorem not_beforeFirstColons_nil : ¬ BeforeFirstColons before [] := by
  intro stands
  have nothing : before ++ colons = [] := List.prefix_nil.mp stands.found
  exact List.cons_ne_nil _ _ (List.append_eq_nil_iff.mp nothing).2

/-- A character at which no double colon begins belongs to what stands in front
of the first one. -/
theorem beforeFirstColons_cons_iff (passed : ¬ colons <+: character :: rest) :
    BeforeFirstColons before (character :: rest) ↔
      ∃ others, BeforeFirstColons others rest ∧ character :: others = before := by
  constructor
  · intro stands
    cases before with
    | nil => exact absurd stands.found passed
    | cons head others =>
        have found : head = character ∧ others ++ colons <+: rest :=
          List.cons_prefix_cons.mp stands.found
        refine ⟨others, ⟨found.2, ?_⟩, by rw [found.1]⟩
        intro other further
        have longer := stands.first (character :: other)
          (List.cons_prefix_cons.mpr ⟨rfl, further⟩)
        exact Nat.le_of_succ_le_succ longer
  · rintro ⟨others, stands, rfl⟩
    refine ⟨List.cons_prefix_cons.mpr ⟨rfl, stands.found⟩, ?_⟩
    intro other further
    cases other with
    | nil => exact absurd further passed
    | cons head tail =>
        have inside : tail ++ colons <+: rest := (List.cons_prefix_cons.mp further).2
        exact Nat.succ_le_succ (stands.first tail inside)

theorem not_starts_colons (apart : ∀ tail, character = ':' → rest = ':' :: tail → False) :
    ¬ colons <+: character :: rest := by
  intro starts
  rcases List.cons_prefix_cons.mp starts with ⟨colon, second⟩
  rcases second with ⟨tail, rfl⟩
  exact apart tail colon.symm rfl

theorem beforeColons?_eq_some_iff :
    beforeColons? text = some before ↔ BeforeFirstColons before text := by
  induction text using beforeColons?.induct generalizing before with
  | case1 tail =>
      rw [beforeColons?, Option.some.injEq, beforeFirstColons_colons_iff]
      exact eq_comm
  | case2 => exact iff_of_false (Option.some_ne_none _).symm not_beforeFirstColons_nil
  | case3 character rest apart inductionHypothesis =>
      rw [beforeColons?.eq_3 character rest apart, Option.map_eq_some_iff,
        beforeFirstColons_cons_iff (not_starts_colons apart)]
      exact exists_congr fun others => and_congr_left' inductionHypothesis

instance (before text : List Char) : Decidable (BeforeFirstColons before text) :=
  decidable_of_iff (beforeColons? text = some before) beforeColons?_eq_some_iff

theorem beforeColons?_eq_none_iff : beforeColons? text = none ↔ ¬ colons <:+: text := by
  induction text using beforeColons?.induct with
  | case1 tail =>
      refine iff_of_false (Option.some_ne_none _) (not_not.mpr ?_)
      exact (List.prefix_append colons tail).isInfix
  | case2 => exact iff_of_true rfl (by decide)
  | case3 character rest apart inductionHypothesis =>
      rw [beforeColons?.eq_3 character rest apart, Option.map_eq_none_iff, inductionHypothesis,
        List.infix_cons_iff, or_iff_right (not_starts_colons apart)]

/-- What stands in front of the first double colon has none inside. -/
theorem BeforeFirstColons.colonsFree (stands : BeforeFirstColons before text) :
    ¬ colons <:+: before := by
  rintro ⟨front, behind, inside⟩
  have further : front ++ colons <+: text := by
    calc
      front ++ colons <+: front ++ colons ++ behind := List.prefix_append _ _
      _ <+: text := by
        rw [inside]
        exact (List.prefix_append before colons).trans stands.found
  have bound := stands.first front further
  rw [← inside, List.length_append, List.length_append] at bound
  have two : colons.length = 2 := rfl
  omega

/-- Where no colon stands in front of a double colon, it is the first one. -/
theorem beforeFirstColons_of_not_mem (plain : ':' ∉ before) :
    BeforeFirstColons before (before ++ colons ++ rest) := by
  refine ⟨List.prefix_append _ _, ?_⟩
  intro other further
  by_contra shorter
  -- A double colon further in front would put its first colon into `before`.
  have reaches : other ++ [':'] <+: other ++ colons := (List.prefix_append_right_inj other).mpr
    (List.prefix_append [':'] [':'])
  have inside : other ++ [':'] <+: before := by
    apply List.prefix_of_prefix_length_le (reaches.trans further)
    · rw [List.append_assoc]
      exact List.prefix_append _ _
    · rw [List.length_append, List.length_singleton]
      omega
  exact plain (inside.subset (List.mem_append_right other (List.mem_singleton_self ':')))

end Places

/-! ## Origins -/

theorem origin_of_colonsFree {target : String} (none : ¬ colons <:+: target.toList) :
    origin target = target := by
  rw [origin, beforeColons?_eq_none_iff.mpr none]
  rfl

theorem origin_of_beforeFirstColons {target before : String}
    (stands : BeforeFirstColons before.toList target.toList) :
    origin target = if before = "user" then target else before := by
  rw [origin, beforeColons?_eq_some_iff.mpr stands, Option.map_some, String.ofList_toList]

theorem exists_beforeFirstColons_iff {target : String} :
    (∃ before : String, BeforeFirstColons before.toList target.toList) ↔
      colons <:+: target.toList := by
  constructor
  · rintro ⟨before, stands⟩
    exact (List.suffix_append _ _).isInfix.trans stands.found.isInfix
  · intro listed
    cases cut : beforeColons? target.toList with
    | none => exact absurd listed (beforeColons?_eq_none_iff.mp cut)
    | some part =>
        refine ⟨String.ofList part, ?_⟩
        rw [String.toList_ofList]
        exact beforeColons?_eq_some_iff.mp cut

/-- A target is shown whole, or else up to its first double colon. -/
theorem origin_cases (target : String) :
    origin target = target ∨ BeforeFirstColons (origin target).toList target.toList := by
  by_cases listed : colons <:+: target.toList
  · rcases exists_beforeFirstColons_iff.mpr listed with ⟨before, stands⟩
    rw [origin_of_beforeFirstColons stands]
    by_cases library : before = "user"
    · exact .inl (if_pos library)
    · rw [if_neg library]
      exact .inr stands
  · exact .inl (origin_of_colonsFree listed)

theorem origin_isPrefix (target : String) : (origin target).toList <+: target.toList := by
  rcases origin_cases target with whole | stands
  · rw [whole]
  · exact (List.prefix_append _ _).trans stands.found

theorem colonsFree_origin {target : String} (shortened : origin target ≠ target) :
    ¬ colons <:+: (origin target).toList :=
  ((origin_cases target).resolve_left shortened).colonsFree

theorem origin_origin (target : String) : origin (origin target) = origin target := by
  by_cases whole : origin target = target
  · rw [whole, whole]
  · exact origin_of_colonsFree (colonsFree_origin whole)

theorem origin_append_colons {program : String} (plain : ':' ∉ program.toList)
    (behind : String) :
    origin (program ++ "::" ++ behind) =
      if program = "user" then program ++ "::" ++ behind else program := by
  apply origin_of_beforeFirstColons
  rw [String.toList_append, String.toList_append]
  exact beforeFirstColons_of_not_mem plain

/-- Targets inside the library are shown whole. -/
theorem origin_library (behind : String) : origin ("user::" ++ behind) = "user::" ++ behind := by
  have plain : ':' ∉ "user".toList := by decide
  exact (origin_append_colons plain behind).trans (if_pos rfl)

theorem origin_of_not_mem {program : String} (plain : ':' ∉ program.toList) :
    origin program = program := by
  apply origin_of_colonsFree
  intro listed
  exact plain (listed.subset (List.mem_cons_self ..))

/-- The origin is the part before the first double colon, or the whole target
where there is no such part or where it is `user`.  It follows that an origin is
its own origin, that all targets of one program have one origin, and that the
targets of the library keep theirs apart. -/
theorem origin_ends_at_first_colons :
    (∀ target : String, ¬ colons <:+: target.toList → origin target = target) ∧
    (∀ target before : String, BeforeFirstColons before.toList target.toList →
      origin target = if before = "user" then target else before) ∧
    (∀ target : String, (∃ before : String, BeforeFirstColons before.toList target.toList) ↔
      colons <:+: target.toList) ∧
    (∀ target : String, origin (origin target) = origin target ∧
      (origin target).toList <+: target.toList ∧
      (origin target ≠ target → ¬ colons <:+: (origin target).toList)) ∧
    (∀ program : String, ':' ∉ program.toList → program ≠ "user" →
      origin program = program ∧
      ∀ behind : String, origin (program ++ "::" ++ behind) = program) ∧
    ∀ first second : String,
      origin ("user::" ++ first) = origin ("user::" ++ second) ↔
        "user::" ++ first = "user::" ++ second := by
  refine ⟨fun target => origin_of_colonsFree, fun target before => origin_of_beforeFirstColons,
    fun target => exists_beforeFirstColons_iff, ?_, ?_, ?_⟩
  · intro target
    exact ⟨origin_origin target, origin_isPrefix target, colonsFree_origin⟩
  · intro program plain other
    refine ⟨origin_of_not_mem plain, ?_⟩
    intro behind
    rw [origin_append_colons plain, if_neg other]
  · intro first second
    rw [origin_library, origin_library]

/-- Of three colons the first two count, a single one does not, and a program
may have a name that begins like that of the library. -/
theorem origin_of_three_colons :
    let single := "user:launch"
    let triple := "swap5:::pattern"
    let alike := "users"
    ¬ colons <:+: single.toList ∧ origin single = single ∧
      BeforeFirstColons "swap5".toList triple.toList ∧ origin triple = "swap5" ∧
      origin triple ≠ triple ∧ ¬ colons <:+: (origin triple).toList ∧
      ':' ∉ alike.toList ∧ alike ≠ "user" ∧ origin (alike ++ "::" ++ "main") = alike := by
  intro single triple alike
  rcases origin_ends_at_first_colons with ⟨whole, cut, _, shape, program, _⟩
  have none : ¬ colons <:+: single.toList := by decide
  have stands : BeforeFirstColons "swap5".toList triple.toList := by decide
  have source : origin triple = "swap5" := cut triple "swap5" stands
  have shortened : origin triple ≠ triple := by
    rw [source]
    decide
  have plain : ':' ∉ alike.toList := by decide
  have other : alike ≠ "user" := by decide
  exact ⟨none, whole single none, stands, source, shortened, (shape triple).2.2 shortened,
    plain, other, (program alike plain other).2 "main"⟩

end Log
end Userland
