import Mathlib.Data.List.Basic

/-!
# Topic filters

`isTopicMatched` of the embedded Paho library, which compares a filter with a topic name byte by
byte, and what it comes to for the levels between the separators.

`isTopicMatched_levels`: on a filter in correct format, level by level.
`isTopicMatched_iff`: where that differs from the rule of MQTT.
-/

namespace ZohoIotSdk.Paho

def slash : UInt8 := 47

def plus : UInt8 := 43

def hash : UInt8 := 35

/-- `isTopicMatched`, from `curf` and `curn` on. The filter ends with its C string, the name at its
length. -/
def isTopicMatched : List UInt8 → List UInt8 → Bool
  | [], name => name.isEmpty
  | _ :: _, [] => false
  | f :: filter, n :: name =>
    if n = slash ∧ f ≠ slash then false
    else if f ≠ plus ∧ f ≠ hash ∧ f ≠ n then false
    -- skip until the next separator
    else if f = plus then isTopicMatched filter (name.dropWhile (· ≠ slash))
    -- skip until the end of the name
    else if f = hash then isTopicMatched filter []
    else isTopicMatched filter name

/-! ## One byte of the filter -/

variable {f : UInt8} {filter name l : List UInt8}

/-- A byte that stands for itself. -/
def Literal (f : UInt8) : Prop := f ≠ plus ∧ f ≠ hash

/-- The empty filter matches the empty name only. -/
theorem isTopicMatched_nil : isTopicMatched [] name = true ↔ name = [] := by
  rw [isTopicMatched, List.isEmpty_iff]

/-- An ordinary character of the filter matches itself. -/
theorem isTopicMatched_cons (hf : Literal f) :
    isTopicMatched (f :: filter) name = true ↔
      ∃ rest, name = f :: rest ∧ isTopicMatched filter rest = true := by
  cases name with
  | nil => simp [isTopicMatched]
  | cons n name =>
    rw [isTopicMatched, if_neg (c := f = plus) hf.1, if_neg (c := f = hash) hf.2]
    by_cases heq : f = n
    · subst heq
      simp
    · have hne : ¬ n = f := fun h => heq h.symm
      simp [hf.1, hf.2, heq, hne]

/-- Bytes that stand for themselves. -/
theorem isTopicMatched_append (hl : ∀ f ∈ l, Literal f) :
    isTopicMatched (l ++ filter) name = true ↔
      ∃ rest, name = l ++ rest ∧ isTopicMatched filter rest = true := by
  induction l generalizing name with
  | nil => simp
  | cons f l ih =>
    rw [List.cons_append, isTopicMatched_cons (hl f (List.mem_cons_self ..))]
    simp only [ih fun g hg => hl g (List.mem_cons_of_mem f hg)]
    constructor
    · rintro ⟨_, rfl, rest, rfl, hrest⟩
      exact ⟨rest, rfl, hrest⟩
    · rintro ⟨rest, rfl, hrest⟩
      exact ⟨_, rfl, rest, rfl, hrest⟩

/-- A filter without wildcards is the name itself. -/
theorem isTopicMatched_of_literal (h : ∀ f ∈ filter, Literal f) :
    isTopicMatched filter name = true ↔ name = filter := by
  have hliteral := @isTopicMatched_append [] name filter h
  rw [List.append_nil] at hliteral
  rw [hliteral]
  constructor
  · rintro ⟨rest, rfl, hrest⟩
    rw [isTopicMatched_nil.mp hrest, List.append_nil]
  · rintro rfl
    exact ⟨[], (List.append_nil _).symm, rfl⟩

/-- A plus matches a level that is not empty. -/
theorem isTopicMatched_plus : isTopicMatched (plus :: filter) name = true ↔
    ∃ n rest, name = n :: rest ∧ n ≠ slash ∧
      isTopicMatched filter (rest.dropWhile (· ≠ slash)) = true := by
  cases name with
  | nil => simp [isTopicMatched]
  | cons n name =>
    have hplus : plus ≠ slash := by decide
    rw [isTopicMatched]
    by_cases hslash : n = slash
    · simp [hslash, hplus]
    · simp [hslash]

/-- A hash ends the filter and matches a rest that does not start with a slash. -/
theorem isTopicMatched_hash : isTopicMatched (hash :: filter) name = true ↔
    ∃ n rest, name = n :: rest ∧ n ≠ slash ∧ filter = [] := by
  cases name with
  | nil => simp [isTopicMatched]
  | cons n name =>
    have hslash : hash ≠ slash := by decide
    have hplus : hash ≠ plus := by decide
    have hend : isTopicMatched filter [] = true ↔ filter = [] := by
      cases filter <;> simp [isTopicMatched]
    rw [isTopicMatched]
    by_cases hn : n = slash
    · simp [hn, hslash]
    · simp [hn, hplus, hend]

/-! ## Levels -/

/-- The levels of a filter or of a name. -/
def levels (text : List UInt8) : List (List UInt8) := text.splitOn slash

/-- The text of some levels. -/
def joinLevels : List (List UInt8) → List UInt8
  | [] => []
  | [l] => l
  | l :: ls => l ++ slash :: joinLevels ls

/-- A level without separators is a wildcard or holds none. -/
def LevelFormat (l : List UInt8) : Prop :=
  slash ∉ l ∧ (l = [plus] ∨ l = [hash] ∨ ∀ f ∈ l, Literal f)

/-- The correct format: `+` and `#` are levels of their own, and `#` is the last one. -/
def FilterFormat (fs : List (List UInt8)) : Prop :=
  (∀ l ∈ fs, LevelFormat l) ∧ ∀ l ∈ fs.dropLast, l ≠ [hash]

/-- What `isTopicMatched` comes to: a wildcard takes a level that is not empty, and `#` takes what
follows that level as well. -/
def levelsMatched : List (List UInt8) → List (List UInt8) → Bool
  | [], ns => ns.isEmpty
  | _ :: _, [] => false
  | l :: fs, n :: ns =>
    if l = [hash] then !n.isEmpty
    else if l = [plus] then !n.isEmpty && levelsMatched fs ns
    else l == n && levelsMatched fs ns

/-- The rule of MQTT: `+` takes any level, and `#` any number of them. -/
def standardMatched : List (List UInt8) → List (List UInt8) → Bool
  | [], ns => ns.isEmpty
  | l :: fs, ns =>
    if l = [hash] then true
    else match ns with
      | [] => false
      | n :: ns => (l = [plus] || l == n) && standardMatched fs ns

variable {fs ns : List (List UInt8)}

/-- A text without slashes is one level. -/
theorem levels_of_notMem (h : slash ∉ l) : levels l = [l] := List.splitOn_eq_singleton h

/-- A slash ends the first level. -/
theorem levels_append_slash (h : slash ∉ l) : levels (l ++ slash :: name) = l :: levels name := by
  rw [levels, List.splitOn_append_cons_self, List.splitOn_eq_singleton h]
  rfl

/-- The first level of a text. -/
theorem levels_cases (text : List UInt8) :
    slash ∉ text ∧ levels text = [text] ∨
    ∃ n rest, slash ∉ n ∧ text = n ++ slash :: rest ∧ levels text = n :: levels rest := by
  by_cases hmem : slash ∈ text
  · obtain ⟨n, rest, rfl, hn⟩ := List.eq_append_cons_of_mem hmem
    exact .inr ⟨n, rest, hn, rfl, levels_append_slash hn⟩
  · exact .inl ⟨hmem, levels_of_notMem hmem⟩

theorem levels_ne_nil (text : List UInt8) : levels text ≠ [] := by
  rcases levels_cases text with ⟨-, h⟩ | ⟨n, rest, -, -, h⟩ <;> simp [h]

/-- Levels are joined by slashes. -/
theorem joinLevels_cons (l : List UInt8) (h : fs ≠ []) :
    joinLevels (l :: fs) = l ++ slash :: joinLevels fs := by
  cases fs with
  | nil => exact absurd rfl h
  | cons _ _ => rfl

/-- Every text is the text of its levels. -/
theorem joinLevels_levels (text : List UInt8) : joinLevels (levels text) = text := by
  induction h : text.length using Nat.strongRecOn generalizing text with
  | ind k ih =>
    rcases levels_cases text with ⟨-, hlevels⟩ | ⟨n, rest, -, rfl, hlevels⟩
    · rw [hlevels]
      rfl
    · have hlt : rest.length < k := by
        rw [← h, List.length_append, List.length_cons]
        omega
      rw [hlevels, joinLevels_cons n (levels_ne_nil rest), ih rest.length hlt rest rfl]

theorem ne_slash_of_mem (h : slash ∉ l) {n : UInt8} (hn : n ∈ l) : n ≠ slash := by
  rintro rfl
  exact h hn

/-- Skipping to the next slash skips one level. -/
theorem dropWhile_level (h : slash ∉ l) (name : List UInt8) :
    (l ++ slash :: name).dropWhile (· ≠ slash) = slash :: name := by
  rw [List.dropWhile_append_of_pos]
  · simp
  · intro n hn
    simpa using ne_slash_of_mem h hn

theorem dropWhile_last (h : slash ∉ l) : l.dropWhile (· ≠ slash) = [] := by
  have hdrop := @List.dropWhile_append_of_pos _ (fun n => decide (n ≠ slash)) l [] fun n hn =>
    decide_eq_true (ne_slash_of_mem h hn)
  rwa [List.append_nil] at hdrop

/-! ## Level by level -/

/-- A level that is no wildcard holds ordinary characters only. -/
theorem LevelFormat.literal (h : LevelFormat l) (hhash : l ≠ [hash]) (hplus : l ≠ [plus]) :
    ∀ f ∈ l, Literal f := by
  rcases h.2 with hl | hl | hl
  · exact absurd hl hplus
  · exact absurd hl hhash
  · exact hl

/-- A level that stands for itself, in front of others. -/
theorem isTopicMatched_literal (hl : ∀ f ∈ l, Literal f) :
    isTopicMatched (l ++ slash :: filter) name = true ↔
      ∃ rest, name = l ++ slash :: rest ∧ isTopicMatched filter rest = true := by
  have hslash : Literal slash := by
    constructor <;> decide
  simp only [isTopicMatched_append hl, isTopicMatched_cons hslash]
  constructor
  · rintro ⟨_, rfl, rest, rfl, hrest⟩
    exact ⟨rest, rfl, hrest⟩
  · rintro ⟨rest, rfl, hrest⟩
    exact ⟨_, rfl, rest, rfl, hrest⟩

/-- The levels that `+` takes. -/
theorem isTopicMatched_plus_last (hl : slash ∉ l) :
    isTopicMatched (plus :: filter) l = true ↔ l ≠ [] ∧ isTopicMatched filter [] = true := by
  rw [isTopicMatched_plus]
  cases l with
  | nil => simp
  | cons c l =>
    have hc : c ≠ slash := ne_slash_of_mem hl (List.mem_cons_self ..)
    have hdrop := dropWhile_last fun hmem => hl (List.mem_cons_of_mem c hmem)
    constructor
    · rintro ⟨_, _, heq, -, hrest⟩
      obtain ⟨rfl, rfl⟩ := List.cons.inj heq
      rw [hdrop] at hrest
      exact ⟨by simp, hrest⟩
    · rintro ⟨-, hrest⟩
      exact ⟨c, l, rfl, hc, by rwa [hdrop]⟩

/-- A plus matches the first level of the name. -/
theorem isTopicMatched_plus_level (hl : slash ∉ l) :
    isTopicMatched (plus :: filter) (l ++ slash :: name) = true ↔
      l ≠ [] ∧ isTopicMatched filter (slash :: name) = true := by
  rw [isTopicMatched_plus]
  cases l with
  | nil => simp
  | cons c l =>
    have hc : c ≠ slash := ne_slash_of_mem hl (List.mem_cons_self ..)
    have hdrop := dropWhile_level (fun hmem => hl (List.mem_cons_of_mem c hmem)) name
    rw [List.cons_append]
    constructor
    · rintro ⟨_, _, heq, -, hrest⟩
      obtain ⟨rfl, rfl⟩ := List.cons.inj heq
      rw [hdrop] at hrest
      exact ⟨by simp, hrest⟩
    · rintro ⟨-, hrest⟩
      exact ⟨c, l ++ slash :: name, rfl, hc, by rwa [hdrop]⟩

theorem isTopicMatched_slash : isTopicMatched (slash :: filter) (slash :: name) =
    isTopicMatched filter name := by
  have hplus : slash ≠ plus := by decide
  have hhash : slash ≠ hash := by decide
  rw [isTopicMatched]
  simp [hplus, hhash]

/-- A hash matches unless the first level is empty. -/
theorem isTopicMatched_hash_iff (hl : slash ∉ l) (hname : name = [] ∨ ∃ rest, name = slash :: rest) :
    isTopicMatched [hash] (l ++ name) = true ↔ l ≠ [] := by
  rw [isTopicMatched_hash]
  cases l with
  | nil =>
    rcases hname with rfl | ⟨rest, rfl⟩
    · simp
    · simp
  | cons c l =>
    have hc : c ≠ slash := ne_slash_of_mem hl (List.mem_cons_self ..)
    simp [hc]

theorem levelsMatched_nil (text : List UInt8) : levelsMatched [] (levels text) = false := by
  rw [levelsMatched, List.isEmpty_eq_false_iff]
  exact levels_ne_nil text

/-- The last level of a filter. -/
theorem isTopicMatched_last (hl : LevelFormat l) (name : List UInt8) :
    isTopicMatched l name = true ↔ levelsMatched [l] (levels name) = true := by
  rcases levels_cases name with ⟨hname, hlevels⟩ | ⟨n, rest, hn, rfl, hlevels⟩
  · have hnil : levelsMatched [] [] = true := rfl
    rw [hlevels, levelsMatched, hnil, Bool.and_true, Bool.and_true]
    split_ifs with hhash hplus
    · have hlast := isTopicMatched_hash_iff hname (.inl rfl)
      rw [List.append_nil] at hlast
      rw [hhash, hlast]
      simp
    · rw [hplus, isTopicMatched_plus_last hname]
      simp [isTopicMatched]
    · rw [isTopicMatched_of_literal (hl.literal hhash hplus), beq_iff_eq]
      exact eq_comm
  · rw [hlevels, levelsMatched, levelsMatched_nil, Bool.and_false, Bool.and_false]
    split_ifs with hhash hplus
    · rw [hhash, isTopicMatched_hash_iff hn (.inr ⟨rest, rfl⟩)]
      simp
    · rw [hplus, isTopicMatched_plus_level hn]
      simp [isTopicMatched]
    · rw [isTopicMatched_of_literal (hl.literal hhash hplus)]
      simp only [iff_false]
      rintro rfl
      exact hl.1 (by simp)

/-- The code matches level by level. -/
theorem isTopicMatched_levels (hformat : FilterFormat fs) (hne : fs ≠ []) (name : List UInt8) :
    isTopicMatched (joinLevels fs) name = true ↔ levelsMatched fs (levels name) = true := by
  induction fs generalizing name with
  | nil => exact absurd rfl hne
  | cons l fs ih =>
    have hl : LevelFormat l := hformat.1 l (List.mem_cons_self ..)
    by_cases hlast : fs = []
    · subst hlast
      exact isTopicMatched_last hl name
    · have hhash : l ≠ [hash] := by
        apply hformat.2 l
        rw [List.dropLast_cons_of_ne_nil hlast]
        exact List.mem_cons_self ..
      have hrest : FilterFormat fs := by
        refine ⟨fun m hm => hformat.1 m (List.mem_cons_of_mem l hm), fun m hm => hformat.2 m ?_⟩
        rw [List.dropLast_cons_of_ne_nil hlast]
        exact List.mem_cons_of_mem l hm
      have hnil : levelsMatched fs [] = false := by
        cases fs with
        | nil => exact absurd rfl hlast
        | cons _ _ => rfl
      rw [joinLevels_cons l hlast]
      rcases levels_cases name with ⟨hname, hlevels⟩ | ⟨n, rest, hn, rfl, hlevels⟩
      · -- the name ends in this level
        rw [hlevels, levelsMatched, if_neg hhash, hnil, Bool.and_false, Bool.and_false, ite_self]
        simp only [Bool.false_eq_true, iff_false]
        by_cases hplus : l = [plus]
        · rw [hplus, List.singleton_append, isTopicMatched_plus_last hname]
          simp [isTopicMatched]
        · rw [isTopicMatched_literal (hl.literal hhash hplus)]
          rintro ⟨rest, rfl, -⟩
          simp at hname
      · rw [hlevels, levelsMatched, if_neg hhash]
        split_ifs with hplus
        · rw [hplus, List.singleton_append, isTopicMatched_plus_level hn, isTopicMatched_slash,
            ih hrest hlast rest]
          simp
        · rw [isTopicMatched_literal (hl.literal hhash hplus), Bool.and_eq_true, beq_iff_eq,
            ← ih hrest hlast rest]
          constructor
          · rintro ⟨rest', heq, hmatched⟩
            have hlevel := congrArg levels heq
            rw [levels_append_slash hn, levels_append_slash hl.1] at hlevel
            obtain rfl := (List.cons.inj hlevel).1
            rw [List.append_cancel_left_eq, List.cons.injEq] at heq
            obtain ⟨-, rfl⟩ := heq
            exact ⟨rfl, hmatched⟩
          · rintro ⟨rfl, hmatched⟩
            exact ⟨rest, rfl, hmatched⟩

/-! ## The rule of MQTT -/

/-- Is there a level that is not empty where a wildcard stands? -/
def wildcardsFilled : List (List UInt8) → List (List UInt8) → Bool
  | [], _ => true
  | l :: fs, ns =>
    (if l = [plus] ∨ l = [hash] then ns.head?.any fun n => !n.isEmpty else true) &&
      wildcardsFilled fs ns.tail

/-- The match is the standard one with every wildcard filled. -/
theorem levelsMatched_eq (hhash : ∀ l ∈ fs.dropLast, l ≠ [hash]) (ns : List (List UInt8)) :
    levelsMatched fs ns = (standardMatched fs ns && wildcardsFilled fs ns) := by
  induction fs generalizing ns with
  | nil => simp [levelsMatched, standardMatched, wildcardsFilled]
  | cons l fs ih =>
    have hplus : plus ≠ hash := by decide
    by_cases hl : l = [hash]
    · have hlast : fs = [] := by
        by_contra hne
        apply hhash l _ hl
        rw [List.dropLast_cons_of_ne_nil hne]
        exact List.mem_cons_self ..
      subst hlast
      cases ns <;> simp [levelsMatched, standardMatched, wildcardsFilled, hl]
    · have hrest : ∀ m ∈ fs.dropLast, m ≠ [hash] := by
        intro m hm
        apply hhash m
        rw [List.dropLast_cons_of_ne_nil (fun hnil => by simp [hnil] at hm)]
        exact List.mem_cons_of_mem l hm
      cases ns with
      | nil => simp [levelsMatched, standardMatched, hl]
      | cons n ns =>
        rw [levelsMatched, standardMatched, wildcardsFilled, if_neg hl, if_neg hl, ih hrest ns]
        by_cases hlplus : l = [plus]
        · simp [hlplus, Bool.and_left_comm]
        · simp [hl, hlplus, Bool.and_assoc]

/-- On a filter in correct format, `isTopicMatched` says what the rule of MQTT says, except that it
needs a level that is not empty for every wildcard: `+` does not take an empty level, and `#`
takes neither an empty one nor the level above it. -/
theorem isTopicMatched_iff {filter : List UInt8} (hformat : FilterFormat (levels filter))
    (name : List UInt8) :
    isTopicMatched filter name = true ↔
      standardMatched (levels filter) (levels name) = true ∧
        wildcardsFilled (levels filter) (levels name) = true := by
  have hlevels := isTopicMatched_levels hformat (levels_ne_nil filter) name
  rw [joinLevels_levels] at hlevels
  rw [hlevels, levelsMatched_eq hformat.2, Bool.and_eq_true]

theorem isTopicMatched_one_level : isTopicMatched [97, 47, 43] [97, 47, 98] = true ↔
    standardMatched (levels [97, 47, 43]) (levels [97, 47, 98]) = true ∧
      wildcardsFilled (levels [97, 47, 43]) (levels [97, 47, 98]) = true := by
  have hletter : LevelFormat [97] := by simp [LevelFormat, Literal, slash, plus, hash]
  have hplus : LevelFormat [43] := by simp [LevelFormat, slash, plus, hash]
  have hformat : FilterFormat (levels [97, 47, 43]) := by
    rw [show levels [97, 47, 43] = [[97], [43]] by decide]
    exact ⟨by simp [hletter, hplus], by simp [hash]⟩
  exact isTopicMatched_iff hformat [97, 47, 98]

end ZohoIotSdk.Paho
