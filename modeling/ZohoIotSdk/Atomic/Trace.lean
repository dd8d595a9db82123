import Mathlib.Data.List.Infix

/-!
# Properties of traces

`EachAfter P tr`: every event of the trace satisfies `P` together with the events before
it. The rules say how the property grows with the trace, one event or several at a time.
-/

namespace Atomic

variable {ε : Type} {P : List ε → ε → Prop}

/-- Every event of `tr` is related by `P` to the events before it. -/
def EachAfter (P : List ε → ε → Prop) (tr : List ε) : Prop :=
  ∀ before e, before ++ [e] <+: tr → P before e

@[simp] theorem eachAfter_nil : EachAfter P [] := by
  intro before e h
  have hnil := List.prefix_nil.mp h
  simp at hnil

/-- The induction step at the end of a trace: the last effect is judged after the rest. -/
@[simp] theorem eachAfter_snoc {tr : List ε} {e : ε} :
    EachAfter P (tr ++ [e]) ↔ EachAfter P tr ∧ P tr e := by
  constructor
  · intro h
    refine ⟨fun before e' hpre => ?_, h tr e (List.prefix_refl _)⟩
    exact h before e' (hpre.trans (List.prefix_append _ _))
  · intro h before e' hpre
    rcases List.prefix_concat_iff.mp hpre with heq | hpre'
    · obtain ⟨rfl, he⟩ := List.append_inj' heq rfl
      obtain rfl : e' = e := by simpa using he
      exact h.2
    · exact h.1 before e' hpre'

/-- A trace that is cut in two. -/
theorem eachAfter_append {tr es : List ε} :
    EachAfter P (tr ++ es) ↔ EachAfter P tr ∧ EachAfter (fun before => P (tr ++ before)) es := by
  induction es using List.reverseRecOn with
  | nil => simp
  | append_singleton es e ih =>
    rw [← List.append_assoc, eachAfter_snoc, ih, eachAfter_snoc, and_assoc]

/-- The induction step at the start of a trace. -/
theorem eachAfter_cons {e : ε} {es : List ε} :
    EachAfter P (e :: es) ↔ P [] e ∧ EachAfter (fun before => P (e :: before)) es := by
  have hfirst : EachAfter P [e] ↔ P [] e := by
    have hsnoc : EachAfter P ([] ++ [e]) ↔ EachAfter P [] ∧ P [] e := eachAfter_snoc
    simpa using hsnoc
  rw [← List.singleton_append, eachAfter_append, hfirst]
  rfl

/-- Several events at a time. -/
theorem EachAfter.append {tr es : List ε} (h : EachAfter P tr)
    (hes : ∀ before e after, es = before ++ e :: after → P (tr ++ before) e) :
    EachAfter P (tr ++ es) := by
  induction es using List.reverseRecOn with
  | nil => rwa [List.append_nil]
  | append_singleton es e ih =>
    rw [← List.append_assoc, eachAfter_snoc]
    refine ⟨ih fun before e' after heq => ?_, hes es e [] rfl⟩
    refine hes before e' (after ++ [e]) ?_
    rw [heq, List.append_assoc, List.cons_append]

/-- Events that satisfy the property wherever they stand. -/
theorem EachAfter.append_of_forall {tr es : List ε} (h : EachAfter P tr)
    (hes : ∀ e ∈ es, ∀ before, P before e) : EachAfter P (tr ++ es) := by
  refine h.append fun before e after heq => hes e ?_ _
  rw [heq]
  exact List.mem_append_right _ (List.mem_cons_self ..)

/-- Two properties that agree at every event of a trace. -/
theorem EachAfter.congr {Q : List ε → ε → Prop} {tr : List ε}
    (h : EachAfter (fun before e => P before e ↔ Q before e) tr) :
    EachAfter P tr ↔ EachAfter Q tr :=
  forall_congr' fun before => forall_congr' fun e => forall_congr' fun hpre => h before e hpre

/-- A test of every event of a trace together with the events before it. -/
def checkAfter (p : List ε → ε → Bool) (tr : List ε) : Bool :=
  (List.range tr.length).all fun i => tr[i]?.all (p (tr.take i))

/-- The executable check decides the property when its test is sound. -/
theorem eachAfter_of_check {p : List ε → ε → Bool} {tr : List ε} (h : checkAfter p tr = true)
    (hp : ∀ before e, p before e = true → P before e) : EachAfter P tr := by
  intro before e hpre
  rcases hpre with ⟨rest, rfl⟩
  have hlength : before.length < (before ++ [e] ++ rest).length := by simp
  have hcheck := List.all_eq_true.mp h before.length (List.mem_range.mpr hlength)
  simp only [List.append_assoc, List.take_left, List.singleton_append, List.getElem?_append_right,
    le_refl, Nat.sub_self, List.getElem?_cons_zero, Option.all_some] at hcheck
  exact hp before e hcheck

end Atomic
