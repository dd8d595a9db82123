import ZohoIotSdk.Staging.Writes

/-!
# Writes that do not disturb each other

Two paths are apart if, without regard to case, neither is a prefix of the other. A write to
one of them leaves what is found at the other as it is, and two such writes can be made in
either order (`writes_apart`): the trees are the same up to the order of the members and the
case of their names.
-/

namespace ZohoIotSdk

open Atomic (Prog)

/-! ## Paths -/

/-- The path is a prefix of the other one, without regard to case. -/
def PathPrefix (p q : List CString) : Prop := p.map lowerCase <+: q.map lowerCase

/-- Neither path is a prefix of the other. -/
structure Apart (p q : List CString) : Prop where
  left : ¬ PathPrefix p q
  right : ¬ PathPrefix q p

/-- Being apart is symmetric. -/
theorem Apart.symm {p q : List CString} (h : Apart p q) : Apart q p := ⟨h.right, h.left⟩

theorem not_apart_nil {q : List CString} : ¬ Apart [] q := fun h => h.left (List.nil_prefix)

/-- Paths that begin alike are apart after that. -/
theorem Apart.of_cons {n m : CString} {p q : List CString} (h : Apart (n :: p) (m :: q))
    (hname : lowerCase n = lowerCase m) : Apart p q := by
  have hcons : ∀ {n m : CString} {p q : List CString}, lowerCase n = lowerCase m →
      PathPrefix p q → PathPrefix (n :: p) (m :: q) := by
    intro n m p q hname hprefix
    unfold PathPrefix at *
    rw [List.map_cons, List.map_cons, hname]
    exact (List.prefix_cons_inj _).mpr hprefix
  exact ⟨fun hpq => h.left (hcons hname hpq), fun hqp => h.right (hcons hname.symm hqp)⟩

/-- Paths that are apart are not empty. -/
theorem Apart.ne_nil {p q : List CString} (h : Apart p q) : p ≠ [] := by
  rintro rfl
  exact not_apart_nil h

/-! ## What is found elsewhere -/

/-- Nothing is found below an item without children. -/
theorem findAt_of_child_nil {q : List CString} (hq : q ≠ []) {item : CJson}
    (hitem : item.child = []) : findAt q item = none := by
  cases q with
  | nil => exact absurd rfl hq
  | cons m q => simp [findAt, cJSONGetObjectItem, hitem]

/-- A write is not seen at a path apart from its own. -/
theorem findAt_writeAt {item : Option CJson} {p q : List CString} (h : Apart p q) (tree : CJson) :
    findAt q (writeAt item p tree) = findAt q tree := by
  induction p generalizing q tree with
  | nil => exact absurd h not_apart_nil
  | cons n p ih =>
    cases q with
    | nil => exact absurd h.symm not_apart_nil
    | cons m q =>
      rw [findAt, findAt]
      by_cases hname : lowerCase m = lowerCase n
      · have hrest := h.of_cons hname.symm
        rw [writeAt_cons _ _ hrest.ne_nil, cJSONGetObjectItem_upsert hname
          (by simp [writeAt_key]) (fun c h => by rw [writeAt_key, h])]
        have hnew : findAt q (cJSONCreateObject.named n) = none :=
          findAt_of_child_nil hrest.symm.ne_nil rfl
        cases cJSONGetObjectItem tree m with
        | none => simp [ih hrest, hnew]
        | some next => simp [ih hrest]
      · obtain ⟨new, f, hwrite⟩ := writeAt_writesMember item n p
        rw [hwrite.upsert, cJSONGetObjectItem_upsert_of_ne hname hwrite.new_key hwrite.key]

/-! ## Either order -/

/-- The same tree up to the order of the members and the case of their names. -/
inductive SameTree : CJson → CJson → Prop
  | mk {t : CJsonType} {v : Option CString} {d : Double} {n n' : Option CString}
      {cs ds cs' : List CJson} (name : n.map lowerCase = n'.map lowerCase) (order : cs.Perm ds)
      (children : List.Forall₂ SameTree ds cs') : SameTree (.mk t v d n cs) (.mk t v d n' cs')

mutual

theorem SameTree.refl : ∀ j : CJson, SameTree j j
  | .mk _ _ _ _ cs => .mk rfl (.refl cs) (sameTrees_refl cs)

/-- A list of trees is the same as itself. -/
theorem sameTrees_refl : ∀ cs : List CJson, List.Forall₂ SameTree cs cs
  | [] => .nil
  | c :: cs => .cons (SameTree.refl c) (sameTrees_refl cs)

end

/-- Trees are the same when their children are, up to the order. -/
theorem SameTree.of_child {tree : CJson} {cs ds cs' : List CJson} (order : cs.Perm ds)
    (children : List.Forall₂ SameTree ds cs') :
    SameTree (tree.withChild cs) (tree.withChild cs') := by
  cases tree
  exact .mk rfl order children

/-- Names that differ in case only keep trees the same. -/
theorem SameTree.named {j j' : CJson} (h : SameTree j j') {n n' : CString}
    (hname : lowerCase n = lowerCase n') : SameTree (j.named n) (j'.named n') := by
  cases h with
  | mk name order children => exact .mk (by simp [hname]) order children

/-- The name of the root does not matter for a write. -/
theorem writeAt_named (item : Option CJson) (p : List CString) (name : CString) (tree : CJson) :
    writeAt item p (tree.named name) = (writeAt item p tree).named name := by
  cases p with
  | nil => rfl
  | cons n p =>
    obtain ⟨new, f, hwrite⟩ := writeAt_writesMember item n p
    rw [hwrite.upsert, hwrite.upsert]
    cases tree
    rfl

/-- Writes at paths that are apart commute up to the order of the members. -/
theorem writeAt_comm {item item' : Option CJson} {p q : List CString} (h : Apart p q)
    (tree : CJson) : SameTree (writeAt item p (writeAt item' q tree))
      (writeAt item' q (writeAt item p tree)) := by
  induction p generalizing q tree with
  | nil => exact absurd h not_apart_nil
  | cons n p ih =>
    cases q with
    | nil => exact absurd h.symm not_apart_nil
    | cons m q =>
      by_cases hname : lowerCase m = lowerCase n
      · -- both writes go to the same member, and commute there
        have hrest := h.of_cons hname.symm
        have hnew : SameTree (writeAt item p (writeAt item' q (cJSONCreateObject.named m)))
            (writeAt item' q (writeAt item p (cJSONCreateObject.named n))) := by
          simp only [writeAt_named]
          exact (ih hrest _).named hname
        simp only [writeAt_cons _ _ hrest.ne_nil, writeAt_cons _ _ hrest.symm.ne_nil, CJson.upsert,
          withChild_withChild, CJson.child_withChild, hname]
        rw [Keyed.upsert_upsert (by simp [writeAt_key, hname]) (fun c h => by rw [writeAt_key, h]),
          Keyed.upsert_upsert (by simp [writeAt_key]) (fun c h => by rw [writeAt_key, h])]
        exact .of_child (.refl _)
          (Keyed.forall₂_upsert .refl (.some hnew) fun c _ => ih hrest c)
      · obtain ⟨new, f, hwrite⟩ := writeAt_writesMember item n p
        obtain ⟨new', f', hwrite'⟩ := writeAt_writesMember item' m q
        simp only [hwrite.upsert, hwrite'.upsert, CJson.upsert, withChild_withChild,
          CJson.child_withChild]
        exact .of_child (Keyed.upsert_comm (Ne.symm hname) hwrite.new_key hwrite.key
          hwrite'.new_key hwrite'.key) (sameTrees_refl _)

/-! ## The calls -/

/-- Whether a write is accepted does not depend on what is staged. -/
theorem accepted_written {w v : TelemetryWrite} {s : Sdk} :
    w.Accepted (s.written v) ↔ w.Accepted s :=
  ⟨fun h => ⟨h.state, h.key⟩, fun h => ⟨h.state, h.key⟩⟩

/-- An accepted write stages its value. -/
theorem write_of_accepted {w : TelemetryWrite} {s s' : Sdk} {rc : ℤ} {es : List Effect}
    (h : w.prog.Exec s rc es s') (haccepted : w.Accepted s) : s' = s.written w := by
  rcases write_cases h with ⟨hrefused, -⟩ | ⟨-, hwritten⟩
  · exact absurd haccepted hrefused
  · exact hwritten

/-- A refused write changes nothing. -/
theorem write_of_refused {w : TelemetryWrite} {s s' : Sdk} {rc : ℤ} {es : List Effect}
    (h : w.prog.Exec s rc es s') (hrefused : ¬ w.Accepted s) : s' = s := by
  rcases write_cases h with ⟨-, hsame, -⟩ | ⟨haccepted, -⟩
  · exact hsame
  · exact absurd haccepted hrefused

/-- For every client and every two calls that put a value into its telemetry, with paths that
are apart: the first leaves what is found at the path of the second as it is, and in either
order they give the same tree, up to the order of the members and the case of their names. -/
theorem writes_apart (w v : TelemetryWrite) (h : Apart w.path v.path) (s : Sdk) :
    (∀ rc es s', w.prog.Exec s rc es s' →
      s'.client.messageData.bind (findAt v.path) = s.client.messageData.bind (findAt v.path)) ∧
    ∀ rc₁ es₁ s₁ rc₂ es₂ s₂ rc₃ es₃ s₃ rc₄ es₄ s₄,
      w.prog.Exec s rc₁ es₁ s₁ → v.prog.Exec s₁ rc₂ es₂ s₂ →
      v.prog.Exec s rc₃ es₃ s₃ → w.prog.Exec s₃ rc₄ es₄ s₄ →
      Option.Rel SameTree s₂.client.messageData s₄.client.messageData := by
  constructor
  · intro rc es s' hexec
    rcases write_cases hexec with ⟨-, rfl, -⟩ | ⟨-, rfl⟩
    · rfl
    · rw [Sdk.written, Option.bind_some, findAt_writeAt h]
      cases s.client.messageData with
      | none => exact findAt_of_child_nil h.symm.ne_nil rfl
      | some tree => rfl
  · intro rc₁ es₁ s₁ rc₂ es₂ s₂ rc₃ es₃ s₃ rc₄ es₄ s₄ hw hwv hv hvw
    have hrefl : ∀ data : Option CJson, Option.Rel SameTree data data := by
      intro data
      cases data with
      | none => exact .none
      | some tree => exact .some (.refl tree)
    by_cases haccepted : w.Accepted s
    · obtain rfl := write_of_accepted hw haccepted
      by_cases haccepted' : v.Accepted s
      · obtain rfl := write_of_accepted hwv (accepted_written.mpr haccepted')
        obtain rfl := write_of_accepted hv haccepted'
        obtain rfl := write_of_accepted hvw (accepted_written.mpr haccepted)
        exact .some (writeAt_comm h.symm _)
      · obtain rfl := write_of_refused hwv (mt accepted_written.mp haccepted')
        obtain rfl := write_of_refused hv haccepted'
        obtain rfl := write_of_accepted hvw haccepted
        exact hrefl _
    · obtain rfl := write_of_refused hw haccepted
      by_cases haccepted' : v.Accepted s₁
      · obtain rfl := write_of_accepted hwv haccepted'
        obtain rfl := write_of_accepted hv haccepted'
        obtain rfl := write_of_refused hvw (mt accepted_written.mp haccepted)
        exact hrefl _
      · obtain rfl := write_of_refused hwv haccepted'
        obtain rfl := write_of_refused hv haccepted'
        obtain rfl := write_of_refused hvw haccepted
        exact hrefl _

/-- Two values below one asset, whose name is written in two ways. -/
theorem writes_apart_siblings : ∃ (w v : TelemetryWrite) (s s' : Sdk),
    w = .number (some "x".toList) (.ofInt 1) (some "a".toList) ∧
    v = .string (some "y".toList) (some "on".toList) (some "A".toList) ∧
    (∃ es₁ s₁ es₂, w.prog.Exec sampleSdk zsuccess es₁ s₁ ∧ v.prog.Exec s₁ zsuccess es₂ s) ∧
    (∃ es₁ s₁ es₂, v.prog.Exec sampleSdk zsuccess es₁ s₁ ∧ w.prog.Exec s₁ zsuccess es₂ s') ∧
    Option.Rel SameTree s.client.messageData s'.client.messageData := by
  have hapart : Apart
      (TelemetryWrite.number (some "x".toList) (.ofInt 1) (some "a".toList)).path
      (TelemetryWrite.string (some "y".toList) (some "on".toList) (some "A".toList)).path := by
    constructor
    · unfold PathPrefix
      decide +kernel
    · unfold PathPrefix
      decide +kernel
  obtain ⟨es₁, hw⟩ := exists_write (.number (some "x".toList) (.ofInt 1) (some "a".toList))
    sampleSdk (by decide +kernel)
  obtain ⟨es₂, hwv⟩ := exists_write (.string (some "y".toList) (some "on".toList) (some "A".toList))
    (sampleSdk.written (.number (some "x".toList) (.ofInt 1) (some "a".toList))) (by decide +kernel)
  obtain ⟨es₃, hv⟩ := exists_write (.string (some "y".toList) (some "on".toList) (some "A".toList))
    sampleSdk (by decide +kernel)
  obtain ⟨es₄, hvw⟩ := exists_write (.number (some "x".toList) (.ofInt 1) (some "a".toList))
    (sampleSdk.written (.string (some "y".toList) (some "on".toList) (some "A".toList)))
    (by decide +kernel)
  exact ⟨_, _, _, _, rfl, rfl, ⟨es₁, _, es₂, hw, hwv⟩, ⟨es₃, _, es₄, hv, hvw⟩,
    (writes_apart _ _ hapart sampleSdk).2 _ _ _ _ _ _ _ _ _ _ _ _ hw hwv hv hvw⟩

end ZohoIotSdk
