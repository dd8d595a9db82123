import ZohoIotSdk.CJson.RoundTrip

/-!
# Trees without two siblings of one name

`CJson.Distinct` says that nowhere in a tree two siblings have the same name without regard to
case; in an object a member without a name counts as one with an empty name, since it is
printed like that. Writing a member keeps it (`distinct_upsert`), and so does printing a tree
and parsing the text (`distinct_of_reread`).
-/

namespace ZohoIotSdk

/-- `P` holds of the item and of everything below it. -/
inductive CJson.Everywhere (P : CJson → Prop) : CJson → Prop
  | mk {j : CJson} (root : P j) (child : ∀ c ∈ j.child, c.Everywhere P) : Everywhere P j

theorem CJson.Everywhere.root {P : CJson → Prop} {j : CJson} (h : j.Everywhere P) : P j := by
  cases h with
  | mk root child => exact root

/-- What holds everywhere in a tree holds everywhere in its children. -/
theorem CJson.Everywhere.child {P : CJson → Prop} {j c : CJson} (h : j.Everywhere P)
    (hc : c ∈ j.child) : c.Everywhere P := by
  cases h with
  | mk root child => exact child c hc

/-- What holds everywhere in a tree still does after one member was written. -/
theorem CJson.Everywhere.upsert {P : CJson → Prop} {j : CJson} {name : CString}
    {new : Option CJson} {f : CJson → CJson} (h : j.Everywhere P)
    (hroot : P (j.upsert name new f)) (hnew : ∀ c ∈ new, c.Everywhere P)
    (hf : ∀ c, c.Everywhere P → (f c).Everywhere P) : (j.upsert name new f).Everywhere P := by
  refine .mk hroot fun c hc => ?_
  rw [child_upsert] at hc
  rcases Keyed.mem_upsert hc with hmem | hmem | ⟨d, hd, -, rfl⟩
  · exact h.child hmem
  · exact hnew c hmem
  · exact hf d (h.child hd)

/-! ## Siblings -/

/-- The key under which a child of an item of type `t` can clash with its siblings. -/
def siblingKey (t : CJsonType) (c : CJson) : Option CString :=
  if t = .object then some (lowerCase (c.string.getD [])) else c.key

/-- No two children have the same name. -/
def CJson.KeysDiffer (j : CJson) : Prop := (Keyed.keys (siblingKey j.type) j.child).Nodup

/-- Nowhere in the tree two siblings have the same name. -/
def CJson.Distinct (j : CJson) : Prop := j.Everywhere CJson.KeysDiffer

/-- A tree without children has no two members of one name. -/
theorem distinct_of_child_nil {j : CJson} (h : j.child = []) : j.Distinct := by
  refine .mk ?_ (by simp [h])
  simp [CJson.KeysDiffer, h, Keyed.keys]

/-- Naming the root changes nothing below it. -/
theorem CJson.Distinct.named {j : CJson} (h : j.Distinct) (name : CString) :
    (j.named name).Distinct := by
  refine .mk ?_ fun c hc => h.child (by rwa [CJson.child_named] at hc)
  have hroot := h.root
  unfold CJson.KeysDiffer at *
  rwa [CJson.type_named, CJson.child_named]

/-- For a name that is not empty, it is the name that counts. -/
theorem siblingKey_iff (t : CJsonType) {name : CString} (hname : name ≠ []) (c : CJson) :
    c.key = some (lowerCase name) ↔ siblingKey t c = some (lowerCase name) := by
  unfold siblingKey CJson.key
  split
  · cases c.string with
    | none => simp [lowerCase, eq_comm, hname]
    | some n => simp
  · rfl

/-- Replacing a member or adding one keeps the names distinct. -/
theorem distinct_upsert {j : CJson} {name : CString} {new : Option CJson} {f : CJson → CJson}
    (h : j.Distinct) (hname : name ≠ []) (hnew : ∀ c ∈ new, c.Distinct)
    (hnewKey : ∀ c ∈ new, c.key = some (lowerCase name)) (hf : ∀ c, c.Distinct → (f c).Distinct)
    (hkey : ∀ c, c.key = some (lowerCase name) → (f c).key = some (lowerCase name)) :
    (j.upsert name new f).Distinct := by
  refine CJson.Everywhere.upsert h ?_ hnew hf
  have hroot := h.root
  unfold CJson.KeysDiffer at *
  rw [type_upsert, child_upsert, Keyed.upsert_congr (siblingKey_iff j.type hname)]
  refine Keyed.nodup_keys_upsert (fun c hc => ?_) (fun c hc => ?_) hroot
  · exact (siblingKey_iff j.type hname c).mp (hnewKey c hc)
  · exact (siblingKey_iff j.type hname _).mp (hkey c ((siblingKey_iff j.type hname c).mpr hc))

/-! ## Names as C strings -/

/-- A C string has no NUL in it. -/
def IsCString (s : CString) : Prop := '\x00' ∉ s

/-- A text without a NUL is its own C string. -/
theorem IsCString.cstr_eq {s : CString} (h : IsCString s) : cstr s = s := by
  unfold cstr
  rw [List.takeWhile_eq_self_iff]
  intro c hc
  simp only [ne_eq, decide_eq_true_eq]
  rintro rfl
  exact h hc

/-- All names in the tree are C strings. -/
def CJson.CNames (j : CJson) : Prop := j.Everywhere fun c => ∀ n ∈ c.string, IsCString n

/-- A tree named by a C string has C names. -/
theorem CJson.CNames.named {j : CJson} (h : j.CNames) {name : CString} (hname : IsCString name) :
    (j.named name).CNames := by
  refine .mk ?_ fun c hc => h.child (by rwa [CJson.child_named] at hc)
  simpa using hname

/-- Replacing a member or adding one keeps the names C strings. -/
theorem cNames_upsert {j : CJson} {name : CString} {new : Option CJson} {f : CJson → CJson}
    (h : j.CNames) (hnew : ∀ c ∈ new, c.CNames) (hf : ∀ c, c.CNames → (f c).CNames) :
    (j.upsert name new f).CNames := by
  refine CJson.Everywhere.upsert h ?_ hnew hf
  rw [string_upsert]
  exact h.root

/-! ## Through the text -/

/-- Elements of an array have no names after the round trip either. -/
theorem rereadElements_keys {cs ds : List CJson} (h : RereadElements cs ds) :
    Keyed.keys (siblingKey .array) ds = [] := by
  induction cs generalizing ds with
  | nil => rw [show ds = [] from h]; rfl
  | cons c cs ih =>
    obtain ⟨d, ds', rfl, hstring, -, hrest⟩ := h
    have hnone : siblingKey .array d = none := by simp [siblingKey, CJson.key, hstring]
    rw [Keyed.keys, List.filterMap_cons_none hnone]
    exact ih hrest

/-- The members keep their names over the round trip. -/
theorem rereadMembers_keys {cs ds : List CJson} (h : RereadMembers cs ds)
    (hnames : ∀ c ∈ cs, c.CNames) :
    Keyed.keys (siblingKey .object) ds = Keyed.keys (siblingKey .object) cs := by
  induction cs generalizing ds with
  | nil => rw [show ds = [] from h]
  | cons c cs ih =>
    obtain ⟨d, ds', rfl, hstring, -, hrest⟩ := h
    have hcstring : IsCString (c.string.getD []) := by
      have hhere := (hnames c List.mem_cons_self).root
      cases hname : c.string with
      | none => simp [IsCString]
      | some n => exact hhere n (by simp [hname])
    have hkey : siblingKey .object d = siblingKey .object c := by
      simp [siblingKey, hstring, hcstring.cstr_eq]
    have hrest' := ih hrest fun c hc => hnames c (List.mem_cons_of_mem _ hc)
    unfold Keyed.keys at *
    simp only [List.filterMap_cons, hkey, hrest']

mutual

/-- A tree that has come back from its text. -/
theorem distinct_of_reread : ∀ {j j' : CJson}, Reread j j' → j.Distinct → j.CNames → j'.Distinct
  | .mk t v d n cs, j', h, hdistinct, hnames => by
    cases t
    case object =>
      obtain ⟨htype, hmembers⟩ := h
      refine .mk ?_ (distinct_of_rereadMembers hmembers (fun _ => hdistinct.child)
        fun _ => hnames.child)
      rw [CJson.KeysDiffer, htype, rereadMembers_keys hmembers fun _ => hnames.child]
      exact hdistinct.root
    case array =>
      obtain ⟨htype, helements⟩ := h
      refine .mk ?_ (distinct_of_rereadElements helements (fun _ => hdistinct.child)
        fun _ => hnames.child)
      rw [CJson.KeysDiffer, htype, rereadElements_keys helements]
      exact List.nodup_nil
    all_goals exact distinct_of_child_nil h.2

/-- The elements read back are distinct when the printed ones are. -/
theorem distinct_of_rereadElements : ∀ {cs ds : List CJson}, RereadElements cs ds →
    (∀ c ∈ cs, c.Distinct) → (∀ c ∈ cs, c.CNames) → ∀ d ∈ ds, d.Distinct
  | [], ds, h, _, _ => by
    rw [show ds = [] from h]
    simp
  | c :: cs, _, ⟨d, ds, rfl, _, hd, hrest⟩, hdistinct, hnames => by
    refine List.forall_mem_cons.mpr ⟨?_, ?_⟩
    · exact distinct_of_reread hd (hdistinct c List.mem_cons_self) (hnames c List.mem_cons_self)
    · exact distinct_of_rereadElements hrest
        (fun c hc => hdistinct c (List.mem_cons_of_mem _ hc))
        fun c hc => hnames c (List.mem_cons_of_mem _ hc)

/-- The members read back are distinct when the printed ones are. -/
theorem distinct_of_rereadMembers : ∀ {cs ds : List CJson}, RereadMembers cs ds →
    (∀ c ∈ cs, c.Distinct) → (∀ c ∈ cs, c.CNames) → ∀ d ∈ ds, d.Distinct
  | [], ds, h, _, _ => by
    rw [show ds = [] from h]
    simp
  | c :: cs, _, ⟨d, ds, rfl, _, hd, hrest⟩, hdistinct, hnames => by
    refine List.forall_mem_cons.mpr ⟨?_, ?_⟩
    · exact distinct_of_reread hd (hdistinct c List.mem_cons_self) (hnames c List.mem_cons_self)
    · exact distinct_of_rereadMembers hrest
        (fun c hc => hdistinct c (List.mem_cons_of_mem _ hc))
        fun c hc => hnames c (List.mem_cons_of_mem _ hc)

end

end ZohoIotSdk
